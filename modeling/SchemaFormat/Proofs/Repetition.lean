import SchemaFormat.Proofs.Collection
import SchemaFormat.Proofs.FilePlace

/-!
How often a file is collected.

Targets are taken as they are given, one after the other, and each stands for a path at most once.
So a path occurs as often as targets stand for it (`count_files`), and it occurs twice where a
target is repeated or stands for what another one stands for as well (`files_repeat`). Without
links, what a target stands for lies at the place to which the target leads or below it, each path
at a place of its own. So targets of which none leads to or below another's place stand for
different files (`files_once`).
-/

namespace SchemaFormat

namespace FileSystem

variable {fs : FileSystem} {directory place : Location} {p : Path}

/-- No link stands anywhere. -/
def Linkless (fs : FileSystem) : Prop :=
  ∀ l held, fs.node? l ≠ some (.link held)

/-- Where a path leads. -/
def place? (fs : FileSystem) (directory : Location) (p : Path) : Option Location :=
  match fs.lookup true directory p with
  | .found place _ => some place
  | _ => none

theorem place?_eq_some_iff :
    fs.place? directory p = some place ↔
      ∃ node, fs.lookup true directory p = .found place node := by
  unfold place?
  cases fs.lookup true directory p <;> simp

/-- Without links, parts are followed at once. -/
theorem Linkless.exists_done (h : fs.Linkless) (directory : Location) (parts : List Name) :
    ∃ result, fs.reach true directory parts = .done result := by
  induction parts generalizing directory with
  | nil => exact ⟨_, rfl⟩
  | cons part rest ih =>
    cases fs.reach_cons_cases true directory part with
    | goesOn next _ hstep =>
      rw [hstep]
      exact ih next
    | tooLong _ hstep => exact ⟨_, hstep rest⟩
    | nothing _ hstep =>
      rw [hstep]
      split <;> exact ⟨_, rfl⟩
    | link held hnode _ => exact absurd hnode (h _ held)
    | final node _ _ _ hstep =>
      rw [hstep]
      split <;> exact ⟨_, rfl⟩

end FileSystem

namespace Collected

variable {fs : FileSystem} {directory place : Location} {target p q : Path} {targets : List Path}
  {e : Entry}

/-! ### What one target stands for -/

/-- A target leads to a directory, or it leads somewhere and stands for itself, or it stands for
nothing. -/
theorem files_ofTarget (fs : FileSystem) (directory : Location) (target : Path) :
    (∃ place, fs.lookup true directory target = .found place .directory) ∨
      (∃ place, fs.place? directory target = some place ∧
        (ofTarget fs directory target).files = [target]) ∨
      (ofTarget fs directory target).files = [] := by
  unfold FileSystem.place? ofTarget
  cases fs.lookup true directory target with
  | missing place slashed => exact .inr (.inr rfl)
  | failed fault => exact .inr (.inr rfl)
  | found place node =>
    cases node with
    | directory => exact .inl ⟨place, rfl⟩
    | file content => exact .inr (.inl ⟨place, rfl, rfl⟩)
    | program tool => exact .inr (.inl ⟨place, rfl, rfl⟩)
    | link held => exact .inr (.inr rfl)
    | device which => exact .inr (.inr rfl)

/-- A target stands for a path at most once. -/
theorem nodup_ofTarget (fs : FileSystem) (directory : Location) (target : Path) :
    (ofTarget fs directory target).files.Nodup := by
  rcases files_ofTarget fs directory target with ⟨place, hlookup⟩ | ⟨place, -, hfiles⟩ | hfiles
  · rw [ofTarget_of_lookup hlookup]
    exact nodup_pathBelow fs place target _
  · rw [hfiles]
    exact List.nodup_singleton target
  · rw [hfiles]
    exact List.nodup_nil

/-- **A path is collected as often as targets stand for it.** -/
theorem count_files (fs : FileSystem) (directory : Location) (targets : List Path) (p : Path) :
    (ofTargets fs directory targets).files.count p =
      targets.countP fun target => p ∈ (ofTarget fs directory target).files := by
  unfold ofTargets flatMap
  dsimp only
  induction targets with
  | nil => rfl
  | cons target targets ih =>
    have hcount := (nodup_ofTarget fs directory target).count (a := p)
    rw [List.flatMap_cons, List.count_append, ih, hcount, List.countP_cons]
    simp only [decide_eq_true_eq]
    exact Nat.add_comm _ _

/-! ### Where it lies -/

/-- Without links, a listed entry has a path that leads to it. -/
theorem place?_pathBelow (hlinks : fs.Linkless)
    (h : fs.lookup true directory target = .found place .directory) (he : e ∈ fs.below place)
    (hlists : Lists fs directory target e) :
    fs.place? directory (pathBelow target e.location) = some (place ++ e.location) := by
  obtain ⟨-, -, hfile, -⟩ := hlists
  have hnames := isName_of_mem_below he
  have hfits : (pathBelow target e.location).bytes.length ≤ FileSystem.maxPath := by
    by_contra hlong
    rw [isFile_of_long (Nat.lt_of_not_le hlong)] at hfile
    cases hfile
  obtain ⟨result, hreach⟩ := hlinks.exists_done place e.location
  have hlookup :=
    FileSystem.lookup_pathBelow_of_reach h hnames (FileSystem.mem_below_iff.mp he).1 hfits hreach
  rw [FileSystem.isFile, hlookup] at hfile
  rw [FileSystem.place?, hlookup]
  cases result with
  | missing found slashed => cases hfile
  | failed fault => cases hfile
  | found found node => exact congrArg some (FileSystem.eq_append_of_reach hnames hreach)

/-- So what a target stands for lies at the target's place or below it. -/
theorem exists_place? (hlinks : fs.Linkless) (hp : p ∈ (ofTarget fs directory target).files) :
    ∃ l names, fs.place? directory target = some l ∧ fs.place? directory p = some (l ++ names) := by
  rcases files_ofTarget fs directory target with ⟨place, hlookup⟩ | ⟨place, hplace, hfiles⟩ | hfiles
  · have htarget : fs.place? directory target = some place :=
      FileSystem.place?_eq_some_iff.mpr ⟨_, hlookup⟩
    rw [ofTarget_of_lookup hlookup] at hp
    obtain ⟨names, hnames, rfl⟩ := List.mem_map.mp hp
    obtain ⟨e, he, rfl⟩ := List.mem_map.mp hnames
    obtain ⟨he, hlists⟩ := List.mem_filter.mp he
    exact ⟨place, e.location, htarget,
      place?_pathBelow hlinks hlookup he (of_decide_eq_true hlists)⟩
  · rw [hfiles] at hp
    obtain rfl := List.mem_singleton.mp hp
    exact ⟨place, [], hplace, by rw [hplace, List.append_nil]⟩
  · rw [hfiles] at hp
    cases hp

/-- And each path at a place of its own. -/
theorem pairwise_place? (hlinks : fs.Linkless) (directory : Location) (target : Path) :
    (ofTarget fs directory target).files.Pairwise fun p q =>
      fs.place? directory p ≠ fs.place? directory q := by
  rcases files_ofTarget fs directory target with ⟨place, hlookup⟩ | ⟨place, -, hfiles⟩ | hfiles
  · rw [ofTarget_of_lookup hlookup]
    refine List.pairwise_map.mpr (List.Pairwise.imp_of_mem ?_ (pairwise_location fs place _))
    intro names others hnames hothers hlt heq
    obtain ⟨e, he, rfl⟩ := List.mem_map.mp hnames
    obtain ⟨d, hd, rfl⟩ := List.mem_map.mp hothers
    obtain ⟨he, helists⟩ := List.mem_filter.mp he
    obtain ⟨hd, hdlists⟩ := List.mem_filter.mp hd
    rw [place?_pathBelow hlinks hlookup he (of_decide_eq_true helists),
      place?_pathBelow hlinks hlookup hd (of_decide_eq_true hdlists)] at heq
    have hsame := List.append_cancel_left (Option.some.inj heq)
    rw [hsame] at hlt
    exact List.lt_irrefl _ hlt
  · rw [hfiles]
    exact List.pairwise_singleton _ target
  · rw [hfiles]
    exact List.Pairwise.nil

/-! ### Several targets -/

/-- One of two targets leads to where the other leads, or below it. -/
def Overlap (fs : FileSystem) (directory : Location) (target other : Path) : Prop :=
  ∃ l m, fs.place? directory target = some l ∧ fs.place? directory other = some m ∧
    (l <+: m ∨ m <+: l)

/-- What targets stand for that do not overlap lies at different places. -/
theorem place?_ne_of_not_overlap (hlinks : fs.Linkless) {other : Path}
    (h : ¬ Overlap fs directory target other) (hp : p ∈ (ofTarget fs directory target).files)
    (hq : q ∈ (ofTarget fs directory other).files) :
    fs.place? directory p ≠ fs.place? directory q := by
  obtain ⟨l, names, hl, hp⟩ := exists_place? hlinks hp
  obtain ⟨m, others, hm, hq⟩ := exists_place? hlinks hq
  intro heq
  rw [hp, hq] at heq
  have hsame : l ++ names = m ++ others := Option.some.inj heq
  apply h
  refine ⟨l, m, hl, hm, ?_⟩
  exact List.prefix_or_prefix_of_prefix (List.prefix_append l names)
    (hsame ▸ List.prefix_append m others)

/-- Paths that lead to different places do not lead to the same file. -/
theorem apart_of_place?_ne (h : fs.place? directory p ≠ fs.place? directory q) :
    fs.Apart directory p q := by
  have hplace {r : Path} {l : Location} (hr : fs.filePlace? directory r = some l) :
      fs.place? directory r = some l := by
    obtain ⟨content, hlookup⟩ := FileSystem.filePlace?_eq_some_iff.mp hr
    exact FileSystem.place?_eq_some_iff.mpr ⟨_, hlookup⟩
  cases hp : fs.filePlace? directory p with
  | none => exact .inl hp
  | some l =>
    right
    intro heq
    exact h ((hplace hp).trans (hplace (heq.symm.trans hp)).symm)

/-- **Only targets that overlap hand on a file twice.** A target stands for a path at most once, and
a path is collected as often as targets stand for it. Without links, if no target leads to where
another one leads or below it, then no path is collected twice and no two lead to the same place, so
that each file is written for one of them alone. -/
theorem files_once (fs : FileSystem) (hlinks : fs.Linkless) (directory : Location)
    (targets : List Path) :
    (∀ target, (ofTarget fs directory target).files.Nodup) ∧
      (∀ p, (ofTargets fs directory targets).files.count p =
        targets.countP fun target => p ∈ (ofTarget fs directory target).files) ∧
      (targets.Pairwise (fun target other => ¬ Overlap fs directory target other) →
        (ofTargets fs directory targets).files.Nodup ∧
        (ofTargets fs directory targets).files.Pairwise
          (fun p q => fs.place? directory p ≠ fs.place? directory q) ∧
        (ofTargets fs directory targets).files.Pairwise (fs.Apart directory)) := by
  refine ⟨nodup_ofTarget fs directory, count_files fs directory targets, ?_⟩
  intro hapart
  have hplaces : (ofTargets fs directory targets).files.Pairwise fun p q =>
      fs.place? directory p ≠ fs.place? directory q := by
    refine List.pairwise_flatMap.mpr ⟨fun target _ => pairwise_place? hlinks directory target, ?_⟩
    apply hapart.imp
    intro target other hnot p hp q hq
    exact place?_ne_of_not_overlap hlinks hnot hp hq
  refine ⟨hplaces.imp ?_, hplaces, hplaces.imp apart_of_place?_ne⟩
  rintro p q hne rfl
  exact hne rfl

theorem nestedModels_linkless : nestedModels.Linkless := by
  intro l held h
  have hnode := nestedModels_outline h
  simp [Node.outline] at hnode

/-- The directory and the model beside it stand for two files. -/
theorem files_once_nested :
    nestedModels.Linkless ∧
      (ofTargets nestedModels [] [Path.ofString "a", Path.ofString "a.prisma"]).files =
        [Path.ofString "a/b.prisma", Path.ofString "a.prisma"] ∧
      (ofTargets nestedModels [] [Path.ofString "a", Path.ofString "a.prisma"]).files.Nodup := by
  have ha : nestedModels.place? [] (Path.ofString "a") = some [Bytes.ofString "a"] := by
    decide +kernel
  have hmodel : nestedModels.place? [] (Path.ofString "a.prisma") =
      some [Bytes.ofString "a.prisma"] := by
    decide +kernel
  have hapart : ¬ Overlap nestedModels [] (Path.ofString "a") (Path.ofString "a.prisma") := by
    rintro ⟨l, m, hl, hm, hprefix⟩
    obtain rfl := Option.some.inj (ha.symm.trans hl)
    obtain rfl := Option.some.inj (hmodel.symm.trans hm)
    revert hprefix
    decide +kernel
  refine ⟨nestedModels_linkless, by decide +kernel, ?_⟩
  exact ((files_once nestedModels nestedModels_linkless [] _).2.2 (by simpa using hapart)).1

/-- **A target that is given twice stands for its file twice**, and so do a directory and a file in
it, also where no link stands anywhere. -/
theorem files_repeat :
    nestedModels.Linkless ∧
      ¬ (ofTargets nestedModels []
        [Path.ofString "a.prisma", Path.ofString "a.prisma"]).files.Nodup ∧
      ¬ (ofTargets nestedModels [] [Path.ofString "a", Path.ofString "a/b.prisma"]).files.Nodup :=
  ⟨nestedModels_linkless, by decide +kernel, by decide +kernel⟩

end Collected

end SchemaFormat
