import SchemaFormat.Proofs.FilePlace
import SchemaFormat.Proofs.PathBelow

/-!
What targets stand for.

A directory's entries are listed once each and in order (`mem_below_iff`, `pairwise_below`). So a
target that leads to a directory stands for the files below it, in order, and is at fault for
nothing but the directories below it whose paths are too long to be opened (`walked`). A target that
leads to a file stands for itself, and one that leads to neither is one fault
(`ofTargets_complete`).
-/

namespace SchemaFormat

namespace FileSystem

variable {fs : FileSystem} {l : Location} {e : Entry}

/-- What stands below a location are the nodes at further names. -/
theorem mem_below_iff :
    e ∈ fs.below l ↔ e.location ≠ [] ∧ fs.node? (l ++ e.location) = some e.node := by
  simp only [below, List.mem_filterMap, Option.ite_none_right_eq_some, Option.some.injEq,
    Bool.and_eq_true, decide_eq_true_eq, List.isPrefixOf_iff_prefix]
  constructor
  · rintro ⟨⟨location, node⟩, hentry, ⟨⟨names, rfl⟩, hlength⟩, rfl⟩
    obtain ⟨-, hnode⟩ := mem_entries_iff.mp hentry
    simp only [List.drop_left] at hnode ⊢
    refine ⟨?_, hnode⟩
    rintro rfl
    simp at hlength
  · rintro ⟨hne, hnode⟩
    refine ⟨⟨l ++ e.location, e.node⟩, mem_entries_iff.mpr ⟨by simp [hne], hnode⟩,
      ⟨List.prefix_append _ _, ?_⟩, by simp⟩
    have hpos := List.length_pos_iff.mpr hne
    simp only [List.length_append]
    omega

/-- Places below one location are in the order of the names that lead there from it. -/
theorem lt_of_append_lt {l a b : Location} (h : l ++ a < l ++ b) : a < b := by
  induction l with
  | nil => exact h
  | cons name l ih =>
    rw [List.cons_append, List.cons_append, List.cons_lt_cons_iff] at h
    rcases h with hlt | ⟨-, h⟩
    · exact absurd hlt (List.lt_irrefl name)
    · exact ih h

/-- What stands below a location is listed in order. -/
theorem pairwise_below (fs : FileSystem) (l : Location) :
    (fs.below l).Pairwise (·.location < ·.location) := by
  refine List.Pairwise.filterMap _ ?_ fs.sorted
  intro d d' hlt a ha b hb
  simp only [Option.ite_none_right_eq_some, Option.some.injEq, Bool.and_eq_true,
    List.isPrefixOf_iff_prefix] at ha hb
  obtain ⟨⟨⟨names, hnames⟩, -⟩, rfl⟩ := ha
  obtain ⟨⟨⟨names', hnames'⟩, -⟩, rfl⟩ := hb
  rw [← hnames, ← hnames'] at hlt ⊢
  simp only [List.drop_left]
  exact lt_of_append_lt hlt

end FileSystem

namespace Collected

variable {fs : FileSystem} {directory place : Location} {target : Path} {names : Location}
  {e : Entry}

/-! ### Entries below a target -/

/-- An entry is listed for a target: the directory around it can be opened, its path leads to a
file, and that has a language. -/
def Lists (fs : FileSystem) (directory : Location) (target : Path) (e : Entry) : Prop :=
  (pathBelow target e.location.dropLast).bytes.length ≤ FileSystem.maxPath ∧ e.node ≠ .directory ∧
    fs.isFile directory (pathBelow target e.location) = true ∧
    (Language.ofPath? (pathBelow target e.location)).isSome = true

/-- An entry is a directory whose path is too long, in one whose path is not. -/
def Unopened (target : Path) (e : Entry) : Prop :=
  (pathBelow target e.location.dropLast).bytes.length ≤ FileSystem.maxPath ∧ e.node = .directory ∧
    FileSystem.maxPath < (pathBelow target e.location).bytes.length

instance (fs : FileSystem) (directory : Location) (target : Path) (e : Entry) :
    Decidable (Lists fs directory target e) :=
  inferInstanceAs (Decidable (_ ∧ _ ∧ _ ∧ _))

instance (target : Path) (e : Entry) : Decidable (Unopened target e) :=
  inferInstanceAs (Decidable (_ ∧ _ ∧ _))

def tooLong (p : Path) : FileFault :=
  .walk p ⟨p, .nameTooLong⟩

theorem ofEntry_eq (fs : FileSystem) (directory : Location) (target : Path) (e : Entry) :
    ofEntry fs directory target e =
      ⟨if Lists fs directory target e then [pathBelow target e.location] else [],
        if Unopened target e then [tooLong (pathBelow target e.location)] else []⟩ := by
  unfold ofEntry Lists Unopened tooLong
  dsimp only
  by_cases hlong : FileSystem.maxPath < (pathBelow target e.location.dropLast).bytes.length
  · simp [hlong, Nat.not_le.mpr hlong]
  by_cases hdirectory : e.node = .directory
  · by_cases hentry : FileSystem.maxPath < (pathBelow target e.location).bytes.length
    · simp [hlong, hdirectory, hentry, Nat.not_lt.mp hlong]
    · simp [hlong, hdirectory, hentry]
  · by_cases hfile : (fs.isFile directory (pathBelow target e.location) &&
        (Language.ofPath? (pathBelow target e.location)).isSome) = true
    · have hboth := Bool.and_eq_true_iff.mp hfile
      simp [hlong, hdirectory, hboth.1, hboth.2, Nat.not_lt.mp hlong]
    · have hnot : ¬ (fs.isFile directory (pathBelow target e.location) = true ∧
          (Language.ofPath? (pathBelow target e.location)).isSome = true) := by
        simpa using hfile
      simp [hlong, hdirectory, hfile, hnot]

/-- What parts add that add one thing or nothing. -/
theorem flatMap_ite {α β : Type} (p : α → Prop) [DecidablePred p] (f : α → β) (parts : List α) :
    (parts.flatMap fun a => if p a then [f a] else []) = (parts.filter p).map f := by
  induction parts with
  | nil => rfl
  | cons a parts ih =>
    rw [List.flatMap_cons, ih]
    by_cases ha : p a <;> simp [ha]

/-- A target that leads to a directory is listed entry by entry. -/
theorem ofTarget_of_lookup (h : fs.lookup true directory target = .found place .directory) :
    ofTarget fs directory target =
      ⟨(((fs.below place).filter (Lists fs directory target)).map Entry.location).map
          (pathBelow target),
        (((fs.below place).filter (Unopened target)).map Entry.location).map
          fun names => tooLong (pathBelow target names)⟩ := by
  rw [ofTarget, h]
  dsimp only
  simp only [flatMap, ofEntry_eq, flatMap_ite, List.map_map]
  rfl

/-- Names that lead to a file belong to a target that leads to a directory: the file is a regular
one, or a link that leads to one from the target, and its name has a language. -/
structure Belongs (fs : FileSystem) (directory place : Location) (target : Path)
    (names : Location) :
    Prop where
  nonempty : names ≠ []
  file : (∃ content, fs.node? (place ++ names) = some (.file content)) ∨
    (∃ tool, fs.node? (place ++ names) = some (.program tool)) ∨
    ∃ held, fs.node? (place ++ names) = some (.link held) ∧
      fs.isFile directory (pathBelow target names) = true
  language : (Language.ofPath? ⟨names.getLast nonempty⟩).isSome = true

theorem isName_of_mem_below (he : e ∈ fs.below place) : ∀ n ∈ e.location, isName n = true := by
  obtain ⟨-, hnode⟩ := FileSystem.mem_below_iff.mp he
  exact fun n hn => FileSystem.isName_of_node? hnode n (List.mem_append_right place hn)

/-- What is listed belongs to the target. -/
theorem belongs_of_lists (hdevices : ∀ l which, fs.node? l ≠ some (.device which))
    (he : e ∈ fs.below place) (hlists : Lists fs directory target e) :
    Belongs fs directory place target e.location := by
  obtain ⟨-, hdirectory, hfile, hlanguage⟩ := hlists
  obtain ⟨hne, hnode⟩ := FileSystem.mem_below_iff.mp he
  refine ⟨hne, ?_, by rwa [ofPath?_pathBelow (isName_of_mem_below he) hne] at hlanguage⟩
  cases hkind : e.node with
  | directory => exact absurd hkind hdirectory
  | file content => exact .inl ⟨content, hkind ▸ hnode⟩
  | program tool => exact .inr (.inl ⟨tool, hkind ▸ hnode⟩)
  | link held => exact .inr (.inr ⟨held, hkind ▸ hnode, hfile⟩)
  | device which => exact absurd (hkind ▸ hnode) (hdevices _ which)

/-- What belongs to the target is listed if it is within the limits of the system. -/
theorem lists_of_belongs (h : fs.lookup true directory target = .found place .directory)
    (hbelongs : Belongs fs directory place target names)
    (hfits : (pathBelow target names).bytes.length ≤ FileSystem.maxPath)
    (hshort : ∀ name ∈ names, name.length ≤ FileSystem.maxName) :
    ∃ e ∈ fs.below place, Lists fs directory target e ∧ e.location = names := by
  obtain ⟨hne, hfile, hlanguage⟩ := hbelongs
  obtain ⟨node, hnode, hdirectory, hpath⟩ : ∃ node, fs.node? (place ++ names) = some node ∧
      node ≠ .directory ∧ fs.isFile directory (pathBelow target names) = true := by
    rcases hfile with ⟨content, hnode⟩ | ⟨tool, hnode⟩ | ⟨held, hnode, hpath⟩
    · have hlookup := FileSystem.lookup_pathBelow h hnode hne hshort (by simp) hfits
      exact ⟨_, hnode, by simp, by rw [FileSystem.isFile, hlookup]⟩
    · have hlookup := FileSystem.lookup_pathBelow h hnode hne hshort (by simp) hfits
      exact ⟨_, hnode, by simp, by rw [FileSystem.isFile, hlookup]⟩
    · exact ⟨_, hnode, by simp, hpath⟩
  have he : (⟨names, node⟩ : Entry) ∈ fs.below place := FileSystem.mem_below_iff.mpr ⟨hne, hnode⟩
  have hnames := isName_of_mem_below he
  have haround := length_pathBelow_dropLast target hnames
  refine ⟨⟨names, node⟩, he, ⟨haround.trans hfits, hdirectory, hpath, ?_⟩, rfl⟩
  rw [ofPath?_pathBelow hnames hne]
  exact hlanguage

/-! ### Targets -/

/-- What a target that leads to a directory stands for: the paths to which `found` leads, each once
and in order, are those that belong to it and are within the limits of the system; and `unopened`,
in order as well, are the directories that are faults: those whose paths are not within the limits,
while the ones around them are. -/
structure Walked (fs : FileSystem) (directory place : Location) (target : Path)
    (found unopened : List Location) : Prop where
  collected : ofTarget fs directory target =
    ⟨found.map (pathBelow target), unopened.map fun names => tooLong (pathBelow target names)⟩
  sorted : found.Pairwise (· < ·)
  nodup : (found.map (pathBelow target)).Nodup
  sound : ∀ names ∈ found, Belongs fs directory place target names
  complete : ∀ names, Belongs fs directory place target names →
    (pathBelow target names).bytes.length ≤ FileSystem.maxPath →
    (∀ name ∈ names, name.length ≤ FileSystem.maxName) → names ∈ found
  sorted_unopened : unopened.Pairwise (· < ·)
  mem_unopened :
    ∀ names, names ∈ unopened ↔ names ≠ [] ∧ fs.node? (place ++ names) = some .directory ∧
    (pathBelow target names.dropLast).bytes.length ≤ FileSystem.maxPath ∧
    FileSystem.maxPath < (pathBelow target names).bytes.length

theorem pairwise_location (fs : FileSystem) (place : Location) (p : Entry → Bool) :
    (((fs.below place).filter p).map Entry.location).Pairwise (· < ·) :=
  List.pairwise_map.mpr ((FileSystem.pairwise_below fs place).filter p)

/-- Entries below a location make as many paths. -/
theorem nodup_pathBelow (fs : FileSystem) (place : Location) (target : Path) (p : Entry → Bool) :
    ((((fs.below place).filter p).map Entry.location).map (pathBelow target)).Nodup := by
  refine List.pairwise_map.mpr (List.Pairwise.imp_of_mem ?_ (pairwise_location fs place p))
  intro names others hnames hothers hlt heq
  obtain ⟨e, he, rfl⟩ := List.mem_map.mp hnames
  obtain ⟨d, hd, rfl⟩ := List.mem_map.mp hothers
  have he := List.mem_of_mem_filter he
  have hd := List.mem_of_mem_filter hd
  have hsame := pathBelow_injective (isName_of_mem_below he) (FileSystem.mem_below_iff.mp he).1
    (isName_of_mem_below hd) (FileSystem.mem_below_iff.mp hd).1 heq
  rw [hsame] at hlt
  exact List.lt_irrefl _ hlt

/-- **A target that leads to a directory is walked.** -/
theorem walked (h : fs.lookup true directory target = .found place .directory)
    (hdevices : ∀ l which, fs.node? l ≠ some (.device which)) :
    Walked fs directory place target
      (((fs.below place).filter (Lists fs directory target)).map Entry.location)
      (((fs.below place).filter (Unopened target)).map Entry.location) where
  collected := ofTarget_of_lookup h
  sorted := pairwise_location fs place _
  nodup := nodup_pathBelow fs place target _
  sound := by
    intro names hnames
    obtain ⟨e, he, rfl⟩ := List.mem_map.mp hnames
    obtain ⟨he, hlists⟩ := List.mem_filter.mp he
    exact belongs_of_lists hdevices he (of_decide_eq_true hlists)
  complete := by
    intro names hbelongs hfits hshort
    obtain ⟨e, he, hlists, rfl⟩ := lists_of_belongs h hbelongs hfits hshort
    exact List.mem_map_of_mem (List.mem_filter.mpr ⟨he, decide_eq_true hlists⟩)
  sorted_unopened := pairwise_location fs place _
  mem_unopened := by
    intro names
    simp only [List.mem_map, List.mem_filter, decide_eq_true_eq, FileSystem.mem_below_iff]
    constructor
    · rintro ⟨e, ⟨⟨hne, hnode⟩, haround, hdirectory, hlong⟩, rfl⟩
      exact ⟨hne, hdirectory ▸ hnode, haround, hlong⟩
    · rintro ⟨hne, hnode, haround, hlong⟩
      exact ⟨⟨names, .directory⟩, ⟨⟨hne, hnode⟩, haround, rfl, hlong⟩, rfl⟩

theorem ofTarget_of_isFile (h : fs.isFile directory target = true) :
    ofTarget fs directory target = ⟨[target], []⟩ := by
  rcases FileSystem.isFile_iff.mp h with ⟨place, content, hlookup⟩ | ⟨place, tool, hlookup⟩
  · rw [ofTarget, hlookup]
  · rw [ofTarget, hlookup]

/-- A target that leads neither to a file nor to a directory is one fault. -/
theorem ofTarget_of_neither (hfile : fs.isFile directory target = false)
    (hdirectory : ∀ place, fs.lookup true directory target ≠ .found place .directory)
    (hdevices : ∀ l which, fs.node? l ≠ some (.device which)) :
    ∃ cause, ofTarget fs directory target = ⟨[], [.walk target ⟨target, cause⟩]⟩ := by
  unfold FileSystem.isFile at hfile
  unfold ofTarget
  cases hlookup : fs.lookup true directory target with
  | missing place slashed => exact ⟨_, rfl⟩
  | failed cause => exact ⟨cause, rfl⟩
  | found place node =>
    rw [hlookup] at hfile
    cases node with
    | directory => exact absurd hlookup (hdirectory place)
    | file content => cases hfile
    | program tool => cases hfile
    | link held => exact absurd hlookup FileSystem.lookup_ne_link
    | device which =>
      rcases FileSystem.node?_of_lookup hlookup with hnode | hnode
      · cases hnode
      · exact absurd hnode (hdevices place which)

/-- **Targets stand for what each of them stands for, and none is dropped.** In a file system of
files, directories and links: what a list of targets stands for is what each one does, in the order
given. A target that leads to a file stands for itself. One that leads to a directory is walked: it
stands for the files that belong to it, each once, in the order of the names that lead to them, and
none is missing whose path and names are within the limits of the system; its only faults are
directories below it whose paths are not. Any other target is one fault. -/
theorem ofTargets_complete (fs : FileSystem) (directory : Location)
    (hdevices : ∀ l which, fs.node? l ≠ some (.device which)) :
    (∀ targets, (ofTargets fs directory targets).files =
        targets.flatMap (fun target => (ofTarget fs directory target).files) ∧
      (ofTargets fs directory targets).faults =
        targets.flatMap fun target => (ofTarget fs directory target).faults) ∧
    ∀ target,
      (fs.isFile directory target = true → ofTarget fs directory target = ⟨[target], []⟩) ∧
      (∀ place, fs.lookup true directory target = .found place .directory →
        ∃ found unopened, Walked fs directory place target found unopened) ∧
      (fs.isFile directory target = false →
        (∀ place, fs.lookup true directory target ≠ .found place .directory) →
        ∃ cause, ofTarget fs directory target = ⟨[], [.walk target ⟨target, cause⟩]⟩) := by
  refine ⟨fun targets => ⟨rfl, rfl⟩, fun target => ⟨ofTarget_of_isFile, ?_, ?_⟩⟩
  · intro place h
    exact ⟨_, _, walked h hdevices⟩
  · intro hfile hdirectory
    exact ofTarget_of_neither hfile hdirectory hdevices

/-- A model beside a directory of the same first name, and one in it. -/
def nestedModels : FileSystem :=
  ((FileSystem.empty.insert [Bytes.ofString "a"] .directory).insert
    [Bytes.ofString "a", Bytes.ofString "b.prisma"] (.file (Bytes.ofString "B"))).insert
    [Bytes.ofString "a.prisma"] (.file (Bytes.ofString "A"))

theorem nestedModels_outline {l : Location} {n : Node} (h : nestedModels.node? l = some n) :
    n.outline = .directory ∨ n.outline = .file [] := by
  by_cases hl : l = []
  · subst hl
    cases h
    exact .inl rfl
  · have hall : ∀ e ∈ nestedModels.entries,
        e.node.outline = .directory ∨ e.node.outline = .file [] := by
      decide +kernel
    exact hall _ (Entry.mem_of_find? hl h)

theorem nestedModels_ne_device (l : Location) (which : Device) :
    nestedModels.node? l ≠ some (.device which) := by
  intro h
  have hnode := nestedModels_outline h
  simp [Node.outline] at hnode

/-- Of three targets, the directory stands for both models, the model for itself, and the third is a
fault. -/
theorem ofTargets_complete_nested :
    (pathBelow (Path.ofString ".") [Bytes.ofString "a", Bytes.ofString "b.prisma"] ∈
        (ofTarget nestedModels [] (Path.ofString ".")).files ∧
      pathBelow (Path.ofString ".") [Bytes.ofString "a.prisma"] ∈
        (ofTarget nestedModels [] (Path.ofString ".")).files) ∧
      ofTarget nestedModels [] (Path.ofString "a.prisma") = ⟨[Path.ofString "a.prisma"], []⟩ ∧
      ∃ cause, ofTarget nestedModels [] (Path.ofString "c") =
        ⟨[], [.walk (Path.ofString "c") ⟨Path.ofString "c", cause⟩]⟩ := by
  obtain ⟨-, htargets⟩ := ofTargets_complete nestedModels [] nestedModels_ne_device
  refine ⟨?_, (htargets _).1 (by decide +kernel), (htargets _).2.2 (by decide +kernel) ?_⟩
  · obtain ⟨found, unopened, hwalked⟩ := (htargets (Path.ofString ".")).2.1 [] (by decide +kernel)
    rw [hwalked.collected]
    constructor
    · exact List.mem_map_of_mem (hwalked.complete _
        ⟨by decide, .inl ⟨Bytes.ofString "B", by decide +kernel⟩, by decide +kernel⟩
        (by decide +kernel) (by decide +kernel))
    · exact List.mem_map_of_mem (hwalked.complete _
        ⟨by decide, .inl ⟨Bytes.ofString "A", by decide +kernel⟩, by decide +kernel⟩
        (by decide +kernel) (by decide +kernel))
  · have hmissing : nestedModels.lookup true [] (Path.ofString "c") =
        .missing [Bytes.ofString "c"] false := by
      decide +kernel
    rw [hmissing]
    simp

/-! ### At the limits -/

/-- The working directory with slashes behind it. -/
def slashed (n : Nat) : Path :=
  ⟨Path.dot :: List.replicate n Path.slash⟩

theorem parts_slashed (n : Nat) : (slashed n).parts = [Path.dot] :: List.replicate n [] := by
  have hslashes : Text.split (· == Path.slash) (List.replicate n Path.slash) =
      List.replicate (n + 1) [] := by
    induction n with
    | zero => rfl
    | succ n ih =>
      rw [List.replicate_succ, Text.split_cons_separator (by decide), ih, ← List.replicate_succ]
  rw [Path.parts, slashed, Text.split_cons_of_not (by decide), hslashes, List.replicate_succ]
  rfl

theorem reach_replicate_nil (fs : FileSystem) (directory : Location) (n : Nat) :
    fs.reach true directory (List.replicate n []) = .done (.found directory .directory) := by
  induction n with
  | zero => rfl
  | succ n ih =>
    rw [List.replicate_succ, FileSystem.reach, if_pos (.inl rfl)]
    exact ih

/-- Slashes behind the working directory say nothing. -/
theorem lookup_slashed (fs : FileSystem) (directory : Location) {n : Nat}
    (h : n < FileSystem.maxPath) :
    fs.lookup true directory (slashed n) = .found directory .directory := by
  have hdot : fs.reach true directory ([Path.dot] :: List.replicate n []) =
      .done (.found directory .directory) := by
    rw [FileSystem.reach, if_pos (.inr rfl)]
    exact reach_replicate_nil fs directory n
  have hzero : (slashed n).bytes.contains 0 = false := by
    have hslash : (0 : UInt8) ≠ Path.slash := by decide
    have hfirst : (0 : UInt8) ≠ Path.dot := by decide
    simp [slashed, hslash, hfirst, List.mem_replicate]
  have hlength : ¬ FileSystem.maxPath < (slashed n).bytes.length := by
    simp only [slashed, List.length_cons, List.length_replicate]
    omega
  rw [FileSystem.lookup, hzero, if_neg (by simp), if_neg (by simp [slashed]), if_neg hlength,
    parts_slashed, if_neg (by simp [slashed, Path.isAbsolute, Path.slash, Path.dot])]
  exact FileSystem.follow_of_done hdot _

theorem length_pathBelow_slashed {n : Nat} {name : Name} (h : isName name = true) :
    (pathBelow (slashed (n + 1)) [name]).bytes.length = n + 2 + name.length := by
  have hend : (slashed (n + 1)).endsInSlash = true := by
    rw [slashed, Path.endsInSlash, List.replicate_succ', ← List.cons_append, List.getLast?_concat]
    rfl
  rw [bytes_pathBelow (by simpa using h) (by simp), Path.lead, if_pos (.inr hend)]
  simp only [slashed, FileSystem.relative, Text.join, List.flatMap_nil, List.append_nil,
    List.length_append, List.length_cons, List.length_replicate]

/-- A path that is too long leads to no file. -/
theorem isFile_of_long {fs : FileSystem} {p : Path} (h : FileSystem.maxPath < p.bytes.length) :
    fs.isFile directory p = false := by
  have hlookup : fs.lookup true directory p = .failed .zeroInPath ∨
      fs.lookup true directory p = .failed .nameTooLong := by
    have hne : p.bytes ≠ [] := by
      intro hempty
      rw [hempty] at h
      cases h
    rw [FileSystem.lookup, if_neg hne, if_pos h]
    by_cases hzero : p.bytes.contains 0 = true
    · exact .inl (if_pos hzero)
    · exact .inr (if_neg hzero)
  rcases hlookup with hlookup | hlookup <;> rw [FileSystem.isFile, hlookup]

/-- A directory and a model. -/
def directoryAndModel : FileSystem :=
  (FileSystem.empty.insert [Bytes.ofString "dd"] .directory).insert [Bytes.ofString "a.prisma"]
    (.file (Bytes.ofString "x"))

/-- A target that can be opened, and is so long that no path into it can. -/
theorem drops_slashed {n : Nat} (hopen : n + 1 < FileSystem.maxPath)
    (hlong : FileSystem.maxPath < n + 4) :
    pathBelow (slashed (n + 1)) [Bytes.ofString "a.prisma"] ∉
        (ofTarget directoryAndModel [] (slashed (n + 1))).files ∧
      tooLong (pathBelow (slashed (n + 1)) [Bytes.ofString "dd"]) ∈
        (ofTarget directoryAndModel [] (slashed (n + 1))).faults := by
  have hmodel : isName (Bytes.ofString "a.prisma") = true ∧
      2 ≤ (Bytes.ofString "a.prisma").length := by
    decide +kernel
  have hdirectory : isName (Bytes.ofString "dd") = true ∧ 2 ≤ (Bytes.ofString "dd").length := by
    decide +kernel
  rw [ofTarget_of_lookup (lookup_slashed directoryAndModel [] hopen)]
  constructor
  · intro hmem
    obtain ⟨names, hnames, heq⟩ := List.mem_map.mp hmem
    obtain ⟨e, he, rfl⟩ := List.mem_map.mp hnames
    obtain ⟨-, hlists⟩ := List.mem_filter.mp he
    obtain ⟨-, -, hfile, -⟩ := of_decide_eq_true hlists
    rw [heq, isFile_of_long (by rw [length_pathBelow_slashed hmodel.1]; omega)] at hfile
    cases hfile
  · have he : (⟨[Bytes.ofString "dd"], .directory⟩ : Entry) ∈ directoryAndModel.below [] := by
      decide +kernel
    have hunopened : Unopened (slashed (n + 1)) ⟨[Bytes.ofString "dd"], .directory⟩ := by
      refine ⟨?_, rfl, ?_⟩
      · simp only [List.dropLast_singleton, pathBelow, List.foldl_nil, slashed, List.length_cons,
          List.length_replicate]
        omega
      · rw [length_pathBelow_slashed hdirectory.1]
        omega
    exact List.mem_map_of_mem
      (List.mem_map_of_mem (List.mem_filter.mpr ⟨he, decide_eq_true hunopened⟩))

/-- A target of 4094 bytes leads to a directory in which a model stands; the model belongs to the
target and is dropped, and a directory beside it is a fault. -/
theorem ofTarget_slashed :
    directoryAndModel.lookup true [] (slashed 4093) = .found [] .directory ∧
      Belongs directoryAndModel [] [] (slashed 4093) [Bytes.ofString "a.prisma"] ∧
      pathBelow (slashed 4093) [Bytes.ofString "a.prisma"] ∉
        (ofTarget directoryAndModel [] (slashed 4093)).files ∧
      (ofTarget directoryAndModel [] (slashed 4093)).faults ≠ [] := by
  obtain ⟨hdropped, hfault⟩ := @drops_slashed 4092 (by decide) (by decide)
  exact ⟨lookup_slashed directoryAndModel [] (by decide),
    ⟨by simp, .inl ⟨Bytes.ofString "x", by decide +kernel⟩, by decide +kernel⟩, hdropped,
    List.ne_nil_of_mem hfault⟩

end Collected

end SchemaFormat
