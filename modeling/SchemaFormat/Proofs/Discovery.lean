import SchemaFormat.Proofs.AbsolutePath
import SchemaFormat.Proofs.Collection
import SchemaFormat.Proofs.Turns

/-!
Discovery and routing.

Two things look at the name of a file: a walk, which takes the files that have a language, and a
formatter, which sends a file to the parser of its language. Each language has a parser, so both
look for the same (`accepts_iff`), and a path has the language of its absolute spelling. So a walk
takes the files that it reaches and a formatter accepts, and no others, and a file that comes from a
walk fails for nothing that its name is to blame for (`discovery_agrees`). The limits of the system
are an exception: a walk takes no file under a path that is too long to be looked up
(`discovery_drops_slashed`).
-/

namespace SchemaFormat

/-! ### What a formatter accepts -/

/-- A path has the language of its absolute spelling. -/
theorem Language.ofPath?_absolute? {directory p q : Path} {n : Bytes} (h : p.fileName? = some n)
    (habsolute : Path.absolute? directory p = some q) : ofPath? q = ofPath? p :=
  ofPath?_congr ((Path.fileName?_absolute? h habsolute).trans h.symm)

theorem Language.mem_all_of_ofPath? {p : Path} {l : Language}
    (h : ofPath? p = some l) : l ∈ all := by
  obtain ⟨extension, -, h⟩ := Option.bind_eq_some_iff.mp h
  obtain ⟨text, -, h⟩ := Option.bind_eq_some_iff.mp h
  unfold ofExtension? at h
  exact List.mem_of_find?_eq_some h

namespace FormatOptions

variable {o : FormatOptions} {p : Path}

def Accepts (o : FormatOptions) (p : Path) : Prop :=
  ∃ parser, o.route p = .ok parser

/-- **Each language has a parser**: if none is forced, a formatter accepts the files that have a
language. -/
theorem accepts_iff (h : o.parser = none) : o.Accepts p ↔ (Language.ofPath? p).isSome = true := by
  have hparsers : ∀ l ∈ Language.all, (parserOf? l).isSome = true := by decide
  unfold Accepts route
  rw [h]
  cases hlanguage : Language.ofPath? p with
  | none => simp
  | some l =>
    obtain ⟨parser, hparser⟩ :=
      Option.isSome_iff_exists.mp (hparsers l (Language.mem_all_of_ofPath? hlanguage))
    simp [hparser]

end FormatOptions

namespace Collected

variable {fs : FileSystem} {directory place : Location} {target p : Path} {names : Location}

/-! ### What a walk takes -/

/-- A walk from a target reaches a file, within the limits of the system: a regular one, or a link
whose path leads to one. -/
structure Reaches (fs : FileSystem) (directory place : Location) (target : Path)
    (names : Location) : Prop where
  nonempty : names ≠ []
  file : (∃ content, fs.node? (place ++ names) = some (.file content)) ∨
    (∃ tool, fs.node? (place ++ names) = some (.program tool)) ∨
    ∃ held, fs.node? (place ++ names) = some (.link held) ∧
      fs.isFile directory (pathBelow target names) = true
  fits : (pathBelow target names).bytes.length ≤ FileSystem.maxPath
  short : ∀ name ∈ names, name.length ≤ FileSystem.maxName

theorem Reaches.isName (h : Reaches fs directory place target names) :
    ∀ n ∈ names, isName n = true := by
  intro n hn
  have hmem : n ∈ place ++ names := List.mem_append_right place hn
  rcases h.file with ⟨content, hnode⟩ | ⟨tool, hnode⟩ | ⟨held, hnode, -⟩
  · exact FileSystem.isName_of_node? hnode n hmem
  · exact FileSystem.isName_of_node? hnode n hmem
  · exact FileSystem.isName_of_node? hnode n hmem

/-- What a walk takes has a language. -/
theorem language_of_mem_files (h : fs.lookup true directory target = .found place .directory)
    (hmem : p ∈ (ofTarget fs directory target).files) : (Language.ofPath? p).isSome = true := by
  rw [ofTarget_of_lookup h] at hmem
  obtain ⟨names, hnames, rfl⟩ := List.mem_map.mp hmem
  obtain ⟨e, he, rfl⟩ := List.mem_map.mp hnames
  obtain ⟨-, -, -, hlanguage⟩ := of_decide_eq_true (List.mem_filter.mp he).2
  exact hlanguage

/-- **A walk takes the files that it reaches and that have a language.** -/
theorem mem_files_iff (h : fs.lookup true directory target = .found place .directory)
    (hreaches : Reaches fs directory place target names) :
    pathBelow target names ∈ (ofTarget fs directory target).files ↔
      (Language.ofPath? (pathBelow target names)).isSome = true := by
  constructor
  · exact language_of_mem_files h
  · intro hlanguage
    rw [ofPath?_pathBelow hreaches.isName hreaches.nonempty] at hlanguage
    obtain ⟨e, he, hlists, rfl⟩ :=
      lists_of_belongs h ⟨hreaches.nonempty, hreaches.file, hlanguage⟩ hreaches.fits hreaches.short
    rw [ofTarget_of_lookup h]
    exact List.mem_map_of_mem
      (List.mem_map_of_mem (List.mem_filter.mpr ⟨he, decide_eq_true hlists⟩))

/-- A file comes from a walk: a directory that some target led to stood for it. -/
def FromWalk (p : Path) : Prop :=
  ∃ fs directory target place, fs.lookup true directory target = .found place .directory ∧
    p ∈ (ofTarget fs directory target).files

end Collected

open Collected (Reaches FromWalk pathBelow ofTarget)
open FormatOptions (accepts_iff)

namespace Formatter

variable {f : Formatter} {mode : Mode} {s : Session} {p : Path}

/-! ### What can go wrong -/

/-- A file that a parser takes is at fault for what the system or the engine does, and for nothing
else. -/
theorem fault_of_accepts (haccepts : f.options.Accepts p) {fault : FileFault}
    (h : (f.processFile mode p s).1 = .error fault) :
    (∃ cause, fault = .io p cause) ∨ ∃ cause, fault = .print p (.engine cause) := by
  obtain ⟨parser, hroute⟩ := haccepts
  rcases unread_or_unrouted_or_consults f s p with ⟨cause, hread⟩ | ⟨text, other, -, hother⟩ |
    ⟨text, answer, t, hasked⟩
  · rw [processFile_of_draft_error (draft_of_unread hread)] at h
    obtain rfl := Except.error.inj h
    exact .inl ⟨cause, rfl⟩
  · rw [hroute] at hother
    cases hother
  · cases answer with
    | error cause =>
      rw [processFile_of_draft_error (draft_of_consults hasked)] at h
      obtain rfl := Except.error.inj h
      exact .inr ⟨cause, rfl⟩
    | ok out =>
      rw [processFile_of_draft (draft_of_consults hasked)] at h
      by_cases hput : ∃ cause, NotPut mode t ⟨p, text, out⟩ cause
      · obtain ⟨cause, hput⟩ := hput
        rw [settle_of_notPut hput] at h
        obtain rfl := Except.error.inj h
        exact .inl ⟨cause, rfl⟩
      · rw [settle_of_put fun cause hcause => hput ⟨cause, hcause⟩] at h
        cases h

/-- **Discovery and routing agree.** Let a formatter force no parser. A file that a walk reaches
within the limits of the system is taken if the formatter accepts its path, and only then; and if it
accepts the absolute spelling of its path, and only then. And whatever the engine and the mode:
where files that come from walks are processed one after the other, each fault is one of the system
or of the engine. -/
theorem discovery_agrees (f : Formatter) (hparser : f.options.parser = none) :
    (∀ fs directory target place names, fs.lookup true directory target = .found place .directory →
      Reaches fs directory place target names →
      (pathBelow target names ∈ (ofTarget fs directory target).files ↔
        f.options.Accepts (pathBelow target names)) ∧
      ∀ base, ∃ q, Path.absolute? base (pathBelow target names) = some q ∧
        (pathBelow target names ∈ (ofTarget fs directory target).files ↔ f.options.Accepts q)) ∧
    ∀ mode paths s, (∀ p ∈ paths, FromWalk p) →
      ∀ p fault, (p, .error fault) ∈ (f.processEach mode paths s).1 →
      (∃ cause, fault = .io p cause) ∨ ∃ cause, fault = .print p (.engine cause) := by
  constructor
  · intro fs directory target place names h hreaches
    have hname : (pathBelow target names).fileName? = some (names.getLast hreaches.nonempty) :=
      Collected.fileName?_pathBelow hreaches.isName hreaches.nonempty
    refine ⟨(Collected.mem_files_iff h hreaches).trans (accepts_iff hparser).symm, fun base => ?_⟩
    have hne : (pathBelow target names).bytes ≠ [] := by
      intro hempty
      have hpath : pathBelow target names = ⟨[]⟩ := congrArg Path.mk hempty
      rw [hpath] at hname
      cases hname
    obtain ⟨q, habsolute⟩ : ∃ q, Path.absolute? base (pathBelow target names) = some q := by
      rw [Path.absolute?, if_neg hne]
      exact ⟨_, rfl⟩
    refine ⟨q, habsolute, ?_⟩
    rw [accepts_iff hparser, Language.ofPath?_absolute? hname habsolute]
    exact Collected.mem_files_iff h hreaches
  · intro mode paths s hpaths p fault hmem
    rw [processEach_eq_turns] at hmem
    obtain ⟨t, ht, hresult⟩ := List.mem_map.mp hmem
    obtain ⟨rfl, hfault⟩ := Prod.mk.inj hresult
    obtain ⟨fs, directory, target, place, h, hfile⟩ := hpaths t.path (path_mem_of_mem_turns ht)
    exact fault_of_accepts ((accepts_iff hparser).mpr (Collected.language_of_mem_files h hfile))
      hfault

/-- A formatter whose engine refuses everything. -/
def refuser : Formatter :=
  ⟨.ofFunction fun source _ => .error (.rejected source), {}⟩

/-- The names that lead to the model in the directory. -/
def innerModel : Location :=
  [Bytes.ofString "a", Bytes.ofString "b.prisma"]

/-- The model in a directory is found and accepted, and it is at fault for nothing that its name is
to blame for. -/
theorem discovery_agrees_nested :
    pathBelow (Path.ofString ".") innerModel ∈
      (ofTarget Collected.nestedModels [] (Path.ofString ".")).files ∧
      FormatOptions.Accepts {} (pathBelow (Path.ofString ".") innerModel) ∧
      ∀ mode s p fault,
        (p, .error fault) ∈
          (refuser.processEach mode [pathBelow (Path.ofString ".") innerModel] s).1 →
          (∃ cause, fault = .io p cause) ∨ ∃ cause, fault = .print p (.engine cause) := by
  obtain ⟨hwalk, hfaults⟩ := discovery_agrees refuser rfl
  have hlookup : Collected.nestedModels.lookup true [] (Path.ofString ".") =
      .found [] .directory := by
    decide +kernel
  have hreaches : Reaches Collected.nestedModels [] [] (Path.ofString ".") innerModel :=
    ⟨by decide, .inl ⟨Bytes.ofString "B", by decide +kernel⟩, by decide +kernel, by decide +kernel⟩
  have haccepts : FormatOptions.Accepts {} (pathBelow (Path.ofString ".") innerModel) :=
    ⟨Parser.prisma, by rfl⟩
  obtain ⟨hiff, -⟩ := hwalk _ _ _ _ _ hlookup hreaches
  have hfound := hiff.mpr haccepts
  refine ⟨hfound, haccepts, fun mode s p fault hmem => hfaults mode _ s ?_ p fault hmem⟩
  intro p hp
  obtain rfl := List.mem_singleton.mp hp
  exact ⟨_, _, _, _, hlookup, hfound⟩

/-- **A walk drops a file whose path it cannot look up**, although a formatter accepts the path. -/
theorem discovery_drops_slashed :
    Collected.directoryAndModel.lookup true [] (Collected.slashed 4093) = .found [] .directory ∧
      Collected.directoryAndModel.node? [Bytes.ofString "a.prisma"] =
        some (.file (Bytes.ofString "x")) ∧
      pathBelow (Collected.slashed 4093) [Bytes.ofString "a.prisma"] ∉
        (ofTarget Collected.directoryAndModel [] (Collected.slashed 4093)).files ∧
      FormatOptions.Accepts {}
        (pathBelow (Collected.slashed 4093) [Bytes.ofString "a.prisma"]) := by
  obtain ⟨hdropped, -⟩ := @Collected.drops_slashed 4092 (by decide) (by decide)
  refine ⟨Collected.lookup_slashed _ [] (by decide), by decide +kernel, hdropped,
    (accepts_iff rfl).mpr ?_⟩
  rw [Collected.ofPath?_pathBelow (by decide) (by decide)]
  decide

end Formatter

end SchemaFormat
