import SchemaFormat.Formatter.Collect
import SchemaFormat.Proofs.FileTree

/-!
The outline of a file system: what it is apart from the contents of its files.

Where a path leads and which files a target stands for are questions about the outline
(`lookup_outline`, `ofTargets_outline`). Giving files another content keeps it.
-/

namespace SchemaFormat

/-- A node without the content of a file. -/
def Node.outline : Node → Node
  | .file _ => .file []
  | node => node

/-- A location and what kind of node stands there. -/
def Entry.outline (e : Entry) : Entry :=
  ⟨e.location, e.node.outline⟩

@[simp] theorem Entry.location_outline (e : Entry) : e.outline.location = e.location := rfl

theorem Node.outline_eq_directory {n : Node} : n.outline = .directory ↔ n = .directory := by
  cases n <;> simp [outline]

theorem Entry.find?_map_outline (entries : List Entry) (l : Location) :
    find? (entries.map Entry.outline) l = (find? entries l).map Node.outline := by
  by_cases hl : l = []
  · simp [find?, hl, Node.outline]
  · rw [find?, find?, if_neg hl, if_neg hl, List.find?_map, Option.map_map, Option.map_map]
    rfl

namespace FileSystem

/-- A file system without the contents of its files. -/
def outline (fs : FileSystem) : FileSystem where
  entries := fs.entries.map Entry.outline
  sorted := List.pairwise_map.mpr fs.sorted
  placed := by
    intro e he
    obtain ⟨d, hd, rfl⟩ := List.mem_map.mp he
    obtain ⟨hl, hnames, hparent⟩ := fs.placed d hd
    refine ⟨hl, hnames, ?_⟩
    rw [Entry.find?_map_outline, Entry.location_outline, hparent]
    rfl

variable {fs fs' : FileSystem}

theorem node?_outline (fs : FileSystem) (l : Location) :
    fs.outline.node? l = (fs.node? l).map Node.outline :=
  Entry.find?_map_outline fs.entries l

/-! ### Where paths lead -/

/-- What is known about a path without the content of a file. -/
def Lookup.outline : Lookup → Lookup
  | .found place node => .found place node.outline
  | result => result

/-- How far the parts of a path lead without the content of a file. -/
def Reach.outline : Reach → Reach
  | .done result => .done result.outline
  | reach => reach

theorem reach_outline (fs : FileSystem) (last : Bool) (directory : Location) (parts : List Name) :
    fs.outline.reach last directory parts = (fs.reach last directory parts).outline := by
  induction parts generalizing directory with
  | nil => rfl
  | cons part rest ih =>
    rw [reach, reach]
    by_cases hdot : part = [] ∨ part = [Path.dot]
    · rw [if_pos hdot, if_pos hdot, ih]
    by_cases hdots : part = [Path.dot, Path.dot]
    · rw [if_neg hdot, if_neg hdot, if_pos hdots, if_pos hdots, ih]
    by_cases hlong : maxName < part.length
    · rw [if_neg hdot, if_neg hdot, if_neg hdots, if_neg hdots, if_pos hlong, if_pos hlong]
      rfl
    rw [if_neg hdot, if_neg hdot, if_neg hdots, if_neg hdots, if_neg hlong, if_neg hlong]
    dsimp only
    rw [node?_outline]
    cases fs.node? (directory ++ [part]) with
    | none => cases onlySlashes rest <;> simp [Reach.outline, Lookup.outline]
    | some node =>
      cases node with
      | directory => exact ih (directory ++ [part])
      | file content => cases rest <;> rfl
      | program tool => cases rest <;> rfl
      | link target => cases rest <;> cases last <;> rfl
      | device which => cases rest <;> rfl

theorem follow_outline (fs : FileSystem) (last : Bool) (directory : Location) (parts : List Name)
    (links : Nat) :
    fs.outline.follow last directory parts links =
      (fs.follow last directory parts links).outline := by
  induction links generalizing directory parts with
  | zero =>
    rw [follow, follow, reach_outline]
    cases fs.reach last directory parts <;> rfl
  | succ links ih =>
    rw [follow, follow, reach_outline]
    cases fs.reach last directory parts with
    | done result => rfl
    | link place target rest =>
      dsimp only [Reach.outline]
      by_cases htarget : target.bytes = []
      · rw [if_pos htarget, if_pos htarget]
        rfl
      · rw [if_neg htarget, if_neg htarget, ih]

/-- **Where a path leads is a question about the outline.** -/
theorem lookup_outline (fs : FileSystem) (last : Bool) (directory : Location) (p : Path) :
    fs.outline.lookup last directory p = (fs.lookup last directory p).outline := by
  unfold lookup
  by_cases hzero : p.bytes.contains 0 = true
  · rw [if_pos hzero, if_pos hzero]
    rfl
  by_cases hempty : p.bytes = []
  · rw [if_neg hzero, if_neg hzero, if_pos hempty, if_pos hempty]
    rfl
  by_cases hlong : maxPath < p.bytes.length
  · rw [if_neg hzero, if_neg hzero, if_neg hempty, if_neg hempty, if_pos hlong, if_pos hlong]
    rfl
  rw [if_neg hzero, if_neg hzero, if_neg hempty, if_neg hempty, if_neg hlong, if_neg hlong,
    follow_outline]

/-! ### What targets stand for -/

theorem isFile_outline (fs : FileSystem) (directory : Location) (p : Path) :
    fs.outline.isFile directory p = fs.isFile directory p := by
  unfold isFile
  rw [lookup_outline]
  cases fs.lookup true directory p with
  | missing place slashed => rfl
  | failed fault => rfl
  | found place node => cases node <;> rfl

theorem below_outline (fs : FileSystem) (l : Location) :
    fs.outline.below l = (fs.below l).map Entry.outline := by
  unfold below
  rw [show fs.outline.entries = fs.entries.map Entry.outline from rfl, List.filterMap_map,
    List.map_filterMap]
  congr 1
  funext e
  rw [Function.comp_apply]
  by_cases hinside : (l.isPrefixOf e.location && l.length < e.location.length) = true
  · have hinside' : (l.isPrefixOf e.outline.location && l.length < e.outline.location.length) =
        true :=
      hinside
    rw [if_pos hinside', if_pos hinside]
    rfl
  · have hinside' : ¬ (l.isPrefixOf e.outline.location && l.length < e.outline.location.length) =
        true :=
      hinside
    rw [if_neg hinside', if_neg hinside]
    rfl

/-- The paths below a directory are a question about the outline. -/
theorem listing_outline (fs : FileSystem) (directory : Location) :
    fs.outline.listing directory = fs.listing directory := by
  unfold listing
  dsimp only
  rw [below_outline, List.map_map]
  congr 2
  funext e
  obtain ⟨l, n⟩ := e
  cases n <;> rfl

end FileSystem

namespace Collected

theorem ofEntry_outline (fs : FileSystem) (directory : Location) (target : Path) (e : Entry) :
    ofEntry fs.outline directory target e.outline = ofEntry fs directory target e := by
  have hdirectory : e.outline.node = .directory ↔ e.node = .directory := Node.outline_eq_directory
  unfold ofEntry
  dsimp only
  rw [FileSystem.isFile_outline, Entry.location_outline]
  simp only [hdirectory]

theorem ofTarget_outline (fs : FileSystem) (directory : Location) (target : Path) :
    ofTarget fs.outline directory target = ofTarget fs directory target := by
  unfold ofTarget
  rw [FileSystem.lookup_outline]
  cases fs.lookup true directory target with
  | missing place slashed => rfl
  | failed fault => rfl
  | found place node =>
    cases node with
    | directory =>
      change flatMap _ (fs.outline.below place) = flatMap _ (fs.below place)
      simp only [flatMap, FileSystem.below_outline, List.flatMap_map, ofEntry_outline]
    | _ => rfl

/-- **What targets stand for is a question about the outline.** -/
theorem ofTargets_outline (fs : FileSystem) (directory : Location) (targets : List Path) :
    ofTargets fs.outline directory targets = ofTargets fs directory targets := by
  unfold ofTargets
  simp only [flatMap, ofTarget_outline]

theorem isFile_of_mem_ofEntry {fs : FileSystem} {directory : Location} {target p : Path} {e : Entry}
    (h : p ∈ (ofEntry fs directory target e).files) : fs.isFile directory p = true := by
  unfold ofEntry at h
  dsimp only at h
  split_ifs at h with hlong hdirectory hlong' hfile
  · cases h
  · cases h
  · cases h
  · obtain rfl := List.mem_singleton.mp h
    exact (Bool.and_eq_true_iff.mp hfile).1
  · cases h

/-- Targets stand for files. -/
theorem isFile_of_mem {fs : FileSystem} {directory : Location} {targets : List Path} {p : Path}
    (h : p ∈ (ofTargets fs directory targets).files) : fs.isFile directory p = true := by
  obtain ⟨target, -, hp⟩ := List.mem_flatMap.mp h
  unfold ofTarget at hp
  cases hlookup : fs.lookup true directory target with
  | missing place slashed =>
    rw [hlookup] at hp
    cases hp
  | failed fault =>
    rw [hlookup] at hp
    cases hp
  | found place node =>
    rw [hlookup] at hp
    cases node with
    | directory =>
      obtain ⟨e, -, he⟩ := List.mem_flatMap.mp hp
      exact isFile_of_mem_ofEntry he
    | file content =>
      obtain rfl := List.mem_singleton.mp hp
      rw [FileSystem.isFile, hlookup]
    | program tool =>
      obtain rfl := List.mem_singleton.mp hp
      rw [FileSystem.isFile, hlookup]
    | link held => cases hp
    | device which => cases hp

end Collected

end SchemaFormat
