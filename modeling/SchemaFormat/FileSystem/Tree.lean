import SchemaFormat.Path.Basic

/-!
A file system.

A location is the list of names that lead from the root to a place. A file system lists what stands
at each location but the root, which is always a directory. The list is sorted by location, name by
name and byte by byte, so what lies below a directory is a stretch of it in depth-first order; and
every location but the root lies in a directory. `node?` looks a location up, `insert` puts a node
that is no directory's replacement at a location in a directory, `erase` takes a location and all
below it away.
-/

namespace SchemaFormat

abbrev Name := Bytes

/-- Names from the root to a place. -/
abbrev Location := List Name

/-- What always can be read from or written to without being a file. -/
inductive Device where
  /-- Has nothing to read and drops what is written. -/
  | null
  /-- Gives zero bytes without end and drops what is written. -/
  | zero
  /-- Gives zero bytes without end and has no space left. -/
  | full
  deriving DecidableEq, Repr

inductive Node where
  | directory
  | file (content : Bytes)
  /-- A file that can be run, known by the name of what it does. -/
  | program (tool : String)
  | link (target : Path)
  | device (which : Device)
  deriving DecidableEq, Repr

structure Entry where
  location : Location
  node : Node
  deriving DecidableEq, Repr

/-- Whether a name can stand in a directory: it is neither empty nor one or two dots and holds
neither a slash nor a zero byte. -/
def isName (n : Name) : Bool :=
  n != [] && n != [Path.dot] && n != [Path.dot, Path.dot] && ! n.contains Path.slash &&
    ! n.contains 0

namespace Entry

/-- The node at a location in a list of entries; the root is a directory. -/
def find? (entries : List Entry) (l : Location) : Option Node :=
  if l = [] then some .directory
  else (entries.find? (·.location == l)).map Entry.node

/-- Put a node at a location in a sorted list, in place of what stood there. -/
def put (l : Location) (n : Node) : List Entry → List Entry
  | [] => [⟨l, n⟩]
  | e :: es =>
    if l < e.location then ⟨l, n⟩ :: e :: es
    else if e.location = l then ⟨l, n⟩ :: es
    else e :: put l n es

/-- Entries in the order of their locations, no two with the same one. -/
def Sorted (entries : List Entry) : Prop :=
  entries.Pairwise (·.location < ·.location)

/-- A name leads to the entry, and it leads there from a directory. -/
def Placed (entries : List Entry) (e : Entry) : Prop :=
  e.location ≠ [] ∧ (∀ n ∈ e.location, isName n = true) ∧
    find? entries e.location.dropLast = some .directory

theorem mem_put {l : Location} {n : Node} {entries : List Entry} {e : Entry}
    (h : e ∈ put l n entries) : e = ⟨l, n⟩ ∨ (e ∈ entries) := by
  induction entries with
  | nil => simpa [put] using h
  | cons a as ih =>
    rw [put] at h
    split at h
    · simpa using h
    · split at h
      · rcases List.mem_cons.1 h with h | h
        · exact .inl h
        · exact .inr (List.mem_cons_of_mem _ h)
      · rcases List.mem_cons.1 h with h | h
        · exact .inr (h ▸ List.mem_cons_self)
        · exact (ih h).imp_right (List.mem_cons_of_mem _)

theorem sorted_put {l : Location} {n : Node} {entries : List Entry} (h : Sorted entries) :
    Sorted (put l n entries) := by
  induction entries with
  | nil => exact List.pairwise_singleton _ _
  | cons a as ih =>
    have ⟨hlt, has⟩ := List.pairwise_cons.1 h
    rw [put]
    split
    · next hl =>
      refine List.pairwise_cons.2 ⟨?_, h⟩
      intro e he
      rcases List.mem_cons.1 he with rfl | he
      · exact hl
      · exact List.lt_trans hl (hlt e he)
    · next hl =>
      split
      · next heq => exact List.pairwise_cons.2 ⟨fun e he => heq ▸ hlt e he, has⟩
      · next hne =>
        refine List.pairwise_cons.2 ⟨?_, ih has⟩
        intro e he
        rcases mem_put he with rfl | he
        · exact Std.lt_of_le_of_ne (List.not_lt.1 hl) hne
        · exact hlt e he

theorem sorted_filter {entries : List Entry} (p : Entry → Bool) (h : Sorted entries) :
    Sorted (entries.filter p) :=
  List.Pairwise.filter p h

theorem find?_put (l m : Location) (n : Node) (entries : List Entry) (hm : m ≠ []) :
    find? (put l n entries) m = if l = m then some n else find? entries m := by
  simp only [find?, hm, if_false]
  induction entries with
  | nil => by_cases h : l = m <;> simp [put, h]
  | cons a as ih =>
    rw [put]
    split
    · by_cases h : l = m <;> simp [h]
    · split
      · next heq => by_cases h : l = m <;> simp_all
      · next hne =>
        by_cases ha : a.location = m
        · have : l ≠ m := fun hlm => hne (ha.trans hlm.symm)
          simp [ha, this]
        · simpa [ha] using ih

theorem find?_filter (p : Entry → Bool) {l : Location} {entries : List Entry}
    (h : ∀ e ∈ entries, e.location = l → p e = true) :
    find? (entries.filter p) l = find? entries l := by
  simp only [find?]
  split
  · rfl
  · congr 1
    induction entries with
    | nil => rfl
    | cons a as ih =>
      have ih := ih fun e he => h e (List.mem_cons_of_mem _ he)
      by_cases ha : a.location = l
      · have hp := h a List.mem_cons_self ha
        simp [hp, ha]
      · have hf : (a.location == l) = false := by simp [ha]
        by_cases hp : p a = true
        · rw [List.filter_cons, if_pos hp, List.find?_cons, List.find?_cons, hf]
          exact ih
        · rw [List.filter_cons, if_neg hp, List.find?_cons, hf]
          exact ih

end Entry

/-- What stands where. -/
structure FileSystem where
  entries : List Entry
  sorted : Entry.Sorted entries
  placed : ∀ e ∈ entries, Entry.Placed entries e

namespace FileSystem

def empty : FileSystem :=
  ⟨[], List.Pairwise.nil, by simp⟩

instance : Inhabited FileSystem := ⟨empty⟩

def node? (fs : FileSystem) (l : Location) : Option Node :=
  Entry.find? fs.entries l

/-- Whether a node can be put at a location: names lead there, it lies in a directory, and it is no
directory that would be replaced. -/
def Accepts (fs : FileSystem) (l : Location) : Prop :=
  l ≠ [] ∧ (∀ n ∈ l, isName n = true) ∧ fs.node? l.dropLast = some .directory ∧
    fs.node? l ≠ some .directory

instance (fs : FileSystem) (l : Location) : Decidable (fs.Accepts l) :=
  inferInstanceAs (Decidable (_ ∧ _ ∧ _ ∧ _))

/-- Put a node at a location that accepts it; any other location stays as it is. -/
def insert (fs : FileSystem) (l : Location) (n : Node) : FileSystem :=
  if h : fs.Accepts l then
    { entries := Entry.put l n fs.entries
      sorted := Entry.sorted_put fs.sorted
      placed := by
        obtain ⟨hl, hnames, hparent, hnot⟩ := h
        have keep {m : Location} (hm : Entry.find? fs.entries m = some .directory) :
            Entry.find? (Entry.put l n fs.entries) m = some .directory := by
          by_cases hroot : m = []
          · simp [Entry.find?, hroot]
          · rw [Entry.find?_put l m n fs.entries hroot, if_neg, hm]
            intro heq
            exact hnot (heq ▸ hm)
        intro e he
        rcases Entry.mem_put he with rfl | he
        · exact ⟨hl, hnames, keep hparent⟩
        · have ⟨h1, h2, h3⟩ := fs.placed e he
          exact ⟨h1, h2, keep h3⟩ }
  else fs

/-- Take a location and all below it away. -/
def erase (fs : FileSystem) (l : Location) : FileSystem where
  entries := fs.entries.filter fun e => ! l.isPrefixOf e.location
  sorted := Entry.sorted_filter _ fs.sorted
  placed := by
    intro e he
    have ⟨he, houtside⟩ := List.mem_filter.1 he
    have ⟨h1, h2, h3⟩ := fs.placed e he
    refine ⟨h1, h2, ?_⟩
    rw [Entry.find?_filter, h3]
    intro d _ hd
    rw [hd]
    cases hp : l.isPrefixOf e.location.dropLast with
    | false => rfl
    | true =>
      have : l <+: e.location :=
        (List.isPrefixOf_iff_prefix.1 hp).trans (List.dropLast_prefix _)
      simp [List.isPrefixOf_iff_prefix.2 this] at houtside

/-- What lies below a location: the names that lead there from it, in depth-first order. -/
def below (fs : FileSystem) (l : Location) : List Entry :=
  fs.entries.filterMap fun e =>
    if l.isPrefixOf e.location && l.length < e.location.length then
      some ⟨e.location.drop l.length, e.node⟩
    else none

end FileSystem

end SchemaFormat
