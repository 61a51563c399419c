import Mathlib.Data.List.Sort
import SchemaFormat.FileSystem.Access

/-!
What stands where determines a file system.

The list of entries is sorted, so two file systems with the same node at each location are the same
(`ext_node?`). Whatever changes a file system can thus be described location by location.
-/

namespace SchemaFormat

namespace Entry

variable {entries : List Entry} {e : Entry} {l : Location} {n : Node}

instance : Std.Irrefl fun a b : Entry => a.location < b.location :=
  ⟨fun a => List.lt_irrefl a.location⟩

instance : Std.Antisymm fun a b : Entry => a.location < b.location :=
  ⟨fun _ _ hab hba => absurd hab (List.lt_asymm hba)⟩

theorem mem_of_find? (hl : l ≠ []) (h : find? entries l = some n) : ⟨l, n⟩ ∈ entries := by
  rw [find?, if_neg hl] at h
  obtain ⟨⟨m, node⟩, hfound, rfl⟩ := Option.map_eq_some_iff.mp h
  have hlocation : m = l := by simpa using List.find?_some hfound
  exact hlocation ▸ List.mem_of_find?_eq_some hfound

theorem find?_of_mem (hsorted : Sorted entries) (he : e ∈ entries) (hl : e.location ≠ []) :
    find? entries e.location = some e.node := by
  induction entries with
  | nil => cases he
  | cons first rest ih =>
    obtain ⟨hfirst, hrest⟩ := List.pairwise_cons.mp hsorted
    rcases List.mem_cons.mp he with rfl | he
    · simp [find?, hl]
    · have hne : first.location ≠ e.location := (Std.ne_of_lt (hfirst e he))
      have htail := ih hrest he
      rw [find?, if_neg hl] at htail ⊢
      simpa [hne] using htail

end Entry

namespace FileSystem

variable {fs fs' : FileSystem} {l : Location} {n : Node}

theorem mem_entries_iff {e : Entry} :
    e ∈ fs.entries ↔ e.location ≠ [] ∧ fs.node? e.location = some e.node := by
  constructor
  · intro he
    have hl := (fs.placed e he).1
    exact ⟨hl, Entry.find?_of_mem fs.sorted he hl⟩
  · rintro ⟨hl, h⟩
    exact Entry.mem_of_find? hl h

/-- **What stands where determines a file system.** -/
theorem ext_node? (h : ∀ l, fs.node? l = fs'.node? l) : fs = fs' := by
  have hentries : fs.entries = fs'.entries :=
    fs.sorted.eq_of_mem_iff fs'.sorted fun e => by rw [mem_entries_iff, mem_entries_iff, h]
  cases fs
  cases fs'
  cases hentries
  rfl

/-- A location that accepts a node holds it, and every other one holds what it held. -/
theorem node?_insert (h : fs.Accepts l) (m : Location) :
    (fs.insert l n).node? m = if l = m then some n else fs.node? m := by
  rw [insert, dif_pos h]
  by_cases hm : m = []
  · subst hm
    rw [if_neg h.1]
    rfl
  · exact Entry.find?_put l m n fs.entries hm

theorem accepts_of_file {content : Bytes} (h : fs.node? l = some (.file content)) :
    fs.Accepts l := by
  have hl : l ≠ [] := by
    rintro rfl
    cases h
  obtain ⟨-, hnames, hparent⟩ := fs.placed _ (Entry.mem_of_find? hl h)
  exact ⟨hl, hnames, hparent, by simp [h]⟩

end FileSystem

end SchemaFormat
