import Mathlib.Data.Set.Insert
import SchemaFormat.Proofs.FilePlace
import SchemaFormat.Proofs.OneFile

/-!
What is left after some files have been formatted in place.

Each file that differs from its formatted text holds that text, and anything else is as it was
(`Rewritten`). Files may be added one after the other in any order (`Rewritten.insert_of_some`,
`Rewritten.insert_of_none`), and the file system is determined by which ones they are
(`Rewritten.ext`).
-/

namespace SchemaFormat

/-- Where a file is written that differs from its formatted text, and what is written there. -/
def Formatter.rewrite? (f : Formatter) (s : Session) (p : Path) : Option (Location × Bytes) :=
  match (f.draft p s).1 with
  | .error _ => none
  | .ok d =>
    if d.changed then
      (s.files.filePlace? s.directory p).map fun place => (place, Bytes.ofString d.formatted)
    else none

/-- The files of a session after those at some paths have been formatted in place. -/
structure Rewritten (f : Formatter) (s : Session) (done : Set Path) (fs : FileSystem) : Prop where
  written : ∀ p ∈ done, ∀ l content, f.rewrite? s p = some (l, content) →
    fs.node? l = some (.file content)
  kept : ∀ l, (∀ p ∈ done, ∀ content, f.rewrite? s p ≠ some (l, content)) →
    fs.node? l = s.files.node? l

variable {f : Formatter} {s : Session} {p : Path} {l : Location} {content : Bytes} {d : Draft}

theorem Formatter.rewrite?_eq_some_iff :
    f.rewrite? s p = some (l, content) ↔ s.files.filePlace? s.directory p = some l ∧
      ∃ d, (f.draft p s).1 = .ok d ∧ d.changed = true ∧ content = Bytes.ofString d.formatted := by
  unfold rewrite?
  cases (f.draft p s).1 with
  | error fault => simp
  | ok d =>
    by_cases hchanged : d.changed = true
    · simp [hchanged, eq_comm (a := content)]
    · simp [hchanged]

/-- A file that is refused is not written. -/
theorem Formatter.rewrite?_of_error {fault : FileFault} (h : (f.draft p s).1 = .error fault) :
    f.rewrite? s p = none := by
  rw [rewrite?, h]

/-- Nor is one that does not differ. -/
theorem Formatter.rewrite?_of_unchanged (h : (f.draft p s).1 = .ok d)
    (hchanged : d.changed = false) :
    f.rewrite? s p = none := by
  simp [rewrite?, h, hchanged]

namespace Rewritten

variable {done done' : Set Path} {fs fs' : FileSystem}

/-- Files of which none is written leave all as it was. -/
theorem of_none (h : ∀ p ∈ done, f.rewrite? s p = none) : Rewritten f s done s.files := by
  constructor
  · intro p hp l content hrewrite
    rw [h p hp] at hrewrite
    cases hrewrite
  · intro l _
    rfl

/-- **Which files have been formatted determines the file system.** -/
theorem ext (h : Rewritten f s done fs) (h' : Rewritten f s done fs') : fs = fs' := by
  apply FileSystem.ext_node?
  intro l
  by_cases hl : ∃ p ∈ done, ∃ content, f.rewrite? s p = some (l, content)
  · obtain ⟨p, hp, content, hrewrite⟩ := hl
    rw [h.written p hp l content hrewrite, h'.written p hp l content hrewrite]
  · have hnone : ∀ p ∈ done, ∀ content, f.rewrite? s p ≠ some (l, content) :=
      fun p hp content hrewrite => hl ⟨p, hp, content, hrewrite⟩
    rw [h.kept l hnone, h'.kept l hnone]

/-- Formatting files keeps the outline. -/
theorem outline (h : Rewritten f s done fs) : fs.outline = s.files.outline := by
  apply FileSystem.ext_node?
  intro l
  rw [FileSystem.node?_outline, FileSystem.node?_outline]
  by_cases hl : ∃ p ∈ done, ∃ content, f.rewrite? s p = some (l, content)
  · obtain ⟨p, hp, content, hrewrite⟩ := hl
    obtain ⟨hplace, -⟩ := Formatter.rewrite?_eq_some_iff.mp hrewrite
    obtain ⟨old, hold, -⟩ := FileSystem.read_of_filePlace? hplace
    rw [h.written p hp l content hrewrite, hold]
    rfl
  · rw [h.kept l fun p hp content hrewrite => hl ⟨p, hp, content, hrewrite⟩]

/-- No path is added and none is taken away. -/
theorem listing (h : Rewritten f s done fs) (directory : Location) :
    fs.listing directory = s.files.listing directory := by
  rw [← FileSystem.listing_outline, h.outline, FileSystem.listing_outline]

/-- A file that is none of them reads as it did. -/
theorem read (h : Rewritten f s done fs) (hapart : ∀ q ∈ done, s.files.Apart s.directory p q) :
    fs.read s.directory p = s.files.read s.directory p := by
  apply FileSystem.read_congr h.outline
  intro l hplace
  apply h.kept
  intro q hq content hrewrite
  exact (hapart q hq).ne_some hplace (Formatter.rewrite?_eq_some_iff.mp hrewrite).1

/-- A file that is not written reads as it did. -/
theorem read_of_none (h : Rewritten f s done fs) (hp : f.rewrite? s p = none)
    (hapart : ∀ q ∈ done, q ≠ p → s.files.Apart s.directory p q) :
    fs.read s.directory p = s.files.read s.directory p := by
  apply FileSystem.read_congr h.outline
  intro l hplace
  apply h.kept
  intro q hq content hrewrite
  by_cases hqp : q = p
  · rw [hqp, hp] at hrewrite
    cases hrewrite
  · exact (hapart q hq hqp).ne_some hplace (Formatter.rewrite?_eq_some_iff.mp hrewrite).1

/-- A file that is written reads as what was written. -/
theorem read_of_some (h : Rewritten f s done fs) (hp : p ∈ done)
    (hrewrite : f.rewrite? s p = some (l, content)) : fs.read s.directory p = .ok content := by
  obtain ⟨hplace, -⟩ := Formatter.rewrite?_eq_some_iff.mp hrewrite
  rw [← FileSystem.filePlace?_outline, ← h.outline, FileSystem.filePlace?_outline] at hplace
  obtain ⟨written, hnode, hread⟩ := FileSystem.read_of_filePlace? hplace
  rw [h.written p hp l content hrewrite] at hnode
  cases hnode
  exact hread

/-- A file that has a draft reads as its formatted text. -/
theorem read_of_draft {e : Answers} (h : Rewritten f s done fs) (he : f.engine.Computes e)
    (hp : p ∈ done) (hapart : ∀ q ∈ done, q ≠ p → s.files.Apart s.directory p q)
    (hfile : s.files.isFile s.directory p = true) (hdraft : (f.draft p s).1 = .ok d) :
    fs.read s.directory p = .ok (Bytes.ofString d.formatted) := by
  obtain ⟨-, htext, -⟩ := Formatter.of_draft_eq_ok he hdraft
  cases hchanged : d.changed with
  | false =>
    have hsame : d.formatted = d.content := by simpa [Draft.changed] using hchanged
    rw [h.read_of_none (Formatter.rewrite?_of_unchanged hdraft hchanged) hapart,
      FileSystem.readText_eq_ok_iff.mp htext, hsame]
  | true =>
    obtain ⟨l, hplace⟩ := FileSystem.exists_filePlace? hfile htext
    exact h.read_of_some hp (Formatter.rewrite?_eq_some_iff.mpr ⟨hplace, d, hdraft, hchanged, rfl⟩)

theorem insert_of_none (h : Rewritten f s done fs) (hp : f.rewrite? s p = none) :
    Rewritten f s (insert p done) fs := by
  constructor
  · intro q hq l content hrewrite
    rcases Set.mem_insert_iff.mp hq with rfl | hq
    · rw [hp] at hrewrite
      cases hrewrite
    · exact h.written q hq l content hrewrite
  · intro l hl
    exact h.kept l fun q hq => hl q (Set.mem_insert_of_mem p hq)

/-- A file that is written, and is none of those before, adds its formatted text. -/
theorem insert_of_some (h : Rewritten f s done fs) (hp : f.rewrite? s p = some (l, content))
    (hapart : ∀ q ∈ done, s.files.Apart s.directory p q) :
    Rewritten f s (insert p done) (fs.insert l (.file content)) := by
  obtain ⟨hplace, -⟩ := Formatter.rewrite?_eq_some_iff.mp hp
  have hother (q : Path) (hq : q ∈ done) (c : Bytes) : f.rewrite? s q ≠ some (l, c) := by
    intro hrewrite
    exact (hapart q hq).ne_some hplace (Formatter.rewrite?_eq_some_iff.mp hrewrite).1
  obtain ⟨old, hold, -⟩ := FileSystem.read_of_filePlace? hplace
  have haccepts : fs.Accepts l := FileSystem.accepts_of_file ((h.kept l hother).trans hold)
  constructor
  · intro q hq m c hrewrite
    rw [FileSystem.node?_insert haccepts]
    rcases Set.mem_insert_iff.mp hq with rfl | hq
    · rw [hp] at hrewrite
      cases hrewrite
      rw [if_pos rfl]
    · have hne : l ≠ m := by
        rintro rfl
        exact hother q hq c hrewrite
      rw [if_neg hne, h.written q hq m c hrewrite]
  · intro m hm
    have hne : l ≠ m := by
      rintro rfl
      exact hm p (Set.mem_insert p done) content hp
    rw [FileSystem.node?_insert haccepts, if_neg hne]
    exact h.kept m fun q hq => hm q (Set.mem_insert_of_mem p hq)

end Rewritten

end SchemaFormat
