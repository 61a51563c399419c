import SchemaFormat.Proofs.Following
import SchemaFormat.Proofs.Outline
import SchemaFormat.Proofs.Pieces

/-!
The file that a path leads to.

A path is read from one place (`read_of_filePlace?`) and written to the same one
(`write_of_filePlace?`). Where that is, the outline tells; so what is done to one file is seen
through those paths alone that lead to it (`read_congr`).
-/

namespace SchemaFormat.FileSystem

/-- Where the file stands that a path leads to, if it leads to one. -/
def filePlace? (fs : FileSystem) (directory : Location) (p : Path) : Option Location :=
  match fs.lookup true directory p with
  | .found place (.file _) => some place
  | _ => none

/-- Two paths do not lead to the same file. -/
def Apart (fs : FileSystem) (directory : Location) (p q : Path) : Prop :=
  fs.filePlace? directory p = none ∨ fs.filePlace? directory p ≠ fs.filePlace? directory q

variable {fs fs' : FileSystem} {directory : Location} {p q : Path}

instance (fs : FileSystem) (directory : Location) (p q : Path) :
    Decidable (fs.Apart directory p q) :=
  inferInstanceAs (Decidable (_ ∨ _))

theorem Apart.symm (h : fs.Apart directory p q) : fs.Apart directory q p := by
  rcases h with hp | hne
  · by_cases hq : fs.filePlace? directory q = none
    · exact .inl hq
    · exact .inr fun heq => hq (heq.trans hp)
  · exact .inr hne.symm

instance (fs : FileSystem) (directory : Location) : Std.Symm (fs.Apart directory) :=
  ⟨fun _ _ => Apart.symm⟩

theorem Apart.ne_some (h : fs.Apart directory p q) {l : Location}
    (hp : fs.filePlace? directory p = some l) : fs.filePlace? directory q ≠ some l := by
  rcases h with hnone | hne
  · rw [hnone] at hp
    cases hp
  · exact fun hq => hne (hp.trans hq.symm)

theorem filePlace?_eq_some_iff {l : Location} :
    fs.filePlace? directory p = some l ↔
      ∃ content, fs.lookup true directory p = .found l (.file content) := by
  unfold filePlace?
  cases fs.lookup true directory p with
  | missing place slashed => simp
  | failed fault => simp
  | found place node => cases node <;> simp [eq_comm]

/-- The outline tells where a file stands. -/
theorem filePlace?_outline (fs : FileSystem) (directory : Location) (p : Path) :
    fs.outline.filePlace? directory p = fs.filePlace? directory p := by
  unfold filePlace?
  rw [lookup_outline]
  cases fs.lookup true directory p with
  | missing place slashed => rfl
  | failed fault => rfl
  | found place node => cases node <;> rfl

/-- And whether two paths lead to the same one. -/
theorem apart_congr (houtline : fs'.outline = fs.outline) :
    fs'.Apart directory p q ↔ fs.Apart directory p q := by
  have hplace (r : Path) : fs'.filePlace? directory r = fs.filePlace? directory r := by
    rw [← filePlace?_outline, houtline, filePlace?_outline]
  rw [Apart, Apart, hplace, hplace]

theorem read_of_filePlace? {l : Location} (h : fs.filePlace? directory p = some l) :
    ∃ content, fs.node? l = some (.file content) ∧ fs.read directory p = .ok content := by
  obtain ⟨content, hlookup⟩ := filePlace?_eq_some_iff.mp h
  refine ⟨content, ?_, by rw [read, hlookup]⟩
  rcases node?_of_lookup hlookup with hdirectory | hnode
  · cases hdirectory
  · exact hnode

/-- Only the content of a file is not in the outline. -/
theorem Lookup.eq_of_outline {a b : Lookup} (h : a.outline = b.outline)
    (hb : ∀ place content, b ≠ .found place (.file content)) : a = b := by
  cases b with
  | missing place slashed => cases a <;> simp [outline] at h ⊢; exact h
  | failed fault => cases a <;> simp [outline] at h ⊢; exact h
  | found place node =>
    cases a with
    | missing place slashed => cases h
    | failed fault => cases h
    | found place' node' =>
      obtain ⟨rfl, hnode⟩ := Lookup.found.inj h
      cases node with
      | file content => exact absurd rfl (hb place' content)
      | _ => cases node' <;> simp_all [Node.outline]

/-- Of a path that leads to no file, the outline tells all. -/
theorem lookup_congr (houtline : fs'.outline = fs.outline)
    (h : fs.filePlace? directory p = none) :
    fs'.lookup true directory p = fs.lookup true directory p := by
  apply Lookup.eq_of_outline
  · rw [← lookup_outline, ← lookup_outline, houtline]
  · intro place content hlookup
    rw [filePlace?_eq_some_iff.mpr ⟨content, hlookup⟩] at h
    cases h

/-- **A path reads the same where the outline is the same and its own file is.** -/
theorem read_congr (houtline : fs'.outline = fs.outline)
    (h : ∀ l, fs.filePlace? directory p = some l → fs'.node? l = fs.node? l) :
    fs'.read directory p = fs.read directory p := by
  cases hplace : fs.filePlace? directory p with
  | none => rw [read, read, lookup_congr houtline hplace]
  | some l =>
    have hplace' : fs'.filePlace? directory p = some l := by
      rw [← filePlace?_outline, houtline, filePlace?_outline, hplace]
    obtain ⟨content, hnode, hread⟩ := read_of_filePlace? hplace
    obtain ⟨content', hnode', hread'⟩ := read_of_filePlace? hplace'
    rw [h l hplace, hnode] at hnode'
    cases hnode'
    rw [hread, hread']

/-- What can be read is the content of a file, the image of a program, or nothing, from a device. -/
theorem read_eq_ok_iff {content : Bytes} :
    fs.read directory p = .ok content ↔
      (∃ place, fs.lookup true directory p = .found place (.file content)) ∨
      (∃ place tool,
        fs.lookup true directory p = .found place (.program tool) ∧ content = programImage) ∨
      ∃ place which,
        fs.lookup true directory p = .found place (.device which) ∧ content = [] := by
  unfold read
  cases fs.lookup true directory p with
  | missing place slashed => simp
  | failed fault => simp
  | found place node => cases node <;> simp [eq_comm]

/-- A file has a text if its bytes spell it. -/
theorem readText_eq_ok_iff {text : String} :
    fs.readText directory p = .ok text ↔ fs.read directory p = .ok (Bytes.ofString text) := by
  unfold readText
  cases fs.read directory p with
  | error fault => simp
  | ok content =>
    rw [Except.ok.injEq, ← Bytes.toString?_eq_ok_iff]
    cases htext : content.toString? <;> simp [htext]

/-- A path leads to a file if that is what stands there, a program being one. -/
theorem isFile_iff :
    fs.isFile directory p = true ↔
      (∃ place content, fs.lookup true directory p = .found place (.file content)) ∨
        ∃ place tool, fs.lookup true directory p = .found place (.program tool) := by
  unfold isFile
  cases fs.lookup true directory p with
  | missing place slashed => simp
  | failed fault => simp
  | found place node => cases node <;> simp

/-- A file whose text can be read has a place: it is no program. -/
theorem exists_filePlace? {text : String} (hfile : fs.isFile directory p = true)
    (htext : fs.readText directory p = .ok text) : ∃ l, fs.filePlace? directory p = some l := by
  rcases isFile_iff.mp hfile with ⟨place, content, hlookup⟩ | ⟨place, tool, hlookup⟩
  · exact ⟨place, filePlace?_eq_some_iff.mpr ⟨content, hlookup⟩⟩
  · rw [readText, read, hlookup] at htext
    cases htext

/-- What can be read and is no device is a file. -/
theorem isFile_of_readText {text : String}
    (hdevice : ∀ l which, fs.lookup true directory p ≠ .found l (.device which))
    (htext : fs.readText directory p = .ok text) : fs.isFile directory p = true := by
  rcases read_eq_ok_iff.mp (readText_eq_ok_iff.mp htext) with
    ⟨place, hlookup⟩ | ⟨place, tool, hlookup, -⟩ | ⟨place, which, hlookup, -⟩
  · exact isFile_iff.mpr (.inl ⟨place, _, hlookup⟩)
  · exact isFile_iff.mpr (.inr ⟨place, tool, hlookup⟩)
  · exact absurd hlookup (hdevice place which)

theorem write_of_filePlace? {l : Location} (h : fs.filePlace? directory p = some l)
    (content : Bytes) : fs.write directory p content = .ok (fs.insert l (.file content)) := by
  obtain ⟨old, hlookup⟩ := filePlace?_eq_some_iff.mp h
  rw [write, target, hlookup]

/-- What can be read and is no file stays as it is when it is written to. -/
theorem eq_of_write {content new : Bytes} {made : FileSystem}
    (hplace : fs.filePlace? directory p = none) (hread : fs.read directory p = .ok content)
    (hwrite : fs.write directory p new = .ok made) : made = fs := by
  rw [write, target] at hwrite
  rcases read_eq_ok_iff.mp hread with
    ⟨place, hlookup⟩ | ⟨place, tool, hlookup, -⟩ | ⟨place, which, hlookup, -⟩
  · rw [filePlace?_eq_some_iff.mpr ⟨content, hlookup⟩] at hplace
    cases hplace
  · rw [hlookup] at hwrite
    cases hwrite
  · rw [hlookup] at hwrite
    dsimp only at hwrite
    split at hwrite
    · cases hwrite
    · exact (Except.ok.inj hwrite).symm

theorem target_outline (fs : FileSystem) (directory : Location) (p : Path) :
    fs.outline.target directory p = fs.target directory p := by
  unfold target
  rw [lookup_outline]
  cases fs.lookup true directory p with
  | missing place slashed => rfl
  | failed fault => rfl
  | found place node => cases node <;> rfl

/-- Whether bytes can be written is a question about the outline. -/
theorem write_congr (houtline : fs'.outline = fs.outline) (directory : Location) (p : Path)
    (content : Bytes) :
    (fs'.write directory p content).map (fun _ => ()) =
      (fs.write directory p content).map fun _ => () := by
  have htarget : fs'.target directory p = fs.target directory p := by
    rw [← target_outline, houtline, target_outline]
  rw [write, write, htarget]
  cases fs.target directory p with
  | error fault => rfl
  | ok where_ =>
    cases where_ with
    | file place => rfl
    | device which =>
      dsimp only
      split <;> rfl

end SchemaFormat.FileSystem
