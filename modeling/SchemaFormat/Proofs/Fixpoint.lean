import Mathlib.Data.List.DropRight
import SchemaFormat.Proofs.Batch
import SchemaFormat.Proofs.Utf8

/-!
Formatting what has been formatted.

Let the engine be a function that answers what it once answered with the same. Behind a run that
formats files in place, the draft of each file is what it was, with the formatted text for its
content (`draft_after`). So no file differs any more, and those that were refused still are.
-/

namespace SchemaFormat

/-- Under each request, what the function answered it answers with the same. -/
def Idempotent (e : Answers) : Prop :=
  ∀ source request out, e source request = .ok out → e out request = .ok out

/-- So it is with what a text comes to that belongs to a path. -/
theorem Idempotent.answer {e : Answers} (h : Idempotent e) {o : FormatOptions} {directory p : Path}
    {text out : String} (hanswer : o.answer e directory text p = .ok out) :
    o.answer e directory out p = .ok out := by
  obtain ⟨parser, request, hroute, hbuild, htext⟩ := FormatOptions.answer_eq_ok_iff.mp hanswer
  exact FormatOptions.answer_eq_ok_iff.mpr
    ⟨parser, request, hroute, hbuild, h text request.compact out htext⟩

theorem Engine.trimmed_trimmed (source : String) : trimmed (trimmed source) = trimmed source := by
  have htwice : (source.toList.rdropWhile isTrailing ++ ['\n']).rdropWhile isTrailing =
      source.toList.rdropWhile isTrailing := by
    rw [List.rdropWhile_concat_pos _ _ _ (by rfl), List.rdropWhile_idempotent]
  unfold trimmed
  rw [String.toList_ofList]
  exact congrArg (fun text => String.ofList (text ++ ['\n'])) htwice

/-- An engine that drops blanks at the end leaves alone what it answered. -/
theorem idempotent_trimmed : Idempotent fun source _ => .ok (Engine.trimmed source) := by
  intro source request out h
  obtain rfl := Except.ok.inj h
  exact congrArg Except.ok (Engine.trimmed_trimmed source)

/-- Letters in upper case stay as they are. -/
theorem Engine.upper_upper (source : String) : upper (upper source) = upper source := by
  have htwice (c : Char) : c.toUpper.toUpper = c.toUpper := by
    unfold Char.toUpper
    split
    · next hlower =>
      -- What a small letter is moved to lies below all small letters.
      rw [dif_neg]
      intro hmoved
      simp only [UInt32.le_iff_toNat_le, UInt32.toNat_add, Char.toNat_val, Char.isValue,
        Char.reduceVal, UInt32.reduceSub, UInt32.reduceToNat] at hlower hmoved
      omega
    · rfl
  unfold upper
  rw [String.map_map]
  congr 1
  exact funext htwice

/-- So does an engine that puts letters into upper case. -/
theorem idempotent_upper : Idempotent fun source _ => .ok (Engine.upper source) := by
  intro source request out h
  obtain rfl := Except.ok.inj h
  exact congrArg Except.ok (Engine.upper_upper source)

namespace Formatter

variable {f : Formatter} {e : Answers} {s t : Session} {paths : List Path} {p : Path}
  {done : Set Path}

/-- Checking a file compares it with its draft, and that is only heard of. -/
theorem processFile_check (he : f.engine.Computes e) (p : Path) (s : Session) :
    (f.processFile .check p s).1 = (f.draft p s).1.map Draft.changed ∧
      s.Heard (f.processFile .check p s).2 := by
  have hheard := (draft_computes he p s).2
  cases hdraft : (f.draft p s).1 with
  | error fault =>
    rw [processFile_of_error hdraft]
    exact ⟨rfl, hheard⟩
  | ok d =>
    rw [processFile_of_ok hdraft]
    exact ⟨rfl, hheard⟩

/-- Writing a file that is one succeeds, and answers as checking it does. -/
theorem processFile_write (he : f.engine.Computes e) (hfile : s.files.isFile s.directory p = true) :
    (f.processFile .write p s).1 = (f.draft p s).1.map Draft.changed := by
  have hheard := (draft_computes he p s).2
  cases hdraft : (f.draft p s).1 with
  | error fault =>
    rw [processFile_of_error hdraft]
    rfl
  | ok d =>
    rw [processFile_of_ok hdraft]
    cases hchanged : d.changed with
    | false =>
      rw [settle_unchanged hchanged]
      exact congrArg Except.ok hchanged.symm
    | true =>
      obtain ⟨hpath, htext, -⟩ := of_draft_eq_ok he hdraft
      obtain ⟨l, hplace⟩ := FileSystem.exists_filePlace? hfile htext
      rw [settle_changed hchanged, hheard.files, hheard.directory, hpath,
        FileSystem.write_of_filePlace? hplace]
      exact congrArg Except.ok hchanged.symm

/-- **Behind a run in place, the draft of a file has its formatted text for its content.** -/
theorem draft_after (he : f.engine.Computes e) (hidempotent : Idempotent e)
    (hfiles : Rewritten f s done t.files) (hdirectory : t.directory = s.directory) (hp : p ∈ done)
    (hapart : ∀ q ∈ done, q ≠ p → s.files.Apart s.directory p q)
    (hfile : s.files.isFile s.directory p = true) :
    (f.draft p t).1 = (f.draft p s).1.map fun d => { d with content := d.formatted } := by
  cases hdraft : (f.draft p s).1 with
  | error fault =>
    have hread := hfiles.read_of_none (rewrite?_of_error hdraft) hapart
    rw [draft_congr he hdirectory hread, hdraft]
    rfl
  | ok d =>
    cases hchanged : d.changed with
    | false =>
      have hread := hfiles.read_of_none (rewrite?_of_unchanged hdraft hchanged) hapart
      rw [draft_congr he hdirectory hread, hdraft]
      obtain ⟨path, content, formatted⟩ := d
      obtain rfl : formatted = content := by simpa [Draft.changed] using hchanged
      rfl
    | true =>
      obtain ⟨hpath, htext, hanswer⟩ := of_draft_eq_ok he hdraft
      obtain ⟨l, hplace⟩ := FileSystem.exists_filePlace? hfile htext
      have hrewrite : f.rewrite? s p = some (l, Bytes.ofString d.formatted) :=
        rewrite?_eq_some_iff.mpr ⟨hplace, d, hdraft, hchanged, rfl⟩
      have hread := hfiles.read_of_some hp hrewrite
      rw [(draft_computes he p t).1, FormatOptions.draftOf, FileSystem.readText, hdirectory, hread]
      simp only [Bytes.toString?_ofString, hidempotent.answer hanswer]
      rw [← hpath]
      rfl

/-- So nothing is left to be written. -/
theorem rewrite?_after (hdraft : (f.draft p t).1 = (f.draft p s).1.map fun d =>
    { d with content := d.formatted }) :
    f.rewrite? t p = none := by
  cases h : (f.draft p s).1 with
  | error fault =>
    rw [h] at hdraft
    exact rewrite?_of_error hdraft
  | ok d =>
    rw [h] at hdraft
    exact rewrite?_of_unchanged hdraft (by simp [Draft.changed])

/-- Files are checked one after the other as each is checked alone. -/
theorem processEach_check (he : f.engine.Computes e) (paths : List Path) (s : Session) :
    (f.processEach .check paths s).1 = paths.map (fun p => (p, (f.draft p s).1.map Draft.changed)) ∧
      s.Heard (f.processEach .check paths s).2 := by
  induction paths generalizing s with
  | nil => exact ⟨rfl, .refl s⟩
  | cons p paths ih =>
    obtain ⟨hresult, hheard⟩ := processFile_check he p s
    obtain ⟨hresults, hrest⟩ := ih (f.processFile .check p s).2
    have hsame (q : Path) : (f.draft q (f.processFile .check p s).2).1 = (f.draft q s).1 :=
      draft_congr he hheard.directory (by rw [hheard.files])
    rw [processEach_cons]
    refine ⟨?_, hheard.trans hrest⟩
    simp only [hresult, hresults, hsame, List.map_cons]

/-- **Behind a run in place nothing differs any more**, as many files are refused, and another such
run writes nothing. -/
theorem processFiles_after (he : f.engine.Computes e) (hidempotent : Idempotent e)
    (hapart : paths.Pairwise (s.files.Apart s.directory))
    (hfile : ∀ p ∈ paths, s.files.isFile s.directory p = true)
    (hfiles : t.files = (f.processFiles .write paths s).2.files)
    (hdirectory : t.directory = s.directory) :
    (f.processFiles .check paths t).1 = ⟨[], (f.processFiles .write paths s).1.failed⟩ ∧
      (f.processFiles .write paths t).2.files = t.files := by
  obtain ⟨hwritten, hrewritten⟩ := processEach_write he hapart
  obtain ⟨hsummary, hheard⟩ := processFiles_eq f .write paths s
  rw [← hheard.files, ← hfiles] at hrewritten
  have hdraft (p : Path) (hp : p ∈ paths) :=
    draft_after he hidempotent hrewritten hdirectory hp
      (fun q hq hqp => hapart.forall hp hq (Ne.symm hqp)) (hfile p hp)
  constructor
  · have hwrite : paths.map (f.resultAlone s) =
        paths.map fun p => (p, (f.draft p s).1.map Draft.changed) :=
      List.map_congr_left fun p hp => congrArg (Prod.mk p) (processFile_write he (hfile p hp))
    have hcheck : (paths.map fun p => (p, (f.draft p t).1.map Draft.changed)) =
        paths.map fun p => (p, ((f.draft p s).1.map Draft.changed).map fun _ => false) := by
      apply List.map_congr_left
      intro p hp
      rw [hdraft p hp]
      cases (f.draft p s).1 <;> simp [Except.map, Draft.changed]
    rw [(processFiles_eq f .check paths t).1, (processEach_check he paths t).1, hcheck, hsummary,
      hwritten, hwrite]
    exact Summary.ofResults_unchanged _ paths
  · have hapart' : paths.Pairwise (t.files.Apart t.directory) := by
      rw [hdirectory]
      exact hapart.imp (FileSystem.apart_congr hrewritten.outline).mpr
    have hnone : Rewritten f t { p | p ∈ paths } t.files :=
      .of_none fun p hp => rewrite?_after (hdraft p hp)
    rw [(processFiles_eq f .write paths t).2.files]
    exact (processEach_write he hapart').2.ext hnone

end Formatter

end SchemaFormat
