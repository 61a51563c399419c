import SchemaFormat.Proofs.Indentation

/-!
Blanks in an indented text, and what is not blank.

A line that is laid out ends in no blank, and its blanks are spaces and tabs
(`isBlank_getLast?_laidOut`, `eq_of_isBlank_of_mem_laidOut`); joined to a text, such lines bring
line feeds in and nothing else. What is not blank is the content of the text, character by character
(`flatten_content`). So a printed text obeys the three rules about blanks that a request always asks
for, and it tells the content of its source and nothing more (`printIndented_policy`).
-/

namespace SchemaFormat

namespace Text

/-- What is joined comes from a separator or from a part. -/
theorem mem_join {α : Type} {separator : List α} {parts : List (List α)} {a : α}
    (h : a ∈ join separator parts) :
    a ∈ separator ∨ ∃ part ∈ parts, a ∈ part := by
  cases parts with
  | nil => simp [join] at h
  | cons first parts =>
    rcases List.mem_append.mp h with h | h
    · exact .inr ⟨first, List.mem_cons_self, h⟩
    · obtain ⟨part, hpart, h⟩ := List.mem_flatMap.mp h
      rcases List.mem_append.mp h with h | h
      · exact .inl h
      · exact .inr ⟨part, List.mem_cons_of_mem first hpart, h⟩

theorem flatten_rdropWhile_nil (ls : List (List (List Char))) :
    (ls.rdropWhile (· == [])).flatten = ls.flatten := by
  have hempty : (ls.rtakeWhile (· == [])).flatten = [] := by
    rw [List.flatten_eq_nil_iff]
    intro l hl
    have hl := List.mem_rtakeWhile_imp hl
    simpa using hl
  conv_rhs =>
    rw [← List.rdropWhile_append_rtakeWhile (p := (· == [])) (l := ls), List.flatten_append, hempty]
  rw [List.append_nil]

theorem flatten_map_words (ls : List (List Char)) :
    (ls.map words).flatten.flatten = ls.flatten.filter (! isBlank ·) := by
  induction ls with
  | nil => rfl
  | cons line ls ih =>
    rw [List.map_cons, List.flatten_cons, List.flatten_append, ih, flatten_words, List.flatten_cons,
      List.filter_append]

/-- **The content of a text is what is not blank in it.** -/
theorem flatten_content (text : List Char) :
    (content text).flatten.flatten = text.filter (! isBlank ·) := by
  rw [content, flatten_rdropWhile_nil, flatten_map_words, flatten_lines, List.filter_filter]
  apply List.filter_congr
  intro c _
  by_cases hc : c = '\n'
  · subst hc
    rfl
  · simp [hc]

end Text

namespace Reindent

open Text

variable {unit text : List Char} {depth : Int} {line : List Char} {c : Char}

/-! ### One line -/

/-- No blank stands at the end of a line. -/
theorem isBlank_getLast?_laidOut (hc : c ∈ (laidOut unit depth line).getLast?) :
    isBlank c = false := by
  unfold laidOut at hc
  split at hc
  · cases hc
  · rename_i hwords
    have hjoined := (join_eq_nil_iff fun w => isWord_of_mem_words).not.mpr hwords
    rw [List.getLast?_append_of_ne_nil _ hjoined] at hc
    exact isBlank_getLast?_join (fun w => isWord_of_mem_words) hc

/-- The blanks of a line are those of its unit and the spaces between its words. -/
theorem eq_of_isBlank_of_mem_laidOut (hunit : IsBlankUnit unit) (hc : c ∈ laidOut unit depth line)
    (hblank : isBlank c = true) : c = ' ' ∨ c = '\t' := by
  unfold laidOut at hc
  split at hc
  · cases hc
  · rcases List.mem_append.mp hc with hc | hc
    · exact hunit.indent _ c hc
    · by_contra hother
      rw [not_or] at hother
      exact not_mem_join_of_isWord (fun w => isWord_of_mem_words) hother.1 hblank hc

/-! ### A whole text -/

/-- A text that is laid out ends in one line feed, and no blank stands before it. -/
theorem exists_layoutText_eq (unit text : List Char) :
    ∃ body, layoutText unit text = body ++ ['\n'] ∧
      (body = [] ∨ ∃ c ∈ body.getLast?, isBlank c = false) := by
  refine ⟨_, rfl, ?_⟩
  by_cases hne : layoutLines unit text = []
  · rw [hne]
    exact .inl rfl
  · right
    have hlast : (layoutLines unit text).getLast hne ≠ [] := by
      simpa [layoutLines] using List.rdropWhile_last_not (· == []) (layout unit 0 (lines text)) hne
    obtain ⟨depth, line, hline⟩ := exists_laidOut_of_mem (List.getLast_mem hne)
    rw [← List.dropLast_append_getLast hne, getLast?_join_concat _ _ hlast]
    rw [hline] at hlast ⊢
    exact ⟨_, List.getLast?_eq_some_getLast hlast,
      isBlank_getLast?_laidOut (List.getLast?_eq_some_getLast hlast)⟩

/-- No line of it ends in a blank. -/
theorem isBlank_getLast?_of_mem_lines (hunit : IsBlankUnit unit) {l : List Char}
    (hl : l ∈ lines (layoutText unit text)) (hc : c ∈ l.getLast?) : isBlank c = false := by
  by_cases hne : layoutLines unit text = []
  · have hlines : lines (layoutText unit text) = [[]] := by
      rw [layoutText, hne]
      rfl
    rw [hlines, List.mem_singleton] at hl
    rw [hl] at hc
    cases hc
  · rw [lines_layoutText hunit hne] at hl
    obtain ⟨depth, line, rfl⟩ := exists_laidOut_of_mem hl
    exact isBlank_getLast?_laidOut hc

theorem eq_of_isBlank_of_mem_layoutText (hunit : IsBlankUnit unit) (hc : c ∈ layoutText unit text)
    (hblank : isBlank c = true) : c = ' ' ∨ c = '\t' ∨ c = '\n' := by
  rcases List.mem_append.mp hc with hc | hc
  · rcases mem_join hc with hc | ⟨l, hl, hc⟩
    · exact .inr (.inr (List.mem_singleton.mp hc))
    · obtain ⟨depth, line, rfl⟩ := exists_laidOut_of_mem hl
      rcases eq_of_isBlank_of_mem_laidOut hunit hc hblank with rfl | rfl
      · exact .inl rfl
      · exact .inr (.inl rfl)
  · exact .inr (.inr (List.mem_singleton.mp hc))

end Reindent

open Text Reindent

/-- Options that make the same request ask for the same unit. -/
theorem PrintOptions.unit_congr {options options' : PrintOptions} {request : Request}
    (h : Request.build options = .ok request) (h' : Request.build options' = .ok request) :
    options'.unit = options.unit := by
  rw [← PrintOptions.unit_toJson h, ← PrintOptions.unit_toJson h']

/-- **A printed text obeys the rules about blanks and tells the content of its source.** Let a
printer whose engine indents by braces answer a text. The answer ends in a line feed, before which
no blank stands unless there is nothing before it. None of its lines ends in a blank, and it has no
other blanks than spaces, tabs and line feeds, so no carriage returns. Under the same request two
texts are answered alike if and only if they have the same content: the words of each line, up to
the last line that has any. And what is not blank in the answer is what is not blank in the text, in
order. -/
theorem printIndented_policy (options : PrintOptions) (s : Session) (t out : String)
    (h : printIndented options s t = .ok out) :
    (∃ body, out.toList = body ++ ['\n'] ∧ (body = [] ∨ ∃ c ∈ body.getLast?, isBlank c = false)) ∧
    (∀ line ∈ lines out.toList, ∀ c ∈ line.getLast?, isBlank c = false) ∧
    (∀ c ∈ out.toList, isBlank c = true → c = ' ' ∨ c = '\t' ∨ c = '\n') ∧
    '\r' ∉ out.toList ∧
    (∀ options' s' t' out', Request.build options' = Request.build options →
      printIndented options' s' t' = .ok out' →
      (out = out' ↔ content t.toList = content t'.toList)) ∧
    out.toList.filter (! isBlank ·) = t.toList.filter (! isBlank ·) := by
  have hunit := options.isBlankUnit_unit
  obtain ⟨⟨request, hbuild⟩, hout⟩ := printIndented_eq_ok_iff.mp h
  have hcontent := content_of_reindented hunit hout
  have hblanks : ∀ c ∈ out.toList, isBlank c = true → c = ' ' ∨ c = '\t' ∨ c = '\n' := by
    obtain ⟨-, rfl⟩ := (reindented_eq_ok_iff hunit).mp hout
    intro c hc hblank
    rw [String.toList_ofList] at hc
    exact eq_of_isBlank_of_mem_layoutText hunit hc hblank
  refine ⟨?_, ?_, hblanks, ?_, ?_, ?_⟩
  · obtain ⟨-, rfl⟩ := (reindented_eq_ok_iff hunit).mp hout
    rw [String.toList_ofList]
    exact exists_layoutText_eq _ _
  · obtain ⟨-, rfl⟩ := (reindented_eq_ok_iff hunit).mp hout
    rw [String.toList_ofList]
    intro line hline c hc
    exact isBlank_getLast?_of_mem_lines hunit hline hc
  · intro hreturn
    rcases hblanks '\r' hreturn (by rfl) with h | h | h <;> cases h
  · intro options' s' t' out' hbuild' h'
    obtain ⟨-, hout'⟩ := printIndented_eq_ok_iff.mp h'
    rw [PrintOptions.unit_congr hbuild (hbuild'.trans hbuild)] at hout'
    constructor
    · rintro rfl
      rw [← hcontent, content_of_reindented hunit hout']
    · intro hsame
      rw [reindented_congr hsame, hout'] at hout
      exact (Except.ok.inj hout).symm
  · rw [← flatten_content, ← flatten_content, hcontent]

/-- Carriage returns, an en space alone on a line and blank lines at the end leave no trace in a
printed model. -/
theorem printIndented_policy_model :
    ∃ out,
      printIndented ⟨some "/a.prisma", 2, false⟩ { files := .empty }
        "model A \x7b\r\n\u2002\r\nid\u00a0 Int\r\n\x7d\r\n \r\n" = .ok out ∧
      printIndented ⟨some "/a.prisma", 2, false⟩
        { files := .empty } "model A \x7b\n\n\tid Int\n\x7d" = .ok out ∧
      content "model A \x7b\r\n\u2002\r\nid\u00a0 Int\r\n\x7d\r\n \r\n".toList =
        content "model A \x7b\n\n\tid Int\n\x7d".toList ∧
      (∀ line ∈ lines out.toList, ∀ c ∈ line.getLast?, isBlank c = false) ∧ '\r' ∉ out.toList := by
  have hbuild : ∃ request, Request.build ⟨some "/a.prisma", 2, false⟩ = .ok request := ⟨_, rfl⟩
  have hreturns : printIndented ⟨some "/a.prisma", 2, false⟩ { files := .empty }
      "model A \x7b\r\n\u2002\r\nid\u00a0 Int\r\n\x7d\r\n \r\n" =
        .ok "model A \x7b\n\n  id Int\n\x7d\n" :=
    printIndented_eq_ok_iff.mpr ⟨hbuild, rfl⟩
  have hplain : printIndented ⟨some "/a.prisma", 2, false⟩ { files := .empty }
      "model A \x7b\n\n\tid Int\n\x7d" = .ok "model A \x7b\n\n  id Int\n\x7d\n" :=
    printIndented_eq_ok_iff.mpr ⟨hbuild, rfl⟩
  obtain ⟨-, hends, -, hreturn, hsame, -⟩ := printIndented_policy _ _ _ _ hreturns
  exact ⟨_, hreturns, hplain, (hsame _ _ _ _ rfl hplain).mp rfl, hends, hreturn⟩

end SchemaFormat
