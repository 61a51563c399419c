import SchemaFormat.Proofs.Nesting

/-!
Where the lines of an indented text stand.

The lines of a text that is laid out are those of the layout (`lines_layoutText`), so each line up
to the last one that has words is found at its own place (`getElem?_lines_layoutText`). It stands as
deep as the braces before it come to, less one if it begins by closing a block, and no such depth is
below zero (`leading_le_balanceOf`). `lines_formatText_indenter` says so of a formatter, from its
options to the lines of its answer.
-/

namespace SchemaFormat

namespace Text

theorem getElem?_rdropWhile {α : Type} {drop : α → Bool} {l : List α} {i j : Nat} {a : α}
    (hij : i ≤ j) (ha : l[j]? = some a)
    (hkept : drop a = false) : (l.rdropWhile drop)[i]? = l[i]? := by
  have hparts : l.rdropWhile drop ++ l.rtakeWhile drop = l := List.rdropWhile_append_rtakeWhile
  have hj : j < (l.rdropWhile drop).length := by
    by_contra hge
    rw [← hparts, List.getElem?_append_right (Nat.not_lt.mp hge)] at ha
    have hdropped := List.mem_rtakeWhile_imp (List.mem_of_getElem? ha)
    rw [hkept] at hdropped
    cases hdropped
  conv_rhs => rw [← hparts]
  rw [List.getElem?_append_left (Nat.lt_of_le_of_lt hij hj)]

end Text

namespace Reindent

open Text

variable {unit text : List Char} {ls : List (List Char)} {i j : Nat} {line last : List Char}

/-- A line takes no more blocks off its depth than there are. -/
theorem leading_le_balanceOf (h : ∀ i, ¬ OverclosesAt ls i) (hline : ls[i]? = some line) :
    (leading (join [' '] (words line)) : Int) ≤ balanceOf (ls.take i) := by
  have hnot : ¬ Overcloses (balanceOf (ls.take i)) line := fun hover => h i ⟨line, hline, hover⟩
  rw [Overcloses, not_or, not_and, Int.not_le] at hnot
  rw [leading_joined]
  split
  · rename_i hfirst
    have hpos := hnot.1 hfirst
    omega
  · simpa using balanceOf_take_nonneg h i

theorem laidOut_ne_nil (depth : Int) (hline : words line ≠ []) : laidOut unit depth line ≠ [] := by
  rw [laidOut, if_neg hline]
  have hjoined := (join_eq_nil_iff fun w => isWord_of_mem_words).not.mpr hline
  exact List.append_ne_nil_of_right_ne_nil _ hjoined

/-- A text that is laid out has the lines of its layout, if it has any. -/
theorem lines_layoutText (hunit : IsBlankUnit unit) (hne : layoutLines unit text ≠ []) :
    lines (layoutText unit text) = layoutLines unit text := by
  rw [layoutText, lines_join hne]
  intro l hl
  obtain ⟨depth, line, rfl⟩ := exists_laidOut_of_mem hl
  exact newline_notMem_laidOut hunit depth line

/-- Up to the last line that has words, each line is laid out at its own place. -/
theorem getElem?_lines_layoutText (hunit : IsBlankUnit unit) (hij : i ≤ j)
    (hline : (lines text)[i]? = some line) (hlast : (lines text)[j]? = some last)
    (hwords : words last ≠ []) :
    (lines (layoutText unit text))[i]? =
      some (laidOut unit (balanceOf ((lines text).take i)) line) := by
  have hkept : (layout unit 0 (lines text))[j]? =
      some (laidOut unit (0 + balanceOf ((lines text).take j)) last) := by
    rw [getElem?_layout, hlast]
    rfl
  have hfound : (layoutLines unit text)[i]? = (layout unit 0 (lines text))[i]? :=
    getElem?_rdropWhile hij hkept (by simpa using laidOut_ne_nil _ hwords)
  rw [getElem?_layout, hline, Option.map_some, Int.zero_add] at hfound
  rw [lines_layoutText hunit, hfound]
  intro hnil
  rw [hnil] at hfound
  cases hfound

end Reindent

open Text Reindent

/-- **Each line stands as deep as the braces before it come to.** Let a formatter that indents by
braces answer a text. Up to the last line of the text that is not blank, the lines of the answer are
those of the text, each at its place: a blank line is empty, and any other line is its words with
one space between them, behind as many units as blocks are open before it, not counting the one that
it closes with its first word. The unit is what the options ask for, a tab or that many spaces. -/
theorem Formatter.lines_formatText_indenter (width : UInt32) (tabs : Bool) (parser : Option String)
    (p : Path) (t out : String) (s : Session)
    (h : ((indenter ⟨width, tabs, parser⟩).formatText t p s).1 = .ok out) (i j : Nat)
    (line last : List Char) (hij : i ≤ j) (hline : (lines t.toList)[i]? = some line)
    (hlast : (lines t.toList)[j]? = some last) (hwords : ∃ c ∈ last, isBlank c = false) :
    ((∀ c ∈ line, isBlank c = true) → (lines out.toList)[i]? = some []) ∧
    ((∃ c ∈ line, isBlank c = false) →
      ∃ k : Nat,
        (k : Int) = balanceOf ((lines t.toList).take i) -
          (if (words line).head?.bind List.head? = some '\x7d' then 1 else 0) ∧
        (lines out.toList)[i]? =
          some ((List.replicate k
            (if tabs then ['\t'] else List.replicate width.toNat ' ')).flatten ++
            join [' '] (words line))) := by
  obtain ⟨-, -, hout⟩ := exists_of_formatText_indenter h
  have hunit := FormatOptions.isBlankUnit_unit ⟨width, tabs, parser⟩
  obtain ⟨hjudged, rfl⟩ := (reindented_eq_ok_iff hunit).mp hout
  have hlast' : words last ≠ [] := by
    rw [ne_eq, words_eq_nil_iff]
    simpa using hwords
  have hfound := getElem?_lines_layoutText hunit hij hline hlast hlast'
  rw [String.toList_ofList, hfound, laidOut]
  constructor
  · intro hblank
    rw [if_pos (words_eq_nil_iff.mpr hblank)]
  · rintro ⟨c, hc, hword⟩
    have hne : words line ≠ [] := by
      intro hnil
      rw [words_eq_nil_iff.mp hnil c hc] at hword
      cases hword
    have hdepth := leading_le_balanceOf hjudged.sound hline
    have hleading : (leading (join [' '] (words line)) : Int) =
        if (words line).head?.bind List.head? = some '\x7d' then 1 else 0 := by
      rw [leading, head?_join fun w => isWord_of_mem_words]
      split <;> rfl
    rw [hleading] at hdepth ⊢
    refine ⟨_, Int.toNat_of_nonneg (Int.sub_nonneg_of_le hdepth), ?_⟩
    rw [if_neg hne]
    rfl

/-- A line that closes one block of two and opens another stands at the first level, whatever a tab
is wide. -/
theorem Formatter.lines_formatText_indenter_nested :
    ∃ out, ((indenter ⟨7, true, none⟩).formatText
        "a \x7b\n b \x7b\n\n  c  d\n \x7d e \x7b\n \x7d\n\x7d\n\n"
        (Path.ofString "a.prisma") { files := .empty }).1 = .ok out ∧
      (lines out.toList)[4]? = some "\t\x7d e \x7b".toList := by
  have h :
      ((indenter ⟨7, true, none⟩).formatText
          "a \x7b\n b \x7b\n\n  c  d\n \x7d e \x7b\n \x7d\n\x7d\n\n"
          (Path.ofString "a.prisma") { files := .empty }).1 =
        .ok "a \x7b\n\tb \x7b\n\n\t\tc d\n\t\x7d e \x7b\n\t\x7d\n\x7d\n" := by
    rw [formatText_indenter (by decide) rfl]
    rfl
  obtain ⟨k, hk, hline⟩ :=
    (lines_formatText_indenter 7 true none _ _ _ _ h 4 6 _ _ (by decide) rfl rfl
      ⟨'\x7d', by decide, rfl⟩).2 ⟨'\x7d', by decide, rfl⟩
  refine ⟨_, h, ?_⟩
  obtain rfl : k = 1 := by
    apply Int.ofNat.inj
    exact hk.trans (by decide)
  exact hline

end SchemaFormat
