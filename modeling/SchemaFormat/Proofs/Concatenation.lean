import SchemaFormat.Proofs.Whitespace

/-!
Texts one behind the other.

Behind a text whose blocks are all closed, and that a line feed ends, another text stands as it
stands alone: its lines close too much where they do alone (`overclosesAt_append_iff`) and are laid
out alike (`layout_append`). So what becomes of both is what becomes of each, with the blank lines
between them (`layoutText_append`) and the number of a refused line counted from the first line of
all (`Judged.append_fault`). A text that closes too much does so whatever follows
(`Judged.append_of_overclosed`). `printIndented_append` says so of a printer.
-/

namespace SchemaFormat

namespace Text

theorem rdropWhile_append {α : Type} {drop : α → Bool} {before after : List α}
    (h : after.rdropWhile drop ≠ []) :
    (before ++ after).rdropWhile drop = before ++ after.rdropWhile drop := by
  have hkept : (after.reverse.dropWhile drop).isEmpty = false := by
    simpa [List.rdropWhile] using h
  rw [List.rdropWhile, List.reverse_append, List.dropWhile_append, hkept, if_neg (by simp),
    List.reverse_append, List.reverse_reverse, List.rdropWhile]

theorem join_replicate_append (k : Nat) {ls : List (List Char)} (h : ls ≠ []) :
    join ['\n'] (List.replicate k [] ++ ls) = List.replicate k '\n' ++ join ['\n'] ls := by
  induction k with
  | zero => rfl
  | succ k ih =>
    rw [List.replicate_succ, List.cons_append, join_cons _ _ (by simp [h]), ih]
    rfl

end Text

namespace Reindent

open Text

/-! ### Layout -/

section

variable {unit s t : List Char}

theorem laidOut_eq_nil_iff {depth : Int} {line : List Char} :
    laidOut unit depth line = [] ↔ ∀ c ∈ line, isBlank c = true := by
  rw [← words_eq_nil_iff]
  constructor
  · intro h
    by_contra hwords
    exact laidOut_ne_nil depth hwords h
  · intro h
    rw [laidOut, if_pos h]

/-- The blank lines at the end are the empty ones of the layout. -/
theorem length_rtakeWhile_layout (unit : List Char) (depth : Int) (ls : List (List Char)) :
    ((layout unit depth ls).rtakeWhile (· == [])).length =
      (ls.rtakeWhile (·.all isBlank)).length := by
  induction ls using List.reverseRecOn with
  | nil => rfl
  | append_singleton ls line ih =>
    -- A blank line is empty at any depth, so the balance of the lines before it does not matter.
    have hempty (before : Int) : (laidOut unit before line == []) = line.all isBlank := by
      rw [Bool.eq_iff_iff, beq_iff_eq, laidOut_eq_nil_iff, List.all_eq_true]
    rw [layout_append, layout, layout, List.rtakeWhile_concat, List.rtakeWhile_concat, hempty]
    split
    · rw [List.length_append, List.length_append, ih]
      rfl
    · rfl

/-- How many blank lines stand behind the last line that is not blank. -/
def blankLinesAtEnd (text : List Char) : Nat :=
  ((lines text).rtakeWhile (·.all isBlank)).length

theorem layout_lines_eq (unit text : List Char) :
    layout unit 0 (lines text) =
      layoutLines unit text ++ List.replicate (blankLinesAtEnd text) [] := by
  have hempty : (layout unit 0 (lines text)).rtakeWhile (· == []) =
      List.replicate (blankLinesAtEnd text) [] := by
    rw [List.eq_replicate_iff]
    refine ⟨length_rtakeWhile_layout unit 0 (lines text), fun l hl => ?_⟩
    simpa using List.mem_rtakeWhile_imp hl
  rw [← hempty, layoutLines, List.rdropWhile_append_rtakeWhile]

theorem layoutLines_ne_nil (unit : List Char) (h : ∃ c ∈ t, isBlank c = false) :
    layoutLines unit t ≠ [] := by
  obtain ⟨c, hc, hword⟩ := h
  have hnewline : c ≠ '\n' := by
    rintro rfl
    cases hword
  have hflatten : c ∈ (lines t).flatten := by
    rw [flatten_lines]
    exact List.mem_filter.mpr ⟨hc, by simpa using hnewline⟩
  obtain ⟨line, hline, hcline⟩ := List.mem_flatten.mp hflatten
  obtain ⟨i, hi⟩ := List.mem_iff_getElem?.mp hline
  rw [layoutLines, ne_eq, List.rdropWhile_eq_nil_iff]
  intro hempty
  have hlaidOut : laidOut unit (0 + balanceOf ((lines t).take i)) line ∈
      layout unit 0 (lines t) := by
    apply List.mem_of_getElem?
    rw [getElem?_layout, hi]
    rfl
  have hnil := eq_of_beq (hempty _ hlaidOut)
  rw [laidOut_eq_nil_iff.mp hnil c hcline] at hword
  cases hword

/-- **Behind closed blocks a text is laid out as it is alone**, with the blank lines before it. -/
theorem layoutText_append (hend : s.getLast? = some '\n') (hclosed : balanceOf (lines s) = 0)
    (hs : ∃ c ∈ s, isBlank c = false) (ht : ∃ c ∈ t, isBlank c = false) :
    layoutText unit (s ++ t) =
      layoutText unit s ++ List.replicate (blankLinesAtEnd s) '\n' ++ layoutText unit t := by
  have hsne := layoutLines_ne_nil unit hs
  have htne := layoutLines_ne_nil unit ht
  have hlines : layoutLines unit (s ++ t) =
      layoutLines unit s ++ (List.replicate (blankLinesAtEnd s) [] ++ layoutLines unit t) := by
    rw [layoutLines, lines_append_of_newline hend, layout_append, hclosed, Int.add_zero,
      rdropWhile_append htne, layout_lines_eq unit s, List.append_assoc]
    rfl
  rw [layoutText, layoutText, layoutText, hlines, join_append _ hsne (by simp [htne]),
    join_replicate_append _ htne]
  simp only [List.append_assoc]

end

/-! ### Lines that close too much -/

section

variable {s t : List Char} {i j n : Nat} {fault : EngineFault}

/-- Behind closed blocks the lines close too much that do alone. -/
theorem overclosesAt_append_iff (hsound : ∀ i, ¬ OverclosesAt (lines s) i)
    (hclosed : balanceOf (lines s) = 0) :
    OverclosesAt (lines s ++ lines t) i ↔
      ∃ j, i = (lines s).length + j ∧ OverclosesAt (lines t) j := by
  constructor
  · intro h
    rcases Nat.lt_or_ge i (lines s).length with hi | hi
    · exact absurd ((overclosesAt_append_left hi).mp h) (hsound i)
    · obtain ⟨j, rfl⟩ := Nat.exists_eq_add_of_le hi
      simp only [overclosesAt_append_right, hclosed, Int.zero_add] at h
      exact ⟨j, rfl, h⟩
  · rintro ⟨j, rfl, h⟩
    simp only [overclosesAt_append_right, hclosed, Int.zero_add]
    exact h

theorem isLeast_overclosesAt_append (hsound : ∀ i, ¬ OverclosesAt (lines s) i)
    (hclosed : balanceOf (lines s) = 0) (h : IsLeast {i | OverclosesAt (lines t) i} j) :
    IsLeast {i | OverclosesAt (lines s ++ lines t) i} ((lines s).length + j) := by
  constructor
  · exact (overclosesAt_append_iff hsound hclosed).mpr ⟨j, rfl, h.1⟩
  · intro i hi
    obtain ⟨k, rfl, hk⟩ := (overclosesAt_append_iff hsound hclosed).mp hi
    exact Nat.add_le_add_left (h.2 hk) _

/-- No later line is the first to close too much. -/
theorem isLeast_overclosesAt_append_left (h : IsLeast {i | OverclosesAt (lines s) i} i) :
    IsLeast {i | OverclosesAt (lines s ++ lines t) i} i := by
  have hi := h.1.lt
  constructor
  · exact (overclosesAt_append_left hi).mpr h.1
  · intro k hk
    by_contra hlt
    rw [Nat.not_le] at hlt
    have hk := (overclosesAt_append_left (hlt.trans hi)).mp hk
    exact absurd (h.2 hk) (Nat.not_le.mpr hlt)

namespace Judged

theorem balanceOf_eq_zero (h : Judged s none) : balanceOf (lines s) = 0 := by
  cases h with
  | accepted _ heq => rw [balanceOf_lines, balance, heq, Int.sub_self]

theorem append_accepted (hs : Judged s none) (hend : s.getLast? = some '\n') (ht : Judged t none) :
    Judged (s ++ t) none := by
  have hclosed := hs.balanceOf_eq_zero
  have hclosed' := ht.balanceOf_eq_zero
  rw [balanceOf_lines, balance] at hclosed hclosed'
  refine .accepted (fun i hi => ?_) ?_
  · rw [lines_append_of_newline hend, overclosesAt_append_iff hs.sound hs.balanceOf_eq_zero] at hi
    obtain ⟨j, -, hj⟩ := hi
    exact ht.sound j hj
  · rw [List.count_append, List.count_append]
    omega

/-- Behind closed blocks a text is refused for what it is refused for alone, its lines counted on.
-/
theorem append_fault (hs : Judged s none) (hend : s.getLast? = some '\n')
    (ht : Judged t (some fault)) :
    (∃ n, fault = closingFault n ∧ Judged (s ++ t) (some (closingFault (n + (lines s).length)))) ∨
      fault = openFault ∧ Judged (s ++ t) (some openFault) := by
  have hclosed := hs.balanceOf_eq_zero
  have hlines := lines_append_of_newline hend t
  cases ht with
  | @overclosed j first =>
    refine .inl ⟨j + 1, rfl, ?_⟩
    have hfirst := isLeast_overclosesAt_append hs.sound hclosed first
    rw [← hlines] at hfirst
    have hnumber : (lines s).length + j + 1 = j + 1 + (lines s).length := by omega
    rw [← hnumber]
    exact .overclosed hfirst
  | unclosed sound hne =>
    refine .inr ⟨rfl, .unclosed (fun i hi => ?_) ?_⟩
    · rw [hlines, overclosesAt_append_iff hs.sound hclosed] at hi
      obtain ⟨j, -, hj⟩ := hi
      exact sound j hj
    · rw [balanceOf_lines, balance] at hclosed
      rw [List.count_append, List.count_append]
      omega

theorem closingFault_ne_openFault (n : Nat) : closingFault n ≠ openFault := by
  intro h
  have htext := congrArg String.toList (EngineFault.rejected.inj h)
  simp [toString] at htext

/-- What closes too much does so whatever follows. -/
theorem append_of_overclosed (h : Judged s (some (closingFault n))) (hend : s.getLast? = some '\n')
    (t : List Char) :
    Judged (s ++ t) (some (closingFault n)) := by
  generalize hfault : closingFault n = fault at h
  cases h with
  | overclosed first =>
    refine .overclosed ?_
    rw [lines_append_of_newline hend]
    exact isLeast_overclosesAt_append_left first
  | unclosed => exact absurd hfault (closingFault_ne_openFault n)

end Judged

end

end Reindent

open Text Reindent

/-- **Behind closed blocks a text is printed as it is alone.** Let two texts not be blank, and let a
line feed end the first one. If both are printed, what is printed of the one behind the other is
what is printed of each, with as many line feeds between them as the first text has blank lines at
its end. If only the first one is printed, the two together are refused with the message that the
second one is refused with, and a line in it is counted on from the lines of the first one. And if
the first one closes a block too many, the two together are refused with its message. -/
theorem printIndented_append (options : PrintOptions) (s t : String) (s₁ s₂ s₃ : Session)
    (hs : ∃ c ∈ s.toList, isBlank c = false) (ht : ∃ c ∈ t.toList, isBlank c = false)
    (hend : s.toList.getLast? = some '\n') :
    (∀ a b, printIndented options s₁ s = .ok a → printIndented options s₂ t = .ok b →
      printIndented options s₃ (s ++ t) =
        .ok (a ++ String.ofList (List.replicate (blankLinesAtEnd s.toList) '\n') ++ b)) ∧
    (∀ a fault, printIndented options s₁ s = .ok a → printIndented options s₂ t = .error fault →
      (∃ n, fault = .engine (closingFault n) ∧
        printIndented options s₃ (s ++ t) =
          .error (.engine (closingFault (n + (lines s.toList).length)))) ∨
      fault = .engine openFault ∧ printIndented options s₃ (s ++ t) = .error (.engine openFault)) ∧
    ∀ n, printIndented options s₁ s = .error (.engine (closingFault n)) →
      printIndented options s₃ (s ++ t) = .error (.engine (closingFault n)) := by
  have hunit := options.isBlankUnit_unit
  refine ⟨?_, ?_, ?_⟩
  · intro a b ha hb
    obtain ⟨hbuild, ha⟩ := printIndented_eq_ok_iff.mp ha
    obtain ⟨-, hb⟩ := printIndented_eq_ok_iff.mp hb
    obtain ⟨hjudged, rfl⟩ := (reindented_eq_ok_iff hunit).mp ha
    obtain ⟨hjudged', rfl⟩ := (reindented_eq_ok_iff hunit).mp hb
    refine printIndented_eq_ok_iff.mpr ⟨hbuild, (reindented_eq_ok_iff hunit).mpr ?_⟩
    rw [String.toList_append, layoutText_append hend hjudged.balanceOf_eq_zero hs ht,
      String.ofList_append, String.ofList_append]
    exact ⟨hjudged.append_accepted hend hjudged', rfl⟩
  · intro a fault ha hfault
    obtain ⟨⟨request, hbuild⟩, ha⟩ := printIndented_eq_ok_iff.mp ha
    obtain ⟨hjudged, -⟩ := (reindented_eq_ok_iff hunit).mp ha
    obtain ⟨refusal, rfl, hrefusal⟩ := exists_engine_of_printIndented hbuild hfault
    rw [reindented_eq_error_iff hunit] at hrefusal
    have hprint (other : EngineFault) (h : Judged (s.toList ++ t.toList) (some other)) :
        printIndented options s₃ (s ++ t) = .error (.engine other) := by
      refine printIndented_eq_engine_iff.mpr
        ⟨⟨request, hbuild⟩, (reindented_eq_error_iff hunit).mpr ?_⟩
      rwa [String.toList_append]
    rcases hjudged.append_fault hend hrefusal with ⟨n, rfl, h⟩ | ⟨rfl, h⟩
    · exact .inl ⟨n, rfl, hprint _ h⟩
    · exact .inr ⟨rfl, hprint _ h⟩
  · intro n hn
    obtain ⟨hbuild, hn⟩ := printIndented_eq_engine_iff.mp hn
    rw [reindented_eq_error_iff hunit] at hn
    refine printIndented_eq_engine_iff.mpr ⟨hbuild, (reindented_eq_error_iff hunit).mpr ?_⟩
    rw [String.toList_append]
    exact hn.append_of_overclosed hend t.toList

/-- Two blank lines at the end of a model and one at the start of an enumeration are three between
them. A block that stays open behind the model is what both are refused for, and so is a block
closed too often before it. -/
theorem printIndented_append_models :
    printIndented ⟨some "/a.prisma", 2, false⟩ { files := .empty }
        ("model A \x7b\n\x7d\n\n \n" ++ "\nenum B \x7b\nx\n\x7d") =
      .ok ("model A \x7b\n\x7d\n" ++ "\n\n" ++ "\nenum B \x7b\n  x\n\x7d\n") ∧
    printIndented ⟨some "/a.prisma", 2, false⟩ { files := .empty }
        ("model A \x7b\n\x7d\n\n \n" ++ "enum B \x7b") =
      .error (.engine openFault) ∧
    printIndented ⟨some "/a.prisma", 2, false⟩ { files := .empty }
        ("a\n\x7d\n" ++ "model A \x7b\n\x7d\n\n \n") =
      .error (.engine (closingFault 2)) := by
  have hbuild : ∃ request, Request.build ⟨some "/a.prisma", 2, false⟩ = .ok request := ⟨_, rfl⟩
  have hmodel :
      printIndented ⟨some "/a.prisma", 2, false⟩ { files := .empty } "model A \x7b\n\x7d\n\n \n" =
        .ok "model A \x7b\n\x7d\n" := printIndented_eq_ok_iff.mpr ⟨hbuild, rfl⟩
  have henum :
      printIndented ⟨some "/a.prisma", 2, false⟩ { files := .empty } "\nenum B \x7b\nx\n\x7d" =
        .ok "\nenum B \x7b\n  x\n\x7d\n" := printIndented_eq_ok_iff.mpr ⟨hbuild, rfl⟩
  have hopen : printIndented ⟨some "/a.prisma", 2, false⟩ { files := .empty } "enum B \x7b" =
      .error (.engine openFault) := printIndented_eq_engine_iff.mpr ⟨hbuild, rfl⟩
  have hclosing : printIndented ⟨some "/a.prisma", 2, false⟩ { files := .empty } "a\n\x7d\n" =
      .error (.engine (closingFault 2)) := printIndented_eq_engine_iff.mpr ⟨hbuild, rfl⟩
  refine ⟨?_, ?_, ?_⟩
  · have hboth := (printIndented_append _ _ _ _ _ { files := .empty } ⟨'m', by decide, rfl⟩
      ⟨'e', by decide, rfl⟩ (by decide)).1 _ _ hmodel henum
    have hblank : blankLinesAtEnd "model A \x7b\n\x7d\n\n \n".toList = 2 := by rfl
    rw [hblank] at hboth
    exact hboth
  · rcases (printIndented_append _ _ _ _ _ { files := .empty } ⟨'m', by decide, rfl⟩
      ⟨'e', by decide, rfl⟩ (by decide)).2.1 _ _ hmodel hopen with ⟨n, hfault, -⟩ | ⟨-, hboth⟩
    · exact absurd (PrintFault.engine.inj hfault).symm (Judged.closingFault_ne_openFault n)
    · exact hboth
  · exact (printIndented_append _ _ _ _ { files := .empty } { files := .empty }
      ⟨'a', by decide, rfl⟩ ⟨'m', by decide, rfl⟩ (by decide)).2.2 2 hclosing

end SchemaFormat
