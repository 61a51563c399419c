import Mathlib.Order.Bounds.Basic
import SchemaFormat.Proofs.Reindent

/-!
How deep the lines of a text stand.

Indenting by braces keeps a depth and changes it line by line. Here the depth before a line is the
balance of the braces in the lines before it, which needs no run to be told (`balanceOf`). A run is
in step with the balances line by line (`Tallied.take`), up to the first line that closes a block
too many (`OverclosesAt`). So what becomes of a text can be read off its braces (`Judged`), and so
can the layout of its lines (`layout`): `reindented_eq_error_iff` and `reindented_eq_ok_iff` say
that this is what indenting answers.
-/

namespace SchemaFormat.Reindent

open Text

/-! ### Balances -/

/-- By how many blocks a text is deeper at its end than at its start. -/
def balance (text : List Char) : Int :=
  (text.count '\x7b' : Int) - text.count '\x7d'

/-- By how many blocks some lines are deeper at their end than at their start. -/
def balanceOf : List (List Char) → Int
  | [] => 0
  | line :: rest => balance line + balanceOf rest

@[simp] theorem balanceOf_nil : balanceOf [] = 0 := rfl

@[simp] theorem balanceOf_cons (line : List Char) (rest : List (List Char)) :
    balanceOf (line :: rest) = balance line + balanceOf rest := rfl

@[simp] theorem balanceOf_append (ls more : List (List Char)) :
    balanceOf (ls ++ more) = balanceOf ls + balanceOf more := by
  induction ls with
  | nil => simp
  | cons line ls ih => rw [List.cons_append, balanceOf_cons, balanceOf_cons, ih, Int.add_assoc]

theorem balance_append (text more : List Char) :
    balance (text ++ more) = balance text + balance more := by
  simp only [balance, List.count_append]
  omega

theorem balance_flatten (ls : List (List Char)) : balance ls.flatten = balanceOf ls := by
  induction ls with
  | nil => rfl
  | cons line ls ih => rw [List.flatten_cons, balance_append, ih, balanceOf_cons]

theorem balanceOf_lines (text : List Char) : balanceOf (lines text) = balance text := by
  rw [← balance_flatten, flatten_lines, balance, balance, List.count_filter (by rfl),
    List.count_filter (by rfl)]

/-! ### Lines that close too much -/

/-- The first character of a line that is no blank closes a block. -/
def ClosesFirst (line : List Char) : Prop :=
  line.find? (! isBlank ·) = some '\x7d'

instance (line : List Char) : Decidable (ClosesFirst line) :=
  inferInstanceAs (Decidable (_ = _))

/-- At a depth, a line closes a block too many: at its start, or counted over the whole of it. -/
def Overcloses (depth : Int) (line : List Char) : Prop :=
  (ClosesFirst line ∧ depth ≤ 0) ∨ depth + balance line < 0

instance (depth : Int) (line : List Char) : Decidable (Overcloses depth line) :=
  inferInstanceAs (Decidable (_ ∨ _))

/-- Among some lines, the one with that number, counted from zero, closes a block too many. -/
def OverclosesAt (ls : List (List Char)) (i : Nat) : Prop :=
  ∃ line ∈ ls[i]?, Overcloses (balanceOf (ls.take i)) line

instance (ls : List (List Char)) (i : Nat) : Decidable (OverclosesAt ls i) :=
  inferInstanceAs (Decidable (∃ line ∈ ls[i]?, Overcloses (balanceOf (ls.take i)) line))

section

variable {ls more : List (List Char)} {line : List Char} {i : Nat}

theorem OverclosesAt.lt (h : OverclosesAt ls i) : i < ls.length := by
  obtain ⟨line, hline, -⟩ := h
  exact (List.getElem?_eq_some_iff.mp hline).1

/-- Later lines make no difference to a line. -/
theorem overclosesAt_append_left (h : i < ls.length) :
    OverclosesAt (ls ++ more) i ↔ OverclosesAt ls i := by
  rw [OverclosesAt, OverclosesAt, List.getElem?_append_left h, List.take_append_of_le_length h.le]

/-- Earlier lines make the difference of their balance. -/
theorem overclosesAt_append_right :
    OverclosesAt (ls ++ more) (ls.length + i) ↔
      ∃ line ∈ more[i]?, Overcloses (balanceOf ls + balanceOf (more.take i)) line := by
  rw [OverclosesAt, List.getElem?_append_right (Nat.le_add_right _ i), Nat.add_sub_cancel_left,
    List.take_length_add_append, balanceOf_append]

theorem overclosesAt_concat_iff :
    OverclosesAt (ls ++ [line]) i ↔
      OverclosesAt ls i ∨ i = ls.length ∧ Overcloses (balanceOf ls) line := by
  constructor
  · intro h
    have hlt := h.lt
    rw [List.length_append, List.length_singleton] at hlt
    rcases Nat.lt_or_ge i ls.length with hi | hi
    · exact .inl ((overclosesAt_append_left hi).mp h)
    · obtain rfl : i = ls.length := by omega
      obtain ⟨last, hlast, hover⟩ := overclosesAt_append_right (i := 0) |>.mp h
      obtain rfl : line = last := by simpa using hlast
      exact .inr ⟨rfl, by simpa using hover⟩
  · rintro (h | ⟨rfl, h⟩)
    · exact (overclosesAt_append_left h.lt).mpr h
    · exact overclosesAt_append_right (i := 0) |>.mpr ⟨line, rfl, by simpa using h⟩

/-- As long as no line closes too much, no depth is below zero. -/
theorem balanceOf_take_nonneg (h : ∀ i, ¬ OverclosesAt ls i) (i : Nat) :
    0 ≤ balanceOf (ls.take i) := by
  induction i with
  | zero => simp
  | succ i ih =>
    rw [List.take_add_one, balanceOf_append]
    cases hline : ls[i]? with
    | none => simpa using ih
    | some line =>
      have hnot : ¬ Overcloses (balanceOf (ls.take i)) line := fun hover => h i ⟨line, hline, hover⟩
      rw [Overcloses, not_or] at hnot
      simpa using hnot.2

end

/-! ### One line -/

/-- How many of its closing braces a line of joined words closes before it stands: one, if it begins
with it. -/
def leading (joined : List Char) : Nat :=
  if joined.head? = some '\x7d' then 1 else 0

theorem leading_le_closes (joined : List Char) : leading joined ≤ closes joined := by
  unfold leading
  split
  · rename_i hhead
    exact List.count_pos_iff.mpr (List.mem_of_mem_head? hhead)
  · exact Nat.zero_le _

variable {line : List Char} {depth : Nat}

theorem head?_joined_iff : (join [' '] (words line)).head? = some '\x7d' ↔ ClosesFirst line := by
  rw [head?_join_words, ClosesFirst]

theorem leading_joined (line : List Char) :
    leading (join [' '] (words line)) = if ClosesFirst line then 1 else 0 := by
  simp only [leading, head?_joined_iff]

theorem balance_joined (line : List Char) :
    balance line = opens (join [' '] (words line)) - closes (join [' '] (words line)) := by
  rw [opens, closes, count_join_words (by rfl), count_join_words (by rfl), balance]

theorem levels_eq (depth : Nat) (joined : List Char) :
    levels depth joined =
      if depth < leading joined then none
      else if depth - leading joined + opens joined < closes joined - leading joined then none
      else some (depth - leading joined,
        depth - leading joined + opens joined - (closes joined - leading joined)) := rfl

/-- The differences that a line asks for are below zero for the lines that close too much. -/
theorem levels_eq_none_iff :
    levels depth (join [' '] (words line)) = none ↔ Overcloses depth line := by
  have hleading := leading_le_closes (join [' '] (words line))
  rw [levels_eq, Overcloses, balance_joined]
  rw [leading_joined] at hleading ⊢
  -- A brace at the start is taken off before the line and no longer counts among those behind it.
  by_cases hfirst : ClosesFirst line
  · simp only [hfirst, if_true, true_and] at hleading ⊢
    split_ifs <;> simp <;> omega
  · simp only [hfirst, if_false, false_and, false_or]
    split_ifs <;> simp <;> omega

/-- For any other line none of them is cut off at zero, so the depth follows the balance. -/
theorem levels_of_not_overcloses (h : ¬ Overcloses depth line) :
    levels depth (join [' '] (words line)) =
      some (depth - leading (join [' '] (words line)), (depth + balance line).toNat) := by
  have hsome := levels_eq_none_iff.not.mpr h
  have hleading := leading_le_closes (join [' '] (words line))
  rw [levels_eq] at hsome ⊢
  rw [balance_joined]
  split_ifs at hsome ⊢ with hstart hend
  · exact absurd rfl hsome
  · exact absurd rfl hsome
  · congr 2
    omega

/-- A line as it is laid out at the depth that holds before it. -/
def laidOut (unit : List Char) (depth : Int) (line : List Char) : List Char :=
  if words line = [] then []
  else indent unit (depth - leading (join [' '] (words line))).toNat ++ join [' '] (words line)

section

variable {unit : List Char} {p : Progress}

/-- A line that closes too much is where a run ends. -/
theorem take_of_overcloses (hp : p.fault = none) (h : Overcloses p.depth line) :
    p.take unit line = { p with fault := some (p.count + 1) } := by
  rw [Progress.take_eq_takeWords]
  have hlevels := levels_eq_none_iff.mpr h
  apply Progress.takeWords_refused hp _ hlevels
  intro hblank
  rw [hblank] at hlevels
  cases hlevels

/-- Any other line is laid out, and the depth follows its balance. -/
theorem take_of_not_overcloses (hp : p.fault = none) (h : ¬ Overcloses p.depth line) :
    p.take unit line = { p with
      written := laidOut unit p.depth line :: p.written
      depth := (p.depth + balance line).toNat
      count := p.count + 1 } := by
  rw [Progress.take_eq_takeWords]
  by_cases hwords : words line = []
  · have hbalance : balance line = 0 := by
      rw [balance_joined, hwords]
      rfl
    rw [hwords, Progress.takeWords_blank hp rfl, laidOut, if_pos hwords, hbalance]
    simp
  · have hjoined : join [' '] (words line) ≠ [] :=
      (join_eq_nil_iff fun w => isWord_of_mem_words).not.mpr hwords
    rw [Progress.takeWords_indented hp hjoined (levels_of_not_overcloses h), laidOut, if_neg hwords]
    congr 4
    omega

end

/-! ### All lines -/

/-- Lines as they are laid out from a depth on. -/
def layout (unit : List Char) : Int → List (List Char) → List (List Char)
  | _, [] => []
  | depth, line :: rest => laidOut unit depth line :: layout unit (depth + balance line) rest

theorem layout_append (unit : List Char) (depth : Int) (ls more : List (List Char)) :
    layout unit depth (ls ++ more) =
      layout unit depth ls ++ layout unit (depth + balanceOf ls) more := by
  induction ls generalizing depth with
  | nil => simp [layout]
  | cons line ls ih =>
    rw [List.cons_append, layout, layout, ih, List.cons_append, balanceOf_cons, Int.add_assoc]

/-- Each line is laid out at the balance of the lines before it. -/
theorem getElem?_layout (unit : List Char) (depth : Int) (ls : List (List Char)) (i : Nat) :
    (layout unit depth ls)[i]? = ls[i]?.map (laidOut unit (depth + balanceOf (ls.take i))) := by
  induction ls generalizing depth i with
  | nil => rfl
  | cons line ls ih =>
    cases i with
    | zero => simp [layout]
    | succ i => simp [layout, ih, Int.add_assoc]

/-- The account of a run, by the lines that it has taken: it has laid them out and is as deep as
they balance to, or it ended at the first one that closes a block too many. -/
inductive Tallied (unit : List Char) (taken : List (List Char)) (p : Progress) : Prop where
  | going (fault : p.fault = none) (depth : (p.depth : Int) = balanceOf taken)
      (count : p.count = taken.length) (written : p.written.reverse = layout unit 0 taken)
      (sound : ∀ i, ¬ OverclosesAt taken i)
  | stopped {i : Nat} (fault : p.fault = some (i + 1))
      (first : IsLeast {j | OverclosesAt taken j} i)

namespace Tallied

variable {unit : List Char} {taken : List (List Char)} {p : Progress}

theorem start (unit : List Char) : Tallied unit [] {} := by
  refine .going rfl rfl rfl rfl fun i h => ?_
  exact absurd h.lt (Nat.not_lt_zero i)

/-- **One more line keeps the account.** -/
theorem take (h : Tallied unit taken p) (line : List Char) :
    Tallied unit (taken ++ [line]) (p.take unit line) := by
  cases h with
  | stopped hfault hfirst =>
    -- The new line may close too much as well, but it is not the first one to do so.
    rw [Progress.take_eq_takeWords, Progress.takeWords_of_fault (by simp [hfault])]
    refine .stopped hfault ⟨overclosesAt_concat_iff.mpr (.inl hfirst.1), fun j hj => ?_⟩
    rcases overclosesAt_concat_iff.mp hj with hj | ⟨rfl, -⟩
    · exact hfirst.2 hj
    · exact hfirst.1.lt.le
  | going hfault hdepth hcount hwritten hsound =>
    by_cases hover : Overcloses p.depth line
    · rw [take_of_overcloses hfault hover]
      rw [hdepth] at hover
      refine .stopped (congrArg (some <| · + 1) hcount)
        ⟨overclosesAt_concat_iff.mpr (.inr ⟨rfl, hover⟩), fun j hj => ?_⟩
      rcases overclosesAt_concat_iff.mp hj with hj | ⟨rfl, -⟩
      · exact absurd hj (hsound j)
      · exact le_rfl
    · rw [take_of_not_overcloses hfault hover]
      have hnonneg : 0 ≤ p.depth + balance line := by
        rw [Overcloses, not_or] at hover
        omega
      rw [hdepth] at hover hnonneg ⊢
      refine .going hfault ?_ ?_ ?_ ?_
      · simpa using Int.toNat_of_nonneg hnonneg
      · simpa using hcount
      · simp [hwritten, layout_append, layout]
      · intro i hi
        rcases overclosesAt_concat_iff.mp hi with hi | ⟨-, hi⟩
        · exact hsound i hi
        · exact hover hi

/-- Any number of lines keep it. -/
theorem foldl (h : Tallied unit taken p) (ls : List (List Char)) :
    Tallied unit (taken ++ ls) (ls.foldl (Progress.take unit) p) := by
  induction ls generalizing taken p with
  | nil => simpa using h
  | cons line ls ih => simpa using ih (h.take line)

end Tallied

/-! ### What becomes of a text -/

/-- The fault of a line that closes a block too many, by the number of the line. -/
def closingFault (line : Nat) : EngineFault :=
  .rejected s!"unexpected \x60\x7d\x60 on line {line}"

def openFault : EngineFault :=
  .rejected "unclosed block"

/-- What the braces of a text come to: the fault that it is refused with, or none. -/
inductive Judged (text : List Char) : Option EngineFault → Prop where
  /-- The first line that closes a block too many is named, counted from one. -/
  | overclosed {i : Nat} (first : IsLeast {j | OverclosesAt (lines text) j} i) :
      Judged text (some (closingFault (i + 1)))
  | unclosed (sound : ∀ i, ¬ OverclosesAt (lines text) i)
      (h : text.count '\x7b' ≠ text.count '\x7d') :
      Judged text (some openFault)
  | accepted (sound : ∀ i, ¬ OverclosesAt (lines text) i)
      (h : text.count '\x7b' = text.count '\x7d') :
      Judged text none

theorem Judged.unique {text : List Char} {verdict other : Option EngineFault}
    (h : Judged text verdict) (h' : Judged text other) : verdict = other := by
  cases h with
  | overclosed first =>
    cases h' with
    | overclosed first' => rw [first.unique first']
    | unclosed sound => exact absurd first.1 (sound _)
    | accepted sound => exact absurd first.1 (sound _)
  | unclosed sound hne =>
    cases h' with
    | overclosed first => exact absurd first.1 (sound _)
    | unclosed => rfl
    | accepted _ heq => exact absurd heq hne
  | accepted sound heq =>
    cases h' with
    | overclosed first => exact absurd first.1 (sound _)
    | unclosed _ hne => exact absurd heq hne
    | accepted => rfl

/-- A text that comes to no fault closes nowhere too much. -/
theorem Judged.sound {text : List Char} (h : Judged text none) (i : Nat) :
    ¬ OverclosesAt (lines text) i := by
  cases h with
  | accepted sound => exact sound i

/-- The lines of a text as they are laid out, without empty ones at the end. -/
def layoutLines (unit text : List Char) : List (List Char) :=
  (layout unit 0 (lines text)).rdropWhile (· == [])

def layoutText (unit text : List Char) : List Char :=
  join ['\n'] (layoutLines unit text) ++ ['\n']

section

variable {unit : List Char}

theorem newline_notMem_laidOut (hunit : IsBlankUnit unit) (depth : Int) (line : List Char) :
    '\n' ∉ laidOut unit depth line := by
  unfold laidOut
  split
  · simp
  · exact (Faithful.indented hunit _ fun w => isWord_of_mem_words).2

theorem exists_laidOut_of_mem_layout {depth : Int} {ls : List (List Char)} {l : List Char}
    (h : l ∈ layout unit depth ls) : ∃ before line, l = laidOut unit before line := by
  obtain ⟨i, hi⟩ := List.mem_iff_getElem?.mp h
  rw [getElem?_layout, Option.map_eq_some_iff] at hi
  obtain ⟨line, -, rfl⟩ := hi
  exact ⟨_, line, rfl⟩

theorem exists_laidOut_of_mem {text l : List Char} (h : l ∈ layoutLines unit text) :
    ∃ depth line, l = laidOut unit depth line :=
  exists_laidOut_of_mem_layout ((List.rdropWhile_prefix _ _).subset h)

/-- A text is refused for what its braces come to, or else it is laid out. -/
theorem reindented_cases (hunit : IsBlankUnit unit) (text : String) :
    (∃ fault, Judged text.toList (some fault) ∧ reindented unit text = .error fault) ∨
      Judged text.toList none ∧
      reindented unit text = .ok (String.ofList (layoutText unit text.toList)) := by
  have hrun := (Tallied.start unit).foldl (lines text.toList)
  rw [reindented_eq_foldl]
  generalize (lines text.toList).foldl (Progress.take unit) {} = last at hrun
  cases hrun with
  | stopped hfault hfirst =>
    rw [List.nil_append] at hfirst
    refine .inl ⟨_, .overclosed hfirst, ?_⟩
    rw [Progress.result, hfault]
    rfl
  | going hfault hdepth _ hwritten hsound =>
    rw [List.nil_append] at hdepth hwritten hsound
    rw [balanceOf_lines, balance] at hdepth
    by_cases hzero : last.depth = 0
    · refine .inr ⟨.accepted hsound (by omega), Progress.result_eq_ok_iff.mpr ⟨hfault, hzero, ?_⟩⟩
      rw [hwritten, trimEnd_join, layoutText, layoutLines]
      intro l hl
      obtain ⟨depth, line, rfl⟩ := exists_laidOut_of_mem_layout hl
      exact newline_notMem_laidOut hunit depth line
    · refine .inl ⟨_, .unclosed hsound (by omega), ?_⟩
      simp only [Progress.result, hfault, if_pos hzero]
      rfl

/-- **A text is refused for what its braces come to**, whatever the unit. -/
theorem reindented_eq_error_iff (hunit : IsBlankUnit unit) {text : String} {fault : EngineFault} :
    reindented unit text = .error fault ↔ Judged text.toList (some fault) := by
  rcases reindented_cases hunit text with ⟨other, hjudged, hanswer⟩ | ⟨hjudged, hanswer⟩
  · rw [hanswer]
    constructor
    · rintro ⟨⟩
      exact hjudged
    · intro h
      rw [Option.some.inj (h.unique hjudged)]
  · rw [hanswer]
    constructor
    · rintro ⟨⟩
    · intro h
      cases h.unique hjudged

/-- **A text whose braces come to no fault is laid out line by line.** -/
theorem reindented_eq_ok_iff (hunit : IsBlankUnit unit) {text out : String} :
    reindented unit text = .ok out ↔
      Judged text.toList none ∧ out = String.ofList (layoutText unit text.toList) := by
  rcases reindented_cases hunit text with ⟨other, hjudged, hanswer⟩ | ⟨hjudged, hanswer⟩
  · rw [hanswer]
    constructor
    · rintro ⟨⟩
    · rintro ⟨h, -⟩
      cases h.unique hjudged
  · rw [hanswer]
    constructor
    · rintro ⟨⟩
      exact ⟨hjudged, rfl⟩
    · rintro ⟨-, rfl⟩
      rfl

end

end SchemaFormat.Reindent
