import Mathlib.Data.List.Basic
import SchemaFormat.Json.Reader
import SchemaFormat.Proofs.Lines

/-!
The texts that are JSON.

`Spells` is the grammar: it says which characters spell a value, the elements of an array or the
members of an object, with what each of them spells. A value may be spelled in many ways, with
blanks around its tokens and escapes in its strings. The one-line form is one of them
(`spells_compactChars`).
-/

namespace SchemaFormat.Json

/-! ### The grammar -/

/-- Characters that may stand around a token. -/
def Blank (ws : List Char) : Prop :=
  ∀ c ∈ ws, isSpace c = true

/-- What one character of a string is spelled as. -/
inductive SpellsChar : Char → List Char → Prop where
  | plain {c : Char} : c ≠ '"' → c ≠ '\\' → 0x20 ≤ c.toNat → SpellsChar c [c]
  | short {letter c : Char} : escaped? letter = some c → SpellsChar c ['\\', letter]
  | unit {a b c d : Char} {n : Nat} : unit? a b c d = some n → n < 0xD800 ∨ 0xDFFF < n →
      SpellsChar (Char.ofNat n) ['\\', 'u', a, b, c, d]
  | pair {a b c d e f g h : Char} {high low : Nat} :
      unit? a b c d = some high → unit? e f g h = some low →
      0xD800 ≤ high → high < 0xDC00 → 0xDC00 ≤ low → low ≤ 0xDFFF →
      SpellsChar (Char.ofNat (0x10000 + (high - 0xD800) * 0x400 + (low - 0xDC00)))
        ['\\', 'u', a, b, c, d, '\\', 'u', e, f, g, h]

inductive SpellsText : List Char → List Char → Prop where
  | nil : SpellsText [] []
  | cons {c : Char} {text spelled rest : List Char} : SpellsChar c spelled → SpellsText text rest →
      SpellsText (c :: text) (spelled ++ rest)

/-- Digits, and at least one. -/
structure IsDigits (ds : List Char) : Prop where
  nonempty : ds ≠ []
  digits : ∀ c ∈ ds, c.isDigit = true

/-- The digits in front of a fraction: none stands behind a zero that is the first. -/
structure IsWhole (ds : List Char) : Prop extends IsDigits ds where
  leading : ¬ (ds.head? = some '0' ∧ 1 < ds.length)

/-- The sign of a number; none is for one that is not negative. -/
def minus (negative : Bool) : List Char :=
  if negative then ['-'] else []

def signed (negative : Bool) (n : Nat) : Int :=
  if negative then -(n : Int) else n

/-- The digits of a fraction, if there is one. -/
inductive SpellsFraction : List Char → List Char → Prop where
  | none : SpellsFraction [] []
  | some {ds : List Char} : IsDigits ds → SpellsFraction ds ('.' :: ds)

/-- The sign of an exponent. -/
inductive SpellsSign : Bool → List Char → Prop where
  | none : SpellsSign false []
  | plus : SpellsSign false ['+']
  | minus : SpellsSign true ['-']

/-- The value of an exponent, if there is one. -/
inductive SpellsExponent : Option Int → List Char → Prop where
  | none : SpellsExponent none []
  | some {e : Char} {negative : Bool} {sign ds : List Char} :
      e = 'e' ∨ e = 'E' → SpellsSign negative sign → IsDigits ds →
      SpellsExponent (some (signed negative (Text.numberOf 10 ds))) (e :: (sign ++ ds))

/-- What the grammar speaks of. -/
inductive Phrase where
  | value (v : Value)
  /-- A value with the blanks around it. -/
  | element (v : Value)
  | elements (items : List Value)
  | member (name : String) (v : Value)
  | members (list : List (String × Value))

/-- What a phrase is spelled as. -/
inductive Spells : Phrase → List Char → Prop where
  | null : Spells (.value .null) "null".toList
  | bool (b : Bool) : Spells (.value (.bool b)) (if b then "true".toList else "false".toList)
  | integer (negative : Bool) {ds : List Char} : IsWhole ds →
      Spells (.value (.integer (signed negative (Text.numberOf 10 ds)))) (minus negative ++ ds)
  | decimal (negative : Bool) {whole part fraction exponent : List Char} {scale : Option Int} :
      IsWhole whole → SpellsFraction part fraction → SpellsExponent scale exponent →
      part ≠ [] ∨ scale ≠ none →
      Spells (.value (.decimal (signed negative (Text.numberOf 10 (whole ++ part)))
        (scale.getD 0 - part.length))) (minus negative ++ (whole ++ (fraction ++ exponent)))
  | string {text : String} {spelled : List Char} : SpellsText text.toList spelled →
      Spells (.value (.string text)) ('"' :: (spelled ++ ['"']))
  | noItems {ws : List Char} : Blank ws → Spells (.value (.array [])) ('[' :: (ws ++ [']']))
  | array {items : List Value} {spelled : List Char} : Spells (.elements items) spelled →
      Spells (.value (.array items)) ('[' :: (spelled ++ [']']))
  | noMembers {ws : List Char} : Blank ws →
      Spells (.value (.object [])) ('\x7b' :: (ws ++ ['\x7d']))
  | object {list : List (String × Value)} {spelled : List Char} : Spells (.members list) spelled →
      Spells (.value (.object list)) ('\x7b' :: (spelled ++ ['\x7d']))
  | element {v : Value} {before spelled after : List Char} :
      Blank before → Spells (.value v) spelled → Blank after →
      Spells (.element v) (before ++ (spelled ++ after))
  | lastElement {v : Value} {spelled : List Char} : Spells (.element v) spelled →
      Spells (.elements [v]) spelled
  | nextElement {v : Value} {items : List Value} {spelled rest : List Char} :
      Spells (.element v) spelled → Spells (.elements items) rest →
      Spells (.elements (v :: items)) (spelled ++ ',' :: rest)
  | member {name : String} {v : Value} {before named after spelled : List Char} : Blank before →
      SpellsText name.toList named → Blank after → Spells (.element v) spelled →
      Spells (.member name v) (before ++ '"' :: (named ++ '"' :: (after ++ ':' :: spelled)))
  | lastMember {name : String} {v : Value} {spelled : List Char} : Spells (.member name v) spelled →
      Spells (.members [(name, v)]) spelled
  | nextMember {name : String} {v : Value} {list : List (String × Value)}
      {spelled rest : List Char} :
      Spells (.member name v) spelled → Spells (.members list) rest →
      Spells (.members ((name, v) :: list)) (spelled ++ ',' :: rest)

/-- A text is JSON, and this is the value that it spells. -/
def Value.SpelledBy (v : Value) (text : String) : Prop :=
  Spells (.element v) text.toList

/-! ### Strings in the one-line form -/

theorem hexDigit?_hexDigit {n : Nat} (h : n < 16) : Text.hexDigit? (Text.hexDigit n) = some n := by
  revert n
  decide

theorem unit?_hexDigit {n : Nat} (h : n < 0x20) :
    unit? '0' '0' (Text.hexDigit (n / 16)) (Text.hexDigit (n % 16)) = some n := by
  have hzero : Text.hexDigit? '0' = some 0 := by decide
  have hhigh := hexDigit?_hexDigit (n := n / 16) (by omega)
  have hlow := hexDigit?_hexDigit (n := n % 16) (by omega)
  rw [unit?, hzero, hhigh, hlow]
  show some (((0 * 16 + 0) * 16 + n / 16) * 16 + n % 16) = some n
  congr 1
  omega

/-- A character is escaped only where it has to be, and as something that stands for it. -/
theorem spellsChar_escape (c : Char) : SpellsChar c (escape c) := by
  have hshort {d letter : Char} (h : c = d) (hletter : escaped? letter = some d) :
      SpellsChar c ['\\', letter] :=
    h ▸ .short hletter
  unfold escape
  split_ifs with hquote hslash hback htab hline hfeed hreturn hcontrol
  · exact hshort hquote rfl
  · exact hshort hslash rfl
  · exact hshort hback rfl
  · exact hshort htab rfl
  · exact hshort hline rfl
  · exact hshort hfeed rfl
  · exact hshort hreturn rfl
  · have hspelled := SpellsChar.unit (unit?_hexDigit hcontrol) (.inl (by omega))
    rwa [Char.ofNat_toNat] at hspelled
  · exact .plain hquote hslash (Nat.le_of_not_lt hcontrol)

theorem spellsText_escape (text : List Char) : SpellsText text (text.flatMap escape) := by
  induction text with
  | nil => exact .nil
  | cons c text ih => exact .cons (spellsChar_escape c) ih

/-! ### Numbers in the one-line form -/

theorem hexDigit?_of_isDigit {c : Char} (h : c.isDigit = true) :
    Text.hexDigit? c = some (c.toNat - '0'.toNat) := by
  have hbounds : 0x30 ≤ c.toNat ∧ c.toNat ≤ 0x39 := by
    simp only [Char.isDigit, Bool.and_eq_true, decide_eq_true_eq] at h
    exact h
  rw [Text.hexDigit?, if_pos hbounds]
  rfl

theorem isDigits_toDigits (n : Nat) : IsDigits (Nat.toDigits 10 n) :=
  ⟨Nat.toDigits_ne_nil, fun _ hc => Nat.isDigit_of_mem_toDigits (by decide) (by decide) hc⟩

theorem numberOf_toDigits (n : Nat) : Text.numberOf 10 (Nat.toDigits 10 n) = n := by
  suffices h : ∀ (ds : List Char) (start : Nat), (∀ c ∈ ds, c.isDigit = true) →
      ds.foldl (fun n c => 10 * n + (Text.hexDigit? c).getD 0) start =
        Nat.ofDigitChars 10 ds start by
    exact (h _ 0 (isDigits_toDigits n).digits).trans Nat.ofDigitChars_ten_toDigits
  intro ds
  induction ds with
  | nil => simp
  | cons c ds ih =>
    intro start hds
    rw [List.foldl_cons, Nat.ofDigitChars_cons, hexDigit?_of_isDigit (hds c List.mem_cons_self)]
    exact ih _ fun d hd => hds d (List.mem_cons_of_mem c hd)

/-- Only zero is written with a leading zero. -/
theorem eq_zero_of_head?_toDigits {n : Nat} (h : (Nat.toDigits 10 n).head? = some '0') : n = 0 := by
  induction n using Nat.strongRecOn with
  | _ n ih =>
    by_cases hn : n < 10
    · have hchar : ∀ m < 10, Nat.digitChar m = '0' → m = 0 := by decide
      rw [Nat.toDigits_of_lt_base hn] at h
      exact hchar n hn (Option.some.inj h)
    · rw [Nat.toDigits_of_base_le (by decide) (by omega),
        List.head?_append_of_ne_nil _ Nat.toDigits_ne_nil] at h
      have := ih (n / 10) (by omega) h
      omega

theorem isWhole_toDigits (n : Nat) : IsWhole (Nat.toDigits 10 n) where
  toIsDigits := isDigits_toDigits n
  leading := by
    rintro ⟨hhead, hlength⟩
    rw [eq_zero_of_head?_toDigits hhead] at hlength
    exact absurd hlength (by decide)

theorem digits_eq (n : Int) : digits n = minus (decide (n < 0)) ++ Nat.toDigits 10 n.natAbs := by
  unfold digits minus
  by_cases h : n < 0 <;> simp [h]

theorem signed_natAbs (n : Int) : signed (decide (n < 0)) n.natAbs = n := by
  unfold signed
  by_cases h : n < 0
  · rw [decide_eq_true h, if_pos rfl]
    omega
  · rw [decide_eq_false h, if_neg (by simp)]
    omega

theorem spellsSign_minus (negative : Bool) : SpellsSign negative (minus negative) := by
  cases negative
  · exact .none
  · exact .minus

theorem spells_digits (n : Int) : Spells (.value (.integer n)) (digits n) := by
  have hspelled := Spells.integer (decide (n < 0)) (isWhole_toDigits n.natAbs)
  rwa [numberOf_toDigits, signed_natAbs, ← digits_eq] at hspelled

theorem spells_decimal (n exponent : Int) :
    Spells (.value (.decimal n exponent)) (digits n ++ 'e' :: digits exponent) := by
  have hscale := SpellsExponent.some (.inl rfl) (spellsSign_minus (decide (exponent < 0)))
    (isDigits_toDigits exponent.natAbs)
  rw [numberOf_toDigits, signed_natAbs, ← digits_eq] at hscale
  have hspelled :=
    Spells.decimal (decide (n < 0)) (isWhole_toDigits n.natAbs) .none hscale (by simp)
  rw [List.append_nil, numberOf_toDigits, signed_natAbs, ← List.append_assoc,
    ← digits_eq] at hspelled
  simpa using hspelled

/-! ### The one-line form -/

theorem bracketed_eq (opening closing : Char) (items : List (List Char)) :
    bracketed opening closing items = opening :: (Text.join [','] items ++ [closing]) := by
  cases items <;> simp [bracketed, Text.join]

theorem blank_nil : Blank [] := by simp [Blank]

theorem Spells.bare {v : Value} {spelled : List Char} (h : Spells (.value v) spelled) :
    Spells (.element v) spelled := by
  simpa using Spells.element blank_nil h blank_nil

mutual

/-- **The one-line form spells its value.** -/
theorem spells_compactChars : (v : Value) → Spells (.value v) v.compactChars
  | .null => .null
  | .bool b => .bool b
  | .integer n => spells_digits n
  | .decimal n exponent => spells_decimal n exponent
  | .string text => .string (spellsText_escape text.toList)
  | .array [] => .noItems blank_nil
  | .array (v :: items) => by
    rw [Value.compactChars, bracketed_eq]
    exact .array (spells_compactItems (v :: items) (List.cons_ne_nil v items))
  | .object [] => .noMembers blank_nil
  | .object (member :: list) => by
    rw [Value.compactChars, bracketed_eq]
    exact .object (spells_compactMembers (member :: list) (List.cons_ne_nil member list))

theorem spells_compactItems : (items : List Value) → items ≠ [] →
    Spells (.elements items) (Text.join [','] (compactItems items))
  | [], h => absurd rfl h
  | [v], _ => by
    simpa [compactItems, Text.join] using Spells.lastElement (spells_compactChars v).bare
  | v :: next :: items, _ => by
    have hnext := spells_compactItems (next :: items) (List.cons_ne_nil next items)
    rw [compactItems, Text.join_cons _ _ (by simp [compactItems])]
    simpa using Spells.nextElement (spells_compactChars v).bare hnext

theorem spells_compactMembers : (list : List (String × Value)) → list ≠ [] →
    Spells (.members list) (Text.join [','] (compactMembers list))
  | [], h => absurd rfl h
  | [(name, v)], _ => by
    have hmember := Spells.member blank_nil (spellsText_escape name.toList) blank_nil
      (spells_compactChars v).bare
    simpa [compactMembers, Text.join, quoted] using Spells.lastMember hmember
  | (name, v) :: next :: list, _ => by
    have hmember := Spells.member blank_nil (spellsText_escape name.toList) blank_nil
      (spells_compactChars v).bare
    have hnext := spells_compactMembers (next :: list) (List.cons_ne_nil next list)
    rw [compactMembers, Text.join_cons _ _ (by simp [compactMembers])]
    simpa [quoted] using Spells.nextMember hmember hnext

end

/-- **The one-line form of a value is JSON.** -/
theorem spelledBy_compact (v : Value) : v.SpelledBy v.compact := by
  rw [Value.SpelledBy, Value.compact, String.toList_ofList]
  exact (spells_compactChars v).bare

end SchemaFormat.Json
