import SchemaFormat.Proofs.JsonGrammar

/-!
Reading what is spelled as JSON.

The reader takes each token as the grammar spells it: the characters of a string
(`characters_spelled`), the parts of a number (`number_spelled`), and, by induction on how they are
spelled, values, elements and members (`Spells.readAs`). So it reads every text that is JSON as the
value that it spells (`read_of_spelledBy`), a text spells one value at most, and the one-line form
of a value is read back (`read_compact`).
-/

namespace SchemaFormat.Json

/-! ### Strings -/

theorem characters_plain (seen : List Char) {c : Char} (rest : List Char) (hquote : c ≠ '"')
    (hslash : c ≠ '\\') (h : 0x20 ≤ c.toNat) :
    characters seen (c :: rest) = characters (c :: seen) rest := by
  rw [characters, if_neg (Nat.not_lt.mpr h)]
  · exact fun heq => hquote heq
  · intro a b d e more heq
    exact absurd heq hslash
  · intro d more heq
    exact absurd heq hslash

/-- One character inside a string is read. -/
theorem characters_spelled (seen : List Char) {c : Char} {spelled : List Char}
    (h : SpellsChar c spelled)
    (rest : List Char) : characters seen (spelled ++ rest) = characters (c :: seen) rest := by
  cases h with
  | plain hquote hslash hcontrol => exact characters_plain seen rest hquote hslash hcontrol
  | @short letter _ hletter =>
    rw [List.cons_append, List.singleton_append, characters, hletter]
    rintro a b c d more rfl
    cases hletter
  | unit hunit hscalar =>
    simp only [List.cons_append, List.nil_append]
    rw [characters, hunit]
    dsimp only
    rw [if_pos hscalar]
  | pair hhigh hlow h1 h2 h3 h4 =>
    simp only [List.cons_append, List.nil_append]
    rw [characters, hhigh]
    dsimp only
    rw [if_neg (by omega)]
    simp only [hlow]
    rw [if_pos ⟨h2, h3, h4⟩]

/-- **A string is read** up to its closing quote. -/
theorem characters_text (seen : List Char) {text spelled : List Char} (h : SpellsText text spelled)
    (rest : List Char) :
    characters seen (spelled ++ '"' :: rest) =
      some (String.ofList (seen.reverse ++ text), rest) := by
  induction h generalizing seen with
  | nil => simp [characters]
  | cons hchar _ ih =>
    rw [List.append_assoc, characters_spelled seen hchar, ih]
    simp

/-- So is a name. -/
theorem characters_name {name : String} {spelled : List Char} (h : SpellsText name.toList spelled)
    (rest : List Char) : characters [] (spelled ++ '"' :: rest) = some (name, rest) := by
  simp [characters_text [] h]

/-! ### Numbers -/

/-- What stands behind a value and the blanks there: nothing, or what closes or separates. -/
def Closes (rest : List Char) : Prop :=
  ∀ c ∈ rest.head?, c = ',' ∨ c = ']' ∨ c = '\x7d'

/-- What stands behind a value: blanks, nothing, or what closes or separates. -/
def Stops (rest : List Char) : Prop :=
  ∀ c ∈ rest.head?, isSpace c = true ∨ c = ',' ∨ c = ']' ∨ c = '\x7d'

/-- Behind a value no number goes on. -/
theorem Stops.not_number {rest : List Char} (h : Stops rest) :
    ∀ c ∈ rest.head?, c.isDigit = false ∧ c ≠ '.' ∧ c ≠ 'e' ∧ c ≠ 'E' := by
  intro c hc
  rcases h c hc with hspace | rfl | rfl | rfl
  · simp only [isSpace, Bool.or_eq_true, beq_iff_eq] at hspace
    obtain ((rfl | rfl) | rfl) | rfl := hspace <;> decide
  · decide
  · decide
  · decide

/-- Digits are read up to what is no digit. -/
theorem someDigits_append {ds rest : List Char} (h : IsDigits ds)
    (hrest : ∀ c ∈ rest.head?, c.isDigit = false) : someDigits (ds ++ rest) = some (ds, rest) := by
  have hnone : rest.takeWhile Char.isDigit = [] ∧ rest.dropWhile Char.isDigit = rest := by
    cases rest with
    | nil => simp
    | cons c more => simp [hrest c rfl]
  rw [someDigits, List.takeWhile_append_of_pos h.digits, List.dropWhile_append_of_pos h.digits,
    hnone.1, hnone.2, List.append_nil]
  cases ds with
  | nil => exact absurd rfl h.nonempty
  | cons d ds => rfl

theorem fraction?_spelled {part fraction rest : List Char} (h : SpellsFraction part fraction)
    (hrest : ∀ c ∈ rest.head?, c.isDigit = false ∧ c ≠ '.') :
    fraction? (fraction ++ rest) = some (part, rest) := by
  cases h with
  | none =>
    cases rest with
    | nil => rfl
    | cons c more =>
      rw [List.nil_append, fraction?]
      intro after heq
      exact (hrest c rfl).2 (List.cons.inj heq).1
  | some hdigits => exact someDigits_append hdigits fun c hc => (hrest c hc).1

theorem exponent?_spelled {scale : Option Int} {exponent rest : List Char}
    (h : SpellsExponent scale exponent)
    (hrest : Stops rest) : exponent? (exponent ++ rest) = some (scale, rest) := by
  have hstop := hrest.not_number
  cases h with
  | none =>
    cases rest with
    | nil => rfl
    | cons c more =>
      obtain ⟨-, -, hlower, hupper⟩ := hstop c rfl
      rw [List.nil_append]
      unfold exponent?
      dsimp only
      rw [if_neg (by simp [hlower, hupper])]
  | @some e negative sign ds he hsign hdigits =>
    have hread := someDigits_append hdigits fun c hc => (hstop c hc).1
    rw [List.cons_append, List.append_assoc]
    unfold exponent?
    dsimp only
    rw [if_pos he]
    cases hsign with
    | none =>
      obtain ⟨d, more, rfl⟩ := List.exists_cons_of_ne_nil hdigits.nonempty
      have hd : d.isDigit = true := hdigits.digits d List.mem_cons_self
      rw [List.cons_append] at hread
      rw [List.nil_append, List.cons_append]
      split
      · next heq => exact absurd hd (by rw [(List.cons.inj heq).1]; decide)
      · next heq => exact absurd hd (by rw [(List.cons.inj heq).1]; decide)
      · rw [hread]
        rfl
    | plus =>
      simp only [List.cons_append, List.nil_append, hread]
      rfl
    | minus =>
      simp only [List.cons_append, List.nil_append, hread]
      rfl

/-- The value of a number of some parts. -/
def numberOfParts (negative : Bool) (whole part : List Char) (scale : Option Int) : Value :=
  match part, scale with
  | [], none => .integer (signed negative (Text.numberOf 10 whole))
  | _, _ =>
    .decimal (signed negative (Text.numberOf 10 (whole ++ part))) (scale.getD 0 - part.length)

/-- **A number is read** up to what cannot go on. -/
theorem number_spelled (negative : Bool) {whole part fraction exponent rest : List Char}
    {scale : Option Int} (hwhole : IsWhole whole) (hfraction : SpellsFraction part fraction)
    (hexponent : SpellsExponent scale exponent) (hrest : Stops rest) :
    number negative (whole ++ (fraction ++ (exponent ++ rest))) =
      some (numberOfParts negative whole part scale, rest) := by
  have hscale : ∀ c ∈ (exponent ++ rest).head?, c.isDigit = false ∧ c ≠ '.' := by
    cases hexponent with
    | none => exact fun c hc => ⟨(hrest.not_number c hc).1, (hrest.not_number c hc).2.1⟩
    | some he _ _ => rcases he with rfl | rfl <;> simp
  have hpart : ∀ c ∈ (fraction ++ (exponent ++ rest)).head?, c.isDigit = false := by
    cases hfraction with
    | none => exact fun c hc => (hscale c hc).1
    | some _ => simp
  simp only [number, someDigits_append hwhole.toIsDigits hpart, bind, Option.bind]
  rw [if_neg hwhole.leading]
  simp only [pure, fraction?_spelled hfraction hscale, exponent?_spelled hexponent hrest]
  unfold numberOfParts
  cases part with
  | nil => cases scale <;> simp [signed]
  | cons d ds => rfl

/-! ### Values -/

theorem skip_cons {c : Char} (h : isSpace c = false) (rest : List Char) :
    skip (c :: rest) = c :: rest := by
  simp [skip, h]

theorem skip_append {ws : List Char} (h : Blank ws) (rest : List Char) :
    skip (ws ++ rest) = skip rest :=
  List.dropWhile_append_of_pos h

theorem Closes.skip {rest : List Char} (h : Closes rest) : skip rest = rest := by
  cases rest with
  | nil => rfl
  | cons c more =>
    apply skip_cons
    rcases h c rfl with rfl | rfl | rfl <;> decide

theorem closes_nil : Closes [] := by simp [Closes]

theorem closes_comma (rest : List Char) : Closes (',' :: rest) := by simp [Closes]

theorem closes_bracket (rest : List Char) : Closes (']' :: rest) := by simp [Closes]

theorem closes_brace (rest : List Char) : Closes ('\x7d' :: rest) := by simp [Closes]

/-- Blanks may stand before what closes. -/
theorem Closes.stops {rest : List Char} (h : Closes rest) {ws : List Char} (hws : Blank ws) :
    Stops (ws ++ rest) := by
  intro c hc
  cases ws with
  | nil => exact .inr (h c hc)
  | cons d ws =>
    obtain rfl := Option.some.inj hc
    exact .inl (hws d List.mem_cons_self)

/-- A reader sees a value's text behind the blanks in front of it. -/
theorem value_skip {text other : List Char} (h : skip text = skip other) (fuel : Nat) :
    value fuel text = value fuel other := by
  cases fuel with
  | zero => rw [value_zero, value_zero]
  | succ fuel => rw [value, value, h]

theorem ne_of_isDigit {c d : Char} (hc : c.isDigit = true) (hd : d.isDigit = false) : c ≠ d := by
  rintro rfl
  rw [hc] at hd
  cases hd

theorem isSpace_of_isDigit {c : Char} (h : c.isDigit = true) : isSpace c = false := by
  simp [isSpace, ne_of_isDigit h (d := ' ') (by decide), ne_of_isDigit h (d := '\t') (by decide),
    ne_of_isDigit h (d := '\n') (by decide), ne_of_isDigit h (d := '\r') (by decide)]

/-- A number begins with a sign or a digit, and is read without its sign. -/
theorem value_minus (fuel : Nat) (negative : Bool) {ds : List Char} (hds : IsDigits ds)
    (rest : List Char) :
    value (fuel + 1) (minus negative ++ (ds ++ rest)) = number negative (ds ++ rest) := by
  cases negative with
  | true => simp [minus, value, skip, isSpace]
  | false =>
    obtain ⟨d, more, rfl⟩ := List.exists_cons_of_ne_nil hds.nonempty
    have hd : d.isDigit = true := hds.digits d List.mem_cons_self
    rw [minus, if_neg (by decide), List.nil_append, List.cons_append, value,
      skip_cons (isSpace_of_isDigit hd)]
    split
    -- None of the characters that choose another kind of value is a digit.
    case h_8 => rfl
    all_goals
      next heq => exact absurd (List.cons.inj heq).1 (ne_of_isDigit hd (by decide))

/-- A value begins with a character that is no blank and closes no array. -/
theorem Spells.head {v : Value} {spelled : List Char} (h : Spells (.value v) spelled) :
    ∃ c more, spelled = c :: more ∧ isSpace c = false ∧ c ≠ ']' := by
  have hnumber (negative : Bool) {ds : List Char} (hds : IsDigits ds) (rest : List Char) :
      ∃ c more, minus negative ++ (ds ++ rest) = c :: more ∧ isSpace c = false ∧ c ≠ ']' := by
    cases negative with
    | true => exact ⟨_, _, rfl, by decide, by decide⟩
    | false =>
      obtain ⟨d, more, rfl⟩ := List.exists_cons_of_ne_nil hds.nonempty
      have hd : d.isDigit = true := hds.digits d List.mem_cons_self
      exact ⟨d, _, rfl, isSpace_of_isDigit hd, ne_of_isDigit hd (by decide)⟩
  cases h with
  | bool b => cases b <;> exact ⟨_, _, rfl, by decide, by decide⟩
  | integer negative hds => simpa using hnumber negative hds.toIsDigits []
  | decimal negative hwhole => exact hnumber negative hwhole.toIsDigits _
  | _ => exact ⟨_, _, rfl, by decide, by decide⟩

/-- How a phrase is read, with more than its own characters to spend. -/
def ReadAs : Phrase → List Char → Prop
  | .value v, spelled => ∀ fuel rest, spelled.length < fuel → Stops rest →
      value fuel (spelled ++ rest) = some (v, rest)
  | .element v, spelled => ∀ fuel rest, spelled.length < fuel → Closes rest →
      ∃ after, value fuel (spelled ++ rest) = some (v, after) ∧ skip after = rest
  | .elements list, spelled => ∀ fuel seen rest, spelled.length + 1 < fuel →
      items fuel seen (spelled ++ ']' :: rest) = some (seen.reverse ++ list, rest)
  | .member name v, spelled => ∀ fuel rest, spelled.length < fuel → Closes rest →
      ∃ inside behind between after, skip (spelled ++ rest) = '"' :: inside ∧
        characters [] inside = some (name, behind) ∧ skip behind = ':' :: between ∧
        value fuel between = some (v, after) ∧ skip after = rest
  | .members list, spelled => ∀ fuel seen rest, spelled.length + 1 < fuel →
      members fuel seen (spelled ++ '\x7d' :: rest) = some (seen.reverse ++ list, rest)

/-- A reader that has more to spend than the length of a text has something to spend. -/
theorem exists_succ_of_lt {n fuel : Nat} (h : n < fuel) : ∃ less, fuel = less + 1 :=
  Nat.exists_eq_succ_of_ne_zero (Nat.ne_zero_of_lt h)

theorem readAs_bool (b : Bool) :
    ReadAs (.value (.bool b)) (if b then "true".toList else "false".toList) := by
  intro fuel rest hlength _
  obtain ⟨fuel, rfl⟩ := exists_succ_of_lt hlength
  cases b <;> simp [value, skip, isSpace, after?]

theorem readAs_integer (negative : Bool) {ds : List Char} (h : IsWhole ds) :
    ReadAs (.value (.integer (signed negative (Text.numberOf 10 ds)))) (minus negative ++ ds) := by
  intro fuel rest hlength hrest
  obtain ⟨fuel, rfl⟩ := exists_succ_of_lt hlength
  have hread := number_spelled negative h .none .none hrest
  rw [List.nil_append, List.nil_append] at hread
  rw [List.append_assoc, value_minus _ _ h.toIsDigits, hread]
  rfl

theorem readAs_decimal (negative : Bool) {whole part fraction exponent : List Char}
    {scale : Option Int} (hwhole : IsWhole whole) (hfraction : SpellsFraction part fraction)
    (hexponent : SpellsExponent scale exponent) (hparts : part ≠ [] ∨ scale ≠ none) :
    ReadAs (.value (.decimal (signed negative (Text.numberOf 10 (whole ++ part)))
      (scale.getD 0 - part.length))) (minus negative ++ (whole ++ (fraction ++ exponent))) := by
  intro fuel rest hlength hrest
  obtain ⟨fuel, rfl⟩ := exists_succ_of_lt hlength
  have hread := number_spelled negative hwhole hfraction hexponent hrest
  simp only [List.append_assoc]
  rw [value_minus _ _ hwhole.toIsDigits, hread]
  unfold numberOfParts
  split
  · simp at hparts
  · rfl

theorem readAs_string {text : String} {spelled : List Char} (h : SpellsText text.toList spelled) :
    ReadAs (.value (.string text)) ('"' :: (spelled ++ ['"'])) := by
  intro fuel rest hlength _
  obtain ⟨fuel, rfl⟩ := exists_succ_of_lt hlength
  rw [List.cons_append, List.append_assoc, List.singleton_append, value, skip_cons (by decide)]
  simp only [characters_name h, Option.map_some]

/-- Behind the blanks in front of an element its value begins, and not the bracket that closes an
array. -/
theorem Spells.head_element {v : Value} {spelled : List Char} (h : Spells (.element v) spelled)
    (rest : List Char) : ∃ c more, skip (spelled ++ rest) = c :: more ∧ c ≠ ']' := by
  cases h with
  | @element _ before _ after hbefore hvalue _ =>
    obtain ⟨c, more, rfl, hspace, hclose⟩ := hvalue.head
    refine ⟨c, more ++ after ++ rest, ?_, hclose⟩
    rw [List.append_assoc, skip_append hbefore]
    exact skip_cons hspace _

theorem Spells.head_elements {list : List Value} {spelled : List Char}
    (h : Spells (.elements list) spelled)
    (rest : List Char) : ∃ c more, skip (spelled ++ rest) = c :: more ∧ c ≠ ']' := by
  cases h with
  | lastElement hitem => exact hitem.head_element rest
  | nextElement hitem _ =>
    rw [List.append_assoc]
    exact hitem.head_element _

theorem readAs_noItems {ws : List Char} (h : Blank ws) :
    ReadAs (.value (.array [])) ('[' :: (ws ++ [']'])) := by
  intro fuel rest hlength _
  obtain ⟨fuel, rfl⟩ := exists_succ_of_lt hlength
  rw [List.cons_append, List.append_assoc, value, skip_cons (by decide)]
  simp only [skip_append h, List.singleton_append, skip_cons (c := ']') (by decide)]

theorem readAs_array {list : List Value} {spelled : List Char} (h : Spells (.elements list) spelled)
    (hread : ReadAs (.elements list) spelled) :
    ReadAs (.value (.array list)) ('[' :: (spelled ++ [']'])) := by
  intro fuel rest hlength _
  obtain ⟨fuel, rfl⟩ := exists_succ_of_lt hlength
  simp only [List.length_cons, List.length_append, List.length_nil] at hlength
  obtain ⟨c, more, hskip, hclose⟩ := h.head_elements (']' :: rest)
  have hitems := hread fuel [] rest (by omega)
  rw [List.cons_append, List.append_assoc, List.singleton_append, value, skip_cons (by decide)]
  simp only [hskip]
  split
  · next heq => exact absurd (List.cons.inj heq).1 hclose
  · rw [hitems]
    rfl

theorem readAs_noMembers {ws : List Char} (h : Blank ws) :
    ReadAs (.value (.object [])) ('\x7b' :: (ws ++ ['\x7d'])) := by
  intro fuel rest hlength _
  obtain ⟨fuel, rfl⟩ := exists_succ_of_lt hlength
  rw [List.cons_append, List.append_assoc, value, skip_cons (by decide)]
  simp only [skip_append h, List.singleton_append, skip_cons (c := '\x7d') (by decide)]

/-- Behind the blanks in front of a member its name begins. -/
theorem Spells.head_member {name : String} {v : Value} {spelled : List Char}
    (h : Spells (.member name v) spelled) (rest : List Char) :
    ∃ more, skip (spelled ++ rest) = '"' :: more := by
  cases h with
  | @member _ _ before named after spelled hbefore _ _ _ =>
    refine ⟨named ++ '"' :: (after ++ ':' :: spelled) ++ rest, ?_⟩
    rw [List.append_assoc, skip_append hbefore]
    exact skip_cons (by decide) _

theorem Spells.head_members {list : List (String × Value)} {spelled : List Char}
    (h : Spells (.members list) spelled) (rest : List Char) :
    ∃ more, skip (spelled ++ rest) = '"' :: more := by
  cases h with
  | lastMember hmember => exact hmember.head_member rest
  | nextMember hmember _ =>
    rw [List.append_assoc]
    exact hmember.head_member _

theorem readAs_object {list : List (String × Value)} {spelled : List Char}
    (h : Spells (.members list) spelled) (hread : ReadAs (.members list) spelled) :
    ReadAs (.value (.object list)) ('\x7b' :: (spelled ++ ['\x7d'])) := by
  intro fuel rest hlength _
  obtain ⟨fuel, rfl⟩ := exists_succ_of_lt hlength
  simp only [List.length_cons, List.length_append, List.length_nil] at hlength
  obtain ⟨more, hskip⟩ := h.head_members ('\x7d' :: rest)
  have hmembers := hread fuel [] rest (by omega)
  rw [List.cons_append, List.append_assoc, List.singleton_append, value, skip_cons (by decide)]
  simp only [hskip, hmembers]
  rfl

theorem readAs_element {v : Value} {before spelled after : List Char} (hbefore : Blank before)
    (hread : ReadAs (.value v) spelled) (hafter : Blank after) :
    ReadAs (.element v) (before ++ (spelled ++ after)) := by
  intro fuel rest hlength hrest
  simp only [List.length_append] at hlength
  refine ⟨after ++ rest, ?_, by rw [skip_append hafter, hrest.skip]⟩
  rw [List.append_assoc, value_skip (skip_append hbefore _), List.append_assoc]
  exact hread fuel (after ++ rest) (by omega) (hrest.stops hafter)

theorem readAs_lastElement {v : Value} {spelled : List Char} (hread : ReadAs (.element v) spelled) :
    ReadAs (.elements [v]) spelled := by
  intro fuel seen rest hlength
  obtain ⟨fuel, rfl⟩ := exists_succ_of_lt hlength
  obtain ⟨after, hvalue, hskip⟩ := hread fuel (']' :: rest) (by omega) (closes_bracket rest)
  rw [items, hvalue]
  simp only [hskip, List.reverse_cons]

theorem readAs_nextElement {v : Value} {list : List Value} {spelled more : List Char}
    (hread : ReadAs (.element v) spelled) (hmore : ReadAs (.elements list) more) :
    ReadAs (.elements (v :: list)) (spelled ++ ',' :: more) := by
  intro fuel seen rest hlength
  obtain ⟨fuel, rfl⟩ := exists_succ_of_lt hlength
  simp only [List.length_append, List.length_cons] at hlength
  obtain ⟨after, hvalue, hskip⟩ :=
    hread fuel (',' :: (more ++ ']' :: rest)) (by omega) (closes_comma _)
  rw [List.append_assoc, List.cons_append, items, hvalue]
  simp only [hskip, hmore fuel (v :: seen) rest (by omega), List.reverse_cons, List.append_assoc,
    List.singleton_append]

theorem readAs_member {name : String} {v : Value} {before named after spelled : List Char}
    (hbefore : Blank before) (hnamed : SpellsText name.toList named) (hafter : Blank after)
    (hread : ReadAs (.element v) spelled) :
    ReadAs (.member name v) (before ++ '"' :: (named ++ '"' :: (after ++ ':' :: spelled))) := by
  intro fuel rest hlength hrest
  simp only [List.length_append, List.length_cons] at hlength
  obtain ⟨behind, hvalue, hskip⟩ := hread fuel rest (by omega) hrest
  refine ⟨named ++ '"' :: (after ++ ':' :: (spelled ++ rest)), after ++ ':' :: (spelled ++ rest),
    spelled ++ rest, behind, ?_, characters_name hnamed _, ?_, hvalue, hskip⟩
  · simp only [List.append_assoc, List.cons_append]
    rw [skip_append hbefore, skip_cons (by decide)]
  · rw [skip_append hafter, skip_cons (by decide)]

theorem readAs_lastMember {name : String} {v : Value} {spelled : List Char}
    (hread : ReadAs (.member name v) spelled) : ReadAs (.members [(name, v)]) spelled := by
  intro fuel seen rest hlength
  obtain ⟨fuel, rfl⟩ := exists_succ_of_lt hlength
  obtain ⟨inside, behind, between, after, hquote, hname, hcolon, hvalue, hskip⟩ :=
    hread fuel ('\x7d' :: rest) (by omega) (closes_brace rest)
  rw [members, hquote]
  simp only [hname, hcolon, hvalue, hskip, List.reverse_cons]

theorem readAs_nextMember {name : String} {v : Value} {list : List (String × Value)}
    {spelled more : List Char} (hread : ReadAs (.member name v) spelled)
    (hmore : ReadAs (.members list) more) :
    ReadAs (.members ((name, v) :: list)) (spelled ++ ',' :: more) := by
  intro fuel seen rest hlength
  obtain ⟨fuel, rfl⟩ := exists_succ_of_lt hlength
  simp only [List.length_append, List.length_cons] at hlength
  obtain ⟨inside, behind, between, after, hquote, hname, hcolon, hvalue, hskip⟩ :=
    hread fuel (',' :: (more ++ '\x7d' :: rest)) (by omega) (closes_comma _)
  rw [List.append_assoc, List.cons_append, members, hquote]
  simp only [hname, hcolon, hvalue, hskip, hmore fuel ((name, v) :: seen) rest (by omega),
    List.reverse_cons, List.append_assoc, List.singleton_append]

/-- **What is spelled is read**, by induction on how it is spelled. -/
theorem Spells.readAs {phrase : Phrase} {spelled : List Char} (h : Spells phrase spelled) :
    ReadAs phrase spelled := by
  induction h with
  | null =>
    intro fuel rest hlength _
    obtain ⟨fuel, rfl⟩ := exists_succ_of_lt hlength
    simp [value, skip, isSpace, after?]
  | bool b => exact readAs_bool b
  | integer negative hds => exact readAs_integer negative hds
  | decimal negative hwhole hfraction hexponent hparts =>
    exact readAs_decimal negative hwhole hfraction hexponent hparts
  | string htext => exact readAs_string htext
  | noItems hws => exact readAs_noItems hws
  | array helements ih => exact readAs_array helements ih
  | noMembers hws => exact readAs_noMembers hws
  | object hmembers ih => exact readAs_object hmembers ih
  | element hbefore _ hafter ih => exact readAs_element hbefore ih hafter
  | lastElement _ ih => exact readAs_lastElement ih
  | nextElement _ _ ih ihmore => exact readAs_nextElement ih ihmore
  | member hbefore hnamed hafter _ ih => exact readAs_member hbefore hnamed hafter ih
  | lastMember _ ih => exact readAs_lastMember ih
  | nextMember _ _ ih ihmore => exact readAs_nextMember ih ihmore

/-- **Every text that is JSON is read as the value that it spells.** -/
theorem read_of_spelledBy {v : Value} {text : String} (h : v.SpelledBy text) :
    read text = some v := by
  obtain ⟨after, hvalue, hskip⟩ :=
    h.readAs (text.toList.length + 1) [] (Nat.lt_succ_self _) closes_nil
  rw [List.append_nil] at hvalue
  rw [read]
  simp only [hvalue, hskip]
  rfl

/-- A text spells one value at most. -/
theorem spelledBy_unique {v w : Value} {text : String} (hv : v.SpelledBy text)
    (hw : w.SpelledBy text) :
    v = w :=
  Option.some.inj ((read_of_spelledBy hv).symm.trans (read_of_spelledBy hw))

/-- **A value is read back from its one-line form.** -/
theorem read_compact (v : Value) : read v.compact = some v :=
  read_of_spelledBy (spelledBy_compact v)

end SchemaFormat.Json
