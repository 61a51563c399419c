import SchemaFormat.Proofs.Utf8
import SchemaFormat.Uri.Percent

/-!
What a locator's text decodes to.

Percent-decoding reads a percent sign and the two digits behind it as a byte, and every other
character as itself. No triple reaches beyond a character that is no digit, so a text decodes piece
by piece (`percentDecode_append`). A part of a locator writes characters as triples and leaves
percent signs and digits alone, so it decodes to whatever the text decodes to that it was written
from (`percentDecode_percentEncode`). A text without a percent sign decodes to its own bytes
(`percentDecode_of_notMem`).
-/

namespace SchemaFormat.Uri

open Utf8 (encode encodeChar)

/-! ### One step -/

/-- A text begins with two digits in base 16. -/
def OpensWithDigits : List Char → Prop
  | high :: low :: _ => (Text.hexDigit? high).isSome = true ∧ (Text.hexDigit? low).isSome = true
  | _ => False

theorem percentDecode_cons_of_ne {c : Char} (h : c ≠ '%') (text : List Char) :
    percentDecode (c :: text) = encodeChar c ++ percentDecode text := by
  rw [percentDecode]
  rintro high low rest rfl
  exact absurd rfl h

/-- A percent sign in front of no digits stands for itself. -/
theorem percentDecode_percent {text : List Char} (h : ¬ OpensWithDigits text) :
    percentDecode ('%' :: text) = encodeChar '%' ++ percentDecode text := by
  match text with
  | [] => rfl
  | [_] => rfl
  | high :: low :: rest =>
    rw [percentDecode]
    cases hhigh : Text.hexDigit? high with
    | none => rfl
    | some _ =>
      cases hlow : Text.hexDigit? low with
      | none => rfl
      | some _ => exact absurd ⟨by rw [hhigh]; rfl, by rw [hlow]; rfl⟩ h

/-- A percent sign in front of two digits is the byte that they write. -/
theorem percentDecode_triple {high low : Char} {h l : Nat} (hhigh : Text.hexDigit? high = some h)
    (hlow : Text.hexDigit? low = some l) (text : List Char) :
    percentDecode ('%' :: high :: low :: text) =
      UInt8.ofNat (16 * h + l) :: percentDecode text := by
  rw [percentDecode, hhigh, hlow]

/-- What holds of a text if it holds of what decoding goes on with holds of every text. -/
@[elab_as_elim]
theorem decoding_induction {motive : List Char → Prop} (nil : motive [])
    (plain : ∀ c text, c ≠ '%' → motive text → motive (c :: text))
    (percent : ∀ text, ¬ OpensWithDigits text → motive text → motive ('%' :: text))
    (triple : ∀ high low h l text,
      Text.hexDigit? high = some h → Text.hexDigit? low = some l → motive text →
      motive ('%' :: high :: low :: text))
    (text : List Char) : motive text := by
  match text with
  | [] => exact nil
  | c :: text =>
    have ih := decoding_induction nil plain percent triple text
    by_cases hc : c = '%'
    · subst hc
      by_cases hdigits : OpensWithDigits text
      · match text, hdigits with
        | high :: low :: rest, hdigits =>
          obtain ⟨h, hhigh⟩ := Option.isSome_iff_exists.mp hdigits.1
          obtain ⟨l, hlow⟩ := Option.isSome_iff_exists.mp hdigits.2
          exact triple high low h l rest hhigh hlow
            (decoding_induction nil plain percent triple rest)
      · exact percent text hdigits ih
    · exact plain c text hc ih

/-! ### Piece by piece -/

/-- What is no digit does not complete two. -/
theorem opensWithDigits_append_iff {c : Char} (h : Text.hexDigit? c = none)
    (text after : List Char) :
    OpensWithDigits (text ++ c :: after) ↔ OpensWithDigits text := by
  match text with
  | [] => cases after <;> simp [OpensWithDigits, h]
  | [_] => simp [OpensWithDigits, h]
  | _ :: _ :: _ => exact Iff.rfl

/-- **No triple reaches beyond a character that is no digit.** -/
theorem percentDecode_append {c : Char} (h : Text.hexDigit? c = none) (text after : List Char) :
    percentDecode (text ++ c :: after) = percentDecode text ++ percentDecode (c :: after) := by
  induction text using decoding_induction with
  | nil => rfl
  | plain d text hd ih =>
    rw [List.cons_append, percentDecode_cons_of_ne hd, percentDecode_cons_of_ne hd, ih,
      List.append_assoc]
  | percent text hdigits ih =>
    have hdigits' := mt (opensWithDigits_append_iff h text after).mp hdigits
    rw [List.cons_append, percentDecode_percent hdigits', percentDecode_percent hdigits, ih,
      List.append_assoc]
  | triple high low _ _ text hhigh hlow ih =>
    rw [List.cons_append, List.cons_append, List.cons_append, percentDecode_triple hhigh hlow,
      percentDecode_triple hhigh hlow, ih, List.cons_append]

/-! ### Escapes -/

theorem hexDigit?_upperHexDigit {d : Nat} (h : d < 16) :
    Text.hexDigit? (upperHexDigit d) = some d := by
  have hdigits : ∀ d < 16, Text.hexDigit? (upperHexDigit d) = some d := by decide
  exact hdigits d h

theorem percentDecode_percentByte (b : UInt8) (text : List Char) :
    percentDecode (percentByte b ++ text) = b :: percentDecode text := by
  have hb : b.toNat < 256 := b.toNat_lt
  have hbyte : 16 * (b.toNat / 16) + b.toNat % 16 = b.toNat := by omega
  rw [percentByte, List.cons_append, List.cons_append, List.cons_append, List.nil_append,
    percentDecode_triple (hexDigit?_upperHexDigit (by omega)) (hexDigit?_upperHexDigit (by omega)),
    hbyte, UInt8.ofNat_toNat]

theorem percentDecode_flatMap_percentByte (bytes : Bytes) (text : List Char) :
    percentDecode (bytes.flatMap percentByte ++ text) = bytes ++ percentDecode text := by
  induction bytes with
  | nil => rfl
  | cons b bytes ih =>
    rw [List.flatMap_cons, List.append_assoc, percentDecode_percentByte, ih, List.cons_append]

/-- A part of a locator leaves percent signs and digits as they are. -/
def LeavesTriples (escaped : Char → Bool) : Prop :=
  ∀ c, c = '%' ∨ (Text.hexDigit? c).isSome = true → escaped c = false

/-- Percent signs and digits are ASCII. -/
theorem leavesTriples_of_ascii {escaped : Char → Bool}
    (h : ∀ n < 0x80, (Char.ofNat n = '%' ∨ (Text.hexDigit? (Char.ofNat n)).isSome = true) →
      escaped (Char.ofNat n) = false) : LeavesTriples escaped := by
  intro c hc
  have hascii : c.toNat < 0x80 := by
    rcases hc with rfl | hdigit
    · decide
    · by_contra hhigh
      have hnone : Text.hexDigit? c = none := by
        unfold Text.hexDigit?
        dsimp only
        rw [if_neg (by omega), if_neg (by omega), if_neg (by omega)]
      rw [hnone] at hdigit
      cases hdigit
  have hback : Char.ofNat c.toNat = c := Char.ofNat_toNat c
  have hchar := h c.toNat hascii
  rw [hback] at hchar
  exact hchar hc

theorem leavesTriples_path : LeavesTriples escapedInPath :=
  leavesTriples_of_ascii (by decide)

theorem leavesTriples_query : LeavesTriples escapedInQuery :=
  leavesTriples_of_ascii (by decide)

theorem leavesTriples_fragment : LeavesTriples escapedInFragment :=
  leavesTriples_of_ascii (by decide)

variable {escaped : Char → Bool}

theorem percentEncode_cons_of_not {c : Char} (h : escaped c = false) (text : List Char) :
    percentEncode escaped (c :: text) = c :: percentEncode escaped text := by
  rw [percentEncode, List.flatMap_cons, percentChar, h]
  rfl

theorem percentEncode_cons_of_escaped {c : Char} (h : escaped c = true) (text : List Char) :
    percentEncode escaped (c :: text) =
      (encodeChar c).flatMap percentByte ++ percentEncode escaped text := by
  rw [percentEncode, List.flatMap_cons, percentChar, if_pos h]
  rfl

/-- An escape is no digit. -/
theorem head?_percentEncode {c : Char} (h : escaped c = true) (text : List Char) :
    (percentEncode escaped (c :: text)).head? = some '%' := by
  have hne : encodeChar c ≠ [] := by
    unfold encodeChar
    dsimp only
    split_ifs <;> exact List.cons_ne_nil _ _
  obtain ⟨b, bytes, hbytes⟩ := List.exists_cons_of_ne_nil hne
  rw [percentEncode_cons_of_escaped h, hbytes]
  rfl

/-- What begins with a digit once it is escaped began with that digit. -/
theorem kept_of_opens {c : Char} {text : List Char} {d : Char}
    (hd : (percentEncode escaped (c :: text)).head? = some d)
    (hdigit : (Text.hexDigit? d).isSome = true) :
    percentEncode escaped (c :: text) = c :: percentEncode escaped text ∧ d = c := by
  cases hescaped : escaped c with
  | true =>
    rw [head?_percentEncode hescaped] at hd
    obtain rfl := Option.some.inj hd
    cases hdigit
  | false =>
    have hcons := percentEncode_cons_of_not hescaped text
    rw [hcons] at hd
    exact ⟨hcons, (Option.some.inj hd).symm⟩

/-- Escaping makes no digits. -/
theorem opensWithDigits_percentEncode {text : List Char}
    (hdigits : OpensWithDigits (percentEncode escaped text)) :
    OpensWithDigits text := by
  obtain ⟨high, low, after, htext⟩ :
    ∃ high low after, percentEncode escaped text = high :: low :: after := by
    match hwritten : percentEncode escaped text, hdigits with
    | high :: low :: after, _ => exact ⟨high, low, after, rfl⟩
  rw [htext] at hdigits
  obtain ⟨hhigh, hlow⟩ := hdigits
  match text with
  | [] => cases htext
  | c :: rest =>
    obtain ⟨hcons, rfl⟩ := kept_of_opens (by rw [htext]; rfl) hhigh
    obtain ⟨-, hrest⟩ := List.cons.inj (hcons.symm.trans htext)
    match rest with
    | [] => cases hrest
    | d :: rest =>
      obtain ⟨-, rfl⟩ := kept_of_opens (by rw [hrest]; rfl) hlow
      exact ⟨hhigh, hlow⟩

/-- **A part of a locator decodes to what the text decodes to that it was written from.** -/
theorem percentDecode_percentEncode (h : LeavesTriples escaped) (text : List Char) :
    percentDecode (percentEncode escaped text) = percentDecode text := by
  induction text using decoding_induction with
  | nil => rfl
  | plain c text hc ih =>
    rw [percentDecode_cons_of_ne hc]
    cases hescaped : escaped c with
    | true => rw [percentEncode_cons_of_escaped hescaped, percentDecode_flatMap_percentByte, ih]
    | false => rw [percentEncode_cons_of_not hescaped, percentDecode_cons_of_ne hc, ih]
  | percent text hdigits ih =>
    have hdigits' : ¬ OpensWithDigits (percentEncode escaped text) :=
      mt opensWithDigits_percentEncode hdigits
    rw [percentEncode_cons_of_not (h '%' (.inl rfl)), percentDecode_percent hdigits',
      percentDecode_percent hdigits, ih]
  | triple high low _ _ text hhigh hlow ih =>
    rw [percentEncode_cons_of_not (h '%' (.inl rfl)),
      percentEncode_cons_of_not (h high (.inr (by rw [hhigh]; rfl))),
      percentEncode_cons_of_not (h low (.inr (by rw [hlow]; rfl))), percentDecode_triple hhigh hlow,
      percentDecode_triple hhigh hlow, ih]

/-- **A text without a percent sign decodes to its own bytes.** -/
theorem percentDecode_of_notMem {text : List Char} (h : '%' ∉ text) :
    percentDecode text = encode text := by
  induction text with
  | nil => rfl
  | cons c text ih =>
    rw [List.mem_cons, not_or] at h
    obtain ⟨hc, htext⟩ := h
    rw [percentDecode_cons_of_ne (Ne.symm hc), ih htext]
    rfl

end SchemaFormat.Uri
