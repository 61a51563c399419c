import Mathlib.Data.List.Basic
import SchemaFormat.Text.Utf8

/-!
Reading back the bytes of a text.

`pieces_encode_append` says that a reader cuts the bytes of a text into the text's own characters,
whatever follows them; `decode_encode`, `decodeLossy_encode` and `decodeLossy_cons_ascii` are read
off it. The one case split is over the four lengths of a character in `feed_encodeChar`.
-/

namespace SchemaFormat.Utf8

/-! ### One byte -/

theorem toNat_ofNat_byte {n : Nat} (h : n < 256) : (UInt8.ofNat n).toNat = n := by
  rw [UInt8.toNat_ofNat']
  exact Nat.mod_eq_of_lt h

theorem lead_ascii {b : UInt8} (h : b.toNat < 0x80) :
    lead b = .inl (.scalar (Char.ofNat b.toNat)) := by
  simp [lead, h]

theorem lead_two {n : Nat} (h₁ : 0x80 ≤ n) (h₂ : n < 0x800) :
    lead (UInt8.ofNat (0xC0 + n / 0x40)) =
      .inr ⟨[UInt8.ofNat (0xC0 + n / 0x40)], n / 0x40, 0, 0x80, 0xBF⟩ := by
  have hb := toNat_ofNat_byte (n := 0xC0 + n / 0x40) (by omega)
  unfold lead
  rw [hb]
  rw [if_neg (by omega), if_neg (by omega), if_pos (by omega)]
  simp

/-- The first byte of three leaves room for the second one: surrogates and longer spellings are what
the bounds keep out. -/
theorem lead_three {n : Nat} (h₁ : 0x800 ≤ n) (h₂ : n < 0x10000) (hs : n < 0xD800 ∨ 0xDFFF < n) :
    ∃ low high,
      lead (UInt8.ofNat (0xE0 + n / 0x1000)) =
        .inr ⟨[UInt8.ofNat (0xE0 + n / 0x1000)], n / 0x1000, 1, low, high⟩ ∧
      low ≤ 0x80 + n / 0x40 % 0x40 ∧ 0x80 + n / 0x40 % 0x40 ≤ high := by
  have hb := toNat_ofNat_byte (n := 0xE0 + n / 0x1000) (by omega)
  unfold lead
  rw [hb]
  rw [if_neg (by omega), if_neg (by omega), if_neg (by omega)]
  by_cases hE0 : 0xE0 + n / 0x1000 = 0xE0
  · rw [if_pos hE0]
    refine ⟨0xA0, 0xBF, by simp, by omega, by omega⟩
  · rw [if_neg hE0]
    by_cases hED : 0xE0 + n / 0x1000 = 0xED
    · rw [if_pos hED]
      refine ⟨0x80, 0x9F, by simp, by omega, by omega⟩
    · rw [if_neg hED, if_pos (by omega)]
      refine ⟨0x80, 0xBF, by simp, by omega, by omega⟩

theorem lead_four {n : Nat} (h₁ : 0x10000 ≤ n) (h₂ : n < 0x110000) :
    ∃ low high,
      lead (UInt8.ofNat (0xF0 + n / 0x40000)) =
        .inr ⟨[UInt8.ofNat (0xF0 + n / 0x40000)], n / 0x40000, 2, low, high⟩ ∧
      low ≤ 0x80 + n / 0x1000 % 0x40 ∧ 0x80 + n / 0x1000 % 0x40 ≤ high := by
  have hb := toNat_ofNat_byte (n := 0xF0 + n / 0x40000) (by omega)
  unfold lead
  rw [hb]
  rw [if_neg (by omega), if_neg (by omega), if_neg (by omega), if_neg (by omega),
    if_neg (by omega), if_neg (by omega)]
  by_cases hF0 : 0xF0 + n / 0x40000 = 0xF0
  · rw [if_pos hF0]
    refine ⟨0x90, 0xBF, by simp, by omega, by omega⟩
  · rw [if_neg hF0]
    by_cases hlt : 0xF0 + n / 0x40000 < 0xF4
    · rw [if_pos hlt]
      refine ⟨0x80, 0xBF, by simp, by omega, by omega⟩
    · rw [if_neg hlt, if_pos (by omega)]
      refine ⟨0x80, 0x8F, by simp, by omega, by omega⟩

/-! ### A reader -/

/-- A byte that starts a longer scalar value puts the reader into it. -/
theorem feed_lead {found : List Piece} {b : UInt8} {u : Unfinished} (h : lead b = .inr u) :
    Reader.feed ⟨found, none⟩ b = ⟨found, some u⟩ := by
  simp [Reader.feed, Reader.start, h]

/-- A byte within the bounds ends the scalar value that lacks only it. -/
theorem feed_last {found : List Piece} {read : Bytes} {value low high k : Nat} (hk : k < 0x40)
    (hlow : low ≤ 0x80 + k) (hhigh : 0x80 + k ≤ high) :
    Reader.feed ⟨found, some ⟨read, value, 0, low, high⟩⟩ (UInt8.ofNat (0x80 + k)) =
      ⟨.scalar (Char.ofNat (value * 0x40 + k)) :: found, none⟩ := by
  have hb := toNat_ofNat_byte (n := 0x80 + k) (by omega)
  simp only [Reader.feed, hb]
  rw [if_pos ⟨hlow, hhigh⟩, Nat.add_sub_cancel_left]

/-- A byte within the bounds continues a scalar value that lacks more. -/
theorem feed_more {found : List Piece} {read : Bytes} {value missing low high k : Nat}
    (hk : k < 0x40) (hlow : low ≤ 0x80 + k) (hhigh : 0x80 + k ≤ high) :
    Reader.feed ⟨found, some ⟨read, value, missing + 1, low, high⟩⟩ (UInt8.ofNat (0x80 + k)) =
      ⟨found, some ⟨read ++ [UInt8.ofNat (0x80 + k)], value * 0x40 + k, missing, 0x80, 0xBF⟩⟩ := by
  have hb := toNat_ofNat_byte (n := 0x80 + k) (by omega)
  simp only [Reader.feed, hb]
  rw [if_pos ⟨hlow, hhigh⟩, Nat.add_sub_cancel_left]

theorem feed_encodeChar (found : List Piece) (c : Char) :
    (encodeChar c).foldl Reader.feed ⟨found, none⟩ = ⟨.scalar c :: found, none⟩ := by
  have hvalid : c.toNat < 0xD800 ∨ (0xDFFF < c.toNat ∧ c.toNat < 0x110000) := c.valid
  have hback : Char.ofNat c.toNat = c := Char.ofNat_toNat c
  unfold encodeChar
  generalize c.toNat = n at hvalid hback
  subst hback
  have hlast : n % 0x40 < 0x40 := Nat.mod_lt _ (by omega)
  have hmiddle : n / 0x40 % 0x40 < 0x40 := Nat.mod_lt _ (by omega)
  have hsecond : n / 0x1000 % 0x40 < 0x40 := Nat.mod_lt _ (by omega)
  by_cases h1 : n < 0x80
  · have hb := toNat_ofNat_byte (n := n) (by omega)
    have hlead : lead (UInt8.ofNat n) = .inl (.scalar (Char.ofNat n)) := by
      rw [lead_ascii (by omega), hb]
    simp [h1, Reader.feed, Reader.start, hlead]
  by_cases h2 : n < 0x800
  · have hlead := lead_two (n := n) (by omega) h2
    have hvalue : n / 0x40 * 0x40 + n % 0x40 = n := by omega
    simp only [h1, h2, if_true, if_false, List.foldl_cons, List.foldl_nil]
    rw [feed_lead hlead, feed_last hlast (by omega) (by omega), hvalue]
  by_cases h3 : n < 0x10000
  · obtain ⟨low, high, hlead, hlow, hhigh⟩ := lead_three (n := n) (by omega) h3 (by omega)
    have hvalue : (n / 0x1000 * 0x40 + n / 0x40 % 0x40) * 0x40 + n % 0x40 = n := by omega
    simp only [h1, h2, h3, if_true, if_false, List.foldl_cons, List.foldl_nil]
    rw [feed_lead hlead, feed_more hmiddle hlow hhigh, feed_last hlast (by omega) (by omega),
      hvalue]
  · obtain ⟨low, high, hlead, hlow, hhigh⟩ := lead_four (n := n) (by omega) (by omega)
    have hvalue : ((n / 0x40000 * 0x40 + n / 0x1000 % 0x40) * 0x40 + n / 0x40 % 0x40) * 0x40 +
        n % 0x40 = n := by omega
    simp only [h1, h2, h3, if_false, List.foldl_cons, List.foldl_nil]
    rw [feed_lead hlead, feed_more hsecond hlow hhigh, feed_more hmiddle (by omega) (by omega),
      feed_last hlast (by omega) (by omega), hvalue]

theorem feed_encode (found : List Piece) (text : List Char) :
    (encode text).foldl Reader.feed ⟨found, none⟩ =
      ⟨(text.map .scalar).reverse ++ found, none⟩ := by
  induction text generalizing found with
  | nil => rfl
  | cons c rest ih =>
    rw [encode, List.flatMap_cons, List.foldl_append, feed_encodeChar]
    show (encode rest).foldl Reader.feed _ = _
    rw [ih]
    simp

/-- What has been found is never looked at again: a reader finds the same pieces behind any others.
-/
theorem feed_found (found : List Piece) (r : Reader) (b : UInt8) :
    Reader.feed ⟨r.found ++ found, r.inside⟩ b =
      ⟨(r.feed b).found ++ found, (r.feed b).inside⟩ := by
  have hstart (done : List Piece) : Reader.start (done ++ found) b =
      ⟨(Reader.start done b).found ++ found, (Reader.start done b).inside⟩ := by
    unfold Reader.start
    cases lead b <;> rfl
  obtain ⟨done, inside⟩ := r
  cases inside with
  | none => exact hstart done
  | some u =>
    simp only [Reader.feed]
    split
    · cases u.missing <;> rfl
    · exact hstart (.broken u.read :: done)

theorem foldl_feed_found (found : List Piece) (bytes : Bytes) (r : Reader) :
    bytes.foldl Reader.feed ⟨r.found ++ found, r.inside⟩ =
      ⟨(bytes.foldl Reader.feed r).found ++ found, (bytes.foldl Reader.feed r).inside⟩ := by
  induction bytes generalizing r with
  | nil => rfl
  | cons b rest ih =>
    rw [List.foldl_cons, List.foldl_cons, feed_found, ih]

/-! ### Pieces -/

/-- The pieces of a text's bytes are the text's characters, whatever stands behind them. -/
theorem pieces_encode_append (text : List Char) (bytes : Bytes) :
    pieces (encode text ++ bytes) = text.map .scalar ++ pieces bytes := by
  have h := foldl_feed_found (text.map .scalar).reverse bytes {}
  simp only [List.nil_append] at h
  unfold pieces
  rw [List.foldl_append, feed_encode, List.append_nil, h]
  cases hinside : (bytes.foldl Reader.feed {}).inside <;> simp [hinside]

theorem pieces_encode (text : List Char) : pieces (encode text) = text.map .scalar := by
  simpa [pieces] using pieces_encode_append text []

theorem firstFault_scalars (index : Nat) (text : List Char) :
    firstFault index (text.map .scalar) = none := by
  induction text generalizing index with
  | nil => rfl
  | cons c rest ih => exact ih _

@[simp] theorem decodeLossy_encode (text : List Char) : decodeLossy (encode text) = text := by
  rw [decodeLossy, pieces_encode, List.map_map]
  exact List.map_id text

/-- **A text is read back from its bytes.** -/
@[simp] theorem decode_encode (text : List Char) : decode (encode text) = .ok text := by
  rw [decode, decodeLossy_encode, pieces_encode, firstFault_scalars]

/-- A byte below 0x80 is a character by itself, whatever stands behind it. -/
theorem decodeLossy_cons_ascii {c : Char} (h : c.toNat < 0x80) (bytes : Bytes) :
    decodeLossy (UInt8.ofNat c.toNat :: bytes) = c :: decodeLossy bytes := by
  have hone : encode [c] = [UInt8.ofNat c.toNat] := by simp [encode, encodeChar, h]
  have hpieces := pieces_encode_append [c] bytes
  rw [hone] at hpieces
  rw [decodeLossy, decodeLossy,
    show UInt8.ofNat c.toNat :: bytes = [UInt8.ofNat c.toNat] ++ bytes from rfl, hpieces]
  rfl

end SchemaFormat.Utf8

namespace SchemaFormat.Bytes

/-- A string is read back from its bytes. -/
@[simp] theorem toString?_ofString (s : String) : toString? (ofString s) = .ok s := by
  rw [toString?, ofString, Utf8.decode_encode]
  exact congrArg Except.ok String.ofList_toList

theorem ofString_injective : Function.Injective ofString := by
  intro s t h
  have hread := congrArg toString? h
  rw [toString?_ofString, toString?_ofString] at hread
  exact Except.ok.inj hread

end SchemaFormat.Bytes
