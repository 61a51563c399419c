import SchemaFormat.Proofs.Utf8

/-!
Nothing is lost when bytes are cut into pieces.

Each piece stands for the bytes it was cut from, and the pieces of some bytes put those bytes
together again (`flatMap_bytes_pieces`). A reader keeps this at every byte (`Reader.feed_bytes`):
what it has found and what it is in the middle of are the bytes it took. So the bytes of a text are
the only ones that hold it (`decode_eq_ok_iff`).
-/

namespace SchemaFormat.Utf8

/-- The bytes that a piece was cut from. -/
def Piece.bytes : Piece → Bytes
  | .scalar c => encodeChar c
  | .broken bytes => bytes
  | .cut bytes => bytes

/-! ### Characters by the length of their encoding -/

theorem toNat_ofNat_char {n : Nat} (h : n < 0xD800 ∨ 0xDFFF < n ∧ n < 0x110000) :
    (Char.ofNat n).toNat = n := by
  have hvalid : n.isValidChar := h
  rw [Char.ofNat, dif_pos hvalid]
  rfl

theorem encodeChar_one {n : Nat} (h : n < 0x80) : encodeChar (Char.ofNat n) = [UInt8.ofNat n] := by
  have hn := toNat_ofNat_char (n := n) (by omega)
  simp only [encodeChar, hn]
  rw [if_pos h]

theorem encodeChar_two {n : Nat} (h₁ : 0x80 ≤ n) (h₂ : n < 0x800) :
    encodeChar (Char.ofNat n) = [UInt8.ofNat (0xC0 + n / 0x40), UInt8.ofNat (0x80 + n % 0x40)] := by
  have hn := toNat_ofNat_char (n := n) (by omega)
  simp only [encodeChar, hn]
  rw [if_neg (by omega), if_pos h₂]

theorem encodeChar_three {n : Nat} (h₁ : 0x800 ≤ n) (h₂ : n < 0x10000)
    (hs : n < 0xD800 ∨ 0xDFFF < n) :
    encodeChar (Char.ofNat n) = [UInt8.ofNat (0xE0 + n / 0x1000),
      UInt8.ofNat (0x80 + n / 0x40 % 0x40), UInt8.ofNat (0x80 + n % 0x40)] := by
  have hn := toNat_ofNat_char (n := n) (by omega)
  simp only [encodeChar, hn]
  rw [if_neg (by omega), if_neg (by omega), if_pos h₂]

theorem encodeChar_four {n : Nat} (h₁ : 0x10000 ≤ n) (h₂ : n < 0x110000) :
    encodeChar (Char.ofNat n) = [UInt8.ofNat (0xF0 + n / 0x40000),
      UInt8.ofNat (0x80 + n / 0x1000 % 0x40), UInt8.ofNat (0x80 + n / 0x40 % 0x40),
      UInt8.ofNat (0x80 + n % 0x40)] := by
  have hn := toNat_ofNat_char (n := n) (by omega)
  simp only [encodeChar, hn]
  rw [if_neg (by omega), if_neg (by omega), if_neg (by omega)]

/-! ### What a reader is in the middle of -/

/-- Whichever bytes within the bounds follow those read, all of them are the encoding of the
character that the value comes to. -/
def Spells (read : Bytes) : (missing value low high : Nat) → Prop
  | 0, value, low, high => ∀ k < 0x40, low ≤ 0x80 + k → 0x80 + k ≤ high →
      encodeChar (Char.ofNat (value * 0x40 + k)) = read ++ [UInt8.ofNat (0x80 + k)]
  | missing + 1, value, low, high => ∀ k < 0x40, low ≤ 0x80 + k → 0x80 + k ≤ high →
      Spells (read ++ [UInt8.ofNat (0x80 + k)]) missing (value * 0x40 + k) 0x80 0xBF

/-- An unfinished scalar value goes on with continuation bytes only, and spells what it comes to. -/
structure Unfinished.Sound (u : Unfinished) : Prop where
  low : 0x80 ≤ u.low
  high : u.high ≤ 0xBF
  spells : Spells u.read u.missing u.value u.low u.high

theorem spells_two {b : UInt8} (h₁ : 0xC2 ≤ b.toNat) (h₂ : b.toNat < 0xE0) :
    Spells [b] 0 (b.toNat - 0xC0) 0x80 0xBF := by
  intro k hk _ _
  generalize hm : (b.toNat - 0xC0) * 0x40 + k = m
  have hfirst : 0xC0 + m / 0x40 = b.toNat := by omega
  have hlast : m % 0x40 = k := by omega
  rw [encodeChar_two (by omega) (by omega), hfirst, hlast, UInt8.ofNat_toNat]
  rfl

/-- The bounds of the second byte keep out what is spelled in two bytes, and surrogates. -/
theorem spells_three {b : UInt8} {low high : Nat} (h₁ : 0xE0 ≤ b.toNat) (h₂ : b.toNat < 0xF0)
    (hlow : b.toNat = 0xE0 → 0xA0 ≤ low) (hhigh : b.toNat = 0xED → high ≤ 0x9F) :
    Spells [b] 1 (b.toNat - 0xE0) low high := by
  intro k hk hk₁ hk₂ j hj _ _
  generalize hm : ((b.toNat - 0xE0) * 0x40 + k) * 0x40 + j = m
  have hfirst : 0xE0 + m / 0x1000 = b.toNat := by omega
  have hsecond : m / 0x40 % 0x40 = k := by omega
  have hlast : m % 0x40 = j := by omega
  rw [encodeChar_three (by omega) (by omega) (by omega), hfirst, hsecond, hlast, UInt8.ofNat_toNat]
  rfl

/-- The bounds of the second byte keep out what is spelled in three bytes, and what is above
U+10FFFF. -/
theorem spells_four {b : UInt8} {low high : Nat} (h₁ : 0xF0 ≤ b.toNat) (h₂ : b.toNat ≤ 0xF4)
    (hlow : b.toNat = 0xF0 → 0x90 ≤ low) (hhigh : b.toNat = 0xF4 → high ≤ 0x8F) :
    Spells [b] 2 (b.toNat - 0xF0) low high := by
  intro k hk hk₁ hk₂ j hj _ _ i hi _ _
  generalize hm : (((b.toNat - 0xF0) * 0x40 + k) * 0x40 + j) * 0x40 + i = m
  have hfirst : 0xF0 + m / 0x40000 = b.toNat := by omega
  have hsecond : m / 0x1000 % 0x40 = k := by omega
  have hthird : m / 0x40 % 0x40 = j := by omega
  have hlast : m % 0x40 = i := by omega
  rw [encodeChar_four (by omega) (by omega), hfirst, hsecond, hthird, hlast, UInt8.ofNat_toNat]
  rfl

theorem bytes_of_lead {b : UInt8} {piece : Piece} (h : lead b = .inl piece) :
    piece.bytes = [b] := by
  unfold lead at h
  dsimp only at h
  split_ifs at h with hascii
  · cases h
    rw [Piece.bytes, encodeChar_one hascii, UInt8.ofNat_toNat]
  · cases h
    rfl
  · cases h
    rfl

/-- What a first byte starts is sound, and that byte has been read. -/
theorem sound_of_lead {b : UInt8} {u : Unfinished} (h : lead b = .inr u) :
    u.Sound ∧ u.read = [b] := by
  unfold lead at h
  dsimp only at h
  split_ifs at h with hascii hlong htwo hE0 hED hthree hF0 hfour hF4 <;> cases h
  · exact ⟨⟨by simp, by simp, spells_two (by omega) htwo⟩, rfl⟩
  · exact ⟨⟨by simp, by simp, spells_three (by omega) (by omega) (by simp) (by omega)⟩, rfl⟩
  · exact ⟨⟨by simp, by simp, spells_three (by omega) (by omega) (by omega) (by simp)⟩, rfl⟩
  · exact ⟨⟨by simp, by simp, spells_three (by omega) hthree (by omega) (by omega)⟩, rfl⟩
  · exact ⟨⟨by simp, by simp, spells_four (by omega) (by omega) (by simp) (by omega)⟩, rfl⟩
  · exact ⟨⟨by simp, by simp, spells_four (by omega) (by omega) (by omega) (by omega)⟩, rfl⟩
  · exact ⟨⟨by simp, by simp, spells_four (by omega) (by omega) (by omega) (by simp)⟩, rfl⟩

/-! ### The bytes that a reader took -/

namespace Reader

/-- The bytes that a reader took: those of what it found and those of what it is in the middle of.
-/
def bytes (r : Reader) : Bytes :=
  r.found.reverse.flatMap Piece.bytes ++ (r.inside.map Unfinished.read).getD []

/-- What a reader is in the middle of is sound. -/
def Sound (r : Reader) : Prop := ∀ u ∈ r.inside, u.Sound

theorem sound_start : Reader.Sound {} := by
  intro u hu
  cases hu

/-- A reader between two scalar values has taken the byte that it starts with. -/
theorem start_bytes (found : List Piece) (b : UInt8) :
    (start found b).Sound ∧ (start found b).bytes = found.reverse.flatMap Piece.bytes ++ [b] := by
  unfold start
  cases h : lead b with
  | inl piece => exact ⟨by simp [Sound], by simp [bytes, bytes_of_lead h]⟩
  | inr u =>
    obtain ⟨hsound, hread⟩ := sound_of_lead h
    exact ⟨by simpa [Sound] using hsound, by simp [bytes, hread]⟩

/-- **A reader loses no byte**: it is left with those it took and the one it was fed. -/
theorem feed_bytes {r : Reader} (hr : r.Sound) (b : UInt8) :
    (r.feed b).Sound ∧ (r.feed b).bytes = r.bytes ++ [b] := by
  obtain ⟨found, inside⟩ := r
  cases inside with
  | none => simpa [feed, bytes] using start_bytes found b
  | some u =>
    obtain ⟨read, value, missing, low, high⟩ := u
    obtain ⟨hlow, hhigh, hspells⟩ := hr _ rfl
    dsimp only at hlow hhigh hspells
    simp only [feed]
    split
    · next hb =>
      -- The byte goes on with the scalar value, so the reader's own bounds say what it spells.
      have hk : b.toNat - 0x80 < 0x40 := by omega
      have hbyte : UInt8.ofNat (0x80 + (b.toNat - 0x80)) = b := by
        rw [Nat.add_sub_cancel' (Nat.le_trans hlow hb.1), UInt8.ofNat_toNat]
      cases missing with
      | zero =>
        have hchar := hspells _ hk (by omega) (by omega)
        rw [hbyte] at hchar
        exact ⟨by simp [Sound], by simp [bytes, Piece.bytes, hchar]⟩
      | succ missing =>
        have hmore := hspells _ hk (by omega) (by omega)
        rw [hbyte] at hmore
        refine ⟨?_, by simp [bytes]⟩
        intro v hv
        obtain rfl := Option.some.inj hv
        exact ⟨by simp, by simp, hmore⟩
    · have hstart := start_bytes (.broken read :: found) b
      simpa [bytes, Piece.bytes] using hstart

theorem foldl_feed_bytes {r : Reader} (hr : r.Sound) (more : Bytes) :
    (more.foldl feed r).Sound ∧ (more.foldl feed r).bytes = r.bytes ++ more := by
  induction more generalizing r with
  | nil => exact ⟨hr, (List.append_nil _).symm⟩
  | cons b more ih =>
    obtain ⟨hsound, hbytes⟩ := feed_bytes hr b
    obtain ⟨hsound', hbytes'⟩ := ih hsound
    rw [List.foldl_cons]
    refine ⟨hsound', ?_⟩
    rw [hbytes', hbytes, List.append_assoc, List.singleton_append]

end Reader

/-! ### Pieces and texts -/

/-- **The pieces of some bytes put them together again.** -/
theorem flatMap_bytes_pieces (bytes : Bytes) : (pieces bytes).flatMap Piece.bytes = bytes := by
  obtain ⟨-, hbytes⟩ := Reader.foldl_feed_bytes Reader.sound_start bytes
  unfold pieces
  unfold Reader.bytes at hbytes
  cases hinside : (bytes.foldl Reader.feed {}).inside with
  | none => simpa [hinside] using hbytes
  | some u => simpa [hinside, Piece.bytes] using hbytes

/-- Pieces without a fault are characters. -/
theorem eq_scalars_of_firstFault {index : Nat} {found : List Piece}
    (h : firstFault index found = none) : found = (found.map Piece.replacement).map .scalar := by
  induction found generalizing index with
  | nil => rfl
  | cons piece rest ih =>
    cases piece with
    | scalar c => rw [List.map_cons, List.map_cons, ← ih h, Piece.replacement]
    | broken bytes => cases h
    | cut bytes => cases h

/-- **The bytes of a text are the only ones that hold it.** -/
theorem decode_eq_ok_iff {bytes : Bytes} {text : List Char} :
    decode bytes = .ok text ↔ bytes = encode text := by
  constructor
  · intro h
    unfold decode at h
    cases hfault : firstFault 0 (pieces bytes) with
    | some fault =>
      rw [hfault] at h
      cases h
    | none =>
      rw [hfault] at h
      obtain rfl := Except.ok.inj h
      calc bytes = (pieces bytes).flatMap Piece.bytes := (flatMap_bytes_pieces bytes).symm
        _ = ((decodeLossy bytes).map Piece.scalar).flatMap Piece.bytes := by
          rw [decodeLossy, ← eq_scalars_of_firstFault hfault]
        _ = encode (decodeLossy bytes) := by rw [List.flatMap_map]; rfl
  · rintro rfl
    exact decode_encode text

/-! ### Bytes below 0x80 -/

/-- The text of what a reader took. -/
def Reader.text (r : Reader) : List Char :=
  r.found.reverse.map Piece.replacement ++ (r.inside.map fun _ => ['\uFFFD']).getD []

theorem decodeLossy_eq_text (bytes : Bytes) :
    decodeLossy bytes = (bytes.foldl Reader.feed {}).text := by
  unfold decodeLossy pieces Reader.text
  cases hinside : (bytes.foldl Reader.feed {}).inside with
  | none => simp [hinside]
  | some u => simp [hinside, Piece.replacement]

/-- A byte below 0x80 goes on with no scalar value, so it ends the one that a reader is in. -/
theorem Reader.feed_ascii {r : Reader} (hr : r.Sound) {b : UInt8} (hb : b.toNat < 0x80) :
    (r.feed b).inside = none ∧ (r.feed b).text = r.text ++ [Char.ofNat b.toNat] := by
  obtain ⟨found, inside⟩ := r
  have hlead := lead_ascii hb
  cases inside with
  | none =>
    have hfeed : Reader.feed ⟨found, none⟩ b = ⟨.scalar (Char.ofNat b.toNat) :: found, none⟩ := by
      simp [Reader.feed, Reader.start, hlead]
    rw [hfeed]
    exact ⟨rfl, by simp [Reader.text, Piece.replacement]⟩
  | some u =>
    have hlow : 0x80 ≤ u.low := (hr u rfl).low
    have hfeed : Reader.feed ⟨found, some u⟩ b =
        ⟨.scalar (Char.ofNat b.toNat) :: .broken u.read :: found, none⟩ := by
      simp only [Reader.feed]
      rw [if_neg (by omega)]
      simp [Reader.start, hlead]
    rw [hfeed]
    exact ⟨rfl, by simp [Reader.text, Piece.replacement]⟩

/-- **A byte below 0x80 is a character by itself**, wherever it stands. -/
theorem decodeLossy_append_ascii {b : UInt8} (hb : b.toNat < 0x80) (before after : Bytes) :
    decodeLossy (before ++ b :: after) =
      decodeLossy before ++ Char.ofNat b.toNat :: decodeLossy after := by
  obtain ⟨hsound, -⟩ := Reader.foldl_feed_bytes Reader.sound_start before
  obtain ⟨hinside, htext⟩ := Reader.feed_ascii hsound hb
  rw [decodeLossy_eq_text, decodeLossy_eq_text before, decodeLossy_eq_text after, List.foldl_append,
    List.foldl_cons]
  generalize (before.foldl Reader.feed {}).feed b = r at hinside htext
  obtain ⟨found, inside⟩ := r
  obtain rfl : inside = none := hinside
  have hafter := foldl_feed_found found after {}
  rw [List.nil_append] at hafter
  rw [Reader.text, Option.map_none, Option.getD_none, List.append_nil] at htext
  rw [hafter, Reader.text, List.reverse_append, List.map_append, htext, List.append_assoc,
    List.append_assoc]
  rfl

/-- No byte of a text is that of a character below 0x80 that the text does not hold. -/
theorem ascii_notMem_encode {c : Char} (hc : c.toNat < 0x80) {text : List Char} (h : c ∉ text) :
    UInt8.ofNat c.toNat ∉ encode text := by
  intro hmem
  obtain ⟨before, after, hsplit⟩ := List.append_of_mem hmem
  have hbyte := toNat_ofNat_byte (n := c.toNat) (by omega)
  have htext := decodeLossy_append_ascii (b := UInt8.ofNat c.toNat) (by omega) before after
  rw [← hsplit, decodeLossy_encode, hbyte, Char.ofNat_toNat] at htext
  exact h (htext ▸ List.mem_append_cons_self)

/-- A piece that is shown as a character below 0x80 is cut from the byte of that character. -/
theorem bytes_of_replacement_ascii {c : Char} (hc : c.toNat < 0x80) {piece : Piece}
    (h : piece.replacement = c) :
    piece.bytes = [UInt8.ofNat c.toNat] := by
  cases piece with
  | scalar d =>
    obtain rfl : d = c := h
    simp [Piece.bytes, encodeChar, hc]
  | broken _ =>
    obtain rfl : '\uFFFD' = c := h
    exact absurd hc (by decide)
  | cut _ =>
    obtain rfl : '\uFFFD' = c := h
    exact absurd hc (by decide)

/-- A text holds no more characters below 0x80 than its bytes do. -/
theorem ascii_notMem_decodeLossy {c : Char} (hc : c.toNat < 0x80) {bytes : Bytes}
    (h : UInt8.ofNat c.toNat ∉ bytes) : c ∉ decodeLossy bytes := by
  intro hmem
  obtain ⟨piece, hpiece, hreplacement⟩ := List.mem_map.mp hmem
  apply h
  rw [← flatMap_bytes_pieces bytes]
  refine List.mem_flatMap.mpr ⟨piece, hpiece, ?_⟩
  rw [bytes_of_replacement_ascii hc hreplacement]
  exact List.mem_singleton_self _

/-- A character below 0x80 is shown for no bytes but its own. -/
theorem eq_of_decodeLossy_eq_ascii {c : Char} (hc : c.toNat < 0x80) {bytes : Bytes}
    (h : decodeLossy bytes = [c]) : bytes = [UInt8.ofNat c.toNat] := by
  obtain ⟨piece, hpieces, hreplacement⟩ := List.map_eq_singleton_iff.mp h
  have hbytes := flatMap_bytes_pieces bytes
  rw [hpieces, List.flatMap_singleton] at hbytes
  rw [← hbytes, bytes_of_replacement_ascii hc hreplacement]

end SchemaFormat.Utf8

namespace SchemaFormat.Bytes

/-- Some bytes hold a string if they are its bytes. -/
theorem toString?_eq_ok_iff {bytes : Bytes} {s : String} :
    toString? bytes = .ok s ↔ bytes = ofString s := by
  constructor
  · intro h
    unfold toString? at h
    cases hdecode : Utf8.decode bytes with
    | error fault =>
      rw [hdecode] at h
      cases h
    | ok text =>
      rw [hdecode] at h
      obtain rfl := Except.ok.inj h
      rw [ofString, String.toList_ofList]
      exact Utf8.decode_eq_ok_iff.mp hdecode
  · rintro rfl
    exact toString?_ofString s

end SchemaFormat.Bytes
