import SchemaFormat.Proofs.SafeText
import SchemaFormat.Proofs.WireFormat

/-!
The two forms of a request.

Written over several lines, a JSON value differs from its form on one line in spaces and line feeds
alone (`dense_prettyChars`). A request whose locator is graphic has none of these on one line
(`Request.safe_compact`). So deleting them from the form that is shown leaves the form that is sent,
also byte by byte (`Request.dense_pretty`).
-/

namespace SchemaFormat

open Uri (GraphicText)

namespace Json

/-! ### Layout -/

/-- The characters that a layout is made of. -/
def isLayout (c : Char) : Bool :=
  c == ' ' || c == '\n'

/-- A text without them. -/
def dense (text : List Char) : List Char :=
  text.filter (! isLayout ·)

theorem dense_append (text other : List Char) : dense (text ++ other) = dense text ++ dense other :=
  List.filter_append text other

theorem dense_cons_of_layout {c : Char} (h : isLayout c = true) (text : List Char) :
    dense (c :: text) = dense text :=
  List.filter_cons_of_neg (by simp [h])

theorem dense_cons_of_not {c : Char} (h : isLayout c = false) (text : List Char) :
    dense (c :: text) = c :: dense text :=
  List.filter_cons_of_pos (by simp [h])

theorem dense_lineBreak (level : Nat) : dense (lineBreak level) = [] := by
  unfold lineBreak
  rw [dense_cons_of_layout (by decide)]
  refine List.filter_eq_nil_iff.mpr ?_
  intro c hc
  rw [List.eq_of_mem_replicate hc]
  decide

theorem dense_nextItems (level : Nat) {items items' : List (List Char)}
    (h : items.map dense = items'.map dense) :
    dense (items.flatMap fun next => ',' :: lineBreak level ++ next) =
      dense (items'.flatMap (',' :: ·)) := by
  induction items generalizing items' with
  | nil =>
    obtain rfl := List.map_eq_nil_iff.mp h.symm
    rfl
  | cons item items ih =>
    obtain ⟨item', items', rfl, hitem, hitems⟩ := List.map_eq_cons_iff.mp h.symm
    have hcomma (text : List Char) : dense (',' :: text) = ',' :: dense text :=
      dense_cons_of_not (by decide) text
    rw [List.flatMap_cons, List.flatMap_cons, dense_append, dense_append (',' :: item'),
      ih hitems.symm, List.cons_append, hcomma, dense_append, dense_lineBreak, List.nil_append,
      hcomma, hitem]

/-- Whether items are stacked or stand on one line is layout. -/
theorem dense_stacked (level : Nat) {opening closing : Char} {items items' : List (List Char)}
    (h : items.map dense = items'.map dense) :
    dense (stacked level opening closing items) = dense (bracketed opening closing items') := by
  cases items with
  | nil =>
    obtain rfl := List.map_eq_nil_iff.mp h.symm
    rfl
  | cons item items =>
    obtain ⟨item', items', rfl, hitem, hitems⟩ := List.map_eq_cons_iff.mp h.symm
    have hnext := dense_nextItems (level + 1) hitems.symm
    rw [stacked, bracketed, ← List.singleton_append, ← List.singleton_append (l := item')]
    simp only [dense_append, dense_lineBreak, hnext, hitem, List.append_nil]

mutual

/-- **The two forms of a value differ in layout alone.** -/
theorem dense_prettyChars (level : Nat) :
    (v : Value) → dense (v.prettyChars level) = dense v.compactChars
  | .null => rfl
  | .bool _ => rfl
  | .integer _ => rfl
  | .decimal _ _ => rfl
  | .string _ => rfl
  | .array items => dense_stacked level (map_dense_prettyItems (level + 1) items)
  | .object members => dense_stacked level (map_dense_prettyMembers (level + 1) members)

theorem map_dense_prettyItems (level : Nat) : (items : List Value) →
    (prettyItems level items).map dense = (compactItems items).map dense
  | [] => rfl
  | item :: items => by
    rw [prettyItems, compactItems, List.map_cons, List.map_cons, dense_prettyChars level item,
      map_dense_prettyItems level items]

theorem map_dense_prettyMembers (level : Nat) : (members : List (String × Value)) →
    (prettyMembers level members).map dense = (compactMembers members).map dense
  | [] => rfl
  | (name, value) :: members => by
    rw [prettyMembers, compactMembers, List.map_cons, List.map_cons,
      map_dense_prettyMembers level members, dense_append, dense_append,
      dense_cons_of_not (by decide), dense_cons_of_layout (by decide),
      dense_cons_of_not (by decide), dense_prettyChars level value]

end

/-! ### One line -/

theorem dense_of_graphic {text : List Char} (h : GraphicText text) : dense text = text := by
  refine List.filter_eq_self.mpr ?_
  intro c hc
  have hgraphic := (h c hc).1
  have hspace : c ≠ ' ' := by
    rintro rfl
    exact absurd hgraphic (by decide)
  have hfeed : c ≠ '\n' := by
    rintro rfl
    exact absurd hgraphic (by decide)
  simp [isLayout, hspace, hfeed]

end Json

/-! ### Bytes -/

namespace Bytes

/-- Bytes without those of spaces and line feeds. -/
def dense (bytes : Bytes) : Bytes :=
  bytes.filter fun b => b != 0x20 && b != 0x0A

/-- No byte of a character that is not ASCII is one of a space or a line feed. -/
theorem le_of_mem_encodeChar {c : Char} (h : 0x80 ≤ c.toNat) {b : UInt8}
    (hb : b ∈ Utf8.encodeChar c) :
    0x80 ≤ b.toNat := by
  have hvalid : c.toNat < 0x110000 := by
    have hvalid : c.toNat < 0xD800 ∨ (0xDFFF < c.toNat ∧ c.toNat < 0x110000) := c.valid
    omega
  unfold Utf8.encodeChar at hb
  dsimp only at hb
  rw [if_neg (by omega)] at hb
  have hbyte {n : Nat} (hlow : 0x80 ≤ n) (hhigh : n < 256) : 0x80 ≤ (UInt8.ofNat n).toNat := by
    rw [Utf8.toNat_ofNat_byte hhigh]
    exact hlow
  split_ifs at hb
  all_goals
    simp only [List.mem_cons, List.not_mem_nil, or_false] at hb
    rcases hb with rfl | rfl | rfl | rfl
  all_goals exact hbyte (by omega) (by omega)

theorem dense_encodeChar (c : Char) :
    dense (Utf8.encodeChar c) = if Json.isLayout c then [] else Utf8.encodeChar c := by
  by_cases hspace : c = ' '
  · subst hspace
    rfl
  by_cases hfeed : c = '\n'
  · subst hfeed
    rfl
  have hlayout : Json.isLayout c = false := by simp [Json.isLayout, hspace, hfeed]
  rw [hlayout, if_neg (by simp)]
  refine List.filter_eq_self.mpr ?_
  intro b hb
  have hkept : b.toNat ≠ 0x20 ∧ b.toNat ≠ 0x0A := by
    by_cases hascii : c.toNat < 0x80
    · rw [Utf8.encodeChar, if_pos hascii] at hb
      obtain rfl := List.mem_singleton.mp hb
      rw [Utf8.toNat_ofNat_byte (by omega)]
      exact ⟨fun h => hspace (Char.toNat_inj.mp h), fun h => hfeed (Char.toNat_inj.mp h)⟩
    · have hbyte := le_of_mem_encodeChar (Nat.le_of_not_lt hascii) hb
      exact ⟨by omega, by omega⟩
  have hb' : b ≠ 0x20 ∧ b ≠ 0x0A := by
    constructor
    · rintro rfl
      exact hkept.1 rfl
    · rintro rfl
      exact hkept.2 rfl
  simpa using hb'

/-- Layout is deleted from the bytes of a text as from the text. -/
theorem dense_encode (text : List Char) :
    dense (Utf8.encode text) = Utf8.encode (Json.dense text) := by
  induction text with
  | nil => rfl
  | cons c text ih =>
    have hencode : Utf8.encode (c :: text) = Utf8.encodeChar c ++ Utf8.encode text := rfl
    have hsplit : dense (Utf8.encode (c :: text)) =
        dense (Utf8.encodeChar c) ++ dense (Utf8.encode text) := by
      rw [hencode]
      exact List.filter_append _ _
    rw [hsplit, ih, dense_encodeChar]
    cases hlayout : Json.isLayout c with
    | true =>
      rw [if_pos rfl, Json.dense_cons_of_layout hlayout]
      rfl
    | false =>
      rw [if_neg (by simp), Json.dense_cons_of_not hlayout]
      rfl

end Bytes

/-! ### Requests -/

namespace Request

variable {r : Request}

/-- **The form that is shown, without spaces and line feeds, is the form that is sent**, if the
locator is graphic. -/
theorem dense_pretty (h : GraphicText r.uri.toList) :
    Bytes.dense (Bytes.ofString (r.pretty ++ "\n")) = Bytes.ofString r.compact := by
  have hsent : Json.dense r.compact.toList = r.compact.toList :=
    Json.dense_of_graphic (safe_compact h).graphic
  have hforms : Json.dense r.pretty.toList = Json.dense r.compact.toList := by
    rw [pretty, Json.Value.pretty, String.toList_ofList, Json.dense_prettyChars, compact,
      Json.Value.compact, String.toList_ofList]
  have hend : Json.dense "\n".toList = [] := by decide
  have hshown : Json.dense (r.pretty ++ "\n").toList = r.compact.toList := by
    rw [String.toList_append, Json.dense_append, hforms, hsent, hend, List.append_nil]
  rw [Bytes.ofString, Bytes.dense_encode, hshown, Bytes.ofString]

end Request

end SchemaFormat
