import SchemaFormat.Text.Utf8

/-!
Punycode: any label in the letters `a` to `z`, digits and hyphens.

The ASCII characters of a label come first, as they are, with a hyphen behind them if there are any.
The others follow in ascending order. Each is a number of steps through all pairs of a place in the
label and a character, counted from the one before; the number is written with digits of varying
weight, the least first, whose bounds follow a bias that adapts to the numbers seen.
-/

namespace SchemaFormat.Domain.Punycode

/-- The letter or digit that stands for a number below 36. -/
def digit (d : Nat) : Char :=
  if d < 26 then Char.ofNat (0x61 + d) else Char.ofNat (0x30 + (d - 26))

def digitValue (c : Char) : Option Nat :=
  let n := c.toNat
  if 0x61 ≤ n ∧ n ≤ 0x7A then some (n - 0x61)
  else if 0x41 ≤ n ∧ n ≤ 0x5A then some (n - 0x41)
  else if 0x30 ≤ n ∧ n ≤ 0x39 then some (n - 0x30 + 26)
  else none

/-- The digit at weight `k` ends a number if it is below this bound. -/
def threshold (k bias : Nat) : Nat :=
  if k ≤ bias then 1 else if bias + 26 ≤ k then 26 else k - bias

theorem threshold_pos (k bias : Nat) : 0 < threshold k bias := by
  unfold threshold; split <;> (try split) <;> omega

/-- Divide by 35 until at most 455 is left; the weight grows by 36 with each division. -/
def shrink (delta k : Nat) : Nat × Nat :=
  if 455 < delta then shrink (delta / 35) (k + 36) else (delta, k)
termination_by delta
decreasing_by exact Nat.div_lt_self (by omega) (by omega)

/-- The bias after a number `delta`, with `count` characters placed. -/
def adapt (delta count : Nat) (first : Bool) : Nat :=
  let scaled := if first then delta / 700 else delta / 2
  let (rest, k) := shrink (scaled + scaled / count) 0
  k + 36 * rest / (rest + 38)

/-- A number in digits of varying weight. -/
def encodeNumber (bias k q : Nat) : List Char :=
  let t := threshold k bias
  if q < t then [digit q]
  else digit (t + (q - t) % (36 - t)) :: encodeNumber bias (k + 36) ((q - t) / (36 - t))
termination_by q
decreasing_by
  have := threshold_pos k bias
  exact Nat.lt_of_le_of_lt (Nat.div_le_self _ _) (by omega)

structure Encoder where
  /-- The digits written, the last one first. -/
  written : List Char
  /-- The steps since the last character. -/
  delta : Nat
  bias : Nat
  /-- How many characters have been placed. -/
  placed : Nat

/-- Pass one place of the label while looking for the character `m`. -/
def Encoder.pass (basic m : Nat) (s : Encoder) (c : Char) : Encoder :=
  if c.toNat < m then { s with delta := s.delta + 1 }
  else if c.toNat = m then
    { written := (encodeNumber s.bias 36 s.delta).reverse ++ s.written
      delta := 0
      bias := adapt s.delta (s.placed + 1) (s.placed == basic)
      placed := s.placed + 1 }
  else s

/-- Write the characters with the given code points, in ascending order, counting from `n`. -/
def Encoder.run (label : List Char) (basic : Nat) : List Nat → Nat → Encoder → Encoder
  | [], _, s => s
  | m :: rest, n, s =>
    let s := { s with delta := s.delta + (m - n) * (s.placed + 1) }
    let s := label.foldl (Encoder.pass basic m) s
    Encoder.run label basic rest (m + 1) { s with delta := s.delta + 1 }

/-- Numbers in ascending order, each once. -/
def ascending (numbers : List Nat) : List Nat :=
  (numbers.mergeSort).eraseReps

def encode (label : List Char) : List Char :=
  let basic := label.filter (·.toNat < 0x80)
  let others := ascending ((label.filter (0x80 ≤ ·.toNat)).map Char.toNat)
  let start : Encoder := ⟨[], 0, 72, basic.length⟩
  basic ++ (if basic.isEmpty then [] else ['-']) ++
    (Encoder.run label basic.length others 0x80 start).written.reverse

/-- Read a number: what is read so far, the weight of the next digit, and the rest of the text. -/
def decodeNumber (bias : Nat) : List Char → Nat → Nat → Nat → Option (Nat × List Char)
  | [], _, _, _ => none
  | c :: rest, k, weight, sum =>
    match digitValue c with
    | none => none
    | some d =>
      let t := threshold k bias
      if d < t then some (sum + d * weight, rest)
      else decodeNumber bias rest (k + 36) (weight * (36 - t)) (sum + d * weight)

theorem decodeNumber_length {bias : Nat} {text : List Char} {k weight sum : Nat}
    {result : Nat × List Char} (h : decodeNumber bias text k weight sum = some result) :
    result.2.length < text.length := by
  induction text generalizing k weight sum with
  | nil => simp [decodeNumber] at h
  | cons c rest ih =>
    rw [decodeNumber] at h
    split at h
    · simp at h
    · simp only at h
      split at h
      · cases h; simp
      · have := ih h
        simp only [List.length_cons]
        omega

/-- Read the characters that are not ASCII and put each into its place. -/
def place (bias n i : Nat) (label : List Char) (text : List Char) : Option (List Char) :=
  match text with
  | [] => some label
  | c :: rest =>
    match _h : decodeNumber bias (c :: rest) 36 1 i with
    | none => none
    | some (sum, after) =>
      let count := label.length + 1
      let m := n + sum / count
      if m < 0xD800 ∨ (0xDFFF < m ∧ m < 0x110000) then
        place (adapt (sum - i) count (i == 0)) m (sum % count + 1)
          (label.insertIdx (sum % count) (Char.ofNat m)) after
      else none
termination_by text.length
decreasing_by
  have := decodeNumber_length _h
  simpa using this

/-- The label that letters, digits and hyphens stand for. A hyphen at the very start separates
nothing. -/
def decode (text : List Char) : Option (List Char) :=
  match text.reverse.span (· != '-') with
  | (_, []) | (_, [_]) => place 72 0x80 0 [] text
  | (behind, _ :: basic) =>
    if basic.all (·.toNat < 0x80) then place 72 0x80 0 basic.reverse behind.reverse else none

end SchemaFormat.Domain.Punycode
