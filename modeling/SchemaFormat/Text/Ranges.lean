import SchemaFormat.Text.Digits
import SchemaFormat.Text.Blank

/-!
Tables over code points.

A table lists stretches of numbers in ascending order, each with a value; `lookup` finds the value
of a number by halving. Tables are written as text: an item `a+n` is the stretch of `n` numbers from
`a` on, `a` alone a single number, both in base 16.
-/

namespace SchemaFormat.Text

/-- Stretches `first … last` with their values, in ascending order and without overlap. -/
structure Ranges (α : Type) where
  stretches : Array (Nat × Nat × α)

namespace Ranges

/-- The value of the stretch that holds `n` among those from position `low` up to `high`. -/
def search (t : Array (Nat × Nat × α)) (n low high : Nat) : Option α :=
  if low < high then
    let middle := (low + high) / 2
    match t[middle]? with
    | none => none
    | some (first, last, value) =>
      if n < first then search t n low middle
      else if last < n then search t n (middle + 1) high
      else some value
  else none
termination_by high - low

def lookup (t : Ranges α) (n : Nat) : Option α :=
  search t.stretches n 0 t.stretches.size

def ofChar (t : Ranges α) (c : Char) : Option α :=
  t.lookup c.toNat

def holds (t : Ranges α) (c : Char) : Bool :=
  (t.ofChar c).isSome

/-- A table from its stretches in any order. -/
def ofList (stretches : List (Nat × Nat × α)) : Ranges α :=
  ⟨(stretches.mergeSort fun a b => a.1 ≤ b.1).toArray⟩

end Ranges

/-- The number that the digits at the start of a text write in base 16, and the rest of the text. -/
def readHex (text : List Char) (value : Nat) : Nat × List Char :=
  match text with
  | [] => (value, [])
  | c :: rest =>
    -- Small letters are rule names in tables.
    match if c.isUpper || c.isDigit then hexDigit? c else none with
    | some d => readHex rest (16 * value + d)
    | none => (value, c :: rest)

def readStretch (item : List Char) : Nat × Nat :=
  match readHex item 0 with
  | (first, '+' :: rest) => (first, first + (readHex rest 0).1 - 1)
  | (first, _) => (first, first)

def items (text : String) : List (List Char) :=
  words text.toList

namespace Ranges

/-- The table that gives each class to the stretches listed with it. -/
def ofClasses (classes : List (α × String)) : Ranges α :=
  ofList <| classes.flatMap fun (value, text) =>
    (items text).map fun item =>
      let (first, last) := readStretch item
      (first, last, value)

def ofSet (text : String) : Ranges Unit :=
  ofClasses [((), text)]

end Ranges

end SchemaFormat.Text
