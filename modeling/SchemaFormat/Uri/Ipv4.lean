import SchemaFormat.Text.Ranges

/-!
Version 4 internet addresses as hosts. A name whose last part is a number is an address or nothing.
The parts are numbers in base 8, 10 or 16; all but the last are one byte each, the last fills the
rest.
-/

namespace SchemaFormat.Uri

/-- A version 4 address, a number below 2 to the power of 32. -/
structure Ipv4 where
  value : Nat
  deriving DecidableEq, Repr

namespace Ipv4

/-- The value of digits in a base; nothing if one is not a digit of that base. -/
def digitsValue? (base : Nat) (digits : List Char) : Option Nat :=
  digits.foldl (fun value c => do
    let value ← value
    let d ← Text.hexDigit? c
    if d < base then some (base * value + d) else none) (some 0)

/-- The number that a part of an address writes: `0x` starts base 16, a `0` before more digits base
8. A bare `0x` is zero. -/
def number? (part : List Char) : Option Nat :=
  match part with
  | [] => none
  | '0' :: 'x' :: digits | '0' :: 'X' :: digits => digitsValue? 16 digits
  | '0' :: d :: digits => digitsValue? 8 (d :: digits)
  | digits => digitsValue? 10 digits

/-- Whether a name ends in a number, perhaps with one full stop behind it. -/
def endsInNumber (name : List Char) : Bool :=
  let last : Option (List Char) :=
    match (Text.split (· == '.') name).reverse with
    | [] :: before :: _ => some before
    | [[]] => none
    | last :: _ => some last
    | [] => none
  match last with
  | none => false
  | some part => (!part.isEmpty && part.all Char.isDigit) || (number? part).isSome

/-- Put numbers of one byte each in front of a value, the first one as the highest byte of four. -/
def assemble (position : Nat) : List Nat → Nat → Nat
  | [], value => value
  | n :: rest, value => assemble (position - 1) rest (value + n * Nat.pow 256 position)

def parse? (name : List Char) : Option Ipv4 := do
  let parts := Text.split (· == '.') name
  let parts := if parts.getLast? = some [] then parts.dropLast else parts
  if parts.length ≤ 4 then
    let numbers ← parts.mapM number?
    let last ← numbers.getLast?
    let bytes := numbers.dropLast
    if last < Nat.pow 256 (4 - bytes.length) && bytes.all (· < 256) then
      some ⟨assemble 3 bytes last⟩
    else none
  else none

def render (a : Ipv4) : List Char :=
  Text.join ['.'] <| [3, 2, 1, 0].map fun position =>
    Nat.toDigits 10 (a.value / Nat.pow 256 position % 256)

end Ipv4

end SchemaFormat.Uri
