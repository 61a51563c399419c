/-!
Digits and the numbers that they write.

A digit has a value below sixteen; letters stand for ten and more. A number is written to a base
with the digits below it, the greatest place first.
-/

namespace SchemaFormat.Text

/-- The value of a digit in base 16, of either case. -/
def hexDigit? (c : Char) : Option Nat :=
  let n := c.toNat
  if 0x30 ≤ n ∧ n ≤ 0x39 then some (n - 0x30)
  else if 0x41 ≤ n ∧ n ≤ 0x46 then some (n - 0x41 + 10)
  else if 0x61 ≤ n ∧ n ≤ 0x66 then some (n - 0x61 + 10)
  else none

/-- The digit of a value below sixteen, letters in lower case. -/
def hexDigit (n : Nat) : Char :=
  if n < 10 then Char.ofNat ('0'.toNat + n) else Char.ofNat ('a'.toNat + (n - 10))

def isDigitOf (base : Nat) (c : Char) : Bool :=
  (hexDigit? c).any (· < base)

def numberOf (base : Nat) (digits : List Char) : Nat :=
  digits.foldl (fun n c => base * n + (hexDigit? c).getD 0) 0

/-- The digits to a base that a text begins with, and what follows them. -/
def leadingDigits (base : Nat) (text : List Char) : List Char × List Char :=
  (text.takeWhile (isDigitOf base), text.dropWhile (isDigitOf base))

end SchemaFormat.Text
