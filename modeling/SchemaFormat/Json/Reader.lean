import SchemaFormat.Json.Value

/-!
Reading JSON.

`read` accepts a text that is one JSON value with blanks around its tokens and nothing after it, and
answers that value. A string escape may be a pair of surrogates; a surrogate alone is refused.
Numbers without fraction and exponent are integers, all others are kept as digits and an exponent of
ten. Each step takes the rest of the text and hands on what it leaves; nesting is bounded by the
length of the text, which no value can exceed.
-/

namespace SchemaFormat.Json

def isSpace (c : Char) : Bool :=
  c == ' ' || c == '\t' || c == '\n' || c == '\r'

def skip (text : List Char) : List Char :=
  text.dropWhile isSpace

def unit? (a b c d : Char) : Option Nat := do
  let a ← Text.hexDigit? a
  let b ← Text.hexDigit? b
  let c ← Text.hexDigit? c
  let d ← Text.hexDigit? d
  return ((a * 16 + b) * 16 + c) * 16 + d

def escaped? : Char → Option Char
  | '"' => some '"'
  | '\\' => some '\\'
  | '/' => some '/'
  | 'b' => some '\x08'
  | 't' => some '\x09'
  | 'n' => some '\x0a'
  | 'f' => some '\x0c'
  | 'r' => some '\x0d'
  | _ => none

/-- Read the characters of a string up to its closing quote, after those already read, the last one
first. -/
def characters (seen : List Char) : List Char → Option (String × List Char)
  | [] => none
  | '"' :: rest => some (String.ofList seen.reverse, rest)
  | '\\' :: 'u' :: a :: b :: c :: d :: rest =>
    match unit? a b c d with
    | none => none
    | some unit =>
      if unit < 0xD800 ∨ 0xDFFF < unit then characters (Char.ofNat unit :: seen) rest
      else
        match rest with
        | '\\' :: 'u' :: e :: f :: g :: h :: more =>
          match unit? e f g h with
          | none => none
          | some second =>
            if unit < 0xDC00 ∧ 0xDC00 ≤ second ∧ second ≤ 0xDFFF then
              characters
                (Char.ofNat (0x10000 + (unit - 0xD800) * 0x400 + (second - 0xDC00)) :: seen) more
            else none
        | _ => none
  | '\\' :: c :: rest =>
    match escaped? c with
    | none => none
    | some meant => characters (meant :: seen) rest
  | c :: rest => if c.toNat < 0x20 then none else characters (c :: seen) rest

/-- The digits that a text begins with and what follows them, if there is a digit. -/
def someDigits (text : List Char) : Option (List Char × List Char) :=
  match text.takeWhile Char.isDigit with
  | [] => none
  | found => some (found, text.dropWhile Char.isDigit)

def exponent? : List Char → Option (Option Int × List Char)
  | c :: rest =>
    if c = 'e' ∨ c = 'E' then
      match rest with
      | '-' :: more => (someDigits more).map fun (ds, after) =>
        (some (-(Text.numberOf 10 ds : Int)), after)
      | '+' :: more => (someDigits more).map fun (ds, after) =>
        (some (Text.numberOf 10 ds : Int), after)
      | more => (someDigits more).map fun (ds, after) => (some (Text.numberOf 10 ds : Int), after)
    else some (none, c :: rest)
  | [] => some (none, [])

def fraction? : List Char → Option (List Char × List Char)
  | '.' :: rest => someDigits rest
  | rest => some ([], rest)

/-- Read a number after its sign. No digit stands before a leading zero's fraction. -/
def number (negative : Bool) (text : List Char) : Option (Value × List Char) := do
  let (whole, rest) ← someDigits text
  if whole.head? = some '0' ∧ 1 < whole.length then none
  let (part, rest) ← fraction? rest
  let (scale, rest) ← exponent? rest
  let size : Int := Text.numberOf 10 (whole ++ part)
  let value := if negative then -size else size
  match part, scale with
  | [], none => return (.integer value, rest)
  | _, _ => return (.decimal value (scale.getD 0 - part.length), rest)

def after? (word : List Char) (text : List Char) : Option (List Char) :=
  if word.isPrefixOf text then some (text.drop word.length) else none

mutual

/-- Read a value and leave what follows it. -/
def value : Nat → List Char → Option (Value × List Char)
  | 0, _ => none
  | fuel + 1, text =>
    match skip text with
    | '"' :: rest => (characters [] rest).map fun (found, after) => (.string found, after)
    | '[' :: rest =>
      match skip rest with
      | ']' :: after => some (.array [], after)
      | _ => (items fuel [] rest).map fun (found, after) => (.array found, after)
    | '\x7b' :: rest =>
      match skip rest with
      | '\x7d' :: after => some (.object [], after)
      | _ => (members fuel [] rest).map fun (found, after) => (.object found, after)
    | '-' :: rest => number true rest
    | 'n' :: rest => (after? "ull".toList rest).map fun after => (.null, after)
    | 't' :: rest => (after? "rue".toList rest).map fun after => (.bool true, after)
    | 'f' :: rest => (after? "alse".toList rest).map fun after => (.bool false, after)
    | rest => number false rest

/-- Read items up to the closing bracket, after those already read, the last one first. -/
def items : Nat → List Value → List Char → Option (List Value × List Char)
  | 0, _, _ => none
  | fuel + 1, seen, text =>
    match value fuel text with
    | none => none
    | some (item, rest) =>
      match skip rest with
      | ',' :: more => items fuel (item :: seen) more
      | ']' :: after => some ((item :: seen).reverse, after)
      | _ => none

/-- Read members up to the closing brace, after those already read, the last one first. -/
def members : Nat → List (String × Value) → List Char →
    Option (List (String × Value) × List Char)
  | 0, _, _ => none
  | fuel + 1, seen, text =>
    match skip text with
    | '"' :: rest =>
      match characters [] rest with
      | none => none
      | some (name, rest) =>
        match skip rest with
        | ':' :: rest =>
          match value fuel rest with
          | none => none
          | some (item, rest) =>
            match skip rest with
            | ',' :: more => members fuel ((name, item) :: seen) more
            | '\x7d' :: after => some (((name, item) :: seen).reverse, after)
            | _ => none
        | _ => none
    | _ => none

end

theorem value_zero (text : List Char) : value 0 text = none := by
  rw [value]

/-- The value that a text holds, if it holds one and nothing else. -/
def read (text : String) : Option Value :=
  let chars := text.toList
  match value (chars.length + 1) chars with
  | some (found, rest) => if (skip rest).isEmpty then some found else none
  | none => none

end SchemaFormat.Json
