import SchemaFormat.Text.Digits

/-!
JSON values and their two written forms.

A value is a tree; an object keeps its members in the order given. `Value.compact` writes a value
without a blank outside strings, `Value.pretty` puts each item and each member on a line of its own,
indented by two spaces for each level. A string is written between double quotes; quotes,
backslashes and control characters below U+0020 are escaped and nothing else.
-/

namespace SchemaFormat.Json

inductive Value where
  | null
  | bool (b : Bool)
  | integer (n : Int)
  /-- The number `digits * 10 ^ exponent`, written with an exponent. -/
  | decimal (digits exponent : Int)
  | string (text : String)
  | array (items : List Value)
  | object (members : List (String × Value))
  deriving Inhabited

def escape (c : Char) : List Char :=
  if c = '"' then ['\\', '"']
  else if c = '\\' then ['\\', '\\']
  else if c = '\x08' then ['\\', 'b']
  else if c = '\x09' then ['\\', 't']
  else if c = '\x0a' then ['\\', 'n']
  else if c = '\x0c' then ['\\', 'f']
  else if c = '\x0d' then ['\\', 'r']
  else if c.toNat < 0x20 then
    ['\\', 'u', '0', '0', Text.hexDigit (c.toNat / 16), Text.hexDigit (c.toNat % 16)]
  else [c]

def quoted (text : String) : List Char :=
  '"' :: text.toList.flatMap escape ++ ['"']

def digits (n : Int) : List Char :=
  if n < 0 then '-' :: Nat.toDigits 10 n.natAbs else Nat.toDigits 10 n.natAbs

/-- Items between two brackets, a comma between each two. -/
def bracketed (opening closing : Char) : List (List Char) → List Char
  | [] => [opening, closing]
  | item :: items => opening :: item ++ (items.flatMap (',' :: ·)) ++ [closing]

mutual

/-- A value on one line, without blanks. -/
def Value.compactChars : Value → List Char
  | .null => "null".toList
  | .bool b => if b then "true".toList else "false".toList
  | .integer n => digits n
  | .decimal n exponent => digits n ++ 'e' :: digits exponent
  | .string text => quoted text
  | .array items => bracketed '[' ']' (compactItems items)
  | .object members => bracketed '\x7b' '\x7d' (compactMembers members)

def compactItems : List Value → List (List Char)
  | [] => []
  | item :: items => item.compactChars :: compactItems items

def compactMembers : List (String × Value) → List (List Char)
  | [] => []
  | (name, value) :: members =>
    (quoted name ++ ':' :: value.compactChars) :: compactMembers members

end

/-- A line break and the blanks that a level is indented by. -/
def lineBreak (level : Nat) : List Char :=
  '\n' :: List.replicate (2 * level) ' '

/-- Items between two brackets, each on a line one level in. Without items nothing stands between
the brackets. -/
def stacked (level : Nat) (opening closing : Char) : List (List Char) → List Char
  | [] => [opening, closing]
  | item :: items =>
    opening :: lineBreak (level + 1) ++ item ++
      (items.flatMap fun next => ',' :: lineBreak (level + 1) ++ next) ++
      lineBreak level ++ [closing]

mutual

/-- A value over several lines, of which the first stands at a level. -/
def Value.prettyChars (level : Nat) : Value → List Char
  | .null => "null".toList
  | .bool b => if b then "true".toList else "false".toList
  | .integer n => digits n
  | .decimal n exponent => digits n ++ 'e' :: digits exponent
  | .string text => quoted text
  | .array items => stacked level '[' ']' (prettyItems (level + 1) items)
  | .object members => stacked level '\x7b' '\x7d' (prettyMembers (level + 1) members)

def prettyItems (level : Nat) : List Value → List (List Char)
  | [] => []
  | item :: items => item.prettyChars level :: prettyItems level items

def prettyMembers (level : Nat) : List (String × Value) → List (List Char)
  | [] => []
  | (name, value) :: members =>
    (quoted name ++ ':' :: ' ' :: value.prettyChars level) :: prettyMembers level members

end

def Value.compact (value : Value) : String :=
  String.ofList value.compactChars

/-- A value as text over several lines, without a line feed at the end. -/
def Value.pretty (value : Value) : String :=
  String.ofList (value.prettyChars 0)

/-- The last member of that name, if the value is an object that has one. -/
def Value.member? (name : String) : Value → Option Value
  | .object members => members.reverse.lookup name
  | _ => none

end SchemaFormat.Json
