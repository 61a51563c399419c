import SchemaFormat.Text.Ranges

/-!
Percent-encoding. A part of a locator keeps the characters that it may hold; each byte of any other
is written as a percent sign and two digits. `decode` reads such triples back and leaves all else
alone.
-/

namespace SchemaFormat.Uri

/-- The characters that every part of a locator escapes: controls, the space, quotes and angle
brackets, and all that is not ASCII. -/
def escapedEverywhere (c : Char) : Bool :=
  c.toNat ≤ 0x20 || 0x7F ≤ c.toNat || c == '"' || c == '<' || c == '>'

def escapedInPath (c : Char) : Bool :=
  escapedEverywhere c || c == '#' || c == '?' || c == '\x60' || c == '\x7b' || c == '\x7d'

def escapedInQuery (c : Char) : Bool :=
  escapedEverywhere c || c == '#' || c == '\''

def escapedInFragment (c : Char) : Bool :=
  escapedEverywhere c || c == '\x60'

def upperHexDigit (d : Nat) : Char :=
  if d < 10 then Char.ofNat (0x30 + d) else Char.ofNat (0x41 + (d - 10))

def percentByte (b : UInt8) : List Char :=
  ['%', upperHexDigit (b.toNat / 16), upperHexDigit (b.toNat % 16)]

def percentChar (escaped : Char → Bool) (c : Char) : List Char :=
  if escaped c then (Utf8.encodeChar c).flatMap percentByte else [c]

def percentEncode (escaped : Char → Bool) (text : List Char) : List Char :=
  text.flatMap (percentChar escaped)

/-- The bytes that a text stands for once its triples are read. -/
def percentDecode : List Char → Bytes
  | '%' :: high :: low :: rest =>
    match Text.hexDigit? high, Text.hexDigit? low with
    | some h, some l => UInt8.ofNat (16 * h + l) :: percentDecode rest
    | _, _ => Utf8.encodeChar '%' ++ percentDecode (high :: low :: rest)
  | c :: rest => Utf8.encodeChar c ++ percentDecode rest
  | [] => []

end SchemaFormat.Uri
