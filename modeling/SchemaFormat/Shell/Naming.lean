import SchemaFormat.Text.Digits

/-!
Names in complaints.

A name stands by itself in a complaint unless a shell would take it for something else; then it is
put between quotes. Bytes that cannot be shown are written in octal digits behind a dollar sign and
a quote.
-/

namespace SchemaFormat.Shell

/-- Characters that mean nothing to a shell, nor between double quotes. -/
def isHarmless (c : Char) : Bool :=
  c.isAlphanum || c == '%' || c == '+' || c == ',' || c == '-' || c == '.' || c == '/' ||
    c == ':' || c == ']' || c == '_' || c == '\x7b' || c == '\x7d' || c == '@'

def isShown (c : Char) : Bool :=
  ' ' ≤ c && c ≤ '~'

/-- A name that a shell would take for something else. -/
def needsQuotes (name : List Char) : Bool :=
  match name with
  | [] => true
  | [c] => c == '\x7b' || c == '\x7d' || ! isHarmless c
  | c :: rest => (c != '\x7b' && ! isHarmless c) ||
    rest.any fun c => ! (isHarmless c || c == '#' || c == '~')

/-- A byte that cannot be shown, behind a backslash. -/
def escapedByte (c : Char) : List Char :=
  if c = '\x07' then ['\\', 'a']
  else if c = '\x08' then ['\\', 'b']
  else if c = '\t' then ['\\', 't']
  else if c = '\n' then ['\\', 'n']
  else if c = '\x0b' then ['\\', 'v']
  else if c = '\x0c' then ['\\', 'f']
  else if c = '\r' then ['\\', 'r']
  else
    let n := c.toNat
    ['\\', Text.hexDigit (n / 64), Text.hexDigit (n / 8 % 8), Text.hexDigit (n % 8)]

/-- A name between quotes, of which the first one has been written; `hidden` tells that the bytes
before could not be shown. -/
def quotedFrom (hidden : Bool) : List Char → List Char
  | [] => ['\'']
  | c :: rest =>
    if isShown c then
      let before := if hidden then ['\'', '\''] else []
      before ++ (if c = '\'' then ['\'', '\\', '\'', '\''] else [c]) ++ quotedFrom false rest
    else
      let before := if hidden then [] else ['\'', '$', '\'']
      before ++ escapedByte c ++ quotedFrom true rest

def quotedName (name : List Char) : List Char :=
  if name.contains '\'' && name.all fun c => isHarmless c || c == ' ' || c == '\'' then
    '"' :: name ++ ['"']
  else '\'' :: quotedFrom false name

/-- A name, between quotes only if it needs them. -/
def nameInText (name : List Char) : List Char :=
  if needsQuotes name then quotedName name else name

end SchemaFormat.Shell
