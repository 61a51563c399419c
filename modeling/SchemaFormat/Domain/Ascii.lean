import SchemaFormat.Domain.Direction
import SchemaFormat.Domain.Joiner
import SchemaFormat.Domain.Mapping
import SchemaFormat.Domain.Punycode

/-!
The ASCII form of a domain name.

A name is mapped and composed, cut into labels at its full stops, checked, and every label that is
not ASCII is written in Punycode behind the four characters `xn--`. A label that comes with that
prefix must stand for one that could have been written so. Hyphens and lengths are not checked; what
is refused among the ASCII characters are those that would end a host or change its meaning.
-/

namespace SchemaFormat.Domain

def isAscii (c : Char) : Bool :=
  c.toNat < 0x80

/-- The ASCII characters that a name must not hold: controls, the space, and the delimiters of
locators. -/
def isForbidden (c : Char) : Bool :=
  c.toNat ≤ 0x20 || c.toNat == 0x7F ||
    ['%', '#', '/', ':', '<', '>', '?', '@', '[', '\\', ']', '^', '|'].contains c

/-- What a label in Punycode begins with. -/
def acePrefix : List Char := ['x', 'n', '-', '-']

/-- The longest label that is written in Punycode, in characters. -/
def longestEncoded : Nat := 1000

/-- The longest Punycode that is read, in characters. -/
def longestDecoded : Nat := 2000

/-- A label: what it says, and how it is written. -/
structure Label where
  meaning : List Char
  written : List Char

def labelAllowed (label : List Char) : Bool :=
  !(label.head?.any isMark) && joinersAllowed [] label

def readLabel (text : List Char) : Option Label :=
  if acePrefix.isPrefixOf text then
    let code := text.drop acePrefix.length
    if text.all isAscii && code.length ≤ longestDecoded then
      match Punycode.decode code with
      | none => none
      | some meaning =>
        if !meaning.all isAscii && meaning.all isKept && normalize meaning == meaning &&
            labelAllowed meaning then
          some ⟨meaning, text⟩
        else none
    else none
  else if text.all isAscii then some ⟨text, text⟩
  else if text.length ≤ longestEncoded && labelAllowed text then
    some ⟨text, acePrefix ++ Punycode.encode text⟩
  else none

def isPlain (written : List Char) : Bool :=
  written.all fun c => isAscii c && !isForbidden c

def toAscii (name : List Char) : Option (List Char) := do
  let mapped ← mapText name
  let labels ← (Text.split (· == '.') (normalize mapped)).mapM readLabel
  let written := labels.map Label.written
  if directionsAllowed (labels.map Label.meaning) && written.all isPlain then
    some (Text.join ['.'] written)
  else none

end SchemaFormat.Domain
