import SchemaFormat.Domain.MappingTable
import SchemaFormat.Text.Ranges

/-!
The first step of reading a domain name: every character stays, vanishes, is replaced or makes the
name unusable. Capitals become small letters here, and the many spellings of one letter or digit
become one.
-/

namespace SchemaFormat.Domain

open SchemaFormat.Text (Ranges readHex items)

/-- What becomes of the characters of a stretch. -/
inductive Rule where
  | keep
  | ignore
  /-- Every character moves by a distance. -/
  | shift (distance : Int)
  /-- The first, third, … character moves up by one, the others stay. -/
  | pairs
  /-- One replacement for each character. -/
  | replace (replacements : Array (List Char))

/-- Code points joined by full stops, as text. -/
def readCodePoints (text : List Char) : List Char :=
  (Text.split (· == '.') text).map fun digits => Char.ofNat (readHex digits 0).1

def readItem (item : List Char) : Nat × Nat × Rule :=
  let (first, rest) := readHex item 0
  let covering (count : List Char) (rule : Rule) : Nat × Nat × Rule :=
    (first, first + (readHex count 0).1 - 1, rule)
  match rest with
  | 'v' :: count => covering count .keep
  | 'i' :: count => covering count .ignore
  | 'a' :: count => covering count .pairs
  | '+' :: rest =>
    let (distance, count) := readHex rest 0
    covering (count.drop 1) (.shift distance)
  | '-' :: rest =>
    let (distance, count) := readHex rest 0
    covering (count.drop 1) (.shift (-distance))
  | _ :: rest =>
    let replacements := (Text.split (· == ',') rest).map readCodePoints
    (first, first + replacements.length - 1, .replace replacements.toArray)
  | [] => (first, first, .keep)

def mapping : Ranges (Nat × Rule) :=
  Ranges.ofList ((items mappingItems).map fun item =>
    let (first, last, rule) := readItem item
    (first, last, first, rule))

/-- What a character becomes; nothing if a name must not hold it. -/
def mapChar (c : Char) : Option (List Char) :=
  match mapping.ofChar c with
  | none => none
  | some (_, .keep) => some [c]
  | some (_, .ignore) => some []
  | some (_, .shift distance) => some [Char.ofNat (c.toNat + distance).toNat]
  | some (first, .pairs) =>
    some [if (c.toNat - first) % 2 = 0 then Char.ofNat (c.toNat + 1) else c]
  | some (first, .replace replacements) => replacements[c.toNat - first]?

def isKept (c : Char) : Bool :=
  mapChar c == some [c]

def mapText (text : List Char) : Option (List Char) :=
  (text.mapM mapChar).map List.flatten

end SchemaFormat.Domain
