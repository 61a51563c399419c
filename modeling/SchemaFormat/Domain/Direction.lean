import SchemaFormat.Domain.DirectionTable
import SchemaFormat.Text.Ranges

/-!
The writing direction of names. Where one label of a name has a character that is written from right
to left, every label must keep to one direction: it starts with a letter of it, holds only classes
that go with it, and ends, marks apart, with a letter or a number of it.
-/

namespace SchemaFormat.Domain

open SchemaFormat.Text (Ranges)

def directions : Ranges Direction :=
  Ranges.ofClasses directionItems

def direction (c : Char) : Direction :=
  (directions.ofChar c).getD .leftToRight

/-- Whether a class makes a name one that mixes directions. -/
def Direction.turns (d : Direction) : Bool :=
  d == .rightToLeft || d == .arabicLetter || d == .arabicNumber

/-- Whether a class may stand in a label of either direction. -/
def Direction.isNeutral (d : Direction) : Bool :=
  d == .europeanNumber || d == .europeanSeparator || d == .commonSeparator ||
    d == .europeanTerminator || d == .otherNeutral || d == .boundaryNeutral || d == .nonspacingMark

/-- Whether the classes of a label keep to one direction; an empty label does. -/
def keepsDirection (classes : List Direction) : Bool :=
  let last := (classes.reverse.dropWhile (· == .nonspacingMark)).head?
  match classes.head? with
  | none => true
  | some .leftToRight =>
    classes.all (fun d => d == .leftToRight || d.isNeutral) &&
      (last == some .leftToRight || last == some .europeanNumber)
  | some first =>
    (first == .rightToLeft || first == .arabicLetter) &&
      classes.all (fun d => d.turns || d.isNeutral) &&
      (last.any fun d => d.turns || d == .europeanNumber) &&
      !(classes.contains .europeanNumber && classes.contains .arabicNumber)

def directionsAllowed (labels : List (List Char)) : Bool :=
  let classes := labels.map (·.map direction)
  !(classes.any (·.any Direction.turns)) || classes.all keepsDirection

end SchemaFormat.Domain
