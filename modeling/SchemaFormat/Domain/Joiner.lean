import SchemaFormat.Domain.Composition
import SchemaFormat.Domain.JoiningTable

/-!
The two invisible joiners. They may stand in a name only where they change how it is written: behind
a virama, and the non-joiner also between two letters that would otherwise join.
-/

namespace SchemaFormat.Domain

open SchemaFormat.Text (Ranges)

def joinings : Ranges Joining :=
  Ranges.ofClasses joiningItems

def marks : Ranges Unit :=
  Ranges.ofSet markItems

def isMark (c : Char) : Bool :=
  marks.holds c

def viramaClass : Nat := 9

/-- The first character in a list that joins at all, skipping the transparent ones. -/
def firstJoining : List Char → Option Joining
  | [] => none
  | c :: rest =>
    match joinings.ofChar c with
    | some .transparent => firstJoining rest
    | other => other

/-- Whether the joiner `c` may stand between `before`, the last character first, and `after`. -/
def joinerAllowed (before : List Char) (c : Char) (after : List Char) : Bool :=
  let behindVirama := (before.head?.map combiningClass) == some viramaClass
  if c = '\u200C' then
    behindVirama ||
      ((firstJoining before == some .left || firstJoining before == some .dual) &&
        (firstJoining after == some .right || firstJoining after == some .dual))
  else if c = '\u200D' then behindVirama
  else true

/-- Whether all joiners stand where they may, given the characters before these, the last first. -/
def joinersAllowed (before : List Char) : List Char → Bool
  | [] => true
  | c :: rest => joinerAllowed before c rest && joinersAllowed (c :: before) rest

end SchemaFormat.Domain
