import SchemaFormat.Shell.Printf
import SchemaFormat.Text.Blank

/-!
Replacing, deleting and squeezing single characters.

The characters at hand are given by lists, in which ranges, classes and escapes stand for more than
one character or for another one. A character of one list becomes the one at its place in another,
the last one of which stands for all that are lacking.
-/

namespace SchemaFormat.Shell

/-- The members of a list of characters, in which ranges, classes and escapes stand for more than
one character or another one. -/
def characterList : Nat → List Char → List Char → List Char
  | 0, seen, _ => seen.reverse
  | fuel + 1, seen, text =>
    match text with
    | [] => seen.reverse
    | '[' :: ':' :: rest =>
      let name := rest.takeWhile (· ≠ ':')
      match namedClass? name with
      | some ranges =>
        let members := ranges.flatMap fun (low, high) =>
          (List.range (high.toNat + 1 - low.toNat)).map fun n => Char.ofNat (low.toNat + n)
        characterList fuel (members.reverse ++ seen) (rest.drop (name.length + 2))
      | none => characterList fuel (':' :: '[' :: seen) rest
    | '\\' :: rest =>
      match escapeIn rest with
      | ([c], rest) => rangeFrom fuel seen c rest
      | (_, c :: rest) => rangeFrom fuel seen c rest
      | (chars, []) => (chars.drop 1 ++ seen).reverse
    | c :: rest => rangeFrom fuel seen c rest
where
  /-- Go on behind a character that may begin a range. -/
  rangeFrom (fuel : Nat) (seen : List Char) (low : Char) (text : List Char) : List Char :=
    match text with
    | '-' :: high :: rest =>
      let (high, rest) := if high = '\\' then
          match escapeIn rest with
          | ([c], rest) => (c, rest)
          | (_, rest) => (high, rest)
        else (high, rest)
      let members := (List.range (high.toNat + 1 - low.toNat)).map fun n =>
        Char.ofNat (low.toNat + n)
      characterList fuel (members.reverse ++ seen) rest
    | text => characterList fuel (low :: seen) text

def charactersIn (text : List Char) : List Char :=
  characterList (text.length + 1) [] text

/-- Characters in which each stretch of one out of a list is only one. -/
def squeezed (among : Char → Bool) (text : List Char) : List Char :=
  (text.foldl
    (fun seen c => if among c && seen.head? == some c then seen else c :: seen) []).reverse

/-- What a character becomes: the one at its place in a second list, or the last one of that list.
-/
def replacedBy (source target : List Char) : Array Char :=
  let lacking := List.replicate (source.length - target.length) (target.getLast?.getD ' ')
  let paired := source.zip (target ++ lacking)
  paired.foldl (fun table (a, b) => table.set! a.toNat b) ((List.range 256).map Char.ofNat).toArray

end SchemaFormat.Shell
