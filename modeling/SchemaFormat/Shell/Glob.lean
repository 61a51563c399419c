import SchemaFormat.Shell.Pattern

/-!
Patterns of names and of words.

A star stands for any text, a question mark for any character and brackets for one of a class; a
quoted character stands for itself.
-/

namespace SchemaFormat.Shell

def anyChar : CharClass := ⟨[], true⟩

/-- What stands between brackets behind the first of them, and what follows it. -/
def bracketed? (text : List (Char × Bool)) : Option (List Char × List (Char × Bool)) :=
  let first := text.take 1
  let inner := (text.drop 1).takeWhile fun (c, quoted) => quoted || c ≠ ']'
  match text.drop (1 + inner.length) with
  | _ :: rest => some ((first ++ inner).map (·.1), rest)
  | [] => none

/-- Put a pattern of characters, each with whether it is quoted, behind another one. -/
def globFrom : Nat → Pattern → List (Char × Bool) → Pattern
  | 0, a, _ => a
  | fuel + 1, a, text =>
    match text with
    | [] => a
    | ('*', false) :: rest => globFrom fuel (.pair a (.many 0 none (.one anyChar))) rest
    | ('?', false) :: rest => globFrom fuel (.pair a (.one anyChar)) rest
    | ('[', false) :: rest =>
      match bracketed? rest with
      | none => globFrom fuel (.pair a (.char '[')) rest
      | some (inner, after) =>
        let (outside, members) := match inner with
          | '!' :: more | '^' :: more => (true, more)
          | more => (false, more)
        match readMembers true [] (members ++ [']']) with
        | some (ranges, _) => globFrom fuel (.pair a (.one ⟨ranges, outside⟩)) after
        | none => globFrom fuel (.pair a (.char '[')) rest
    | (c, _) :: rest => globFrom fuel (.pair a (.char c)) rest

def Pattern.ofGlob (text : List (Char × Bool)) : Pattern :=
  globFrom (text.length + 1) .nothing text

def Pattern.isWhole (a : Pattern) (text : List Char) : Bool :=
  (a.ends 1000 ⟨0, text, []⟩).any (·.rest.isEmpty)

/-- A text without the shortest or longest beginning that a pattern matches. -/
def Pattern.dropFront (a : Pattern) (long : Bool) (text : List Char) : List Char :=
  let lengths := List.range (text.length + 1)
  let tried := if long then lengths.reverse else lengths
  match tried.find? fun n => a.isWhole (text.take n) with
  | some n => text.drop n
  | none => text

/-- A text without the shortest or longest end that a pattern matches. -/
def Pattern.dropBack (a : Pattern) (long : Bool) (text : List Char) : List Char :=
  let lengths := List.range (text.length + 1)
  let tried := if long then lengths else lengths.reverse
  match tried.find? fun n => a.isWhole (text.drop n) with
  | some n => text.take n
  | none => text

end SchemaFormat.Shell
