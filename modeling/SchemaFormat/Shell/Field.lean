import SchemaFormat.Shell.Glob
import SchemaFormat.Shell.Machine

/-!
The fields that an expanded word makes.

What an expansion gives is split at separators unless it stands between quotes. Blanks that separate
count once however many there are, and not at all at the ends; any other separator ends a field even
where it is empty. A field with an unquoted sign of a pattern stands for the paths that match it, in
the order of their bytes, or for itself if there are none.
-/

namespace SchemaFormat.Shell

/-- A piece of a word that is being expanded: a text, whether it is split at separators, and whether
it stands for itself in a pattern; or the border between two words. -/
inductive Piece where
  | text (chars : List Char) (splits quoted : Bool)
  | border
  deriving DecidableEq, Repr

/-- A character, and whether it stands for itself in a pattern. -/
abbrev Marked := Char × Bool

/-- Fields while they are made: the finished ones and the one at hand, both backwards, and whether a
blank ended the last finished one. -/
structure Splitting where
  done : List (List Marked) := []
  current : Option (List Marked) := none
  blank : Bool := false

def Splitting.finish (s : Splitting) (blank : Bool) : Splitting :=
  match s.current with
  | some chars => ⟨chars.reverse :: s.done, none, blank⟩
  | none => s

/-- Take a character of a text that is split at separators. -/
def Splitting.step (separators : List Char) (s : Splitting) (c : Char) : Splitting :=
  if ! separators.contains c then { s with current := some ((c, false) :: s.current.getD []) }
  else if c = ' ' ∨ c = '\t' ∨ c = '\n' then s.finish true
  else
    match s.current with
    | some _ => s.finish false
    | none => if s.blank then { s with blank := false } else { s with done := [] :: s.done }

def Splitting.take (separators : List Char) (s : Splitting) : Piece → Splitting
  | .text chars false quoted =>
    { s with current := some ((chars.map fun c => (c, quoted)).reverse ++ s.current.getD []) }
  | .text chars true _ => chars.foldl (Splitting.step separators) s
  | .border => { s.finish false with blank := false }

def fieldsOf (separators : List Char) (pieces : List Piece) : List (List Marked) :=
  ((pieces.foldl (Splitting.take separators) {}).finish false).done.reverse

def textOf (pieces : List Piece) : List Char :=
  pieces.flatMap fun
    | .text chars .. => chars
    | .border => [' ']

def globOf (pieces : List Piece) : Pattern :=
  Pattern.ofGlob (pieces.flatMap fun
    | .text chars _ quoted => chars.map fun c => (c, quoted)
    | .border => [(' ', true)])

/-- Whether a text holds an unquoted sign of a pattern. -/
def isPattern (field : List Marked) : Bool :=
  field.any fun (c, quoted) => ! quoted && (c == '*' || c == '?' || c == '[')

/-- The names in the directory that a path leads to, in the order of their bytes. -/
def namesIn (m : Machine) (path : List Char) : List (List Char) :=
  match m.files.lookup true m.directory (Machine.pathOf (if path.isEmpty then ['.'] else path)) with
  | .found place .directory =>
    (m.files.below place).filterMap fun e =>
      match e.location with
      | [name] => some (Bytes.units name)
      | _ => none
  | _ => []

/-- Paths that go on with a part of a pattern, which matches names in the directories they lead to.
A pattern that does not begin with a dot matches no name that does. -/
def extendPaths (m : Machine) (part : List Marked) (last : Bool) (paths : List (List Char)) :
    List (List Char) :=
  let close (path : List Char) := if last then path else path ++ ['/']
  if ! isPattern part then paths.map fun path => close (path ++ part.map (·.1))
  else
    let pattern := Pattern.ofGlob part
    let hidden := part.head?.any (·.1 == '.')
    paths.flatMap fun path =>
      ((namesIn m path).filter fun name =>
        (hidden || name.head? != some '.') && pattern.isWhole name).map fun name =>
          close (path ++ name)

def pathsOf (m : Machine) (paths : List (List Char)) : List (List Marked) → List (List Char)
  | [] => paths
  | [part] => extendPaths m part true paths
  | part :: rest => pathsOf m (extendPaths m part false paths) rest

def wordsOf (m : Machine) (field : List Marked) : List (List Char) :=
  let plain := field.map (·.1)
  if ! isPattern field then [plain]
  else
    let found := (pathsOf m [[]] (Text.split (·.1 == '/') field)).filter fun path =>
      match m.files.lookup false m.directory (Machine.pathOf path) with
      | .found .. => true
      | _ => false
    match found with
    | [] => [plain]
    | found => found.mergeSort fun a b => ! Text.precedes b a

end SchemaFormat.Shell
