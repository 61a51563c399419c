import SchemaFormat.FileSystem.Fault
import SchemaFormat.FileSystem.Tree

/-!
Where a path leads.

A path is followed part by part from the root or from the directory in which it is read. A link on
the way is replaced by the path it holds; a link at the end is replaced only where a caller follows
it or a slash stands behind it. Behind a file nothing can follow, not even a slash. No more than
forty links are replaced, no name is longer than 255 bytes and no path longer than 4095.
-/

namespace SchemaFormat.FileSystem

/-- How many links are replaced on the way to one place. -/
def maxLinks : Nat := 40

/-- The most bytes in a name. -/
def maxName : Nat := 255

/-- The most bytes in a path. -/
def maxPath : Nat := 4095

/-- What is known about a path once it has been followed. -/
inductive Lookup where
  /-- The path leads to a node. -/
  | found (place : Location) (node : Node)
  /-- The path leads to a directory that lacks the last name; `slashed` tells that a slash stands
  behind the name. -/
  | missing (place : Location) (slashed : Bool)
  | failed (fault : SystemFault)
  deriving DecidableEq, Repr

/-- How far the parts of a path lead without a link being replaced. -/
inductive Reach where
  | done (result : Lookup)
  /-- A link that stands in a directory, the path it holds, and the parts behind it. -/
  | link (directory : Location) (target : Path) (rest : List Name)
  deriving DecidableEq, Repr

def onlySlashes (rest : List Name) : Bool :=
  rest.all (· == [])

/-- Follow parts from a directory on, up to a link that has to be replaced. -/
def reach (fs : FileSystem) (follow : Bool) (directory : Location) : List Name → Reach
  | [] => .done (.found directory .directory)
  | part :: rest =>
    if part = [] ∨ part = [Path.dot] then reach fs follow directory rest
    else if part = [Path.dot, Path.dot] then reach fs follow directory.dropLast rest
    else if maxName < part.length then .done (.failed .nameTooLong)
    else
      let place := directory ++ [part]
      match fs.node? place with
      | none =>
        if onlySlashes rest then .done (.missing place (! rest.isEmpty))
        else .done (.failed .notFound)
      | some .directory => reach fs follow place rest
      | some (.link target) =>
        if rest.isEmpty && ! follow then .done (.found place (.link target))
        else .link directory target rest
      | some node =>
        if rest.isEmpty then .done (.found place node) else .done (.failed .notDirectory)

/-- Follow parts from a directory on, replacing at most a number of links. -/
def follow (fs : FileSystem) (last : Bool) (directory : Location) (parts : List Name) :
    Nat → Lookup
  | 0 =>
    match reach fs last directory parts with
    | .done result => result
    | .link .. => .failed .tooManyLinks
  | links + 1 =>
    match reach fs last directory parts with
    | .done result => result
    | .link directory target rest =>
      if target.bytes = [] then .failed .notFound
      else
        fs.follow last (if target.isAbsolute then [] else directory) (target.parts ++ rest) links

/-- Follow a path that is read in a directory; `last` tells whether a link at its end is replaced.
-/
def lookup (fs : FileSystem) (last : Bool) (directory : Location) (p : Path) : Lookup :=
  if p.bytes.contains 0 then .failed .zeroInPath
  else if p.bytes = [] then .failed .notFound
  else if maxPath < p.bytes.length then .failed .nameTooLong
  else fs.follow last (if p.isAbsolute then [] else directory) p.parts maxLinks

def isFile (fs : FileSystem) (directory : Location) (p : Path) : Bool :=
  match fs.lookup true directory p with
  | .found _ (.file _) | .found _ (.program _) => true
  | _ => false

def isDirectory (fs : FileSystem) (directory : Location) (p : Path) : Bool :=
  match fs.lookup true directory p with
  | .found _ .directory => true
  | _ => false

end SchemaFormat.FileSystem
