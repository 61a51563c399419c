import SchemaFormat.Text.Blank
import SchemaFormat.Text.Utf8

/-!
Paths.

A path is a string of bytes whose parts slashes separate. Its components are what the parts mean:
the root, the directory it starts in, a parent, a name. Empty parts mean nothing, and a part of one
dot means nothing except in front of a relative path. The file name is the last component if that is
a name; the extension is what follows the last dot of the file name, unless that dot is its first
byte.
-/

namespace SchemaFormat

/-- A path as it is spelled. -/
structure Path where
  bytes : Bytes
  deriving DecidableEq, Repr, Inhabited

namespace Path

def slash : UInt8 := 47

def dot : UInt8 := 46

def ofString (s : String) : Path :=
  ⟨Bytes.ofString s⟩

/-- A path as it is shown: bytes that are no text become U+FFFD. -/
def display (p : Path) : String :=
  Bytes.display p.bytes

/-- What a part of a path means. -/
inductive Component where
  | root
  | current
  | parent
  | normal (name : Bytes)
  deriving DecidableEq, Repr

def isAbsolute (p : Path) : Bool :=
  p.bytes.head? == some slash

def endsInSlash (p : Path) : Bool :=
  p.bytes.getLast? == some slash

def parts (p : Path) : List Bytes :=
  Text.split (· == slash) p.bytes

/-- What a part behind another one means, if it means anything. -/
def component? (part : Bytes) : Option Component :=
  if part = [] ∨ part = [dot] then none
  else if part = [dot, dot] then some .parent
  else some (.normal part)

def components (p : Path) : List Component :=
  if p.isAbsolute then .root :: p.parts.filterMap component?
  else if p.parts.head? = some [dot] then .current :: p.parts.filterMap component?
  else p.parts.filterMap component?

/-- The last component, if it is a name. -/
def fileName? (p : Path) : Option Bytes :=
  match p.components.getLast? with
  | some (.normal name) => some name
  | _ => none

/-- What follows the last dot of a name; none if the name has no dot or only one in front. -/
def nameExtension? (name : Bytes) : Option Bytes :=
  let after := name.reverse.takeWhile (· ≠ dot)
  if after.length + 1 < name.length then some after.reverse else none

def extension? (p : Path) : Option Bytes :=
  p.fileName?.bind nameExtension?

/-- A path read from within another one: an absolute path stands for itself, any other is put behind
with one slash between. -/
def join (base p : Path) : Path :=
  if p.isAbsolute then p
  else if base.bytes = [] ∨ base.endsInSlash then ⟨base.bytes ++ p.bytes⟩
  else ⟨base.bytes ++ slash :: p.bytes⟩

def Component.spelling : Component → Bytes
  | .root => [slash]
  | .current => [dot]
  | .parent => [dot, dot]
  | .normal name => name

def extend (base : Path) (cs : List Component) : Path :=
  cs.foldl (fun p c => p.join ⟨c.spelling⟩) base

def hasTwoSlashes (p : Path) : Bool :=
  [slash, slash].isPrefixOf p.bytes && ! [slash, slash, slash].isPrefixOf p.bytes

/-- The path spelled from the root, `directory` being where relative paths start: repeated slashes
and single dots go, double dots stay, and so do a slash at the end and exactly two slashes in front.
The empty path has no such spelling. -/
def absolute? (directory p : Path) : Option Path :=
  if p.bytes = [] then none
  else
    let named := p.components.filter (· ≠ .current)
    let found :=
      if p.hasTwoSlashes then extend ⟨[slash, slash]⟩ (named.drop 1)
      else if p.isAbsolute then extend ⟨[]⟩ named
      else extend directory named
    some (if p.endsInSlash then found.join ⟨[]⟩ else found)

end Path

end SchemaFormat
