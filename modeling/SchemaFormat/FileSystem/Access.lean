import SchemaFormat.FileSystem.Resolve

/-!
Reading and changing what stands in a file system.

Every function takes the directory in which relative paths are read. A file is read and written
through links; writing to a place that nothing stands at makes a file there if the directory exists.
Directories are made with all that lead to them. Links and whole directories are taken away as such.
-/

namespace SchemaFormat.FileSystem

/-- What a program looks like when it is read as a file. -/
def programImage : Bytes := [0x7F, 0x45, 0x4C, 0x46, 0xFF]

def read (fs : FileSystem) (directory : Location) (p : Path) : Except SystemFault Bytes :=
  match fs.lookup true directory p with
  | .found _ (.file content) => .ok content
  | .found _ (.program _) => .ok programImage
  | .found _ (.device _) => .ok []
  | .found _ .directory => .error .isDirectory
  | .found _ (.link _) => .error .tooManyLinks
  | .missing .. => .error .notFound
  | .failed fault => .error fault

def readText (fs : FileSystem) (directory : Location) (p : Path) : Except SystemFault String :=
  match fs.read directory p with
  | .error fault => .error fault
  | .ok content =>
    match content.toString? with
    | .ok text => .ok text
    | .error _ => .error .notText

/-- Where the bytes written to a path go. -/
inductive Target where
  | file (place : Location)
  | device (which : Device)
  deriving DecidableEq, Repr

/-- Where the bytes written to a path go, the file being made if nothing stands there. -/
def target (fs : FileSystem) (directory : Location) (p : Path) : Except SystemFault Target :=
  match fs.lookup true directory p with
  | .found place (.file _) => .ok (.file place)
  | .found _ (.device which) => .ok (.device which)
  | .found _ (.program _) => .error .textBusy
  | .found _ .directory => .error .isDirectory
  | .found _ (.link _) => .error .tooManyLinks
  | .missing place slashed => if slashed then .error .isDirectory else .ok (.file place)
  | .failed fault => .error fault

def write (fs : FileSystem) (directory : Location) (p : Path) (content : Bytes) :
    Except SystemFault FileSystem :=
  match fs.target directory p with
  | .error fault => .error fault
  | .ok (.file place) => .ok (fs.insert place (.file content))
  | .ok (.device which) =>
    if which = .full ∧ content ≠ [] then .error .noSpace else .ok fs

def makeDirectory (fs : FileSystem) (directory : Location) (p : Path) :
    Except SystemFault FileSystem :=
  match fs.lookup false directory p with
  | .missing place _ => .ok (fs.insert place .directory)
  | .found .. => .error .alreadyExists
  | .failed fault => .error fault

/-- Make a directory and those that lead to it; `p` and its beginnings, the longest first. -/
def makeChain (fs : FileSystem) (directory : Location) : List Path → Except SystemFault FileSystem
  | [] => .ok fs
  | p :: shorter =>
    if p.bytes = [] then .ok fs
    else
      match fs.makeDirectory directory p with
      | .ok made => .ok made
      | .error .notFound =>
        match fs.makeChain directory shorter with
        | .error fault => .error fault
        | .ok made =>
          match made.makeDirectory directory p with
          | .ok made => .ok made
          | .error fault => if made.isDirectory directory p then .ok made else .error fault
      | .error fault => if fs.isDirectory directory p then .ok fs else .error fault

/-- The path that a list of components spells. -/
def pathOf (cs : List Path.Component) : Path :=
  Path.extend ⟨[]⟩ cs

/-- The path without its last component, if it has one besides the root. -/
def parent? (p : Path) : Option Path :=
  match p.components.getLast? with
  | none | some .root => none
  | some _ => some (pathOf p.components.dropLast)

/-- The directories that lead to a path, the nearest one first. Each has one component less. -/
def parents (p : Path) : Nat → List Path
  | 0 => []
  | more + 1 =>
    match parent? p with
    | none => []
    | some shorter => shorter :: parents shorter more

def makeDirectories (fs : FileSystem) (directory : Location) (p : Path) :
    Except SystemFault FileSystem :=
  fs.makeChain directory (p :: parents p p.components.length)

def makeLink (fs : FileSystem) (directory : Location) (held p : Path) :
    Except SystemFault FileSystem :=
  if held.bytes.contains 0 then .error .zeroInPath
  else if held.bytes = [] then .error .notFound
  else if maxPath < held.bytes.length then .error .nameTooLong
  else
    match fs.lookup false directory p with
    | .missing place slashed =>
      if slashed then .error .notFound else .ok (fs.insert place (.link held))
    | .found .. => .error .alreadyExists
    | .failed fault => .error fault

/-- Take away what a path leads to, a link itself or a directory with all below it. -/
def remove (fs : FileSystem) (directory : Location) (p : Path) : Except SystemFault FileSystem :=
  match fs.lookup false directory p with
  | .found place _ => .ok (fs.erase place)
  | .missing .. => .error .notFound
  | .failed fault => .error fault

def relative (names : Location) : Bytes :=
  Text.join [Path.slash] names

/-- Every path below a directory, sorted by its bytes; a directory's ends in a slash, a link's in an
at sign. -/
def listing (fs : FileSystem) (directory : Location) : List Bytes :=
  let shown (e : Entry) : Bytes :=
    match e.node with
    | .directory => relative e.location ++ [Path.slash]
    | .link _ => relative e.location ++ [64]
    | _ => relative e.location
  ((fs.below directory).map shown).mergeSort fun a b => a ≤ b

end SchemaFormat.FileSystem
