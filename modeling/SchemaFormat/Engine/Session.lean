import SchemaFormat.FileSystem.Access
import SchemaFormat.Log.Event

/-!
What a run can see and change.

A session holds the files, the working directory and the environment, and it gathers what a run
prints, what it logs and what it asks of engines. A computation that reads and changes a session is
a `Run`.
-/

namespace SchemaFormat

/-- What an engine was asked. -/
structure Call where
  source : String
  request : String
  deriving DecidableEq, Repr

/-- The surroundings of a run and what it left there. -/
structure Session where
  files : FileSystem
  /-- The working directory. -/
  directory : Location := []
  environment : List (Bytes × Bytes) := []
  /-- Standard output has no space left. -/
  outputFull : Bool := false
  /-- What was printed to standard output. -/
  printed : Bytes := []
  /-- What was logged, the last event first. -/
  events : List Log.Event := []
  /-- What engines inside the program were asked, the last call first. -/
  calls : List Call := []

/-- A computation in a session. -/
abbrev Run := StateM Session

namespace Run

def log (e : Log.Event) : Run Unit :=
  modify fun s => { s with events := e :: s.events }

def note (c : Call) : Run Unit :=
  modify fun s => { s with calls := c :: s.calls }

def print (output : Bytes) : Run (Except SystemFault Unit) := fun s =>
  if s.outputFull ∧ output ≠ [] then (.error .noSpace, s)
  else (.ok (), { s with printed := s.printed ++ output })

def readText (p : Path) : Run (Except SystemFault String) := fun s =>
  (s.files.readText s.directory p, s)

def writeFile (p : Path) (content : Bytes) : Run (Except SystemFault Unit) := fun s =>
  match s.files.write s.directory p content with
  | .error fault => (.error fault, s)
  | .ok files => (.ok (), { s with files := files })

end Run

def Location.path (l : Location) : Path :=
  if l = [] then ⟨[Path.slash]⟩ else ⟨l.flatMap (Path.slash :: ·)⟩

end SchemaFormat
