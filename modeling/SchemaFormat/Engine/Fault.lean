import SchemaFormat.FileSystem.Fault
import SchemaFormat.Path.Basic
import SchemaFormat.Uri.Host

/-!
Why a text was not formatted: what an engine, the way to it, or a file got wrong.

Each fault has a message and a chain of causes, the nearest one first. An engine's fault on the way
through a printer keeps its message and its causes.
-/

namespace SchemaFormat

/-- Why an engine gave no text. -/
inductive EngineFault where
  /-- The engine refuses the source. -/
  | rejected (message : String)
  /-- The engine's program did not start. -/
  | spawn (program : String) (cause : SystemFault)
  /-- Talking to the engine's program went wrong. -/
  | io (program : String) (cause : SystemFault)
  /-- The engine's program ended without success. -/
  | failed (program status errorOutput : String)
  /-- The engine's program gave bytes that are no text. -/
  | notText (program : String) (cause : Utf8.Fault)
  deriving DecidableEq, Repr

namespace EngineFault

def message : EngineFault → String
  | .rejected message => message
  | .spawn program cause => s!"failed to start formatting engine '{program}': {cause.message}"
  | .io program cause => s!"I/O error talking to formatting engine '{program}': {cause.message}"
  | .failed program status errorOutput =>
    s!"formatting engine '{program}' exited with {status}: {errorOutput}"
  | .notText program _ => s!"formatting engine '{program}' produced non UTF-8 output"

def causes : EngineFault → List String
  | .rejected _ | .failed .. => []
  | .spawn _ cause | .io _ cause => [cause.message]
  | .notText _ cause => [cause.message]

end EngineFault

inductive PrintFault where
  | noPath
  /-- The path forms no document locator. -/
  | badPath (path : String) (cause : Uri.HostFault)
  | engine (fault : EngineFault)
  deriving DecidableEq, Repr

namespace PrintFault

/-- The fault in one sentence; an engine's fault speaks for itself. -/
def message : PrintFault → String
  | .noPath => "no file path given; the formatting engine needs a document URI"
  | .badPath path cause => s!"file path '{path}' does not form a valid file URI: {cause.message}"
  | .engine fault => fault.message

def causes : PrintFault → List String
  | .noPath => []
  | .badPath _ cause => [cause.message]
  | .engine fault => fault.causes

end PrintFault

/-- Why a directory could not be walked: what the system refused, and where. -/
structure WalkFault where
  path : Path
  cause : SystemFault
  deriving DecidableEq, Repr

def WalkFault.message (f : WalkFault) : String :=
  s!"IO error for operation on {f.path.display}: {f.cause.message}"

/-- Why a file was not formatted. -/
inductive FileFault where
  /-- No language claims the file. -/
  | noParser (path : Path)
  /-- The parser asked for does not exist. -/
  | unknownParser (name : String)
  | walk (path : Path) (cause : WalkFault)
  /-- The file was not read or its formatted text not put out. -/
  | io (path : Path) (cause : SystemFault)
  | print (path : Path) (cause : PrintFault)
  deriving DecidableEq, Repr

namespace FileFault

def message : FileFault → String
  | .noParser path => s!"no parser could be inferred for file '{path.display}'"
  | .unknownParser name => s!"parser '{name}' is not registered"
  | .walk path cause => s!"{path.display}: {cause.message}"
  | .io path cause => s!"{path.display}: {cause.message}"
  | .print path cause => s!"{path.display}: {cause.message}"

def causes : FileFault → List String
  | .noParser _ | .unknownParser _ => []
  | .walk _ cause => [cause.message, cause.cause.message]
  | .io _ cause => [cause.message]
  | .print _ cause => cause.message :: cause.causes

end FileFault

end SchemaFormat
