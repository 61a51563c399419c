import SchemaFormat.Engine.Fault
import SchemaFormat.Text.Quoted

/-!
What is logged.

An event happens at a level and belongs to a target. Its line names both and then says what
happened, in words and in fields. In the words, characters that would steer a terminal are written
out.
-/

namespace SchemaFormat.Log

/-- How much an event matters, the gravest level first. -/
inductive Level where
  | error
  | warn
  | info
  | debug
  | trace
  deriving DecidableEq, Repr

def Level.name : Level → String
  | .error => "ERROR"
  | .warn => "WARN"
  | .info => "INFO"
  | .debug => "DEBUG"
  | .trace => "TRACE"

def Level.rank : Level → Nat
  | .error => 1
  | .warn => 2
  | .info => 3
  | .debug => 4
  | .trace => 5

inductive Event where
  /-- A document goes to the printer of its format. -/
  | printing (path : Path) (format : String) (start stop : Nat)
  /-- An engine's program is started. -/
  | spawning (program : String) (sourceBytes : Nat) (request : String)
  /-- An engine's program ended with success. -/
  | finished (program : String) (outputBytes : Nat)
  /-- An engine's program ended without success. -/
  | failed (program status : String)
  /-- A file of a batch was not formatted. -/
  | fileFailed (fault : FileFault)
  /-- A target was not walked. -/
  | targetFailed (fault : FileFault)
  /-- So many files were found. -/
  | collected (count : Nat)
  /-- A file differs from its formatted text. -/
  | unformatted (path : Path)
  deriving DecidableEq, Repr

namespace Event

def level : Event → Level
  | .printing .. | .spawning .. | .finished .. | .failed .. | .collected _ => .debug
  | .fileFailed _ | .targetFailed _ => .error
  | .unformatted _ => .warn

/-- The target of an event: the part of the program that it happened in. -/
def target : Event → String
  | .printing .. | .fileFailed _ => "prismafmt::host"
  | .spawning .. | .finished .. | .failed .. => "prismafmt::engine"
  | .targetFailed _ | .collected _ | .unformatted _ => "prismafmt"

def words : Event → String
  | .printing .. => "printing"
  | .spawning .. => "spawning formatting engine"
  | .finished .. => "engine finished"
  | .failed .. => "engine failed"
  | .fileFailed fault | .targetFailed fault => fault.message
  | .collected _ => "collected files"
  | .unformatted path => s!"{path.display} is not formatted"

/-- The fields of an event, with their values as they are shown. -/
def fields : Event → List (String × String)
  | .printing path format start stop => [
      ("path", path.display), ("ast_format", Text.quote format),
      ("start", toString start), ("end", toString stop)]
  | .spawning program sourceBytes request => [
      ("program", program), ("source_bytes", toString sourceBytes),
      ("request", Text.quote request)]
  | .finished program outputBytes => [
      ("program", program), ("output_bytes", toString outputBytes)]
  | .failed program status => [("program", program), ("status", status)]
  | .collected count => [("count", toString count)]
  | .fileFailed _ | .targetFailed _ | .unformatted _ => []

end Event

def shown (c : Char) : List Char :=
  if c = '\x1b' then ['\\', 'x', '1', 'b']
  else if c = '\x07' then ['\\', 'x', '0', '7']
  else if c = '\x08' then ['\\', 'x', '0', '8']
  else if c = '\x0c' then ['\\', 'x', '0', 'c']
  else if c = '\x7f' then ['\\', 'x', '7', 'f']
  else if 0x80 ≤ c.toNat ∧ c.toNat ≤ 0x9f then
    ['\\', 'u', '\x7b'] ++ Nat.toDigits 16 c.toNat ++ ['\x7d']
  else [c]

/-- The line of an event, without time and line feed. -/
def Event.line (e : Event) : String :=
  let fields := String.join (e.fields.map fun (name, value) => s!" {name}={value}")
  let words := String.ofList (e.words.toList.flatMap shown)
  s!"{e.level.name} {e.target}: {words}{fields}"

end SchemaFormat.Log
