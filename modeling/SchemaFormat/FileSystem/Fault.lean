/-!
Why the system refused something.
-/

namespace SchemaFormat

/-- What went wrong when something was read, written or started. -/
inductive SystemFault where
  | notFound
  | argumentsTooLong
  | badDescriptor
  | permissionDenied
  | alreadyExists
  | notDirectory
  | isDirectory
  | textBusy
  | noSpace
  | brokenPipe
  | nameTooLong
  | tooManyLinks
  /-- A path holds a zero byte. -/
  | zeroInPath
  /-- A program or an argument holds a zero byte. -/
  | zeroInArgument
  /-- Bytes that should be text are none. -/
  | notText
  /-- Anything else, in its own words. -/
  | other (message : String)
  deriving DecidableEq, Repr

namespace SystemFault

def words : SystemFault → String
  | .notFound => "No such file or directory"
  | .argumentsTooLong => "Argument list too long"
  | .badDescriptor => "Bad file descriptor"
  | .permissionDenied => "Permission denied"
  | .alreadyExists => "File exists"
  | .notDirectory => "Not a directory"
  | .isDirectory => "Is a directory"
  | .textBusy => "Text file busy"
  | .noSpace => "No space left on device"
  | .brokenPipe => "Broken pipe"
  | .nameTooLong => "File name too long"
  | .tooManyLinks => "Too many levels of symbolic links"
  | .zeroInPath => "file name contained an unexpected NUL byte"
  | .zeroInArgument => "nul byte found in provided data"
  | .notText => "stream did not contain valid UTF-8"
  | .other message => message

/-- The number of a fault that the system itself reports. -/
def number? : SystemFault → Option Nat
  | .notFound => some 2
  | .argumentsTooLong => some 7
  | .badDescriptor => some 9
  | .permissionDenied => some 13
  | .alreadyExists => some 17
  | .notDirectory => some 20
  | .isDirectory => some 21
  | .textBusy => some 26
  | .noSpace => some 28
  | .brokenPipe => some 32
  | .nameTooLong => some 36
  | .tooManyLinks => some 40
  | .zeroInPath | .zeroInArgument | .notText | .other _ => none

def message (f : SystemFault) : String :=
  match f.number? with
  | some number => s!"{f.words} (os error {number})"
  | none => f.words

end SystemFault

end SchemaFormat
