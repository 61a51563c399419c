import SchemaFormat.Engine.Basic

/-!
Engines that are programs.

A program is started once for each call. The request is its last argument, the source goes to its
standard input, and what it prints is the answer. How the program ended decides alone: a program
that did not start, one that ended without success, one that ended well but did not take the whole
source, one whose output is no text, and one that answered are told apart in this order.
-/

namespace SchemaFormat

/-- What is started: a program, its arguments, and what stands in its standard input. -/
structure Invocation where
  program : Bytes
  arguments : List Bytes
  input : Bytes
  deriving DecidableEq, Repr

/-- How a program ended. -/
inductive Status where
  | exited (code : Nat)
  /-- A signal ended it. `dumped` tells that the system kept an image of its memory. -/
  | killed (signal : Nat) (dumped : Bool)
  deriving DecidableEq, Repr

def Status.isSuccess (s : Status) : Bool :=
  s == .exited 0

def signalNames : List String := [
  "SIGHUP", "SIGINT", "SIGQUIT", "SIGILL", "SIGTRAP", "SIGABRT", "SIGBUS", "SIGFPE", "SIGKILL",
  "SIGUSR1", "SIGSEGV", "SIGUSR2", "SIGPIPE", "SIGALRM", "SIGTERM", "SIGSTKFLT", "SIGCHLD",
  "SIGCONT", "SIGSTOP", "SIGTSTP", "SIGTTIN", "SIGTTOU", "SIGURG", "SIGXCPU", "SIGXFSZ",
  "SIGVTALRM", "SIGPROF", "SIGWINCH", "SIGIO", "SIGPWR", "SIGSYS"]

def signalName? (signal : Nat) : Option String :=
  if signal = 0 then none else signalNames[signal - 1]?

/-- How a program ended, in words. -/
def Status.message : Status → String
  | .exited code => s!"exit status: {code}"
  | .killed signal dumped =>
    let words := match signalName? signal with
      | some name => s!"signal: {signal} ({name})"
      | none => s!"signal: {signal}"
    if dumped then words ++ " (core dumped)" else words

/-- What became of an invocation. -/
inductive Outcome where
  | notStarted (fault : SystemFault)
  /-- The program ran. `unfed` tells why it did not get its whole input. -/
  | finished (unfed : Option SystemFault) (output errorOutput : Bytes) (status : Status)
  deriving DecidableEq, Repr

/-- What starts programs and waits for their end. -/
abbrev Launcher := Invocation → Run Outcome

/-- A program with the arguments in front of the request. -/
structure Command where
  program : Bytes
  arguments : List Bytes := []
  deriving DecidableEq, Repr

namespace Command

def withArguments (c : Command) (more : List Bytes) : Command :=
  { c with arguments := c.arguments ++ more }

def name (c : Command) : String :=
  Bytes.display c.program

def invocation (c : Command) (source request : String) : Invocation where
  program := c.program
  arguments := c.arguments ++ [Bytes.ofString request]
  input := Bytes.ofString source

/-- What a program wrote to its standard error, without blanks at its ends. -/
def complaint (errorOutput : Bytes) : String :=
  String.ofList (Text.trim (Utf8.decodeLossy errorOutput))

def answer (c : Command) : Outcome → Except EngineFault String
  | .notStarted fault => .error (.spawn c.name fault)
  | .finished unfed output errorOutput status =>
    if status.isSuccess then
      match unfed with
      | some fault => .error (.io c.name fault)
      | none => Engine.textOf c.name output
    else .error (.failed c.name status.message (complaint errorOutput))

def events (c : Command) : Outcome → List Log.Event
  | .notStarted _ => []
  | .finished unfed output _ status =>
    if status.isSuccess then
      match unfed with
      | some _ => []
      | none => [.finished c.name output.length]
    else [.failed c.name status.message]

/-- The engine that starts the program for each call. -/
def engine (launch : Launcher) (c : Command) : Engine := fun source request => do
  Run.log (.spawning c.name source.utf8ByteSize request)
  let outcome ← launch (c.invocation source request)
  (c.events outcome).forM Run.log
  return c.answer outcome

end Command

end SchemaFormat
