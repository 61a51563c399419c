import SchemaFormat.CommandLine.Help
import SchemaFormat.Engine.Process
import SchemaFormat.Formatter.Batch
import SchemaFormat.Formatter.Collect
import SchemaFormat.Log.Filter

/-!
Running the command line.

A run prints to standard output, logs, and ends with an exit code and perhaps a complaint. The exit
code of `fmt` is 2 if a target was not walked or a file not formatted, else 1 if files were only
checked and some differ from their formatted text, else 0. A command that fails as a whole ends with
1; arguments that are refused end with 2.
-/

namespace SchemaFormat.CommandLine

/-- How a run ended: its exit code and what it wrote to the error output behind the log. -/
structure Ending where
  code : Nat := 0
  complaint : String := ""
  deriving DecidableEq, Repr

/-- A text whose further lines are indented. -/
def indented (indent : String) (text : String) : String :=
  String.ofList (Text.join ('\n' :: indent.toList) (Text.split (· == '\n') text.toList))

/-- The causes of a failure; several are numbered. -/
def causeLines (causes : List String) : String :=
  match causes with
  | [] => ""
  | [cause] => "\n\nCaused by:\n    " ++ indented "    " cause
  | causes =>
    "\n\nCaused by:" ++ String.join (causes.zipIdx.map fun (cause, n) =>
      let label := String.ofList (List.replicate (5 - (toString n).length) ' ')
      s!"\n{label}{n}: " ++ indented "       " cause)

namespace Ending

def failure (message : String) (causes : List String) : Ending :=
  ⟨1, s!"Error: {message}" ++ causeLines causes ++ "\n"⟩

def ofPrinted : Except SystemFault Unit → Ending
  | .ok () => {}
  | .error fault => failure fault.message []

def ofUsage (fault : UsageFault) : Ending :=
  ⟨2, s!"error: {fault.message}\n\nFor more information, try '--help'.\n"⟩

end Ending

def FormatArguments.mode (a : FormatArguments) : Mode :=
  if a.write then .write else if a.check then .check else .stdout

def FormatArguments.options (a : FormatArguments) : FormatOptions :=
  ⟨a.tabWidth, a.useTabs, a.parser⟩

def FormatArguments.command (a : FormatArguments) : Command :=
  ⟨Bytes.ofString a.engine, a.engineArguments⟩

/-- The targets: the working directory if none is given. -/
def FormatArguments.targets (a : FormatArguments) : List Path :=
  if a.paths.isEmpty then [⟨[Path.dot]⟩] else a.paths

def exitCode (mode : Mode) (collected : Collected) (summary : Summary) : Nat :=
  if 0 < summary.failed ∨ collected.faults ≠ [] then 2
  else if mode = .check ∧ summary.changed ≠ [] then 1
  else 0

/-- Format standard input under the name of a file, and print the result. -/
def formatStdin (f : Formatter) (input : Bytes) (p : Path) : Run Ending :=
  match input.toString? with
  | .error _ => return .failure "failed to read stdin" [SystemFault.notText.message]
  | .ok text => do
    match ← f.formatText text p with
    | .error fault => return .failure fault.message fault.causes
    | .ok formatted => return .ofPrinted (← Run.print (Bytes.ofString formatted))

def formatTargets (f : Formatter) (mode : Mode) (targets : List Path) : Run Ending := do
  let collected ← Run.collect targets
  collected.faults.forM fun fault => Run.log (.targetFailed fault)
  Run.log (.collected collected.files.length)
  let summary ← f.processFiles mode collected.files
  if mode = .check then
    summary.changed.forM fun p => Run.log (.unformatted p)
  return ⟨exitCode mode collected summary, ""⟩

def runFormat (engine : Command → Engine) (input : Bytes) (a : FormatArguments) : Run Ending :=
  if a.write ∧ a.check then return .failure "--write and --check are mutually exclusive" []
  else
    let f : Formatter := ⟨engine a.command, a.options⟩
    match a.stdinPath with
    | some p => formatStdin f input p
    | none => formatTargets f a.mode a.targets

def runLanguages : Run Ending :=
  return .ofPrinted (← Run.print (Bytes.ofString (Language.allToJson.pretty ++ "\n")))

/-- The request that an engine would get for a file, or why it would get none. -/
def requestFor (directory : Path) (a : RequestArguments) : Except Ending Request :=
  let options : FormatOptions := ⟨a.tabWidth, a.useTabs, none⟩
  match options.route a.path with
  | .error fault => .error (.failure fault.message fault.causes)
  | .ok _ =>
    match Request.build (options.printOptions directory a.path) with
    | .error fault => .error (.failure fault.message fault.causes)
    | .ok request => .ok request

def runRequest (a : RequestArguments) : Run Ending := do
  match requestFor (← get).directory.path a with
  | .error ending => return ending
  | .ok request => return .ofPrinted (← Run.print (Bytes.ofString (request.pretty ++ "\n")))

/-- Print a text that no complaint follows if it cannot be printed. -/
def printQuietly (text : String) : Run Ending := do
  let _ ← Run.print (Bytes.ofString text)
  return {}

def runAsked (engine : Command → Engine) (named : Option Bytes) (input : Bytes) :
    Asked → Run Ending
  | .run _ (.format a) => runFormat engine input a
  | .run _ .languages => runLanguages
  | .run _ (.request a) => runRequest a
  | .help topic => printQuietly (helpText named topic)
  | .version => printQuietly versionText
  | .nothing => return ⟨2, programHelp⟩
  | .refused fault => return .ofUsage fault

def logVariable : Bytes := Bytes.ofString "RUST_LOG"

/-- What is logged unless the environment says otherwise. -/
def defaultFilter : Log.Filter := .upTo .info

/-- Which events are written: all but the least grave if the command line says so, else what the
environment asks for. -/
def filterFor (verbose : Bool) (setting : Option Bytes) : Log.Filter :=
  if verbose then .upTo .debug
  else
    match setting.map Bytes.toString? with
    | some (.ok text) => (Log.Filter.parse? text.toList).getD defaultFilter
    | _ => defaultFilter

def logText (filter : Log.Filter) (events : List Log.Event) : String :=
  String.join ((events.filter filter.allows).map fun e => e.line ++ "\n")

def Asked.verbose : Asked → Bool
  | .run verbose _ => verbose
  | _ => false

/-- Run the program: its exit code and what it wrote to the error output. -/
def runProgram (engine : Command → Engine) (args : List Bytes) (input : Bytes) :
    Run (Nat × String) := do
  let environment := (← get).environment
  let named := environment.lookup engineVariable
  let asked := Asked.parse named args
  let ending ← runAsked engine named input asked
  let filter := filterFor asked.verbose (environment.lookup logVariable)
  return (ending.code, logText filter (← get).events.reverse ++ ending.complaint)

end SchemaFormat.CommandLine
