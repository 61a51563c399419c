import SchemaFormat.CommandLine.Grammar
import SchemaFormat.Path.Basic

/-!
What the command line asks for.

There are three commands: `fmt` formats files, or standard input under the name of a file;
`languages` describes the registered languages; `request` shows what an engine would be asked for a
file. `Asked.parse` reads the arguments of the program, with the engine that the environment names.
-/

namespace SchemaFormat.CommandLine

/-- What `fmt` is asked. -/
structure FormatArguments where
  paths : List Path := []
  write : Bool := false
  check : Bool := false
  tabWidth : UInt32 := 2
  useTabs : Bool := false
  parser : Option String := none
  engine : String
  engineArguments : List Bytes := []
  /-- The name under which standard input is formatted. -/
  stdinPath : Option Path := none
  deriving DecidableEq, Repr

structure RequestArguments where
  path : Path
  tabWidth : UInt32 := 2
  useTabs : Bool := false
  deriving DecidableEq, Repr

/-- What a help text is about. -/
inductive Topic where
  | program
  | format
  | languages
  | request
  | help
  deriving DecidableEq, Repr

inductive Action where
  | format (arguments : FormatArguments)
  | languages
  | request (arguments : RequestArguments)
  deriving DecidableEq, Repr

/-- What the command line asks for. -/
inductive Asked where
  | run (verbose : Bool) (action : Action)
  | help (topic : Topic)
  | version
  /-- Nothing was asked. -/
  | nothing
  | refused (fault : UsageFault)
  deriving DecidableEq, Repr

/-! ### What the commands know -/

def helpFlag : Argument := ⟨"--help", .help, "help", some 'h', false, false⟩
def versionFlag : Argument := ⟨"--version", .version, "version", some 'V', false, false⟩
def verboseFlag : Argument := ⟨"--verbose", .flag, "verbose", some 'v', false, false⟩
def writeFlag : Argument := ⟨"--write", .flag, "write", none, false, false⟩
def checkFlag : Argument := ⟨"--check", .flag, "check", none, false, false⟩
def tabsFlag : Argument := ⟨"--use-tabs", .flag, "use-tabs", none, false, false⟩

def widthOption : Argument :=
  ⟨"--tab-width <TAB_WIDTH>", .width, "tab-width", none, false, false⟩
def parserOption : Argument := ⟨"--parser <PARSER>", .text, "parser", none, false, false⟩
def engineOption : Argument := ⟨"--engine <ENGINE>", .text, "engine", none, false, false⟩
def engineArgument : Argument :=
  ⟨"--engine-arg <ENGINE_ARGS>", .text, "engine-arg", none, true, true⟩
def stdinOption : Argument :=
  ⟨"--stdin-filepath <STDIN_FILEPATH>", .path, "stdin-filepath", none, false, false⟩
def pathsArgument : Argument := ⟨"[PATHS]...", .path, "", none, true, false⟩
def fileArgument : Argument := ⟨"<FILE>", .path, "", none, false, false⟩

def programLevel : Level where
  options := [verboseFlag, helpFlag, versionFlag]
  subcommands := ["fmt", "languages", "request", "help"]

def formatLevel : Level where
  options := [writeFlag, checkFlag, widthOption, tabsFlag, parserOption, engineOption,
    engineArgument, stdinOption, verboseFlag, helpFlag]
  positional := some pathsArgument

def languagesLevel : Level where
  options := [verboseFlag, helpFlag]

def requestLevel : Level where
  options := [widthOption, tabsFlag, verboseFlag, helpFlag]
  positional := some fileArgument

/-! ### Conflicts -/

/-- What cannot be given together with standard input's name. -/
def stdinConflicts : List Argument := [writeFlag, checkFlag, pathsArgument]

def conflicts (a b : Argument) : Bool :=
  (a == stdinOption && stdinConflicts.contains b) || (b == stdinOption && stdinConflicts.contains a)

/-- The first argument that cannot be given together with others, and those. -/
def conflict? (given : List Given) : Option UsageFault :=
  given.findSome? fun (a, _) =>
    match given.filter fun (b, _) => conflicts a b with
    | [] => none
    | others => some (.conflict a.display (others.map (·.1.display)))

/-! ### The commands -/

def has (given : List Given) (a : Argument) : Bool :=
  (valuesOf given a.display).isSome

def values (given : List Given) (a : Argument) : List Bytes :=
  (valuesOf given a.display).getD []

def text? (given : List Given) (a : Argument) : Option String :=
  (values given a).head?.map Bytes.display

/-- The indentation width that was given, or two. -/
def widthOf (given : List Given) : UInt32 :=
  match (text? given widthOption).map readWidth with
  | some (.ok n) => UInt32.ofNat n
  | _ => 2

def defaultEngine : String := "prisma-fmt"

def engineVariable : Bytes := Bytes.ofString "PRISMAFMT_ENGINE"

/-- The engine that was given, or that the environment names. -/
def engineOf (given : List Given) (named : Option Bytes) : Except UsageFault String :=
  match text? given engineOption, named with
  | some engine, _ => .ok engine
  | none, none => .ok defaultEngine
  | none, some name =>
    match name.toString? with
    | .ok engine => .ok engine
    | .error _ => .error .notText

def formatArguments (given : List Given) (named : Option Bytes) :
    Except UsageFault FormatArguments := do
  let engine ← engineOf given named
  match conflict? given with
  | some fault => .error fault
  | none =>
    return {
      paths := (values given pathsArgument).map Path.mk
      write := has given writeFlag
      check := has given checkFlag
      tabWidth := widthOf given
      useTabs := has given tabsFlag
      parser := text? given parserOption
      engine := engine
      engineArguments := values given engineArgument
      stdinPath := (values given stdinOption).head?.map Path.mk }

def requestArguments (given : List Given) : Except UsageFault RequestArguments :=
  match values given fileArgument with
  | path :: _ => .ok ⟨⟨path⟩, widthOf given, has given tabsFlag⟩
  | [] => .error (.missingArgument fileArgument.display)

namespace Asked

def ofStop (topic : Topic) : Stop → Asked
  | .fault f => .refused f
  | .help => .help topic
  | .version => .version

def topic? : String → Option Topic
  | "fmt" => some .format
  | "languages" => some .languages
  | "request" => some .request
  | "help" => some .help
  | _ => none

/-- What is asked by the names behind `help`: help on the command they lead to. -/
def ofHelp (topic : Topic) : List Bytes → Asked
  | [] => .help topic
  | name :: rest =>
    let known := if topic = .program then topic? name.display else none
    match known with
    | some found => ofHelp found rest
    | none => .refused (.unknownSubcommand name.display)

def ofSubcommand (verbose : Bool) (named : Option Bytes) (name : String) (args : List Bytes) :
    Asked :=
  let reading (level : Level) (topic : Topic)
      (make : List Given → Except UsageFault Action) : Asked :=
    match Reading.takeAll level {} args with
    | .error stop => ofStop topic stop
    | .ok (given, _) =>
      match make given with
      | .error fault => .refused fault
      | .ok action => .run (verbose || has given verboseFlag) action
  match topic? name with
  | some .format =>
    reading formatLevel .format fun given => (formatArguments given named).map .format
  | some .languages => reading languagesLevel .languages fun _ => .ok .languages
  | some .request =>
    reading requestLevel .request fun given => (requestArguments given).map .request
  | _ => ofHelp .program args

/-- What the arguments of the program ask for; `named` is the engine that the environment names. -/
def parse (named : Option Bytes) (args : List Bytes) : Asked :=
  match Reading.takeAll programLevel {} args with
  | .error stop => ofStop .program stop
  | .ok (given, some (name, rest)) => ofSubcommand (has given verboseFlag) named name rest
  | .ok (given, none) =>
    if given.isEmpty then .nothing else .refused (.missingSubcommand programLevel.subcommands)

end Asked

end SchemaFormat.CommandLine
