import SchemaFormat.Engine.Basic
import SchemaFormat.Schema.Language

/-!
Formatting one file.

A formatter has an engine and options. It finds the parser of a file by the name that the options
force or else by the file's language, and the printer by the format of what that parser reads, which
asks the engine for the file's text under the request for its absolute path. What it does with the
answer is the mode's choice: print a block, write the file, or neither. `draft` is the part that
reads, `settle` the part that puts out.
-/

namespace SchemaFormat

/-- What becomes of a formatted text. -/
inductive Mode where
  /-- It is printed. -/
  | stdout
  /-- It takes the place of a text that differs from it. -/
  | write
  /-- It is only compared. -/
  | check
  deriving DecidableEq, Repr

structure FormatOptions where
  tabWidth : UInt32 := 2
  useTabs : Bool := false
  /-- The name of the parser that every file goes to. -/
  parser : Option String := none
  deriving DecidableEq, Repr

namespace FormatOptions

/-- The parser of a language: the first of its parsers that exists. -/
def parserOf? (l : Language) : Option Parser :=
  l.parsers.findSome? Parser.named?

def route (o : FormatOptions) (p : Path) : Except FileFault Parser :=
  match o.parser with
  | some name =>
    match Parser.named? name with
    | some parser => .ok parser
    | none => .error (.unknownParser name)
  | none =>
    match (Language.ofPath? p).bind parserOf? with
    | some parser => .ok parser
    | none => .error (.noParser p)

/-- What a printer is told about a file, `directory` being where relative paths start. -/
def printOptions (o : FormatOptions) (directory p : Path) : PrintOptions where
  path := some ((Path.absolute? directory p).getD p).display
  tabWidth := o.tabWidth
  useTabs := o.useTabs

end FormatOptions

/-- An engine and what holds for every file. -/
structure Formatter where
  engine : Engine
  options : FormatOptions := {}

/-- A file that was read and formatted. -/
structure Draft where
  path : Path
  content : String
  formatted : String
  deriving DecidableEq, Repr

def Draft.changed (d : Draft) : Bool :=
  d.formatted != d.content

/-- What is printed for a file: a line that names it and its formatted text. -/
def Draft.block (d : Draft) : Bytes :=
  Bytes.ofString s!"===== {d.path.display} =====\n{d.formatted}"

namespace Formatter

/-- Format a text that belongs to a path. -/
def formatText (f : Formatter) (text : String) (p : Path) : Run (Except FileFault String) :=
  match f.options.route p with
  | .error fault => return .error fault
  | .ok parser => do
    let document := parser.read text
    Run.log (.printing p parser.format document.start document.stop)
    let directory := (← get).directory.path
    match ← (parser.printer f.engine).print document (f.options.printOptions directory p) with
    | .ok formatted => return .ok formatted
    | .error fault => return .error (.print p fault)

def draft (f : Formatter) (p : Path) : Run (Except FileFault Draft) := do
  match ← Run.readText p with
  | .error fault => return .error (.io p fault)
  | .ok content =>
    match ← f.formatText content p with
    | .error fault => return .error fault
    | .ok formatted => return .ok ⟨p, content, formatted⟩

/-- Put out a formatted text. The answer tells whether the file differs from it. -/
def settle (d : Draft) (mode : Mode) : Run (Except FileFault Bool) := do
  let put : Except SystemFault Unit ←
    match mode with
    | .stdout => Run.print d.block
    | .write =>
      if d.changed then Run.writeFile d.path (Bytes.ofString d.formatted) else pure (.ok ())
    | .check => pure (.ok ())
  match put with
  | .ok () => return .ok d.changed
  | .error fault => return .error (.io d.path fault)

/-- Format one file. The answer tells whether the file differs from its formatted text. -/
def processFile (f : Formatter) (mode : Mode) (p : Path) : Run (Except FileFault Bool) := do
  match ← f.draft p with
  | .error fault => return .error fault
  | .ok d => settle d mode

end Formatter

end SchemaFormat
