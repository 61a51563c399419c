import SchemaFormat.Engine.Session
import SchemaFormat.Engine.Request
import SchemaFormat.Schema.Document

/-!
Engines.

An engine is asked to format a source under a request, written as JSON, and answers a text or a
fault. What it answers may hang on the session, and asking it may change the session. An engine
inside the program is a function of source and request; each call of it is noted.
-/

namespace SchemaFormat

/-- What formats a source under a request. -/
abbrev Engine := String → String → Run (Except EngineFault String)

namespace Engine

def ofFunction (f : String → String → Except EngineFault String) : Engine :=
  fun source request => do
  Run.note ⟨source, request⟩
  return f source request

def isTrailing (c : Char) : Bool :=
  c == ' ' || c == '\t' || c == '\n' || c == '\r'

/-- A source without the blanks at its end, and with one line feed there. -/
def trimmed (source : String) : String :=
  String.ofList (Text.trimEnd isTrailing source.toList ++ ['\n'])

def upper (source : String) : String :=
  source.map Char.toUpper

/-- The text that some bytes hold, as a program's output is taken. -/
def textOf (program : String) (output : Bytes) : Except EngineFault String :=
  match output.toString? with
  | .ok text => .ok text
  | .error cause => .error (.notText program cause)

end Engine

/-- Print a document: the engine is asked once, with the document's text and the request for it, and
its answer is handed on. -/
def Document.print (d : Document) (engine : Engine) (options : PrintOptions) :
    Run (Except PrintFault String) :=
  match Request.build options with
  | .error fault => return .error fault
  | .ok request => do
    match ← engine d.text request.compact with
    | .ok text => return .ok text
    | .error fault => return .error (.engine fault)

/-- What prints documents through an engine. -/
structure Printer where
  engine : Engine

namespace Printer

def print (p : Printer) (d : Document) (options : PrintOptions) : Run (Except PrintFault String) :=
  d.print p.engine options

/-- The printers over an engine, by the formats that they print. -/
def all (engine : Engine) : List (String × Printer) :=
  printableFormats.map fun format => (format, ⟨engine⟩)

def ofFormat? (engine : Engine) (format : String) : Option Printer :=
  (all engine).lookup format

theorem ofFormat?_of_mem {format : String} (h : format ∈ printableFormats) (engine : Engine) :
    ofFormat? engine format = some ⟨engine⟩ := by
  obtain rfl := List.mem_singleton.mp h
  rfl

end Printer

/-- The printer for what a parser reads. One is always found. -/
def Parser.printer (p : Parser) (engine : Engine) : Printer :=
  (Printer.ofFormat? engine p.format).get (by rw [Printer.ofFormat?_of_mem p.printable]; rfl)

@[simp] theorem Parser.printer_eq (p : Parser) (engine : Engine) : p.printer engine = ⟨engine⟩ := by
  simp [printer, Printer.ofFormat?_of_mem p.printable]

end SchemaFormat
