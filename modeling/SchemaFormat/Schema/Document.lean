/-!
Schema documents and the parsers that read them.

A document keeps its text as it is; its extent is counted in bytes. A parser is known by its name
and gives documents of one format, by which a printer for them is found. No parser gives documents
of a format that cannot be printed.
-/

namespace SchemaFormat

/-- A document that has been read. -/
structure Document where
  text : String
  deriving DecidableEq, Repr

def Document.start (_ : Document) : Nat := 0

def Document.stop (d : Document) : Nat := d.text.utf8ByteSize

def printableFormats : List String := ["prisma-ast"]

/-- What reads a text as a document of one format. -/
structure Parser where
  name : String
  format : String
  printable : format ∈ printableFormats := by decide
  deriving DecidableEq, Repr

namespace Parser

def prisma : Parser where
  name := "prisma"
  format := "prisma-ast"

def all : List Parser := [prisma]

def named? (name : String) : Option Parser :=
  all.find? (·.name == name)

/-- Read a text: nothing is dropped and nothing is refused. -/
def read (_ : Parser) (text : String) : Document :=
  ⟨text⟩

end Parser

end SchemaFormat
