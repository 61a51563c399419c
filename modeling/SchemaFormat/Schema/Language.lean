import SchemaFormat.Json.Value
import SchemaFormat.Path.Basic

/-!
The languages that can be formatted, and which of them a file is written in.

A language is known by the extensions of its files; case matters. `Language.ofExtension?` looks an
extension up, with or without its dot, and `Language.ofPath?` takes the extension of a path.
-/

namespace SchemaFormat

structure Language where
  name : String
  /-- The names of the parsers for it, the preferred one first. -/
  parsers : List String
  /-- The extensions of its files, each with its dot. -/
  extensions : List String
  linguistId : Nat
  editorIds : List String
  deriving DecidableEq, Repr

namespace Language

def prisma : Language where
  name := "Prisma"
  parsers := ["prisma"]
  extensions := [".prisma"]
  linguistId := 499933428
  editorIds := ["prisma"]

def all : List Language := [prisma]

/-- The language that has an extension, which may lack its dot. -/
def ofExtension? (extension : String) : Option Language :=
  let dotted := if extension.toList.head? = some '.' then extension else "." ++ extension
  all.find? (·.extensions.contains dotted)

/-- The language of a file, by its extension. An extension that is no text belongs to none. -/
def ofPath? (p : Path) : Option Language := do
  let extension ← p.extension?
  ofExtension? (← (Bytes.toString? extension).toOption)

def toJson (l : Language) : Json.Value :=
  let strings (texts : List String) : Json.Value := .array (texts.map .string)
  .object [
    ("name", .string l.name),
    ("parsers", strings l.parsers),
    ("extensions", strings l.extensions),
    ("linguistLanguageId", .integer l.linguistId),
    ("vscodeLanguageIds", strings l.editorIds)]

def allToJson : Json.Value :=
  .array (all.map toJson)

end Language

end SchemaFormat
