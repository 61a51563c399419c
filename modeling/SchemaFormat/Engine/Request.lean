import SchemaFormat.Engine.Fault
import SchemaFormat.Json.Value
import SchemaFormat.Text.Blank
import SchemaFormat.Uri.Document

/-!
The request that goes to an engine together with a source.

It names the document by a locator and says how to indent and how to treat blanks. Indentation is
the host's choice; the three rules about blanks always hold. `Request.compact` is the form that is
sent, `Request.pretty` the one that is shown.
-/

namespace SchemaFormat

/-- What a host asks for one document. -/
structure PrintOptions where
  /-- The path of the document; without one there is no locator. -/
  path : Option String := none
  tabWidth : UInt32 := 2
  useTabs : Bool := false
  deriving DecidableEq, Repr

/-- What an engine is asked for one document. -/
structure Request where
  uri : String
  tabSize : UInt32
  insertSpaces : Bool
  trimFinalNewlines : Bool
  insertFinalNewline : Bool
  trimTrailingWhitespace : Bool
  deriving DecidableEq, Repr

/-- The locator of the document at a path. A path of blanks is none. -/
def documentUri (path : Option String) : Except PrintFault String :=
  match path with
  | none => .error .noPath
  | some path =>
    if (Text.trim path.toList).isEmpty then .error .noPath
    else
      match Uri.Document.ofPath path.toList with
      | .error cause => .error (.badPath path cause)
      | .ok document => .ok (String.ofList document.render)

namespace Request

def build (options : PrintOptions) : Except PrintFault Request :=
  match documentUri options.path with
  | .error fault => .error fault
  | .ok uri => .ok {
      uri := uri
      tabSize := options.tabWidth
      insertSpaces := ! options.useTabs
      trimFinalNewlines := true
      insertFinalNewline := true
      trimTrailingWhitespace := true }

def toJson (r : Request) : Json.Value :=
  .object [
    ("textDocument", .object [("uri", .string r.uri)]),
    ("options", .object [
      ("tabSize", .integer r.tabSize.toNat),
      ("insertSpaces", .bool r.insertSpaces),
      ("trimFinalNewlines", .bool r.trimFinalNewlines),
      ("insertFinalNewline", .bool r.insertFinalNewline),
      ("trimTrailingWhitespace", .bool r.trimTrailingWhitespace)])]

/-- The request as it is sent. -/
def compact (r : Request) : String :=
  r.toJson.compact

def pretty (r : Request) : String :=
  r.toJson.pretty

end Request

end SchemaFormat
