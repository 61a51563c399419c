import SchemaFormat.Uri.Host
import SchemaFormat.Uri.Segments

/-!
The locator of a document: `file://` and a path on this machine, or a host and a path.

`Document.ofPath` reads what follows `file://`. Controls and spaces at the end are dropped. Up to
the first slash, backslash, question mark or number sign stands the host; a drive letter there
belongs to the path instead. The path ends at a question mark, behind which the query stands, or at
a number sign, behind which the fragment stands.
-/

namespace SchemaFormat.Uri

/-- The parts of a file locator. -/
structure Document where
  host : Option Host
  path : Walking
  query : Option (List Char)
  fragment : Option (List Char)
  deriving DecidableEq, Repr

namespace Document

def endsHost (c : Char) : Bool :=
  isSlash c || c == '?' || c == '#'

def endsPath (c : Char) : Bool :=
  c == '?' || c == '#'

/-- Query and fragment of what follows the path. -/
def readRest (rest : List Char) : Option (List Char) × Option (List Char) :=
  match rest with
  | '?' :: after =>
    let query := percentEncode escapedInQuery (visible (after.takeWhile (· != '#')))
    match after.dropWhile (· != '#') with
    | _ :: fragment => (some query, some (percentEncode escapedInFragment (visible fragment)))
    | [] => (some query, none)
  | '#' :: fragment => (none, some (percentEncode escapedInFragment (visible fragment)))
  | _ => (none, none)

/-- A document from its host and all that follows the host. -/
def assemble (host : Option Host) (text : List Char) : Document :=
  let path := readPath (text.takeWhile (! endsPath ·))
  let (query, fragment) := readRest (text.dropWhile (! endsPath ·))
  ⟨if path.onDrive then none else host, path, query, fragment⟩

/-- A text without the slash that it starts with; dropped characters may stand before it. -/
def dropSlash (text : List Char) : List Char :=
  match text.dropWhile isIgnored with
  | c :: rest => if isSlash c then rest else text
  | [] => text

/-- The document at the place that a text writes behind `file://`. -/
def ofPath (text : List Char) : Except HostFault Document :=
  let text := Text.trimEnd (·.toNat ≤ 0x20) text
  let name := visible (text.takeWhile (! endsHost ·))
  let rest := text.dropWhile (! endsHost ·)
  if isDrive name then .ok (assemble none text)
  else if name.isEmpty then .ok (assemble none rest)
  else
    match Host.parse name with
    | .error fault => .error fault
    | .ok host =>
      if host.isLocal then .ok (assemble none rest)
      else .ok (assemble (some host) (dropSlash rest))

/-- What every document locator begins with. -/
def scheme : List Char := "file://".toList

def render (d : Document) : List Char :=
  scheme ++ ((d.host.map Host.render).getD [] ++ (renderPath d.path ++
    ((d.query.map ('?' :: ·)).getD [] ++ (d.fragment.map ('#' :: ·)).getD [])))

end Document

end SchemaFormat.Uri
