import SchemaFormat.Engine.Fault
import SchemaFormat.Json.Reader
import SchemaFormat.Text.Blank

/-!
An engine that indents by braces.

Each line is cut into words, which one space separates, and is indented by one unit for each block
it stands in; a line that begins with a closing brace stands outside the block that it closes. Blank
lines stay, except at the end. A brace that closes no block and a block that is not closed are
refused.
-/

namespace SchemaFormat.Reindent

/-- What one level is indented by, as a request asks: a number of spaces, two unless it says
otherwise, or a tab. -/
def unit (request : Json.Value) : List Char :=
  let options := request.member? "options"
  let width := match options.bind (·.member? "tabSize") with
    | some (.integer n) => if 0 ≤ n then n.toNat else 2
    | _ => 2
  match options.bind (·.member? "insertSpaces") with
  | some (.bool false) => ['\t']
  | _ => List.replicate width ' '

def indent (unit : List Char) (depth : Nat) : List Char :=
  (List.replicate depth unit).flatten

def opens (line : List Char) : Nat := line.count '\x7b'

def closes (line : List Char) : Nat := line.count '\x7d'

/-- A line, and the depth behind it, for a line that has words and begins at a depth; none if it
closes more blocks than there are. -/
def indentLine (unit : List Char) (depth : Nat) (joined : List Char) : Option (List Char × Nat) :=
  let leading := if joined.head? = some '\x7d' then 1 else 0
  if depth < leading then none
  else
    let inner := depth - leading
    let closing := closes joined - leading
    if inner + opens joined < closing then none
    else some (indent unit inner ++ joined, inner + opens joined - closing)

/-- Lines so far, the last one first, and the depth behind them. -/
structure Progress where
  written : List (List Char) := []
  depth : Nat := 0
  /-- The number of the line that closes a block too many. -/
  fault : Option Nat := none
  /-- How many lines have been read. -/
  count : Nat := 0
  deriving DecidableEq, Repr

/-- Take a line. After a fault nothing changes. -/
def Progress.take (unit : List Char) (p : Progress) (line : List Char) : Progress :=
  if p.fault.isSome then p
  else
    let joined := Text.join [' '] (Text.words line)
    if joined = [] then { p with written := [] :: p.written, count := p.count + 1 }
    else
      match indentLine unit p.depth joined with
      | none => { p with fault := some (p.count + 1) }
      | some (text, depth) => { p with
          written := text :: p.written, depth := depth, count := p.count + 1 }

/-- Indent a source by braces. -/
def format (source request : String) : Except EngineFault String :=
  match Json.read request with
  | none => .error (.rejected "malformed request")
  | some request =>
    let last := (Text.lines source.toList).foldl (Progress.take (unit request)) {}
    match last.fault with
    | some line => .error (.rejected s!"unexpected \x60\x7d\x60 on line {line}")
    | none =>
      if last.depth ≠ 0 then .error (.rejected "unclosed block")
      else
        .ok (String.ofList
          (Text.trimEnd (· == '\n') (Text.join ['\n'] last.written.reverse) ++ ['\n']))

end SchemaFormat.Reindent
