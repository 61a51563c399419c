import SchemaFormat.Shell.Edit
import SchemaFormat.Shell.Tool.Basic

/-!
The program that looks for lines.

A line matches if one of some patterns matches a part of it, a part that is made of words, or all of
it. The status tells whether any line was found.
-/

namespace SchemaFormat.Shell.Tool

/-- A text begins or ends with a character of a word. -/
def touchesWord (c : Option Char) : Bool :=
  c.any fun c => c.isAlphanum || c == '_'

/-- How a line has to match. -/
structure Matching where
  patterns : List Pattern
  /-- The whole line has to match. -/
  whole : Bool := false
  /-- What matches has to be words. -/
  word : Bool := false

/-- The ends of matches that begin at a position, behind the character that stands before it. -/
def Matching.ends (k : Matching) (before : Option Char) (p : Position) : List Position :=
  (k.patterns.flatMap fun a => a.ends 1000 p).filter fun e =>
    (! k.whole || (p.index == 0 && e.rest.isEmpty)) &&
      (! k.word || (! touchesWord before && ! touchesWord e.rest.head?))

/-- The first match from a position on, the longest there: what stands before it, and its ends. -/
def Matching.first? (k : Matching) : Nat → Option Char → Position → Option (Position × Position)
  | 0, _, _ => none
  | fuel + 1, before, p =>
    match longest? (k.ends before p) with
    | some e => some (p, e)
    | none =>
      match p.rest with
      | [] => none
      | c :: rest => k.first? fuel (some c) ⟨p.index + 1, rest, []⟩

def Matching.holds (k : Matching) (line : List Char) : Bool :=
  if k.whole || k.word then (k.first? (line.length + 1) none ⟨0, line, []⟩).isSome
  else k.patterns.any fun a => (a.search? [] ⟨0, line, []⟩).isSome

def Matching.parts (k : Matching) : Nat → Option Char → Position → List (List Char)
  | 0, _, _ => []
  | fuel + 1, before, p =>
    match k.first? (p.rest.length + 1) before p with
    | none => []
    | some (s, e) =>
      let found := s.rest.take (e.index - s.index)
      if found.isEmpty then
        match s.rest with
        | [] => []
        | c :: rest => k.parts fuel (some c) ⟨s.index + 1, rest, []⟩
      else found :: k.parts fuel found.getLast? ⟨e.index, e.rest, []⟩

/-- The lines of a text that match, or those that do not, with their numbers. -/
def Matching.lines (k : Matching) (inverted : Bool) (text : List Char) : List (Nat × List Char) :=
  ((linesOf text).1.zipIdx 1).filterMap fun (line, n) =>
    if k.holds line != inverted then some (n, line) else none

def grepUsage : String := "Usage: grep [OPTION]... PATTERNS [FILE]...
Try 'grep --help' for more information."

/-- Print or count the lines that match a pattern. -/
def grep (args : List (List Char)) : Action Nat := do
  let o := optionsOf "EFGPivwxcLloqsHhnyaU" "efmABC" args
  let written := o.flags.filterMap fun (c, value) => if c = 'e' then some value else none
  let (texts, operands) := match written, o.operands with
    | [], text :: operands => ([text], operands)
    | texts, operands => (texts, operands)
  let spelling : Spelling := ⟨o.has 'E' || o.has 'P', o.has 'i' || o.has 'y'⟩
  let patterns := (texts.flatMap fun t => Text.split (· == '\n') t).map fun t =>
    if o.has 'F' then some (Pattern.ofText t) else Pattern.parse? spelling t
  if let some words := o.fault then
    complainOf ["grep: ".toList, words]
    complain grepUsage
    return 2
  if texts.isEmpty then
    complain grepUsage
    return 2
  else if patterns.any Option.isNone then
    complain (if texts.any (·.contains '[') then "grep: Invalid regular expression"
      else "grep: Unmatched ( or \\(")
    return 2
  else
    let k : Matching := ⟨patterns.filterMap id, o.has 'x', o.has 'w'⟩
    let most := (o.value? 'm').bind count?
    let found (text : List Char) : List (Nat × List Char) :=
      let lines := k.lines (o.has 'v') text
      match most with
      | some n => lines.take n
      | none => lines
    if o.has 'q' && operands.isEmpty then
      let source ← takeWith 0 fun text =>
        match found text with
        | [] => (text, [])
        | _ :: _ =>
          let size := 65536
          let enough := (List.range (text.length / size + 1)).find? fun n =>
            ! (found (text.take ((n + 1) * size))).isEmpty
          let n := (enough.getD 0 + 1) * size
          (text.take n, text.drop n)
      return if (found source.chars).isEmpty then 1 else 0
    else
      let named := (1 < operands.length && ! o.has 'h') || o.has 'H'
      let (texts, status) ← sources operands fun name fault => do
        if ! o.has 's' then about "grep" "" name "" fault
      let hits := texts.map fun (name, source) =>
        (name.filter (· != ['-']), found source.chars)
      if ! o.has 'q' then
        hits.forM fun (name, lines) => do
          let name := name.getD "(standard input)".toList
          let before := if named then name ++ [':'] else []
          if o.has 'c' then
            let _ ← emit "grep" (before ++ (toString lines.length).toList ++ ['\n'])
          else if o.has 'l' || o.has 'L' then
            if lines.isEmpty == o.has 'L' then
              let _ ← emit "grep" (name ++ ['\n'])
          else
            let _ ← emit "grep" (lines.flatMap fun (n, line) =>
              let before := before ++ if o.has 'n' then (toString n).toList ++ [':'] else []
              let shown := if ! o.has 'o' then [line]
                else if o.has 'v' then []
                else k.parts (line.length + 1) none ⟨0, line, []⟩
              shown.flatMap fun l => before ++ l ++ ['\n'])
      if status ≠ 0 then return 2
      else return if hits.all (·.2.isEmpty) then 1 else 0

end SchemaFormat.Shell.Tool
