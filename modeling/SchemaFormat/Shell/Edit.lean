import SchemaFormat.Shell.Pattern
import SchemaFormat.Text.Blank

/-!
Editing a text line by line.

An editing script is a list of instructions, each of which acts on the lines that its addresses
select. Each line is taken into a buffer on which the instructions work; they may take more lines,
keep text in a second buffer, print, and jump to labels. Unless the run is quiet, the buffer is
printed behind the last instruction. A last line without a line feed stays without one.
-/

namespace SchemaFormat.Shell

/-- A text cut into lines, and whether the last one lacks its line feed. -/
def linesOf (text : List Char) : List (List Char) × Bool :=
  let parts := Text.split (· == '\n') text
  match parts.getLast? with
  | some [] => (parts.dropLast, false)
  | _ => (parts, ! text.isEmpty)

/-- A part of what replaces a match. -/
inductive Replacement where
  | text (chars : List Char)
  /-- What the pattern has kept under a number; under zero all it has matched. -/
  | kept (number : Nat)
  deriving Repr

/-- Which lines an instruction acts on. -/
inductive Address where
  | line (number : Nat)
  /-- So many lines behind the first one of a range. -/
  | behind (count : Nat)
  | last
  | holding (p : Pattern)

/-- What an instruction does. The buffer's first line ends at its first line feed. -/
inductive Edit where
  /-- Replace matches of a pattern from the `nth` on, all of them or one; maybe print the line. -/
  | substitute (p : Pattern) (replacement : List Replacement) (nth : Nat) (all prints : Bool)
  | transliterate (pairs : List (Char × Char))
  | delete
  | deleteFirst
  | print
  | printFirst
  | number
  /-- Print the buffer and take the next line. -/
  | next
  /-- Put the next line behind the buffer. -/
  | join
  /-- Take what is kept into the buffer, behind what it holds or instead of it. -/
  | recall (behind : Bool)
  /-- Keep the buffer, behind what is kept or instead of it. -/
  | keep (behind : Bool)
  | exchange
  | insert (text : List Char)
  | append (text : List Char)
  | change (text : List Char)
  | quit (quietly : Bool) (status : Nat)
  | openBlock
  | closeBlock
  | label (name : List Char)
  /-- Go to a label, or to the end: always, or only if something has or has not been replaced. -/
  | jump (name : List Char) (replaced : Option Bool)

structure Instruction where
  first : Option Address := none
  stop : Option Address := none
  negated : Bool := false
  action : Edit

def Replacement.value (kept : List (Nat × List Char)) (whole : List Char) : Replacement → List Char
  | .text chars => chars
  | .kept 0 => whole
  | .kept number => (kept.lookup number).getD []

/-- Replace matches from a position on; what stands before it comes last character first, and
`count` matches have been found there, the last of which ended at `border`. Nothing is matched once
more where a match has ended. The answer tells whether anything was replaced. -/
def replaceMatches (a : Pattern) (replacement : List Replacement) (nth : Nat) (all : Bool) :
    Nat → Nat → Option Nat → Bool → List Char → Position → List Char × Bool
  | 0, _, _, changed, before, p => (before.reverse ++ p.rest, changed)
  | fuel + 1, count, border, changed, before, p =>
    match a.search? before p with
    | none => (before.reverse ++ p.rest, changed)
    | some (before, s, e) =>
      let whole := s.rest.take (e.index - s.index)
      if whole.isEmpty && border == some s.index then
        match e.rest with
        | [] => (before.reverse, changed)
        | c :: rest =>
          replaceMatches a replacement nth all fuel count none changed (c :: before)
            ⟨e.index + 1, rest, []⟩
      else
        let replaced := nth ≤ count + 1
        let text := if replaced then replacement.flatMap (Replacement.value e.kept whole) else whole
        let changed := changed || replaced
        let before := text.reverse ++ before
        if replaced && ! all then (before.reverse ++ e.rest, changed)
        else if whole.isEmpty then
          match e.rest with
          | [] => (before.reverse, changed)
          | c :: rest =>
            replaceMatches a replacement nth all fuel (count + 1) none changed (c :: before)
              ⟨e.index + 1, rest, []⟩
        else
          replaceMatches a replacement nth all fuel (count + 1) (some e.index) changed before
            ⟨e.index, e.rest, []⟩

/-- Read up to a delimiter; a backslash takes its meaning from it. -/
def delimited (d : Char) (seen : List Char) : List Char → Option (List Char × List Char)
  | [] => none
  | '\\' :: c :: rest =>
    if c = d then delimited d (c :: seen) rest else delimited d (c :: '\\' :: seen) rest
  | c :: rest => if c = d then some (seen.reverse, rest) else delimited d (c :: seen) rest

def replacements (seen : List Replacement) : List Char → List Replacement
  | [] => seen.reverse
  | '\\' :: c :: rest =>
    if c.isDigit then replacements (.kept (c.toNat - '0'.toNat) :: seen) rest
    else if c = 'n' then replacements (.text ['\n'] :: seen) rest
    else if c = 't' then replacements (.text ['\t'] :: seen) rest
    else replacements (.text [c] :: seen) rest
  | '&' :: rest => replacements (.kept 0 :: seen) rest
  | c :: rest => replacements (.text [c] :: seen) rest

structure SubstituteFlags where
  all : Bool := false
  print : Bool := false
  anyCase : Bool := false
  nth : Nat := 1

def substituteFlags (f : SubstituteFlags) : Nat → List Char → SubstituteFlags × List Char
  | 0, text => (f, text)
  | fuel + 1, text =>
    match text with
    | 'g' :: rest => substituteFlags { f with all := true } fuel rest
    | 'p' :: rest => substituteFlags { f with print := true } fuel rest
    | 'i' :: rest | 'I' :: rest => substituteFlags { f with anyCase := true } fuel rest
    | c :: rest =>
      if c.isDigit then
        let (n, rest) := leadingNumber (c :: rest)
        substituteFlags { f with nth := n.getD 1 } fuel rest
      else (f, c :: rest)
    | [] => (f, [])

/-- What is wrong with an editing script: the characters that were left then, and the words for it.
-/
abbrev EditReading := Except (List Char × String)

def patternIn (s : Spelling) (text rest : List Char) : EditReading Pattern :=
  match Pattern.parse? s text with
  | some p => .ok p
  | none =>
    .error (rest,
      if text.contains '[' then "Unmatched [, [^, [:, [., or [=" else "Unmatched ( or \\(")

def readAddress (extended : Bool) (text : List Char) : EditReading (Option Address × List Char) :=
  match text with
  | '$' :: rest => .ok (some .last, rest)
  | '+' :: rest =>
    let (n, rest) := leadingNumber rest
    .ok (some (.behind (n.getD 0)), rest)
  | '/' :: rest => do
    match delimited '/' [] rest with
    | none => .error ([], "unterminated address regex")
    | some (text, rest) =>
      let (anyCase, rest) := match rest with
        | 'I' :: rest => (true, rest)
        | rest => (false, rest)
      return (some (.holding (← patternIn ⟨extended, anyCase⟩ text rest)), rest)
  | text =>
    match leadingNumber text with
    | (some n, rest) => .ok (some (.line n), rest)
    | (none, rest) => .ok (none, rest)

/-- A text in which backslashes before a backslash and before an `n` have their meaning. -/
def unescapeList (seen : List Char) : List Char → List Char
  | [] => seen.reverse
  | '\\' :: 'n' :: rest => unescapeList ('\n' :: seen) rest
  | '\\' :: '\\' :: rest => unescapeList ('\\' :: seen) rest
  | c :: rest => unescapeList (c :: seen) rest

def isGap (c : Char) : Bool :=
  c == ';' || c == '\n' || c == ' ' || c == '\t'

/-- Read the lines of a text up to one that no backslash continues; what has been read comes last
first. -/
def givenText (seen : List Char) : List Char → List Char × List Char
  | [] => (seen.reverse, [])
  | '\n' :: rest => (seen.reverse, rest)
  | '\\' :: c :: rest => givenText (c :: seen) rest
  | c :: rest => givenText (c :: seen) rest

def readText (made : List Char → Edit) (text : List Char) : EditReading (Edit × List Char) :=
  let start := text.dropWhile fun c => c == ' ' || c == '\t'
  match start with
  | [] => .error ([], "expected \\ after \x60a', \x60c' or \x60i'")
  | '\\' :: rest =>
    let (text, rest) := match rest.dropWhile fun c => c == ' ' || c == '\t' with
      | '\n' :: below => givenText [] below
      | _ => givenText [] rest
    .ok (made text, rest)
  | start =>
    let (text, rest) := givenText [] start
    .ok (made text, rest)

def readLabel (text : List Char) : List Char × List Char :=
  let start := text.dropWhile (· == ' ')
  let name := start.takeWhile fun c => ! (c == ';' || c == '\n' || c == '\x7d')
  (Text.trimEnd (· == ' ') name, start.drop name.length)

def readAction (extended : Bool) (text : List Char) : EditReading (Edit × List Char) :=
  let numbered (made : Nat → Edit) (rest : List Char) : EditReading (Edit × List Char) :=
    let (n, rest) := leadingNumber (rest.dropWhile (· == ' '))
    .ok (made (n.getD 0), rest)
  let named (made : List Char → Edit) (rest : List Char) : EditReading (Edit × List Char) :=
    let (name, rest) := readLabel rest
    .ok (made name, rest)
  match text with
  | [] => .error ([], "missing command")
  | 's' :: rest =>
    let found := do
      let d ← rest.head?
      let (text, rest) ← delimited d [] (rest.drop 1)
      let (replacement, rest) ← delimited d [] rest
      return (text, replacement, rest)
    match found with
    | none => .error ([], "unterminated \x60s' command")
    | some (text, replacement, rest) =>
      let (f, rest) := substituteFlags {} (rest.length + 1) rest
      match rest with
      | c :: after =>
        if isGap c || c == '\x7d' || c == '#' then do
          let p ← patternIn ⟨extended, f.anyCase⟩ text rest
          return (.substitute p (replacements [] replacement) f.nth f.all f.print, rest)
        else .error (after, "unknown option to \x60s'")
      | [] => do
        let p ← patternIn ⟨extended, f.anyCase⟩ text rest
        return (.substitute p (replacements [] replacement) f.nth f.all f.print, rest)
  | 'y' :: rest =>
    let found := do
      let d ← rest.head?
      let (source, rest) ← delimited d [] (rest.drop 1)
      let (target, rest) ← delimited d [] rest
      return (unescapeList [] source, unescapeList [] target, rest)
    match found with
    | none => .error ([], "unterminated \x60y' command")
    | some (source, target, rest) =>
      if source.length = target.length then .ok (.transliterate (source.zip target), rest)
      else .error (rest, "strings for \x60y' command are different lengths")
  | 'd' :: rest => .ok (.delete, rest)
  | 'D' :: rest => .ok (.deleteFirst, rest)
  | 'p' :: rest => .ok (.print, rest)
  | 'P' :: rest => .ok (.printFirst, rest)
  | '=' :: rest => .ok (.number, rest)
  | 'n' :: rest => .ok (.next, rest)
  | 'N' :: rest => .ok (.join, rest)
  | 'g' :: rest => .ok (.recall false, rest)
  | 'G' :: rest => .ok (.recall true, rest)
  | 'h' :: rest => .ok (.keep false, rest)
  | 'H' :: rest => .ok (.keep true, rest)
  | 'x' :: rest => .ok (.exchange, rest)
  | 'i' :: rest => readText .insert rest
  | 'a' :: rest => readText .append rest
  | 'c' :: rest => readText .change rest
  | 'q' :: rest => numbered (.quit false) rest
  | 'Q' :: rest => numbered (.quit true) rest
  | '\x7b' :: rest => .ok (.openBlock, rest)
  | '\x7d' :: rest => .ok (.closeBlock, rest)
  | ':' :: rest => named .label rest
  | 'b' :: rest => named (.jump · none) rest
  | 't' :: rest => named (.jump · (some true)) rest
  | 'T' :: rest => named (.jump · (some false)) rest
  | c :: rest => .error (rest, s!"unknown command: \x60{c}'")

/-- Whether an instruction needs nothing between it and the next one. -/
def Edit.standsByItself : Edit → Bool
  | .openBlock | .closeBlock | .insert _ | .append _ | .change _ | .label _ => true
  | _ => false

/-- Read the instructions of an editing script behind those already read, the last one first; so
many blocks are open. -/
def readInstructions (extended : Bool) : Nat → Nat → List Instruction → List Char →
    EditReading (List Instruction)
  | 0, _, _, text => .error (text, "missing command")
  | fuel + 1, depth, seen, text =>
    match text.dropWhile isGap with
    | [] => if depth = 0 then .ok seen.reverse else .error (text, "unmatched \x60\x7b'")
    | '#' :: rest => readInstructions extended fuel depth seen (rest.dropWhile (· ≠ '\n'))
    | text => do
      let (first, rest) ← readAddress extended text
      let (stop, rest) ← match first, rest with
        | some _, ',' :: rest => do
          match ← readAddress extended (rest.dropWhile isGap) with
          | (none, rest) => .error (rest.drop 1, "unexpected \x60,'")
          | found => .ok found
        | _, rest => .ok (none, rest)
      let rest := rest.dropWhile (· == ' ')
      let (negated, rest) := match rest with
        | '!' :: rest => (true, rest.dropWhile (· == ' '))
        | rest => (false, rest)
      let (action, rest) ← readAction extended rest
      let depth ← match action with
        | .openBlock => .ok (depth + 1)
        | .closeBlock =>
          if depth = 0 then .error (rest, "unexpected \x60\x7d'") else .ok (depth - 1)
        | _ => .ok depth
      let seen := ⟨first, stop, negated, action⟩ :: seen
      match rest.dropWhile (· == ' ') with
      | [] => readInstructions extended fuel depth seen []
      | c :: after =>
        if action.standsByItself then readInstructions extended fuel depth seen rest
        else if isGap c || c == '\x7d' || c == '#' then
          readInstructions extended fuel depth seen (c :: after)
        else .error (after, "extra characters after command")

/-- The instructions of an editing script, or what is wrong with it and at which character. -/
def instructions (extended : Bool) (script : List Char) :
    Except (Nat × String) (List Instruction) :=
  match readInstructions extended (2 * script.length + 2) 0 [] script with
  | .ok found => .ok found
  | .error (rest, words) =>
    .error (if words.startsWith "unmatched" then 0 else script.length - rest.length, words)

structure EditRun where
  /-- The buffer. -/
  buffer : List Char := []
  /-- What is kept beside it. -/
  kept : List Char := []
  /-- The lines that have not been taken. -/
  lines : List (List Char)
  /-- The number of the line taken last. -/
  number : Nat := 0
  /-- What has been printed, the last text first, and whether a line feed ends it. -/
  printed : List (List Char × Bool) := []
  /-- What is to be printed behind the line, the last text first. -/
  waiting : List (List Char) := []
  /-- The instructions whose ranges have begun, with the numbers of the lines they began at. -/
  inside : List (Nat × Nat) := []
  /-- Something has been replaced in the line. -/
  replaced : Bool := false
  status : Nat := 0

namespace EditRun

def print (unended : Bool) (text : List Char) (r : EditRun) : EditRun :=
  { r with printed := (text, ! (unended && r.lines.isEmpty)) :: r.printed }

def printLine (text : List Char) (r : EditRun) : EditRun :=
  { r with printed := (text, true) :: r.printed }

/-- Print what is to be printed behind the line. -/
def flush (r : EditRun) : EditRun :=
  { r with printed := r.waiting.map (·, true) ++ r.printed, waiting := [] }

def selects (r : EditRun) : Address → Bool
  | .line n => n == r.number
  | .behind _ => false
  | .last => r.lines.isEmpty
  | .holding p => (p.search? [] ⟨0, r.buffer, []⟩).isSome

/-- Whether an instruction acts on the line, what becomes of its range, and whether the line is the
last one of it. -/
def acts (r : EditRun) (place : Nat) (i : Instruction) : Bool × EditRun × Bool :=
  let others := r.inside.filter (·.1 ≠ place)
  let leave (selected : Bool) := (selected != i.negated, { r with inside := others }, true)
  let stay (start : Nat) :=
    (! i.negated, { r with inside := (place, start) :: others }, r.lines.isEmpty)
  match i.first, i.stop with
  | none, _ => leave true
  | some a, none => leave (r.selects a)
  | some a, some b =>
    match r.inside.lookup place with
    | some start =>
      match b with
      | .line n =>
        if r.number < n then stay start
        else if r.number = n then leave true
        else leave (r.selects a)
      | .behind n => if r.number < start + n then stay start else leave true
      | b => if r.selects b then leave true else stay start
    | none =>
      if ! r.selects a then (i.negated, r, true)
      else
        match b with
        | .line n => if n ≤ r.number then leave true else stay r.number
        | .behind n => if n = 0 then leave true else stay r.number
        | .last => if r.lines.isEmpty then leave true else stay r.number
        | .holding _ => stay r.number

end EditRun

/-- What happens behind an instruction. -/
inductive EditFlow where
  | goOn
  | jump (name : List Char)
  /-- The instructions are done with the line; it is printed or not. -/
  | done (prints : Bool)
  /-- The instructions start again on what is in the buffer. -/
  | restart
  /-- The run ends; the line is printed or not. -/
  | ended (prints : Bool)

/-- Carry out what an instruction does; `last` tells that the line is the last one of its range. -/
def Edit.perform (quiet unended last : Bool) (r : EditRun) : Edit → EditRun × EditFlow
  | .delete => (r, .done false)
  | .deleteFirst =>
    match r.buffer.dropWhile (· ≠ '\n') with
    | _ :: rest => ({ r with buffer := rest }, .restart)
    | [] => (r, .done false)
  | .print => (r.print unended r.buffer, .goOn)
  | .printFirst => (r.printLine (r.buffer.takeWhile (· ≠ '\n')), .goOn)
  | .number => (r.printLine (toString r.number).toList, .goOn)
  | .next =>
    match r.lines with
    | [] => (r, .ended true)
    | line :: rest =>
      let r := (if quiet then r else r.print unended r.buffer).flush
      ({ r with buffer := line, lines := rest, number := r.number + 1 }, .goOn)
  | .join =>
    match r.lines with
    | [] => (r, .ended true)
    | line :: rest =>
      let r := r.flush
      ({ r with buffer := r.buffer ++ '\n' :: line, lines := rest, number := r.number + 1 }, .goOn)
  | .recall behind =>
    ({ r with buffer := if behind then r.buffer ++ '\n' :: r.kept else r.kept }, .goOn)
  | .keep behind =>
    ({ r with kept := if behind then r.kept ++ '\n' :: r.buffer else r.buffer }, .goOn)
  | .exchange => ({ r with buffer := r.kept, kept := r.buffer }, .goOn)
  | .insert text => (r.printLine text, .goOn)
  | .append text => ({ r with waiting := text :: r.waiting }, .goOn)
  | .change text => (if last then r.printLine text else r, .done false)
  | .quit quietly status => ({ r with status := status }, .ended (! quietly))
  | .transliterate pairs =>
    ({ r with buffer := r.buffer.map fun c => (pairs.lookup c).getD c }, .goOn)
  | .substitute p replacement nth all prints =>
    let (text, changed) :=
      replaceMatches p replacement nth all (2 * r.buffer.length + 2) 0 none false []
        ⟨0, r.buffer, []⟩
    let r := { r with buffer := text, replaced := r.replaced || changed }
    (if changed && prints then r.print unended text else r, .goOn)
  | .openBlock | .closeBlock | .label _ => (r, .goOn)
  | .jump name none => (r, .jump name)
  | .jump name (some wanted) =>
    if r.replaced = wanted then ({ r with replaced := false }, .jump name)
    else ({ r with replaced := false }, .goOn)

/-- The instructions behind the end of a block in which so many blocks are open. -/
def behindBlock : Nat → List (Nat × Instruction) → List (Nat × Instruction)
  | _, [] => []
  | depth, (_, i) :: rest =>
    match i.action with
    | .openBlock => behindBlock (depth + 1) rest
    | .closeBlock => if depth = 0 then rest else behindBlock (depth - 1) rest
    | _ => behindBlock depth rest

/-- The instructions behind a label. -/
def behindLabel (name : List Char) : List (Nat × Instruction) → List (Nat × Instruction)
  | [] => []
  | (_, i) :: rest =>
    match i.action with
    | .label other => if other = name then rest else behindLabel name rest
    | _ => behindLabel name rest

/-- Carry out instructions on the lines of a text, those left for the line at hand and then all of
them for each of the next. -/
def editLines (quiet unended : Bool) (all : List (Nat × Instruction)) :
    Nat → EditRun → List (Nat × Instruction) → EditRun
  | 0, r, _ => r
  | fuel + 1, r, left =>
    let finish (prints : Bool) (r : EditRun) : EditRun :=
      (if prints && ! quiet then r.print unended r.buffer else r).flush
    let following (r : EditRun) : EditRun :=
      match r.lines with
      | [] => r
      | line :: rest =>
        editLines quiet unended all fuel
          { r with buffer := line, lines := rest, number := r.number + 1, replaced := false } all
    match left with
    | [] => following (finish true r)
    | (n, i) :: rest =>
      let (acts, r, last) := r.acts n i
      if ! acts then
        let rest := match i.action with
          | .openBlock => behindBlock 0 rest
          | _ => rest
        editLines quiet unended all fuel r rest
      else
        match i.action.perform quiet unended last r with
        | (r, .goOn) => editLines quiet unended all fuel r rest
        | (r, .jump name) =>
          editLines quiet unended all fuel r (if name.isEmpty then [] else behindLabel name all)
        | (r, .done prints) => following (finish prints r)
        | (r, .restart) => editLines quiet unended all fuel r.flush all
        | (r, .ended prints) => finish prints r

/-- A text edited by a script, and the status that the script ends with. -/
def edited (quiet : Bool) (script : List Instruction) (text : List Char) : List Char × Nat :=
  let (lines, unended) := linesOf text
  match lines with
  | [] => ([], 0)
  | line :: rest =>
    let all := script.zipIdx.map fun (i, n) => (n, i)
    let fuel := 64 * (lines.length + 2) * (script.length + 2)
    let r := editLines quiet unended all fuel { buffer := line, lines := rest, number := 1 } all
    let body := Text.join ['\n'] (r.printed.reverse.map (·.1))
    let ended := (r.printed.head?.map (·.2)).getD false
    (if ended then body ++ ['\n'] else body, r.status)

end SchemaFormat.Shell
