import SchemaFormat.Shell.Edit
import SchemaFormat.Shell.Printf
import SchemaFormat.Shell.Tool.Basic
import SchemaFormat.Shell.Transliterate

/-!
The programs that print, count and choose lines and characters.

Each reads the files that its arguments name, or else its standard input. A last line without a line
feed stays without one where lines are printed as they are.
-/

namespace SchemaFormat.Shell.Tool

/-- A character in a form that can be shown; tabs and line feeds stay. -/
def visible (c : Char) : List Char :=
  let low (n : Nat) : List Char :=
    if n = 127 then ['^', '?'] else if n < 32 then ['^', Char.ofNat (n + 64)] else [Char.ofNat n]
  if c = '\t' ∨ c = '\n' then [c]
  else if c.toNat < 128 then low c.toNat
  else 'M' :: '-' :: low (c.toNat - 128)

/-- Lines of which only the first of several empty ones next to each other stays. -/
def squeezedLines (lines : List (List Char)) : List (List Char) :=
  (lines.foldl
    (fun seen l => if l.isEmpty && seen.head? == some [] then seen else l :: seen) []).reverse

/-- A text with numbers in front of its lines and with characters in forms that can be shown, as
options ask for. -/
def shownText (o : Options) (text : List Char) : List Char :=
  let hidden := ['v', 'A', 'e', 't'].any o.has
  let ends := ['E', 'A', 'e'].any o.has
  let tabs := ['T', 'A', 't'].any o.has
  let (lines, unended) := linesOf text
  let lines := if o.has 's' then squeezedLines lines else lines
  let (made, _) := lines.foldl
    (fun (seen, n) line =>
      let numbered := (o.has 'n' && ! o.has 'b') || (o.has 'b' && ! line.isEmpty)
      let before :=
        if numbered then padded { width := 6 } false [] (toString n).toList ++ ['\t'] else []
      let shown := line.flatMap fun c =>
        if tabs && c == '\t' then ['^', 'I'] else if hidden then visible c else [c]
      ((before ++ shown) :: seen, if numbered then n + 1 else n))
    (([] : List (List Char)), 1)
  let stop := if ends then ['$', '\n'] else ['\n']
  let body := Text.join stop made.reverse
  if lines.isEmpty then [] else if unended then body else body ++ stop

def cat (args : List (List Char)) : Action Nat :=
  withOptions "cat" 1 "AbeEnstTuv" "" args fun o => do
    let (found, status) ← sources o.operands (aboutName "cat" "")
    let text := found.flatMap fun (_, source) => source.chars
    let written ← emit "cat" (if o.flags.any (·.1 != 'u') then shownText o text else text)
    if ((← get).channel? 0).isNone then
      complain s!"cat: closing standard input: {SystemFault.badDescriptor.words}"
    return max status written

def counts (text : List Char) : Nat × Nat × Nat :=
  (text.count '\n', (Text.words text).length, text.length)

def wc (args : List (List Char)) : Action Nat :=
  withOptions "wc" 1 "clLmw" "" args fun o => do
    let all := ! (o.has 'l' || o.has 'w' || o.has 'c' || o.has 'm')
    let several := all || 1 < (['l', 'w', 'c', 'm'].filter o.has).length
    let (found, status) ← sources o.operands (aboutName "wc" "")
    let counted := found.map fun (name, source) => (name, counts source.chars)
    let total := counted.foldl
      (fun (l, w, c) (_, l', w', c') => (l + l', w + w', c + c')) (0, 0, 0)
    let known := found.all fun (name, _) => name.isSome && name != some ['-']
    let width := if ! several && o.operands.length ≤ 1 then 0
      else if known then (toString total.2.2).length else 7
    let line (l w c : Nat) (name : Option (List Char)) : Action Unit := do
      let numbers := (if all || o.has 'l' then [l] else []) ++
        (if all || o.has 'w' then [w] else []) ++ (if o.has 'm' then [c] else []) ++
        (if all || o.has 'c' then [c] else [])
      let shown := numbers.map fun n => padded { width := width } false [] (toString n).toList
      let tail := match name with
        | some name => ' ' :: name
        | none => []
      let _ ← emit "wc" (Text.join [' '] shown ++ tail ++ ['\n'])
    counted.forM fun (name, l, w, c) => line l w c name
    if 1 < o.operands.length then line total.1 total.2.1 total.2.2 (some "total".toList)
    return status

def firstLines (n : Nat) (text : List Char) : List Char :=
  let (lines, unended) := linesOf text
  if lines.length ≤ n then text
  else if unended && n == lines.length then text
  else (lines.take n).flatMap (· ++ ['\n'])

/-- How many bytes a reader takes at a time. -/
def block : Nat := 8192

def blocks (size n : Nat) : Nat :=
  (n + size - 1) / size * size

/-- How many a text stands for: a number and a unit. -/
def amount? (text : List Char) : Option Nat :=
  match leadingNumber text with
  | (some n, unit) =>
    let factor : Option Nat := match String.ofList unit with
      | "" => some 1
      | "b" => some 512
      | "k" | "K" | "KiB" => some 1024
      | "kB" | "KB" => some 1000
      | "M" | "MiB" => some (Nat.pow 1024 2)
      | "MB" => some (Nat.pow 1000 2)
      | "G" | "GiB" => some (Nat.pow 1024 3)
      | _ => none
    factor.map (n * ·)
  | (none, _) => none

/-- An amount with a sign in front of it. -/
def signedAmount? (text : List Char) : Option (Option Char × Nat) :=
  match text with
  | c :: rest =>
    if c = '-' ∨ c = '+' then (amount? rest).map fun n => (some c, n)
    else (amount? text).map fun n => (none, n)
  | [] => none

/-- How much of a file is wanted: bytes or lines, and an amount with a sign; else the value of the
option that gives none. -/
def extent (o : Options) : Except (String × List Char) (Bool × Option Char × Nat) :=
  match o.flags.reverse.find? fun (c, _) => c == 'c' || c == 'n' with
  | none => .ok (false, none, 10)
  | some (c, value) =>
    match signedAmount? value with
    | some (sign, n) => .ok (c == 'c', sign, n)
    | none => .error (if c = 'c' then "bytes" else "lines", value)

def complainAmount (tool : String) (what : String) (value : List Char) : Action Nat := do
  complainOf [s!"{tool}: invalid number of {what}: ".toList, quotedName value]
  return 1

/-- A first argument that is a dash and a number becomes an option. -/
def dashNumber (args : List (List Char)) : List (List Char) :=
  match args with
  | ('-' :: c :: rest) :: others => if c.isDigit then ['-', 'n'] :: (c :: rest) :: others else args
  | args => args

/-- All but the last lines of a text. -/
def withoutLast (n : Nat) (text : List Char) : List Char :=
  let (lines, _) := linesOf text
  if n = 0 then text else firstLines (lines.length - n) text

/-- The first lines or bytes, or all but the last ones. -/
def head (args : List (List Char)) : Action Nat :=
  withOptions "head" 1 "qvz" "cn" (dashNumber args) fun o => do
    match extent o with
    | .error (what, value) => complainAmount "head" what value
    | .ok (bytes, sign, n) =>
      let cut (source : Source) : List Char :=
        match source with
        | .text text =>
          match bytes, sign with
          | true, some '-' => text.take (text.length - n)
          | true, _ => text.take n
          | false, some '-' => withoutLast n text
          | false, _ => firstLines n text
        | .endless text =>
          let lines := text.count '\n'
          if bytes then source.take n
          else firstLines n (source.take (if lines = 0 then 0 else (n / lines + 1) * text.length))
      if o.operands.isEmpty || o.operands == [['-']] then
        let source ← takeWith 0 fun text =>
          if sign = some '-' then (text, [])
          else if bytes then (text.take n, text.drop n)
          else
            let taken := (firstLines n text).length
            (text.take (blocks block taken), text.drop (blocks block taken))
        emit "head" (cut source)
      else
        let (found, status) ←
          sources o.operands (aboutQuoted "head" "cannot open " · " for reading" ·)
        found.zipIdx.forM fun ((name, source), i) => do
          if (1 < o.operands.length || o.has 'v') && ! o.has 'q' then
            let _ ← emit "head" ((if i = 0 then [] else ['\n']) ++
              "==> ".toList ++ name.getD [] ++ " <==\n".toList)
          let _ ← emit "head" (cut source)
        return status

/-- The last lines or bytes, or all from one on. -/
def tail (args : List (List Char)) : Action Nat :=
  withOptions "tail" 1 "fFqvz" "cns" (dashNumber args) fun o => do
    match extent o with
    | .error (what, value) => complainAmount "tail" what value
    | .ok (bytes, sign, n) =>
      let cut (text : List Char) : List Char :=
        let sizes := (linesOf text).1.map fun l => l.length + 1
        if bytes then if sign = some '+' then text.drop (n - 1) else text.drop (text.length - n)
        else if sign = some '+' then text.drop ((sizes.take (n - 1)).foldl (· + ·) 0)
        else text.drop ((sizes.take (sizes.length - n)).foldl (· + ·) 0)
      let (found, status) ← sources o.operands
          (aboutQuoted "tail" "cannot open " · " for reading" ·)
      found.zipIdx.forM fun ((name, source), i) => do
        if (1 < o.operands.length || o.has 'v') && ! o.has 'q' then
          let _ ← emit "tail" ((if i = 0 then [] else ['\n']) ++
            "==> ".toList ++ name.getD [] ++ " <==\n".toList)
        let _ ← emit "tail" (cut source.chars)
      return status

def tr (args : List (List Char)) : Action Nat :=
  withOptions "tr" 1 "cCdst" "" args fun o => do
    let complement := o.has 'c' || o.has 'C'
    let least := if o.has 'd' == o.has 's' then 2 else 1
    let most := if o.has 'd' && ! o.has 's' then 1 else 2
    match o.operands with
    | [] =>
      complainHelp "tr" ["missing operand".toList]
      return 1
    | first :: others =>
      if o.operands.length < least then
        complainOf ["tr: missing operand after ".toList, quotedName first]
        complain
          (if o.has 'd' then "Two strings must be given when both deleting and squeezing repeats."
          else "Two strings must be given when translating.")
        complain "Try 'tr --help' for more information."
        return 1
      else if most < o.operands.length then
        complainOf ["tr: extra operand ".toList, quotedName ((o.operands.drop most).head?.getD [])]
        if o.operands.length = 2 then
          complain "Only one string may be given when deleting without squeezing repeats."
        complain "Try 'tr --help' for more information."
        return 1
      else
        let source := charactersIn first
        let inSource := ((List.range 256).map fun n => source.contains (Char.ofNat n)).toArray
        let among (c : Char) : Bool := inSource[c.toNat]?.getD false != complement
        let text := (← takeAll 0).chars
        let target := charactersIn (others.head?.getD [])
        if o.has 'd' then
          let kept := text.filter (! among ·)
          emit "tr" (if o.has 's' then squeezed target.contains kept else kept)
        else if others.isEmpty then emit "tr" (squeezed among text)
        else if target.isEmpty then
          complain "tr: when not truncating set1, string2 must be non-empty"
          return 1
        else
          let made := if complement then
              text.map fun c => if among c then target.getLast?.getD c else c
            else
              let table := replacedBy source target
              text.map fun c => table[c.toNat]?.getD c
          emit "tr" (if o.has 's' then squeezed target.contains made else made)

def sed (args : List (List Char)) : Action Nat :=
  withOptions "sed" 1 "nErsuz" "efl" args fun o => do
    let written := o.flags.filterMap fun (c, value) => if c = 'e' then some value else none
    let (script, operands) := match written, o.operands with
      | [], script :: operands => (script, operands)
      | [], [] => ([], [])
      | scripts, operands => (Text.join ['\n'] scripts, operands)
    match instructions (o.has 'E' || o.has 'r') script with
    | .error (place, words) =>
      complainOf [s!"sed: -e expression #1, char {place}: ".toList, (Bytes.ofString words).units]
      return 1
    | .ok found =>
      let (text, status) ← allText operands (about "sed" "can't read " · "" ·)
      let (made, wanted) := edited (o.has 'n') found text
      let _ ← emit "sed" made
      return if wanted ≠ 0 then wanted else if status = 0 then 0 else 2

/-- The number that a line begins with: blanks, a sign and digits. -/
def lineNumber (line : List Char) : Int :=
  let start := line.dropWhile fun c => c == ' ' || c == '\t'
  let (negative, digits) := match start with
    | '-' :: rest => (true, rest)
    | rest => (false, rest)
  let n : Int := ((leadingNumber digits).1.getD 0 : Nat)
  if negative then -n else n

/-- Sort lines by their bytes, or first by the numbers they begin with. -/
def sort (args : List (List Char)) : Action Nat :=
  withOptions "sort" 2 "bdfghiMnRrVcCmsuz" "koStT" args fun o => do
    let (text, status) ← allText o.operands (aboutName "sort" "cannot read: ")
    let upper (l : List Char) := if o.has 'f' then l.map Char.toUpper else l
    let before (a b : List Char) : Bool :=
      if o.has 'n' && lineNumber a != lineNumber b then lineNumber a < lineNumber b
      else if upper a != upper b then Text.precedes (upper a) (upper b)
      else ! Text.precedes b a
    let same (a b : List Char) : Bool :=
      if o.has 'n' then lineNumber a == lineNumber b else upper a == upper b
    let sorted := (linesOf text).1.mergeSort fun a b => if o.has 'r' then before b a else before a b
    let lines := if o.has 'u' then
        (sorted.foldl
          (fun seen l => if seen.head?.any (same l) then seen else l :: seen) []).reverse
      else sorted
    let _ ← emit "sort" (lines.flatMap (· ++ ['\n']))
    return if status = 0 then 0 else 2

/-- Put lines that are the same as the one before together, and count them. -/
def uniq (args : List (List Char)) : Action Nat :=
  withOptions "uniq" 1 "cdDiuz" "fsw" args fun o => do
    let (text, status) ← allText o.operands (aboutName "uniq" "")
    let same (a b : List Char) : Bool :=
      if o.has 'i' then a.map Char.toLower == b.map Char.toLower else a == b
    let groups := (linesOf text).1.foldl
      (fun seen l =>
        match seen with
        | (first, n) :: rest => if same first l then (first, n + 1) :: rest else (l, 1) :: seen
        | [] => [(l, 1)])
      ([] : List (List Char × Nat))
    let shown := groups.reverse.filter fun (_, n) =>
      (! o.has 'd' || 1 < n) && (! o.has 'u' || n == 1)
    let _ ← emit "uniq" (shown.flatMap fun (l, n) =>
      let before :=
        if o.has 'c' then padded { width := 7 } false [] (toString n).toList ++ [' '] else []
      before ++ l ++ ['\n'])
    return status

def tac (args : List (List Char)) : Action Nat :=
  withOptions "tac" 1 "br" "s" args fun o => do
    let (text, status) ← allText o.operands (aboutQuoted "tac" "failed to open " · " for reading" ·)
    let (lines, unended) := linesOf text
    let made := match lines.reverse with
      | [] => []
      | last :: rest => last ++ (if unended then [] else ['\n']) ++ rest.flatMap (· ++ ['\n'])
    let _ ← emit "tac" made
    return status

def rev (args : List (List Char)) : Action Nat :=
  withOptions "rev" 1 "" "" args fun o => do
    let (text, status) ← allText o.operands (about "rev" "cannot open " · "" ·)
    let (lines, unended) := linesOf text
    let body := Text.join ['\n'] (lines.map List.reverse)
    let _ ← emit "rev" (if lines.isEmpty then [] else if unended then body else body ++ ['\n'])
    return status

/-- A list of places: single ones and stretches, of which either end may be left open. -/
def places? (text : List Char) : Option (List (Nat × Option Nat)) :=
  (Text.split (· == ',') text).mapM fun part =>
    match leadingNumber part with
    | (some n, []) => if n = 0 then none else some (n, some n)
    | (some n, ['-']) => if n = 0 then none else some (n, none)
    | (some n, '-' :: rest) =>
      match leadingNumber rest with
      | (some m, []) => if n = 0 ∨ m < n then none else some (n, some m)
      | _ => none
    | (none, '-' :: rest) =>
      match leadingNumber rest with
      | (some m, []) => some (1, some m)
      | _ => none
    | _ => none

def atPlaces {α : Type} (places : List (Nat × Option Nat)) (members : List α) : List α :=
  (members.zipIdx 1).filterMap fun (a, n) =>
    if places.any fun (low, high) => low ≤ n && high.all (n ≤ ·) then some a else none

/-- Print parts of lines: bytes, or fields that a character separates. -/
def cut (args : List (List Char)) : Action Nat :=
  withOptions "cut" 1 "nsz" "bcdf" args fun o => do
    let chosen := o.flags.filter fun (c, _) => c == 'b' || c == 'c' || c == 'f'
    match chosen with
    | [] =>
      complainHelp "cut" ["you must specify a list of bytes, characters, or fields".toList]
      return 1
    | (kind, list) :: _ =>
      match places? list with
      | none =>
        complainHelp "cut" [if kind = 'f' then "invalid field value ".toList
          else "invalid byte/character position ".toList, quotedName list]
        return 1
      | some places =>
        let between := ((o.value? 'd').bind List.head?).getD '\t'
        let (text, status) ← allText o.operands (aboutName "cut" "")
        let _ ← emit "cut" ((linesOf text).1.flatMap fun line =>
          if kind ≠ 'f' then atPlaces places line ++ ['\n']
          else if line.contains between then
            Text.join [between] (atPlaces places (Text.split (· == between) line)) ++ ['\n']
          else if o.has 's' then []
          else line ++ ['\n'])
        return status

/-- Print lines with numbers in front of those that are not empty. -/
def nl (args : List (List Char)) : Action Nat :=
  withOptions "nl" 1 "p" "bdfhilnsvw" args fun o => do
    let (text, status) ← allText o.operands (aboutName "nl" "")
    let all := o.value? 'b' == some ['a']
    let (made, _) := (linesOf text).1.foldl
      (fun (seen, n) line =>
        if line.isEmpty && ! all then (List.replicate 7 ' ' :: seen, n)
        else ((padded { width := 6 } false [] (toString n).toList ++ '\t' :: line) :: seen, n + 1))
      (([] : List (List Char)), 1)
    let _ ← emit "nl" (made.reverse.flatMap (· ++ ['\n']))
    return status

end SchemaFormat.Shell.Tool
