import SchemaFormat.Text.Digits
import SchemaFormat.Text.Utf8

/-!
Patterns of text, as line editors and searchers write them.

A pattern is matched from a position on and may end at several; the longest match counts, and of all
positions the first that has one. In the plain spelling parentheses, braces, bars, plus signs and
question marks mean themselves unless a backslash stands before them; in the extended spelling it is
the other way round. Texts are taken byte by byte, a byte being the character of its number.
-/

namespace SchemaFormat

def Bytes.units (bytes : Bytes) : List Char :=
  bytes.map fun b => Char.ofNat b.toNat

def Bytes.ofUnits (text : List Char) : Bytes :=
  text.map fun c => UInt8.ofNat c.toNat

namespace Shell

/-- A class of characters: those in one of some ranges, or those in none of them. -/
structure CharClass where
  ranges : List (Char × Char)
  outside : Bool := false
  deriving Repr

def CharClass.holds (k : CharClass) (c : Char) : Bool :=
  k.ranges.any (fun (low, high) => low ≤ c && c ≤ high) != k.outside

inductive Pattern where
  | nothing
  | one (k : CharClass)
  /-- The start of the line. -/
  | start
  /-- The end of the line. -/
  | stop
  | pair (first second : Pattern)
  | either (first second : Pattern)
  /-- At least so many and at most so many matches one after the other. -/
  | many (least : Nat) (most : Option Nat) (p : Pattern)
  /-- What it matches is kept under a number. -/
  | group (number : Nat) (p : Pattern)
  /-- What is kept under a number once more. -/
  | again (number : Nat)

/-- A position in a line and what has been kept on the way there. -/
structure Position where
  index : Nat
  rest : List Char
  kept : List (Nat × List Char) := []
  deriving Repr

def namedClass? (name : List Char) : Option (List (Char × Char)) :=
  match String.ofList name with
  | "space" => some [('\t', '\r'), (' ', ' ')]
  | "blank" => some [('\t', '\t'), (' ', ' ')]
  | "digit" => some [('0', '9')]
  | "upper" => some [('A', 'Z')]
  | "lower" => some [('a', 'z')]
  | "alpha" => some [('A', 'Z'), ('a', 'z')]
  | "alnum" => some [('0', '9'), ('A', 'Z'), ('a', 'z')]
  | "punct" => some [('!', '/'), (':', '@'), ('[', '\x60'), ('\x7b', '~')]
  | "print" => some [(' ', '~')]
  | "graph" => some [('!', '~')]
  | "cntrl" => some [('\x00', '\x1f'), ('\x7f', '\x7f')]
  | "xdigit" => some [('0', '9'), ('A', 'F'), ('a', 'f')]
  | _ => none

/-- Positions without those that stand at the same place as an earlier one. -/
def distinct (found : List Position) : List Position :=
  (found.foldl
    (fun seen p => if seen.any (·.index == p.index) then seen else p :: seen) []).reverse

/-- The characters that a class takes one after the other from a position on; the furthest end
first. -/
def stretch (k : CharClass) (left : Option Nat) (seen : List Position)
    (p : Position) : List Position :=
  match p, left with
  | _, some 0 => p :: seen
  | ⟨_, [], _⟩, _ => p :: seen
  | ⟨index, c :: rest, kept⟩, left =>
    if k.holds c then stretch k (left.map (· - 1)) (p :: seen) ⟨index + 1, rest, kept⟩
    else p :: seen
termination_by p.rest.length

/-- Where matches of a pattern from a position on end. The bound is on how often a part is repeated.
-/
def Pattern.ends (bound : Nat) : Pattern → Position → List Position
  | .nothing, p => [p]
  | .one k, p =>
    match p.rest with
    | c :: rest => if k.holds c then [⟨p.index + 1, rest, p.kept⟩] else []
    | [] => []
  | .start, p => if p.index = 0 then [p] else []
  | .stop, p => if p.rest.isEmpty then [p] else []
  | .pair a b, p => (a.ends bound p).flatMap (b.ends bound)
  | .either a b, p => a.ends bound p ++ b.ends bound p
  | .many least most (.one k), p =>
    (stretch k most [] p).filter fun e => p.index + least ≤ e.index
  | .many least most a, p =>
    let step := fun (found : List Position × List Position × Nat) (_ : Nat) =>
      let (done, last, count) := found
      if last.isEmpty || most.any (· ≤ count) then (done, [], count)
      else
        let next := distinct
          ((last.flatMap (a.ends bound)).filter fun e => ! done.any (·.index == e.index))
        (if least ≤ count + 1 then next ++ done else done, next, count + 1)
    ((List.range (min bound (p.rest.length + least + 1))).foldl step
      (if least = 0 then [p] else [], [p], 0)).1
  | .group number a, p =>
    (a.ends bound p).map fun e =>
      { e with kept := (number, p.rest.take (e.index - p.index)) :: e.kept }
  | .again number, p =>
    match p.kept.lookup number with
    | none => []
    | some text =>
      if text.isPrefixOf p.rest then [⟨p.index + text.length, p.rest.drop text.length, p.kept⟩]
      else []

/-- The longest of some matches, the first of those equally long. -/
def longest? : List Position → Option Position
  | [] => none
  | p :: ps => some (ps.foldl (fun best e => if best.index < e.index then e else best) p)

def Pattern.matchAt? (a : Pattern) (p : Position) : Option Position :=
  longest? (a.ends 1000 p)

/-- The first match from a position on: the characters before it, the last one first, and where it
starts and ends. -/
def Pattern.search? (a : Pattern) (before : List Char) (p : Position) :
    Option (List Char × Position × Position) :=
  match a.matchAt? p with
  | some e => some (before, p, e)
  | none =>
    match p with
    | ⟨_, [], _⟩ => none
    | ⟨index, c :: rest, kept⟩ => a.search? (c :: before) ⟨index + 1, rest, kept⟩
termination_by p.rest.length

def Pattern.char (c : Char) : Pattern :=
  .one ⟨[(c, c)], false⟩

/-- A character, letters in either case. -/
def Pattern.anyCase (c : Char) : Pattern :=
  .one ⟨[(c.toLower, c.toLower), (c.toUpper, c.toUpper)], false⟩

def readMembers (first : Bool) (seen : List (Char × Char)) :
    List Char → Option (List (Char × Char) × List Char)
  | [] => none
  | ']' :: rest => if first then readMembers false ((']', ']') :: seen) rest else some (seen, rest)
  | '[' :: ':' :: rest =>
    let name := rest.takeWhile (· ≠ ':')
    match namedClass? name with
    | none => none
    | some ranges =>
      if [':', ']'].isPrefixOf (rest.drop name.length) then
        readMembers false (ranges ++ seen) (rest.drop (name.length + 2))
      else none
  | low :: '-' :: high :: rest =>
    if high = ']' then some (('-', '-') :: (low, low) :: seen, rest)
    else readMembers false ((low, high) :: seen) rest
  | c :: rest => readMembers false ((c, c) :: seen) rest
termination_by text => text.length
decreasing_by all_goals simp_wf <;> omega

def readClass : List Char → Option (CharClass × List Char)
  | '^' :: rest => (readMembers true [] rest).map fun (ranges, after) => (⟨ranges, true⟩, after)
  | rest => (readMembers true [] rest).map fun (ranges, after) => (⟨ranges, false⟩, after)

/-- What a letter behind a backslash stands for, if it stands for a class. -/
def escapedClass? : Char → Option CharClass
  | 's' => some ⟨[('\t', '\r'), (' ', ' ')], false⟩
  | 'S' => some ⟨[('\t', '\r'), (' ', ' ')], true⟩
  | 'w' => some ⟨[('0', '9'), ('A', 'Z'), ('a', 'z'), ('_', '_')], false⟩
  | 'W' => some ⟨[('0', '9'), ('A', 'Z'), ('a', 'z'), ('_', '_')], true⟩
  | _ => none

/-- The digits that a text begins with, as a number, and what follows them. -/
def leadingNumber (text : List Char) : Option Nat × List Char :=
  let (found, rest) := Text.leadingDigits 10 text
  (if found.isEmpty then none else some (Text.numberOf 10 found), rest)

structure Spelling where
  extended : Bool := false
  anyCase : Bool := false

/-- A sign of a pattern: a character, and whether it has the meaning it does not have by itself. -/
inductive Sign where
  | plain (c : Char)
  | special (c : Char)
  deriving DecidableEq

/-- The characters that are spelled with a backslash in one spelling and without in the other. -/
def isShifting (c : Char) : Bool :=
  c == '(' || c == ')' || c == '\x7b' || c == '\x7d' || c == '|' || c == '+' || c == '?'

def sign? (s : Spelling) : List Char → Option (Sign × List Char)
  | [] => none
  | '\\' :: 'n' :: rest => some (.plain '\n', rest)
  | '\\' :: 't' :: rest => some (.plain '\t', rest)
  | '\\' :: c :: rest =>
    if isShifting c then some (if s.extended then .plain c else .special c, rest)
    else if c.isDigit || (escapedClass? c).isSome then some (.special c, rest)
    else some (.plain c, rest)
  | c :: rest =>
    if isShifting c then some (if s.extended then .special c else .plain c, rest)
    else if c == '*' || c == '.' || c == '[' || c == '^' || c == '$' then some (.special c, rest)
    else some (.plain c, rest)

def atEnd (s : Spelling) (text : List Char) : Bool :=
  match sign? s text with
  | none | some (.special ')', _) | some (.special '|', _) => true
  | _ => false

def repeated (s : Spelling) : Nat → Pattern → List Char → Pattern × List Char
  | 0, a, text => (a, text)
  | fuel + 1, a, text =>
    match sign? s text with
    | some (.special '*', rest) => repeated s fuel (.many 0 none a) rest
    | some (.special '+', rest) => repeated s fuel (.many 1 none a) rest
    | some (.special '?', rest) => repeated s fuel (.many 0 (some 1) a) rest
    | some (.special '\x7b', rest) =>
      let (least, rest) := leadingNumber rest
      let (most, rest) := match rest with
        | ',' :: rest => leadingNumber rest
        | rest => (least, rest)
      match sign? s rest with
      | some (.special '\x7d', rest) => repeated s fuel (.many (least.getD 0) most a) rest
      | _ => (a, text)
    | _ => (a, text)

mutual

/-- Read alternatives, groups being numbered from `next` on. -/
def readChoice (s : Spelling) : Nat → Nat → List Char → Option (Pattern × Nat × List Char)
  | 0, _, _ => none
  | fuel + 1, next, text => do
    let (a, next, rest) ← readSequence s fuel next true .nothing text
    match sign? s rest with
    | some (.special '|', rest) =>
      let (b, next, rest) ← readChoice s fuel next rest
      return (.either a b, next, rest)
    | _ => return (a, next, rest)

/-- Read one part after the other behind a pattern. -/
def readSequence (s : Spelling) : Nat → Nat → Bool → Pattern → List Char →
    Option (Pattern × Nat × List Char)
  | 0, _, _, _, _ => none
  | fuel + 1, next, first, before, text =>
    if atEnd s text then some (before, next, text)
    else
      match sign? s text with
      | none => some (before, next, text)
      | some (sign, rest) => do
        let (a, next, rest) ← readPart s fuel next first sign rest
        let (a, rest) := repeated s (rest.length + 1) a rest
        readSequence s fuel next false (.pair before a) rest

/-- Read one part, of which the first sign has been read. -/
def readPart (s : Spelling) : Nat → Nat → Bool → Sign → List Char →
    Option (Pattern × Nat × List Char)
  | 0, _, _, _, _ => none
  | fuel + 1, next, first, sign, rest =>
    let char (c : Char) : Pattern := if s.anyCase then .anyCase c else .char c
    match sign with
    | .plain c => some (char c, next, rest)
    | .special '.' => some (.one ⟨[], true⟩, next, rest)
    | .special '[' => (readClass rest).map fun (k, after) => (.one k, next, after)
    | .special '^' => some (if first || s.extended then .start else char '^', next, rest)
    | .special '$' =>
      some (if atEnd s rest || s.extended then .stop else char '$', next, rest)
    | .special '(' => do
      let (a, after, rest) ← readChoice s fuel (next + 1) rest
      match sign? s rest with
      | some (.special ')', rest) => return (.group next a, after, rest)
      | _ => none
    | .special c =>
      match escapedClass? c with
      | some k => some (.one k, next, rest)
      | none =>
        if c.isDigit then some (.again (c.toNat - '0'.toNat), next, rest)
        else some (char c, next, rest)

end

def Pattern.parse? (s : Spelling) (text : List Char) : Option Pattern :=
  match readChoice s (3 * text.length + 3) 1 text with
  | some (a, _, []) => some a
  | _ => none

/-- The pattern of a text that means itself. -/
def Pattern.ofText (text : List Char) : Pattern :=
  text.foldl (fun a c => .pair a (.char c)) .nothing

end Shell

end SchemaFormat
