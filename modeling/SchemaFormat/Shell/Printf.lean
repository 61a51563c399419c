import SchemaFormat.Shell.Pattern

/-!
Text made by a format.

A format holds plain text, escapes behind backslashes and directives behind per cent signs; each
directive takes the next argument. A format that takes arguments is used again as long as some are
left; an argument that is lacking is empty, or zero.
-/

namespace SchemaFormat.Shell

/-- The byte that up to three octal digits give, and what follows them. -/
def octal (text : List Char) : Option (Char × List Char) :=
  let found := (Text.leadingDigits 8 (text.take 3)).1
  if found.isEmpty then none
  else
    some (Char.ofNat (Text.numberOf 8 found % 256), text.drop found.length)

def escapeLetter? : Char → Option Char
  | '\\' => some '\\'
  | 'a' => some '\x07'
  | 'b' => some '\x08'
  | 'e' => some '\x1b'
  | 'f' => some '\x0c'
  | 'n' => some '\n'
  | 'r' => some '\r'
  | 't' => some '\t'
  | 'v' => some '\x0b'
  | _ => none

/-- The character behind a backslash, and what follows it. Any other character keeps its backslash.
-/
def escapeIn (text : List Char) : List Char × List Char :=
  match octal text with
  | some (c, rest) => ([c], rest)
  | none =>
    match text with
    | c :: rest =>
      match escapeLetter? c with
      | some meant => ([meant], rest)
      | none => (['\\', c], rest)
    | [] => (['\\'], [])

/-- A text with its escapes replaced, and whether an escape ended it. Octal digits may have a zero
in front of three. -/
def unescape : Nat → List Char → List Char → List Char × Bool
  | 0, seen, _ => (seen.reverse, false)
  | fuel + 1, seen, text =>
    match text with
    | [] => (seen.reverse, false)
    | '\\' :: 'c' :: _ => (seen.reverse, true)
    | '\\' :: '0' :: rest =>
      match octal rest with
      | some (c, rest) => unescape fuel (c :: seen) rest
      | none => unescape fuel ('\x00' :: seen) rest
    | '\\' :: rest =>
      let (found, rest) := escapeIn rest
      unescape fuel (found.reverse ++ seen) rest
    | c :: rest => unescape fuel (c :: seen) rest

def unescaped (text : List Char) : List Char × Bool :=
  unescape (text.length + 1) [] text

/-- How a directive sets its argument. -/
structure Setting where
  left : Bool := false
  zeros : Bool := false
  plus : Bool := false
  blank : Bool := false
  other : Bool := false
  width : Nat := 0
  precision : Option Nat := none

def padded (s : Setting) (zeros : Bool) (sign body : List Char) : List Char :=
  let missing := s.width - (sign.length + body.length)
  if s.left then sign ++ body ++ List.replicate missing ' '
  else if zeros then sign ++ List.replicate missing '0' ++ body
  else List.replicate missing ' ' ++ sign ++ body

def digitsOf (base : Nat) (n : Nat) : List Char :=
  Nat.toDigits base n

def number (s : Setting) (kind : Char) (n : Int) : List Char :=
  let size := n.natAbs
  let unsigned := if n < 0 then Nat.pow 2 64 - size else size
  let body := match kind with
    | 'o' => digitsOf 8 unsigned
    | 'x' => digitsOf 16 unsigned
    | 'X' => (digitsOf 16 unsigned).map Char.toUpper
    | 'u' => digitsOf 10 unsigned
    | _ => digitsOf 10 size
  let body := match s.precision with
    | some least => List.replicate (least - body.length) '0' ++ body
    | none => body
  let sign := if kind = 'd' ∨ kind = 'i' then
      if n < 0 then ['-'] else if s.plus then ['+'] else if s.blank then [' '] else []
    else if s.other ∧ kind = 'x' ∧ n ≠ 0 then ['0', 'x']
    else if s.other ∧ kind = 'X' ∧ n ≠ 0 then ['0', 'X']
    else if s.other ∧ kind = 'o' then ['0']
    else []
  padded s (s.zeros && s.precision.isNone) sign body

/-- The number that digits to a base write, with what follows them. -/
def digitsIn (base : Nat) (text : List Char) : Nat × List Char :=
  let (found, rest) := Text.leadingDigits base text
  (Text.numberOf base found, rest)

inductive FormatFault where
  | noNumber (text : List Char)
  /-- More than a number stands there. -/
  | notWhole (text : List Char)
  | outOfRange (text : List Char)
  /-- What stands behind a per cent sign is no directive. -/
  | noDirective (text : List Char)
  | nothingBehind
  deriving DecidableEq, Repr

/-- The number that an argument writes, and what is wrong with it. -/
def argumentNumber (text : List Char) : Int × Option FormatFault :=
  match text with
  | [] => (0, none)
  | '\'' :: c :: _ | '"' :: c :: _ => (c.toNat, none)
  | _ =>
    let start := text.dropWhile (· == ' ')
    let (negative, digits) := match start with
      | '-' :: rest => (true, rest)
      | '+' :: rest => (false, rest)
      | rest => (false, rest)
    let (value, rest) := match digits with
      | '0' :: 'x' :: rest | '0' :: 'X' :: rest => digitsIn 16 rest
      | '0' :: _ => digitsIn 8 digits
      | _ => digitsIn 10 digits
    let most := if negative then Nat.pow 2 63 else Nat.pow 2 63 - 1
    let size := min value most
    let fault := if rest.length = digits.length then some (.noNumber text)
      else if ! rest.isEmpty then some (.notWhole text)
      else if most < value then some (.outOfRange text)
      else none
    (if negative then -(size : Int) else size, fault)

/-- What has been made of a format so far. -/
structure Formatted where
  /-- The text, the last character first. -/
  made : List Char := []
  arguments : List (List Char)
  /-- What is wrong, the last fault first. -/
  faults : List FormatFault := []
  /-- An argument was taken. -/
  took : Bool := false
  /-- The rest of the format is dropped. -/
  ended : Bool := false

def Formatted.next (f : Formatted) : List Char × Formatted :=
  match f.arguments with
  | [] => ([], { f with took := true })
  | a :: rest => (a, { f with arguments := rest, took := true })

def Formatted.add (f : Formatted) (text : List Char) : Formatted :=
  { f with made := text.reverse ++ f.made }

def flags (s : Setting) : List Char → Setting × List Char
  | '-' :: rest => flags { s with left := true } rest
  | '0' :: rest => flags { s with zeros := true } rest
  | '+' :: rest => flags { s with plus := true } rest
  | ' ' :: rest => flags { s with blank := true } rest
  | '#' :: rest => flags { s with other := true } rest
  | rest => (s, rest)

/-- Carry out a directive behind its per cent sign. -/
def directive (f : Formatted) (text : List Char) : Formatted × List Char :=
  let (s, rest) := flags {} text
  let (s, f, rest) := match rest with
    | '*' :: rest =>
      let (a, f) := f.next
      let n := (argumentNumber a).1
      ({ s with width := n.natAbs, left := s.left || n < 0 }, f, rest)
    | rest =>
      let (n, rest) := leadingNumber rest
      ({ s with width := n.getD 0 }, f, rest)
  let (s, rest) := match rest with
    | '.' :: rest =>
      let (n, rest) := leadingNumber rest
      ({ s with precision := some (n.getD 0) }, rest)
    | rest => (s, rest)
  let cut (body : List Char) : List Char :=
    match s.precision with
    | some most => body.take most
    | none => body
  let wrong (fault : FormatFault) : Formatted × List Char :=
    ({ f with faults := fault :: f.faults, ended := true }, [])
  match rest with
  | 's' :: rest =>
    let (a, f) := f.next
    (f.add (padded s false [] (cut a)), rest)
  | 'b' :: rest =>
    let (a, f) := f.next
    let (body, ended) := unescaped a
    ({ f.add (padded s false [] (cut body)) with ended := ended }, rest)
  | 'c' :: rest =>
    let (a, f) := f.next
    (f.add (padded s false [] (if a.isEmpty then ['\x00'] else a.take 1)), rest)
  | kind :: rest =>
    if kind = '%' ∧ text.head? = some '%' then (f.add ['%'], rest)
    else if kind = 'd' ∨ kind = 'i' ∨ kind = 'u' ∨ kind = 'o' ∨ kind = 'x' ∨ kind = 'X' then
      let (a, f) := f.next
      let (n, fault) := argumentNumber a
      ({ f.add (number s kind n) with faults := fault.toList ++ f.faults }, rest)
    else wrong (.noDirective ('%' :: text.take (text.length - rest.length)))
  | [] => wrong .nothingBehind

def once : Nat → Formatted → List Char → Formatted
  | 0, f, _ => f
  | fuel + 1, f, text =>
    if f.ended then f
    else
      match text with
      | [] => f
      | '\\' :: rest =>
        let (found, rest) := escapeIn rest
        once fuel (f.add found) rest
      | '%' :: rest =>
        let (f, rest) := directive f rest
        once fuel f rest
      | c :: rest => once fuel (f.add [c]) rest

/-- Use a format until no argument is left. -/
def again (format : List Char) : Nat → Formatted → Formatted
  | 0, f => f
  | fuel + 1, f =>
    let f := once (format.length + 1) f format
    if f.took && ! f.arguments.isEmpty && ! f.ended then again format fuel { f with took := false }
    else f

/-- The text that a format makes of arguments, and what is wrong with them. -/
def formatted (format : List Char) (arguments : List (List Char)) :
    List Char × List FormatFault :=
  let f := again format (arguments.length + 1) { arguments := arguments }
  (f.made.reverse, f.faults.reverse)

end SchemaFormat.Shell
