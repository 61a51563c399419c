import SchemaFormat.Text.Ranges

/-!
Version 6 internet addresses as hosts: eight pieces of up to four digits in base 16, joined by
colons. Two colons in a row stand for as many zero pieces as are missing, once; the last two pieces
may be a version 4 address with four bytes in base 10. Written out, the longest run of two or more
zero pieces, the first of several, becomes the two colons.
-/

namespace SchemaFormat.Uri

/-- A version 6 address: its eight pieces, each below 65536. -/
structure Ipv6 where
  pieces : List Nat
  deriving DecidableEq, Repr

namespace Ipv6

/-- The pieces read so far, the last one first, and how many stood before the two colons. -/
structure Reading where
  pieces : List Nat := []
  gap : Option Nat := none

/-- The longest start of a text that holds digits in base 16 only, at most `count`, as a number, and
the rest of the text. -/
def readPiece : Nat → List Char → Nat → Nat × List Char
  | count + 1, c :: rest, value =>
    match Text.hexDigit? c with
    | some d => readPiece count rest (16 * value + d)
    | none => (value, c :: rest)
  | _, text, value => (value, text)

/-- A byte in base 10 without needless zeros. -/
def byte? (digits : List Char) : Option Nat :=
  if digits.isEmpty || !digits.all Char.isDigit ||
    (digits.length > 1 && digits.head? == some '0') ||
      digits.length > 3 then none
  else
    let value := digits.foldl (fun value c => 10 * value + (c.toNat - 0x30)) 0
    if value < 256 then some value else none

/-- Two pieces from a version 4 address at the end of the text. -/
def readTail (r : Reading) (text : List Char) : Option Reading := do
  let bytes ← (Text.split (· == '.') text).mapM byte?
  match bytes with
  | [a, b, c, d] =>
    if r.pieces.length ≤ 6 then
      some { r with pieces := (256 * c + d) :: (256 * a + b) :: r.pieces }
    else none
  | _ => none

/-- Read pieces up to the end; `limit` bounds how many colons and pieces there may be. -/
def readPieces : Nat → Reading → List Char → Option Reading
  | _, r, [] => some r
  | 0, _, _ :: _ => none
  | limit + 1, r, c :: rest =>
    if 8 ≤ r.pieces.length + (if r.gap.isSome then 1 else 0) then none
    else if c = ':' then
      if r.gap.isSome then none
      else readPieces limit { r with gap := some r.pieces.length } rest
    else
      match readPiece 4 (c :: rest) 0 with
      | (value, []) => some { r with pieces := value :: r.pieces }
      | (value, ':' :: after) =>
        if after.isEmpty then none
        else readPieces limit { r with pieces := value :: r.pieces } after
      | (_, '.' :: _) =>
        if c = '.' || 6 < r.pieces.length + (if r.gap.isSome then 1 else 0) then none
        else readTail r (c :: rest)
      | _ => none

/-- All eight pieces, the missing ones put in where the two colons stood. -/
def Reading.finish (r : Reading) : Option Ipv6 :=
  let pieces := r.pieces.reverse
  match r.gap with
  | none => if pieces.length = 8 then some ⟨pieces⟩ else none
  | some before =>
    if pieces.length < 8 then
      some ⟨pieces.take before ++ List.replicate (8 - pieces.length) 0 ++ pieces.drop before⟩
    else none

def parse? (text : List Char) : Option Ipv6 :=
  let read : Option Reading :=
    match text with
    | ':' :: ':' :: rest => readPieces 9 { gap := some 0 } rest
    | ':' :: _ | [_] | [] => none
    | text => readPieces 9 {} text
  read.bind Reading.finish

/-- The runs of zero pieces, each with its start and length; `start` is where the list begins. -/
def zeroRuns (start : Nat) : List Nat → List (Nat × Nat)
  | [] => []
  | n :: rest =>
    let later := zeroRuns (start + 1) rest
    if n = 0 then
      match later with
      | (s, length) :: more =>
        if s = start + 1 then (start, length + 1) :: more else (start, 1) :: later
      | [] => [(start, 1)]
    else later

/-- The first of the longest runs of at least two zero pieces. -/
def longestRun (pieces : List Nat) : Option (Nat × Nat) :=
  ((zeroRuns 0 pieces).filter (2 ≤ ·.2)).foldl (fun best run =>
    match best with
    | some b => if b.2 < run.2 then some run else best
    | none => some run) none

def renderPieces (pieces : List Nat) : List Char :=
  Text.join [':'] (pieces.map (Nat.toDigits 16))

/-- The shortest form of an address. -/
def render (a : Ipv6) : List Char :=
  match longestRun a.pieces with
  | none => renderPieces a.pieces
  | some (start, length) =>
    renderPieces (a.pieces.take start) ++ [':', ':'] ++
      renderPieces (a.pieces.drop (start + length))

end Ipv6

end SchemaFormat.Uri
