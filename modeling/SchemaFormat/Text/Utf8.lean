/-!
UTF-8: the bytes of a text and the text of some bytes.

`encode` writes each scalar value in one to four bytes. `pieces` reads bytes the other way and never
fails: it cuts them into scalar values, ill-formed sequences (each as long as it could still have
been the start of a scalar value) and at most one sequence that the end cuts short. `decode` accepts
the bytes whose pieces are all scalar values and otherwise reports the first fault; `decodeLossy`
puts U+FFFD in place of every other piece.
-/

namespace SchemaFormat

/-- A sequence of bytes: file contents, paths, what a process reads and prints. -/
abbrev Bytes := List UInt8

namespace Utf8

/-- One scalar value in one to four bytes. -/
def encodeChar (c : Char) : Bytes :=
  let n := c.toNat
  if n < 0x80 then [UInt8.ofNat n]
  else if n < 0x800 then [UInt8.ofNat (0xC0 + n / 0x40), UInt8.ofNat (0x80 + n % 0x40)]
  else if n < 0x10000 then
    [UInt8.ofNat (0xE0 + n / 0x1000), UInt8.ofNat (0x80 + n / 0x40 % 0x40),
      UInt8.ofNat (0x80 + n % 0x40)]
  else
    [UInt8.ofNat (0xF0 + n / 0x40000), UInt8.ofNat (0x80 + n / 0x1000 % 0x40),
      UInt8.ofNat (0x80 + n / 0x40 % 0x40), UInt8.ofNat (0x80 + n % 0x40)]

def encode (text : List Char) : Bytes :=
  text.flatMap encodeChar

/-- What a stretch of bytes holds. -/
inductive Piece where
  /-- A scalar value, written in full. -/
  | scalar (c : Char)
  /-- Bytes that no continuation makes a scalar value. -/
  | broken (bytes : Bytes)
  /-- The start of a scalar value, cut short by the end. -/
  | cut (bytes : Bytes)
  deriving DecidableEq, Repr

/-- A scalar value of which some bytes have been read. -/
structure Unfinished where
  /-- The bytes read, the first one first. -/
  read : Bytes
  /-- The bits read so far. -/
  value : Nat
  /-- How many bytes are missing after the next one. -/
  missing : Nat
  /-- The least value of the next byte. -/
  low : Nat
  /-- The greatest value of the next byte. -/
  high : Nat
  deriving DecidableEq, Repr

/-- Where a reader stands: the pieces found, the last one first, and the scalar value it is in. -/
structure Reader where
  found : List Piece := []
  inside : Option Unfinished := none
  deriving DecidableEq, Repr

/-- What a byte between two scalar values starts: a whole piece or a longer scalar value. The bounds
of the second byte keep out surrogates, values above U+10FFFF and spellings longer than needed. -/
def lead (b : UInt8) : Piece ⊕ Unfinished :=
  let n := b.toNat
  if n < 0x80 then .inl (.scalar (Char.ofNat n))
  else if n < 0xC2 then .inl (.broken [b])
  else if n < 0xE0 then .inr ⟨[b], n - 0xC0, 0, 0x80, 0xBF⟩
  else if n = 0xE0 then .inr ⟨[b], n - 0xE0, 1, 0xA0, 0xBF⟩
  else if n = 0xED then .inr ⟨[b], n - 0xE0, 1, 0x80, 0x9F⟩
  else if n < 0xF0 then .inr ⟨[b], n - 0xE0, 1, 0x80, 0xBF⟩
  else if n = 0xF0 then .inr ⟨[b], n - 0xF0, 2, 0x90, 0xBF⟩
  else if n < 0xF4 then .inr ⟨[b], n - 0xF0, 2, 0x80, 0xBF⟩
  else if n = 0xF4 then .inr ⟨[b], n - 0xF0, 2, 0x80, 0x8F⟩
  else .inl (.broken [b])

/-- A reader between two scalar values takes a byte. -/
def Reader.start (found : List Piece) (b : UInt8) : Reader :=
  match lead b with
  | .inl piece => ⟨piece :: found, none⟩
  | .inr inside => ⟨found, some inside⟩

/-- A reader takes a byte. A byte that cannot continue the scalar value at hand ends it as broken
and is read again on its own. -/
def Reader.feed (r : Reader) (b : UInt8) : Reader :=
  match r.inside with
  | none => Reader.start r.found b
  | some u =>
    if u.low ≤ b.toNat ∧ b.toNat ≤ u.high then
      let value := u.value * 0x40 + (b.toNat - 0x80)
      match u.missing with
      | 0 => ⟨.scalar (Char.ofNat value) :: r.found, none⟩
      | missing + 1 => ⟨r.found, some ⟨u.read ++ [b], value, missing, 0x80, 0xBF⟩⟩
    else Reader.start (.broken u.read :: r.found) b

/-- The pieces of some bytes, in order. -/
def pieces (bytes : Bytes) : List Piece :=
  let last := bytes.foldl Reader.feed {}
  match last.inside with
  | none => last.found.reverse
  | some u => (.cut u.read :: last.found).reverse

inductive Fault where
  /-- From byte `index` on, `length` bytes start no scalar value. -/
  | invalid (length index : Nat)
  /-- The scalar value that starts at byte `index` lacks its end. -/
  | incomplete (index : Nat)
  deriving DecidableEq, Repr

def Fault.message : Fault → String
  | .invalid length index => s!"invalid utf-8 sequence of {length} bytes from index {index}"
  | .incomplete index => s!"incomplete utf-8 byte sequence from index {index}"

/-- The first fault among pieces of which the first starts at byte `index`. -/
def firstFault (index : Nat) : List Piece → Option Fault
  | [] => none
  | .scalar c :: rest => firstFault (index + (encodeChar c).length) rest
  | .broken bytes :: _ => some (.invalid bytes.length index)
  | .cut _ :: _ => some (.incomplete index)

def Piece.replacement : Piece → Char
  | .scalar c => c
  | .broken _ | .cut _ => '\uFFFD'

/-- The text of some bytes; every ill-formed stretch becomes U+FFFD. -/
def decodeLossy (bytes : Bytes) : List Char :=
  (pieces bytes).map Piece.replacement

/-- The text of some bytes, or their first fault. -/
def decode (bytes : Bytes) : Except Fault (List Char) :=
  match firstFault 0 (pieces bytes) with
  | some fault => .error fault
  | none => .ok (decodeLossy bytes)

end Utf8

def Bytes.ofString (s : String) : Bytes :=
  Utf8.encode s.toList

/-- The string that some bytes hold, or their first fault. -/
def Bytes.toString? (bytes : Bytes) : Except Utf8.Fault String :=
  (Utf8.decode bytes).map String.ofList

/-- The string that some bytes hold, every ill-formed stretch replaced by U+FFFD. -/
def Bytes.display (bytes : Bytes) : String :=
  String.ofList (Utf8.decodeLossy bytes)

end SchemaFormat
