import SchemaFormat.Domain.CompositionTable
import SchemaFormat.Text.Ranges

/-!
Canonical composition: of all the ways to write a letter with its marks, the one with the fewest
characters.

`decompose` takes every character apart, `reorder` brings the marks on one base into the order of
their combining classes, and `recompose` joins each mark with the base before it where a character
for the two exists and no mark of the same or a higher class stands between them.
-/

namespace SchemaFormat.Domain

open SchemaFormat.Text (Ranges readHex items)

def combiningClasses : Ranges Nat :=
  Ranges.ofClasses combiningClassItems

/-- The combining class of a character; bases have class zero. -/
def combiningClass (c : Char) : Nat :=
  (combiningClasses.ofChar c).getD 0

def readComposite (item : List Char) : Nat × Nat × Nat :=
  let (composite, rest) := readHex item 0
  let (first, rest) := readHex (rest.drop 1) 0
  let (second, _) := readHex (rest.drop 1) 0
  (composite, first, second)

def composites : List (Nat × Nat × Nat) :=
  (items compositeItems).map readComposite

def pairKey (first second : Nat) : Nat :=
  first * 0x200000 + second

def decompositions : Ranges (Nat × Nat) :=
  Ranges.ofList (composites.map fun (composite, first, second) =>
    (composite, composite, first, second))

def compositions : Ranges Nat :=
  Ranges.ofList (composites.map fun (composite, first, second) =>
    (pairKey first second, pairKey first second, composite))

/-- Hangul syllables: a leading consonant, a vowel and perhaps a trailing consonant. -/
structure Hangul where
  syllables : Nat := 0xAC00
  leading : Nat := 0x1100
  vowels : Nat := 0x1161
  trailing : Nat := 0x11A7
  leadingCount : Nat := 19
  vowelCount : Nat := 21
  trailingCount : Nat := 28

/-- Where the parts of Hangul syllables begin, and how many there are. -/
def hangul : Hangul := {}

def pairOf (n : Nat) : Option (Nat × Nat) :=
  if hangul.syllables ≤ n ∧
      n < hangul.syllables + hangul.leadingCount * hangul.vowelCount * hangul.trailingCount then
    let index := n - hangul.syllables
    let tail := index % hangul.trailingCount
    if tail = 0 then
      let pair := index / hangul.trailingCount
      some (hangul.leading + pair / hangul.vowelCount, hangul.vowels + pair % hangul.vowelCount)
    else some (n - tail, hangul.trailing + tail)
  else decompositions.lookup n

def compose (first second : Nat) : Option Nat :=
  if hangul.leading ≤ first ∧ first < hangul.leading + hangul.leadingCount ∧
      hangul.vowels ≤ second ∧ second < hangul.vowels + hangul.vowelCount then
    some (hangul.syllables + ((first - hangul.leading) * hangul.vowelCount +
      (second - hangul.vowels)) * hangul.trailingCount)
  else if hangul.syllables ≤ first ∧
      first < hangul.syllables + hangul.leadingCount * hangul.vowelCount * hangul.trailingCount ∧
      (first - hangul.syllables) % hangul.trailingCount = 0 ∧
      hangul.trailing < second ∧ second < hangul.trailing + hangul.trailingCount then
    some (first + (second - hangul.trailing))
  else compositions.lookup (pairKey first second)

/-- The characters of which a character consists, for composites nested at most `depth` deep. -/
def decomposeChar : Nat → Nat → List Char
  | 0, n => [Char.ofNat n]
  | depth + 1, n =>
    match pairOf n with
    | none => [Char.ofNat n]
    | some (first, second) => decomposeChar depth first ++ [Char.ofNat second]

/-- A text with its composites taken apart; they nest at most four deep. -/
def decompose (text : List Char) : List Char :=
  text.flatMap fun c => decomposeChar 4 c.toNat

/-- Put a mark in front of a run of marks, behind those of a lower class. -/
def insertMark (c : Char) : List Char → List Char
  | [] => [c]
  | d :: rest =>
    if combiningClass d ≠ 0 ∧ combiningClass d < combiningClass c then d :: insertMark c rest
    else c :: d :: rest

/-- A text with the marks on each base in the order of their classes; marks of one class keep
theirs. -/
def reorder (text : List Char) : List Char :=
  text.foldr (fun c rest => if combiningClass c = 0 then c :: rest else insertMark c rest) []

structure Composing where
  /-- What is finished, the last character first. -/
  done : List Char := []
  /-- The base that later marks may join. -/
  base : Option Char := none
  /-- The marks behind the base that did not join it, the last one first. -/
  marks : List Char := []

/-- All that has been composed, the last character first. -/
def Composing.reversed (s : Composing) : List Char :=
  s.marks ++ (s.base.toList ++ s.done)

def Composing.feed (s : Composing) (c : Char) : Composing :=
  let isOpen : Bool :=
    match s.marks with
    | [] => true
    | mark :: _ => combiningClass mark < combiningClass c
  match s.base, isOpen with
  | some base, true =>
    match compose base.toNat c.toNat with
    | some composite => { s with base := some (Char.ofNat composite) }
    | none =>
      if combiningClass c = 0 then ⟨s.reversed, some c, []⟩ else { s with marks := c :: s.marks }
  | _, _ =>
    if combiningClass c = 0 then ⟨s.reversed, some c, []⟩
    else { s with marks := c :: s.marks }

/-- Ordered characters with every mark joined to its base where that is possible. -/
def recompose (text : List Char) : List Char :=
  (text.foldl Composing.feed {}).reversed.reverse

def normalize (text : List Char) : List Char :=
  recompose (reorder (decompose text))

end SchemaFormat.Domain
