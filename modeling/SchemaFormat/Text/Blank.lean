import SchemaFormat.Text.Utf8

/-!
Blanks, words and lines.

A blank is a character with the Unicode property White_Space. `split` cuts a text at the characters
of a class, `words` are the non-empty stretches between blanks, `lines` are the stretches that line
feeds end; a last line may lack its line feed.
-/

namespace SchemaFormat.Text

/-- The characters with the property White_Space. -/
def isBlank (c : Char) : Bool :=
  let n := c.toNat
  (0x09 ≤ n && n ≤ 0x0D) || n == 0x20 || n == 0x85 || n == 0xA0 || n == 0x1680 ||
    (0x2000 ≤ n && n ≤ 0x200A) || n == 0x2028 || n == 0x2029 || n == 0x202F || n == 0x205F ||
    n == 0x3000

def consFirst (c : α) : List (List α) → List (List α)
  | [] => [[c]]
  | part :: parts => (c :: part) :: parts

/-- The parts of a text between the characters of a class; there is one more part than such
characters. -/
def split (isSeparator : α → Bool) (text : List α) : List (List α) :=
  text.foldr (fun c parts => if isSeparator c then [] :: parts else consFirst c parts) [[]]

def words (text : List Char) : List (List Char) :=
  (split isBlank text).filter (! ·.isEmpty)

def lines (text : List Char) : List (List Char) :=
  let parts := split (· == '\n') text
  if parts.getLast? = some [] then parts.dropLast else parts

/-- A text without the characters of a class at its end. -/
def trimEnd (drop : Char → Bool) (text : List Char) : List Char :=
  (text.reverse.dropWhile drop).reverse

def trim (text : List Char) : List Char :=
  trimEnd isBlank (text.dropWhile isBlank)

/-- One text stands before another one in the order of their characters. -/
def precedes (a b : List Char) : Bool :=
  a.lex b fun c d => c.toNat < d.toNat

def join (separator : List α) : List (List α) → List α
  | [] => []
  | part :: parts => part ++ (parts.flatMap (separator ++ ·))

end SchemaFormat.Text
