import SchemaFormat.Text.PrintableTable
import SchemaFormat.Text.Ranges

/-!
Quoted text, as log lines show the values that may hold anything.

A quoted text stands between double quotes. Quotes and backslashes get a backslash, tabs, line
breaks and NUL have short names, and a character that cannot be shown by itself is written as the
letter `u` and its code point in braces.
-/

namespace SchemaFormat.Text

def unprintable : Ranges Unit :=
  Ranges.ofSet unprintableItems

/-- The characters that are shown only on top of another. -/
def extending : Ranges Unit :=
  Ranges.ofSet extendingItems

def quoteChar (c : Char) : List Char :=
  if c = '"' then ['\\', '"']
  else if c = '\\' then ['\\', '\\']
  else if c = '\n' then ['\\', 'n']
  else if c = '\r' then ['\\', 'r']
  else if c = '\t' then ['\\', 't']
  else if c = '\x00' then ['\\', '0']
  else if 0x20 ≤ c.toNat ∧ c.toNat < 0x7F then [c]
  else if extending.holds c || unprintable.holds c then
    ['\\', 'u', '\x7b'] ++ Nat.toDigits 16 c.toNat ++ ['\x7d']
  else [c]

def quote (text : String) : String :=
  String.ofList ('"' :: text.toList.flatMap quoteChar ++ ['"'])

end SchemaFormat.Text
