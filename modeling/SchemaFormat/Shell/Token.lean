import SchemaFormat.Shell.Script
import SchemaFormat.Text.Blank
import SchemaFormat.Text.Digits

/-!
The tokens of a script.

Words are what blanks and signs leave between them. Behind a backslash and between quotes every
character stands for itself; between double quotes a dollar sign and a back quote keep their
meaning. A number sign in front of a word starts a comment.
-/

namespace SchemaFormat.Shell

/-- A token, with the line it stands in. -/
inductive Token where
  | word (w : Word) (line : Nat)
  | sign (chars : List Char) (line : Nat)
  /-- The sign of a redirection, and the descriptor written in front of it. -/
  | redirect (descriptor : Option Nat) (chars : List Char) (line : Nat)
  /-- A redirection from a text that stands in the script. -/
  | inline (descriptor : Option Nat) (content : Word) (line : Nat)
  /-- What stands here is no token; nothing is read behind it. -/
  | wrong (fault : String) (line : Nat)
  /-- The end of the script. -/
  | ended (line : Nat)
  deriving DecidableEq, Repr

def endsWord (c : Char) : Bool :=
  c == ' ' || c == '\t' || c == '\n' || c == ';' || c == '&' || c == '|' || c == '<' || c == '>' ||
    c == '(' || c == ')'

/-- The characters that mean more than themselves in a word. -/
def isActive (c : Char) : Bool :=
  c == '\\' || c == '\'' || c == '"' || c == '$' || c == '\x60'

def startsName (c : Char) : Bool :=
  c.isAlpha || c == '_'

def continuesName (c : Char) : Bool :=
  c.isAlphanum || c == '_'

def isSpecialName (c : Char) : Bool :=
  c.isDigit || c == '@' || c == '*' || c == '#' || c == '?' || c == '$' || c == '!' || c == '-'

def isName (text : List Char) : Bool :=
  match text with
  | [] => false
  | c :: rest => startsName c && rest.all continuesName

/-- What stands before the double quote that ends a text, the last character first, and what stands
behind it. -/
def untilQuote (seen : List Char) : List Char → List Char × List Char
  | [] => (seen, [])
  | '\\' :: c :: rest => untilQuote (c :: '\\' :: seen) rest
  | '"' :: rest => ('"' :: seen, rest)
  | c :: rest => untilQuote (c :: seen) rest

/-- What stands before the sign that closes one just read, and what stands behind it; what has been
read comes last first. Signs between quotes do not count. -/
def enclosed (opens closes : Char) (quoted : Bool) : Nat → Nat → List Char → List Char →
    Option (List Char × List Char)
  | 0, _, _, _ => none
  | fuel + 1, depth, seen, text =>
    match text with
    | [] => none
    | '\\' :: c :: rest => enclosed opens closes quoted fuel depth (c :: '\\' :: seen) rest
    | c :: rest =>
      if c = '\'' ∧ ! quoted then
        let inner := rest.takeWhile (· ≠ '\'')
        enclosed opens closes quoted fuel depth ('\'' :: inner.reverse ++ '\'' :: seen)
          (rest.drop (inner.length + 1))
      else if c = '"' then
        let (seen, rest) := untilQuote ('"' :: seen) rest
        enclosed opens closes quoted fuel depth seen rest
      else if c = closes then
        if depth = 0 then some (seen.reverse, rest)
        else enclosed opens closes quoted fuel (depth - 1) (c :: seen) rest
      else if c = opens then enclosed opens closes quoted fuel (depth + 1) (c :: seen) rest
      else enclosed opens closes quoted fuel depth (c :: seen) rest

/-- What stands before the next back quote, the backslashes before special characters taken away,
and what stands behind it. -/
def backQuoted (seen : List Char) : List Char → Option (List Char × List Char)
  | [] => none
  | '\x60' :: rest => some (seen.reverse, rest)
  | '\\' :: c :: rest =>
    if c = '\x60' ∨ c = '\\' ∨ c = '$' then backQuoted (c :: seen) rest
    else backQuoted (c :: '\\' :: seen) rest
  | c :: rest => backQuoted (c :: seen) rest

def bracedParameter (quoted : Bool) (inner : List Char) : Part :=
  match inner with
  | '#' :: c :: more => .parameter (c :: more) ['#'] quoted
  | c :: more =>
    if isSpecialName c then
      let name := if c.isDigit then inner.takeWhile Char.isDigit else [c]
      .parameter name (if c.isDigit then inner.drop name.length else more) quoted
    else
      let name := inner.takeWhile continuesName
      .parameter name (inner.drop name.length) quoted
  | [] => .parameter [] ['!'] quoted

def dollar (quoted : Bool) (text : List Char) : Except String (Part × List Char) :=
  match text with
  | '(' :: '(' :: rest =>
    match enclosed '(' ')' false (rest.length + 1) 0 [] rest with
    | some (inner, ')' :: rest) => .ok (.arithmetic inner, rest)
    | _ => .error "Missing '))'"
  | '(' :: rest =>
    match enclosed '(' ')' false (rest.length + 1) 0 [] rest with
    | some (inner, rest) => .ok (.output inner quoted, rest)
    | none => .error "end of file unexpected (expecting \")\")"
  | '\x7b' :: rest =>
    match enclosed '\x7b' '\x7d' quoted (rest.length + 1) 0 [] rest with
    | some (inner, rest) => .ok (bracedParameter quoted inner, rest)
    | none => .error "Missing '\x7d'"
  | c :: rest =>
    if isSpecialName c then .ok (.parameter [c] [] quoted, rest)
    else if startsName c then
      let name := text.takeWhile continuesName
      .ok (.parameter name [] quoted, text.drop name.length)
    else .ok (.text ['$'] quoted, text)
  | [] => .ok (.text ['$'] quoted, [])

def openBackQuote : String := "EOF in backquote substitution"

/-- Read what stands between double quotes, behind the first of them; the parts read so far come
last first. A text that is not `closed` goes on to the end, and double quotes stand for themselves
in it. -/
def doubleQuoted (closed : Bool) : Nat → List Part → List Char →
    Except String (List Part × List Char)
  | 0, _, _ => .error "Unterminated quoted string"
  | fuel + 1, seen, text =>
    match text with
    | [] => if closed then .error "Unterminated quoted string" else .ok (seen, [])
    | '\\' :: '\n' :: rest => doubleQuoted closed fuel seen rest
    | '\\' :: c :: rest =>
      if c = '$' ∨ c = '\x60' ∨ (c = '"' ∧ closed) ∨ c = '\\' then
        doubleQuoted closed fuel (.text [c] true :: seen) rest
      else doubleQuoted closed fuel (.text ['\\', c] true :: seen) rest
    | '$' :: rest =>
      match dollar true rest with
      | .error e => .error e
      | .ok (part, rest) => doubleQuoted closed fuel (part :: seen) rest
    | '\x60' :: rest =>
      match backQuoted [] rest with
      | none => .error openBackQuote
      | some (inner, rest) => doubleQuoted closed fuel (.output inner true :: seen) rest
    | c :: rest =>
      if c = '"' ∧ closed then .ok (seen, rest)
      else
        let plain := c :: rest.takeWhile (! isActive ·)
        doubleQuoted closed fuel (.text plain true :: seen) (text.drop plain.length)

/-- Read a word up to a character that ends it; the parts read so far come last first. -/
def wordParts (ends : Char → Bool) : Nat → List Part → List Char →
    Except String (List Part × List Char)
  | 0, seen, text => .ok (seen, text)
  | fuel + 1, seen, text =>
    match text with
    | [] => .ok (seen, [])
    | '\\' :: '\n' :: rest => wordParts ends fuel seen rest
    | '\\' :: c :: rest => wordParts ends fuel (.text [c] true :: seen) rest
    | '\'' :: rest =>
      let inner := rest.takeWhile (· ≠ '\'')
      match rest.drop inner.length with
      | [] => .error "Unterminated quoted string"
      | _ :: rest => wordParts ends fuel (.text inner true :: seen) rest
    | '"' :: rest =>
      match doubleQuoted true (rest.length + 1) [] rest with
      | .error e => .error e
      | .ok ([], rest) => wordParts ends fuel (.text [] true :: seen) rest
      | .ok (inner, rest) => wordParts ends fuel (inner ++ seen) rest
    | '$' :: rest =>
      match dollar false rest with
      | .error e => .error e
      | .ok (part, rest) => wordParts ends fuel (part :: seen) rest
    | '\x60' :: rest =>
      match backQuoted [] rest with
      | none => .error openBackQuote
      | some (inner, rest) => wordParts ends fuel (.output inner false :: seen) rest
    | c :: rest =>
      if ends c then .ok (seen, text)
      else
        let plain := c :: rest.takeWhile fun c => ! ends c && ! isActive c
        wordParts ends fuel (.text plain false :: seen) (text.drop plain.length)

def wordOf (text : List Char) : Except String Word :=
  (wordParts (fun _ => false) (text.length + 1) [] text).map fun (seen, _) => seen.reverse

def quotedWordOf (text : List Char) : Except String Word :=
  wordOf ('"' :: text ++ ['"'])

/-- The word that a whole text is of which only dollar signs and back quotes mean something. -/
def inlineWordOf (text : List Char) : Except String Word :=
  (doubleQuoted false (text.length + 1) [] text).map fun (seen, _) => seen.reverse

/-- The signs that are no words, the longest first. -/
def signs : List (List Char) :=
  [";;", "&&", "||", ";", "&", "|", "(", ")"].map String.toList

/-- The signs of redirections, the longest first. -/
def redirectionSigns : List (List Char) :=
  ["<<-", "<<", ">>", ">&", ">|", "<&", "<>", ">", "<"].map String.toList

/-- A text as the number of a descriptor, if a sign of redirection follows it. -/
def descriptorIn (text : List Char) : Option (Nat × List Char) :=
  let found := text.takeWhile Char.isDigit
  let rest := text.drop found.length
  if found.length = 1 ∧ (rest.head? = some '<' ∨ rest.head? = some '>') then
    some (Text.numberOf 10 found, rest)
  else none

def beginning? (options : List (List Char)) (text : List Char) : Option (List Char) :=
  options.find? (·.isPrefixOf text)

/-- The text of a part without its quotes. -/
def Part.bare : Part → List Char
  | .text chars _ => chars
  | _ => []

/-- The lines of a text up to one that is `last`, and what stands behind that line; without `tabs`,
lines lose the tabs they begin with. -/
def inlineText (tabs : Bool) (last : List Char) :
    Nat → List Char → List Char → List Char × List Char
  | 0, seen, text => (seen, text)
  | fuel + 1, seen, text =>
    if text.isEmpty then (seen, [])
    else
      let whole := text.takeWhile (· ≠ '\n')
      let rest := text.drop (whole.length + 1)
      let line := if tabs then whole else whole.dropWhile (· == '\t')
      if line = last then (seen, rest)
      else
        let ended := if whole.length < text.length then ['\n'] else []
        inlineText tabs last fuel (seen ++ line ++ ended) rest

/-- Read the redirection from a text that starts in the next line, behind its sign: the token, what
else stands in this line and behind the text, and how many lines the text takes. -/
def inlineToken (descriptor : Option Nat) (tabs : Bool) (line : Nat) (text : List Char) :
    Token × List Char × Nat :=
  let text := text.dropWhile fun c => c == ' ' || c == '\t'
  match wordParts endsWord (text.length + 1) [] text with
  | .error fault => (.wrong fault line, [], 0)
  | .ok ([], rest) => (.redirect descriptor ['<', '<'] line, rest, 0)
  | .ok (parts, rest) =>
    let last := parts.reverse.flatMap Part.bare
    let quoted := parts.any fun
      | .text _ quoted => quoted
      | _ => false
    let thisLine := rest.takeWhile (· ≠ '\n')
    let below := rest.drop (thisLine.length + 1)
    let (content, after) := inlineText tabs last (below.length + 1) [] below
    let taken := (below.take (below.length - after.length)).count '\n'
    let rest := if thisLine.length < rest.length then thisLine ++ '\n' :: after else thisLine
    if quoted then (.inline descriptor [.text content true] line, rest, taken)
    else
      match inlineWordOf content with
      | .ok w => (.inline descriptor w line, rest, taken)
      | .error fault => (.wrong fault line, [], 0)

/-- Read tokens behind those already read, the last one first; behind the line at hand there have
been `held` lines of texts that were read already. -/
def tokensFrom : Nat → Nat → Nat → List Token → List Char → List Token
  | 0, line, _, seen, _ => (.ended line :: seen).reverse
  | fuel + 1, line, held, seen, text =>
    match text with
    | [] => (.ended line :: seen).reverse
    | ' ' :: rest | '\t' :: rest => tokensFrom fuel line held seen rest
    | '\\' :: '\n' :: rest => tokensFrom fuel (line + 1) held seen rest
    | '\n' :: rest => tokensFrom fuel (line + 1 + held) 0 (.sign ['\n'] (line + 1) :: seen) rest
    | '#' :: rest => tokensFrom fuel line held seen (rest.dropWhile (· ≠ '\n'))
    | c :: rest =>
      let (descriptor, text) := match descriptorIn (c :: rest) with
        | some (n, rest) => (some n, rest)
        | none => (none, c :: rest)
      match beginning? redirectionSigns text with
      | some found =>
        let rest := text.drop found.length
        if found.take 2 = ['<', '<'] then
          match inlineToken descriptor (found.length = 2) line rest with
          | (.wrong fault line, _, _) => (.wrong fault line :: seen).reverse
          | (t, rest, taken) => tokensFrom fuel line (held + taken) (t :: seen) rest
        else tokensFrom fuel line held (.redirect descriptor found line :: seen) rest
      | none =>
        match beginning? signs text with
        | some found =>
          tokensFrom fuel line held (.sign found line :: seen) (text.drop found.length)
        | none =>
          match wordParts endsWord (text.length + 1) [] text with
          | .error fault => (.wrong fault (line + text.count '\n') :: seen).reverse
          | .ok (parts, rest) =>
            let newLines := (text.take (text.length - rest.length)).count '\n'
            tokensFrom fuel (line + newLines) held (.word parts.reverse line :: seen) rest

/-- The tokens of a script. The last one tells where it ends, or what is wrong with it. -/
def tokens (text : List Char) : List Token :=
  tokensFrom (text.length + 1) 1 0 [] text

end SchemaFormat.Shell
