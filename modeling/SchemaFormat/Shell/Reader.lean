import SchemaFormat.Shell.Token

/-!
Reading scripts.

Commands are separated by semicolons, ampersands and line feeds; a pipe binds tighter than the signs
for success and failure, and these bind tighter than a separator. Some words have a meaning of their
own where a command can begin. A script is read up to the end of a line that ends a command, and
that much of it runs before more is read.
-/

namespace SchemaFormat.Shell

def plainText? (w : Word) : Option String :=
  match w with
  | [.text chars false] => some (String.ofList chars)
  | _ => none

/-- The word that a token is, if it is one without quotes and expansions. -/
def Token.plain? : Token → Option String
  | .word w _ => plainText? w
  | _ => none

def Token.sign? : Token → Option String
  | .sign chars _ => some (String.ofList chars)
  | _ => none

def Token.line : Token → Nat
  | .word _ line | .sign _ line | .redirect _ _ line | .inline _ _ line | .wrong _ line
  | .ended line => line

/-- What is wrong with a script, and where. -/
abbrev Reading := Except (String × Nat)

def keywords : List String :=
  ["!", "case", "do", "done", "elif", "else", "esac", "fi", "for", "if", "in", "then", "until",
    "while", "\x7b", "\x7d"]

def Token.called : Token → String
  | .word w _ =>
    match plainText? w with
    | some text => if keywords.contains text then s!"\"{text}\"" else "word"
    | none => "word"
  | .sign chars _ => if chars = ['\n'] then "newline" else s!"\"{String.ofList chars}\""
  | .redirect .. | .inline .. => "redirection"
  | .wrong .. | .ended _ => "end of file"

/-- The next token is not one that can stand here; another one may be expected. -/
def unexpected (wanted : Option String) (ts : List Token) : String × Nat :=
  match ts with
  | .wrong fault line :: _ => (fault, line)
  | t :: _ =>
    match wanted with
    | some wanted => (s!"{t.called} unexpected (expecting {wanted})", t.line)
    | none => (s!"{t.called} unexpected", t.line)
  | [] => ("end of file unexpected", 1)

/-- Nothing can be read for so long. -/
def tooLong : String × Nat := ("script too long", 1)

/-- The words that close what another word has opened. -/
def closers : List String :=
  ["\x7d", "then", "elif", "else", "fi", "do", "done", "esac"]

/-- A token that no command begins with. -/
def closes (t : Token) : Bool :=
  match t with
  | .sign chars _ => chars = [')'] || chars = [';', ';']
  | .ended _ => true
  | t => t.plain?.any closers.contains

/-- Tokens without the line feeds they begin with. -/
def skipLines (ts : List Token) : List Token :=
  ts.dropWhile fun t => t.sign? == some "\n"

/-- The redirection that a sign and the word behind it make. -/
def redirection (descriptor : Option Nat) (chars : List Char) (w : Word) : Redirection :=
  match String.ofList chars with
  | "<" => .input (descriptor.getD 0) w
  | "<&" => .copy (descriptor.getD 0) w
  | ">&" => .copy (descriptor.getD 1) w
  | ">>" => .append (descriptor.getD 1) w
  | "<>" => .append (descriptor.getD 0) w
  | _ => .output (descriptor.getD 1) w

/-- The name and the value of an assignment, if a word is one. -/
def assignment? (w : Word) : Option (List Char × Word) :=
  match w with
  | .text chars false :: rest =>
    let name := chars.takeWhile (· ≠ '=')
    match chars.drop name.length with
    | _ :: value =>
      if isName name then
        some (name, if value.isEmpty then rest else .text value false :: rest)
      else none
    | [] => none
  | _ => none

def readRedirections (seen : List Redirection) :
    List Token → Reading (List Redirection × List Token)
  | .redirect descriptor chars _ :: .word w _ :: rest =>
    readRedirections (redirection descriptor chars w :: seen) rest
  | .inline descriptor content _ :: rest =>
    readRedirections (.inline (descriptor.getD 0) content :: seen) rest
  | .redirect .. :: rest => .error (unexpected none rest)
  | ts => .ok (seen.reverse, ts)

def redirected (c : Script) (line : Nat) (ts : List Token) : Reading (Script × List Token) := do
  let (rs, ts) ← readRedirections [] ts
  return (if rs.isEmpty then c else .group c rs line, ts)

/-- Read the words, assignments and redirections of a simple command; they are gathered last first.
-/
def readSimple (s : Simple) : List Token → Reading (Simple × List Token)
  | .word w _ :: rest =>
    match s.words, assignment? w with
    | [], some a => readSimple { s with assignments := a :: s.assignments } rest
    | _, _ => readSimple { s with words := w :: s.words } rest
  | .redirect descriptor chars _ :: .word w _ :: rest =>
    readSimple { s with redirections := redirection descriptor chars w :: s.redirections } rest
  | .inline descriptor content _ :: rest =>
    readSimple { s with redirections := .inline (descriptor.getD 0) content :: s.redirections } rest
  | .redirect .. :: rest => .error (unexpected none rest)
  | .wrong fault line :: _ => .error (fault, line)
  | ts =>
    .ok (⟨s.assignments.reverse, s.words.reverse, s.redirections.reverse, s.line⟩, ts)

def expect (wanted : String) (ts : List Token) : Reading (List Token) :=
  match ts with
  | t :: rest =>
    if t.plain? = some wanted ∨ t.sign? = some wanted then .ok rest
    else .error (unexpected (some s!"\"{wanted}\"") ts)
  | [] => .error (unexpected none [])

def readWords (seen : List Word) : List Token → Reading (List Word × List Token)
  | .word w _ :: rest => readWords (w :: seen) rest
  | .sign [';'] _ :: rest | .sign ['\n'] _ :: rest => .ok (seen.reverse, rest)
  | ts => .error (unexpected none ts)

def readPatterns (seen : List Word) : List Token → Reading (List Word × List Token)
  | .word w _ :: .sign ['|'] _ :: rest => readPatterns (w :: seen) rest
  | .word w _ :: .sign [')'] _ :: rest => .ok ((w :: seen).reverse, rest)
  | .word .. :: ts | ts => .error (unexpected (some "\")\"") ts)

/-- Commands that are no names of functions. -/
def specialBuiltins : List String := [
  ".", ":", "break", "continue", "eval", "exec", "exit", "export", "readonly", "return", "set",
  "shift", "times", "trap", "unset"]

/-- Where commands stand one after the other. -/
inductive Row where
  /-- In the lines of a script, up to the end of one. -/
  | line
  /-- Between two words, at least one command. -/
  | block
  /-- In a case. -/
  | body
  deriving DecidableEq, Repr

def Script.andThen (before c : Script) : Script :=
  match before with
  | .nothing => c
  | before => .sequence before c

mutual

def readRow : Nat → Row → Option Script → List Token → Reading (Option Script × List Token)
  | 0, _, _, _ => .error tooLong
  | fuel + 1, row, before, ts =>
    match ts with
    | [] | [.ended _] => .ok (before, ts)
    | .sign ['\n'] _ :: rest =>
      if row = .line then .ok (before.getD .nothing, rest) else readRow fuel row before rest
    | t :: rest =>
      if (row = .body ∨ (row = .block ∧ before.isSome)) ∧ closes t then .ok (before, t :: rest)
      else
        match readJoined fuel (t :: rest) with
        | .error e => .error e
        | .ok (c, ts) =>
          let all (c : Script) := some ((before.getD .nothing).andThen c)
          match ts with
          | .sign ['&'] _ :: rest => readRow fuel row (all (.background c)) rest
          | .sign [';'] _ :: rest => readRow fuel row (all c) rest
          | .sign ['\n'] _ :: _ | [.ended _] => readRow fuel row (all c) ts
          | ts =>
            if row = .line then .error (unexpected none ts)
            else
              match ts with
              | .wrong fault line :: _ => .error (fault, line)
              | ts => .ok (all c, ts)

/-- Read commands up to a token that closes them. -/
def readList : Nat → Row → List Token → Reading (Script × List Token)
  | 0, _, _ => .error tooLong
  | fuel + 1, row, ts => do
    let (found, ts) ← readRow fuel row none ts
    return (found.getD .nothing, ts)

/-- Read pipes that signs for success and failure join. -/
def readJoined : Nat → List Token → Reading (Script × List Token)
  | 0, _ => .error tooLong
  | fuel + 1, ts =>
    match readPipe fuel ts with
    | .error e => .error e
    | .ok (first, ts) => readMore fuel first ts

def readMore : Nat → Script → List Token → Reading (Script × List Token)
  | 0, _, _ => .error tooLong
  | fuel + 1, first, ts =>
    match ts with
    | .sign ['&', '&'] _ :: rest => do
      let (second, ts) ← readPipe fuel (skipLines rest)
      readMore fuel (.both first second) ts
    | .sign ['|', '|'] _ :: rest => do
      let (second, ts) ← readPipe fuel (skipLines rest)
      readMore fuel (.either first second) ts
    | ts => .ok (first, ts)

def readPipe : Nat → List Token → Reading (Script × List Token)
  | 0, _ => .error tooLong
  | fuel + 1, ts => do
    match ts with
    | t :: rest =>
      if t.plain? = some "!" then
        let (c, ts) ← readCommand fuel rest
        let (c, ts) ← readStages fuel c ts
        return (.negated c, ts)
      else
        let (c, ts) ← readCommand fuel ts
        readStages fuel c ts
    | [] => .error (unexpected none [])

/-- Read the stages that a command's output goes to. -/
def readStages : Nat → Script → List Token → Reading (Script × List Token)
  | 0, _, _ => .error tooLong
  | fuel + 1, c, ts =>
    match ts with
    | .sign ['|'] _ :: rest => do
      let (next, ts) ← readCommand fuel (skipLines rest)
      readStages fuel (.pipe c next) ts
    | ts => .ok (c, ts)

def readCommand : Nat → List Token → Reading (Script × List Token)
  | 0, _ => .error tooLong
  | fuel + 1, ts => do
    match ts with
    | [] => .error (unexpected none [])
    | .sign ['('] line :: rest =>
      let (body, ts) ← readList fuel .block rest
      let ts ← expect ")" ts
      let (rs, ts) ← readRedirections [] ts
      return (.subshell body rs line, ts)
    | .sign .. :: _ | .wrong .. :: _ | .ended _ :: _ => .error (unexpected none ts)
    | t :: rest =>
      let line := t.line
      match t.plain? with
      | some "\x7b" =>
        let (body, ts) ← readList fuel .block rest
        let ts ← expect "\x7d" ts
        redirected body line ts
      | some "if" =>
        let (c, ts) ← readBranches fuel rest
        redirected c line ts
      | some "while" =>
        let (c, ts) ← readLoop fuel true rest
        redirected c line ts
      | some "until" =>
        let (c, ts) ← readLoop fuel false rest
        redirected c line ts
      | some "for" =>
        let (c, ts) ← readEach fuel rest
        redirected c line ts
      | some "case" =>
        match rest with
        | .word w _ :: rest =>
          let ts ← expect "in" (skipLines rest)
          let (cases, ts) ← readCases fuel ts
          redirected (.choice w cases) line ts
        | ts => .error (unexpected (some "word") ts)
      | some word =>
        if keywords.contains word then .error (unexpected none ts)
        else
          match rest with
          | .sign ['('] _ :: rest =>
            let ts ← match rest with
              | .word w line :: _ =>
                if (plainText? w).isSome then
                  .error ("word unexpected (expecting \")\")", line)
                else expect ")" rest
              | rest => expect ")" rest
            if ! isName word.toList || specialBuiltins.contains word then
              .error ("Bad function name", line)
            else
              let (body, ts) ← readCommand fuel (skipLines ts)
              return (.define word.toList body, ts)
          | _ =>
            let (s, ts) ← readSimple { line := line } ts
            return (.simple s, ts)
      | none =>
        let (s, ts) ← readSimple { line := line } ts
        return (.simple s, ts)

/-- Read a condition and what hangs on it. -/
def readBranches : Nat → List Token → Reading (Script × List Token)
  | 0, _ => .error tooLong
  | fuel + 1, ts => do
    let (condition, ts) ← readList fuel .block ts
    let ts ← expect "then" ts
    let (yes, ts) ← readList fuel .block ts
    match ts with
    | t :: rest =>
      match t.plain? with
      | some "elif" =>
        let (no, ts) ← readBranches fuel rest
        return (.branch condition yes no, ts)
      | some "else" =>
        let (no, ts) ← readList fuel .block rest
        let ts ← expect "fi" ts
        return (.branch condition yes no, ts)
      | _ =>
        let ts ← expect "fi" ts
        return (.branch condition yes .nothing, ts)
    | [] => .error (unexpected none [])

def readLoop : Nat → Bool → List Token → Reading (Script × List Token)
  | 0, _, _ => .error tooLong
  | fuel + 1, wanted, ts => do
    let (condition, ts) ← readList fuel .block ts
    let ts ← expect "do" ts
    let (body, ts) ← readList fuel .block ts
    let ts ← expect "done" ts
    return (.loop wanted condition body, ts)

def readEach : Nat → List Token → Reading (Script × List Token)
  | 0, _ => .error tooLong
  | fuel + 1, ts => do
    match ts with
    | .word w line :: rest =>
      match plainText? w with
      | some name =>
        if ! isName name.toList then .error ("Bad for loop variable", line)
        else
          let rest := skipLines rest
          let (words, ts) ← match rest with
            | t :: more =>
              if t.plain? = some "in" then do
                let (words, ts) ← readWords [] more
                pure (some words, ts)
              else if t.sign? = some ";" then pure (none, more)
              else pure (none, rest)
            | [] => pure (none, [])
          let ts ← expect "do" (skipLines ts)
          let (body, ts) ← readList fuel .block ts
          let ts ← expect "done" ts
          return (.each name.toList words body, ts)
      | none => .error ("Bad for loop variable", line)
    | .wrong fault line :: _ => .error (fault, line)
    | t :: _ => .error ("Bad for loop variable", t.line)
    | [] => .error (unexpected none [])

def readCases : Nat → List Token → Reading (Script × List Token)
  | 0, _ => .error tooLong
  | fuel + 1, ts => do
    match skipLines ts with
    | t :: rest =>
      if t.plain? = some "esac" then return (.nothing, rest)
      else
        let ts := if t.sign? = some "(" then rest else t :: rest
        let (patterns, ts) ← readPatterns [] ts
        let (body, ts) ← readList fuel .body ts
        match skipLines ts with
        | .sign [';', ';'] _ :: ts =>
          let (more, ts) ← readCases fuel ts
          return (.case patterns body more, ts)
        | t :: rest =>
          if t.plain? = some "esac" then return (.case patterns body .nothing, rest)
          else .error (unexpected (some "\";;\"") (t :: rest))
        | [] => .error (unexpected none [])
    | [] => .error (unexpected none [])

end

/-- Read as much of a script as runs before more of it is read; none at its end. -/
def Script.read? (ts : List Token) : Reading (Option (Script × List Token)) :=
  match ts with
  | [] | [.ended _] => .ok none
  | ts => do
    let (found, rest) ← readRow (8 * ts.length + 8) .line none ts
    return found.map fun c => (c, rest)

end SchemaFormat.Shell
