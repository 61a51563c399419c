import SchemaFormat.Shell.Machine
import SchemaFormat.Shell.Printf

/-!
Conditions.

A condition is a list of texts: tests of files, of texts and of numbers, put together by signs for
negation, "and" and "or" and by parentheses. A text that could be a test as well as an operand is
taken as an operand where a comparison follows it. A condition by itself, which is a text, holds
unless it is empty.
-/

namespace SchemaFormat.Shell

def fileTest (m : Machine) (test : Char) (name : List Char) : Bool :=
  let p := Machine.pathOf name
  match test, m.files.lookup true m.directory p with
  | 'e', .found .. => true
  | 'f', .found _ (.file _) | 'f', .found _ (.program _) => true
  | 'd', .found _ .directory => true
  | 'c', .found _ (.device _) => true
  | 's', .found _ (.file content) => ! content.isEmpty
  | 's', .found _ (.program _) | 's', .found _ .directory => true
  | 'r', .found .. | 'w', .found .. | 'O', .found .. | 'G', .found .. => true
  | 'x', .found _ (.program _) | 'x', .found _ .directory => true
  | 'L', _ | 'h', _ =>
    match m.files.lookup false m.directory p with
    | .found _ (.link _) => true
    | _ => false
  | _, _ => false

inductive ConditionFault where
  | argumentExpected (operator : List Char)
  | unexpectedOperator (text : List Char)
  | parenthesisExpected
  | noNumber (text : List Char)
  deriving DecidableEq, Repr

def ConditionFault.message : ConditionFault → List Char
  | .argumentExpected op => op ++ ": argument expected".toList
  | .unexpectedOperator text => text ++ ": unexpected operator".toList
  | .parenthesisExpected => "closing paren expected".toList
  | .noNumber text => "Illegal number: ".toList ++ text

namespace Condition

def isUnary (text : List Char) : Bool :=
  match text with
  | ['-', c] => "rwxefdcbpugkstznhLOGS".toList.contains c
  | _ => false

def isBinary (text : List Char) : Bool :=
  ["=", "!=", "<", ">", "-eq", "-ne", "-ge", "-gt", "-le", "-lt", "-nt", "-ot", "-ef"].contains
    (String.ofList text)

/-- The first text is an operand, because a comparison follows it or nothing does. -/
def standsAlone (args : List (List Char)) : Bool :=
  match args with
  | _ :: second :: third :: _ => isBinary second && third != [')']
  | [_, _] => false
  | _ => true

/-- The number that a text writes, blanks around it left out. -/
def number? (text : List Char) : Option Int :=
  let start := text.dropWhile fun c => c == ' ' || c == '\t' || c == '\n'
  let (negative, digits) := match start with
    | '-' :: rest => (true, rest)
    | '+' :: rest => (false, rest)
    | rest => (false, rest)
  let (found, rest) := Text.leadingDigits 10 digits
  let n : Int := Text.numberOf 10 found
  if found.isEmpty || rest.any fun c => ! (c == ' ' || c == '\t' || c == '\n') then none
  else some (if negative then -n else n)

def compare (a test b : List Char) : Except ConditionFault Bool :=
  let numbers (holds : Int → Int → Bool) : Except ConditionFault Bool :=
    match number? a, number? b with
    | some n, some k => .ok (holds n k)
    | none, _ => .error (.noNumber a)
    | _, none => .error (.noNumber b)
  match String.ofList test with
  | "=" => .ok (a == b)
  | "!=" => .ok (a != b)
  | "<" => .ok (a < b)
  | ">" => .ok (b < a)
  | "-eq" => numbers (· == ·)
  | "-ne" => numbers (· != ·)
  | "-lt" => numbers (· < ·)
  | "-le" => numbers (· ≤ ·)
  | "-gt" => numbers (· > ·)
  | "-ge" => numbers (· ≥ ·)
  | _ => .ok false

/-- What reading a condition gives: whether it holds, the text read last, and those behind it. -/
abbrev Outcome := Except ConditionFault (Bool × List (List Char))

def unary (m : Machine) (test : List Char) (a : List Char) : Bool :=
  match test with
  | ['-', 'n'] => ! a.isEmpty
  | ['-', 'z'] => a.isEmpty
  | ['-', c] => fileTest m c a
  | _ => false

mutual

/-- Read conditions of which one has to hold. -/
def either (m : Machine) : Nat → List (List Char) → Outcome
  | 0, args => .ok (false, args)
  | fuel + 1, args => do
    let (first, rest) ← both m fuel args
    match rest with
    | last :: ['-', 'o'] :: more =>
      if more.isEmpty then return (first, [last])
      else
        let (second, rest) ← either m fuel more
        return (first || second, rest)
    | rest => return (first, rest)

/-- Read conditions that have to hold all. -/
def both (m : Machine) : Nat → List (List Char) → Outcome
  | 0, args => .ok (false, args)
  | fuel + 1, args => do
    let (first, rest) ← negated m fuel args
    match rest with
    | last :: ['-', 'a'] :: more =>
      if more.isEmpty then return (first, [last])
      else
        let (second, rest) ← both m fuel more
        return (first && second, rest)
    | rest => return (first, rest)

/-- Read a condition that may be negated. -/
def negated (m : Machine) : Nat → List (List Char) → Outcome
  | 0, args => .ok (false, args)
  | fuel + 1, args => do
    match args with
    | ['!'] :: rest =>
      if rest.isEmpty then return (true, args)
      else
        let (holds, rest) ← negated m fuel rest
        return (! holds, rest)
    | args => primary m fuel args

def primary (m : Machine) : Nat → List (List Char) → Outcome
  | 0, args => .ok (false, args)
  | fuel + 1, args => do
    match args with
    | [] => return (false, [])
    | ['('] :: second :: rest =>
      if second = [')'] then return (false, second :: rest)
      else
        let (holds, rest) ← either m fuel (second :: rest)
        match rest with
        | _ :: [')'] :: more => return (holds, [')'] :: more)
        | _ => .error .parenthesisExpected
    | test :: rest =>
      if isUnary test && ! standsAlone args then
        match rest with
        | a :: _ => return (unary m test a, rest)
        | [] => .error (.argumentExpected test)
      else
        match rest with
        | op :: more =>
          if isBinary op then
            match more with
            | b :: _ => return (← compare test op b, more)
            | [] => .error (.argumentExpected op)
          else return (! test.isEmpty, args)
        | [] => return (! test.isEmpty, args)

end

/-- Whether a condition holds. Three texts with a comparison in the middle are that comparison,
whatever the first one is. -/
def holds (m : Machine) (args : List (List Char)) : Except ConditionFault Bool := do
  let fuel := 8 * args.length + 8
  let (answer, rest) ← match args with
    | [a, op, b] =>
      if isBinary op then do pure (← compare a op b, [b]) else either m fuel args
    | args => either m fuel args
  match rest with
  | last :: _ :: _ => .error (.unexpectedOperator last)
  | _ => return answer

end Condition

end SchemaFormat.Shell
