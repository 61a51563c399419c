import SchemaFormat.Shell.Token

/-!
Arithmetic in scripts.

An expression is made of numbers, names of variables, operators and parentheses, and it may give
variables values. Numbers are whole and have 64 bits; they are written to the base ten, eight or
sixteen. A comparison is one or zero. An expression is read as a tree first, and the tree is
evaluated on the values of variables.
-/

namespace SchemaFormat.Shell

def dropBlanks (text : List Char) : List Char :=
  text.dropWhile fun c => c == ' ' || c == '\t' || c == '\n'

inductive Expression where
  | number (n : Int)
  | named (name : List Char)
  /-- An operator in front of an expression. -/
  | front (operator : Char) (e : Expression)
  | between (operator : String) (a b : Expression)
  | choice (condition yes no : Expression)
  /-- The variable gets what an operator makes of its value and of the expression. -/
  | assigned (name : List Char) (operator : String) (e : Expression)
  deriving Repr

inductive ArithmeticFault where
  /-- Something else has to stand here. -/
  | expecting (what : String)
  | divisionByZero
  /-- A variable holds no number. -/
  | noNumber (text : List Char)
  deriving DecidableEq, Repr

/-- The operators between two expressions, tightest first, each level with its signs. -/
def operators : List (List String) :=
  [["*", "/", "%"], ["+", "-"], ["<<", ">>"], ["<=", ">=", "<", ">"], ["==", "!="], ["&"], ["^"],
    ["|"], ["&&"], ["||"]]

/-- The signs of all operators, the longest first. -/
def operatorSigns : List String :=
  ["<<=", ">>=", "<<", ">>", "<=", ">=", "==", "!=", "&&", "||", "*=", "/=", "%=", "+=", "-=", "&=",
    "^=", "|=", "=", "*", "/", "%", "+", "-", "<", ">", "&", "^", "|", "!", "~", "(", ")", "?", ":"]

def operatorIn? (text : List Char) : Option String :=
  operatorSigns.find? fun op => op.toList.isPrefixOf text

/-- The number that a text begins with: a leading zero stands for the base eight, and an x behind it
for sixteen. -/
def numberIn (text : List Char) : Nat × List Char :=
  match text with
  | '0' :: 'x' :: rest | '0' :: 'X' :: rest =>
    let (found, rest) := Text.leadingDigits 16 rest
    (Text.numberOf 16 found, rest)
  | '0' :: _ =>
    let (found, rest) := Text.leadingDigits 8 text
    (Text.numberOf 8 found, rest)
  | _ =>
    let (found, rest) := Text.leadingDigits 10 text
    (Text.numberOf 10 found, rest)

def wrapped (n : Int) : Int :=
  n.bmod (Nat.pow 2 64)

/-- What reading an expression gives: it and the text behind it. -/
abbrev ExpressionReading := Except ArithmeticFault (Expression × List Char)

mutual

/-- Read an expression that may give a variable a value. -/
def readAssignment : Nat → List Char → ExpressionReading
  | 0, _ => .error (.expecting "primary")
  | fuel + 1, text =>
    let start := dropBlanks text
    let name :=
      if (start.head?.map startsName).getD false then start.takeWhile continuesName else []
    let rest := dropBlanks (start.drop name.length)
    match operatorIn? rest with
    | some op =>
      if ! name.isEmpty && op.endsWith "=" && ! ["<=", ">=", "==", "!="].contains op then do
        let (e, rest) ← readAssignment fuel (rest.drop op.length)
        return (.assigned name (String.ofList op.toList.dropLast) e, rest)
      else readConditional fuel text
    | none => readConditional fuel text

/-- Read an expression with at most one condition in front. -/
def readConditional : Nat → List Char → ExpressionReading
  | 0, _ => .error (.expecting "primary")
  | fuel + 1, text => do
    let (condition, rest) ← readLevel fuel operators.reverse text
    match dropBlanks rest with
    | '?' :: rest =>
      let (yes, rest) ← readAssignment fuel rest
      match dropBlanks rest with
      | ':' :: rest =>
        let (no, rest) ← readConditional fuel rest
        return (.choice condition yes no, rest)
      | _ => .error (.expecting "':'")
    | _ => return (condition, rest)

/-- Read an expression of the operators of a level and of the tighter ones, the level being the
first of those given. -/
def readLevel : Nat → List (List String) → List Char → ExpressionReading
  | 0, _, _ => .error (.expecting "primary")
  | fuel + 1, levels, text =>
    match levels with
    | [] => readOperand fuel text
    | level :: tighter => do
      let (a, rest) ← readLevel fuel tighter text
      readBehind fuel level tighter a rest

/-- Read the operands that are joined to one. -/
def readBehind : Nat → List String → List (List String) → Expression → List Char → ExpressionReading
  | 0, _, _, _, _ => .error (.expecting "primary")
  | fuel + 1, level, tighter, a, text => do
    let rest := dropBlanks text
    match operatorIn? rest with
    | some op =>
      if level.contains op then
        let (b, rest) ← readLevel fuel tighter (rest.drop op.length)
        readBehind fuel level tighter (.between op a b) rest
      else return (a, text)
    | none => return (a, text)

def readOperand : Nat → List Char → ExpressionReading
  | 0, _ => .error (.expecting "primary")
  | fuel + 1, text => do
    match dropBlanks text with
    | '(' :: rest =>
      let (e, rest) ← readAssignment fuel rest
      match dropBlanks rest with
      | ')' :: rest => return (e, rest)
      | _ => .error (.expecting "')'")
    | c :: rest =>
      if c = '-' ∨ c = '+' ∨ c = '!' ∨ c = '~' then
        let (e, rest) ← readOperand fuel rest
        return (.front c e, rest)
      else if c.isDigit then
        let (n, rest) := numberIn (c :: rest)
        return (.number (min n (Nat.pow 2 63 - 1)), rest)
      else if startsName c then
        let name := (c :: rest).takeWhile continuesName
        return (.named name, (c :: rest).drop name.length)
      else .error (.expecting "primary")
    | [] => .error (.expecting "primary")

end

def Expression.parse (text : List Char) : Except ArithmeticFault Expression :=
  match readAssignment (16 * text.length + 32) text with
  | .ok (e, rest) => if (dropBlanks rest).isEmpty then .ok e else .error (.expecting "EOF")
  | .error fault => .error fault

def applyOperator (op : String) (a b : Int) : Except ArithmeticFault Int :=
  let truth (b : Bool) : Except ArithmeticFault Int := .ok (if b then 1 else 0)
  let bits (n : Int) : Nat := (n.emod (Int.pow 2 64)).toNat
  match op with
  | "*" => .ok (wrapped (a * b))
  | "/" => if b = 0 then .error .divisionByZero else .ok (wrapped (a.tdiv b))
  | "%" => if b = 0 then .error .divisionByZero else .ok (a.tmod b)
  | "+" => .ok (wrapped (a + b))
  | "-" => .ok (wrapped (a - b))
  | "<<" => .ok (wrapped (a * Int.pow 2 (bits b % 64)))
  | ">>" => .ok (a.fdiv (Int.pow 2 (bits b % 64)))
  | "<=" => truth (a ≤ b)
  | ">=" => truth (b ≤ a)
  | "<" => truth (a < b)
  | ">" => truth (b < a)
  | "==" => truth (a == b)
  | "!=" => truth (a != b)
  | "&" => .ok (wrapped ((bits a) &&& (bits b) : Nat))
  | "^" => .ok (wrapped ((bits a) ^^^ (bits b) : Nat))
  | "|" => .ok (wrapped ((bits a) ||| (bits b) : Nat))
  | _ => .ok b

/-- The number that the value of a variable is; an empty one is zero. -/
def numberOfValue (text : List Char) : Except ArithmeticFault Int :=
  let start := dropBlanks text
  let (negative, digits) := match start with
    | '-' :: rest => (true, rest)
    | '+' :: rest => (false, rest)
    | rest => (false, rest)
  let (n, rest) := numberIn digits
  if text.isEmpty then .ok 0
  else if digits.isEmpty || ! (dropBlanks rest).isEmpty then .error (.noNumber text)
  else .ok (wrapped (if negative then -n else n))

abbrev Values := List (List Char × List Char)

/-- The value of an expression, and the values of variables behind it. -/
def Expression.value (vars : Values) : Expression → Except ArithmeticFault (Int × Values)
  | .number n => .ok (n, vars)
  | .named name => do return (← numberOfValue ((vars.lookup name).getD []), vars)
  | .front op e => do
    let (n, vars) ← e.value vars
    return (match op with
      | '-' => wrapped (-n)
      | '!' => if n = 0 then 1 else 0
      | '~' => -n - 1
      | _ => n, vars)
  | .between "&&" a b => do
    let (n, vars) ← a.value vars
    if n = 0 then return (0, vars)
    else
      let (m, vars) ← b.value vars
      return (if m = 0 then 0 else 1, vars)
  | .between "||" a b => do
    let (n, vars) ← a.value vars
    if n ≠ 0 then return (1, vars)
    else
      let (m, vars) ← b.value vars
      return (if m = 0 then 0 else 1, vars)
  | .between op a b => do
    let (n, vars) ← a.value vars
    let (m, vars) ← b.value vars
    return (← applyOperator op n m, vars)
  | .choice c yes no => do
    let (n, vars) ← c.value vars
    if n ≠ 0 then yes.value vars else no.value vars
  | .assigned name op e => do
    let (m, vars) ← e.value vars
    let n ← if op.isEmpty then pure m
      else applyOperator op (← numberOfValue ((vars.lookup name).getD [])) m
    return (n, (name, (toString n).toList) :: vars.filter (·.1 ≠ name))

end SchemaFormat.Shell
