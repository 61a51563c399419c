import SchemaFormat.Shell.Condition
import SchemaFormat.Shell.Printf
import SchemaFormat.Shell.Program
import SchemaFormat.Shell.Tool.Basic

/-!
The programs that print or test their arguments.
-/

namespace SchemaFormat.Shell.Tool

/-- Print the arguments; their escapes are replaced if `escapes` says so. -/
def echo (escapes : Bool) (args : List (List Char)) : List Char :=
  let (silent, escapes, args) := match args with
    | ['-', 'n'] :: rest => (true, escapes, rest)
    | ['-', 'e'] :: rest => if escapes then (false, true, args) else (false, true, rest)
    | args => (false, escapes, args)
  let text := Text.join [' '] args
  if escapes then
    let (made, ended) := unescaped text
    if silent || ended then made else made ++ ['\n']
  else if silent then text else text ++ ['\n']

/-- Print arguments by a format; a function puts a fault into words and gives the status that it
ends with. -/
def printf (label : List Char) (words : FormatFault → List Char × Nat) (args : List (List Char)) :
    Action Nat := do
  let args := match args with
    | ['-', '-'] :: rest => rest
    | args => args
  match args with
  | [] =>
    complainOf [label, ": missing operand".toList]
    return 1
  | format :: args =>
    let (text, faults) := formatted format args
    let status ← emit "printf" text
    faults.foldlM
      (fun status fault => do
        complainOf [label, ": ".toList, (words fault).1]
        return max status (words fault).2)
      status

def formatWords : FormatFault → List Char × Nat
  | .noNumber text => (quotedName text ++ ": expected a numeric value".toList, 1)
  | .notWhole text => (quotedName text ++ ": value not completely converted".toList, 1)
  | .outOfRange text => (quotedName text ++ ": Numerical result out of range".toList, 1)
  | .noDirective text => (text ++ ": invalid conversion specification".toList, 1)
  | .nothingBehind => ("%: invalid conversion specification".toList, 1)

def test (args : List (List Char)) : Action Nat := do
  match Condition.holds (← get) args with
  | .ok b => return if b then 0 else 1
  | .error fault =>
    complainOf ["test: ".toList, fault.message]
    return 2

/-- Whether a text is a time: a number, maybe with a fraction and a unit. -/
def isTime (text : List Char) : Bool :=
  let (whole, rest) := Text.leadingDigits 10 text
  let (part, rest) := match rest with
    | '.' :: rest => Text.leadingDigits 10 rest
    | rest => ([], rest)
  ! (whole.isEmpty && part.isEmpty) &&
    (rest.isEmpty || rest == ['s'] || rest == ['m'] || rest == ['h'] || rest == ['d'])

/-- Do nothing for some time, which is not waited for. -/
def sleep (args : List (List Char)) : Action Nat := do
  let wrong := args.filter (! isTime ·)
  if args.isEmpty then complain "sleep: missing operand"
  wrong.forM fun a => complainOf ["sleep: invalid time interval ".toList, quotedName a]
  if args.isEmpty || ! wrong.isEmpty then
    complain "Try 'sleep --help' for more information."
    return 1
  else return 0

def lastPart (args : List (List Char)) : Action Nat := do
  match args with
  | [] =>
    complain "basename: missing operand
Try 'basename --help' for more information."
    return 1
  | path :: rest =>
    let trimmed := Text.trimEnd (· == '/') path
    let name := if trimmed.isEmpty && ! path.isEmpty then ['/']
      else (trimmed.reverse.takeWhile (· ≠ '/')).reverse
    let ending := rest.head?.getD []
    let short := if ending.isSuffixOf name && ending.length < name.length then
        name.take (name.length - ending.length) else name
    emit "basename" (short ++ ['\n'])

def firstParts (args : List (List Char)) : Action Nat := do
  match args with
  | [] =>
    complain "dirname: missing operand
Try 'dirname --help' for more information."
    return 1
  | paths =>
    emit "dirname" (paths.flatMap fun path =>
      let trimmed := Text.trimEnd (· == '/') path
      let before := (trimmed.reverse.dropWhile (· ≠ '/')).reverse
      let kept := Text.trimEnd (· == '/') before
      (if ! kept.isEmpty then kept
        else if before.isEmpty && ! (trimmed.isEmpty && ! path.isEmpty) then ['.']
        else ['/']) ++ ['\n'])

def wholeNumber? (text : List Char) : Option Int :=
  match text with
  | '-' :: rest => (count? rest).map fun n => -(n : Int)
  | text => (count? text).map fun n => (n : Int)

def seq (args : List (List Char)) : Action Nat := do
  let range : Option (Int × Int × Int) := match args.mapM wholeNumber? with
    | some [last] => some (1, 1, last)
    | some [first, last] => some (first, 1, last)
    | some [first, step, last] => some (first, step, last)
    | _ => none
  match range with
  | none =>
    match args.find? fun a => (wholeNumber? a).isNone with
    | some wrong =>
      complainHelp "seq" ["invalid floating point argument: ".toList, quotedName wrong]
    | none =>
      if args.isEmpty then complainHelp "seq" ["missing operand".toList]
      else complainHelp "seq" ["extra operand ".toList, quotedName ((args.drop 3).head?.getD [])]
    return 1
  | some (first, step, last) =>
    if step = 0 then
      complainHelp "seq" ["invalid Zero increment value: ".toList, quotedName ['0']]
      return 1
    else
      let count := ((last - first).fdiv step + 1).toNat
      emit "seq" ((List.range count).flatMap fun (n : Nat) =>
        (toString (first + step * n)).toList ++ ['\n'])

def printenv (args : List (List Char)) : Action Nat := do
  let m ← get
  let values := args.map fun name =>
    if m.shared.contains name then m.settings.lookup name else none
  let _ ← emit "printenv" (values.flatMap fun value =>
    match value with
    | some value => value ++ ['\n']
    | none => [])
  return if values.any Option.isNone then 1 else 0

def yes (args : List (List Char)) : Action Nat := do
  let text := if args.isEmpty then ['y'] else Text.join [' '] args
  modify fun m =>
    match m.channel? 1 with
    | some (n, .waiting []) => m.setChannel n (.endless (text ++ ['\n']))
    | _ => m
  return 0

def which (args : List (List Char)) : Action Nat := do
  let m ← get
  let found := args.map fun name =>
    locateProgram m.files m.directory (searchPathIn m) (Bytes.ofUnits name)
  let _ ← emit "which" (found.flatMap fun place =>
    match place with
    | .ok (_, path) => Bytes.units path.bytes ++ ['\n']
    | .error _ => [])
  return if found.all fun place => place.toOption.isSome then 0 else 1

end SchemaFormat.Shell.Tool
