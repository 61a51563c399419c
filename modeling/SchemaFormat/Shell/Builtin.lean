import SchemaFormat.Shell.Program
import SchemaFormat.Shell.Reader
import SchemaFormat.Shell.Tools

/-!
The commands that a script carries out itself.

They change the machine that the script runs on, or end more than a command: what happens behind one
is a `Flow`. A fault of a special command ends the script.
-/

namespace SchemaFormat.Shell

/-- What happens behind a command. -/
inductive Flow where
  | next (status : Nat)
  /-- So many loops are left. -/
  | breaks (levels : Nat)
  /-- So many loops, less one, are left, and the one around them goes on. -/
  | continues (levels : Nat)
  /-- A function is left. -/
  | returns (status : Nat)
  | exits (status : Nat)
  | killed (signal : Nat)
  deriving DecidableEq, Repr

def valueOf? (name : List Char) : Action (Option (List Char)) := do
  return (← get).settings.lookup name

def decimal (n : Nat) : List Char := Nat.toDigits 10 n

/-- A complaint of a script: its name, the line, and what is wrong. -/
def scriptComplaint (text : List Char) : Action Unit := do
  let m ← get
  complainOf [m.name, ": ".toList, decimal m.line, ": ".toList, text]

/-- A word cannot be expanded, or a variable cannot get a value: the script has to end. -/
def breakOff (text : List Char) : Action Unit := do
  scriptComplaint text
  modify fun m => { m with broken := true }

def assign (name value : List Char) : Action Unit := do
  if (← get).fixed.contains name then breakOff (name ++ ": is read only".toList)
  else modify fun m => { m with settings := (name, value) :: m.settings.filter (·.1 ≠ name) }

/-- The characters that separate the fields of an expansion. -/
def separators : Action (List Char) := do
  return ((← valueOf? "IFS".toList)).getD [' ', '\t', '\n']

/-- The number that an argument is, if it is not too large for one. -/
def argumentCount? (text : List Char) : Option Nat :=
  (count? text).filter (· < Nat.pow 2 31)

def illegalNumber (tool : String) (text : List Char) : Action Unit :=
  scriptComplaint ((tool ++ ": Illegal number: ").toList ++ text)

namespace Builtin

/-! ### Signals -/

/-- The names of the signals, the first one first. -/
def signalWords : List String := [
  "HUP", "INT", "QUIT", "ILL", "TRAP", "ABRT", "BUS", "FPE", "KILL", "USR1", "SEGV", "USR2",
  "PIPE", "ALRM", "TERM", "16", "CHLD", "CONT", "STOP", "TSTP", "TTIN", "TTOU", "URG", "XCPU",
  "XFSZ", "VTALRM", "PROF", "WINCH", "IO", "PWR", "SYS"]

/-- The number of a signal; zero stands for the end of the script. -/
def signalNumber? (text : List Char) : Option Nat :=
  match count? text with
  | some n => if n < 65 then some n else none
  | none =>
    let upper := String.ofList (text.map Char.toUpper)
    if upper = "EXIT" then some 0
    else if upper = "RTMIN" then some 34
    else if upper = "RTMAX" then some 64
    else (signalWords.findIdx? (· == upper)).map (· + 1)

/-- Whether a process that does nothing about a signal outlives it. -/
def outlives (signal : Nat) : Bool :=
  signal == 0 || signal == 17 || signal == 18 || signal == 19 || signal == 20 || signal == 21 ||
    signal == 22 || signal == 23 || signal == 28

def killUsage : String := "kill: Usage: kill [-s sigspec | -signum | -sigspec] [pid | job]... or
kill -l [exitstatus]"

def killAll (signal : Nat) : Nat → List (List Char) → Action Flow
  | status, [] => return .next status
  | status, target :: rest => do
    let m ← get
    match argumentCount? (if target.head? = some '-' then target.drop 1 else target) with
    | none =>
      illegalNumber "kill" (if target.head? = some '-' then target.drop 1 else target)
      return .next 2
    | some n =>
      if n = m.process ∨ n = 0 then
        if outlives signal then killAll signal status rest else return .killed signal
      else
        scriptComplaint "kill: No such process\n".toList
        killAll signal 1 rest

def kill (args : List (List Char)) : Action Flow := do
  let send (signal : Nat) (targets : List (List Char)) : Action Flow := do
    if targets.isEmpty then
      scriptComplaint killUsage.toList
      return .next 2
    else killAll signal 0 targets
  let named (name : List Char) (rest : List (List Char)) : Action Flow := do
    match signalNumber? name with
    | some signal => send signal rest
    | none =>
      scriptComplaint ("kill: invalid signal number or name: ".toList ++ name)
      return .next 2
  match args with
  | [['-', 's']] =>
    scriptComplaint "kill: No arg for -s option".toList
    return .next 2
  | ['-', 's'] :: name :: rest => named name rest
  | ['-', 'l'] :: a :: _ =>
    match argumentCount? a with
    | some n =>
      let name := if n % 128 = 0 then "0" else (signalWords[n % 128 - 1]?).getD (toString (n % 128))
      let _ ← put 1 (name.toList ++ ['\n'])
      return .next 0
    | none =>
      illegalNumber "kill" a
      return .next 2
  | ['-', '-'] :: rest => send 15 rest
  | ('-' :: name) :: rest =>
    match signalNumber? name with
    | some signal => send signal rest
    | none =>
      match name with
      | 's' :: name => named name rest
      | name =>
        scriptComplaint ("kill: Illegal option -".toList ++ name.take 1)
        return .next 2
  | rest => send 15 rest

/-- Remember what is to be done at signals. -/
def trap (args : List (List Char)) : Action Flow := do
  let (action, signals) := match args with
    | ['-', '-'] :: action :: signals | action :: signals =>
      if signals.isEmpty then (none, [action])
      else (if action = ['-'] then none else some action, signals)
    | [] => (none, [])
  match signals.find? fun s => (signalNumber? s).isNone with
  | some wrong =>
    complainOf ["trap: ".toList, wrong, ": bad trap".toList]
    return .next 1
  | none =>
    let numbers := signals.filterMap signalNumber?
    modify fun m =>
      let kept := m.traps.filter fun t => ! numbers.contains t.1
      { m with traps := match action with
          | some action => numbers.map (·, action) ++ kept
          | none => kept }
    return .next 0

/-! ### Variables -/

/-- Cut a line into as many words as there are variables; the last one gets the rest. -/
def readFields (separators : List Char) :
    List (List Char) → List Char → List (List Char × List Char)
  | [], _ => []
  | [name], text =>
    let isBlank (c : Char) := separators.contains c && (c == ' ' || c == '\t')
    [(name, Text.trimEnd isBlank (text.dropWhile isBlank))]
  | name :: more, text =>
    let isBlank (c : Char) := separators.contains c && (c == ' ' || c == '\t')
    let text := text.dropWhile isBlank
    let word := text.takeWhile fun c => ! separators.contains c
    let rest := (text.drop word.length).dropWhile isBlank
    let rest := if (rest.head?.map separators.contains).getD false then rest.drop 1 else rest
    (name, word) :: readFields separators more rest

def unquotedLine (seen : List Char) : List Char → List Char
  | '\\' :: c :: rest => unquotedLine (c :: seen) rest
  | c :: rest => unquotedLine (c :: seen) rest
  | [] => seen.reverse

def read (args : List (List Char)) : Action Flow := do
  let (raw, names) := match args with
    | ['-', 'r'] :: names => (true, names)
    | names => (false, names)
  if names.isEmpty then
    scriptComplaint "read: arg count".toList
    return .next 2
  else
    let line ← takeLine 0
    let text := (line.getD []).filter (· ≠ '\n')
    let text := if raw then text else unquotedLine [] text
    (readFields (← separators) names text).forM fun (name, value) => assign name value
    return .next (match line with
      | some line => if line.getLast? = some '\n' then 0 else 1
      | none => 1)

/-- Give variables that arguments name their values; the answer is the names. -/
def declare (args : List (List Char)) : Action (List (List Char)) :=
  args.mapM fun a => do
    let name := a.takeWhile (· ≠ '=')
    if name.length < a.length then assign name (a.drop (name.length + 1))
    return name

/-- Let a function change variables for itself only. -/
def localNames (args : List (List Char)) : Action Flow := do
  match (← get).locals with
  | none =>
    scriptComplaint "local: not in a function".toList
    return .next 2
  | some _ =>
    args.forM fun a => do
      let name := a.takeWhile (· ≠ '=')
      modify fun m =>
        { m with locals := m.locals.map fun saved => saved ++ [(name, m.settings.lookup name)] }
    let _ ← declare args
    return .next 0

/-- The letters of options, with their long names. -/
def optionWords : List (Char × String) := [
  ('e', "errexit"), ('f', "noglob"), ('I', "ignoreeof"), ('i', "interactive"), ('m', "monitor"),
  ('n', "noexec"), ('s', "stdin"), ('x', "xtrace"), ('v', "verbose"), ('V', "vi"), ('E', "emacs"),
  ('C', "noclobber"), ('a', "allexport"), ('b', "notify"), ('u', "nounset")]

/-- Set options, or take them back; the answer is the arguments behind them, or the option that is
none. -/
def setOptions : Nat → List (List Char) → Action (Except (List Char) (Option (List (List Char))))
  | 0, _ => return .ok none
  | fuel + 1, args => do
    let change (on : Bool) (letter : Char) : Action Unit :=
      modify fun m =>
        let others := m.options.filter (· ≠ letter)
        { m with options := if on then letter :: others else others }
    match args with
    | [] => return .ok none
    | ['-', '-'] :: rest | ['-'] :: rest => return .ok (some rest)
    | (sign :: letters) :: rest =>
      if (sign = '-' ∨ sign = '+') ∧ ! letters.isEmpty then
        let plain := letters.filter (· ≠ 'o')
        match plain.find? fun c => ! optionWords.any (·.1 == c) with
        | some wrong => return .error ['-', wrong]
        | none =>
          plain.forM (change (sign = '-'))
          if letters.contains 'o' then
            match rest with
            | [] => return .ok none
            | name :: rest =>
              match optionWords.find? (·.2.toList == name) with
              | some (letter, _) =>
                change (sign = '-') letter
                setOptions fuel rest
              | none => return .error (['-', 'o', ' '] ++ name)
          else setOptions fuel rest
      else return .ok (some args)
    | args => return .ok (some args)

/-! ### Places -/

def directoryText (m : Machine) : List Char :=
  Bytes.units (if m.directory = [] then [Path.slash] else m.directory.flatMap (Path.slash :: ·))

def cd (args : List (List Char)) : Action Flow := do
  let m ← get
  let (target, shown) := match args with
    | ['-'] :: _ => ((m.settings.lookup "OLDPWD".toList).getD (directoryText m), true)
    | target :: _ => (target, false)
    | [] => ((m.settings.lookup "HOME".toList).getD [], false)
  match m.files.lookup true m.directory
    (Machine.pathOf (if target.isEmpty then ['.'] else target)) with
  | .found place .directory =>
    set { m with directory := place }
    assign "OLDPWD".toList (directoryText m)
    assign "PWD".toList (directoryText (← get))
    if shown then
      let _ ← put 1 (directoryText (← get) ++ ['\n'])
    return .next 0
  | _ =>
    scriptComplaint ("cd: can't cd to ".toList ++ target)
    return .next 2

def names : List String := specialBuiltins ++ [
  "true", "false", "echo", "printf", "kill", "cd", "pwd", "read", "test", "[", "local", "wait",
  "umask", "ulimit", "hash", "alias", "unalias", "jobs", "type", "command"]

/-- Where a command of that name is found: its path, or its name if a script carries it out itself.
-/
def whereabouts? (m : Machine) (name : List Char) : Option (List Char) :=
  if (m.functions.lookup name).isSome || names.contains (String.ofList name) ||
      keywords.contains (String.ofList name) then some name
  else
    match locateProgram m.files m.directory (searchPathIn m) (Bytes.ofUnits name) with
    | .ok (_, path) => some (Bytes.units path.bytes)
    | .error _ => none

def type (args : List (List Char)) : Action Flow := do
  let m ← get
  let status ← args.foldlM
    (fun status name => do
      let text := String.ofList name
      let kind ← match whereabouts? m name with
        | none => pure ": not found".toList
        | some path =>
          if keywords.contains text then pure " is a shell keyword".toList
          else if (m.functions.lookup name).isSome then pure " is a shell function".toList
          else if specialBuiltins.contains text then pure " is a special shell builtin".toList
          else if names.contains text then pure " is a shell builtin".toList
          else pure (" is ".toList ++ path)
      let _ ← put 1 (name ++ kind ++ ['\n'])
      return if (whereabouts? m name).isNone then 127 else status)
    0
  return .next status

/-- Leave loops, or go on with one of them. -/
def leave (tool : String) (made : Nat → Flow) (args : List (List Char)) : Action Flow := do
  let depth := (← get).loops
  let levels := match args with
    | [] => some 1
    | a :: _ => (argumentCount? a).filter (0 < ·)
  match levels with
  | some n => return if depth = 0 then .next 0 else made (min n depth)
  | none =>
    illegalNumber tool (args.head?.getD [])
    return .exits 2

def finish (tool : String) (made : Nat → Flow) (args : List (List Char)) : Action Flow := do
  match args with
  | [] => return made (← get).last
  | a :: _ =>
    match argumentCount? a with
    | some n => return made (n % 256)
    | none =>
      illegalNumber tool a
      return .exits 2

/-- A fault of a format in the words of a script's complaint, and its status. -/
def formatWords : FormatFault → List Char × Nat
  | .noNumber text => (text ++ ": expected numeric value".toList, 1)
  | .notWhole text => (text ++ ": not completely converted".toList, 1)
  | .outOfRange text => (text ++ ": Numerical result out of range".toList, 1)
  | .noDirective text => (text ++ ": invalid directive".toList, 2)
  | .nothingBehind => ("missing format character".toList, 2)

def carryOut (name : String) (args : List (List Char)) : Action Flow := do
  let printed : Action Flow := do
    let label := (← get).name ++ ": ".toList ++ decimal (← get).line ++ ": printf".toList
    return .next (← Tool.printf label formatWords args)
  match name with
  | "false" => return .next 1
  | "echo" =>
    match ← put 1 (Tool.echo true args) with
    | none => return .next 0
    | some _ =>
      scriptComplaint "echo: echo: I/O error".toList
      return .next 1
  | "printf" =>
    match args with
    | [] | [['-', '-']] =>
      scriptComplaint "printf: usage: printf format [arg ...]".toList
      return .next 2
    | ('-' :: c :: _) :: _ =>
      if c ≠ '-' then
        scriptComplaint ("printf: Illegal option -".toList ++ [c])
        return .next 2
      else printed
    | _ => printed
  | "exit" => finish name .exits args
  | "return" => finish name .returns args
  | "kill" => kill args
  | "trap" => trap args
  | "break" => leave name .breaks args
  | "continue" => leave name .continues args
  | "cd" => cd args
  | "pwd" =>
    let _ ← put 1 (directoryText (← get) ++ ['\n'])
    return .next 0
  | "read" => read args
  | "type" => type args
  | "test" | "[" =>
    if name = "[" ∧ args.getLast? ≠ some [']'] then
      scriptComplaint "[: missing ]".toList
      return .next 2
    else
      match Condition.holds (← get) (if name = "[" then args.dropLast else args) with
      | .ok b => return .next (if b then 0 else 1)
      | .error fault =>
        scriptComplaint ((name ++ ": ").toList ++ fault.message)
        return .next 2
  | "shift" =>
    match args.head?.map argumentCount? with
    | some none =>
      illegalNumber name (args.head?.getD [])
      return .exits 2
    | n =>
      let n := (n.getD none).getD 1
      if (← get).arguments.length < n then
        scriptComplaint "shift: can't shift that many".toList
        return .exits 2
      else
        modify fun m => { m with arguments := m.arguments.drop n }
        return .next 0
  | "export" =>
    let names ← declare (args.filter (· ≠ ['-', 'p']))
    modify fun m => { m with shared := names ++ m.shared }
    return .next 0
  | "readonly" =>
    let names ← declare (args.filter (· ≠ ['-', 'p']))
    modify fun m => { m with fixed := names ++ m.fixed }
    return .next 0
  | "local" => localNames args
  | "unset" =>
    match args with
    | ['-', 'f'] :: names =>
      modify fun m => { m with functions := m.functions.filter fun f => ! names.contains f.1 }
    | names =>
      modify fun m => { m with settings := m.settings.filter fun v => ! names.contains v.1 }
    return .next 0
  | "set" =>
    match ← setOptions (args.length + 1) args with
    | .ok none => return .next 0
    | .ok (some rest) =>
      modify fun m => { m with arguments := rest }
      return .next 0
    | .error wrong =>
      scriptComplaint ("set: Illegal option ".toList ++ wrong)
      return .exits 2
  | "umask" =>
    if args.isEmpty then
      let _ ← put 1 "0022\n".toList
    return .next 0
  | _ => return .next 0

end Builtin

end SchemaFormat.Shell
