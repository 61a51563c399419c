import SchemaFormat.Text.Digits
import SchemaFormat.Text.Utf8

/-!
Reading the arguments of a command.

A command has options, which are spelled with dashes, and at most one kind of positional argument.
The value of an option stands behind an equals sign or in the next argument, which is the value
whatever it looks like if the option accepts any. Two dashes end the options. What was read is taken
up only when the next option or the end shows that it is complete; then it is seen whether it has a
value, is given too often or has a value that is none. A fault ends the reading.
-/

namespace SchemaFormat.CommandLine

inductive Kind where
  | flag
  | help
  | version
  /-- A value that has to be text. -/
  | text
  /-- A value that has to be something. -/
  | path
  /-- A value that has to be a number below 2^32. -/
  | width
  deriving DecidableEq, Repr

structure Argument where
  /-- The argument as it is named in messages. -/
  display : String
  kind : Kind
  /-- The name behind two dashes. -/
  long : String := ""
  /-- The letter behind one dash. -/
  short : Option Char := none
  /-- It may be given more than once. -/
  many : Bool := false
  /-- Whatever follows it is its value. -/
  takesAny : Bool := false
  deriving DecidableEq, Repr

def Argument.hasValue (a : Argument) : Bool :=
  match a.kind with
  | .flag | .help | .version => false
  | .text | .path | .width => true

inductive UsageFault where
  | unknownArgument (shown : String)
  | unknownSubcommand (shown : String)
  | missingSubcommand (known : List String)
  | missingArgument (display : String)
  | missingValue (display : String)
  | unwantedValue (value display : String)
  | badValue (value display reason : String)
  | repeated (display : String)
  | conflict (display : String) (others : List String)
  | notText
  deriving DecidableEq, Repr

def UsageFault.message : UsageFault → String
  | .unknownArgument shown => s!"unexpected argument '{shown}' found"
  | .unknownSubcommand shown => s!"unrecognized subcommand '{shown}'"
  | .missingSubcommand known =>
    let names := ", ".intercalate known
    s!"'prismafmt' requires a subcommand but one was not provided\n  [subcommands: {names}]"
  | .missingArgument display =>
    s!"the following required arguments were not provided:\n  {display}"
  | .missingValue display => s!"a value is required for '{display}' but none was supplied"
  | .unwantedValue value display =>
    s!"unexpected value '{value}' for '{display}' found; no more were expected"
  | .badValue value display reason => s!"invalid value '{value}' for '{display}': {reason}"
  | .repeated display => s!"the argument '{display}' cannot be used multiple times"
  | .conflict display [other] => s!"the argument '{display}' cannot be used with '{other}'"
  | .conflict display others =>
    s!"the argument '{display}' cannot be used with:" ++ String.join (others.map ("\n  " ++ ·))
  | .notText => "invalid UTF-8 was detected in one or more arguments"

/-- What ends the reading before the end of the arguments. -/
inductive Stop where
  | fault (f : UsageFault)
  | help
  | version
  deriving DecidableEq, Repr

/-- What a command knows. -/
structure Level where
  options : List Argument
  positional : Option Argument := none
  subcommands : List String := []
  deriving Repr

abbrev Given := Argument × List Bytes

structure Reading where
  /-- What is complete, in the order in which it was first given. -/
  given : List Given := []
  /-- What may lack a value, or another one. -/
  pending : Option Given := none
  /-- The next argument is the value of the option that is pending. -/
  awaits : Bool := false
  /-- Two dashes have been read. -/
  positionalOnly : Bool := false
  /-- No positional argument can follow. -/
  full : Bool := false

/-- The values that were given for an argument, if it was given. -/
def valuesOf (given : List Given) (display : String) : Option (List Bytes) :=
  (given.find? (·.1.display == display)).map (·.2)

/-! ### Values -/

def maxWidth : Nat := 4294967295

/-- The width that a text writes, or why it writes none. -/
def readWidth (text : String) : Except String Nat :=
  let (negative, digits) := match text.toList with
    | '-' :: rest => (true, rest)
    | '+' :: rest => (false, rest)
    | rest => (false, rest)
  if text.isEmpty then .error "cannot parse integer from empty string"
  else if digits.isEmpty || ! digits.all Char.isDigit then .error "invalid digit found in string"
  else
    let n := Text.numberOf 10 digits
    if negative && Nat.pow 2 63 < n then .error "number too small to fit in target type"
    else if ! negative && Nat.pow 2 63 ≤ n then .error "number too large to fit in target type"
    else if negative && n ≠ 0 then .error s!"-{n} is not in 0..={maxWidth}"
    else if maxWidth < n then .error s!"{n} is not in 0..={maxWidth}"
    else .ok n

/-- Why a value does not belong to an argument, if it does not. -/
def Argument.refuses (a : Argument) (value : Bytes) : Option UsageFault :=
  match a.kind with
  | .path => if value.isEmpty then some (.missingValue a.display) else none
  | .text =>
    match value.toString? with
    | .ok _ => none
    | .error _ => some .notText
  | .width =>
    match value.toString? with
    | .error _ => some .notText
    | .ok text =>
      match readWidth text with
      | .ok _ => none
      | .error reason => some (.badValue text a.display reason)
  | .flag | .help | .version => none

/-! ### Reading -/

/-- Put an argument behind those given; further values go to those there are. -/
def addGiven (given : List Given) (a : Argument) (values : List Bytes) : List Given :=
  if given.any (·.1.display == a.display) then
    given.map fun g => if g.1.display == a.display then (g.1, g.2 ++ values) else g
  else given ++ [(a, values)]

def accept (given : List Given) (a : Argument) (values : List Bytes) : Except Stop (List Given) :=
  match a.kind with
  | .help => .error .help
  | .version => .error .version
  | _ =>
    if a.hasValue && values.isEmpty then .error (.fault (.missingValue a.display))
    else if ! a.many && (valuesOf given a.display).isSome then .error (.fault (.repeated a.display))
    else
      match values.findSome? a.refuses with
      | some fault => .error (.fault fault)
      | none => .ok (addGiven given a values)

def Reading.settle (r : Reading) : Except Stop Reading :=
  match r.pending with
  | none => .ok { r with awaits := false }
  | some (a, values) =>
    (accept r.given a values).map fun given =>
      { r with given := given, pending := none, awaits := false }

def Reading.accept (r : Reading) (a : Argument) (values : List Bytes) : Except Stop Reading := do
  let r ← r.settle
  let given ← CommandLine.accept r.given a values
  return { r with given := given }

def shown (b : Bytes) : String := b.display

def Reading.positional (level : Level) (r : Reading) (value : Bytes) : Except Stop Reading :=
  let unknown : Except Stop Reading :=
    .error (.fault (if level.subcommands.isEmpty || (r.positionalOnly &&
        level.subcommands.any fun name => Bytes.ofString name = value) then
      .unknownArgument (shown value) else .unknownSubcommand (shown value)))
  match level.positional with
  | none => unknown
  | some a =>
    if r.full then unknown
    else if a.many then
      match r.pending with
      | some (b, values) =>
        if b.display = a.display then .ok { r with pending := some (a, values ++ [value]) }
        else r.settle.map fun r => { r with pending := some (a, [value]) }
      | none => .ok { r with pending := some (a, [value]) }
    else r.settle.map fun r => { r with pending := some (a, [value]), full := true }

/-- Take what follows two dashes: the name of an option, maybe with a value. -/
def Reading.long (level : Level) (r : Reading) (rest : Bytes) : Except Stop Reading :=
  let name := rest.takeWhile (· ≠ 61)
  let value := if name.length < rest.length then some (rest.drop (name.length + 1)) else none
  match level.options.find? fun a => a.long ≠ "" && Bytes.ofString a.long = name with
  | none => .error (.fault (.unknownArgument ("--" ++ shown name)))
  | some a =>
    match a.hasValue, value with
    | true, some value => r.accept a [value]
    | true, none => r.settle.map fun r => { r with pending := some (a, []), awaits := true }
    | false, some value => .error (.fault (.unwantedValue (shown value) a.display))
    | false, none => r.accept a []

def Reading.letters (level : Level) (r : Reading) : List Char → Except Stop Reading
  | [] => .ok r
  | c :: rest =>
    match level.options.find? fun a => a.short = some c with
    | none => .error (.fault (.unknownArgument (String.ofList ['-', c])))
    | some a => do
      let r ← r.accept a []
      r.letters level rest

/-- Take the letters that follow a dash, up to bytes that are no text. -/
def Reading.short (level : Level) (r : Reading) (rest : Bytes) : Except Stop Reading :=
  match rest.toString? with
  | .ok text => r.letters level text.toList
  | .error _ =>
    let text := ((Utf8.pieces rest).takeWhile fun p =>
      match p with
      | .scalar _ => true
      | _ => false).map Utf8.Piece.replacement
    match r.letters level text with
    | .error stop => .error stop
    | .ok _ =>
      let broken := rest.drop (Utf8.encode text).length
      .error (.fault (.unknownArgument ("-" ++ shown broken)))

/-- The pending option takes whatever follows. -/
def Reading.takesAny (r : Reading) : Bool :=
  r.awaits && r.pending.any (·.1.takesAny)

def Reading.take (level : Level) (r : Reading) (arg : Bytes) : Except Stop Reading :=
  let value : Except Stop Reading :=
    match r.awaits, r.pending with
    | true, some (a, values) => .ok { r with pending := some (a, values ++ [arg]), awaits := false }
    | _, _ => r.positional level arg
  if r.positionalOnly then r.positional level arg
  else if r.takesAny then value
  else
    match arg with
    | [45, 45] => .ok { r with positionalOnly := true }
    | 45 :: 45 :: rest => r.long level rest
    | 45 :: c :: rest => r.short level (c :: rest)
    | _ => value

/-- The name of a subcommand that an argument is, where one can stand. -/
def Reading.subcommand? (level : Level) (r : Reading) (arg : Bytes) : Option String :=
  if r.positionalOnly then none else level.subcommands.find? fun name => Bytes.ofString name = arg

/-- Take arguments up to the name of a subcommand or to the end. -/
def Reading.takeAll (level : Level) (r : Reading) :
    List Bytes → Except Stop (List Given × Option (String × List Bytes))
  | [] => r.settle.map fun r => (r.given, none)
  | arg :: rest =>
    match r.subcommand? level arg with
    | some name => .ok (r.given, some (name, rest))
    | none =>
      match r.take level arg with
      | .error stop => .error stop
      | .ok r => r.takeAll level rest

end SchemaFormat.CommandLine
