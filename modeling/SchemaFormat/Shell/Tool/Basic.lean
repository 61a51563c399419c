import SchemaFormat.Shell.Machine
import SchemaFormat.Shell.Naming
import SchemaFormat.Shell.Pattern

/-!
What the programs of a machine have in common.

A program is known by its name and is a computation on the machine that ends with a status. Its
options come first or last; it reads the files that its other arguments name, or else its standard
input; it complains on its error output in its own name. Text is bytes throughout.
-/

namespace SchemaFormat.Shell

/-- The arguments of a program sorted out: its options with their values, and all others. -/
structure Options where
  flags : List (Char × List Char) := []
  operands : List (List Char) := []
  /-- What is wrong with the first option that cannot be taken. -/
  fault : Option (List Char) := none

def Options.has (o : Options) (c : Char) : Bool :=
  o.flags.any (·.1 == c)

def Options.value? (o : Options) (c : Char) : Option (List Char) :=
  o.flags.reverse.lookup c

def Options.add (o : Options) (c : Char) (value : List Char) : Options :=
  { o with flags := o.flags ++ [(c, value)] }

/-- Remember what is wrong with an option, if nothing was wrong before. -/
def Options.refuse (o : Options) (words : List Char) : Options :=
  { o with fault := some (o.fault.getD words) }

/-- What options a program knows: plain ones, and those that take a value. -/
structure KnownOptions where
  plain : List Char := []
  valued : List Char := []

/-- Read the letters of an argument that holds options; a value stands behind its option or in the
next argument. -/
def readLetters (k : KnownOptions) (o : Options) (next : List (List Char)) :
    List Char → Options × List (List Char)
  | [] => (o, next)
  | c :: rest =>
    if k.valued.contains c then
      match rest, next with
      | [], value :: next => (o.add c value, next)
      | [], [] => (o.refuse ("option requires an argument -- '".toList ++ [c, '\'']), [])
      | value, next => (o.add c value, next)
    else if k.plain.contains c then readLetters k (o.add c []) next rest
    else (o.refuse ("invalid option -- '".toList ++ [c, '\'']), next)

/-- Sort arguments out. Behind two dashes no argument holds options. -/
def readOptions (k : KnownOptions) : Nat → Options → List (List Char) → Options
  | 0, o, _ => o
  | fuel + 1, o, args =>
    match args with
    | [] => o
    | ['-', '-'] :: rest => { o with operands := o.operands ++ rest }
    | ('-' :: '-' :: name) :: rest =>
      readOptions k fuel (o.refuse ("unrecognized option '--".toList ++ name ++ ['\''])) rest
    | ('-' :: c :: more) :: rest =>
      let (o, rest) := readLetters k o rest (c :: more)
      readOptions k fuel o rest
    | a :: rest => readOptions k fuel { o with operands := o.operands ++ [a] } rest

def optionsOf (plain valued : String) (args : List (List Char)) : Options :=
  readOptions ⟨plain.toList, valued.toList⟩ (args.length + 1) {} args

def complainHelp (tool : String) (parts : List (List Char)) : Action Unit := do
  complainOf ((tool ++ ": ").toList :: parts)
  complain s!"Try '{tool} --help' for more information."

/-- Carry out what a program makes of its options; if one cannot be taken, it ends with a status. -/
def withOptions (tool : String) (status : Nat) (plain valued : String) (args : List (List Char))
    (run : Options → Action Nat) : Action Nat := do
  let o := optionsOf plain valued args
  match o.fault with
  | none => run o
  | some words =>
    complainHelp tool [words]
    return status

/-- Carry out what a program makes of its options and of other arguments, of which there has to be
at least one. -/
def withOperands (tool what : String) (plain valued : String) (args : List (List Char))
    (run : Options → Action Nat) : Action Nat :=
  withOptions tool 1 plain valued args fun o => do
    if o.operands.isEmpty then
      complainHelp tool [what.toList]
      return 1
    else run o

/-- Write to standard output; what goes wrong is reported in the program's name. -/
def emit (tool : String) (text : List Char) : Action Nat := do
  match ← put 1 text with
  | none => return 0
  | some fault =>
    complain s!"{tool}: write error: {fault.words}"
    return 1

/-- The files that arguments name, or standard input where none is named or the name is a dash. The
status is one if a file could not be read. -/
def sources (operands : List (List Char)) (refuse : List Char → SystemFault → Action Unit) :
    Action (List (Option (List Char) × Source) × Nat) := do
  let closed := ((← get).channel? 0).isNone
  if operands.isEmpty && ! closed then return ([(none, ← takeAll 0)], 0)
  else
    let (found, status) ← (if operands.isEmpty then [['-']] else operands).foldlM
      (fun (found, status) name => do
        if name = ['-'] then
          if closed then
            refuse name .badDescriptor
            return (found, 1)
          else return ((some name, ← takeAll 0) :: found, status)
        else
          match ← readFile name with
          | .ok source => return ((some name, source) :: found, status)
          | .error fault =>
            refuse name fault
            return (found, 1))
      ([], 0)
    return (found.reverse, status)

def allText (operands : List (List Char)) (refuse : List Char → SystemFault → Action Unit) :
    Action (List Char × Nat) := do
  let (found, status) ← sources operands refuse
  return (found.flatMap fun (_, source) => source.chars, status)

def about (tool : String) (before : String) (name : List Char) (after : String)
    (fault : SystemFault) :
    Action Unit :=
  complainOf [(Bytes.ofString s!"{tool}: {before}").units, name,
    (Bytes.ofString s!"{after}: {fault.words}").units]

/-- A complaint about a file whose name is put between quotes only if it needs them. -/
def aboutName (tool before : String) (name : List Char) (fault : SystemFault) : Action Unit :=
  about tool before (nameInText name) "" fault

def aboutQuoted (tool before : String) (name : List Char) (after : String) (fault : SystemFault) :
    Action Unit :=
  about tool before (quotedName name) after fault

def count? (text : List Char) : Option Nat :=
  match leadingNumber text with
  | (some n, []) => some n
  | _ => none

end SchemaFormat.Shell
