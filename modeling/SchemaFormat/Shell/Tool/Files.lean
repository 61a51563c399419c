import SchemaFormat.Shell.Tool.Basic

/-!
The programs that make, copy, list and take away files.

A file that cannot be worked on is reported, and the others are worked on all the same.
-/

namespace SchemaFormat.Shell.Tool

def rm (args : List (List Char)) : Action Nat :=
  withOptions "rm" 1 "firRdvI" "" args fun o => do
    let deep := o.has 'r' || o.has 'R'
    if o.operands.isEmpty && ! o.has 'f' then
      complainHelp "rm" ["missing operand".toList]
      return 1
    o.operands.foldlM
      (fun status name => do
        let m ← get
        let p := Machine.pathOf name
        match m.files.lookup false m.directory p with
        | .found _ .directory =>
          if deep then
            let _ ← changeFiles fun m => m.files.remove m.directory p
            return status
          else
            aboutQuoted "rm" "cannot remove " name "" .isDirectory
            return 1
        | _ =>
          match ← changeFiles fun m => m.files.remove m.directory p with
          | none => return status
          | some fault =>
            if o.has 'f' && fault == .notFound then return status
            else
              aboutQuoted "rm" "cannot remove " name "" fault
              return 1)
      0

def mkdir (args : List (List Char)) : Action Nat :=
  withOperands "mkdir" "missing operand" "pvZ" "m" args fun o => do
    o.operands.foldlM
      (fun status name => do
        let p := Machine.pathOf name
        let fault ← changeFiles fun m =>
          if o.has 'p' then m.files.makeDirectories m.directory p
          else m.files.makeDirectory m.directory p
        match fault with
        | none => return status
        | some fault =>
          aboutQuoted "mkdir" "cannot create directory " name "" fault
          return 1)
      0

def touch (args : List (List Char)) : Action Nat :=
  withOperands "touch" "missing file operand" "acfhm" "drt" args fun o => do
    o.operands.foldlM
      (fun status name => do
        match ← openFile name true with
        | .ok _ => return status
        | .error .isDirectory => return status
        | .error fault =>
          aboutQuoted "touch" "cannot touch " name "" fault
          return 1)
      0

/-- The path that a file gets when it goes to a place: a name in it, if the place is a directory. -/
def destination (m : Machine) (name target : List Char) : Path :=
  let p := Machine.pathOf target
  if m.files.isDirectory m.directory p then
    p.join ⟨((Machine.pathOf name).fileName?).getD []⟩
  else p

def copy (tool : String) (move : Bool) (args : List (List Char)) : Action Nat :=
  withOperands tool "missing file operand" "abdfiHlLnPpRrsTuvxZ" "St" args fun o => do
    match o.operands.reverse with
    | target :: (first :: names) =>
      (first :: names).reverse.foldlM
        (fun status name => do
          let fault ← changeFiles fun m => do
            let p := Machine.pathOf name
            let content ← m.files.read m.directory p
            let files ← m.files.write m.directory (destination m name target) content
            if move then files.remove m.directory p else return files
          match fault with
          | none => return status
          | some fault =>
            aboutQuoted tool "cannot stat " name "" fault
            return 1)
        0
    | operands =>
      complainHelp tool ["missing destination file operand after ".toList,
        quotedName (operands.head?.getD [])]
      return 1

/-- Make symbolic links. No file of a machine has two names, so no others can be made. -/
def ln (args : List (List Char)) : Action Nat :=
  withOperands "ln" "missing file operand" "fnsTv" "St" args fun o => do
    let (held, target) := match o.operands.reverse with
      | target :: (first :: names) => ((first :: names).reverse, target)
      | only => (only, ['.'])
    held.foldlM
      (fun status name => do
        let m ← get
        let p := destination m name target
        let inTheWay := match m.files.lookup false m.directory p with
          | .found _ node => node != .directory
          | _ => false
        if o.has 's' && o.has 'f' && inTheWay then
          let _ ← changeFiles fun m => m.files.remove m.directory p
        let fault ← changeFiles fun m =>
          if o.has 's' then m.files.makeLink m.directory (Machine.pathOf name) p
          else .error (.other "Operation not permitted")
        match fault with
        | none => return status
        | some fault =>
          let kind := if o.has 's' then "symbolic" else "hard"
          aboutQuoted "ln" s!"failed to create {kind} link " (Bytes.units p.bytes) "" fault
          return 1)
      0

/-- Copy standard input to files and to standard output. -/
def tee (args : List (List Char)) : Action Nat :=
  withOptions "tee" 1 "aip" "" args fun o => do
    let text := (← takeAll 0).chars
    let written ← emit "tee" text
    o.operands.foldlM
      (fun status name => do
        if let some n := Machine.descriptorAt? name then
          let _ ← put n text
          return status
        match ← openFile name (o.has 'a') with
        | .ok (.file place) =>
          modify fun m =>
            match m.files.node? place with
            | some (.file before) =>
              { m with files := m.files.insert place (.file (before ++ Bytes.ofUnits text)) }
            | _ => m
          return status
        | .ok _ => return status
        | .error fault =>
          aboutName "tee" "" name fault
          return 1)
      written

/-- Print the names in directories, and the names of other files. -/
def ls (args : List (List Char)) : Action Nat :=
  withOptions "ls" 2 "aAbBcCdfFgGhHiklLmnNopqQrRsStuUvxXZ1" "ITw" args fun o => do
    let m ← get
    let names :=
      if o.operands.isEmpty then [['.']] else o.operands.mergeSort fun a b => ! Text.precedes b a
    let looked :=
      names.map fun name => (name, m.files.lookup true m.directory (Machine.pathOf name))
    let isDirectory : FileSystem.Lookup → Bool
      | .found _ .directory => ! o.has 'd'
      | _ => false
    let status ← looked.foldlM
      (fun status (name, found) => do
        match found with
        | .found .. => return status
        | .missing .. =>
          aboutQuoted "ls" "cannot access " name "" .notFound
          return 2
        | .failed fault =>
          aboutQuoted "ls" "cannot access " name "" fault
          return 2)
      0
    let plain := looked.filter fun (_, found) => match found with
      | .found .. => ! isDirectory found
      | _ => false
    let directories := looked.filter fun (_, found) => isDirectory found
    let listed (name : List Char) : List (List Char) :=
      let inside := match m.files.lookup true m.directory (Machine.pathOf name) with
        | .found place .directory => (m.files.below place).filterMap fun e =>
          match e.location with
          | [name] => some (Bytes.units name)
          | _ => none
        | _ => []
      let inside := if o.has 'a' then [['.'], ['.', '.']] ++ inside
        else if o.has 'A' then inside
        else inside.filter fun n => n.head? != some '.'
      inside.mergeSort fun a b =>
        if o.has 'r' then ! Text.precedes a b else ! Text.precedes b a
    let _ ← emit "ls" (plain.flatMap fun (name, _) => name ++ ['\n'])
    directories.zipIdx.forM fun ((name, _), i) => do
      let header := if names.length ≤ 1 then []
        else (if i = 0 && plain.isEmpty then [] else ['\n']) ++ name ++ [':', '\n']
      let _ ← emit "ls" (header ++ (listed name).flatMap (· ++ ['\n']))
    return status

end SchemaFormat.Shell.Tool
