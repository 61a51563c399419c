import SchemaFormat.FileSystem.Access
import SchemaFormat.Shell.Pattern
import SchemaFormat.Shell.Script

/-!
What commands run on.

A descriptor is a number that stands for a channel, and a channel is what is read from or written
to: a text that waits to be read, a device, or a file. Descriptors may stand for the same channel. A
machine has files, channels, descriptors and variables; a command is a computation on it. Text is
bytes taken as characters of the same numbers.
-/

namespace SchemaFormat.Shell

inductive Channel where
  /-- What has been written and not yet been read. -/
  | waiting (text : List Char)
  /-- A text over and over again. -/
  | endless (text : List Char)
  | device (which : Device)
  /-- Writing goes to the end of a file. -/
  | file (place : Location)

/-- What commands run on. -/
structure Machine where
  files : FileSystem
  /-- The working directory. -/
  directory : Location
  /-- All channels, the first one having the number zero. -/
  channels : List Channel
  /-- The descriptors, each with the number of its channel. -/
  descriptors : List (Nat × Nat)
  settings : List (List Char × List Char) := []
  /-- The names of the settings that programs get to know. -/
  shared : List (List Char) := []
  /-- The names of the settings that keep their values. -/
  fixed : List (List Char) := []
  functions : List (List Char × Script) := []
  /-- What the settings were that only a function changes. -/
  locals : Option (List (List Char × Option (List Char))) := none
  /-- What is done at signals, and under the number zero what is done at the end of the script. -/
  traps : List (Nat × List Char) := []
  /-- The name that the script goes by. -/
  name : List Char := []
  arguments : List (List Char) := []
  /-- The line of the command at hand. -/
  line : Nat := 1
  /-- The status of the last command. -/
  last : Nat := 0
  /-- How many loops there are around the command at hand. -/
  loops : Nat := 0
  /-- The options that are set, by their letters. -/
  options : List Char := []
  /-- The success of the command at hand is only tested. -/
  tested : Bool := false
  /-- A word could not be expanded, which ends the script. -/
  broken : Bool := false
  /-- The number of the process that runs the script. -/
  process : Nat := 1000

abbrev Action := StateM Machine

namespace Machine

def pathOf (text : List Char) : Path :=
  ⟨Bytes.ofUnits text⟩

def channel? (m : Machine) (descriptor : Nat) : Option (Nat × Channel) := do
  let n ← m.descriptors.lookup descriptor
  return (n, ← m.channels[n]?)

def setChannel (m : Machine) (n : Nat) (c : Channel) : Machine :=
  { m with channels := m.channels.set n c }

/-- Let a descriptor stand for a channel or for none. -/
def setDescriptor (m : Machine) (descriptor : Nat) (n : Option Nat) : Machine :=
  let others := m.descriptors.filter (·.1 ≠ descriptor)
  { m with descriptors := match n with
      | some n => (descriptor, n) :: others
      | none => others }

def openChannel (m : Machine) (c : Channel) : Nat × Machine :=
  (m.channels.length, { m with channels := m.channels ++ [c] })

def waiting (m : Machine) (n : Nat) : List Char :=
  match m.channels[n]? with
  | some (.waiting text) => text
  | _ => []

end Machine

def put (descriptor : Nat) (text : List Char) : Action (Option SystemFault) := fun m =>
  match m.channel? descriptor with
  | none => (some .badDescriptor, m)
  | some (n, .waiting before) => (none, m.setChannel n (.waiting (before ++ text)))
  | some (_, .endless _) => (none, m)
  | some (_, .device which) =>
    (if which = .full ∧ text ≠ [] then some .noSpace else none, m)
  | some (_, .file place) =>
    match m.files.node? place with
    | some (.file before) =>
      (none, { m with files := m.files.insert place (.file (before ++ Bytes.ofUnits text)) })
    | _ => (none, m)

def complain (text : String) : Action Unit := do
  let _ ← put 2 (Bytes.ofString text).units
  let _ ← put 2 ['\n']

/-- Write a complaint that holds texts as they are. -/
def complainOf (parts : List (List Char)) : Action Unit := do
  let _ ← put 2 (parts.flatten ++ ['\n'])

/-- What can be read: a text, or one over and over again. -/
inductive Source where
  | text (chars : List Char)
  | endless (chars : List Char)

def Source.zeros : Source := .endless ['\x00']

/-- Read from a descriptor: a function cuts what waits there into what is taken and what stays. -/
def takeWith (descriptor : Nat) (cut : List Char → List Char × List Char) : Action Source :=
  fun m =>
  match m.channel? descriptor with
  | some (n, .waiting text) =>
    let (taken, rest) := cut text
    (.text taken, m.setChannel n (.waiting rest))
  | some (_, .endless text) => (.endless text, m)
  | some (_, .device .zero) | some (_, .device .full) => (.zeros, m)
  | _ => (.text [], m)

def takeAll (descriptor : Nat) : Action Source :=
  takeWith descriptor fun text => (text, [])

/-- The text of a source; nothing of one without end. -/
def Source.chars : Source → List Char
  | .text chars => chars
  | .endless _ => []

def Source.take (n : Nat) : Source → List Char
  | .text chars => chars.take n
  | .endless chars => ((List.replicate (n / chars.length + 1) chars).flatten).take n

/-- Read up to and with the next line feed; none if nothing is left. -/
def takeLine (descriptor : Nat) : Action (Option (List Char)) := do
  let taken ← takeWith descriptor fun text =>
    let line := text.takeWhile (· ≠ '\n')
    (text.take (line.length + 1), text.drop (line.length + 1))
  return if taken.chars.isEmpty then none else some taken.chars

/-- The descriptor that a path stands for. -/
def Machine.descriptorAt? (path : List Char) : Option Nat :=
  match String.ofList path with
  | "/dev/stdin" => some 0
  | "/dev/stdout" => some 1
  | "/dev/stderr" => some 2
  | _ =>
    match path.drop 8 with
    | [c] => if path.take 8 = "/dev/fd/".toList ∧ c.isDigit then some (c.toNat - 48) else none
    | _ => none

/-- What a file holds. What a descriptor stands for is read to its end. -/
def readFile (path : List Char) : Action (Except SystemFault Source) := fun m =>
  let p := Machine.pathOf path
  match Machine.descriptorAt? path with
  | some n =>
    match m.channel? n with
    | none => (.error .notFound, m)
    | some _ =>
      let (source, m) := (takeAll n).run m
      (.ok source, m)
  | none =>
    match m.files.lookup true m.directory p with
    | .found _ (.device .zero) | .found _ (.device .full) => (.ok .zeros, m)
    | _ => ((m.files.read m.directory p).map fun b => .text (Bytes.units b), m)

/-- Open a file for writing; it loses what it holds unless it is written to at its end. -/
def openFile (path : List Char) (append : Bool) : Action (Except SystemFault Channel) := fun m =>
  let p := Machine.pathOf path
  match m.files.target m.directory p with
  | .error fault => (.error fault, m)
  | .ok (.device which) => (.ok (.device which), m)
  | .ok (.file place) =>
    match m.files.node? place with
    | some (.file _) =>
      if append then (.ok (.file place), m)
      else (.ok (.file place), { m with files := m.files.insert place (.file []) })
    | _ => (.ok (.file place), { m with files := m.files.insert place (.file []) })

def changeFiles (edit : Machine → Except SystemFault FileSystem) : Action (Option SystemFault) :=
  fun m =>
    match edit m with
    | .ok files => (none, { m with files := files })
    | .error fault => (some fault, m)

end SchemaFormat.Shell
