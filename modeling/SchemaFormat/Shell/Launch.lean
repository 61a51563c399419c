import SchemaFormat.Engine.Process
import SchemaFormat.Shell.Interpreter

/-!
Starting programs.

A program is looked for first; then its arguments have to be short enough. It runs with its input in
a pipe that holds so much at a time, so input that a program leaves unread beyond that could not be
fed to it. `standardFiles` are the files of a machine on which the programs of `toolNames` are
installed.
-/

namespace SchemaFormat.Shell

/-- One more than the most bytes in an argument. -/
def argumentLimit : Nat := 131072

def pipeSize : Nat := 65536

/-- How deep commands nest and how often a loop runs. -/
def nesting : Nat := 1000000

def searchPathOf (s : Session) : Bytes :=
  (s.environment.lookup (Bytes.ofString "PATH")).getD defaultSearchPath

/-- The machine on which a program starts. -/
def Machine.start (s : Session) (input : Bytes) : Machine where
  files := s.files
  directory := s.directory
  channels := [.waiting input.units, .waiting [], .waiting []]
  descriptors := [(0, 0), (1, 1), (2, 2)]
  settings := s.environment.map fun (name, value) => (name.units, value.units)
  shared := s.environment.map fun (name, _) => name.units

/-- How a program ended, after what it did last. The machine keeps no images of memory. -/
def Flow.status : Flow → Status
  | .next status | .exits status | .returns status => .exited status
  | .killed signal => .killed signal false
  | .breaks _ | .continues _ => .exited 0

/-- Start a program and wait for its end. -/
def launch : Launcher := fun i s =>
  if i.program.contains 0 ∨ i.arguments.any (·.contains 0) then (.notStarted .zeroInArgument, s)
  else
    match findProgram s.files s.directory (searchPathOf s) i.program with
    | .error fault => (.notStarted fault, s)
    | .ok tool =>
      if i.arguments.any (argumentLimit ≤ ·.length) then (.notStarted .argumentsTooLong, s)
      else
        let arguments := i.arguments.map Bytes.units
        let action := if isShell tool then runShell nesting arguments
          else runTool nesting tool arguments
        let (flow, m) := action.run (Machine.start s i.input)
        let unfed := if pipeSize < (m.waiting 0).length then some .brokenPipe else none
        (.finished unfed (Bytes.ofUnits (m.waiting 1)) (Bytes.ofUnits (m.waiting 2)) flow.status,
          { s with files := m.files })

def locationOf (text : String) : Location :=
  (Path.ofString text).parts.filter (· ≠ [])

def users : Bytes :=
  Bytes.ofString "root:x:0:0:root:/root:/bin/bash\n"

def standardNodes : List (String × Node) := [
  ("/bin", .link (Path.ofString "usr/bin")),
  ("/dev", .directory),
  ("/dev/full", .device .full),
  ("/dev/null", .device .null),
  ("/dev/zero", .device .zero),
  ("/etc", .directory),
  ("/etc/passwd", .file users),
  ("/home", .directory),
  ("/root", .directory),
  ("/tmp", .directory),
  ("/usr", .directory),
  ("/usr/bin", .directory),
  ("/usr/local", .directory),
  ("/usr/local/bin", .directory),
  ("/var", .directory)] ++
  ("sh" :: "dash" :: "bash" :: "env" :: toolNames).map fun tool =>
    (s!"/usr/bin/{tool}", .program tool)

/-- The files of a machine on which the tools are installed. -/
def standardFiles : FileSystem :=
  standardNodes.foldl (fun fs (place, node) => fs.insert (locationOf place) node) .empty

end SchemaFormat.Shell
