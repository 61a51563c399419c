import SchemaFormat.CommandLine.Run
import SchemaFormat.Shell.Launch

/-!
The program.

It takes in the files below the working directory and those that absolute arguments name, runs the
command line on them, writes back the files that have changed, and prints what the run printed.
Programs are those of the built-in machine.
-/

namespace SchemaFormat.Program

def bytesOf (a : ByteArray) : Bytes := a.toList

def arrayOf (b : Bytes) : ByteArray := ⟨b.toArray⟩

/-- Put a node at a location, and directories where it lies. -/
def place (fs : FileSystem) (l : Location) (n : Node) : FileSystem :=
  let parents := (List.range (l.length - 1)).map fun i => l.take (i + 1)
  (parents.foldl (fun fs p => if (fs.node? p).isSome then fs else fs.insert p .directory) fs)
    |>.insert l n

/-- Take in what stands at a path and below it. -/
partial def load (fs : FileSystem) (path : String) : IO FileSystem := do
  try
    let real ← IO.FS.realPath path
    let l := Shell.locationOf real.toString
    if ← real.isDir then
      let mut found := if l = [] then fs else place fs l .directory
      for entry in ← real.readDir do
        found ← load found entry.path.toString
      return found
    else
      return place fs l (.file (bytesOf (← IO.FS.readBinFile path)))
  catch _ => return fs

/-- The arguments that name places outside the working directory. -/
def outsideArguments (args : List String) : List String :=
  args.filter fun a => a.startsWith "/" && a != "/"

def environment : IO (List (Bytes × Bytes)) := do
  let names := ["PATH", "PRISMAFMT_ENGINE", "RUST_LOG"]
  let mut found := []
  for name in names do
    if let some value ← IO.getEnv name then
      found := found ++ [(Bytes.ofString name, Bytes.ofString value)]
  return found

def pathText (l : Location) : String := (Location.path l).display

/-- Write back what a run has changed. -/
def store (before after : FileSystem) : IO Unit := do
  for e in before.entries do
    if after.node? e.location = none then
      if let .file _ := e.node then IO.FS.removeFile (pathText e.location)
  for e in after.entries do
    match e.node with
    | .file content =>
      if before.node? e.location ≠ some e.node then
        IO.FS.writeBinFile (pathText e.location) (arrayOf content)
    | .directory =>
      if before.node? e.location = none then IO.FS.createDirAll (pathText e.location)
    | _ => pure ()

/-- Run the program with arguments; the answer is its exit code. -/
def run (args : List String) : IO UInt32 := do
  let mut files ← load Shell.standardFiles "."
  for a in outsideArguments args do
    files ← load files a
  let here ← IO.currentDir
  let wantsInput := args.any fun a => a.startsWith "--stdin-filepath"
  let input ← if wantsInput then bytesOf <$> (← IO.getStdin).readBinToEnd else pure []
  let start : Session := {
    files := files
    directory := Shell.locationOf here.toString
    environment := ← environment }
  let ((code, complaint), s) :=
    (CommandLine.runProgram (Command.engine Shell.launch) (args.map Bytes.ofString) input).run start
  store files s.files
  let out ← IO.getStdout
  out.write (arrayOf s.printed)
  out.flush
  IO.eprint complaint
  return UInt32.ofNat code

end SchemaFormat.Program

def main (args : List String) : IO UInt32 :=
  SchemaFormat.Program.run args
