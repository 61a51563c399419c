import SchemaFormat.Shell.Machine

/-!
Looking for programs.

A program whose name holds a slash is at the path that the name is; any other one is looked for in
the directories of the search path, the first one that has it winning.
-/

namespace SchemaFormat.Shell

/-- Why a command could not be started, in the words of a script's complaint. -/
def startWords : SystemFault → String
  | .notFound | .notDirectory => "not found"
  | fault => fault.words

def startStatus : SystemFault → Nat
  | .permissionDenied => 126
  | _ => 127

def programAt (files : FileSystem) (directory : Location) (p : Path) : Except SystemFault String :=
  match files.lookup true directory p with
  | .found _ (.program tool) => .ok tool
  | .found .. => .error .permissionDenied
  | .missing .. => .error .notFound
  | .failed fault => .error fault

def isShell (tool : String) : Bool :=
  tool == "sh" || tool == "dash" || tool == "bash"

/-- The directories in which programs are looked for, unless the environment says otherwise. -/
def defaultSearchPath : Bytes :=
  Bytes.ofString "/usr/local/bin:/usr/bin:/bin"

/-- The program of that name in one of some directories, and its path; one that may not be run is
passed over. -/
def searchProgram (files : FileSystem) (directory : Location) (name : Path) (refused : Bool) :
    List Bytes → Except SystemFault (String × Path)
  | [] => .error (if refused then .permissionDenied else .notFound)
  | place :: rest =>
    let path := (Path.mk place).join name
    match programAt files directory path with
    | .ok tool => .ok (tool, path)
    | .error .permissionDenied => searchProgram files directory name true rest
    | .error .notFound | .error .notDirectory => searchProgram files directory name refused rest
    | .error fault => .error fault

def locateProgram (files : FileSystem) (directory : Location) (searchPath name : Bytes) :
    Except SystemFault (String × Path) :=
  if name = [] then .error .notFound
  else if name.contains Path.slash then
    (programAt files directory ⟨name⟩).map fun tool => (tool, ⟨name⟩)
  else searchProgram files directory ⟨name⟩ false (Text.split (· == 58) searchPath)

def findProgram (files : FileSystem) (directory : Location) (searchPath name : Bytes) :
    Except SystemFault String :=
  (locateProgram files directory searchPath name).map (·.1)

/-- The directories in which a machine looks for programs. -/
def searchPathIn (m : Machine) : Bytes :=
  ((m.settings.lookup "PATH".toList).map Bytes.ofUnits).getD defaultSearchPath

end SchemaFormat.Shell
