import SchemaFormat.Engine.Session
import SchemaFormat.Schema.Language

/-!
Which files a list of targets stands for.

A target that is a file stands for itself, whatever its name. A directory stands for the files below
it whose names belong to a language, in depth-first order, the names of a directory sorted byte by
byte. Links below it are not followed, but a link to a file counts as a file; a link given as a
target is followed. A target that leads nowhere is a fault.
-/

namespace SchemaFormat

/-- The files that targets stand for, and the targets that could not be walked. -/
structure Collected where
  files : List Path := []
  faults : List FileFault := []
  deriving DecidableEq, Repr

namespace Collected

/-- The path from a target to what names below it lead to. -/
def pathBelow (target : Path) (names : Location) : Path :=
  names.foldl (fun p name => p.join ⟨name⟩) target

/-- What one entry below a target adds: a file its path, if its name belongs to a language; a
directory nothing, unless its path is too long for it to be opened. Nothing is seen of what lies in
such a one. -/
def ofEntry (fs : FileSystem) (directory : Location) (target : Path) (e : Entry) : Collected :=
  let p := pathBelow target e.location
  if FileSystem.maxPath < (pathBelow target e.location.dropLast).bytes.length then {}
  else if e.node = .directory then
    if FileSystem.maxPath < p.bytes.length then ⟨[], [.walk p ⟨p, .nameTooLong⟩]⟩ else {}
  else if fs.isFile directory p && (Language.ofPath? p).isSome then ⟨[p], []⟩
  else {}

/-- What a list of parts adds, each by itself. -/
def flatMap (part : α → Collected) (parts : List α) : Collected where
  files := parts.flatMap fun a => (part a).files
  faults := parts.flatMap fun a => (part a).faults

/-- What one target stands for. -/
def ofTarget (fs : FileSystem) (directory : Location) (target : Path) : Collected :=
  match fs.lookup true directory target with
  | .found _ (.file _) | .found _ (.program _) => ⟨[target], []⟩
  | .found place .directory => flatMap (ofEntry fs directory target) (fs.below place)
  | .found _ _ => {}
  | .missing .. => ⟨[], [.walk target ⟨target, .notFound⟩]⟩
  | .failed cause => ⟨[], [.walk target ⟨target, cause⟩]⟩

/-- What a list of targets stands for. -/
def ofTargets (fs : FileSystem) (directory : Location) (targets : List Path) : Collected :=
  flatMap (ofTarget fs directory) targets

end Collected

def Run.collect (targets : List Path) : Run Collected := fun s =>
  (Collected.ofTargets s.files s.directory targets, s)

end SchemaFormat
