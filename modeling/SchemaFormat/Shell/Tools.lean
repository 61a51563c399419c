import SchemaFormat.Shell.Tool.Files
import SchemaFormat.Shell.Tool.Lines
import SchemaFormat.Shell.Tool.Search
import SchemaFormat.Shell.Tool.Texts

/-!
The programs that scripts find on a machine, by their names.
-/

namespace SchemaFormat.Shell

/-- What a tool of that name does; none if there is no such tool. -/
def tool? (name : String) (args : List (List Char)) : Option (Action Nat) :=
  match name with
  | "cat" => some (Tool.cat args)
  | "wc" => some (Tool.wc args)
  | "head" => some (Tool.head args)
  | "tail" => some (Tool.tail args)
  | "tr" => some (Tool.tr args)
  | "sed" => some (Tool.sed args)
  | "grep" => some (Tool.grep args)
  | "rm" => some (Tool.rm args)
  | "mkdir" => some (Tool.mkdir args)
  | "touch" => some (Tool.touch args)
  | "cp" => some (Tool.copy "cp" false args)
  | "mv" => some (Tool.copy "mv" true args)
  | "ln" => some (Tool.ln args)
  | "tee" => some (Tool.tee args)
  | "ls" => some (Tool.ls args)
  | "sort" => some (Tool.sort args)
  | "uniq" => some (Tool.uniq args)
  | "tac" => some (Tool.tac args)
  | "rev" => some (Tool.rev args)
  | "cut" => some (Tool.cut args)
  | "nl" => some (Tool.nl args)
  | "seq" => some (Tool.seq args)
  | "echo" => some (emit "echo" (Tool.echo false args))
  | "printf" => some (Tool.printf "printf".toList Tool.formatWords args)
  | "true" => some (return 0)
  | "false" => some (return 1)
  | "sleep" => some (Tool.sleep args)
  | "basename" => some (Tool.lastPart args)
  | "dirname" => some (Tool.firstParts args)
  | "test" => some (Tool.test args)
  | "printenv" => some (Tool.printenv args)
  | "which" => some (Tool.which args)
  | "yes" => some (Tool.yes args)
  | _ => none

def toolNames : List String := [
  "cat", "wc", "head", "tail", "tr", "sed", "grep", "rm", "mkdir", "touch", "cp", "mv", "ln", "tee",
  "ls", "sort", "uniq", "tac", "rev", "cut", "nl", "seq", "echo", "printf", "true", "false",
  "sleep", "basename", "dirname", "test", "printenv", "which", "yes"]

end SchemaFormat.Shell
