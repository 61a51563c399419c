/-!
Shell scripts.

A script is a tree of commands. A simple command assigns variables, redirects descriptors and runs
the program or the built-in command that its first word names; commands are put together by pipes,
by the success of the one before, by conditions and by loops. A word is a list of parts, some of
which have to be expanded before it is known.
-/

namespace SchemaFormat.Shell

/-- A part of a word. What stands between quotes is never split. -/
inductive Part where
  | text (chars : List Char) (quoted : Bool)
  /-- The value of a parameter. Behind its name may stand what to do where it has none. -/
  | parameter (name : List Char) (otherwise : List Char) (quoted : Bool)
  /-- What a script prints. -/
  | output (script : List Char) (quoted : Bool)
  /-- The value of an arithmetic expression. -/
  | arithmetic (expression : List Char)
  deriving DecidableEq, Repr

/-- A word: parts next to each other. -/
abbrev Word := List Part

/-- What becomes of a descriptor. -/
inductive Redirection where
  | input (descriptor : Nat) (source : Word)
  | output (descriptor : Nat) (target : Word)
  | append (descriptor : Nat) (target : Word)
  /-- The descriptor stands for what another one stands for, or for nothing. -/
  | copy (descriptor : Nat) (of : Word)
  /-- A text that stands in the script waits to be read. -/
  | inline (descriptor : Nat) (content : Word)
  deriving DecidableEq, Repr

structure Simple where
  assignments : List (List Char × Word) := []
  words : List Word := []
  redirections : List Redirection := []
  /-- The line of the script that the command stands in. -/
  line : Nat := 1
  deriving DecidableEq, Repr

/-- A tree of commands. -/
inductive Script where
  | nothing
  | simple (s : Simple)
  | pipe (left right : Script)
  | negated (c : Script)
  | sequence (first second : Script)
  /-- A command that is not waited for; it has nothing to read. -/
  | background (c : Script)
  /-- The second command runs if the first one succeeds. -/
  | both (first second : Script)
  /-- The second command runs if the first one does not succeed. -/
  | either (first second : Script)
  | group (body : Script) (redirections : List Redirection) (line : Nat)
  | subshell (body : Script) (redirections : List Redirection) (line : Nat)
  | branch (condition yes no : Script)
  /-- The body runs as long as the condition has the wanted success. -/
  | loop (wanted : Bool) (condition body : Script)
  /-- The body runs for each of some words, or for each argument. -/
  | each (name : List Char) (words : Option (List Word)) (body : Script)
  /-- The body of the first pattern that a word matches runs. -/
  | choice (word : Word) (cases : Script)
  /-- From here on the name stands for the body. -/
  | define (name : List Char) (body : Script)
  /-- One case of a choice, and those behind it. -/
  | case (patterns : List Word) (body rest : Script)

end SchemaFormat.Shell
