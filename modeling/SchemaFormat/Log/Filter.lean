import SchemaFormat.Log.Event
import SchemaFormat.Text.Blank
import SchemaFormat.Text.Digits

/-!
Which events are written.

A filter is a list of directives, each of which lets the events of a target up to a level through. A
directive is written as a level, as a target, or as a target, an equals sign and a level; directives
are separated by commas. Of the directives whose target an event's target begins with, the one with
the longest target decides.
-/

namespace SchemaFormat.Log

/-- Events of targets with a beginning are let through up to a level; without one none is. -/
structure Directive where
  target : List Char
  level : Option Level
  deriving DecidableEq, Repr

structure Filter where
  directives : List Directive
  deriving DecidableEq, Repr

/-- An ASCII letter in lower case; any other character as it is. -/
def lower (c : Char) : Char :=
  if 'A' ≤ c ∧ c ≤ 'Z' then Char.ofNat (c.toNat + 32) else c

/-- The number that decimal digits write; a plus sign may stand in front. -/
def number? (text : List Char) : Option Nat :=
  let found := match text with
    | '+' :: rest => rest
    | rest => rest
  if found.isEmpty || ! found.all Char.isDigit then none
  else some (Text.numberOf 10 found)

/-- The level that a text names by word or number; the outer option tells whether it names any. The
empty text names the gravest one. -/
def level? (text : List Char) : Option (Option Level) :=
  match number? text with
  | some 0 => some none
  | some 1 => some (some .error)
  | some 2 => some (some .warn)
  | some 3 => some (some .info)
  | some 4 => some (some .debug)
  | some 5 => some (some .trace)
  | _ =>
    let name := text.map lower
    if name = [] ∨ name = "error".toList then some (some .error)
    else if name = "warn".toList then some (some .warn)
    else if name = "info".toList then some (some .info)
    else if name = "debug".toList then some (some .debug)
    else if name = "trace".toList then some (some .trace)
    else if name = "off".toList then some none
    else none

def startsDirective (c : Char) : Bool :=
  c.isAlphanum || 0x80 ≤ c.toNat || c == '-' || c == ':' || c == '_'

/-- What one directive says. The outer option tells whether it is well formed; a directive for spans
says nothing about events. -/
def directive? (text : List Char) : Option (List Directive) :=
  match text with
  | [] => none
  | c :: _ =>
    if c = '[' then if text.contains ']' then some [] else none
    else if ! startsDirective c then none
    else
      let name := text.takeWhile fun c => c ≠ '=' && c ≠ '['
      match text.dropWhile fun c => c ≠ '=' && c ≠ '[' with
      | [] =>
        match level? name with
        | some level => some [⟨[], level⟩]
        | none => some [⟨name, some .trace⟩]
      | '[' :: rest => if rest.contains ']' then some [] else none
      | _ :: rest => (level? rest).map fun level => [⟨name, level⟩]

def Filter.upTo (level : Level) : Filter :=
  ⟨[⟨[], some level⟩]⟩

/-- The filter that a text writes. Without a directive only the gravest events pass. -/
def Filter.parse? (text : List Char) : Option Filter := do
  let written := (Text.split (· == ',') text).filter (! ·.isEmpty)
  if written.isEmpty then return Filter.upTo .error
  let found ← written.mapM fun part => directive? (Text.trim part)
  return ⟨found.flatten⟩

/-- The directive that decides on a target: the last of those with the longest target. -/
def Filter.deciding? (f : Filter) (target : List Char) : Option Directive :=
  (f.directives.filter fun d => d.target.isPrefixOf target).foldl
    (fun best d =>
      match best with
      | none => some d
      | some b => if b.target.length ≤ d.target.length then some d else some b)
    none

def Filter.allows (f : Filter) (e : Event) : Bool :=
  match f.deciding? e.target.toList with
  | some ⟨_, some level⟩ => e.level.rank ≤ level.rank
  | _ => false

end SchemaFormat.Log
