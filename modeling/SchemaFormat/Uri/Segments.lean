import SchemaFormat.Uri.Percent

/-!
The path of a file locator, as a list of segments.

Slashes and backslashes separate segments. A segment of one dot names the place itself and one of
two dots the place above; a drive letter is never left. The dots may be escaped. Tabs and line
breaks mean nothing, but one of them behind a drive letter that opens the path ends that segment.
-/

namespace SchemaFormat.Uri

/-- Tabs and line breaks, which are dropped wherever they stand. -/
def isIgnored (c : Char) : Bool :=
  c == '\t' || c == '\n' || c == '\r'

def visible (text : List Char) : List Char :=
  text.filter (! isIgnored ·)

def isSlash (c : Char) : Bool :=
  c == '/' || c == '\\'

/-- Whether a text is a drive: an ASCII letter and a colon or a bar. -/
def isDrive : List Char → Bool
  | [letter, mark] => letter.isAlpha && (mark == ':' || mark == '|')
  | _ => false

/-- One dot, plain or escaped, at the start of a text, and the rest. -/
def readDot : List Char → Option (List Char)
  | '.' :: rest => some rest
  | '%' :: '2' :: 'e' :: rest => some rest
  | '%' :: '2' :: 'E' :: rest => some rest
  | _ => none

def isDot (segment : List Char) : Bool :=
  readDot segment == some []

def isDotDot (segment : List Char) : Bool :=
  (readDot segment).bind readDot == some []

/-- A path that is being read: its segments, the last one first, and whether a drive has opened it.
-/
structure Walking where
  segments : List (List Char) := []
  onDrive : Bool := false
  deriving DecidableEq, Repr

/-- Go to the place above; the top and drives have none. -/
def goUp : List (List Char) → List (List Char)
  | [] => []
  | last :: before => if isDrive last then last :: before else before

/-- The part of a raw segment up to the first dropped character behind a drive with a colon, and
what comes after it, if anything visible does. -/
def driveSplit (raw : List Char) : Option (List Char × List Char) :=
  match visible raw with
  | letter :: ':' :: c :: rest =>
    let after := ((raw.dropWhile isIgnored).drop 1).dropWhile isIgnored
    if letter.isAlpha && (after.drop 1).head?.any isIgnored then some ([letter, ':'], c :: rest)
    else none
  | _ => none

def writeSegment (text : List Char) : List Char :=
  percentEncode escapedInPath text

/-- Take a raw segment. With `more` the path goes on behind it, otherwise it is the last one, and a
path that ends in dots ends in an empty segment. -/
def Walking.take (w : Walking) (raw : List Char) (more : Bool) : Walking :=
  let segment := writeSegment (visible raw)
  let finish (segments : List (List Char)) : Walking :=
    { w with segments := if more then segments else [] :: segments }
  match w.segments.isEmpty, driveSplit raw with
  | true, some (drive, rest) => { w with segments := [writeSegment rest, drive] }
  | top, _ =>
    if isDotDot segment then finish (goUp w.segments)
    else if isDot segment then finish w.segments
    else if top && isDrive segment then
      ⟨[segment.take 1 ++ [':']], true⟩
    else { w with segments := segment :: w.segments }

def Walking.run (w : Walking) : List (List Char) → Walking
  | [] => w
  | [last] => w.take last false
  | raw :: more => (w.take raw true).run more

def readPath (text : List Char) : Walking :=
  ({} : Walking).run (Text.split isSlash text)

/-- A path in a locator; all slashes at its start are one. -/
def renderPath (w : Walking) : List Char :=
  '/' :: (Text.join ['/'] w.segments.reverse).dropWhile (· == '/')

end SchemaFormat.Uri
