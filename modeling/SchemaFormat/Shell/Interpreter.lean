import SchemaFormat.Shell.Arithmetic
import SchemaFormat.Shell.Builtin
import SchemaFormat.Shell.Field

/-!
Running scripts.

Words are expanded, descriptors redirected, and commands run one after the other; the two sides of a
pipe run in turn, the right one on all that the left one has printed. What ends more than a command
is a flow of its own: leaving a loop, leaving the script, being killed. Nesting is bounded, and so
is how often a loop runs.
-/

namespace SchemaFormat.Shell

/-! ### Expansion -/

def parameter? (name : List Char) : Action (Option (List Char)) := do
  let m ← get
  match name with
  | ['#'] => return some (decimal m.arguments.length)
  | ['?'] => return some (decimal m.last)
  | ['$'] => return some (decimal m.process)
  | ['!'] => return none
  | ['-'] => return some m.options
  | ['0'] => return some m.name
  | c :: _ =>
    if c.isDigit then return (count? name).bind fun n => m.arguments[n - 1]?
    else if name = "LINENO".toList then return some (decimal m.line)
    else return m.settings.lookup name
  | [] => return none

def withoutLineFeeds (text : List Char) : List Char :=
  (text.reverse.dropWhile (· == '\n')).reverse

/-- What to do where a parameter has a value or none. -/
inductive Otherwise where
  | nothing
  | length
  /-- Use a word instead. -/
  | use (word : List Char)
  /-- Use a word where there is a value. -/
  | replace (word : List Char)
  /-- Give the parameter a word as its value. -/
  | give (word : List Char)
  /-- End the script with a complaint. -/
  | complain (word : List Char)
  /-- Drop the shortest or longest beginning that a pattern matches. -/
  | dropFront (long : Bool) (pattern : List Char)
  /-- Drop the shortest or longest end that a pattern matches. -/
  | dropBack (long : Bool) (pattern : List Char)
  | unknown

/-- What stands behind the name of a parameter, and whether an empty value counts as none. -/
def Otherwise.parse (text : List Char) : Otherwise × Bool :=
  match text with
  | [] => (.nothing, false)
  | ['#'] => (.length, false)
  | ':' :: '-' :: word => (.use word, true)
  | '-' :: word => (.use word, false)
  | ':' :: '+' :: word => (.replace word, true)
  | '+' :: word => (.replace word, false)
  | ':' :: '=' :: word => (.give word, true)
  | '=' :: word => (.give word, false)
  | ':' :: '?' :: word => (.complain word, true)
  | '?' :: word => (.complain word, false)
  | '#' :: '#' :: word => (.dropFront true word, false)
  | '#' :: word => (.dropFront false word, false)
  | '%' :: '%' :: word => (.dropBack true word, false)
  | '%' :: word => (.dropBack false word, false)
  | _ => (.unknown, false)

def arithmeticWords (text : List Char) : ArithmeticFault → List Char
  | .expecting what =>
    ("arithmetic expression: expecting " ++ what ++ ": \"").toList ++ text ++ ['"']
  | .divisionByZero => "arithmetic expression: division by zero: \"".toList ++ text ++ ['"']
  | .noNumber value => "Illegal number: ".toList ++ value

/-! ### Commands -/

def restore (before : List (Nat × Nat)) : Action Unit :=
  modify fun m => { m with descriptors := before }

def remember (f : Flow) : Action Flow := do
  match f with
  | .next status => modify fun m => { m with last := status }
  | _ => pure ()
  return f

/-- End a script in which a command that fails ends it, unless its success is only tested. -/
def insist (f : Flow) : Action Flow := do
  let m ← get
  match f with
  | .next status =>
    return if status ≠ 0 ∧ m.options.contains 'e' ∧ ! m.tested then .exits status else f
  | _ => return f

/-- Carry something out of which the success is only tested. -/
def testing (action : Action Flow) : Action Flow := do
  let before := (← get).tested
  modify fun m => { m with tested := true }
  let flow ← action
  modify fun m => { m with tested := before }
  return flow

/-- Go on unless a word could not be expanded; then the script ends. -/
def unlessBroken (action : Action Flow) : Action Flow := do
  if (← get).broken then
    modify fun m => { m with broken := false }
    return .exits 2
  else action

/-- Run something of which only the files and what has been written last; leaving it ends nothing
else. -/
def inSubshell (action : Action Flow) : Action Flow := do
  let before ← get
  let flow ← action
  modify fun after => { before with files := after.files, channels := after.channels }
  match flow with
  | .next status | .exits status | .returns status => remember (.next status)
  | .breaks _ | .continues _ => remember (.next 0)
  | .killed signal => return .killed signal

/-- The words of a script's complaint about a file that was not opened. -/
def openWords (creates : Bool) : SystemFault → String
  | .notFound | .notDirectory => if creates then "Directory nonexistent" else "No such file"
  | fault => fault.words

def redirectTo (descriptor : Nat) (creates : Bool) (path : List Char)
    (opened : Except SystemFault Channel) : Action Bool := do
  match opened with
  | .ok c =>
    modify fun m =>
      let (n, m) := m.openChannel c
      m.setDescriptor descriptor (some n)
    return true
  | .error fault =>
    scriptComplaint
      ((if creates then "cannot create ".toList else "cannot open ".toList) ++ path ++
        ": ".toList ++ (openWords creates fault).toList)
    return false

def inputChannel (path : List Char) : Action (Except SystemFault Channel) := do
  let m ← get
  match m.files.lookup true m.directory (Machine.pathOf path) with
  | .found _ (.device which) => return .ok (.device which)
  | .found _ .directory => return .ok (.waiting [])
  | _ => return (← readFile path).map fun source => .waiting source.chars

/-- Let a descriptor stand for what another one stands for, or for nothing. -/
def copyDescriptor (descriptor : Nat) (target : List Char) : Action Bool := do
  let m ← get
  if target = ['-'] then
    set (m.setDescriptor descriptor none)
    return true
  else if target.length ≠ 1 ∨ ! target.all Char.isDigit then
    breakOff "Syntax error: Bad fd number".toList
    return false
  else
    match (count? target).bind (List.lookup · m.descriptors) with
    | some n =>
      set (m.setDescriptor descriptor (some n))
      return true
    | none =>
      scriptComplaint (target ++ ": Bad file descriptor".toList)
      return false

def inLoop (action : Action Flow) : Action Flow := do
  let depth := (← get).loops
  modify fun m => { m with loops := depth + 1 }
  let flow ← action
  modify fun m => { m with loops := depth }
  match flow with
  | .breaks n => if n ≤ 1 then remember (.next 0) else return .breaks (n - 1)
  | .continues n => return .continues (n - 1)
  | flow => return flow

def redirectPath (descriptor : Nat) (r : Redirection) (path : List Char) : Action Bool := do
  match Machine.descriptorAt? path with
  | some n => copyDescriptor descriptor (decimal n)
  | none =>
    match r with
    | .input .. => redirectTo descriptor false path (← inputChannel path)
    | .append .. => redirectTo descriptor true path (← openFile path true)
    | _ => redirectTo descriptor true path (← openFile path false)

/-- Show a command and its arguments before it runs, if that is asked for. -/
def showCommand (values : List (List Char × List Char))
    (words : List (List Char)) : Action Unit := do
  if (← get).options.contains 'x' then
    let shown := values.reverse.map (fun (name, value) => name ++ '=' :: value) ++ words
    let _ ← put 2 ("+ ".toList ++ Text.join [' '] shown ++ ['\n'])

/-- Whether words name no command or a special one: what is assigned in front of them stays
assigned, and a redirection that fails ends the shell. -/
def isSpecial (words : List (List Char)) : Bool :=
  match words with
  | [] => true
  | name :: _ => specialBuiltins.contains (String.ofList name)

mutual

def expandPart : Nat → Part → Action (List Piece)
  | 0, _ => return []
  | fuel + 1, part => do
    match part with
    | .text chars quoted => return [.text chars false quoted]
    | .output script quoted =>
      let text ← capture fuel script
      return [.text (withoutLineFeeds text) (! quoted) quoted]
    | .arithmetic expression =>
      let text ← (do
        match inlineWordOf expression with
        | .ok w => return textOf (← expandWord fuel w)
        | .error _ => return expression)
      let values := (← get).settings
      match (Expression.parse text).bind (·.value values) with
      | .ok (n, values) =>
        modify fun m => { m with settings := values }
        return [.text (toString n).toList true false]
      | .error fault =>
        breakOff (arithmeticWords text fault)
        return []
    | .parameter name otherwise quoted =>
      if name = ['@'] ∨ name = ['*'] then
        let args := (← get).arguments
        if quoted && name = ['*'] then
          let between := ((← valueOf? "IFS".toList).getD [' ']).take 1
          return [.text (Text.join between args) false true]
        else
          return (args.map fun a => Piece.text a (! quoted) quoted).intersperse .border
      else expandParameter fuel name otherwise quoted

def expandParameter : Nat → List Char → List Char → Bool → Action (List Piece)
  | 0, _, _, _ => return []
  | fuel + 1, name, otherwise, quoted => do
    let (otherwise, filled) := Otherwise.parse otherwise
    let value ← parameter? name
    let present := if filled then value.filter (! ·.isEmpty) else value
    let plain (text : List Char) : List Piece := [.text text (! quoted) quoted]
    let unset : Action Unit := do
      if value.isNone ∧ (← get).options.contains 'u' ∧ name ≠ ['!'] then
        breakOff (name ++ ": parameter not set".toList)
    let other (word : List Char) : Action (List Piece) := do
      match if quoted then quotedWordOf word else wordOf word with
      | .ok w =>
        let pieces ← expandWord fuel w
        return if quoted then [.text (textOf pieces) false true]
          else pieces.map fun
            | .text chars _ false => .text chars true false
            | piece => piece
      | .error _ => return plain word
    let pattern (word : List Char) : Action Pattern := do
      match wordOf word with
      | .ok w => return globOf (← expandWord fuel w)
      | .error _ => return Pattern.ofGlob (word.map fun c => (c, false))
    match otherwise with
    | .nothing =>
      unset
      return plain (value.getD [])
    | .length =>
      unset
      return plain (decimal (value.getD []).length)
    | .use word =>
      match present with
      | some value => return plain value
      | none => other word
    | .replace word => if present.isSome then other word else return plain []
    | .give word =>
      match present with
      | some value => return plain value
      | none =>
        let made := textOf (← other word)
        assign name made
        return plain made
    | .complain word =>
      match present with
      | some value => return plain value
      | none =>
        let text ← if word.isEmpty then
            pure ("parameter not set".toList ++ if filled then " or null".toList else [])
          else textOf <$> other word
        breakOff (name ++ ": ".toList ++ text)
        return []
    | .dropFront long word =>
      unset
      return plain ((← pattern word).dropFront long (value.getD []))
    | .dropBack long word =>
      unset
      return plain ((← pattern word).dropBack long (value.getD []))
    | .unknown =>
      breakOff "Bad substitution".toList
      return []

def expandWord : Nat → Word → Action (List Piece)
  | 0, _ => return []
  | _, [] => return []
  | fuel + 1, part :: rest => do
    let first ← expandPart fuel part
    return first ++ (← expandWord fuel rest)

def expandWords : Nat → List Word → Action (List (List Char))
  | 0, _ => return []
  | _, [] => return []
  | fuel + 1, w :: rest => do
    let pieces ← expandWord fuel w
    let m ← get
    let fields := fieldsOf (← separators) pieces
    let first := if m.options.contains 'f' then fields.map fun f => f.map (·.1)
      else fields.flatMap (wordsOf m)
    return first ++ (← expandWords fuel rest)

/-- What a script prints. -/
def capture : Nat → List Char → Action (List Char)
  | 0, _ => return []
  | fuel + 1, text => do
    let m ← get
    let (n, opened) := m.openChannel (.waiting [])
    let flow ← inSubshell do
      set (opened.setDescriptor 1 (some n))
      runText fuel [] text
    match flow with
    | .killed signal => modify fun after => { after with last := 128 + signal }
    | _ => pure ()
    return (← get).waiting n

/-- Redirect descriptors; the answer tells whether all of them could be. -/
def redirectAll : Nat → List Redirection → Action Bool
  | 0, _ => return false
  | _, [] => return true
  | fuel + 1, r :: rest => do
    let opened ← (do
      match r with
      | .input descriptor w | .output descriptor w | .append descriptor w =>
        redirectPath descriptor r (textOf (← expandWord fuel w))
      | .copy descriptor w => copyDescriptor descriptor (textOf (← expandWord fuel w))
      | .inline descriptor w =>
        let content := textOf (← expandWord fuel w)
        redirectTo descriptor false [] (.ok (.waiting content)))
    if opened then redirectAll fuel rest else return false

def runProgram : Nat → Bool → List Char → List (List Char) → Action Flow
  | 0, _, _, _ => return .exits 2
  | fuel + 1, replacing, name, args => do
    let m ← get
    match findProgram m.files m.directory (searchPathIn m) (Bytes.ofUnits name) with
    | .error fault =>
      let words := if name.isEmpty then "Permission denied" else startWords fault
      scriptComplaint
        ((if replacing then "exec: ".toList else []) ++ name ++ ": ".toList ++ words.toList)
      return .next (startStatus fault)
    | .ok tool => runTool fuel tool args

def runTool : Nat → String → List (List Char) → Action Flow
  | 0, _, _ => return .exits 2
  | fuel + 1, tool, args => do
    if isShell tool then
      let m ← get
      let flow ← inSubshell do
        set { m with
          process := m.process + 1, options := [], tested := false, traps := [], loops := 0
          functions := [], fixed := [], locals := none, line := 1
          settings := m.settings.filter fun (name, _) => m.shared.contains name }
        runShell fuel args
      match flow with
      | .killed signal => return .next (128 + signal)
      | flow => return flow
    else if tool = "env" then
      let rest := args.dropWhile fun a => a.contains '='
      let assigned := args.take (args.length - rest.length)
      match rest with
      | [] => return .next 0
      | name :: more =>
        inSubshell do
          let names ← Builtin.declare assigned
          modify fun m => { m with shared := names ++ m.shared }
          let m ← get
          match findProgram m.files m.directory (searchPathIn m) (Bytes.ofUnits name) with
          | .error fault =>
            aboutQuoted "env" "" name "" fault
            return .next (startStatus fault)
          | .ok tool => runTool fuel tool more
    else
      match tool? tool args with
      | some action => return .next (← action)
      | none => return .next 127

/-- Run the interpreter with arguments: its options, and a script or the name of a file that holds
one. -/
def runShell : Nat → List (List Char) → Action Flow
  | 0, _ => return .exits 2
  | fuel + 1, args => do
    let isOption (a : List Char) : Bool :=
      (a.head? == some '-' || a.head? == some '+') && 1 < a.length
    let options := args.takeWhile isOption
    let rest := args.drop options.length
    let letters := options.filter fun a => a.head? == some '-' && a != ['-', '-']
    match (letters.flatMap (·.drop 1)).find? fun c =>
      c != 'c' && ! Builtin.optionWords.any (·.1 == c) with
    | some wrong =>
      complain s!"sh: 0: Illegal option -{wrong}"
      return .exits 2
    | none => pure ()
    modify fun m => { m with
      options := (letters.flatMap (·.drop 1)).filter fun c => c != 'c'
      settings := ("PWD".toList, Builtin.directoryText m) ::
        m.settings.filter (·.1 ≠ "PWD".toList) }
    if options.any fun a => a.contains 'c' then
      match rest with
      | [] =>
        complain "sh: 0: -c requires an argument"
        return .exits 2
      | script :: rest =>
        let (name, rest) := match rest with
          | name :: rest => (name, rest)
          | [] => ("sh".toList, [])
        modify fun m => { m with name := name, arguments := rest }
        runWhole fuel script
    else
      match rest with
      | [] =>
        modify fun m => { m with name := "sh".toList, arguments := [] }
        let text := (← takeAll 0).chars
        runWhole fuel text
      | path :: rest =>
        match ← readFile path with
        | .ok source =>
          modify fun m => { m with name := path, arguments := rest }
          runWhole fuel source.chars
        | .error fault =>
          complainOf ["sh: 0: cannot open ".toList, path, ": ".toList,
            (openWords false fault).toList]
          return .exits 2

/-- Run the script that a text is, and what is to be done at its end. -/
def runWhole : Nat → List Char → Action Flow
  | 0, _ => return .exits 2
  | fuel + 1, text => do
    runEnd fuel (← runText fuel [] text)

def runEnd : Nat → Flow → Action Flow
  | 0, _ => return .exits 2
  | fuel + 1, flow => do
    let m ← get
    match flow, m.traps.lookup 0 with
    | .killed _, _ | _, none => return flow
    | flow, some action =>
      let status := match flow with
        | .next status | .exits status | .returns status => status
        | _ => m.last
      set { m with traps := m.traps.filter (·.1 ≠ 0), last := status }
      match ← runText fuel [] action with
      | .exits status => return .exits status
      | .killed signal => return .killed signal
      | _ => return .exits status

/-- Run the script that a text is; the label stands in front of a complaint about the text. -/
def runText : Nat → List Char → List Char → Action Flow
  | 0, _, _ => return .exits 2
  | fuel + 1, label, text => runTokens fuel label 0 (tokens text)

/-- Run the script that tokens make, as much at a time as runs before more is read. -/
def runTokens : Nat → List Char → Nat → List Token → Action Flow
  | 0, _, _, _ => return .exits 2
  | fuel + 1, label, status, ts => do
    match Script.read? ts with
    | .ok none => return .next status
    | .ok (some (.nothing, rest)) => runTokens fuel label status rest
    | .ok (some (script, rest)) =>
      match ← run fuel script with
      | .next status => runTokens fuel label status rest
      | flow => return flow
    | .error (fault, line) =>
      modify fun m => { m with line := line }
      scriptComplaint (label ++ "Syntax error: ".toList ++ (Bytes.ofString fault).units)
      return .exits 2

/-- Do what is to be done at a signal that the script has sent to itself. -/
def signalled : Nat → Nat → Action Flow
  | 0, _ => return .exits 2
  | fuel + 1, signal => do
    if signal = 9 ∨ signal = 19 then return .killed signal
    else
      match (← get).traps.lookup signal with
      | none => return .killed signal
      | some [] => return .next 0
      | some action =>
        match ← runText fuel [] action with
        | .next _ => return .next 0
        | flow => return flow

def runWords : Nat → List Char → List (List Char) → Action Flow
  | 0, _, _ => return .exits 2
  | fuel + 1, name, args => do
    let m ← get
    match m.functions.lookup name with
    | some body =>
      set { m with arguments := args, loops := 0, locals := some [] }
      let flow ← run fuel body
      modify fun after =>
        let kept := after.settings.filter fun v => ! (after.locals.getD []).any (·.1 == v.1)
        let old := ((after.locals.getD []).reverse.foldl
          (fun seen (name, value) =>
            if seen.any (·.1 == name) then seen else seen ++ [(name, value)])
          []).filterMap fun (name, value) => value.map fun value => (name, value)
        { after with
          arguments := m.arguments, loops := m.loops, locals := m.locals, settings := old ++ kept }
      match flow with
      | .returns status => return .next status
      | flow => return flow
    | none =>
      if Builtin.names.contains (String.ofList name) then
        match ← Builtin.carryOut (String.ofList name) args with
        | .killed signal => signalled fuel signal
        | flow => return flow
      else runProgram fuel false name args

/-- Run the command that words are, if it needs more than a machine; else as any other. -/
def runSpecial : Nat → List (List Char) → Action Flow
  | 0, _ => return .exits 2
  | fuel + 1, words => do
    match words with
    | [] => return .next (← get).last
    | name :: args =>
      match String.ofList name, args with
      | "exec", [] => return .next 0
      | "exec", name :: args =>
        modify fun m => { m with traps := m.traps.filter (·.1 ≠ 0) }
        match ← runProgram fuel true name args with
        | .next status => return .exits status
        | flow => return flow
      | "eval", args => runText fuel "eval: ".toList (Text.join [' '] args)
      | ".", path :: _ =>
        let m ← get
        let found ← if path.contains '/' then readFile path else pure (.error .notFound)
        match found with
        | .ok source =>
          match ← runText fuel [] source.chars with
          | .returns status => return .next status
          | flow => return flow
        | .error fault =>
          set m
          scriptComplaint (if path.contains '/' then
              ".: cannot open ".toList ++ path ++ ": ".toList ++ (openWords false fault).toList
            else ".: ".toList ++ path ++ ": not found".toList)
          return .exits 2
      | "command", ['-', 'v'] :: names =>
        let m ← get
        let found := names.filterMap (Builtin.whereabouts? m)
        let _ ← put 1 (found.flatMap (· ++ ['\n']))
        return .next (if found.length = names.length then 0 else 127)
      | "command", name :: args =>
        modify fun m => { m with functions := m.functions.filter (·.1 ≠ name) }
        runWords fuel name args
      | _, args => runWords fuel name args

def runSimple : Nat → Simple → Action Flow
  | 0, _ => return .exits 2
  | fuel + 1, s => do
    modify fun m => { m with
      line := s.line, last := if s.words.isEmpty then 0 else m.last }
    let words ← expandWords fuel s.words
    unlessBroken do
      let m ← get
      let opened ← redirectAll fuel s.redirections
      let values ← s.assignments.foldlM
        (fun found (name, w) => do
          let value := textOf (← expandWord fuel w)
          assign name value
          return (name, value) :: found)
        []
      unlessBroken do
        showCommand values words
        let names := values.map (·.1)
        if ! isSpecial words then modify fun after => { after with shared := names ++ after.shared }
        let forget : Action Unit := modify fun after =>
          if isSpecial words then after
          else
            { after with
              shared := m.shared
              settings := m.settings.filter (fun v => names.contains v.1) ++
                after.settings.filter fun v => ! names.contains v.1 }
        if ! opened then
          restore m.descriptors
          forget
          if isSpecial words ∧ ! words.isEmpty then return .exits 2 else remember (.next 2)
        else
          let flow ← runSpecial fuel words
          if words ≠ [['e', 'x', 'e', 'c']] then restore m.descriptors
          forget
          unlessBroken (remember flow)

def run : Nat → Script → Action Flow
  | 0, _ => return .exits 2
  | fuel + 1, script => do
    match script with
    | .nothing => return .next 0
    | .simple s => insist (← runSimple fuel s)
    | .sequence a b =>
      match ← run fuel a with
      | .next _ => run fuel b
      | flow => return flow
    | .background c =>
      let flow ← inSubshell do
        let m ← get
        let (n, m) := m.openChannel (.device .null)
        set (m.setDescriptor 0 (some n))
        run fuel c
      match flow with
      | .killed signal => return .killed signal
      | _ => remember (.next 0)
    | .both a b =>
      match ← testing (run fuel a) with
      | .next 0 => run fuel b
      | flow => return flow
    | .either a b =>
      match ← testing (run fuel a) with
      | .next 0 => return .next 0
      | .next _ => run fuel b
      | flow => return flow
    | .negated a =>
      match ← testing (run fuel a) with
      | .next status => remember (.next (if status = 0 then 1 else 0))
      | flow => return flow
    | .pipe a b =>
      let m ← get
      let (n, opened) := m.openChannel (.waiting [])
      set opened
      let left ← inSubshell do
        modify fun m => m.setDescriptor 1 (some n)
        run fuel a
      match left with
      | .killed signal => return .killed signal
      | _ =>
        insist (← inSubshell do
          modify fun m => m.setDescriptor 0 (some n)
          run fuel b)
    | .group body redirections line =>
      let m ← get
      modify fun m => { m with line := line }
      if ← redirectAll fuel redirections then
        let flow ← run fuel body
        restore m.descriptors
        return flow
      else
        restore m.descriptors
        insist (← remember (.next 2))
    | .subshell body redirections line =>
      modify fun m => { m with line := line }
      insist (← inSubshell do
        modify fun m => { m with traps := m.traps.filter (·.2.isEmpty) }
        if ← redirectAll fuel redirections then runEnd fuel (← run fuel body) else return .next 2)
    | .branch condition yes no =>
      match ← testing (run fuel condition) with
      | .next 0 => run fuel yes
      | .next _ =>
        match no with
        | .nothing => remember (.next 0)
        | no => run fuel no
      | flow => return flow
    | .loop wanted condition body => inLoop (runLoop fuel wanted condition body 0)
    | .each name words body =>
      let items ← match words with
        | some words => expandWords fuel words
        | none => pure (← get).arguments
      unlessBroken (inLoop (runEach fuel name body 0 items))
    | .choice w cases =>
      let text := textOf (← expandWord fuel w)
      unlessBroken (runCases fuel text cases)
    | .define name body =>
      modify fun m => { m with functions := (name, body) :: m.functions.filter (·.1 ≠ name) }
      remember (.next 0)
    | .case .. => return .next 0

/-- Run the body of a loop as long as its condition has the wanted success. -/
def runLoop : Nat → Bool → Script → Script → Nat → Action Flow
  | 0, _, _, _, _ => return .exits 2
  | fuel + 1, wanted, condition, body, status => do
    match ← testing (run fuel condition) with
    | .next n =>
      if (n == 0) == wanted then
        match ← run fuel body with
        | .next status => runLoop fuel wanted condition body status
        | .continues 1 => runLoop fuel wanted condition body 0
        | flow => return flow
      else remember (.next status)
    | .continues 1 => runLoop fuel wanted condition body 0
    | flow => return flow

def runEach : Nat → List Char → Script → Nat → List (List Char) → Action Flow
  | 0, _, _, _, _ => return .exits 2
  | _, _, _, status, [] => remember (.next status)
  | fuel + 1, name, body, _, item :: items => do
    assign name item
    unlessBroken do
      match ← run fuel body with
      | .next status => runEach fuel name body status items
      | .continues 1 => runEach fuel name body 0 items
      | flow => return flow

def runCases : Nat → List Char → Script → Action Flow
  | 0, _, _ => return .exits 2
  | fuel + 1, text, cases => do
    match cases with
    | .case patterns body rest =>
      if ← matchesOne fuel text patterns then
        match body with
        | .nothing => remember (.next 0)
        | body => run fuel body
      else runCases fuel text rest
    | _ => remember (.next 0)

def matchesOne : Nat → List Char → List Word → Action Bool
  | 0, _, _ => return false
  | _, _, [] => return false
  | fuel + 1, text, w :: rest => do
    if (globOf (← expandWord fuel w)).isWhole text then return true
    else matchesOne fuel text rest

end

end SchemaFormat.Shell
