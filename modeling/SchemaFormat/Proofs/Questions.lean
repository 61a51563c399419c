import SchemaFormat.Proofs.Collection
import SchemaFormat.Proofs.ExitCode

/-!
What engines are asked.

A text is put to the engine once, if a parser takes its file, and the question is the text and the
request for the file (`FormatOptions.question?`). A file asks what its text asks; files that are
taken one after the other ask what each asks when its turn comes (`calls_processEach`). An engine
inside the program notes each question. Of an engine that is a program, each invocation can be noted
by its launcher, and which invocations a run makes is said by what is noted then, whatever is noted
of each (`Run.Starts`).
-/

namespace SchemaFormat

/-! ### Noting questions -/

/-- Each question leaves one note, and asking leaves no other. -/
def Engine.Notes (engine : Engine) (note : Call → Call) : Prop :=
  ∀ source request s, (engine source request s).2.calls = note ⟨source, request⟩ :: s.calls

theorem Engine.notes_ofFunction (e : Answers) : (Engine.ofFunction e).Notes id :=
  fun _ _ _ => rfl

namespace Launcher

/-- The launcher that makes a note of each invocation and goes on as before. -/
def noting (note : Invocation → Call) (launch : Launcher) : Launcher :=
  fun i => do
    Run.note (note i)
    launch i

/-- Programs do not touch the notes. -/
def Silent (launch : Launcher) : Prop :=
  ∀ i s, (launch i s).2.calls = s.calls

theorem silent_ofOutcome (outcome : Invocation → Outcome) : (ofOutcome outcome).Silent :=
  fun _ _ => rfl

end Launcher

/-- A run makes these invocations, in this order: if a note is made of each at its start, whichever
it is, then these are the notes in the end. -/
def Run.Starts {α : Type} (run : Launcher → Run α) (launch : Launcher) (s : Session)
    (started : List Invocation) : Prop :=
  ∀ note, (run (launch.noting note) s).2.calls = (started.map note).reverse ++ s.calls

/-- There is one list of invocations that a run makes. -/
theorem Run.Starts.unique {α : Type} {run : Launcher → Run α} {launch : Launcher} {s : Session}
    {started started' : List Invocation} (h : Starts run launch s started)
    (h' : Starts run launch s started') : started = started' := by
  have hmap (note : Invocation → Call) : started.map note = started'.map note := by
    have heq := (h note).symm.trans (h' note)
    exact List.reverse_inj.mp (List.append_cancel_right heq)
  clear h h'
  induction started generalizing started' with
  | nil => exact (List.map_eq_nil_iff.mp (hmap fun _ => ⟨"", ""⟩).symm).symm
  | cons i rest ih =>
    -- The first invocation is told from all others by a note that is made of it alone.
    let own (j : Invocation) : Call := ⟨if j = i then "own" else "other", ""⟩
    obtain ⟨i', rest', rfl, hown, -⟩ := List.map_eq_cons_iff.mp (hmap own).symm
    obtain rfl : i' = i := by
      by_contra hne
      simp [own, hne] at hown
    rw [ih fun note => (List.cons.inj (hmap note)).2]

namespace Command

variable {c : Command} {launch : Launcher}

/-- Of an engine that is a program, each question is an invocation. -/
theorem notes_engine (hsilent : launch.Silent) (note : Invocation → Call) :
    (c.engine (launch.noting note)).Notes fun k => note (c.invocation k.source k.request) := by
  intro source request s
  let before := (s.logged (.spawning c.name source.utf8ByteSize request)).noted
    (note (c.invocation source request))
  let launched := launch (c.invocation source request) before
  have hleft : (c.engine (launch.noting note) source request s).2 =
      (((c.events launched.1).forM fun e => Run.log (id e)) launched.2).2 := rfl
  rw [hleft, Run.forM_log_apply]
  exact hsilent _ _

end Command

/-! ### Questions -/

namespace FormatOptions

/-- What a text asks that belongs to a path, `directory` being where relative paths start. -/
def question? (o : FormatOptions) (directory : Path) (text : String) (p : Path) : Option Call :=
  match o.route p with
  | .error _ => none
  | .ok _ =>
    match Request.build (o.printOptions directory p) with
    | .error _ => none
    | .ok request => some ⟨text, request.compact⟩

/-- What a file asks. -/
def questionOf (o : FormatOptions) (files : FileSystem) (directory : Location)
    (p : Path) : Option Call :=
  match files.readText directory p with
  | .error _ => none
  | .ok text => o.question? directory.path text p

end FormatOptions

namespace Formatter

variable {f : Formatter} {note : Call → Call} {s : Session} {p : Path} {mode : Mode}

/-- What a text asks is noted. -/
theorem calls_formatText (hf : f.engine.Notes note) (text : String) (p : Path) (s : Session) :
    (f.formatText text p s).2.calls =
      ((f.options.question? s.directory.path text p).map note).toList ++ s.calls := by
  unfold FormatOptions.question?
  cases hroute : f.options.route p with
  | error fault =>
    rw [formatText_of_route_error hroute]
    rfl
  | ok parser =>
    cases hbuild : Request.build (f.options.printOptions s.directory.path p) with
    | error cause =>
      rw [formatText_of_request_error hroute hbuild]
      rfl
    | ok request =>
      rw [formatText_of_request hroute hbuild]
      exact hf text request.compact _

theorem calls_draft (hf : f.engine.Notes note) (p : Path) (s : Session) :
    (f.draft p s).2.calls =
      ((f.options.questionOf s.files s.directory p).map note).toList ++ s.calls := by
  unfold FormatOptions.questionOf
  cases hread : s.files.readText s.directory p with
  | error fault =>
    rw [draft_of_unread hread]
    rfl
  | ok text =>
    rw [draft_of_read hread]
    exact calls_formatText hf text p s

/-- Printing asks nothing. -/
theorem calls_print (output : Bytes) (s : Session) : (Run.print output s).2.calls = s.calls := by
  unfold Run.print
  split <;> rfl

/-- Nor does anything else that is done with a draft. -/
theorem calls_settle (d : Draft) (mode : Mode) (s : Session) :
    (settle d mode s).2.calls = s.calls := by
  cases mode with
  | stdout =>
    rw [settle_printed]
    exact calls_print d.block s
  | write =>
    cases hchanged : d.changed with
    | false => rw [settle_unchanged hchanged]
    | true =>
      rw [settle_changed hchanged]
      cases s.files.write s.directory d.path (Bytes.ofString d.formatted) <;> rfl
  | check => rfl

/-- What a file asks is noted, whatever becomes of the answer. -/
theorem calls_processFile (hf : f.engine.Notes note) (mode : Mode) (p : Path) (s : Session) :
    (f.processFile mode p s).2.calls =
      ((f.options.questionOf s.files s.directory p).map note).toList ++ s.calls := by
  rw [← calls_draft hf]
  cases hdraft : (f.draft p s).1 with
  | error fault => rw [processFile_of_error hdraft]
  | ok d =>
    rw [processFile_of_ok hdraft]
    exact calls_settle d mode _

/-- Files ask one after the other, each what it asks when its turn comes. -/
theorem calls_processEach (hf : f.engine.Notes note) (mode : Mode) (paths : List Path)
    (s : Session) :
    (f.processEach mode paths s).2.calls =
      ((f.turns mode paths s).filterMap fun t =>
        (f.options.questionOf t.before.files t.before.directory t.path).map note).reverse ++
          s.calls := by
  induction paths generalizing s with
  | nil => rfl
  | cons p paths ih =>
    rw [processEach_cons, turns, List.filterMap_cons]
    dsimp only
    rw [ih, calls_processFile hf]
    cases (f.options.questionOf s.files s.directory p).map note with
    | none => rfl
    | some call => simp

/-- So does a batch. -/
theorem calls_processFiles (hf : f.engine.Notes note) (mode : Mode) (paths : List Path)
    (s : Session) :
    (f.processFiles mode paths s).2.calls =
      ((f.turns mode paths s).filterMap fun t =>
        (f.options.questionOf t.before.files t.before.directory t.path).map note).reverse ++
          s.calls := by
  rw [CommandLine.processFiles_apply]
  exact calls_processEach hf mode paths s

end Formatter

/-! ### Command lines -/

namespace CommandLine

variable {s : Session} {p : Path}

/-- A command line that asks for something to be done ends as doing it does, and then writes the
log. -/
theorem runProgram_of_run (engine : Command → Engine) {args : List Bytes} {verbose : Bool}
    {action : Action} (input : Bytes)
    (hparse : Asked.parse (s.environment.lookup engineVariable) args = .run verbose action) :
    runProgram engine args input s =
      let done :=
        runAsked engine (s.environment.lookup engineVariable) input (.run verbose action) s
      ((done.1.code,
        logText (filterFor verbose (s.environment.lookup logVariable)) done.2.events.reverse ++
        done.1.complaint), done.2) := by
  unfold runProgram
  simp only [Run.bind_apply, Run.get_apply, hparse]
  rfl

/-- The code that formatting one target ends with that is a file. -/
def codeOf (mode : Mode) : Except FileFault Bool → Nat
  | .error _ => 2
  | .ok changed => if mode = .check ∧ changed = true then 1 else 0

/-- What is logged about one target that is a file, once it has been processed. -/
def eventsOf (mode : Mode) (p : Path) : Except FileFault Bool → List Log.Event
  | .error fault => [.fileFailed fault]
  | .ok changed => if mode = .check ∧ changed = true then [.unformatted p] else []

/-- Formatting one target that is a file is processing it. -/
theorem formatTargets_file {f : Formatter} {mode : Mode}
    (hfile : s.files.isFile s.directory p = true) :
    formatTargets f mode [p] s =
      let done := f.processFile mode p (s.logged (.collected 1))
      (⟨codeOf mode done.1, ""⟩, done.2.loggedAll (eventsOf mode p done.1)) := by
  have hcollected : Collected.ofTargets s.files s.directory [p] = ⟨[p], []⟩ := by
    rw [Collected.ofTargets, Collected.flatMap]
    simp [Collected.ofTarget_of_isFile hfile]
  have hgathered : ((([] : List FileFault).forM fun fault => Run.log (.targetFailed fault)) s).2 =
      s := rfl
  unfold formatTargets
  simp only [Run.bind_apply, Run.collect_apply, Run.log_apply, hcollected, hgathered,
    List.length_singleton]
  rw [processFiles_apply, Formatter.processEach_cons]
  obtain ⟨result, t⟩ := f.processFile mode p (s.logged (.collected 1))
  cases mode <;> rcases result with fault | _ | _ <;> rfl

/-- What is started for a text that belongs to a path, `directory` being where relative paths start.
-/
def FormatArguments.invocation? (a : FormatArguments) (directory : Path) (text : String)
    (p : Path) :
    Option Invocation :=
  (a.options.question? directory text p).map fun k => a.command.invocation k.source k.request

variable {launch : Launcher} {args : List Bytes} {verbose : Bool} {a : FormatArguments}
  {text : String}

/-- A command line that asks for one file to be formatted ends as processing it does. -/
theorem runProgram_file (engine : Command → Engine) (input : Bytes)
    (hparse : Asked.parse (s.environment.lookup engineVariable) args = .run verbose (.format a))
    (hmodes : ¬ (a.write ∧ a.check)) (hstdin : a.stdinPath = none) (hpaths : a.paths = [p])
    (hfile : s.files.isFile s.directory p = true) :
    runProgram engine args input s =
      let done := (a.formatter engine).processFile a.mode p (s.logged (.collected 1))
      let left := done.2.loggedAll (eventsOf a.mode p done.1)
      ((codeOf a.mode done.1,
        logText (filterFor verbose (s.environment.lookup logVariable)) left.events.reverse),
        left) := by
  have htargets : a.targets = [p] := by
    rw [FormatArguments.targets, hpaths, List.isEmpty_cons, if_neg (by simp)]
  rw [runProgram_apply input hparse hmodes hstdin, htargets]
  dsimp only
  rw [formatTargets_file hfile, String.append_empty]
  rfl

/-- It starts what the text of the file asks for. -/
theorem starts_file (input : Bytes) (hsilent : launch.Silent)
    (hparse : Asked.parse (s.environment.lookup engineVariable) args = .run verbose (.format a))
    (hmodes : ¬ (a.write ∧ a.check)) (hstdin : a.stdinPath = none) (hpaths : a.paths = [p])
    (hfile : s.files.isFile s.directory p = true)
    (htext : s.files.readText s.directory p = .ok text) :
    Run.Starts (fun launch => runProgram (Command.engine launch) args input) launch s
      (a.invocation? s.directory.path text p).toList := by
  intro note
  have hrun :=
    runProgram_file (Command.engine (launch.noting note)) input hparse hmodes hstdin hpaths hfile
  have hcalls :=
    Formatter.calls_processFile (f := a.formatter (Command.engine (launch.noting note)))
      (Command.notes_engine hsilent note) a.mode p (s.logged (.collected 1))
  have hquestion : a.options.questionOf s.files s.directory p =
      a.options.question? s.directory.path text p := by
    rw [FormatOptions.questionOf, htext]
  dsimp only
  rw [hrun]
  refine hcalls.trans ?_
  change ((a.options.questionOf s.files s.directory p).map _).toList ++ s.calls = _
  rw [hquestion, FormatArguments.invocation?]
  cases a.options.question? s.directory.path text p <;> rfl

end CommandLine

end SchemaFormat
