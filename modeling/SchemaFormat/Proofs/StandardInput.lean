import SchemaFormat.Proofs.Questions

/-!
Formatting standard input.

The text of standard input is formatted under the name of a file as the text of that file is. What
is printed is what a run in place leaves in the file, and where the text is refused the file keeps
what it holds.
-/

namespace SchemaFormat.CommandLine

variable {f : Formatter} {e : Answers} {s : Session} {p : Path} {text out : String} {l : Location}

/-! ### The text on standard input -/

/-- A text that is refused ends the run. -/
theorem formatStdin_of_error {fault : FileFault} (h : (f.formatText text p s).1 = .error fault) :
    formatStdin f (Bytes.ofString text) p s =
      (.failure fault.message fault.causes, (f.formatText text p s).2) := by
  unfold formatStdin
  rw [Bytes.toString?_ofString]
  dsimp only
  rw [Run.bind_apply, h]
  rfl

/-- What a text is answered is printed. -/
theorem formatStdin_of_ok (h : (f.formatText text p s).1 = .ok out) :
    formatStdin f (Bytes.ofString text) p s =
      (.ofPrinted (Run.print (Bytes.ofString out) (f.formatText text p s).2).1,
        (Run.print (Bytes.ofString out) (f.formatText text p s).2).2) := by
  unfold formatStdin
  rw [Bytes.toString?_ofString]
  dsimp only
  rw [Run.bind_apply, h]
  rfl

/-- The text asks what it asks anywhere. -/
theorem calls_formatStdin {note : Call → Call} (hf : f.engine.Notes note) (text : String) (p : Path)
    (s : Session) :
    (formatStdin f (Bytes.ofString text) p s).2.calls =
      ((f.options.question? s.directory.path text p).map note).toList ++ s.calls := by
  rw [← Formatter.calls_formatText hf]
  cases hanswer : (f.formatText text p s).1 with
  | error fault => rw [formatStdin_of_error hanswer]
  | ok out =>
    rw [formatStdin_of_ok hanswer]
    exact Formatter.calls_print _ _

/-- With an engine that computes, a refused text prints nothing. -/
theorem formatStdin_of_refused (he : f.engine.Computes e) {fault : FileFault}
    (h : f.options.answer e s.directory.path text p = .error fault) :
    (formatStdin f (Bytes.ofString text) p s).1.code = 1 ∧
      (formatStdin f (Bytes.ofString text) p s).2.printed = s.printed := by
  obtain ⟨hanswer, hheard⟩ := Formatter.formatText_computes he text p s
  rw [formatStdin_of_error (hanswer.trans h)]
  exact ⟨rfl, hheard.printed⟩

/-- And any other prints what it is answered, where there is room. -/
theorem formatStdin_of_answered (he : f.engine.Computes e) (hroom : s.outputFull = false)
    (h : f.options.answer e s.directory.path text p = .ok out) :
    (formatStdin f (Bytes.ofString text) p s).1.code = 0 ∧
      (formatStdin f (Bytes.ofString text) p s).2.printed = s.printed ++ Bytes.ofString out := by
  obtain ⟨hanswer, hheard⟩ := Formatter.formatText_computes he text p s
  rw [formatStdin_of_ok (hanswer.trans h), Run.print_of_room (hheard.outputFull.trans hroom),
    hheard.printed]
  exact ⟨rfl, rfl⟩

/-! ### The text in a file -/

/-- The draft of a file is what its text is answered. -/
theorem draft_eq_answer (he : f.engine.Computes e)
    (htext : s.files.readText s.directory p = .ok text) :
    (f.draft p s).1 = (f.options.answer e s.directory.path text p).map (⟨p, text, ·⟩) := by
  rw [(Formatter.draft_computes he p s).1, FormatOptions.draftOf, htext]

/-- A file whose text is refused keeps it. -/
theorem processFile_of_refused (he : f.engine.Computes e)
    (htext : s.files.readText s.directory p = .ok text) {fault : FileFault}
    (h : f.options.answer e s.directory.path text p = .error fault) :
    (f.processFile .write p s).1 = .error fault ∧ (f.processFile .write p s).2.files = s.files := by
  have hdraft : (f.draft p s).1 = .error fault := by
    rw [draft_eq_answer he htext, h]
    rfl
  rw [Formatter.processFile_of_error hdraft]
  exact ⟨rfl, (Formatter.draft_computes he p s).2.files⟩

/-- And any other holds what its text is answered. -/
theorem processFile_of_answered (he : f.engine.Computes e)
    (hfile : s.files.lookup true s.directory p = .found l (.file (Bytes.ofString text)))
    (h : f.options.answer e s.directory.path text p = .ok out) :
    (∃ changed, (f.processFile .write p s).1 = .ok changed) ∧
      (f.processFile .write p s).2.files.read s.directory p = .ok (Bytes.ofString out) := by
  have hread : s.files.read s.directory p = .ok (Bytes.ofString text) := by
    rw [FileSystem.read, hfile]
  have htext : s.files.readText s.directory p = .ok text := by
    rw [FileSystem.readText_eq_ok_iff, hread]
  have hisFile : s.files.isFile s.directory p = true := by rw [FileSystem.isFile, hfile]
  have hdraft : (f.draft p s).1 = .ok ⟨p, text, out⟩ := by
    rw [draft_eq_answer he htext, h]
    rfl
  refine ⟨⟨_, by rw [Formatter.processFile_write he hisFile, hdraft]; rfl⟩, ?_⟩
  apply (Formatter.rewritten_processFile he p s).read_of_draft he rfl ?_ hisFile hdraft
  intro q hq hne
  exact absurd hq hne

/-! ### The two command lines -/

/-- The arguments that name standard input after a file. -/
def FormatArguments.reading (a : FormatArguments) (p : Path) : FormatArguments :=
  { a with paths := [], write := false, check := false, stdinPath := some p }

/-- The arguments that ask for the file to be formatted in place. -/
def FormatArguments.writing (a : FormatArguments) (p : Path) : FormatArguments :=
  { a with paths := [p], write := true, check := false, stdinPath := none }

variable {a : FormatArguments} {args : List Bytes} {verbose : Bool} {engine : Command → Engine}

theorem writing_modes (a : FormatArguments) (p : Path) :
    ¬ ((a.writing p).write ∧ (a.writing p).check) := by
  simp [FormatArguments.writing]

/-- A command line that names standard input after a file formats it under this name. -/
theorem runProgram_reading (engine : Command → Engine) (input : Bytes)
    (hparse : Asked.parse (s.environment.lookup engineVariable) args =
      .run verbose (.format (a.reading p))) :
    let done := formatStdin (a.formatter engine) input p s
    (runProgram engine args input s).1.1 = done.1.code ∧
      (runProgram engine args input s).2 = done.2 := by
  rw [runProgram_of_run engine input hparse, runAsked, runFormat,
    if_neg (by simp [FormatArguments.reading])]
  exact ⟨rfl, rfl⟩

/-- A refused text ends it with 1, and prints nothing. -/
theorem runProgram_reading_of_refused (he : (engine a.command).Computes e) {fault : FileFault}
    (hparse : Asked.parse (s.environment.lookup engineVariable) args =
      .run verbose (.format (a.reading p)))
    (h : a.options.answer e s.directory.path text p = .error fault) :
    (runProgram engine args (Bytes.ofString text) s).1.1 = 1 ∧
      (runProgram engine args (Bytes.ofString text) s).2.printed = s.printed := by
  obtain ⟨hcode, hleft⟩ := runProgram_reading engine (Bytes.ofString text) hparse
  rw [hcode, hleft]
  exact formatStdin_of_refused (f := a.formatter engine) he h

/-- Any other ends it with 0, and what it is answered is printed. -/
theorem runProgram_reading_of_answered (he : (engine a.command).Computes e)
    (hroom : s.outputFull = false)
    (hparse : Asked.parse (s.environment.lookup engineVariable) args =
      .run verbose (.format (a.reading p)))
    (h : a.options.answer e s.directory.path text p = .ok out) :
    (runProgram engine args (Bytes.ofString text) s).1.1 = 0 ∧
      (runProgram engine args (Bytes.ofString text) s).2.printed =
        s.printed ++ Bytes.ofString out := by
  obtain ⟨hcode, hleft⟩ := runProgram_reading engine (Bytes.ofString text) hparse
  rw [hcode, hleft]
  exact formatStdin_of_answered (f := a.formatter engine) he hroom h

/-- A command line that asks for a file to be formatted in place ends with 2 if its text is refused,
and leaves it. -/
theorem runProgram_writing_of_refused (he : (engine a.command).Computes e) (input : Bytes)
    {fault : FileFault}
    (hparse : Asked.parse (s.environment.lookup engineVariable) args =
      .run verbose (.format (a.writing p)))
    (hfile : s.files.lookup true s.directory p = .found l (.file (Bytes.ofString text)))
    (h : a.options.answer e s.directory.path text p = .error fault) :
    (runProgram engine args input s).1.1 = 2 ∧
      (runProgram engine args input s).2.files.read s.directory p = .ok (Bytes.ofString text) := by
  have hread : s.files.read s.directory p = .ok (Bytes.ofString text) := by
    rw [FileSystem.read, hfile]
  have hisFile : s.files.isFile s.directory p = true := by rw [FileSystem.isFile, hfile]
  obtain ⟨hresult, hkept⟩ :=
    processFile_of_refused (f := a.formatter engine) (s := s.logged (.collected 1)) he
      (FileSystem.readText_eq_ok_iff.mpr hread) h
  rw [runProgram_file engine input hparse (writing_modes a p) rfl rfl hisFile]
  constructor
  · exact congrArg (codeOf .write) hresult
  · exact (congrArg (·.read s.directory p) hkept).trans hread

/-- It ends with 0 if the text is answered, and leaves what that is. -/
theorem runProgram_writing_of_answered (he : (engine a.command).Computes e) (input : Bytes)
    (hparse : Asked.parse (s.environment.lookup engineVariable) args =
      .run verbose (.format (a.writing p)))
    (hfile : s.files.lookup true s.directory p = .found l (.file (Bytes.ofString text)))
    (h : a.options.answer e s.directory.path text p = .ok out) :
    (runProgram engine args input s).1.1 = 0 ∧
      (runProgram engine args input s).2.files.read s.directory p = .ok (Bytes.ofString out) := by
  have hisFile : s.files.isFile s.directory p = true := by rw [FileSystem.isFile, hfile]
  obtain ⟨⟨changed, hresult⟩, hleft⟩ := processFile_of_answered (f := a.formatter engine)
    (s := s.logged (.collected 1)) he hfile h
  rw [runProgram_file engine input hparse (writing_modes a p) rfl rfl hisFile]
  constructor
  · refine (congrArg (codeOf .write) hresult).trans ?_
    simp [codeOf]
  · exact hleft

/-- Both start the same. -/
theorem starts_reading (outcome : Invocation → Outcome)
    (hparse : Asked.parse (s.environment.lookup engineVariable) args =
      .run verbose (.format (a.reading p))) :
    Run.Starts (fun launch => runProgram (Command.engine launch) args (Bytes.ofString text))
      (.ofOutcome outcome) s (a.invocation? s.directory.path text p).toList := by
  intro note
  have hsession := (runProgram_reading (Command.engine ((Launcher.ofOutcome outcome).noting note))
    (Bytes.ofString text) hparse).2
  have hcalls := calls_formatStdin
    (f := a.formatter (Command.engine ((Launcher.ofOutcome outcome).noting note)))
    (Command.notes_engine (Launcher.silent_ofOutcome outcome) note) text p s
  dsimp only
  rw [hsession]
  refine hcalls.trans ?_
  change ((a.options.question? s.directory.path text p).map _).toList ++ s.calls = _
  rw [FormatArguments.invocation?]
  cases a.options.question? s.directory.path text p <;> rfl

/-- **Formatting standard input agrees with formatting the file.** Let a path lead to a file that
holds a text, and let the outcome of a program hang on how it is started alone. One command line
names standard input after the path, and gets the text there; another one asks for the file to be
formatted in place, with the same options and the same program. Both start the same. The first one
ends with 0 and prints some bytes exactly if the second one ends with 0 and leaves these bytes in
the file. Otherwise the first one ends with 1 and prints nothing, and the second one ends with 2 and
leaves the text. -/
theorem stdin_agrees_with_file (outcome : Invocation → Outcome) (reading writing : List Bytes)
    (input : Bytes) (s : Session) (a : FormatArguments) (p : Path) (l : Location) (text : String)
    (verbose verbose' : Bool)
    (hreading : Asked.parse (s.environment.lookup engineVariable) reading =
      .run verbose (.format (a.reading p)))
    (hwriting : Asked.parse (s.environment.lookup engineVariable) writing =
      .run verbose' (.format (a.writing p)))
    (hfile : s.files.lookup true s.directory p = .found l (.file (Bytes.ofString text)))
    (hroom : s.outputFull = false) :
    let engine := Command.engine (.ofOutcome outcome)
    let fromInput := runProgram engine reading (Bytes.ofString text) s
    let inPlace := runProgram engine writing input s
    (∃ started,
      Run.Starts (fun launch => runProgram (Command.engine launch) reading (Bytes.ofString text))
        (.ofOutcome outcome) s started ∧
      Run.Starts (fun launch => runProgram (Command.engine launch) writing input)
        (.ofOutcome outcome) s started) ∧
    (∀ output, fromInput.1.1 = 0 ∧ fromInput.2.printed = s.printed ++ output ↔
      inPlace.1.1 = 0 ∧ inPlace.2.files.read s.directory p = .ok output) ∧
    ((∃ output, fromInput.1.1 = 0 ∧ fromInput.2.printed = s.printed ++ output) ∨
      (fromInput.1.1 = 1 ∧ fromInput.2.printed = s.printed ∧
        inPlace.1.1 = 2 ∧ inPlace.2.files.read s.directory p = .ok (Bytes.ofString text))) := by
  intro engine fromInput inPlace
  have htext : s.files.readText s.directory p = .ok text := by
    rw [FileSystem.readText_eq_ok_iff, FileSystem.read, hfile]
  have hisFile : s.files.isFile s.directory p = true := by rw [FileSystem.isFile, hfile]
  have hstarts := starts_file (a := a.writing p) input (Launcher.silent_ofOutcome outcome) hwriting
    (writing_modes a p) rfl rfl hisFile htext
  refine ⟨⟨_, starts_reading outcome hreading, hstarts⟩, ?_⟩
  let e : Answers :=
    fun source request => a.command.answer (outcome (a.command.invocation source request))
  have he : (engine a.command).Computes e := a.command.computes_formatter a.options outcome
  cases hanswer : a.options.answer e s.directory.path text p with
  | error fault =>
    obtain ⟨hread, hsilent⟩ := runProgram_reading_of_refused he hreading hanswer
    obtain ⟨hwritten, hkept⟩ := runProgram_writing_of_refused he input hwriting hfile hanswer
    refine ⟨fun output => ⟨?_, ?_⟩, .inr ⟨hread, hsilent, hwritten, hkept⟩⟩
    · rintro ⟨hzero, -⟩
      cases hread.symm.trans hzero
    · rintro ⟨hzero, -⟩
      cases hwritten.symm.trans hzero
  | ok out =>
    obtain ⟨hread, hprinted⟩ := runProgram_reading_of_answered he hroom hreading hanswer
    obtain ⟨hwritten, hleft⟩ := runProgram_writing_of_answered he input hwriting hfile hanswer
    refine ⟨fun output => ⟨?_, ?_⟩, .inl ⟨_, hread, hprinted⟩⟩
    · rintro ⟨-, houtput⟩
      obtain rfl := List.append_cancel_left (hprinted.symm.trans houtput)
      exact ⟨hwritten, hleft⟩
    · rintro ⟨-, hcontent⟩
      obtain rfl := Except.ok.inj (hleft.symm.trans hcontent)
      exact ⟨hread, hprinted⟩

/-- What `fmt` is asked about a model, its name being given in one of the two ways. -/
def tabbedArguments : FormatArguments where
  useTabs := true
  engine := "prisma-fmt"

/-- What becomes of a program that puts a line feed behind its input. -/
def fed (i : Invocation) : Outcome :=
  .finished none (i.input ++ [10]) [] (.exited 0)

/-- The model is printed with the line feed, and it is left with it. -/
theorem stdin_agrees_with_file_model :
    (runProgram (Command.engine (.ofOutcome fed))
        (["fmt", "--use-tabs", "--stdin-filepath", "a.prisma"].map Bytes.ofString)
        (Bytes.ofString "A") Formatter.twoModels).1.1 = 0 ∧
      (runProgram (Command.engine (.ofOutcome fed))
        (["fmt", "--use-tabs", "--stdin-filepath", "a.prisma"].map Bytes.ofString)
        (Bytes.ofString "A") Formatter.twoModels).2.printed =
        Formatter.twoModels.printed ++ Bytes.ofString "A\n" := by
  have h := stdin_agrees_with_file fed
    (["fmt", "--use-tabs", "--stdin-filepath", "a.prisma"].map Bytes.ofString)
    (["fmt", "--write", "--use-tabs", "a.prisma"].map Bytes.ofString) [] Formatter.twoModels
    tabbedArguments (Path.ofString "a.prisma") [Bytes.ofString "a.prisma"] "A" false false
    (by decide +kernel) (by decide +kernel) (by decide +kernel) rfl
  exact (h.2.1 _).mpr ⟨by decide +kernel, by decide +kernel⟩

end SchemaFormat.CommandLine
