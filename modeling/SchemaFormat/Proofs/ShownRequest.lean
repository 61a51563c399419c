import SchemaFormat.Proofs.Questions
import SchemaFormat.Proofs.RequestLayout

/-!
What `request` shows.

The request for a file is shown over several lines, and it is sent on one line, as the last argument
of the program that formats the file. Both come from the same options, so `request` shows one
exactly if `fmt` sends one, and what is shown is what is sent but for its layout. Nothing is shown
only where no parser takes the file, and `fmt` refuses the file for the same fault.
-/

namespace SchemaFormat.CommandLine

variable {s : Session} {p : Path} {text : String}

/-- What holds for the file that `request` is asked about. -/
def RequestArguments.options (a : RequestArguments) : FormatOptions :=
  ⟨a.tabWidth, a.useTabs, none⟩

variable {a : RequestArguments} {args : List Bytes} {verbose : Bool}

/-- A file that no parser takes has no request. -/
theorem requestFor_of_route_error {fault : FileFault} (h : a.options.route a.path = .error fault)
    (directory : Path) :
    requestFor directory a = .error (.failure fault.message fault.causes) := by
  unfold requestFor
  dsimp only
  rw [← RequestArguments.options, h]

/-- Any other file has the one that is built for it. -/
theorem requestFor_of_build {directory : Path} {parser : Parser} {request : Request}
    (hroute : a.options.route a.path = .ok parser)
    (hbuild : Request.build (a.options.printOptions directory a.path) = .ok request) :
    requestFor directory a = .ok request := by
  unfold requestFor
  dsimp only
  rw [← RequestArguments.options, hroute, hbuild]

/-- Where there is no request, `request` fails, and nothing happens. -/
theorem runProgram_request_of_error (engine : Command → Engine) (input : Bytes) {fault : FileFault}
    (hparse : Asked.parse (s.environment.lookup engineVariable) args = .run verbose (.request a))
    (hroute : a.options.route a.path = .error fault) :
    runProgram engine args input s =
      ((1, logText (filterFor verbose (s.environment.lookup logVariable)) s.events.reverse ++
        (Ending.failure fault.message fault.causes).complaint), s) := by
  rw [runProgram_of_run engine input hparse, runAsked, runRequest]
  simp only [Run.bind_apply, Run.get_apply, requestFor_of_route_error hroute]
  rfl

/-- Where there is one, it is shown. -/
theorem runProgram_request_of_build (engine : Command → Engine) (input : Bytes) {parser : Parser}
    {request : Request}
    (hparse : Asked.parse (s.environment.lookup engineVariable) args = .run verbose (.request a))
    (hroute : a.options.route a.path = .ok parser)
    (hbuild : Request.build (a.options.printOptions s.directory.path a.path) = .ok request)
    (hroom : s.outputFull = false) :
    (runProgram engine args input s).1.1 = 0 ∧
      (runProgram engine args input s).2.printed =
        s.printed ++ Bytes.ofString (request.pretty ++ "\n") := by
  rw [runProgram_of_run engine input hparse, runAsked, runRequest]
  simp only [Run.bind_apply, Run.get_apply, requestFor_of_build hroute hbuild,
    Run.print_of_room hroom]
  exact ⟨rfl, rfl⟩

/-- A file that no parser takes is not formatted. -/
theorem processFile_of_route_error {f : Formatter} {mode : Mode} {fault : FileFault}
    (htext : s.files.readText s.directory p = .ok text) (h : f.options.route p = .error fault) :
    f.processFile mode p s = (.error fault, s) := by
  apply Formatter.processFile_of_draft_error
  rw [Formatter.draft_of_read htext, Formatter.formatText_of_route_error h]
  rfl

/-- So `fmt` fails, and logs the fault. -/
theorem runProgram_of_route_error (engine : Command → Engine) {b : FormatArguments}
    {fault : FileFault} (input : Bytes)
    (hparse : Asked.parse (s.environment.lookup engineVariable) args = .run verbose (.format b))
    (hmodes : ¬ (b.write ∧ b.check)) (hstdin : b.stdinPath = none) (hpaths : b.paths = [p])
    (hfile : s.files.isFile s.directory p = true)
    (htext : s.files.readText s.directory p = .ok text)
    (hroute : b.options.route p = .error fault) :
    (runProgram engine args input s).1 =
      (2, logText (filterFor verbose (s.environment.lookup logVariable))
        (s.events.reverse ++ [.collected 1, .fileFailed fault])) := by
  have hfailed : (b.formatter engine).processFile b.mode p (s.logged (.collected 1)) =
      (.error fault, _) :=
    processFile_of_route_error htext hroute
  rw [runProgram_file engine input hparse hmodes hstdin hpaths hfile, hfailed]
  simp [codeOf, eventsOf, Session.loggedAll, Session.logged]

/-- **`request` shows what the engine will receive.** Let a command line ask `request` about a path,
and another one ask `fmt` to format the file at that path, with the same indentation, without a
parser of its choice and in the same directory. The first one ends with success exactly if the
second one starts the engine's program, which it does at most once. Then the program gets the text
of the file, and its last argument is what is shown without its spaces and line feeds. Otherwise
nothing is shown and nothing is started, and both report one fault: `request` as the reason why it
fails, `fmt` in the log. -/
theorem request_shows_what_is_sent (engine : Command → Engine) (launch : Launcher)
    (hsilent : launch.Silent) (showing formatting : List Bytes) (input input' : Bytes)
    (s t : Session) (a : RequestArguments) (b : FormatArguments) (verbose verbose' : Bool)
    (text : String) (l : Location)
    (hshowing : Asked.parse (s.environment.lookup engineVariable) showing =
      .run verbose (.request a))
    (hformatting : Asked.parse (t.environment.lookup engineVariable) formatting =
      .run verbose' (.format b))
    (hmodes : ¬ (b.write ∧ b.check)) (hstdin : b.stdinPath = none) (hpaths : b.paths = [a.path])
    (hoptions : b.options = ⟨a.tabWidth, a.useTabs, none⟩) (hdirectory : t.directory = s.directory)
    (hfile : t.files.lookup true t.directory a.path = .found l (.file (Bytes.ofString text)))
    (hroom : s.outputFull = false) :
    let shown := runProgram engine showing input s
    let fmt (launch : Launcher) := runProgram (Command.engine launch) formatting input'
    (shown.1.1 = 0 ↔ ∃ i, Run.Starts fmt launch t [i]) ∧
      (∀ i, Run.Starts fmt launch t [i] →
        i.input = Bytes.ofString text ∧
        ∃ request output, output = Bytes.ofString (Request.pretty request ++ "\n") ∧
          shown.2.printed = s.printed ++ output ∧
            i.arguments.getLast? = some (Bytes.dense output)) ∧
      (shown.1.1 ≠ 0 →
        shown.2.printed = s.printed ∧ Run.Starts fmt launch t [] ∧
        ∃ fault : FileFault,
          shown.1 =
            (1, logText (filterFor verbose (s.environment.lookup logVariable)) s.events.reverse ++
              (Ending.failure fault.message fault.causes).complaint) ∧
          (fmt launch t).1 =
            (2, logText (filterFor verbose' (t.environment.lookup logVariable))
              (t.events.reverse ++ [.collected 1, .fileFailed fault]))) := by
  intro shown fmt
  have htext : t.files.readText t.directory a.path = .ok text := by
    rw [FileSystem.readText_eq_ok_iff, FileSystem.read, hfile]
  have hisFile : t.files.isFile t.directory a.path = true := by rw [FileSystem.isFile, hfile]
  obtain ⟨request, hbuild, -⟩ :=
    a.options.exists_request s.directory.isAbsolute_path (Formatter.ne_nil_of_read htext)
  have hstarts : Run.Starts fmt launch t (b.invocation? t.directory.path text a.path).toList :=
    starts_file input' hsilent hformatting hmodes hstdin hpaths hisFile htext
  rw [FormatArguments.invocation?, FormatOptions.question?, hoptions, hdirectory,
    ← RequestArguments.options, hbuild]
    at hstarts
  cases hroute : a.options.route a.path with
  | error fault =>
    rw [hroute] at hstarts
    have hshown : shown = _ := runProgram_request_of_error engine input hshowing hroute
    have hnever (i : Invocation) : ¬ Run.Starts fmt launch t [i] := by
      intro hstart
      cases hstarts.unique hstart
    have hrefused : b.options.route a.path = .error fault := by
      rw [hoptions]
      exact hroute
    rw [hshown]
    refine ⟨?_, fun i hi => absurd hi (hnever i), fun _ => ?_⟩
    · constructor
      · intro h
        cases h
      · rintro ⟨i, hi⟩
        exact absurd hi (hnever i)
    · refine ⟨rfl, hstarts, fault, rfl, ?_⟩
      exact runProgram_of_route_error _ input' hformatting hmodes hstdin hpaths hisFile
        htext hrefused
  | ok parser =>
    rw [hroute] at hstarts
    obtain ⟨hcode, hprinted⟩ :=
      runProgram_request_of_build engine input hshowing hroute hbuild hroom
    refine ⟨⟨fun _ => ⟨_, hstarts⟩, fun _ => hcode⟩, ?_, fun h => absurd hcode h⟩
    intro i hi
    obtain rfl : b.command.invocation text request.compact = i :=
      (List.cons.inj (hstarts.unique hi)).1
    refine ⟨rfl, request, _, rfl, hprinted, ?_⟩
    rw [Request.dense_pretty (FormatOptions.graphic_uri s.directory.isAbsolute_path hbuild)]
    exact List.getLast?_concat

def modelRequest : RequestArguments := ⟨Path.ofString "a.prisma", 4, true⟩

def modelFormat : FormatArguments where
  paths := [Path.ofString "a.prisma"]
  tabWidth := 4
  useTabs := true
  engine := "prisma-fmt"

/-- The request for a model is shown, and the program that formats it is started with the same one.
-/
theorem request_shows_what_is_sent_model :
    (runProgram lineFeeder
        (["request", "--tab-width", "4", "--use-tabs", "a.prisma"].map Bytes.ofString) []
        Formatter.twoModels).1.1 = 0 ∧
      ∃ i, Run.Starts
          (fun launch => runProgram (Command.engine launch)
            (["fmt", "--tab-width=4", "--use-tabs", "a.prisma"].map Bytes.ofString) [])
          (.ofOutcome fun i => .finished none i.input [] (.exited 0)) Formatter.twoModels [i] ∧
        i.input = Bytes.ofString "A" ∧
        ∃ request, i.arguments.getLast? =
          some (Bytes.dense (Bytes.ofString (Request.pretty request ++ "\n"))) := by
  have h := request_shows_what_is_sent lineFeeder
    (.ofOutcome fun i => .finished none i.input [] (.exited 0)) (Launcher.silent_ofOutcome _)
    (["request", "--tab-width", "4", "--use-tabs", "a.prisma"].map Bytes.ofString)
    (["fmt", "--tab-width=4", "--use-tabs", "a.prisma"].map Bytes.ofString) [] []
    Formatter.twoModels Formatter.twoModels modelRequest modelFormat false false "A"
    [Bytes.ofString "a.prisma"] (by decide +kernel) (by decide +kernel) (by decide) rfl rfl rfl rfl
    (by decide +kernel) rfl
  have hzero :
      (runProgram lineFeeder
        (["request", "--tab-width", "4", "--use-tabs", "a.prisma"].map Bytes.ofString) []
        Formatter.twoModels).1.1 = 0 := by decide +kernel
  obtain ⟨i, hstarts⟩ := h.1.mp hzero
  obtain ⟨hinput, request, output, houtput, -, hlast⟩ := h.2.1 i hstarts
  rw [houtput] at hlast
  exact ⟨hzero, i, hstarts, hinput, request, hlast⟩

end SchemaFormat.CommandLine
