import SchemaFormat.Proofs.Replacement
import SchemaFormat.Proofs.Turns
import SchemaFormat.Proofs.WriteThenCheck

/-!
What the exit code of `fmt` tells.

A run collects the files that its targets stand for and takes one after the other. It ends with 2 if
a target could not be walked or a file failed at its turn, else with 1 if files were only checked
and one differs, else with 0 (`code_of_fmt`). The engine may be any. What a check leaves hangs on
the engine alone: if that keeps the files, so does the check; and if it logs nothing but details,
the error output of the check is the faults and then the files that differ, each in order.
-/

namespace SchemaFormat

/-! ### What an engine leaves -/

/-- Between two sessions the files stay, and the working directory. -/
structure Session.Keeps (s t : Session) : Prop where
  files : t.files = s.files
  directory : t.directory = s.directory

/-- Between two sessions only details are logged. -/
def Session.Details (s t : Session) : Prop :=
  ∃ details : List Log.Event, t.events = details ++ s.events ∧ ∀ e ∈ details, e.level = .debug

/-- Asking the engine keeps the files and the working directory. -/
def Engine.Keeps (engine : Engine) : Prop :=
  ∀ source request (s : Session), s.Keeps (engine source request s).2

/-- Asking the engine logs nothing but details. -/
def Engine.Quiet (engine : Engine) : Prop :=
  ∀ source request (s : Session), s.Details (engine source request s).2

namespace Session

variable {s t u : Session}

theorem Keeps.refl (s : Session) : Keeps s s := ⟨rfl, rfl⟩

theorem Keeps.trans (h : Keeps s t) (k : Keeps t u) : Keeps s u :=
  ⟨k.files.trans h.files, k.directory.trans h.directory⟩

theorem Heard.keeps (h : Heard s t) : Keeps s t := ⟨h.files, h.directory⟩

theorem Details.refl (s : Session) : Details s s := ⟨[], rfl, by simp⟩

theorem Details.trans (h : Details s t) (k : Details t u) : Details s u := by
  obtain ⟨details, ht, hdetails⟩ := h
  obtain ⟨more, hu, hmore⟩ := k
  refine ⟨more ++ details, by rw [hu, ht, List.append_assoc], ?_⟩
  intro e he
  rcases List.mem_append.mp he with he | he
  · exact hmore e he
  · exact hdetails e he

theorem Details.logged (s : Session) {e : Log.Event} (h : e.level = .debug) :
    Details s (s.logged e) :=
  ⟨[e], rfl, by simpa using h⟩

end Session

/-- A program that comes to an outcome, and does nothing else, keeps the files. -/
theorem Command.keeps_engine (c : Command) (outcome : Invocation → Outcome) :
    (c.engine (.ofOutcome outcome)).Keeps :=
  fun source request s => (c.computes_formatter {} outcome source request s).2.keeps

theorem Command.level_of_mem_events {c : Command} {o : Outcome} {e : Log.Event}
    (he : e ∈ c.events o) :
    e.level = .debug := by
  cases o with
  | notStarted fault => cases he
  | finished unfed output errorOutput status =>
    unfold events at he
    dsimp only at he
    split at he
    · cases unfed with
      | some fault => cases he
      | none =>
        obtain rfl := List.mem_singleton.mp he
        rfl
    · obtain rfl := List.mem_singleton.mp he
      rfl

/-- How the program is started and how it ends are details. -/
theorem Command.quiet_engine (c : Command) (outcome : Invocation → Outcome) :
    (c.engine (.ofOutcome outcome)).Quiet := by
  intro source request s
  let events := c.events (outcome (c.invocation source request))
  have hleft : (c.engine (.ofOutcome outcome) source request s).2 =
      ((events.forM fun e => Run.log (id e))
        (s.logged (.spawning c.name source.utf8ByteSize request))).2 :=
    rfl
  rw [hleft, Run.forM_log_apply]
  refine (Session.Details.logged s rfl).trans ⟨(events.map id).reverse, rfl, ?_⟩
  intro e he
  rw [List.map_id, List.mem_reverse] at he
  exact level_of_mem_events he

namespace Formatter

variable {f : Formatter} {s : Session} {R : Session → Session → Prop}

/-- What a detail brings about, and asking the engine, is brought about by checking a file. -/
theorem processFile_check_rel (hrefl : ∀ s, R s s) (htrans : ∀ s t u, R s t → R t u → R s u)
    (hlogged : ∀ s e, e.level = .debug → R s (s.logged e))
    (hengine : ∀ source request s, R s (f.engine source request s).2) (p : Path) (s : Session) :
    R s (f.processFile .check p s).2 := by
  have hcheck : (f.processFile .check p s).2 = (f.draft p s).2 := by
    cases hdraft : (f.draft p s).1 with
    | error fault => rw [processFile_of_error hdraft]
    | ok d =>
      rw [processFile_of_ok hdraft]
      rfl
  rw [hcheck]
  rcases unread_or_unrouted_or_consults f s p with ⟨fault, hread⟩ | ⟨text, fault, hread, hroute⟩ |
    ⟨text, answer, t, hasked⟩
  · rw [draft_of_unread hread]
    exact hrefl s
  · rw [draft_of_read hread, formatText_of_route_error hroute]
    exact hrefl s
  · rw [draft_of_consults hasked]
    obtain ⟨parser, request, -, -, hanswer⟩ := hasked.asked
    have hleft := hengine text request.compact (announced s parser text p)
    rw [hanswer] at hleft
    exact htrans _ _ _ (hlogged s _ rfl) hleft

/-- And so by checking files one after the other, up to each one's turn and up to the end. -/
theorem processEach_check_rel (hfile : ∀ p s, R s (f.processFile .check p s).2) (hrefl : ∀ s, R s s)
    (htrans : ∀ s t u, R s t → R t u → R s u) (paths : List Path) (s : Session) :
    R s (f.processEach .check paths s).2 ∧ ∀ t ∈ f.turns .check paths s, R s t.before := by
  induction paths generalizing s with
  | nil => exact ⟨hrefl s, by simp [turns]⟩
  | cons p paths ih =>
    obtain ⟨hrest, hturns⟩ := ih (f.processFile .check p s).2
    rw [processEach_cons, turns]
    refine ⟨htrans _ _ _ (hfile p s) hrest, ?_⟩
    intro t ht
    rcases List.mem_cons.mp ht with rfl | ht
    · exact hrefl s
    · exact htrans _ _ _ (hfile p s) (hturns t ht)

end Formatter

namespace CommandLine

variable {engine : Command → Engine} {a : FormatArguments} {s : Session}

def FormatArguments.formatter (a : FormatArguments) (engine : Command → Engine) : Formatter :=
  ⟨engine a.command, a.options⟩

/-- What the targets stand for. -/
def FormatArguments.collected (a : FormatArguments) (s : Session) : Collected :=
  Collected.ofTargets s.files s.directory a.targets

def FormatArguments.turns (a : FormatArguments) (engine : Command → Engine) (s : Session) :
    List Formatter.Turn :=
  (a.formatter engine).turns a.mode (a.collected s).files (gathered s (a.collected s))

/-- A target is not walked, or a file fails. -/
def FormatArguments.Fails (a : FormatArguments) (engine : Command → Engine) (s : Session) : Prop :=
  (∃ target ∈ a.targets, (Collected.ofTarget s.files s.directory target).faults ≠ []) ∨
    ∃ t ∈ a.turns engine s, (a.formatter engine).Fails a.mode t.before t.path

theorem faults_ofTargets_ne_nil {fs : FileSystem} {directory : Location} {targets : List Path} :
    (Collected.ofTargets fs directory targets).faults ≠ [] ↔
      ∃ target ∈ targets, (Collected.ofTarget fs directory target).faults ≠ [] := by
  simp [Collected.ofTargets, Collected.flatMap]

/-- What the files come to, one after the other. -/
def FormatArguments.results (a : FormatArguments) (engine : Command → Engine) (s : Session) :
    List FileResult × Session :=
  (a.formatter engine).processEach a.mode (a.collected s).files (gathered s (a.collected s))

/-- The exit code, read off the results. -/
theorem code_formatTargets (engine : Command → Engine) (a : FormatArguments) (s : Session) :
    (formatTargets (a.formatter engine) a.mode a.targets s).1.code =
      exitCode a.mode (a.collected s) (Summary.ofResults (a.results engine s).1) := by
  rw [(formatTargets_eq _ _ rfl).1, (Formatter.processFiles_eq _ _ _ _).1]
  rfl

theorem fails_iff :
    a.Fails engine s ↔
      0 < (Summary.ofResults (a.results engine s).1).failed ∨ (a.collected s).faults ≠ [] := by
  rw [FormatArguments.results, Formatter.failed_turns, FormatArguments.collected,
    faults_ofTargets_ne_nil, or_comm]
  rfl

/-- The files that differ at their turns, in order. -/
def FormatArguments.differing (a : FormatArguments) (engine : Command → Engine)
    (s : Session) : List Path :=
  ((a.turns engine s).filter fun t => (a.formatter engine).Differs t.before t.path).map
    Formatter.Turn.path

theorem changed_results (hmode : a.mode = .check) :
    (Summary.ofResults (a.results engine s).1).changed = a.differing engine s := by
  rw [FormatArguments.results, FormatArguments.differing, FormatArguments.turns, hmode,
    Formatter.changed_turns]

theorem differing_ne_nil :
    a.differing engine s ≠ [] ↔
      ∃ t ∈ a.turns engine s, (a.formatter engine).Differs t.before t.path := by
  simp [FormatArguments.differing]

/-- What a check has to report: the targets that are not walked, the files that fail, and the files
that differ. -/
def FormatArguments.report (a : FormatArguments) (engine : Command → Engine) (s : Session) :
    List Log.Event :=
  (a.collected s).faults.map .targetFailed ++
    ((Summary.faultsOf (a.results engine s).1).map .fileFailed ++
      (a.differing engine s).map .unformatted)

/-- Behind the files of a batch their faults are logged. -/
theorem processFiles_apply (f : Formatter) (mode : Mode) (paths : List Path) (s : Session) :
    f.processFiles mode paths s =
      (Summary.ofResults (f.processEach mode paths s).1,
        (f.processEach mode paths s).2.loggedAll
          ((Summary.faultsOf (f.processEach mode paths s).1).map .fileFailed)) := by
  unfold Formatter.processFiles
  rw [Run.bind_apply, Run.bind_apply, Run.forM_log_apply]
  rfl

/-- Behind a check the faults of files are logged, and then the files that differ. -/
theorem formatTargets_check_apply (hmode : a.mode = .check) :
    formatTargets (a.formatter engine) .check a.targets s =
      (⟨exitCode .check (a.collected s) (Summary.ofResults (a.results engine s).1), ""⟩,
        ((a.results engine s).2.loggedAll
          ((Summary.faultsOf (a.results engine s).1).map .fileFailed)).loggedAll
          ((Summary.ofResults (a.results engine s).1).changed.map .unformatted)) := by
  have hfiles :
      (a.formatter engine).processFiles .check (a.collected s).files (gathered s (a.collected s)) =
        _ := processFiles_apply _ _ _ _
  have hfaults : ((Summary.ofResults (a.results engine s).1).changed.forM fun p =>
      Run.log (.unformatted p)) = _ := funext fun t => Run.forM_log_apply _ _ t
  rw [FormatArguments.results, hmode] at hfaults ⊢
  unfold formatTargets
  simp only [Run.bind_apply, Run.collect_apply, Run.log_apply, if_true]
  rw [← FormatArguments.collected, ← gathered, hfiles, hfaults]
  rfl

/-- Unless asked for more, all but details are written. -/
theorem allows_defaultFilter (e : Log.Event) :
    defaultFilter.allows e = true ↔ e.level ≠ .debug := by
  have hdeciding : defaultFilter.deciding? e.target.toList = some ⟨[], some .info⟩ := by
    simp [defaultFilter, Log.Filter.upTo, Log.Filter.deciding?]
  unfold Log.Filter.allows
  rw [hdeciding]
  cases e <;> simp [Log.Event.level, Log.Level.rank]

/-- Of the events of a check with a quiet engine the report is written. -/
theorem shown_check (hquiet : (engine a.command).Quiet) (hmode : a.mode = .check)
    (hevents : s.events = []) :
    (formatTargets (a.formatter engine) .check a.targets s).2.events.reverse.filter
      defaultFilter.allows =
      a.report engine s := by
  have hgathered : (gathered s (a.collected s)).events =
      .collected (a.collected s).files.length ::
        ((a.collected s).faults.map .targetFailed).reverse := by
    unfold gathered
    rw [Run.forM_log_apply]
    simp [Session.logged, Session.loggedAll, hevents]
  obtain ⟨details, hleft, hdetails⟩ := ((a.formatter engine).processEach_check_rel
    (Formatter.processFile_check_rel Session.Details.refl (fun _ _ _ => Session.Details.trans)
      (fun s e => Session.Details.logged s) hquiet)
    Session.Details.refl (fun _ _ _ => Session.Details.trans) (a.collected s).files
    (gathered s (a.collected s))).1
  have hresults : (a.results engine s).2.events =
      details ++ (gathered s (a.collected s)).events := by
    rw [FormatArguments.results, hmode, hleft]
  have hhidden : details.reverse.filter defaultFilter.allows = [] := by
    rw [List.filter_eq_nil_iff]
    intro e he
    rw [allows_defaultFilter, not_not]
    exact hdetails e (List.mem_reverse.mp he)
  have hshown {α : Type} (event : α → Log.Event) (hlevel : ∀ x, (event x).level ≠ .debug)
      (parts : List α) : (parts.map event).filter defaultFilter.allows = parts.map event := by
    rw [List.filter_eq_self]
    intro e he
    obtain ⟨x, -, rfl⟩ := List.mem_map.mp he
    exact (allows_defaultFilter _).mpr (hlevel x)
  rw [formatTargets_check_apply hmode, FormatArguments.report, ← changed_results hmode]
  simp only [Session.loggedAll, hresults, hgathered, List.reverse_append, List.reverse_reverse,
    List.reverse_cons, List.filter_append, hhidden, List.nil_append, List.append_assoc]
  rw [hshown _ (by simp [Log.Event.level]), hshown _ (by simp [Log.Event.level]),
    hshown _ (by simp [Log.Event.level])]
  have hcollected (n : Nat) : [Log.Event.collected n].filter defaultFilter.allows = [] := by
    simp [allows_defaultFilter, Log.Event.level]
  rw [hcollected, List.nil_append]

/-- The code is one of three. -/
theorem exitCode_iff (mode : Mode) (c : Collected) (summary : Summary) :
    (exitCode mode c summary = 2 ↔ 0 < summary.failed ∨ c.faults ≠ []) ∧
      (exitCode mode c summary = 1 ↔
        ¬ (0 < summary.failed ∨ c.faults ≠ []) ∧ mode = .check ∧ summary.changed ≠ []) ∧
      (exitCode mode c summary = 0 ↔
        ¬ (0 < summary.failed ∨ c.faults ≠ []) ∧ ¬ (mode = .check ∧ summary.changed ≠ [])) := by
  unfold exitCode
  by_cases hfailed : 0 < summary.failed ∨ c.faults ≠ []
  · simp [hfailed]
  · by_cases hdiffers : mode = .check ∧ summary.changed ≠ []
    · simp [hfailed, hdiffers]
    · simp [hfailed, hdiffers]

theorem mode_eq_check_iff (hmodes : ¬ (a.write ∧ a.check)) : a.mode = .check ↔ a.check = true := by
  unfold FormatArguments.mode
  by_cases hwrite : a.write = true
  · simpa [hwrite] using hmodes
  · simp [hwrite]

/-- A check differs where a file differs at its turn. -/
theorem differs_iff (hmodes : ¬ (a.write ∧ a.check)) :
    (a.mode = .check ∧ (Summary.ofResults (a.results engine s).1).changed ≠ []) ↔
      a.check = true ∧ ∃ t ∈ a.turns engine s, (a.formatter engine).Differs t.before t.path := by
  rw [← mode_eq_check_iff hmodes, ← differing_ne_nil]
  apply and_congr_right
  intro hmode
  rw [changed_results hmode]

/-- Where nothing fails and nothing differs, all is walked and all agrees. -/
theorem agrees_iff (hmode : a.mode = .check) :
    (¬ a.Fails engine s ∧ ¬ ∃ t ∈ a.turns engine s, (a.formatter engine).Differs t.before t.path) ↔
      (∀ target ∈ a.targets, (Collected.ofTarget s.files s.directory target).faults = []) ∧
        ∀ t ∈ a.turns engine s, (a.formatter engine).Agrees t.before t.path := by
  have hfile (t : Formatter.Turn) : (a.formatter engine).Agrees t.before t.path ↔
      ¬ (a.formatter engine).Fails a.mode t.before t.path ∧
        ¬ (a.formatter engine).Differs t.before t.path := by
    rw [hmode, Formatter.agrees_iff, Formatter.fails_iff, Formatter.differs_iff]
    rcases ((a.formatter engine).processFile .check t.path t.before).1 with fault | _ | _ <;> simp
  simp only [FormatArguments.Fails, hfile]
  push Not
  constructor
  · rintro ⟨⟨hwalked, hfails⟩, hdiffers⟩
    exact ⟨hwalked, fun t ht => ⟨hfails t ht, hdiffers t ht⟩⟩
  · rintro ⟨hwalked, hfiles⟩
    exact ⟨⟨hwalked, fun t ht => (hfiles t ht).1⟩, fun t ht => (hfiles t ht).2⟩

/-- A check with an engine that keeps the files keeps them, and each turn finds them. -/
theorem keeps_check (hkeeps : (engine a.command).Keeps) (hmode : a.mode = .check) :
    s.Keeps (a.results engine s).2 ∧ ∀ t ∈ a.turns engine s, s.Keeps t.before := by
  have hgathered := (heard_gathered s (a.collected s)).keeps
  obtain ⟨hleft, hturns⟩ := (a.formatter engine).processEach_check_rel
    (Formatter.processFile_check_rel Session.Keeps.refl (fun _ _ _ => Session.Keeps.trans)
      (fun s e _ => (Session.Heard.logged s e).keeps) hkeeps)
    Session.Keeps.refl (fun _ _ _ => Session.Keeps.trans) (a.collected s).files
    (gathered s (a.collected s))
  rw [FormatArguments.results, FormatArguments.turns, hmode]
  exact ⟨hgathered.trans hleft, fun t ht => hgathered.trans (hturns t ht)⟩

/-- **The exit code of `fmt` tells the truth.** For a command line that asks for targets to be
formatted and is accepted, under any engine: the code is 2 if a target is not walked or a file fails
at its turn, else 1 if files are checked and one differs from what the engine answers for it, else
0; and a check ends with 0 if all targets are walked and all files agree with their answers. A check
keeps the files if the engine does, and each turn finds them as they were. With a quiet engine and
at the level that events are logged at by default, the error output of a check is the targets that
are not walked, the files that fail and the files that differ, each in order. -/
theorem code_of_fmt (engine : Command → Engine) (args : List Bytes) (input : Bytes) (s : Session)
    (a : FormatArguments) (verbose : Bool)
    (hparse : Asked.parse (s.environment.lookup engineVariable) args = .run verbose (.format a))
    (hmodes : ¬ (a.write ∧ a.check)) (hstdin : a.stdinPath = none) :
    (a.turns engine s).map Formatter.Turn.path = (a.collected s).files ∧
      ((runProgram engine args input s).1.1 = 2 ↔ a.Fails engine s) ∧
      ((runProgram engine args input s).1.1 = 1 ↔ ¬ a.Fails engine s ∧ a.check = true ∧
        ∃ t ∈ a.turns engine s, (a.formatter engine).Differs t.before t.path) ∧
      ((runProgram engine args input s).1.1 = 0 ↔ ¬ a.Fails engine s ∧
        ¬ (a.check = true ∧ ∃ t ∈ a.turns engine s, (a.formatter engine).Differs t.before t.path)) ∧
      (a.check = true →
        ((runProgram engine args input s).1.1 = 0 ↔
          (∀ target ∈ a.targets, (Collected.ofTarget s.files s.directory target).faults = []) ∧
            ∀ t ∈ a.turns engine s, (a.formatter engine).Agrees t.before t.path) ∧
        ((engine a.command).Keeps → (runProgram engine args input s).2.files = s.files ∧
          ∀ t ∈ a.turns engine s, s.Keeps t.before) ∧
        ((engine a.command).Quiet → s.events = [] →
          filterFor verbose (s.environment.lookup logVariable) = defaultFilter →
          (runProgram engine args input s).1.2 =
            String.join ((a.report engine s).map fun e => e.line ++ "\n"))) := by
  have hrun := @runProgram_apply s engine args a verbose input hparse hmodes hstdin
  have hcode : (runProgram engine args input s).1.1 =
      exitCode a.mode (a.collected s) (Summary.ofResults (a.results engine s).1) := by
    rw [hrun]
    exact code_formatTargets engine a s
  obtain ⟨htwo, hone, hzero⟩ :=
    exitCode_iff a.mode (a.collected s) (Summary.ofResults (a.results engine s).1)
  rw [← hcode, ← fails_iff] at htwo hone hzero
  rw [differs_iff hmodes] at hone hzero
  refine ⟨Formatter.map_path_turns _ _ _ _, htwo, hone, hzero, ?_⟩
  intro hcheck
  have hmode : a.mode = .check := (mode_eq_check_iff hmodes).mpr hcheck
  have hleft : (runProgram engine args input s).2 =
      (formatTargets (a.formatter engine) .check a.targets s).2 := by
    rw [hrun, ← hmode]
    rfl
  refine ⟨?_, ?_, ?_⟩
  · rw [hzero, ← agrees_iff hmode]
    simp only [hcheck, true_and]
  · intro hkeeps
    obtain ⟨hkept, hturns⟩ := keeps_check hkeeps hmode
    rw [hleft, formatTargets_check_apply hmode]
    exact ⟨hkept.files, hturns⟩
  · intro hquiet hevents hfilter
    have hoff : (formatTargets (a.formatter engine) .check a.targets s).1.complaint = "" := by
      rw [formatTargets_check_apply hmode]
    rw [hrun, hfilter, hmode]
    change logText defaultFilter
      (formatTargets (a.formatter engine) .check a.targets s).2.events.reverse ++
        (formatTargets (a.formatter engine) .check a.targets s).1.complaint = _
    rw [hoff, String.append_empty, logText, shown_check hquiet hmode hevents]

/-- A program that puts a line feed behind its input. -/
def lineFeeder (c : Command) : Engine :=
  c.engine (.ofOutcome fun i => .finished none (i.input ++ [10]) [] (.exited 0))

/-- What `fmt` is asked: to check a model that differs and a target that leads nowhere. -/
def missingArguments : FormatArguments where
  paths := [Path.ofString "a.prisma", Path.ofString "c.prisma"]
  engine := "prisma-fmt"
  check := true

/-- The run ends with 2 and keeps the files, and both targets are reported. -/
theorem code_of_fmt_missing :
    (runProgram lineFeeder (["fmt", "--check", "a.prisma", "c.prisma"].map Bytes.ofString) []
        Formatter.twoModels).1 =
      (2, "ERROR prismafmt: c.prisma: IO error for operation on c.prisma: No such file or directory " ++
        "(os error 2)\nWARN prismafmt: a.prisma is not formatted\n") ∧
    (runProgram lineFeeder (["fmt", "--check", "a.prisma", "c.prisma"].map Bytes.ofString) []
        Formatter.twoModels).2.files = Formatter.twoModels.files := by
  obtain ⟨-, htwo, -, -, hcheck⟩ := code_of_fmt lineFeeder
    (["fmt", "--check", "a.prisma", "c.prisma"].map Bytes.ofString) [] Formatter.twoModels
    missingArguments false (by decide +kernel) (by decide) rfl
  obtain ⟨-, hkeeps, hlog⟩ := hcheck rfl
  have hcode := htwo.mpr (.inl ⟨Path.ofString "c.prisma", by decide, by decide +kernel⟩)
  refine ⟨Prod.ext hcode ?_, (hkeeps (Command.keeps_engine _ _)).1⟩
  exact (hlog (Command.quiet_engine _ _) rfl rfl).trans (by decide +kernel)

end CommandLine

end SchemaFormat
