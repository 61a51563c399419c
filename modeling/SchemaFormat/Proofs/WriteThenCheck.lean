import SchemaFormat.CommandLine.Run
import SchemaFormat.Proofs.Fixpoint

/-!
Checking what was written.

A run of `fmt` collects the files that its targets stand for, formats them and ends with a code.
Formatting in place keeps the outline, so a later run collects the same files and meets the same
faults; and since nothing differs any more, it ends as the first one did.
-/

namespace SchemaFormat

theorem Run.collect_apply (targets : List Path) (s : Session) :
    Run.collect targets s = (Collected.ofTargets s.files s.directory targets, s) := rfl

variable {f : Formatter} {e : Answers} {s t : Session} {targets : List Path} {c : Collected}

/-! ### Collecting again -/

/-- Targets stand for the same files after some have been formatted in place. -/
theorem Rewritten.ofTargets {done : Set Path} {fs : FileSystem} (h : Rewritten f s done fs)
    (directory : Location) (targets : List Path) :
    Collected.ofTargets fs directory targets = Collected.ofTargets s.files directory targets := by
  rw [← Collected.ofTargets_outline, h.outline, Collected.ofTargets_outline]

/-- Behind a run in place of the files that targets stand for, they stand for the same ones, none of
which differs, and another such run writes nothing. -/
theorem Formatter.collected_after (he : f.engine.Computes e) (hidempotent : Idempotent e)
    (hc : Collected.ofTargets s.files s.directory targets = c)
    (hapart : c.files.Pairwise (s.files.Apart s.directory))
    (hfiles : t.files = (f.processFiles .write c.files s).2.files)
    (hdirectory : t.directory = s.directory) :
    Collected.ofTargets t.files t.directory targets = c ∧
      (f.processFiles .check c.files t).1 = ⟨[], (f.processFiles .write c.files s).1.failed⟩ ∧
      (f.processFiles .write c.files t).2.files = t.files := by
  have hfile : ∀ p ∈ c.files, s.files.isFile s.directory p = true := by
    intro p hp
    exact Collected.isFile_of_mem (hc ▸ hp)
  have hrewritten := (processEach_write he hapart).2
  rw [← (processFiles_eq f .write c.files s).2.files, ← hfiles] at hrewritten
  refine ⟨?_, processFiles_after he hidempotent hapart hfile hfiles hdirectory⟩
  rw [hdirectory, hrewritten.ofTargets, hc]

/-! ### Exit codes -/

namespace CommandLine

/-- The session in which the files are formatted that targets stand for: the targets at fault are
logged, and how many files there are. -/
def gathered (s : Session) (c : Collected) : Session :=
  ((c.faults.forM fun fault => Run.log (.targetFailed fault)) s).2.logged
    (.collected c.files.length)

theorem heard_gathered (s : Session) (c : Collected) : s.Heard (gathered s c) :=
  (Session.Heard.forM_log Log.Event.targetFailed c.faults s).trans (.logged _ _)

/-- Formatting targets is formatting the files they stand for, and the code is taken from both. -/
theorem formatTargets_eq (f : Formatter) (mode : Mode)
    (hc : Collected.ofTargets s.files s.directory targets = c) :
    (formatTargets f mode targets s).1.code =
        exitCode mode c (f.processFiles mode c.files (gathered s c)).1 ∧
      (f.processFiles mode c.files (gathered s c)).2.Heard (formatTargets f mode targets s).2 := by
  subst hc
  unfold formatTargets
  simp only [Run.bind_apply, Run.collect_apply, Run.log_apply]
  cases mode with
  | check => exact ⟨rfl, .forM_log _ _ _⟩
  | write => exact ⟨rfl, .refl _⟩
  | stdout => exact ⟨rfl, .refl _⟩

/-- A command line that asks for targets to be formatted ends as formatting them does, and then
writes the log. -/
theorem runProgram_apply {engine : Command → Engine} {args : List Bytes} {a : FormatArguments}
    {verbose : Bool} (input : Bytes)
    (hparse : Asked.parse (s.environment.lookup engineVariable) args = .run verbose (.format a))
    (hmodes : ¬ (a.write ∧ a.check)) (hstdin : a.stdinPath = none) :
    runProgram engine args input s =
      let done := formatTargets ⟨engine a.command, a.options⟩ a.mode a.targets s
      ((done.1.code,
        logText (filterFor verbose (s.environment.lookup logVariable)) done.2.events.reverse ++
        done.1.complaint), done.2) := by
  have hrun :
      runAsked engine (s.environment.lookup engineVariable) input (.run verbose (.format a)) s =
      formatTargets ⟨engine a.command, a.options⟩ a.mode a.targets s := by
    rw [runAsked, runFormat, if_neg hmodes, hstdin]
  unfold runProgram
  simp only [Run.bind_apply, Run.get_apply, hparse, hrun]
  rfl

/-- Its code is that of formatting them, and so is the session that it leaves. -/
theorem runProgram_eq {engine : Command → Engine} {args : List Bytes} {a : FormatArguments}
    {verbose : Bool} (input : Bytes)
    (hparse : Asked.parse (s.environment.lookup engineVariable) args = .run verbose (.format a))
    (hmodes : ¬ (a.write ∧ a.check)) (hstdin : a.stdinPath = none) :
    (runProgram engine args input s).1.1 =
        (formatTargets ⟨engine a.command, a.options⟩ a.mode a.targets s).1.code ∧
      (runProgram engine args input s).2 =
        (formatTargets ⟨engine a.command, a.options⟩ a.mode a.targets s).2 := by
  rw [runProgram_apply input hparse hmodes hstdin]
  exact ⟨rfl, rfl⟩

/-- Where nothing differs, the code tells whether anything failed. -/
theorem exitCode_eq (c : Collected) (summary : Summary) :
    (exitCode .write c summary = 0 ∧ exitCode .check c ⟨[], summary.failed⟩ = 0) ∨
      (exitCode .write c summary = 2 ∧ exitCode .check c ⟨[], summary.failed⟩ = 2) := by
  by_cases hfailed : 0 < summary.failed ∨ c.faults ≠ []
  · exact .inr ⟨if_pos hfailed, if_pos hfailed⟩
  · exact .inl ⟨by simp [exitCode, hfailed], by simp [exitCode, hfailed]⟩

/-- Targets that were written and are checked end with the code that writing them ended with, which
tells whether anything failed. -/
theorem formatTargets_check_after_write (he : f.engine.Computes e) (hidempotent : Idempotent e)
    (hc : Collected.ofTargets s.files s.directory targets = c)
    (hapart : c.files.Pairwise (s.files.Apart s.directory))
    (hfiles : t.files = (formatTargets f .write targets s).2.files)
    (hdirectory : t.directory = s.directory) :
    ((formatTargets f .write targets s).1.code = 0 ∧
      (formatTargets f .check targets t).1.code = 0) ∨
      ((formatTargets f .write targets s).1.code = 2 ∧
        (formatTargets f .check targets t).1.code = 2) := by
  obtain ⟨hwrite, hleft⟩ := formatTargets_eq f .write hc
  -- What is logged in between does not count, so both runs can be seen behind it.
  have hs := heard_gathered s c
  have ht := heard_gathered t c
  obtain ⟨hc', hcheck, -⟩ :=
    f.collected_after (s := gathered s c) (t := gathered t c) he hidempotent
      (by rw [hs.files, hs.directory, hc]) (by rw [hs.files, hs.directory]; exact hapart)
      (by rw [ht.files, hfiles, hleft.files]) (by rw [ht.directory, hs.directory, hdirectory])
  rw [ht.files, ht.directory] at hc'
  rw [hwrite, (formatTargets_eq f .check hc').1, hcheck]
  exact exitCode_eq c _

/-- **Writing reaches a fixpoint.** Let the engine be a function that answers what it answered with
the same, and let targets stand for files of which no two are the same. After these have been
formatted in place, the targets stand for the same files and meet the same faults, checking finds
none that differs and as many that are refused, and formatting them in place again leaves everything
as it is. A command line that asks for the targets to be checked, after one that asked for them to
be written, ends with 0 if that one ended with 0, and with 2 if that one ended with 2; and it ended
with one of the two. -/
theorem check_after_write (f : Formatter) (e : Answers) (he : f.engine.Computes e)
    (hidempotent : Idempotent e) (s : Session) (targets : List Path) (c : Collected)
    (hc : Collected.ofTargets s.files s.directory targets = c)
    (hapart : c.files.Pairwise (s.files.Apart s.directory)) :
    (∀ t : Session,
      t.files = (f.processFiles .write c.files s).2.files → t.directory = s.directory →
      Collected.ofTargets t.files t.directory targets = c ∧
      (f.processFiles .check c.files t).1 = ⟨[], (f.processFiles .write c.files s).1.failed⟩ ∧
      (f.processFiles .write c.files t).2.files = t.files) ∧
    (∀ (engine : Command → Engine) (a : FormatArguments) (writing checking : List Bytes)
      (verbose verbose' : Bool) (input input' : Bytes) (t : Session),
      ⟨engine a.command, a.options⟩ = f → a.targets = targets → a.stdinPath = none →
      Asked.parse (s.environment.lookup engineVariable) writing =
        .run verbose (.format { a with write := true, check := false }) →
      Asked.parse (t.environment.lookup engineVariable) checking =
        .run verbose' (.format { a with write := false, check := true }) →
      t.files = (runProgram engine writing input s).2.files → t.directory = s.directory →
      ((runProgram engine writing input s).1.1 = 0 ∧
        (runProgram engine checking input' t).1.1 = 0) ∨
        ((runProgram engine writing input s).1.1 = 2 ∧
          (runProgram engine checking input' t).1.1 = 2)) := by
  constructor
  · intro t hfiles hdirectory
    exact f.collected_after he hidempotent hc hapart hfiles hdirectory
  · intro engine a writing checking verbose verbose' input input' t hf htargets hstdin hwriting
      hchecking hfiles hdirectory
    subst hf htargets
    obtain ⟨hwrite, hleft⟩ := runProgram_eq input hwriting (by simp) hstdin
    obtain ⟨hcheck, -⟩ := runProgram_eq input' hchecking (by simp) hstdin
    rw [hleft] at hfiles
    rw [hwrite, hcheck]
    exact formatTargets_check_after_write he hidempotent hc hapart hfiles hdirectory

/-- What `fmt` is asked about the two models. -/
def twoArguments : FormatArguments where
  paths := Formatter.twoPaths
  engine := "prisma-fmt"

/-- The two models are written with success, and then checked with success. -/
theorem check_after_write_two_models :
    (runProgram (fun _ => Formatter.ender.engine)
        (["fmt", "--write", "a.prisma", "b.prisma"].map Bytes.ofString) []
        Formatter.twoModels).1.1 = 0 ∧
      (runProgram (fun _ => Formatter.ender.engine)
        (["fmt", "--check", "a.prisma", "b.prisma"].map Bytes.ofString) []
        (runProgram (fun _ => Formatter.ender.engine)
          (["fmt", "--write", "a.prisma", "b.prisma"].map Bytes.ofString) []
          Formatter.twoModels).2).1.1 =
        0 := by
  have h := check_after_write Formatter.ender _ (Engine.computes_ofFunction _) idempotent_trimmed
    Formatter.twoModels Formatter.twoPaths ⟨Formatter.twoPaths, []⟩ (by decide +kernel)
    (by decide +kernel)
  have hcodes := h.2 (fun _ => Formatter.ender.engine) twoArguments
    (["fmt", "--write", "a.prisma", "b.prisma"].map Bytes.ofString)
    (["fmt", "--check", "a.prisma", "b.prisma"].map Bytes.ofString) false false [] []
    (runProgram (fun _ => Formatter.ender.engine)
      (["fmt", "--write", "a.prisma", "b.prisma"].map Bytes.ofString) [] Formatter.twoModels).2
    rfl rfl rfl (by decide +kernel) (by decide +kernel) rfl (by decide +kernel)
  rcases hcodes with hzero | ⟨htwo, -⟩
  · exact hzero
  · exact absurd htwo (by decide +kernel)

end CommandLine

end SchemaFormat
