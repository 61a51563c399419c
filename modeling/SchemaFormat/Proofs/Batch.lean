import Mathlib.Data.List.Pairwise
import SchemaFormat.Proofs.Schedule

/-!
What a batch of files comes to.

Written one after the other or in any other order, each file comes to what it comes to alone, and
the summary names those that differ in the order given and counts those that were refused.
-/

namespace SchemaFormat

/-! ### Summaries -/

theorem Summary.changed_ofResults (result : Path → Except FileFault Bool) (paths : List Path) :
    (ofResults (paths.map fun p => (p, result p))).changed =
      paths.filter fun p => result p matches .ok true := by
  change changedOf _ = _
  simp only [changedOf, List.filterMap_map, Function.comp_def]
  induction paths with
  | nil => rfl
  | cons p paths ih => rcases h : result p with fault | _ | _ <;> simp [h, ih]

theorem Summary.failed_ofResults (result : Path → Except FileFault Bool) (paths : List Path) :
    (ofResults (paths.map fun p => (p, result p))).failed =
      paths.countP fun p => result p matches .error _ := by
  change (faultsOf _).length = _
  simp only [faultsOf, List.filterMap_map, Function.comp_def]
  induction paths with
  | nil => rfl
  | cons p paths ih => cases h : result p <;> simp [h, ih]

/-- Where nothing differs any more, as many files are refused. -/
theorem Summary.ofResults_unchanged (result : Path → Except FileFault Bool) (paths : List Path) :
    ofResults (paths.map fun p => (p, (result p).map fun _ => false)) =
      ⟨[], (ofResults (paths.map fun p => (p, result p))).failed⟩ := by
  have hchanged :
      (ofResults (paths.map fun p => (p, (result p).map fun _ => false))).changed = [] := by
    rw [changed_ofResults, List.filter_eq_nil_iff]
    intro p _
    cases result p <;> simp [Except.map]
  have hfailed : (ofResults (paths.map fun p => (p, (result p).map fun _ => false))).failed =
      (ofResults (paths.map fun p => (p, result p))).failed := by
    rw [failed_ofResults, failed_ofResults]
    apply List.countP_congr
    intro p _
    cases result p <;> simp [Except.map]
  rw [← hchanged, ← hfailed]

/-- What became of files that are all finished is read off their jobs. -/
theorem resultsOf_map_ofResult (results : List FileResult) :
    resultsOf (results.map .ofResult) = results := by
  unfold resultsOf
  rw [List.filterMap_map]
  exact List.filterMap_some

namespace Formatter

variable {f : Formatter} {e : Answers} {s : Session} {paths : List Path} {p : Path}

theorem processEach_cons (f : Formatter) (mode : Mode) (p : Path) (paths : List Path)
    (s : Session) :
    f.processEach mode (p :: paths) s =
      ((p, (f.processFile mode p s).1) :: (f.processEach mode paths (f.processFile mode p s).2).1,
        (f.processEach mode paths (f.processFile mode p s).2).2) := rfl

/-- A batch is summed up from what became of its files; logging the faults is only heard of. -/
theorem processFiles_eq (f : Formatter) (mode : Mode) (paths : List Path) (s : Session) :
    (f.processFiles mode paths s).1 = Summary.ofResults (f.processEach mode paths s).1 ∧
      (f.processEach mode paths s).2.Heard (f.processFiles mode paths s).2 := by
  unfold processFiles
  simp only [Run.bind_apply]
  exact ⟨rfl, .forM_log _ _ _⟩

/-- Files that are written one after the other come to what each comes to alone, and all are
rewritten. -/
theorem processEach_write (he : f.engine.Computes e)
    (hapart : paths.Pairwise (s.files.Apart s.directory)) :
    (f.processEach .write paths s).1 = paths.map (f.resultAlone s) ∧
      Rewritten f s { p | p ∈ paths } (f.processEach .write paths s).2.files := by
  have haccount := (Account.start f s paths).steps he hapart (steps_processEach f s [] paths)
  obtain ⟨hjobs, hfiles⟩ := haccount.complete fun j hj => by
    obtain ⟨r, -, rfl⟩ := List.mem_map.mp hj
    rfl
  have hresults := congrArg resultsOf hjobs
  rw [List.nil_append, resultsOf_map_ofResult, resultsOf_map_ofResult] at hresults
  exact ⟨hresults, hfiles⟩

/-- So a file alone is rewritten. -/
theorem rewritten_processFile (he : f.engine.Computes e) (p : Path) (s : Session) :
    Rewritten f s {p} (f.processFile .write p s).2.files := by
  have hapart : [p].Pairwise (s.files.Apart s.directory) := List.pairwise_singleton _ p
  have hfiles := (processEach_write he hapart).2
  have hsingle : ({q | q ∈ [p]} : Set Path) = {p} := by
    ext q
    simp
  exact hsingle ▸ hfiles

/-- In a batch, each file is left as it is left alone. -/
theorem read_of_rewritten (he : f.engine.Computes e)
    (hapart : paths.Pairwise (s.files.Apart s.directory)) {fs : FileSystem}
    (h : Rewritten f s { p | p ∈ paths } fs) (hp : p ∈ paths) :
    fs.read s.directory p = (f.processFile .write p s).2.files.read s.directory p := by
  have halone := rewritten_processFile he p s
  cases hrewrite : f.rewrite? s p with
  | none =>
    rw [h.read_of_none hrewrite fun q hq hqp => hapart.forall hp hq (Ne.symm hqp),
      halone.read_of_none hrewrite fun q hq hqp => absurd hq hqp]
  | some written => rw [h.read_of_some hp hrewrite, halone.read_of_some rfl hrewrite]

/-- **The order of work makes no difference.** Let the engine be a function and no two paths lead to
the same file. However the steps of all files follow each other until each is finished: the files
are those that taking one after the other leaves; each reads as it does after it was processed
alone, and what no path leads to is as it was; the summary is the same as well, it names, in the
order given, the files that differ when processed alone and counts those that are refused then. -/
theorem processFiles_any_order (f : Formatter) (e : Answers) (he : f.engine.Computes e)
    (s : Session) (paths : List Path) (hapart : paths.Pairwise (s.files.Apart s.directory))
    (t : Session) (jobs : List Job)
    (hsteps : Relation.ReflTransGen (Step f) (s, paths.map fun p => ⟨p, .waiting⟩) (t, jobs))
    (hcomplete : ∀ j ∈ jobs, j.result?.isSome) :
    t.files = (f.processFiles .write paths s).2.files ∧
      (∀ p ∈ paths,
        t.files.read s.directory p = (f.processFile .write p s).2.files.read s.directory p) ∧
      (∀ l, (∀ p ∈ paths, s.files.filePlace? s.directory p ≠ some l) →
        t.files.node? l = s.files.node? l) ∧
      Summary.ofResults (resultsOf jobs) = (f.processFiles .write paths s).1 ∧
      (Summary.ofResults (resultsOf jobs)).changed =
        paths.filter (fun p => (f.processFile .write p s).1 matches .ok true) ∧
      (Summary.ofResults (resultsOf jobs)).failed =
        paths.countP (fun p => (f.processFile .write p s).1 matches .error _) := by
  obtain ⟨hjobs, hfiles⟩ := ((Account.start f s paths).steps he hapart hsteps).complete hcomplete
  obtain ⟨hresults, hsequential⟩ := processEach_write he hapart
  obtain ⟨hsummary, hheard⟩ := processFiles_eq f .write paths s
  dsimp only at hjobs hfiles
  rw [hjobs, resultsOf_map_ofResult, hsummary, hresults, hheard.files]
  refine ⟨hfiles.ext hsequential, fun p => read_of_rewritten he hapart hfiles, ?_, rfl, ?_, ?_⟩
  · intro l hl
    exact hfiles.kept l fun p hp content hrewrite =>
      hl p hp (rewrite?_eq_some_iff.mp hrewrite).1
  · exact Summary.changed_ofResults _ paths
  · exact Summary.failed_ofResults _ paths

/-- Two models in the working directory, neither of which ends in a line feed. -/
def twoModels : Session where
  files := (FileSystem.empty.insert [Bytes.ofString "a.prisma"] (.file (Bytes.ofString "A"))).insert
    [Bytes.ofString "b.prisma"] (.file (Bytes.ofString "B"))

/-- The paths of the two models. -/
def twoPaths : List Path := [Path.ofString "a.prisma", Path.ofString "b.prisma"]

/-- A formatter that ends each text in one line feed. -/
def ender : Formatter := ⟨.ofFunction fun source _ => .ok (Engine.trimmed source), {}⟩

/-- Both models are read before either is written, and the second one is written first. -/
def crossed : Session × List Job :=
  replay ender [0, 1, 1, 0] (twoModels, twoPaths.map fun p => ⟨p, .waiting⟩)

theorem processFiles_any_order_crossed :
    twoPaths.Pairwise (twoModels.files.Apart twoModels.directory) ∧
      (∀ j ∈ crossed.2, j.result?.isSome) ∧
      crossed.1.files = (ender.processFiles .write twoPaths twoModels).2.files ∧
      crossed.1.files.read [] (Path.ofString "b.prisma") = .ok (Bytes.ofString "B\n") ∧
      Summary.ofResults (resultsOf crossed.2) =
        (ender.processFiles .write twoPaths twoModels).1 := by
  have hapart : twoPaths.Pairwise (twoModels.files.Apart twoModels.directory) := by decide +kernel
  have hcomplete : ∀ j ∈ crossed.2, j.result?.isSome := by decide +kernel
  have h := processFiles_any_order ender _ (Engine.computes_ofFunction _) twoModels twoPaths hapart
    crossed.1 crossed.2 (steps_replay ender [0, 1, 1, 0] _) hcomplete
  exact ⟨hapart, hcomplete, h.1, by decide +kernel, h.2.2.2.1⟩

end Formatter

end SchemaFormat
