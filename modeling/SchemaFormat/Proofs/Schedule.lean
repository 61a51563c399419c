import Mathlib.Logic.Relation
import SchemaFormat.Formatter.Batch
import SchemaFormat.Proofs.Rewritten

/-!
Many files formatted at the same time.

A file takes two steps: it is read and formatted, and then, if it differs, its formatted text is
written. Workers take the steps of all files in any order (`Step`), keeping those of one file in
order. If the engine is a function and no two paths lead to the same file, the order makes no
difference: at each point of a run every file that is finished came to what it comes to alone, and
the files that are done are rewritten (`Account`). The run that takes one file after the other is
one of them (`steps_processEach`).
-/

namespace SchemaFormat

/-! ### Steps -/

/-- How far a file has come. -/
inductive Stage where
  | waiting
  /-- It was read and formatted, and its formatted text is to be put out. -/
  | drafted (d : Draft)
  | finished (result : Except FileFault Bool)

/-- A file that is being formatted in place. -/
structure Job where
  path : Path
  stage : Stage := .waiting

def Job.result? (j : Job) : Option (Except FileFault Bool) :=
  match j.stage with
  | .finished result => some result
  | _ => none

def Job.ofResult (r : FileResult) : Job :=
  ⟨r.1, .finished r.2⟩

/-- A file that is finished is known by its path and what became of it. -/
theorem Job.eq_of_result? {j : Job} {r : Except FileFault Bool} (h : j.result? = some r) :
    j = ⟨j.path, .finished r⟩ := by
  obtain ⟨p, stage⟩ := j
  cases stage with
  | finished result =>
    obtain rfl := Option.some.inj h
    rfl
  | _ => cases h

/-- Take a file's next step. -/
def Formatter.advance (f : Formatter) (j : Job) : Run Job :=
  match j.stage with
  | .waiting => do
    match ← f.draft j.path with
    | .error fault => return { j with stage := .finished (.error fault) }
    | .ok d =>
      if d.changed then return { j with stage := .drafted d }
      else return { j with stage := .finished (.ok false) }
  | .drafted d => do
    let result ← Formatter.settle d .write
    return { j with stage := .finished result }
  | .finished _ => return j

/-- Some worker takes the next step of a file that is not finished. -/
inductive Step (f : Formatter) : Session × List Job → Session × List Job → Prop where
  | advance (s : Session) (before after : List Job) (j : Job) (unfinished : j.result? = none) :
    Step f (s, before ++ j :: after) ((f.advance j s).2, before ++ (f.advance j s).1 :: after)

/-- The paths of the files that are finished. -/
def donePaths (jobs : List Job) : Set Path :=
  {p | ∃ j ∈ jobs, j.result?.isSome ∧ j.path = p}

/-- What became of the files that are finished, in the order of the jobs. -/
def resultsOf (jobs : List Job) : List FileResult :=
  jobs.filterMap fun j => j.result?.map (j.path, ·)

namespace Formatter

variable {f : Formatter} {s : Session} {p : Path} {d : Draft}

theorem advance_of_error {fault : FileFault} (h : (f.draft p s).1 = .error fault) :
    f.advance ⟨p, .waiting⟩ s = (⟨p, .finished (.error fault)⟩, (f.draft p s).2) := by
  unfold advance
  simp only [Run.bind_apply, h]
  rfl

theorem advance_of_unchanged (h : (f.draft p s).1 = .ok d) (hchanged : d.changed = false) :
    f.advance ⟨p, .waiting⟩ s = (⟨p, .finished (.ok false)⟩, (f.draft p s).2) := by
  unfold advance
  simp only [Run.bind_apply, h, hchanged]
  rfl

theorem advance_of_changed (h : (f.draft p s).1 = .ok d) (hchanged : d.changed = true) :
    f.advance ⟨p, .waiting⟩ s = (⟨p, .drafted d⟩, (f.draft p s).2) := by
  unfold advance
  simp only [Run.bind_apply, h, hchanged]
  rfl

theorem advance_drafted :
    f.advance ⟨p, .drafted d⟩ s = (⟨p, .finished (settle d .write s).1⟩, (settle d .write s).2) :=
  rfl

end Formatter

/-! ### How long a run can be -/

def Job.waits (j : Job) : Bool :=
  match j.stage with
  | .waiting => true
  | _ => false

/-- How many steps may still be taken: one for each file that is not finished, and another one for
each that is waiting. -/
def remaining (jobs : List Job) : Nat :=
  jobs.countP (·.result?.isNone) + jobs.countP (·.waits)

theorem remaining_append_cons (before after : List Job) (j : Job) :
    remaining (before ++ j :: after) = remaining before + remaining [j] + remaining after := by
  rw [← List.singleton_append]
  simp only [remaining, List.countP_append]
  omega

/-- A file's step leaves fewer for it. -/
theorem Formatter.remaining_advance_lt (f : Formatter) (s : Session) {j : Job}
    (unfinished : j.result? = none) : remaining [(f.advance j s).1] < remaining [j] := by
  obtain ⟨p, stage⟩ := j
  cases stage with
  | waiting =>
    cases hdraft : (f.draft p s).1 with
    | error fault =>
      rw [advance_of_error hdraft]
      exact Nat.zero_lt_two
    | ok d =>
      cases hchanged : d.changed with
      | false =>
        rw [advance_of_unchanged hdraft hchanged]
        exact Nat.zero_lt_two
      | true =>
        rw [advance_of_changed hdraft hchanged]
        exact Nat.one_lt_two
  | drafted d => exact Nat.zero_lt_one
  | finished result => cases unfinished

/-- Each step leaves fewer to be taken. -/
theorem Step.remaining_lt {f : Formatter} {state state' : Session × List Job}
    (h : Step f state state') : remaining state'.2 < remaining state.2 := by
  cases h with
  | advance s before after j unfinished =>
    have hless := f.remaining_advance_lt s unfinished
    rw [remaining_append_cons, remaining_append_cons]
    omega

/-- **Every run can be completed**, and it is after finitely many steps. -/
theorem exists_complete (f : Formatter) (state : Session × List Job) :
    ∃ t jobs, Relation.ReflTransGen (Step f) state (t, jobs) ∧ ∀ j ∈ jobs, j.result?.isSome := by
  induction h : remaining state.2 using Nat.strongRecOn generalizing state with
  | _ n ih =>
    by_cases hcomplete : ∀ j ∈ state.2, j.result?.isSome
    · exact ⟨state.1, state.2, .refl, hcomplete⟩
    · push Not at hcomplete
      obtain ⟨j, hj, hunfinished⟩ := hcomplete
      obtain ⟨before, after, hjobs⟩ := List.append_of_mem hj
      have hstep : Step f _ _ := .advance state.1 before after j (by simpa using hunfinished)
      rw [← hjobs] at hstep
      obtain ⟨t, jobs, hsteps, hdone⟩ := ih _ (h ▸ hstep.remaining_lt) _ rfl
      exact ⟨t, jobs, .head hstep hsteps, hdone⟩

/-! ### Replaying a schedule -/

/-- The job with a number takes its next step, if it has one. -/
def takeTurn (f : Formatter) (state : Session × List Job) (i : Nat) : Session × List Job :=
  match state.2[i]? with
  | none => state
  | some j =>
    if j.result?.isSome then state
    else ((f.advance j state.1).2, state.2.set i (f.advance j state.1).1)

/-- A schedule says whose turn it is. -/
def replay (f : Formatter) (schedule : List Nat)
    (state : Session × List Job) : Session × List Job :=
  schedule.foldl (takeTurn f) state

/-- A turn is a step or none. -/
theorem steps_takeTurn (f : Formatter) (state : Session × List Job) (i : Nat) :
    Relation.ReflTransGen (Step f) state (takeTurn f state i) := by
  obtain ⟨s, jobs⟩ := state
  unfold takeTurn
  cases hjob : jobs[i]? with
  | none => exact .refl
  | some j =>
    dsimp only
    cases hresult : j.result? with
    | some result => exact .refl
    | none =>
      obtain ⟨hi, hj⟩ := List.getElem?_eq_some_iff.mp hjob
      have hstep : Step f _ _ := .advance s (jobs.take i) (jobs.drop (i + 1)) j hresult
      rw [← hj, List.getElem_cons_drop, List.take_append_drop, hj] at hstep
      rw [if_neg (by simp), List.set_eq_take_append_cons_drop, if_pos hi]
      exact .single hstep

/-- A schedule that is replayed is a run. -/
theorem steps_replay (f : Formatter) (schedule : List Nat) (state : Session × List Job) :
    Relation.ReflTransGen (Step f) state (replay f schedule state) := by
  induction schedule generalizing state with
  | nil => exact .refl
  | cons i schedule ih => exact (steps_takeTurn f state i).trans (ih _)

/-! ### One after the other -/

/-- Taking the steps of one file is processing it. -/
theorem steps_processFile (f : Formatter) (s : Session) (before after : List Job) (p : Path) :
    Relation.ReflTransGen (Step f) (s, before ++ ⟨p, .waiting⟩ :: after)
      ((f.processFile .write p s).2,
        before ++ ⟨p, .finished (f.processFile .write p s).1⟩ :: after) := by
  have hfirst : Step f _ _ := .advance s before after ⟨p, .waiting⟩ rfl
  cases hdraft : (f.draft p s).1 with
  | error fault =>
    rw [Formatter.advance_of_error hdraft] at hfirst
    rw [Formatter.processFile_of_error hdraft]
    exact .single hfirst
  | ok d =>
    rw [Formatter.processFile_of_ok hdraft]
    cases hchanged : d.changed with
    | false =>
      rw [Formatter.advance_of_unchanged hdraft hchanged] at hfirst
      rw [Formatter.settle_unchanged hchanged]
      exact .single hfirst
    | true =>
      rw [Formatter.advance_of_changed hdraft hchanged] at hfirst
      have hsecond : Step f _ _ := .advance (f.draft p s).2 before after ⟨p, .drafted d⟩ rfl
      exact (Relation.ReflTransGen.single hfirst).tail hsecond

/-- **Taking one file after the other is one of the runs.** -/
theorem steps_processEach (f : Formatter) (s : Session) (before : List Job) (paths : List Path) :
    Relation.ReflTransGen (Step f) (s, before ++ paths.map fun p => ⟨p, .waiting⟩)
      ((f.processEach .write paths s).2,
        before ++ (f.processEach .write paths s).1.map Job.ofResult) := by
  induction paths generalizing s before with
  | nil => exact .refl
  | cons p paths ih =>
    have hfirst := steps_processFile f s before (paths.map fun p => ⟨p, .waiting⟩) p
    have hrest := ih (f.processFile .write p s).2
      (before ++ [⟨p, .finished (f.processFile .write p s).1⟩])
    rw [List.append_assoc, List.append_assoc] at hrest
    exact hfirst.trans hrest

/-! ### Any order -/

/-- A file has come to what it comes to alone in a session. -/
def Job.AsAlone (f : Formatter) (s : Session) (j : Job) : Prop :=
  match j.stage with
  | .waiting => True
  | .drafted d => (f.draft j.path s).1 = .ok d ∧ d.changed = true
  | .finished result => result = (f.processFile .write j.path s).1

variable {f : Formatter} {e : Answers} {s t : Session} {done : Set Path} {p : Path} {d : Draft}

/-- The files done once a file has taken a step. -/
def doneWith (done : Set Path) (j : Job) : Set Path :=
  if j.result?.isSome then insert j.path done else done

/-- What holds behind a step of one file, `done` being the other files that are finished. -/
structure Advanced (f : Formatter) (s : Session) (done : Set Path) (p : Path) (j : Job)
    (t : Session) : Prop where
  path : j.path = p
  directory : t.directory = s.directory
  asAlone : j.AsAlone f s
  files : Rewritten f s (doneWith done j) t.files

/-- Reading a file while others are rewritten is reading it before. -/
theorem advanced_waiting (he : f.engine.Computes e) (hdirectory : t.directory = s.directory)
    (hfiles : Rewritten f s done t.files) (hapart : ∀ q ∈ done, s.files.Apart s.directory p q) :
    Advanced f s done p (f.advance ⟨p, .waiting⟩ t).1 (f.advance ⟨p, .waiting⟩ t).2 := by
  have hsame : (f.draft p t).1 = (f.draft p s).1 :=
    Formatter.draft_congr he hdirectory (hfiles.read hapart)
  have hheard := (Formatter.draft_computes he p t).2
  have hbehind : (f.draft p t).2.directory = s.directory := hheard.directory.trans hdirectory
  cases hdraft : (f.draft p s).1 with
  | error fault =>
    rw [Formatter.advance_of_error (hsame.trans hdraft)]
    refine ⟨rfl, hbehind, ?_, ?_⟩
    · exact (congrArg Prod.fst (Formatter.processFile_of_error hdraft)).symm
    · rw [hheard.files]
      exact hfiles.insert_of_none (Formatter.rewrite?_of_error hdraft)
  | ok d =>
    cases hchanged : d.changed with
    | false =>
      rw [Formatter.advance_of_unchanged (hsame.trans hdraft) hchanged]
      refine ⟨rfl, hbehind, ?_, ?_⟩
      · change _ = (f.processFile .write p s).1
        rw [Formatter.processFile_of_ok hdraft, Formatter.settle_unchanged hchanged]
      · rw [hheard.files]
        exact hfiles.insert_of_none (Formatter.rewrite?_of_unchanged hdraft hchanged)
    | true =>
      rw [Formatter.advance_of_changed (hsame.trans hdraft) hchanged]
      refine ⟨rfl, hbehind, ⟨hdraft, hchanged⟩, ?_⟩
      rw [hheard.files]
      exact hfiles

/-- Whether a draft can be written is a question about the outline. -/
theorem Formatter.settle_congr (houtline : t.files.outline = s.files.outline)
    (hdirectory : t.directory = s.directory) (hchanged : d.changed = true) :
    (settle d .write t).1 = (settle d .write s).1 := by
  have hwrite := FileSystem.write_congr houtline s.directory d.path (Bytes.ofString d.formatted)
  rw [settle_changed hchanged, settle_changed hchanged, hdirectory]
  cases ht : t.files.write s.directory d.path (Bytes.ofString d.formatted) with
  | error fault =>
    cases hs : s.files.write s.directory d.path (Bytes.ofString d.formatted) with
    | error fault' =>
      rw [ht, hs] at hwrite
      cases hwrite
      rfl
    | ok made =>
      rw [ht, hs] at hwrite
      cases hwrite
  | ok made =>
    cases hs : s.files.write s.directory d.path (Bytes.ofString d.formatted) with
    | error fault =>
      rw [ht, hs] at hwrite
      cases hwrite
    | ok made' => rfl

/-- Writing a draft rewrites its file. -/
theorem Rewritten.settle (he : f.engine.Computes e) (hdirectory : t.directory = s.directory)
    (hfiles : Rewritten f s done t.files) (hapart : ∀ q ∈ done, s.files.Apart s.directory p q)
    (hdraft : (f.draft p s).1 = .ok d) (hchanged : d.changed = true) :
    Rewritten f s (insert p done) (Formatter.settle d .write t).2.files ∧
      (Formatter.settle d .write t).2.directory = s.directory := by
  obtain ⟨hpath, htext, -⟩ := Formatter.of_draft_eq_ok he hdraft
  rw [Formatter.settle_changed hchanged, hpath, hdirectory]
  cases hplace : s.files.filePlace? s.directory p with
  | some l =>
    have hplace' : t.files.filePlace? s.directory p = some l := by
      rw [← FileSystem.filePlace?_outline, hfiles.outline, FileSystem.filePlace?_outline, hplace]
    have hrewrite : f.rewrite? s p = some (l, Bytes.ofString d.formatted) :=
      Formatter.rewrite?_eq_some_iff.mpr ⟨hplace, d, hdraft, hchanged, rfl⟩
    rw [FileSystem.write_of_filePlace? hplace']
    exact ⟨hfiles.insert_of_some hrewrite hapart, rfl⟩
  | none =>
    -- What is no file may be read and written all the same, but nothing is left there.
    have hplace' : t.files.filePlace? s.directory p = none := by
      rw [← FileSystem.filePlace?_outline, hfiles.outline, FileSystem.filePlace?_outline, hplace]
    have hrewrite : f.rewrite? s p = none := by
      simp [Formatter.rewrite?, hdraft, hchanged, hplace]
    have hinsert := hfiles.insert_of_none hrewrite
    cases hwrite : t.files.write s.directory p (Bytes.ofString d.formatted) with
    | error fault => exact ⟨hinsert, hdirectory⟩
    | ok made =>
      have hbytes := FileSystem.readText_eq_ok_iff.mp htext
      rw [← hfiles.read hapart] at hbytes
      obtain rfl := FileSystem.eq_of_write hplace' hbytes hwrite
      exact ⟨hinsert, rfl⟩

/-- Writing a file while others are rewritten is writing it before. -/
theorem advanced_drafted (he : f.engine.Computes e) (hdirectory : t.directory = s.directory)
    (hfiles : Rewritten f s done t.files) (hapart : ∀ q ∈ done, s.files.Apart s.directory p q)
    (hdraft : (f.draft p s).1 = .ok d) (hchanged : d.changed = true) :
    Advanced f s done p (f.advance ⟨p, .drafted d⟩ t).1 (f.advance ⟨p, .drafted d⟩ t).2 := by
  have hheard := (Formatter.draft_computes he p s).2
  have hresult : (Formatter.settle d .write t).1 = (f.processFile .write p s).1 := by
    rw [Formatter.processFile_of_ok hdraft]
    exact Formatter.settle_congr (hheard.files ▸ hfiles.outline)
      (hheard.directory ▸ hdirectory) hchanged
  obtain ⟨hrewritten, hbehind⟩ := hfiles.settle he hdirectory hapart hdraft hchanged
  rw [Formatter.advance_drafted]
  exact ⟨rfl, hbehind, hresult, hrewritten⟩

/-- **One step of one file keeps the account of it**, whichever other files are finished. -/
theorem advanced (he : f.engine.Computes e) {j : Job} (hdirectory : t.directory = s.directory)
    (hfiles : Rewritten f s done t.files) (hapart : ∀ q ∈ done, s.files.Apart s.directory j.path q)
    (hj : j.AsAlone f s) (unfinished : j.result? = none) :
    Advanced f s done j.path (f.advance j t).1 (f.advance j t).2 := by
  obtain ⟨p, stage⟩ := j
  cases stage with
  | waiting => exact advanced_waiting he hdirectory hfiles hapart
  | drafted d => exact advanced_drafted he hdirectory hfiles hapart hj.1 hj.2
  | finished result => cases unfinished

/-- What holds at each point of a run that began with these paths in the session `s`. -/
structure Account (f : Formatter) (s : Session) (paths : List Path) (state : Session × List Job) :
    Prop where
  paths : state.2.map Job.path = paths
  directory : state.1.directory = s.directory
  asAlone : ∀ j ∈ state.2, j.AsAlone f s
  files : Rewritten f s (donePaths state.2) state.1.files

variable {paths : List Path} {state state' : Session × List Job}

/-- It holds at the start. -/
theorem Account.start (f : Formatter) (s : Session) (paths : List Path) :
    Account f s paths (s, paths.map fun p => ⟨p, .waiting⟩) := by
  have hdone : donePaths (paths.map fun p => ⟨p, .waiting⟩) = ∅ := by
    apply Set.eq_empty_of_forall_notMem
    rintro p ⟨j, hj, hfinished, -⟩
    obtain ⟨q, -, rfl⟩ := List.mem_map.mp hj
    cases hfinished
  refine ⟨?_, rfl, ?_, ?_⟩
  · simp [Function.comp_def]
  · intro j hj
    obtain ⟨q, -, rfl⟩ := List.mem_map.mp hj
    trivial
  · rw [hdone]
    exact .of_none fun p hp => hp.elim

theorem mem_append_cons_iff {before after : List Job} {j k : Job} :
    k ∈ before ++ j :: after ↔ k = j ∨ k ∈ before ++ after :=
  List.perm_middle.mem_iff.trans List.mem_cons

theorem donePaths_append_cons (before after : List Job) (j : Job) :
    donePaths (before ++ j :: after) = doneWith (donePaths (before ++ after)) j := by
  ext p
  unfold doneWith
  by_cases hj : j.result?.isSome
  · rw [if_pos hj, Set.mem_insert_iff]
    constructor
    · rintro ⟨k, hk, hfinished, rfl⟩
      rcases mem_append_cons_iff.mp hk with rfl | hk
      · exact .inl rfl
      · exact .inr ⟨k, hk, hfinished, rfl⟩
    · rintro (rfl | ⟨k, hk, hfinished, rfl⟩)
      · exact ⟨j, List.mem_append_cons_self, hj, rfl⟩
      · exact ⟨k, mem_append_cons_iff.mpr (.inr hk), hfinished, rfl⟩
  · rw [if_neg hj]
    constructor
    · rintro ⟨k, hk, hfinished, rfl⟩
      rcases mem_append_cons_iff.mp hk with rfl | hk
      · exact absurd hfinished hj
      · exact ⟨k, hk, hfinished, rfl⟩
    · rintro ⟨k, hk, hfinished, rfl⟩
      exact ⟨k, mem_append_cons_iff.mpr (.inr hk), hfinished, rfl⟩

/-- Each step keeps it. -/
theorem Account.step (he : f.engine.Computes e)
    (hapart : paths.Pairwise (s.files.Apart s.directory)) (h : Account f s paths state)
    (hstep : Step f state state') : Account f s paths state' := by
  cases hstep with
  | advance t before after j unfinished =>
    obtain ⟨hpaths, hdirectory, hasAlone, hfiles⟩ := h
    have hothers : ∀ q ∈ donePaths (before ++ after), s.files.Apart s.directory j.path q := by
      rw [← hpaths, List.map_append, List.map_cons,
        List.pairwise_middle FileSystem.Apart.symm] at hapart
      rintro q ⟨k, hk, -, rfl⟩
      exact List.rel_of_pairwise_cons hapart (List.map_append ▸ List.mem_map_of_mem hk)
    rw [donePaths_append_cons, doneWith, unfinished, if_neg (by simp)] at hfiles
    have hnext := advanced he hdirectory hfiles hothers
      (hasAlone j List.mem_append_cons_self) unfinished
    refine ⟨?_, hnext.directory, ?_, ?_⟩
    · rw [← hpaths]
      simp [hnext.path]
    · intro k hk
      rcases mem_append_cons_iff.mp hk with rfl | hk
      · exact hnext.asAlone
      · exact hasAlone k (mem_append_cons_iff.mpr (.inr hk))
    · rw [donePaths_append_cons]
      exact hnext.files

/-- So it holds at each point. -/
theorem Account.steps (he : f.engine.Computes e)
    (hapart : paths.Pairwise (s.files.Apart s.directory)) (h : Account f s paths state)
    (hsteps : Relation.ReflTransGen (Step f) state state') : Account f s paths state' := by
  induction hsteps with
  | refl => exact h
  | tail _ hstep ih => exact ih.step he hapart hstep

/-! ### Complete runs -/

def Formatter.resultAlone (f : Formatter) (s : Session) (p : Path) : FileResult :=
  (p, (f.processFile .write p s).1)

/-- Files that are all finished are known by their paths and what became of them. -/
theorem eq_map_ofResult {jobs : List Job} {result : Path → Except FileFault Bool}
    (hcomplete : ∀ j ∈ jobs, j.result?.isSome)
    (hresult : ∀ j ∈ jobs, ∀ r, j.result? = some r → r = result j.path) :
    jobs = (jobs.map Job.path).map fun p => .ofResult (p, result p) := by
  rw [List.map_map]
  conv_lhs => rw [← List.map_id jobs]
  apply List.map_congr_left
  intro j hj
  obtain ⟨r, hr⟩ := Option.isSome_iff_exists.mp (hcomplete j hj)
  obtain rfl := hresult j hj r hr
  exact Job.eq_of_result? hr

theorem Job.AsAlone.result_eq {j : Job} (h : j.AsAlone f s) (r : Except FileFault Bool)
    (hr : j.result? = some r) : r = (f.processFile .write j.path s).1 := by
  rw [Job.eq_of_result? hr] at h
  exact h

/-- When every file is finished, each came to what it comes to alone, and all are rewritten. -/
theorem Account.complete (h : Account f s paths state)
    (hcomplete : ∀ j ∈ state.2, j.result?.isSome) :
    state.2 = (paths.map (f.resultAlone s)).map .ofResult ∧
      Rewritten f s { p | p ∈ paths } state.1.files := by
  obtain ⟨t, jobs⟩ := state
  obtain ⟨rfl, -, hasAlone, hfiles⟩ := h
  have hdone : donePaths jobs = { p | p ∈ jobs.map Job.path } := by
    ext p
    constructor
    · rintro ⟨j, hj, -, rfl⟩
      exact List.mem_map_of_mem hj
    · intro hp
      obtain ⟨j, hj, rfl⟩ := List.mem_map.mp hp
      exact ⟨j, hj, hcomplete j hj, rfl⟩
  refine ⟨?_, hdone ▸ hfiles⟩
  rw [List.map_map]
  exact eq_map_ofResult hcomplete fun j hj => (hasAlone j hj).result_eq

end SchemaFormat
