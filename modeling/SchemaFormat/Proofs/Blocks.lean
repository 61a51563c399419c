import SchemaFormat.Proofs.Modes

/-!
Blocks printed by many workers.

A file that is printed takes two steps: it is read and formatted, and then its block is printed at
once. Workers take the steps of all files in any order, keeping those of one file in order, and a
run tells in which order the files were finished (`Printing`). If the engine is a function and there
is room for output, then at each point of a run the blocks of the files that are finished have been
printed in that order, and nothing else has (`Printed`). So it is in the end, when each file has
been finished once. The run that takes one file after the other is one of them
(`printing_processEach`).
-/

namespace SchemaFormat

/-! ### Steps -/

/-- Take the next step of a file that is printed. -/
def Formatter.advancePrinting (f : Formatter) (j : Job) : Run Job :=
  match j.stage with
  | .waiting => do
    match ← f.draft j.path with
    | .error fault => return { j with stage := .finished (.error fault) }
    | .ok d => return { j with stage := .drafted d }
  | .drafted d => do
    let result ← Formatter.settle d .stdout
    return { j with stage := .finished result }
  | .finished _ => return j

/-- The number of a file, if it is finished. -/
def Job.finishedAs (i : Nat) (j : Job) : List Nat :=
  if j.result?.isSome then [i] else []

theorem Job.finishedAs_drafted (i : Nat) (p : Path) (d : Draft) :
    finishedAs i ⟨p, .drafted d⟩ = [] := rfl

/-- Workers print files: beginning with a session, how far the files of some paths have come, the
numbers of those that are finished in the order in which they were, and the session that is left. -/
inductive Printing (f : Formatter) (s : Session) (paths : List Path) :
    List Nat → Session → List Job → Prop where
  | start : Printing f s paths [] s (paths.map fun p => ⟨p, .waiting⟩)
  /-- Some worker takes the next step of a file that is not finished. -/
  | turn {order : List Nat} {t : Session} {jobs : List Job} {i : Nat} {j : Job}
      (before : Printing f s paths order t jobs) (job : jobs[i]? = some j)
      (unfinished : j.result? = none) :
    Printing f s paths (order ++ (f.advancePrinting j t).1.finishedAs i) (f.advancePrinting j t).2
      (jobs.set i (f.advancePrinting j t).1)

/-- The block of a file: a line that names it and its formatted text. There is none if the file
cannot be read, if no parser takes it and if the engine refuses it. -/
def FormatOptions.block? (o : FormatOptions) (e : Answers) (s : Session)
    (p : Path) : Option Bytes :=
  match s.files.readText s.directory p with
  | .error _ => none
  | .ok text =>
    match o.answer e s.directory.path text p with
    | .error _ => none
    | .ok formatted => some (Bytes.ofString s!"===== {p.display} =====\n{formatted}")

/-- The blocks of the files with some numbers. -/
def FormatOptions.blocks (o : FormatOptions) (e : Answers) (s : Session) (paths : List Path)
    (order : List Nat) :
    List Bytes :=
  order.filterMap fun i => paths[i]?.bind (o.block? e s)

variable {f : Formatter} {e : Answers} {s t : Session} {p : Path} {d : Draft} {paths : List Path}
  {order : List Nat} {jobs : List Job}

namespace Formatter

theorem advancePrinting_of_error {fault : FileFault} (h : (f.draft p s).1 = .error fault) :
    f.advancePrinting ⟨p, .waiting⟩ s = (⟨p, .finished (.error fault)⟩, (f.draft p s).2) := by
  unfold advancePrinting
  simp only [Run.bind_apply, h]
  rfl

theorem advancePrinting_of_ok (h : (f.draft p s).1 = .ok d) :
    f.advancePrinting ⟨p, .waiting⟩ s = (⟨p, .drafted d⟩, (f.draft p s).2) := by
  unfold advancePrinting
  simp only [Run.bind_apply, h]
  rfl

theorem advancePrinting_drafted :
    f.advancePrinting ⟨p, .drafted d⟩ s =
      (⟨p, .finished (settle d .stdout s).1⟩, (settle d .stdout s).2) := rfl

/-- A file has a block if it has a draft, and it is the block of the draft. -/
theorem block?_eq (he : f.engine.Computes e) (p : Path) (s : Session) :
    f.options.block? e s p = (f.draft p s).1.toOption.map Draft.block := by
  rw [(draft_computes he p s).1, FormatOptions.block?, FormatOptions.draftOf]
  cases s.files.readText s.directory p with
  | error fault => rfl
  | ok text =>
    dsimp only
    cases f.options.answer e s.directory.path text p <;> rfl

/-- A file has a block if it is processed with success. -/
theorem isSome_block?_iff (he : f.engine.Computes e) (hroom : s.outputFull = false) (p : Path) :
    (f.options.block? e s p).isSome ↔ ∃ changed, (f.processFile .stdout p s).1 = .ok changed := by
  have hheard := (draft_computes he p s).2
  rw [block?_eq he]
  cases hdraft : (f.draft p s).1 with
  | error fault =>
    rw [processFile_of_error hdraft]
    simp [Except.toOption]
  | ok d =>
    rw [processFile_of_ok hdraft, settle_stdout_of_room (hheard.outputFull.trans hroom)]
    simp [Except.toOption]

end Formatter

/-! ### One step -/

/-- A session in which others have printed, and nothing but that and what is only heard of has been
done. -/
structure Session.Kept (s t : Session) : Prop where
  files : t.files = s.files
  directory : t.directory = s.directory
  outputFull : t.outputFull = s.outputFull

theorem Session.Kept.refl (s : Session) : s.Kept s := ⟨rfl, rfl, rfl⟩

theorem Session.Kept.heard (h : s.Kept t) {u : Session} (k : t.Heard u) : s.Kept u :=
  ⟨k.files.trans h.files, k.directory.trans h.directory, k.outputFull.trans h.outputFull⟩

/-- A file has come to what it comes to alone in a session. -/
def Job.AsPrinted (f : Formatter) (s : Session) (j : Job) : Prop :=
  match j.stage with
  | .waiting => True
  | .drafted d => (f.draft j.path s).1 = .ok d
  | .finished result => result = (f.processFile .stdout j.path s).1

theorem Job.AsPrinted.result_eq {j : Job} (h : j.AsPrinted f s) (r : Except FileFault Bool)
    (hr : j.result? = some r) : r = (f.processFile .stdout j.path s).1 := by
  rw [Job.eq_of_result? hr] at h
  exact h

/-- What holds behind a step of one file: it has printed its block if it is finished, and nothing if
it is not. -/
structure PrintStep (f : Formatter) (e : Answers) (s t : Session) (p : Path) (j : Job)
    (u : Session) : Prop where
  path : j.path = p
  asPrinted : j.AsPrinted f s
  kept : s.Kept u
  printed : u.printed =
    t.printed ++ if j.result?.isSome then (f.options.block? e s p).getD [] else []

/-- Reading a file prints nothing. -/
theorem printStep_waiting (he : f.engine.Computes e) (h : s.Kept t) (p : Path) :
    PrintStep f e s t p (f.advancePrinting ⟨p, .waiting⟩ t).1
      (f.advancePrinting ⟨p, .waiting⟩ t).2 := by
  have hsame : (f.draft p t).1 = (f.draft p s).1 :=
    Formatter.draft_congr he h.directory (by rw [h.files])
  have hheard := (Formatter.draft_computes he p t).2
  have hblock := Formatter.block?_eq he p s
  cases hdraft : (f.draft p s).1 with
  | error fault =>
    rw [Formatter.advancePrinting_of_error (hsame.trans hdraft)]
    refine ⟨rfl, ?_, h.heard hheard, ?_⟩
    · exact (congrArg Prod.fst (Formatter.processFile_of_error hdraft)).symm
    · -- A file without a draft is finished, and has no block.
      rw [hdraft] at hblock
      rw [hblock, hheard.printed]
      exact (List.append_nil _).symm
  | ok d =>
    rw [Formatter.advancePrinting_of_ok (hsame.trans hdraft)]
    refine ⟨rfl, hdraft, h.heard hheard, ?_⟩
    rw [hheard.printed]
    exact (List.append_nil _).symm

/-- A draft is printed in its block. -/
theorem printStep_drafted (he : f.engine.Computes e) (hroom : s.outputFull = false) (h : s.Kept t)
    (hdraft : (f.draft p s).1 = .ok d) :
    PrintStep f e s t p (f.advancePrinting ⟨p, .drafted d⟩ t).1
      (f.advancePrinting ⟨p, .drafted d⟩ t).2 := by
  have hheard := (Formatter.draft_computes he p s).2
  have hblock : f.options.block? e s p = some d.block := by
    rw [Formatter.block?_eq he, hdraft]
    rfl
  rw [Formatter.advancePrinting_drafted, Formatter.settle_stdout_of_room (h.outputFull.trans hroom)]
  refine ⟨rfl, ?_, ⟨h.files, h.directory, h.outputFull⟩, ?_⟩
  · change _ = (f.processFile .stdout p s).1
    rw [Formatter.processFile_of_ok hdraft,
      Formatter.settle_stdout_of_room (hheard.outputFull.trans hroom)]
  · rw [hblock]
    rfl

/-- **One step of one file prints its block or nothing**, whatever others have printed. -/
theorem printStep (he : f.engine.Computes e) (hroom : s.outputFull = false) (h : s.Kept t) {j : Job}
    (hj : j.AsPrinted f s) (unfinished : j.result? = none) :
    PrintStep f e s t j.path (f.advancePrinting j t).1 (f.advancePrinting j t).2 := by
  obtain ⟨p, stage⟩ := j
  cases stage with
  | waiting => exact printStep_waiting he h p
  | drafted d => exact printStep_drafted he hroom h hj
  | finished result => cases unfinished

/-! ### Any order -/

/-- What holds at each point of a run: what has been printed is the blocks of the files that are
finished. -/
structure Printed (f : Formatter) (e : Answers) (s : Session) (paths : List Path) (order : List Nat)
    (t : Session) (jobs : List Job) : Prop where
  samePaths : jobs.map Job.path = paths
  kept : s.Kept t
  asPrinted : ∀ j ∈ jobs, j.AsPrinted f s
  nodup : order.Nodup
  mem_order : ∀ i, i ∈ order ↔ ∃ j, jobs[i]? = some j ∧ j.result?.isSome
  printed : t.printed = s.printed ++ (f.options.blocks e s paths order).flatten

/-- It holds at the start. -/
theorem Printed.start (f : Formatter) (e : Answers) (s : Session) (paths : List Path) :
    Printed f e s paths [] s (paths.map fun p => ⟨p, .waiting⟩) := by
  refine ⟨by simp [Function.comp_def], .refl s, ?_, .nil, ?_, (List.append_nil _).symm⟩
  · intro j hj
    obtain ⟨p, -, rfl⟩ := List.mem_map.mp hj
    trivial
  · intro i
    simp only [List.not_mem_nil, List.getElem?_map, false_iff]
    rintro ⟨j, hj, hfinished⟩
    obtain ⟨p, -, rfl⟩ := Option.map_eq_some_iff.mp hj
    cases hfinished

/-- The blocks of more files stand behind those there are. -/
theorem flatten_blocks_finishedAs (o : FormatOptions) (e : Answers) (s : Session) {i : Nat}
    (hp : paths[i]? = some p) (order : List Nat) (j : Job) :
    (o.blocks e s paths (order ++ j.finishedAs i)).flatten =
      (o.blocks e s paths order).flatten ++
        if j.result?.isSome then (o.block? e s p).getD [] else [] := by
  unfold FormatOptions.blocks Job.finishedAs
  rw [List.filterMap_append, List.flatten_append]
  congr 1
  split
  · rw [List.filterMap_cons, hp, Option.bind_some, List.filterMap_nil]
    cases o.block? e s p <;> simp
  · rfl

theorem mem_finishedAs_iff {i k : Nat} {j : Job} :
    k ∈ j.finishedAs i ↔ k = i ∧ j.result?.isSome := by
  unfold Job.finishedAs
  split <;> simp [*]

/-- Each step keeps it. -/
theorem Printed.turn (he : f.engine.Computes e) (hroom : s.outputFull = false)
    (h : Printed f e s paths order t jobs) {i : Nat} {j : Job} (job : jobs[i]? = some j)
    (unfinished : j.result? = none) :
    Printed f e s paths (order ++ (f.advancePrinting j t).1.finishedAs i) (f.advancePrinting j t).2
      (jobs.set i (f.advancePrinting j t).1) := by
  obtain ⟨hpath, hasPrinted, hkept, hprinted⟩ :=
    printStep he hroom h.kept (h.asPrinted j (List.mem_of_getElem? job)) unfinished
  obtain ⟨hi, hj⟩ := List.getElem?_eq_some_iff.mp job
  have hp : paths[i]? = some j.path := by
    rw [← h.samePaths, List.getElem?_map, job]
    rfl
  -- A file that takes a step is not finished, so its number is new.
  have hnew : i ∉ order := by
    rw [h.mem_order]
    rintro ⟨k, hk, hfinished⟩
    obtain rfl := Option.some.inj (job.symm.trans hk)
    rw [unfinished] at hfinished
    cases hfinished
  refine ⟨?_, hkept, ?_, ?_, ?_, ?_⟩
  · rw [List.map_set, hpath, h.samePaths]
    obtain ⟨hlt, hget⟩ := List.getElem?_eq_some_iff.mp hp
    rw [← hget, List.set_getElem_self]
  · intro k hk
    rcases List.mem_or_eq_of_mem_set hk with hk | rfl
    · exact h.asPrinted k hk
    · exact hasPrinted
  · refine h.nodup.append ?_ ?_
    · unfold Job.finishedAs
      split <;> simp
    · intro k hk hki
      exact hnew ((mem_finishedAs_iff.mp hki).1 ▸ hk)
  · intro k
    rw [List.mem_append, h.mem_order, mem_finishedAs_iff, List.getElem?_set]
    by_cases hki : i = k
    · subst hki
      simp [hi, hj, unfinished]
    · simp [hki, Ne.symm hki]
  · rw [hprinted, h.printed, flatten_blocks_finishedAs _ _ _ hp, List.append_assoc]

/-- So it holds at each point. -/
theorem Printing.printed (he : f.engine.Computes e) (hroom : s.outputFull = false)
    (h : Printing f s paths order t jobs) : Printed f e s paths order t jobs := by
  induction h with
  | start => exact .start f e s paths
  | turn _ job unfinished ih => exact ih.turn he hroom job unfinished

/-- When every file is finished, each was once. -/
theorem Printed.perm_range (h : Printed f e s paths order t jobs)
    (hcomplete : ∀ j ∈ jobs, j.result?.isSome) :
    order.Perm (List.range paths.length) := by
  rw [List.perm_ext_iff_of_nodup h.nodup List.nodup_range]
  intro i
  rw [h.mem_order, List.mem_range, ← h.samePaths, List.length_map]
  constructor
  · rintro ⟨j, hj, -⟩
    exact (List.getElem?_eq_some_iff.mp hj).1
  · intro hi
    exact ⟨jobs[i], List.getElem?_eq_getElem hi, hcomplete _ (List.getElem_mem hi)⟩

/-- And each came to what it comes to alone. -/
theorem Printed.jobs_eq (h : Printed f e s paths order t jobs)
    (hcomplete : ∀ j ∈ jobs, j.result?.isSome) :
    jobs = paths.map fun p => ⟨p, .finished (f.processFile .stdout p s).1⟩ := by
  rw [← h.samePaths]
  exact eq_map_ofResult hcomplete fun j hj => (h.asPrinted j hj).result_eq

/-! ### How long a run can be -/

/-- A file's step leaves fewer for it. -/
theorem Formatter.remaining_advancePrinting_lt (f : Formatter) (t : Session) {j : Job}
    (unfinished : j.result? = none) : remaining [(f.advancePrinting j t).1] < remaining [j] := by
  obtain ⟨p, stage⟩ := j
  cases stage with
  | waiting =>
    cases hdraft : (f.draft p t).1 with
    | error fault =>
      rw [advancePrinting_of_error hdraft]
      exact Nat.zero_lt_two
    | ok d =>
      rw [advancePrinting_of_ok hdraft]
      exact Nat.one_lt_two
  | drafted d => exact Nat.zero_lt_one
  | finished result => cases unfinished

/-- Fewer steps for one file are fewer in all. -/
theorem remaining_set_lt {jobs : List Job} {i : Nat} {j j' : Job} (job : jobs[i]? = some j)
    (h : remaining [j'] < remaining [j]) : remaining (jobs.set i j') < remaining jobs := by
  obtain ⟨hi, rfl⟩ := List.getElem?_eq_some_iff.mp job
  conv_rhs =>
    rw [← List.take_append_drop i jobs, ← List.getElem_cons_drop hi, remaining_append_cons]
  rw [List.set_eq_take_append_cons_drop, if_pos hi, remaining_append_cons]
  omega

/-- **Every run can be completed**, and it is after finitely many steps. -/
theorem Printing.exists_complete (h : Printing f s paths order t jobs) :
    ∃ order' t' jobs',
      Printing f s paths (order ++ order') t' jobs' ∧ ∀ j ∈ jobs', j.result?.isSome := by
  induction hn : remaining jobs using Nat.strongRecOn generalizing order t jobs with
  | _ n ih =>
    by_cases hcomplete : ∀ j ∈ jobs, j.result?.isSome
    · exact ⟨[], t, jobs, by rwa [List.append_nil], hcomplete⟩
    · push Not at hcomplete
      obtain ⟨j, hj, hunfinished⟩ := hcomplete
      obtain ⟨i, hi, rfl⟩ := List.mem_iff_getElem.mp hj
      have unfinished : jobs[i].result? = none := by simpa using hunfinished
      have job := List.getElem?_eq_getElem hi
      have hless := remaining_set_lt job (f.remaining_advancePrinting_lt t unfinished)
      obtain ⟨order', t', jobs', hrest, hdone⟩ := ih _ (hn ▸ hless) (h.turn job unfinished) rfl
      exact ⟨_, t', jobs', by rwa [List.append_assoc] at hrest, hdone⟩

/-! ### One after the other -/

/-- Taking the steps of one file is processing it. -/
theorem Printing.processFile (h : Printing f s paths order t jobs) {i : Nat}
    (job : jobs[i]? = some ⟨p, .waiting⟩) :
    Printing f s paths (order ++ [i]) (f.processFile .stdout p t).2
      (jobs.set i ⟨p, .finished (f.processFile .stdout p t).1⟩) := by
  have hfirst := h.turn job rfl
  cases hdraft : (f.draft p t).1 with
  | error fault =>
    rw [Formatter.advancePrinting_of_error hdraft] at hfirst
    rw [Formatter.processFile_of_error hdraft]
    exact hfirst
  | ok d =>
    simp only [Formatter.advancePrinting_of_ok hdraft, Job.finishedAs_drafted,
      List.append_nil] at hfirst
    have hi : i < jobs.length := (List.getElem?_eq_some_iff.mp job).1
    -- Nobody has taken a step since the file was read, so the draft is still in its place.
    have hsecond := hfirst.turn (List.getElem?_set_self hi) rfl
    rw [List.set_set] at hsecond
    rw [Formatter.processFile_of_ok hdraft]
    exact hsecond

/-- **Taking one file after the other is one of the runs**, and the files are finished in their
order. -/
theorem Printing.processEach {before : List Job} {rest : List Path}
    (h : Printing f s paths order t (before ++ rest.map fun p => ⟨p, .waiting⟩)) :
    Printing f s paths (order ++ List.range' before.length rest.length)
      (f.processEach .stdout rest t).2
      (before ++ (f.processEach .stdout rest t).1.map Job.ofResult) := by
  induction rest generalizing order t before with
  | nil =>
    rw [List.length_nil, List.range'_zero, List.append_nil]
    exact h
  | cons p rest ih =>
    have hfirst := h.processFile (i := before.length) (p := p) (by simp)
    rw [List.map_cons, List.set_append_right _ _ (Nat.le_refl _), Nat.sub_self, List.set_cons_zero,
      List.append_cons before] at hfirst
    have hrest := ih hfirst
    rw [List.length_append, List.append_assoc, List.append_assoc] at hrest
    rw [List.length_cons, List.range'_succ]
    exact hrest

theorem printing_processEach (f : Formatter) (s : Session) (paths : List Path) :
    Printing f s paths (List.range paths.length) (f.processEach .stdout paths s).2
      ((f.processEach .stdout paths s).1.map Job.ofResult) := by
  have hstart : Printing f s paths [] s ([] ++ paths.map fun p => ⟨p, .waiting⟩) := .start
  have hrun := hstart.processEach
  rw [List.nil_append, List.nil_append, List.length_nil, ← List.range_eq_range'] at hrun
  exact hrun

theorem blocks_range (o : FormatOptions) (e : Answers) (s : Session) (paths : List Path) :
    o.blocks e s paths (List.range paths.length) = paths.filterMap (o.block? e s) := by
  unfold FormatOptions.blocks
  induction paths with
  | nil => rfl
  | cons p rest ih =>
    rw [List.length_cons, List.range_succ_eq_map, List.filterMap_cons, List.filterMap_cons,
      List.filterMap_map]
    simp only [List.getElem?_cons_zero, Option.bind_some]
    rw [← ih]
    rfl

namespace Formatter

/-- What a batch prints behind what has been printed. -/
def outputOf (f : Formatter) (paths : List Path) (s : Session) : Bytes :=
  (f.processFiles .stdout paths s).2.printed.drop s.printed.length

theorem printed_processFiles (he : f.engine.Computes e) (hroom : s.outputFull = false)
    (paths : List Path) :
    (f.processFiles .stdout paths s).2.printed =
      s.printed ++ (paths.filterMap (f.options.block? e s)).flatten := by
  rw [(processFiles_eq f .stdout paths s).2.printed, ← blocks_range]
  exact ((printing_processEach f s paths).printed he hroom).printed

theorem outputOf_eq (he : f.engine.Computes e) (hroom : s.outputFull = false) (paths : List Path) :
    f.outputOf paths s = (paths.filterMap (f.options.block? e s)).flatten := by
  rw [outputOf, printed_processFiles he hroom, List.drop_left]

/-- **Whole blocks are printed and nothing else.** Let the engine be a function and let there be
room for output; paths may be repeated. However workers take the steps of all files, they can go on
until each is finished. Then each was finished once; what has been printed is, in the order in which
they were, one block for each file that has one; the files are as they were; and each came to what
it comes to alone. A file has a block exactly if it is processed with success, whether or not it
differs. Taking one file after the other is the run in which they are finished in their order. So a
batch prints the blocks in that order, two batches print what they print as one, and the files are
kept. -/
theorem processFiles_prints_blocks (f : Formatter) (e : Answers) (he : f.engine.Computes e)
    (s : Session) (hroom : s.outputFull = false) :
    (∀ paths order t jobs, Printing f s paths order t jobs →
      (∃ order' t' jobs',
        Printing f s paths (order ++ order') t' jobs' ∧ ∀ j ∈ jobs', j.result?.isSome) ∧
      ((∀ j ∈ jobs, j.result?.isSome) →
        order.Perm (List.range paths.length) ∧
          t.printed = s.printed ++ (f.options.blocks e s paths order).flatten ∧
          t.files = s.files ∧
          jobs = paths.map fun p => ⟨p, .finished (f.processFile .stdout p s).1⟩)) ∧
    (∀ p, (f.options.block? e s p).isSome ↔
      ∃ changed, (f.processFile .stdout p s).1 = .ok changed) ∧
    (∀ paths, Printing f s paths (List.range paths.length) (f.processEach .stdout paths s).2
        ((f.processEach .stdout paths s).1.map Job.ofResult) ∧
      (f.processFiles .stdout paths s).2.printed = s.printed ++ f.outputOf paths s ∧
      f.outputOf paths s = (paths.filterMap (f.options.block? e s)).flatten ∧
      (f.processFiles .stdout paths s).2.files = s.files) ∧
    ∀ xs ys, f.outputOf (xs ++ ys) s = f.outputOf xs s ++ f.outputOf ys s := by
  refine ⟨?_, isSome_block?_iff he hroom, ?_, ?_⟩
  · intro paths order t jobs hrun
    refine ⟨hrun.exists_complete, fun hcomplete => ?_⟩
    have hprinted := hrun.printed he hroom
    exact ⟨hprinted.perm_range hcomplete, hprinted.printed, hprinted.kept.files,
      hprinted.jobs_eq hcomplete⟩
  · intro paths
    refine ⟨printing_processEach f s paths, ?_, outputOf_eq he hroom paths, ?_⟩
    · rw [outputOf_eq he hroom, printed_processFiles he hroom]
    · rw [(processFiles_eq f .stdout paths s).2.files]
      exact files_processEach he (by simp) paths s
  · intro xs ys
    simp only [outputOf_eq he hroom, List.filterMap_append, List.flatten_append]

/-- The two models, the first one twice, and a file that does not exist. -/
def fourPaths : List Path :=
  [Path.ofString "a.prisma", Path.ofString "c.prisma", Path.ofString "b.prisma",
    Path.ofString "a.prisma"]

/-- The third file is read before the first one and printed before it; the second one cannot be
read. -/
theorem processFiles_prints_blocks_crossed :
    ender.engine.Computes (fun source _ => .ok (Engine.trimmed source)) ∧
      twoModels.outputFull = false ∧
      ∃ t jobs,
        Printing ender twoModels fourPaths [1, 2, 0, 3] t jobs ∧ (∀ j ∈ jobs, j.result?.isSome) ∧
        t.printed = Bytes.ofString
          "===== b.prisma =====\nB\n===== a.prisma =====\nA\n===== a.prisma =====\nA\n" := by
  have he : ender.engine.Computes (fun source _ => .ok (Engine.trimmed source)) :=
    Engine.computes_ofFunction _
  obtain ⟨order, t, jobs, hrun, rfl, hcomplete⟩ : ∃ order t jobs,
      Printing ender twoModels fourPaths order t jobs ∧ order = [1, 2, 0, 3] ∧
        ∀ j ∈ jobs, j.result?.isSome := by
    have hstart : Printing ender twoModels fourPaths _ _ _ := .start
    have hread := (hstart.turn (i := 2) rfl rfl).turn (i := 0) rfl rfl
    have hrefused := hread.turn (i := 1) rfl rfl
    have hprinted :=
      (hrefused.turn (i := 2) rfl (by decide +kernel)).turn (i := 0) rfl (by decide +kernel)
    have hrepeated := (hprinted.turn (i := 3) rfl rfl).turn (i := 3) rfl (by decide +kernel)
    exact ⟨_, _, _, hrepeated, by decide +kernel, by decide +kernel⟩
  obtain ⟨-, hprinted, -⟩ :=
    ((processFiles_prints_blocks ender _ he twoModels rfl).1 _ _ _ _ hrun).2 hcomplete
  exact ⟨he, rfl, t, jobs, hrun, hcomplete, hprinted.trans (by decide +kernel)⟩

end Formatter

end SchemaFormat
