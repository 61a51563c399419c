import SchemaFormat.Proofs.Questions

/-!
The three modes of a batch.

Formatting one file keeps what is to be seen of another one, in any mode (`sameAt_processFile`). So
if no two paths lead to the same file, each file is found as it was when its turn comes
(`sameAt_turn`). It comes to the same draft then, it asks the same, and it is counted the same
(`processEach_eq_drafts`, `calls_processFiles_eq`). The modes differ in what they put out: each
draft is printed, or it is what its file reads as, or neither.
-/

namespace SchemaFormat

/-- The same is to be seen at a path, and there is as much room for output. -/
structure Session.SameAt (s t : Session) (p : Path) : Prop where
  directory : t.directory = s.directory
  outputFull : t.outputFull = s.outputFull
  outline : t.files.outline = s.files.outline
  read : t.files.read s.directory p = s.files.read s.directory p

namespace Session.SameAt

variable {s t u : Session} {p : Path}

theorem refl (s : Session) (p : Path) : SameAt s s p := ⟨rfl, rfl, rfl, rfl⟩

theorem trans (h : SameAt s t p) (k : SameAt t u p) : SameAt s u p := by
  have hread := k.read
  rw [h.directory] at hread
  exact ⟨k.directory.trans h.directory, k.outputFull.trans h.outputFull, k.outline.trans h.outline,
    hread.trans h.read⟩

/-- What is logged and noted is not to be seen in files. -/
theorem of_heard (h : s.Heard t) (p : Path) : SameAt s t p :=
  ⟨h.directory, h.outputFull, by rw [h.files], by rw [h.files]⟩

theorem readText (h : SameAt s t p) :
    t.files.readText t.directory p = s.files.readText s.directory p := by
  rw [FileSystem.readText, FileSystem.readText, h.directory, h.read]

theorem apart (h : SameAt s t p) {q r : Path} :
    t.files.Apart t.directory q r ↔ s.files.Apart s.directory q r := by
  rw [h.directory]
  exact FileSystem.apart_congr h.outline

end Session.SameAt

namespace Formatter

variable {f : Formatter} {e : Answers} {s t : Session} {p q : Path} {paths : List Path}
  {mode : Mode} {d : Draft}

/-! ### One file -/

/-- The draft of a file hangs on what is to be seen at its path. -/
theorem draft_of_sameAt (he : f.engine.Computes e) (h : s.SameAt t p) :
    (f.draft p t).1 = (f.draft p s).1 :=
  draft_congr he h.directory h.read

/-- So does what it asks. -/
theorem questionOf_of_sameAt (o : FormatOptions) (h : s.SameAt t p) :
    o.questionOf t.files t.directory p = o.questionOf s.files s.directory p := by
  rw [FormatOptions.questionOf, FormatOptions.questionOf, h.readText, h.directory]

/-- Only writing changes files. -/
theorem sameAt_settle (hmode : mode ≠ .write) (d : Draft) (s : Session) (q : Path) :
    s.SameAt (settle d mode s).2 q ∧ (settle d mode s).2.files = s.files := by
  cases mode with
  | stdout =>
    rw [settle_printed, Run.print]
    split
    · exact ⟨.refl s q, rfl⟩
    · exact ⟨⟨rfl, rfl, rfl, rfl⟩, rfl⟩
  | write => exact absurd rfl hmode
  | check => exact ⟨.refl s q, rfl⟩

/-- So files are kept in the other modes. -/
theorem sameAt_processFile_of_ne (he : f.engine.Computes e) (hmode : mode ≠ .write) (p : Path)
    (s : Session) (q : Path) :
    s.SameAt (f.processFile mode p s).2 q ∧ (f.processFile mode p s).2.files = s.files := by
  have hheard := (draft_computes he p s).2
  cases hdraft : (f.draft p s).1 with
  | error fault =>
    rw [processFile_of_error hdraft]
    exact ⟨.of_heard hheard q, hheard.files⟩
  | ok d =>
    obtain ⟨hsame, hfiles⟩ := sameAt_settle hmode d (f.draft p s).2 q
    rw [processFile_of_ok hdraft]
    exact ⟨(Session.SameAt.of_heard hheard q).trans hsame, hfiles.trans hheard.files⟩

/-- Writing a file keeps the working directory and the room for output. -/
theorem processFile_write_keeps (he : f.engine.Computes e) (p : Path) (s : Session) :
    (f.processFile .write p s).2.directory = s.directory ∧
      (f.processFile .write p s).2.outputFull = s.outputFull := by
  have hheard := (draft_computes he p s).2
  cases hdraft : (f.draft p s).1 with
  | error fault =>
    rw [processFile_of_error hdraft]
    exact ⟨hheard.directory, hheard.outputFull⟩
  | ok d =>
    rw [processFile_of_ok hdraft]
    cases hchanged : d.changed with
    | false =>
      rw [settle_unchanged hchanged]
      exact ⟨hheard.directory, hheard.outputFull⟩
    | true =>
      rw [settle_changed hchanged]
      split
      · exact ⟨hheard.directory, hheard.outputFull⟩
      · exact ⟨hheard.directory, hheard.outputFull⟩

/-- **Formatting one file keeps what is to be seen of another**, in any mode. -/
theorem sameAt_processFile (he : f.engine.Computes e) (mode : Mode)
    (hapart : s.files.Apart s.directory q p) :
    s.SameAt (f.processFile mode p s).2 q := by
  by_cases hmode : mode = .write
  · subst hmode
    obtain ⟨hdirectory, hroom⟩ := processFile_write_keeps he p s
    have hafter := rewritten_processFile he p s
    refine ⟨hdirectory, hroom, hafter.outline, hafter.read ?_⟩
    rintro r rfl
    exact hapart
  · exact (sameAt_processFile_of_ne he hmode p s q).1

/-! ### One file after the other -/

/-- **Each file is found as it was when its turn comes**, in any mode, if no two paths lead to the
same file. -/
theorem sameAt_turn (he : f.engine.Computes e) (mode : Mode)
    (hapart : paths.Pairwise (s.files.Apart s.directory)) :
    ∀ t ∈ f.turns mode paths s, s.SameAt t.before t.path := by
  induction paths generalizing s with
  | nil =>
    intro t ht
    cases ht
  | cons p paths ih =>
    obtain ⟨hfirst, hrest⟩ := List.pairwise_cons.mp hapart
    have hafter (q : Path) (hq : q ∈ paths) : s.SameAt (f.processFile mode p s).2 q :=
      sameAt_processFile he mode (hfirst q hq).symm
    intro t ht
    rcases List.mem_cons.mp ht with rfl | ht
    · exact .refl s p
    · have hpath : t.path ∈ paths := path_mem_of_mem_turns ht
      have hapart' := hrest.imp (hafter t.path hpath).apart.mpr
      exact (hafter t.path hpath).trans (ih hapart' t ht)

/-- What is put out of a file with success is counted as its draft is. -/
theorem processFile_eq_draft (he : f.engine.Computes e) (mode : Mode) (hroom : s.outputFull = false)
    (hfile : ∀ text,
      s.files.readText s.directory p = .ok text → s.files.isFile s.directory p = true) :
    (f.processFile mode p s).1 = (f.draft p s).1.map Draft.changed := by
  have hheard := (draft_computes he p s).2
  cases mode with
  | stdout =>
    cases hdraft : (f.draft p s).1 with
    | error fault =>
      rw [processFile_of_error hdraft]
      rfl
    | ok d =>
      rw [processFile_of_ok hdraft, settle_stdout_of_room (hheard.outputFull.trans hroom)]
      rfl
  | write =>
    cases hdraft : (f.draft p s).1 with
    | error fault =>
      rw [processFile_of_error hdraft]
      rfl
    | ok d =>
      obtain ⟨-, htext, -⟩ := of_draft_eq_ok he hdraft
      rw [processFile_write he (hfile _ htext), hdraft]
  | check => exact (processFile_check he p s).1

/-- Files are counted, in any mode, as their drafts are. -/
theorem processEach_eq_drafts (he : f.engine.Computes e) (mode : Mode)
    (hroom : s.outputFull = false) (hapart : paths.Pairwise (s.files.Apart s.directory))
    (hfile : ∀ p ∈ paths, ∀ text, s.files.readText s.directory p = .ok text →
      s.files.isFile s.directory p = true) :
    (f.processEach mode paths s).1 = paths.map fun p => (p, (f.draft p s).1.map Draft.changed) := by
  have hturn (t : Turn) (ht : t ∈ f.turns mode paths s) :
      (f.processFile mode t.path t.before).1 = (f.draft t.path s).1.map Draft.changed := by
    have hsame := sameAt_turn he mode hapart t ht
    have hpath : t.path ∈ paths := path_mem_of_mem_turns ht
    have hfile' (text : String)
        (htext : t.before.files.readText t.before.directory t.path = .ok text) :
        t.before.files.isFile t.before.directory t.path = true := by
      rw [hsame.readText] at htext
      rw [hsame.directory, ← FileSystem.isFile_outline, hsame.outline, FileSystem.isFile_outline]
      exact hfile t.path hpath text htext
    rw [processFile_eq_draft he mode (hsame.outputFull.trans hroom) hfile',
      draft_of_sameAt he hsame]
  rw [processEach_eq_turns]
  conv_rhs => rw [← map_path_turns f mode paths s, List.map_map]
  apply List.map_congr_left
  intro t ht
  exact congrArg (Prod.mk t.path) (hturn t ht)

/-- They ask, in any mode, what they ask at the start. -/
theorem calls_processFiles_eq (he : f.engine.Computes e) {note : Call → Call}
    (hf : f.engine.Notes note) (mode : Mode) (hapart : paths.Pairwise (s.files.Apart s.directory)) :
    (f.processFiles mode paths s).2.calls =
      (paths.filterMap fun p => (f.options.questionOf s.files s.directory p).map note).reverse ++
        s.calls := by
  have hturns : ((f.turns mode paths s).filterMap fun t =>
      (f.options.questionOf t.before.files t.before.directory t.path).map note) =
        paths.filterMap fun p => (f.options.questionOf s.files s.directory p).map note := by
    conv_rhs => rw [← map_path_turns f mode paths s, List.filterMap_map]
    apply List.filterMap_congr
    intro t ht
    rw [questionOf_of_sameAt _ (sameAt_turn he mode hapart t ht)]
    rfl
  rw [calls_processFiles hf, hturns]

/-! ### Drafts -/

/-- The drafts of the files that are formatted. -/
def drafts (f : Formatter) (paths : List Path) (s : Session) : List Draft :=
  paths.filterMap fun p => (f.draft p s).1.toOption

theorem mem_drafts_iff (he : f.engine.Computes e) :
    d ∈ f.drafts paths s ↔ d.path ∈ paths ∧ (f.draft d.path s).1 = .ok d := by
  unfold drafts
  rw [List.mem_filterMap]
  constructor
  · rintro ⟨p, hp, hd⟩
    cases hdraft : (f.draft p s).1 with
    | error fault =>
      rw [hdraft] at hd
      cases hd
    | ok d' =>
      rw [hdraft] at hd
      cases hd
      obtain ⟨rfl, -⟩ := of_draft_eq_ok he hdraft
      exact ⟨hp, hdraft⟩
  · rintro ⟨hp, hdraft⟩
    exact ⟨d.path, hp, by rw [hdraft]; rfl⟩

theorem changed_drafts (he : f.engine.Computes e) (paths : List Path) (s : Session) :
    (Summary.ofResults (paths.map fun p => (p, (f.draft p s).1.map Draft.changed))).changed =
      ((f.drafts paths s).filter Draft.changed).map Draft.path := by
  rw [Summary.changed_ofResults]
  unfold drafts
  induction paths with
  | nil => rfl
  | cons p paths ih =>
    rw [List.filter_cons, List.filterMap_cons, ih]
    cases hdraft : (f.draft p s).1 with
    | error fault => simp [Except.map, Except.toOption]
    | ok d =>
      obtain ⟨rfl, -⟩ := of_draft_eq_ok he hdraft
      cases hchanged : d.changed <;> simp [Except.map, Except.toOption, hchanged]

theorem printed_processFile (he : f.engine.Computes e) (hroom : s.outputFull = false) (p : Path) :
    (f.processFile .stdout p s).2.printed =
      s.printed ++ (f.draft p s).1.toOption.toList.flatMap Draft.block := by
  have hheard := (draft_computes he p s).2
  cases hdraft : (f.draft p s).1 with
  | error fault =>
    rw [processFile_of_error hdraft, hheard.printed]
    exact (List.append_nil _).symm
  | ok d =>
    rw [processFile_of_ok hdraft, settle_stdout_of_room (hheard.outputFull.trans hroom),
      hheard.printed]
    exact congrArg (s.printed ++ ·) (List.append_nil _).symm

/-- The drafts of files are printed in blocks, one after the other. -/
theorem printed_processEach (he : f.engine.Computes e) (hroom : s.outputFull = false)
    (paths : List Path) :
    (f.processEach .stdout paths s).2.printed =
      s.printed ++ (f.drafts paths s).flatMap Draft.block := by
  induction paths generalizing s with
  | nil => exact (List.append_nil _).symm
  | cons p paths ih =>
    have hsame (q : Path) : s.SameAt (f.processFile .stdout p s).2 q :=
      (sameAt_processFile_of_ne he (by simp) p s q).1
    have hrest : f.drafts paths (f.processFile .stdout p s).2 = f.drafts paths s :=
      List.filterMap_congr fun q _ => congrArg Except.toOption (draft_of_sameAt he (hsame q))
    have hdrafts : f.drafts (p :: paths) s =
        (f.draft p s).1.toOption.toList ++ f.drafts paths s := by
      unfold drafts
      rw [List.filterMap_cons]
      cases (f.draft p s).1.toOption <;> rfl
    rw [processEach_cons, ih ((hsame p).outputFull.trans hroom), hrest,
      printed_processFile he hroom, hdrafts, List.flatMap_append, List.append_assoc]

/-- Only writing changes files. -/
theorem files_processEach (he : f.engine.Computes e) (hmode : mode ≠ .write) (paths : List Path)
    (s : Session) :
    (f.processEach mode paths s).2.files = s.files := by
  induction paths generalizing s with
  | nil => rfl
  | cons p paths ih =>
    rw [processEach_cons]
    exact (ih _).trans (sameAt_processFile_of_ne he hmode p s p).2

/-! ### Writing -/

/-- Behind a run in place, each file that has a draft reads as its formatted text. -/
theorem read_of_mem_drafts (he : f.engine.Computes e)
    (hapart : paths.Pairwise (s.files.Apart s.directory))
    (hfile : ∀ p ∈ paths, ∀ text,
      s.files.readText s.directory p = .ok text → s.files.isFile s.directory p = true)
    (hd : d ∈ f.drafts paths s) :
    (f.processEach .write paths s).2.files.read s.directory d.path =
      .ok (Bytes.ofString d.formatted) := by
  obtain ⟨hp, hdraft⟩ := (mem_drafts_iff he).mp hd
  obtain ⟨-, htext, -⟩ := of_draft_eq_ok he hdraft
  apply (processEach_write he hapart).2.read_of_draft he hp ?_ (hfile _ hp _ htext) hdraft
  intro q hq hne
  exact hapart.forall hp hq hne.symm

/-- And what stands at a location differs if the path of a draft that differs leads there. -/
theorem node?_ne_iff (he : f.engine.Computes e)
    (hapart : paths.Pairwise (s.files.Apart s.directory)) (l : Location) :
    (f.processEach .write paths s).2.files.node? l ≠ s.files.node? l ↔
      ∃ d ∈ f.drafts paths s,
        d.changed = true ∧ s.files.filePlace? s.directory d.path = some l := by
  have hafter := (processEach_write he hapart).2
  constructor
  · intro hne
    by_contra hnone
    apply hne
    apply hafter.kept
    intro p hp content hrewrite
    obtain ⟨hplace, d, hdraft, hchanged, -⟩ := rewrite?_eq_some_iff.mp hrewrite
    obtain ⟨rfl, -⟩ := of_draft_eq_ok he hdraft
    exact hnone ⟨d, (mem_drafts_iff he).mpr ⟨hp, hdraft⟩, hchanged, hplace⟩
  · rintro ⟨d, hd, hchanged, hplace⟩ heq
    obtain ⟨hp, hdraft⟩ := (mem_drafts_iff he).mp hd
    obtain ⟨-, htext, -⟩ := of_draft_eq_ok he hdraft
    obtain ⟨old, hold, hread⟩ := FileSystem.read_of_filePlace? hplace
    obtain rfl := Except.ok.inj (hread.symm.trans (FileSystem.readText_eq_ok_iff.mp htext))
    rw [hafter.written d.path hp l _ (rewrite?_eq_some_iff.mpr ⟨hplace, d, hdraft, hchanged, rfl⟩),
      hold] at heq
    have hsame : d.formatted = d.content :=
      Bytes.ofString_injective (Node.file.inj (Option.some.inj heq))
    simp [Draft.changed, hsame] at hchanged

/-- **The three modes agree on what differs.** Let the engine be a function, let no two paths lead
to the same file and none to a device, and let there be room for output. Formatting the files comes
to the same summary in each mode: it names, in order, the drafts that differ from their files. The
engine is asked the same, each file that can be read and that a parser takes once and in order.
Checking and printing keep all files; what is printed is one block for each draft. Writing leaves in
the file of each draft the text that is printed for it, and it changes what stands at a location
exactly if the path of a file that is named leads there. -/
theorem modes_agree (f : Formatter) (e : Answers) (hengine : f.engine = .ofFunction e) (s : Session)
    (paths : List Path) (hapart : paths.Pairwise (s.files.Apart s.directory))
    (hdevices : ∀ p ∈ paths, ∀ l which,
      s.files.lookup true s.directory p ≠ .found l (.device which))
    (hroom : s.outputFull = false) :
    (∀ mode, (f.processFiles mode paths s).1 = (f.processFiles .check paths s).1 ∧
      (f.processFiles mode paths s).2.calls =
        (paths.filterMap (f.options.questionOf s.files s.directory)).reverse ++ s.calls) ∧
    (f.processFiles .check paths s).1.changed =
      ((f.drafts paths s).filter Draft.changed).map Draft.path ∧
    ((f.processFiles .check paths s).2.files = s.files ∧
      (f.processFiles .stdout paths s).2.files = s.files) ∧
    (f.processFiles .stdout paths s).2.printed =
      s.printed ++ (f.drafts paths s).flatMap Draft.block ∧
    (∀ d ∈ f.drafts paths s,
      (f.processFiles .write paths s).2.files.read s.directory d.path =
        .ok (Bytes.ofString d.formatted)) ∧
    ∀ l, (f.processFiles .write paths s).2.files.node? l ≠ s.files.node? l ↔
      ∃ p ∈ (f.processFiles .write paths s).1.changed,
        s.files.filePlace? s.directory p = some l := by
  have he : f.engine.Computes e := hengine ▸ Engine.computes_ofFunction e
  have hnotes : f.engine.Notes id := hengine ▸ Engine.notes_ofFunction e
  have hfile (p : Path) (hp : p ∈ paths) (text : String)
      (htext : s.files.readText s.directory p = .ok text) :
      s.files.isFile s.directory p = true :=
    FileSystem.isFile_of_readText (hdevices p hp) htext
  have hsummary (mode : Mode) : (f.processFiles mode paths s).1 =
      Summary.ofResults (paths.map fun p => (p, (f.draft p s).1.map Draft.changed)) := by
    rw [← processEach_eq_drafts he mode hroom hapart hfile]
    exact (processFiles_eq f mode paths s).1
  have hfiles (mode : Mode) : (f.processFiles mode paths s).2.files =
      (f.processEach mode paths s).2.files :=
    (processFiles_eq f mode paths s).2.files
  refine ⟨fun mode => ⟨by rw [hsummary, hsummary], ?_⟩, ?_, ⟨?_, ?_⟩, ?_, ?_, ?_⟩
  · have hcalls := calls_processFiles_eq he hnotes mode hapart
    simpa only [Option.map_id_fun, id_eq] using hcalls
  · rw [hsummary]
    exact changed_drafts he paths s
  · rw [hfiles]
    exact files_processEach he (by simp) paths s
  · rw [hfiles]
    exact files_processEach he (by simp) paths s
  · rw [(processFiles_eq f .stdout paths s).2.printed]
    exact printed_processEach he hroom paths
  · intro d hd
    rw [hfiles]
    exact read_of_mem_drafts he hapart hfile hd
  · intro l
    rw [hfiles, node?_ne_iff he hapart, hsummary, changed_drafts he]
    constructor
    · rintro ⟨d, hd, hchanged, hplace⟩
      exact ⟨d.path, List.mem_map_of_mem (List.mem_filter.mpr ⟨hd, hchanged⟩), hplace⟩
    · rintro ⟨p, hp, hplace⟩
      obtain ⟨d, hd, rfl⟩ := List.mem_map.mp hp
      obtain ⟨hd, hchanged⟩ := List.mem_filter.mp hd
      exact ⟨d, hd, hchanged, hplace⟩

/-- Both models differ from their drafts, so they are named, and the blocks are those of both. -/
theorem modes_agree_two_models :
    (ender.processFiles .write twoPaths twoModels).1 =
      (ender.processFiles .check twoPaths twoModels).1 ∧
      (ender.processFiles .check twoPaths twoModels).1.changed = twoPaths ∧
      (ender.processFiles .stdout twoPaths twoModels).2.printed =
        twoModels.printed ++
          Bytes.ofString "===== a.prisma =====\nA\n===== b.prisma =====\nB\n" := by
  have hfiles (p : Path) (hp : p ∈ twoPaths) :
      twoModels.files.isFile twoModels.directory p = true := by
    revert p
    decide +kernel
  have hdevices (p : Path) (hp : p ∈ twoPaths) (l : Location) (which : Device) :
      twoModels.files.lookup true twoModels.directory p ≠ .found l (.device which) := by
    intro hlookup
    have hfile := hfiles p hp
    rw [FileSystem.isFile, hlookup] at hfile
    cases hfile
  obtain ⟨hmodes, hchanged, -, hprinted, -⟩ :=
    modes_agree ender _ rfl twoModels twoPaths (by decide +kernel) hdevices rfl
  have hdrafts : ender.drafts twoPaths twoModels =
      [⟨Path.ofString "a.prisma", "A", "A\n"⟩, ⟨Path.ofString "b.prisma", "B", "B\n"⟩] := by
    decide +kernel
  rw [hdrafts] at hchanged hprinted
  exact ⟨(hmodes .write).1, hchanged.trans (by decide +kernel), hprinted.trans (by decide +kernel)⟩

end Formatter

end SchemaFormat
