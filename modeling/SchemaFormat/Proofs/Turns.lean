import SchemaFormat.Proofs.Batch

/-!
What becomes of a file when its turn comes.

The engine may be any: it may answer otherwise each time and change what it likes. So all that is
said of a file is said of the session in which its turn comes (`Formatter.turns`). There it is read,
routed, put to the engine and put out. `Formatter.Fails` tells what can go wrong on this way,
`Formatter.Differs` and `Formatter.Agrees` what the engine's answer is to the text, and each of the
three is one result of processing the file (`fails_iff`, `differs_iff`, `agrees_iff`).
-/

namespace SchemaFormat

theorem Summary.failed_pos_iff {results : List FileResult} :
    0 < (ofResults results).failed ↔ ∃ result ∈ results, ∃ fault, result.2 = .error fault := by
  change 0 < (faultsOf results).length ↔ _
  induction results with
  | nil => simp [faultsOf]
  | cons result results ih =>
    obtain ⟨p, answer⟩ := result
    cases answer with
    | error fault => simp [faultsOf]
    | ok changed => simpa [faultsOf] using ih

namespace Formatter

/-! ### One file -/

/-- The engine is asked for a file: the file is read, a parser takes it, and the engine comes to an
answer and leaves the session `t`. -/
structure Consults (f : Formatter) (s : Session) (p : Path) (text : String)
    (answer : Except EngineFault String) (t : Session) : Prop where
  read : s.files.readText s.directory p = .ok text
  asked : ∃ parser request, f.options.route p = .ok parser ∧
    Request.build (f.options.printOptions s.directory.path p) = .ok request ∧
    f.engine text request.compact (announced s parser text p) = (answer, t)

/-- A formatted text is not put out. -/
inductive NotPut (mode : Mode) (t : Session) (d : Draft) (cause : SystemFault) : Prop where
  | printed : mode = .stdout → (Run.print d.block t).1 = .error cause → NotPut mode t d cause
  | written : mode = .write → d.changed = true →
      t.files.write t.directory d.path (Bytes.ofString d.formatted) = .error cause →
      NotPut mode t d cause

/-- A file is not formatted: it is not read, no parser takes it, the engine refuses it, or what the
engine answers is not put out. -/
inductive Fails (f : Formatter) (mode : Mode) (s : Session) (p : Path) : Prop where
  | unread {fault : SystemFault} : s.files.readText s.directory p = .error fault → Fails f mode s p
  | unrouted {fault : FileFault} : f.options.route p = .error fault → Fails f mode s p
  | rejected {text : String} {fault : EngineFault} {t : Session} :
      f.Consults s p text (.error fault) t → Fails f mode s p
  | notPut {text out : String} {t : Session} {cause : SystemFault} :
      f.Consults s p text (.ok out) t → NotPut mode t ⟨p, text, out⟩ cause → Fails f mode s p

/-- The engine answers a file with another text. -/
def Differs (f : Formatter) (s : Session) (p : Path) : Prop :=
  ∃ text out t, f.Consults s p text (.ok out) t ∧ out ≠ text

/-- The engine answers a file with its own text. -/
def Agrees (f : Formatter) (s : Session) (p : Path) : Prop :=
  ∃ text t, f.Consults s p text (.ok text) t

variable {f : Formatter} {mode : Mode} {s t : Session} {p : Path} {text : String}

theorem draft_of_unread {fault : SystemFault} (h : s.files.readText s.directory p = .error fault) :
    f.draft p s = (.error (.io p fault), s) := by
  unfold draft
  simp only [Run.bind_apply, Run.readText_apply, h]
  rfl

/-- A file that is read comes to what its text comes to. -/
theorem draft_of_read (h : s.files.readText s.directory p = .ok text) :
    f.draft p s = ((f.formatText text p s).1.map (⟨p, text, ·⟩), (f.formatText text p s).2) := by
  unfold draft
  simp only [Run.bind_apply, Run.readText_apply, h]
  cases (f.formatText text p s).1 <;> rfl

theorem draft_of_consults {answer : Except EngineFault String} (h : f.Consults s p text answer t) :
    f.draft p s =
      ((answer.mapError fun fault => FileFault.print p (.engine fault)).map (⟨p, text, ·⟩), t) := by
  obtain ⟨parser, request, hroute, hbuild, hasked⟩ := h.asked
  rw [draft_of_read h.read, formatText_of_request hroute hbuild, hasked]

theorem processFile_of_draft_error {fault : FileFault} (h : f.draft p s = (.error fault, t)) :
    f.processFile mode p s = (.error fault, t) := by
  rw [processFile_of_error (by rw [h]), h]

theorem processFile_of_draft {d : Draft} (h : f.draft p s = (.ok d, t)) :
    f.processFile mode p s = settle d mode t := by
  rw [processFile_of_ok (by rw [h]), h]

/-- The empty path leads nowhere. -/
theorem ne_nil_of_read (h : s.files.readText s.directory p = .ok text) : p.bytes ≠ [] := by
  obtain ⟨bytes⟩ := p
  rintro rfl
  cases h

/-- A file is not read, or no parser takes it, or the engine is asked. -/
theorem unread_or_unrouted_or_consults (f : Formatter) (s : Session) (p : Path) :
    (∃ fault, s.files.readText s.directory p = .error fault) ∨
      (∃ text fault, s.files.readText s.directory p = .ok text ∧ f.options.route p = .error fault) ∨
      ∃ text answer t, f.Consults s p text answer t := by
  cases hread : s.files.readText s.directory p with
  | error fault => exact .inl ⟨fault, rfl⟩
  | ok text =>
    cases hroute : f.options.route p with
    | error fault => exact .inr (.inl ⟨text, fault, rfl, rfl⟩)
    | ok parser =>
      obtain ⟨request, hbuild, -⟩ :=
        f.options.exists_request s.directory.isAbsolute_path (ne_nil_of_read hread)
      exact .inr (.inr ⟨text, _, _, hread, parser, request, hroute, hbuild, rfl⟩)

theorem settle_of_notPut {d : Draft} {cause : SystemFault} (h : NotPut mode s d cause) :
    (settle d mode s).1 = .error (.io d.path cause) := by
  cases h with
  | printed hmode hprint =>
    subst hmode
    unfold settle
    simp only [Run.bind_apply, hprint]
    rfl
  | written hmode hchanged hwrite =>
    subst hmode
    rw [settle_changed hchanged, hwrite]

theorem settle_of_put {d : Draft} (h : ∀ cause, ¬ NotPut mode s d cause) :
    (settle d mode s).1 = .ok d.changed := by
  cases mode with
  | stdout =>
    unfold settle
    simp only [Run.bind_apply]
    cases hprint : (Run.print d.block s).1 with
    | error cause => exact absurd (.printed rfl hprint) (h cause)
    | ok _ => rfl
  | write =>
    cases hchanged : d.changed with
    | false => rw [settle_unchanged hchanged]
    | true =>
      rw [settle_changed hchanged]
      cases hwrite : s.files.write s.directory d.path (Bytes.ofString d.formatted) with
      | error cause => exact absurd (.written rfl hchanged hwrite) (h cause)
      | ok files => rfl
  | check => rfl

/-- **Processing a file answers a fault where it fails.** -/
theorem fails_iff : f.Fails mode s p ↔ ∃ fault, (f.processFile mode p s).1 = .error fault := by
  constructor
  · intro h
    cases h with
    | unread hread =>
      exact ⟨_, congrArg Prod.fst (processFile_of_draft_error (draft_of_unread hread))⟩
    | unrouted hroute =>
      cases hread : s.files.readText s.directory p with
      | error fault =>
        exact ⟨_, congrArg Prod.fst (processFile_of_draft_error (draft_of_unread hread))⟩
      | ok text =>
        have hdraft := draft_of_read (f := f) hread
        rw [formatText_of_route_error hroute] at hdraft
        exact ⟨_, congrArg Prod.fst (processFile_of_draft_error hdraft)⟩
    | rejected hasked =>
      exact ⟨_, congrArg Prod.fst (processFile_of_draft_error (draft_of_consults hasked))⟩
    | notPut hasked hput =>
      rw [processFile_of_draft (draft_of_consults hasked)]
      exact ⟨_, settle_of_notPut hput⟩
  · rintro ⟨fault, hresult⟩
    rcases unread_or_unrouted_or_consults f s p with ⟨fault, hread⟩ | ⟨text, fault, -, hroute⟩ |
      ⟨text, answer, t, hasked⟩
    · exact .unread hread
    · exact .unrouted hroute
    · cases answer with
      | error fault => exact .rejected hasked
      | ok out =>
        by_contra hfails
        rw [processFile_of_draft (draft_of_consults hasked),
          settle_of_put fun cause hput => hfails (.notPut hasked hput)] at hresult
        cases hresult

theorem processFile_check_of_consults {out : String} (h : f.Consults s p text (.ok out) t) :
    (f.processFile .check p s).1 = .ok (Draft.changed ⟨p, text, out⟩) := by
  rw [processFile_of_draft (draft_of_consults h)]
  exact settle_of_put fun cause hput => by cases hput <;> contradiction

/-- A file that is checked with success was put to the engine. -/
theorem exists_consults {changed : Bool} (h : (f.processFile .check p s).1 = .ok changed) :
    ∃ text out t, f.Consults s p text (.ok out) t ∧ changed = Draft.changed ⟨p, text, out⟩ := by
  have hfails : ¬ f.Fails .check s p := by
    rw [fails_iff, h]
    rintro ⟨fault, hfault⟩
    cases hfault
  rcases unread_or_unrouted_or_consults f s p with ⟨fault, hread⟩ | ⟨text, fault, -, hroute⟩ |
    ⟨text, answer, t, hasked⟩
  · exact absurd (.unread hread) hfails
  · exact absurd (.unrouted hroute) hfails
  · cases answer with
    | error fault => exact absurd (.rejected hasked) hfails
    | ok out =>
      rw [processFile_check_of_consults hasked] at h
      exact ⟨text, out, t, hasked, (Except.ok.inj h).symm⟩

theorem differs_iff : f.Differs s p ↔ (f.processFile .check p s).1 = .ok true := by
  constructor
  · rintro ⟨text, out, t, hasked, hne⟩
    rw [processFile_check_of_consults hasked]
    simpa [Draft.changed] using hne
  · intro h
    obtain ⟨text, out, t, hasked, hchanged⟩ := exists_consults h
    exact ⟨text, out, t, hasked, by simpa [Draft.changed] using hchanged.symm⟩

theorem agrees_iff : f.Agrees s p ↔ (f.processFile .check p s).1 = .ok false := by
  constructor
  · rintro ⟨text, t, hasked⟩
    rw [processFile_check_of_consults hasked]
    simp [Draft.changed]
  · intro h
    obtain ⟨text, out, t, hasked, hchanged⟩ := exists_consults h
    obtain rfl : out = text := by simpa [Draft.changed] using hchanged.symm
    exact ⟨out, t, hasked⟩

instance (f : Formatter) (s : Session) (p : Path) : Decidable (f.Differs s p) :=
  decidable_of_iff _ differs_iff.symm

/-! ### One file after the other -/

/-- A file, and the session in which its turn comes. -/
structure Turn where
  before : Session
  path : Path

/-- The turns of files that are processed one after the other. -/
def turns (f : Formatter) (mode : Mode) : List Path → Session → List Turn
  | [], _ => []
  | p :: paths, s => ⟨s, p⟩ :: f.turns mode paths (f.processFile mode p s).2

theorem map_path_turns (f : Formatter) (mode : Mode) (paths : List Path) (s : Session) :
    (f.turns mode paths s).map Turn.path = paths := by
  induction paths generalizing s with
  | nil => rfl
  | cons p paths ih => exact congrArg (p :: ·) (ih _)

theorem path_mem_of_mem_turns {t : Turn} {paths : List Path} (ht : t ∈ f.turns mode paths s) :
    t.path ∈ paths := by
  rw [← map_path_turns f mode paths s]
  exact List.mem_map_of_mem ht

/-- What becomes of each file becomes of it at its turn. -/
theorem processEach_eq_turns (f : Formatter) (mode : Mode) (paths : List Path) (s : Session) :
    (f.processEach mode paths s).1 =
      (f.turns mode paths s).map fun t => (t.path, (f.processFile mode t.path t.before).1) := by
  induction paths generalizing s with
  | nil => rfl
  | cons p paths ih =>
    rw [processEach_cons, ih]
    rfl

/-- Some file is counted as failed if one fails at its turn. -/
theorem failed_turns (f : Formatter) (mode : Mode) (paths : List Path) (s : Session) :
    0 < (Summary.ofResults (f.processEach mode paths s).1).failed ↔
      ∃ t ∈ f.turns mode paths s, f.Fails mode t.before t.path := by
  simp only [Summary.failed_pos_iff, processEach_eq_turns, List.mem_map, exists_exists_and_eq_and,
    fails_iff]

/-- The files that are named as differing are those that differ at their turns, in order. -/
theorem changed_turns (f : Formatter) (paths : List Path) (s : Session) :
    (Summary.ofResults (f.processEach .check paths s).1).changed =
      ((f.turns .check paths s).filter fun t => f.Differs t.before t.path).map Turn.path := by
  change Summary.changedOf _ = _
  rw [processEach_eq_turns, Summary.changedOf, List.filterMap_map]
  induction f.turns .check paths s with
  | nil => rfl
  | cons t turns ih =>
    rw [List.filterMap_cons, List.filter_cons, ih]
    simp only [Function.comp_apply, differs_iff, decide_eq_true_eq]
    rcases (f.processFile .check t.path t.before).1 with fault | _ | _ <;> simp

end Formatter

end SchemaFormat
