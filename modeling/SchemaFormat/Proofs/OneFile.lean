import SchemaFormat.Engine.Process
import SchemaFormat.Proofs.Delegation

/-!
What one file comes to under an engine that is a function.

Such an engine may be inside the program or a program that is started (`Command.computes`). Its
answers do not hang on the session, and all that asking it leaves there is what was logged and
noted. So the answer to a text and the draft of a file are functions as well, of the options, the
working directory and the files.
-/

namespace SchemaFormat

/-- Between two sessions only what was logged and what engines were asked may differ. -/
def Session.Heard (s t : Session) : Prop :=
  ∃ events calls, t = { s with events := events, calls := calls }

namespace Session.Heard

variable {s t u : Session}

theorem refl (s : Session) : Heard s s := ⟨s.events, s.calls, rfl⟩

theorem trans (h : Heard s t) (k : Heard t u) : Heard s u := by
  obtain ⟨events, calls, rfl⟩ := h
  obtain ⟨events', calls', rfl⟩ := k
  exact ⟨events', calls', rfl⟩

theorem logged (s : Session) (e : Log.Event) : Heard s (s.logged e) := ⟨e :: s.events, s.calls, rfl⟩

theorem noted (s : Session) (c : Call) : Heard s (s.noted c) := ⟨s.events, c :: s.calls, rfl⟩

theorem files (h : Heard s t) : t.files = s.files := by
  obtain ⟨events, calls, rfl⟩ := h
  rfl

theorem directory (h : Heard s t) : t.directory = s.directory := by
  obtain ⟨events, calls, rfl⟩ := h
  rfl

theorem printed (h : Heard s t) : t.printed = s.printed := by
  obtain ⟨events, calls, rfl⟩ := h
  rfl

theorem outputFull (h : Heard s t) : t.outputFull = s.outputFull := by
  obtain ⟨events, calls, rfl⟩ := h
  rfl

/-- Logging a list of events. -/
theorem forM_log {α : Type} (event : α → Log.Event) (parts : List α) (s : Session) :
    Heard s ((parts.forM fun a => Run.log (event a)) s).2 := by
  rw [Run.forM_log_apply]
  exact ⟨_, s.calls, rfl⟩

end Session.Heard

/-! ### Engines -/

/-- What an engine answers that is a function. -/
abbrev Answers := String → String → Except EngineFault String

/-- The engine answers as a function does, and asking it is only heard of. -/
def Engine.Computes (engine : Engine) (e : Answers) : Prop :=
  ∀ source request s,
    (engine source request s).1 = e source request ∧ s.Heard (engine source request s).2

theorem Engine.computes_ofFunction (e : Answers) : (Engine.ofFunction e).Computes e :=
  fun source request s => ⟨rfl, .noted s ⟨source, request⟩⟩

/-- A program computes a function if its outcome is one of the invocation alone and running it
leaves nothing behind. -/
theorem Command.computes (c : Command) {launch : Launcher} {outcome : Invocation → Outcome}
    (h : ∀ i s, launch i s = (outcome i, s)) :
    (c.engine launch).Computes fun source request =>
      c.answer (outcome (c.invocation source request)) := by
  intro source request s
  unfold Command.engine
  simp only [Run.bind_apply, Run.log_apply, h]
  exact ⟨rfl, (Session.Heard.logged s _).trans (.forM_log id _ _)⟩

/-! ### Texts and files -/

/-- What a text comes to that belongs to a path, `directory` being where relative paths start. -/
def FormatOptions.answer (o : FormatOptions) (e : Answers) (directory : Path) (text : String)
    (p : Path) : Except FileFault String :=
  match o.route p with
  | .error fault => .error fault
  | .ok _ =>
    match Request.build (o.printOptions directory p) with
    | .error cause => .error (.print p cause)
    | .ok request => (e text request.compact).mapError fun fault => .print p (.engine fault)

/-- A text is answered if a parser takes its file and the engine answers. -/
theorem FormatOptions.answer_eq_ok_iff {o : FormatOptions} {e : Answers} {directory p : Path}
    {text out : String} :
    o.answer e directory text p = .ok out ↔
      ∃ parser request, o.route p = .ok parser ∧
        Request.build (o.printOptions directory p) = .ok request ∧
        e text request.compact = .ok out := by
  unfold answer
  cases o.route p with
  | error fault => simp
  | ok parser =>
    cases Request.build (o.printOptions directory p) with
    | error cause => simp
    | ok request => cases h : e text request.compact <;> simp [Except.mapError, h]

def FormatOptions.draftOf (o : FormatOptions) (e : Answers) (files : FileSystem)
    (directory : Location) (p : Path) : Except FileFault Draft :=
  match files.readText directory p with
  | .error fault => .error (.io p fault)
  | .ok content => (o.answer e directory.path content p).map (⟨p, content, ·⟩)

namespace Formatter

variable {f : Formatter} {e : Answers}

/-- Formatting a text answers as a function does. -/
theorem formatText_computes (he : f.engine.Computes e) (text : String) (p : Path) (s : Session) :
    (f.formatText text p s).1 = f.options.answer e s.directory.path text p ∧
      s.Heard (f.formatText text p s).2 := by
  unfold FormatOptions.answer
  cases hroute : f.options.route p with
  | error fault =>
    rw [formatText_of_route_error hroute]
    exact ⟨rfl, .refl s⟩
  | ok parser =>
    cases hbuild : Request.build (f.options.printOptions s.directory.path p) with
    | error cause =>
      rw [formatText_of_request_error hroute hbuild]
      exact ⟨rfl, .logged s _⟩
    | ok request =>
      obtain ⟨hanswer, hheard⟩ := he text request.compact (announced s parser text p)
      rw [formatText_of_request hroute hbuild, hanswer]
      exact ⟨rfl, (Session.Heard.logged s _).trans hheard⟩

/-- So does drafting a file. -/
theorem draft_computes (he : f.engine.Computes e) (p : Path) (s : Session) :
    (f.draft p s).1 = f.options.draftOf e s.files s.directory p ∧ s.Heard (f.draft p s).2 := by
  unfold draft FormatOptions.draftOf
  simp only [Run.bind_apply, Run.readText_apply]
  cases s.files.readText s.directory p with
  | error fault => exact ⟨rfl, .refl s⟩
  | ok content =>
    obtain ⟨hanswer, hheard⟩ := formatText_computes he content p s
    simp only [Run.bind_apply]
    rw [← hanswer]
    cases (f.formatText content p s).1 with
    | error fault => exact ⟨rfl, hheard⟩
    | ok formatted => exact ⟨rfl, hheard⟩

variable {s s' : Session} {p : Path} {d : Draft} {mode : Mode}

/-- Where a file reads the same, its draft is the same. -/
theorem draft_congr (he : f.engine.Computes e) (hdirectory : s'.directory = s.directory)
    (hread : s'.files.read s.directory p = s.files.read s.directory p) :
    (f.draft p s').1 = (f.draft p s).1 := by
  rw [(draft_computes he p s').1, (draft_computes he p s).1, hdirectory]
  simp only [FormatOptions.draftOf, FileSystem.readText, hread]

/-- A draft holds the text that was read and what it was answered. -/
theorem of_draft_eq_ok (he : f.engine.Computes e) (h : (f.draft p s).1 = .ok d) :
    d.path = p ∧ s.files.readText s.directory p = .ok d.content ∧
      f.options.answer e s.directory.path d.content p = .ok d.formatted := by
  rw [(draft_computes he p s).1, FormatOptions.draftOf] at h
  cases hread : s.files.readText s.directory p with
  | error fault =>
    rw [hread] at h
    cases h
  | ok content =>
    rw [hread] at h
    dsimp only at h
    cases hanswer : f.options.answer e s.directory.path content p with
    | error fault =>
      rw [hanswer] at h
      cases h
    | ok formatted =>
      rw [hanswer] at h
      cases h
      exact ⟨rfl, rfl, hanswer⟩

/-! ### Putting out -/

theorem processFile_of_error {fault : FileFault} (h : (f.draft p s).1 = .error fault) :
    f.processFile mode p s = (.error fault, (f.draft p s).2) := by
  unfold processFile
  rw [Run.bind_apply, h]
  rfl

theorem processFile_of_ok (h : (f.draft p s).1 = .ok d) :
    f.processFile mode p s = settle d mode (f.draft p s).2 := by
  unfold processFile
  rw [Run.bind_apply, h]

theorem settle_printed (d : Draft) (s : Session) :
    (settle d .stdout s).2 = (Run.print d.block s).2 := by
  unfold settle
  simp only [Run.bind_apply]
  cases (Run.print d.block s).1 <;> rfl

/-- Where there is room, a draft is printed in a block, whether or not it differs from its file. -/
theorem settle_stdout_of_room (hroom : s.outputFull = false) (d : Draft) :
    settle d .stdout s = (.ok d.changed, { s with printed := s.printed ++ d.block }) := by
  unfold settle
  simp only [Run.bind_apply, Run.print_of_room hroom]
  rfl

theorem settle_unchanged (h : d.changed = false) (s : Session) :
    settle d .write s = (.ok false, s) := by
  unfold settle
  simp [h]

theorem settle_changed (h : d.changed = true) (s : Session) :
    settle d .write s =
      match s.files.write s.directory d.path (Bytes.ofString d.formatted) with
      | .error fault => (.error (.io d.path fault), s)
      | .ok files => (.ok true, { s with files := files }) := by
  unfold settle
  simp only [h, if_true, Run.bind_apply, Run.writeFile_apply]
  cases s.files.write s.directory d.path (Bytes.ofString d.formatted) <;> rfl

end Formatter

end SchemaFormat
