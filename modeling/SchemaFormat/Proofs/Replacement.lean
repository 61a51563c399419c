import SchemaFormat.Proofs.Batch

/-!
What takes the place of a file.

Let the engine be a program, whatever becomes of it each time it is started. A file that is
formatted in place is replaced by a complete answer (`Command.Answered`) or not at all: then its
bytes are those that the program put out, and in every other case they are the old ones. What stands
anywhere else stays (`processFile_write_command`).
-/

namespace SchemaFormat

/-- The launcher under which each program that is started comes to its outcome, and nothing else
happens. -/
def Launcher.ofOutcome (outcome : Invocation → Outcome) : Launcher := fun i s => (outcome i, s)

namespace Command

variable {c : Command} {o : FormatOptions} {outcome : Invocation → Outcome} {s : Session} {p : Path}
  {l : Location} {old output : Bytes}

theorem textOf_eq_ok_iff {program text : String} :
    Engine.textOf program output = .ok text ↔ output = Bytes.ofString text := by
  rw [← Bytes.toString?_eq_ok_iff, Engine.textOf]
  cases output.toString? <;> simp

/-- **A program answers with a text if it ended well, took its whole input and put that text out.**
-/
theorem answer_eq_ok_iff {out : Outcome} {text : String} :
    c.answer out = .ok text ↔
      ∃ errorOutput, out = .finished none (Bytes.ofString text) errorOutput (.exited 0) := by
  cases out with
  | notStarted fault => simp [answer]
  | finished unfed output errorOutput status =>
    unfold answer
    by_cases hstatus : status = .exited 0
    · cases unfed with
      | some fault => simp [hstatus, Status.isSuccess]
      | none => simp [hstatus, Status.isSuccess, textOf_eq_ok_iff]
    · simp [hstatus, Status.isSuccess]

/-- A program gave a complete answer for a file that held the bytes `old`. These are a text, and a
parser takes the file. The program was started with the request for the file as its last argument,
it took all of the bytes and ended well. And what it put out is a text. -/
structure Answered (c : Command) (o : FormatOptions) (outcome : Invocation → Outcome)
    (directory p : Path) (old output : Bytes) : Prop where
  source : ∃ text, old.toString? = .ok text
  routed : ∃ parser, o.route p = .ok parser
  ended : ∃ request errorOutput, Request.build (o.printOptions directory p) = .ok request ∧
    outcome ⟨c.program, c.arguments ++ [Bytes.ofString request.compact], old⟩ =
      .finished none output errorOutput (.exited 0)
  answer : ∃ text, output.toString? = .ok text

def formatter (c : Command) (o : FormatOptions) (outcome : Invocation → Outcome) : Formatter :=
  ⟨c.engine (.ofOutcome outcome), o⟩

theorem computes_formatter (c : Command) (o : FormatOptions) (outcome : Invocation → Outcome) :
    (c.formatter o outcome).engine.Computes fun source request =>
      c.answer (outcome (c.invocation source request)) :=
  c.computes fun _ _ => rfl

/-- The text of a draft is what the file holds. -/
theorem source_of_draft {f : Formatter} {e : Answers} (he : f.engine.Computes e) {d : Draft}
    (hold : s.files.lookup true s.directory p = .found l (.file old))
    (hdraft : (f.draft p s).1 = .ok d) : old = Bytes.ofString d.content := by
  obtain ⟨-, htext, -⟩ := Formatter.of_draft_eq_ok he hdraft
  rw [FileSystem.readText_eq_ok_iff, FileSystem.read, hold] at htext
  exact Except.ok.inj htext

/-- A file has a draft if the program gave a complete answer for it, and what the program put out is
the formatted text. -/
theorem exists_draft_iff (hold : s.files.lookup true s.directory p = .found l (.file old)) :
    (∃ d, ((c.formatter o outcome).draft p s).1 = .ok d ∧ output = Bytes.ofString d.formatted) ↔
      c.Answered o outcome s.directory.path p old output := by
  have hread : s.files.read s.directory p = .ok old := by rw [FileSystem.read, hold]
  constructor
  · rintro ⟨d, hdraft, rfl⟩
    obtain ⟨-, -, hanswer⟩ := Formatter.of_draft_eq_ok (c.computes_formatter o outcome) hdraft
    obtain ⟨parser, request, hroute, hbuild, hprogram⟩ := FormatOptions.answer_eq_ok_iff.mp hanswer
    obtain ⟨errorOutput, hended⟩ := answer_eq_ok_iff.mp hprogram
    obtain rfl := source_of_draft (c.computes_formatter o outcome) hold hdraft
    exact ⟨⟨_, Bytes.toString?_ofString d.content⟩, ⟨parser, hroute⟩,
      ⟨request, errorOutput, hbuild, hended⟩, ⟨_, Bytes.toString?_ofString d.formatted⟩⟩
  · rintro ⟨⟨source, hsource⟩, ⟨parser, hroute⟩, ⟨request, errorOutput, hbuild, hended⟩,
      ⟨text, htext⟩⟩
    obtain rfl := Bytes.toString?_eq_ok_iff.mp hsource
    obtain rfl := Bytes.toString?_eq_ok_iff.mp htext
    refine ⟨⟨p, source, text⟩, ?_, rfl⟩
    have hanswer : o.answer (fun source request => c.answer (outcome (c.invocation source request)))
        s.directory.path source p = .ok text :=
      FormatOptions.answer_eq_ok_iff.mpr
        ⟨parser, request, hroute, hbuild, answer_eq_ok_iff.mpr ⟨errorOutput, hended⟩⟩
    rw [(Formatter.draft_computes (c.computes_formatter o outcome) p s).1, FormatOptions.draftOf,
      FileSystem.readText, hread]
    simp only [hsource]
    change Except.map _ (o.answer _ _ _ _) = _
    rw [hanswer]
    rfl

/-- A file that is not written holds what it held. -/
theorem node?_of_not_rewritten (hold : s.files.lookup true s.directory p = .found l (.file old))
    (hkept : (c.formatter o outcome).rewrite? s p = none) :
    ((c.formatter o outcome).processFile .write p s).2.files.node? l = some (.file old) := by
  have hnode : s.files.node? l = some (.file old) :=
    (FileSystem.node?_of_lookup hold).resolve_left (by simp)
  have hafter := Formatter.rewritten_processFile (c.computes_formatter o outcome) p s
  rw [← hnode]
  apply hafter.kept
  rintro q rfl content hrewrite
  rw [hkept] at hrewrite
  cases hrewrite

/-- A file for which there is a complete answer holds it. -/
theorem node?_of_answered (hold : s.files.lookup true s.directory p = .found l (.file old))
    (hanswered : c.Answered o outcome s.directory.path p old output) :
    ((c.formatter o outcome).processFile .write p s).2.files.node? l = some (.file output) := by
  obtain ⟨d, hdraft, rfl⟩ := (exists_draft_iff hold).mpr hanswered
  cases hchanged : d.changed with
  | true =>
    have hplace : s.files.filePlace? s.directory p = some l :=
      FileSystem.filePlace?_eq_some_iff.mpr ⟨old, hold⟩
    have hafter := Formatter.rewritten_processFile (c.computes_formatter o outcome) p s
    exact hafter.written p rfl l _
      (Formatter.rewrite?_eq_some_iff.mpr ⟨hplace, d, hdraft, hchanged, rfl⟩)
  | false =>
    -- The answer is the text that was read, so the old bytes are those that were put out.
    have hsame : d.formatted = d.content := by simpa [Draft.changed] using hchanged
    rw [node?_of_not_rewritten hold (Formatter.rewrite?_of_unchanged hdraft hchanged),
      source_of_draft (c.computes_formatter o outcome) hold hdraft, hsame]

/-- The files after a program has been asked to format one of them in place. -/
def filesAfter (c : Command) (o : FormatOptions) (outcome : Invocation → Outcome) (s : Session)
    (p : Path) :
    FileSystem :=
  ((c.formatter o outcome).processFile .write p s).2.files

/-- **Only a complete answer replaces a file.** Whatever becomes of the program: at any location but
that of the file the path leads to, all stays as it is. The file itself holds its old bytes, or
others that are a complete answer; and if there is a complete answer, it holds that. -/
theorem processFile_write_command (c : Command) (o : FormatOptions) (outcome : Invocation → Outcome)
    (s : Session) (p : Path) :
    (∀ l, s.files.filePlace? s.directory p ≠ some l →
      (c.filesAfter o outcome s p).node? l = s.files.node? l) ∧
    ∀ l old, s.files.lookup true s.directory p = .found l (.file old) →
      ((c.filesAfter o outcome s p).node? l = some (.file old) ∨
        ∃ output, c.Answered o outcome s.directory.path p old output ∧ output ≠ old ∧
          (c.filesAfter o outcome s p).node? l = some (.file output)) ∧
      ∀ output, c.Answered o outcome s.directory.path p old output →
        (c.filesAfter o outcome s p).node? l = some (.file output) := by
  refine ⟨?_, fun l old hold => ⟨?_, fun output => node?_of_answered hold⟩⟩
  · intro l hl
    apply (Formatter.rewritten_processFile (c.computes_formatter o outcome) p s).kept
    rintro q rfl content hrewrite
    exact hl (Formatter.rewrite?_eq_some_iff.mp hrewrite).1
  · cases hrewrite : (c.formatter o outcome).rewrite? s p with
    | none => exact .inl (node?_of_not_rewritten hold hrewrite)
    | some written =>
      obtain ⟨-, d, hdraft, hchanged, -⟩ := Formatter.rewrite?_eq_some_iff.mp hrewrite
      have hanswered := (exists_draft_iff hold).mp ⟨d, hdraft, rfl⟩
      refine .inr ⟨_, hanswered, ?_, node?_of_answered hold hanswered⟩
      rw [source_of_draft (c.computes_formatter o outcome) hold hdraft,
        Bytes.ofString_injective.ne_iff]
      simpa [Draft.changed] using hchanged

/-- A program that puts out a text for the model `A` and ends well replaces it; one that is killed
behind the same output does not. -/
theorem processFile_write_command_killed :
    ((⟨Bytes.ofString "prisma-fmt", []⟩ : Command).filesAfter {}
        (fun _ => .finished none (Bytes.ofString "A {}") [] (.exited 0)) Formatter.twoModels
        (Path.ofString "a.prisma")).node? [Bytes.ofString "a.prisma"] =
      some (.file (Bytes.ofString "A {}")) ∧
    ((⟨Bytes.ofString "prisma-fmt", []⟩ : Command).filesAfter {}
        (fun _ => .finished none (Bytes.ofString "A {}") [] (.killed 9 false)) Formatter.twoModels
        (Path.ofString "a.prisma")).node? [Bytes.ofString "a.prisma"] =
      some (.file (Bytes.ofString "A")) := by
  have hold : Formatter.twoModels.files.lookup true Formatter.twoModels.directory
      (Path.ofString "a.prisma") =
      .found [Bytes.ofString "a.prisma"] (.file (Bytes.ofString "A")) := by decide +kernel
  obtain ⟨request, hbuild, -⟩ := @FormatOptions.exists_request {} _ (Path.ofString "a.prisma")
    Formatter.twoModels.directory.isAbsolute_path (by decide)
  constructor
  · exact ((processFile_write_command _ _ _ _ _).2 _ _ hold).2 _
      ⟨⟨_, Bytes.toString?_ofString _⟩, ⟨_, rfl⟩, ⟨request, [], hbuild, rfl⟩,
        ⟨_, Bytes.toString?_ofString _⟩⟩
  · rcases ((processFile_write_command _ _ _ _ _).2 _ _ hold).1 with hkept | ⟨output, hanswered, -⟩
    · exact hkept
    · obtain ⟨request, errorOutput, -, hended⟩ := hanswered.ended
      cases hended

end Command

end SchemaFormat
