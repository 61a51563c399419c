import SchemaFormat.Proofs.Questions
import SchemaFormat.Proofs.SafeArgument

/-!
What an engine makes of its program's end.

A program can go wrong in several ways at once: it can end badly, leave some of its input unread and
put out bytes that are no text. `Command.Comes` lists the outcomes and says what each one comes to:
a bad end is reported whatever else happened, an unread input is reported behind a good end alone,
and what was put out is looked at last. No outcome has two answers and each has one
(`Command.answer_eq_iff_comes`). A run of the engine starts its program once, with all arguments in
the order in which they were given and the request behind them, and answers what that outcome comes
to; printing a document hands it on (`Command.engine_classified`).
-/

namespace SchemaFormat

/-! ### Blanks at the ends of a text -/

namespace Text

/-- What is left of a text without the blanks at its ends: only blanks stand around it, and it
neither begins nor ends with one. -/
structure Stripped (text inner : List Char) : Prop where
  parts : ∃ before after, text = before ++ inner ++ after ∧
    (∀ c ∈ before, isBlank c = true) ∧ ∀ c ∈ after, isBlank c = true
  head : ∀ c ∈ inner.head?, isBlank c = false
  last : ∀ c ∈ inner.getLast?, isBlank c = false

/-- Nothing that is dropped begins what is left. -/
theorem head?_dropWhile {α : Type} {drop : α → Bool} {l : List α} {a : α}
    (h : a ∈ (l.dropWhile drop).head?) :
    drop a = false := by
  have hhead := List.head?_dropWhile_not drop l
  rw [Option.mem_def.mp h] at hhead
  exact hhead

theorem dropWhile_append_of_head {α : Type} {drop : α → Bool} {before rest : List α}
    (hbefore : ∀ a ∈ before, drop a = true) (hrest : ∀ a ∈ rest.head?, drop a = false) :
    (before ++ rest).dropWhile drop = rest := by
  rw [List.dropWhile_append_of_pos hbefore]
  cases rest with
  | nil => rfl
  | cons a rest => rw [List.dropWhile_cons_of_neg (by simpa using hrest a rfl)]

theorem trimEnd_append_of_last {drop : Char → Bool} {inner after : List Char}
    (hafter : ∀ c ∈ after, drop c = true) (hinner : ∀ c ∈ inner.getLast?, drop c = false) :
    trimEnd drop (inner ++ after) = inner := by
  rw [trimEnd, List.reverse_append, dropWhile_append_of_head (by simpa using hafter)
    (by simpa using hinner), List.reverse_reverse]

theorem stripped_trim (text : List Char) : Stripped text (trim text) := by
  have hfront : text.takeWhile isBlank ++ text.dropWhile isBlank = text :=
    List.takeWhile_append_dropWhile
  have hend : trim text ++ (text.dropWhile isBlank).rtakeWhile isBlank = text.dropWhile isBlank :=
    List.rdropWhile_append_rtakeWhile
  refine ⟨⟨text.takeWhile isBlank, (text.dropWhile isBlank).rtakeWhile isBlank, ?_, ?_, ?_⟩, ?_, ?_⟩
  · rw [List.append_assoc, hend, hfront]
  · exact fun c hc => List.mem_takeWhile_imp hc
  · exact fun c hc => List.mem_rtakeWhile_imp hc
  · intro c hc
    -- What begins the trimmed text begins the text behind its first blanks.
    have hhead : c ∈ (text.dropWhile isBlank).head? := by
      rw [← hend, List.head?_append, Option.mem_def.mp hc]
      rfl
    exact head?_dropWhile hhead
  · intro c hc
    rw [trim, trimEnd, List.getLast?_reverse] at hc
    exact head?_dropWhile hc

/-- There is one text that is left. -/
theorem stripped_iff {text inner : List Char} : Stripped text inner ↔ inner = trim text := by
  constructor
  · rintro ⟨⟨before, after, rfl, hbefore, hafter⟩, hhead, hlast⟩
    rw [List.append_assoc, trim]
    cases inner with
    | nil =>
      have hblank : (before ++ ([] ++ after)).dropWhile isBlank = [] := by
        rw [List.dropWhile_eq_nil_iff]
        intro c hc
        exact (List.mem_append.mp hc).elim (hbefore c) (hafter c)
      rw [hblank]
      rfl
    | cons c inner =>
      rw [dropWhile_append_of_head hbefore (by simpa using hhead),
        trimEnd_append_of_last hafter hlast]
  · rintro rfl
    exact stripped_trim text

end Text

theorem Shell.silent_launch : Launcher.Silent launch := by
  intro i s
  unfold launch
  split
  · rfl
  · split
    · rfl
    · split <;> rfl

namespace Command

/-! ### Outcomes and answers -/

/-- What an outcome of a program comes to. -/
inductive Comes (program : Bytes) : Outcome → Except EngineFault String → Prop where
  | notStarted (cause : SystemFault) :
    Comes program (.notStarted cause) (.error (.spawn (Bytes.display program) cause))
  /-- A bad end, whatever became of the input and of the output. -/
  | failed {unfed : Option SystemFault} {output errorOutput : Bytes} {status : Status}
      {complaint : List Char} (unsuccessful : status ≠ .exited 0)
      (stripped : Text.Stripped (Utf8.decodeLossy errorOutput) complaint) :
    Comes program (.finished unfed output errorOutput status)
      (.error (.failed (Bytes.display program) status.message (String.ofList complaint)))
  /-- A good end without the whole input, whatever the output. -/
  | unfed {cause : SystemFault} {output errorOutput : Bytes} :
    Comes program (.finished (some cause) output errorOutput (.exited 0))
      (.error (.io (Bytes.display program) cause))
  /-- A good end with the whole input, and bytes that are those of no text. -/
  | notText {output errorOutput : Bytes} {cause : Utf8.Fault}
      (noText : ∀ text, output ≠ Bytes.ofString text)
      (fault : output.toString? = .error cause) :
    Comes program (.finished none output errorOutput (.exited 0))
      (.error (.notText (Bytes.display program) cause))
  /-- A good end with the whole input, and the bytes of a text. -/
  | text {text : String} {errorOutput : Bytes} :
    Comes program (.finished none (Bytes.ofString text) errorOutput (.exited 0)) (.ok text)

variable {c : Command} {out : Outcome} {answer : Except EngineFault String} {program : Bytes}

/-- A bad end decides alone. -/
theorem answer_of_unsuccessful {unfed : Option SystemFault} {output errorOutput : Bytes}
    {status : Status} (h : status ≠ .exited 0) :
    c.answer (.finished unfed output errorOutput status) =
      .error (.failed c.name status.message (complaint errorOutput)) := by
  have hfailed : status.isSuccess = false := by simpa [Status.isSuccess] using h
  simp [answer, hfailed]

/-- Behind a good end with the whole input, the output decides. -/
theorem answer_of_fed (c : Command) (output errorOutput : Bytes) :
    c.answer (.finished none output errorOutput (.exited 0)) = Engine.textOf c.name output := rfl

/-- Each outcome comes to its answer. -/
theorem comes_answer (c : Command) (out : Outcome) : Comes c.program out (c.answer out) := by
  cases out with
  | notStarted cause => exact .notStarted cause
  | finished unfed output errorOutput status =>
    by_cases hstatus : status = .exited 0
    · subst hstatus
      cases unfed with
      | some cause => exact .unfed
      | none =>
        rw [answer_of_fed, Engine.textOf]
        cases hread : output.toString? with
        | ok text =>
          obtain rfl := Bytes.toString?_eq_ok_iff.mp hread
          exact .text
        | error cause =>
          refine .notText ?_ hread
          rintro text rfl
          rw [Bytes.toString?_ofString] at hread
          cases hread
    · rw [answer_of_unsuccessful hstatus]
      exact .failed hstatus (Text.stripped_trim _)

/-- No outcome comes to two answers. -/
theorem Comes.answer_eq (h : Comes c.program out answer) : c.answer out = answer := by
  cases h with
  | notStarted cause => rfl
  | failed unsuccessful stripped =>
    obtain rfl := Text.stripped_iff.mp stripped
    exact answer_of_unsuccessful unsuccessful
  | unfed => rfl
  | notText noText fault =>
    rw [answer_of_fed, Engine.textOf, fault]
    rfl
  | text => exact textOf_eq_ok_iff.mpr rfl

/-- **An answer is what the outcome comes to**, and nothing else is. -/
theorem answer_eq_iff_comes : c.answer out = answer ↔ Comes c.program out answer := by
  constructor
  · rintro rfl
    exact comes_answer c out
  · exact Comes.answer_eq

/-! ### Starting the program -/

theorem foldl_withArguments (c : Command) (calls : List (List Bytes)) :
    calls.foldl withArguments c = ⟨c.program, c.arguments ++ calls.flatten⟩ := by
  induction calls generalizing c with
  | nil => simp
  | cons more calls ih => simp [ih, withArguments]

/-- Each question starts the program once. -/
theorem starts_engine {launch : Launcher} (hsilent : launch.Silent) (c : Command)
    (text request : String) (s : Session) :
    Run.Starts (fun launch => c.engine launch text request) launch s [c.invocation text request] :=
  fun note => notes_engine hsilent note text request s

/-- **The ends of a program are told apart.** Take a program with the arguments of several calls,
and whatever becomes of it when it is started. It is started once: with these arguments in the order
of the calls and the request behind them, and with the bytes of the text as its input. The engine
answers what the outcome comes to and nothing else. A document that is printed comes to the same
answer, a fault with the message and the causes that it has. -/
theorem engine_classified (launch : Launcher) (hsilent : launch.Silent) (program : Bytes)
    (calls : List (List Bytes)) (text request : String) (s : Session) :
    let c := calls.foldl withArguments ⟨program, []⟩
    let started : Invocation :=
      ⟨program, calls.flatten ++ [Bytes.ofString request], Bytes.ofString text⟩
    let outcome :=
      (launch started (s.logged (.spawning (Bytes.display program) text.utf8ByteSize request))).1
    Run.Starts (fun launch => c.engine launch text request) launch s [started] ∧
    (∀ answer, (c.engine launch text request s).1 = answer ↔ Comes program outcome answer) ∧
    (∀ (d : Document) (options : PrintOptions) (r : Request),
      d.text = text → Request.build options = .ok r → r.compact = request →
      ∀ printed, (d.print (c.engine launch) options s).1 = printed ↔
        ∃ answer, Comes program outcome answer ∧ printed = answer.mapError .engine) ∧
    ∀ fault : EngineFault, (PrintFault.engine fault).message = fault.message ∧
      (PrintFault.engine fault).causes = fault.causes := by
  intro c started outcome
  have hc : c = ⟨program, calls.flatten⟩ := foldl_withArguments ⟨program, []⟩ calls
  have hstarted : c.invocation text request = started := by rw [hc]; rfl
  have hanswer : (c.engine launch text request s).1 = c.answer outcome := by
    rw [engine_apply, hstarted, hc]
    rfl
  have hcomes (answer : Except EngineFault String) :
      (c.engine launch text request s).1 = answer ↔ Comes program outcome answer := by
    rw [hanswer, answer_eq_iff_comes, hc]
  refine ⟨hstarted ▸ starts_engine hsilent c text request s, hcomes, ?_, fun fault => ⟨rfl, rfl⟩⟩
  rintro d options r rfl hbuild rfl printed
  rw [Document.print_of_build hbuild]
  constructor
  · rintro rfl
    exact ⟨_, (hcomes _).mp rfl, rfl⟩
  · rintro ⟨answer, hanswer, rfl⟩
    rw [(hcomes answer).mpr hanswer]

/-- A program that leaves its input unread, puts out bytes that are no text and is aborted, an image
of its memory being kept, is reported for its end alone. -/
theorem engine_classified_all_at_once :
    let launch : Launcher :=
      .ofOutcome fun _ => .finished (some .brokenPipe) [0xFF] (Bytes.ofString "\tno model\n")
        (.killed 6 true)
    let c : Command := ⟨Bytes.ofString "prisma-fmt", [Bytes.ofString "format", Bytes.ofString "-s"]⟩
    launch.Silent ∧
      Run.Starts (fun launch => c.engine launch "A" "\x7b\x7d") launch { files := .empty }
        [⟨Bytes.ofString "prisma-fmt",
          [Bytes.ofString "format", Bytes.ofString "-s", Bytes.ofString "\x7b\x7d"],
            Bytes.ofString "A"⟩] ∧
      (c.engine launch "A" "\x7b\x7d" { files := .empty }).1 =
        .error (.failed "prisma-fmt" "signal: 6 (SIGABRT) (core dumped)" "no model") := by
  intro launch c
  obtain ⟨hstarts, hcomes, -, -⟩ := engine_classified launch (Launcher.silent_ofOutcome _)
    (Bytes.ofString "prisma-fmt") [[Bytes.ofString "format"], [Bytes.ofString "-s"]] "A" "\x7b\x7d"
    { files := .empty }
  have hstripped :
      Text.Stripped (Utf8.decodeLossy (Bytes.ofString "\tno model\n")) "no model".toList :=
    Text.stripped_iff.mpr (by decide +kernel)
  exact ⟨Launcher.silent_ofOutcome _, hstarts, (hcomes _).mpr (.failed (by decide) hstripped)⟩

end Command

end SchemaFormat
