import SchemaFormat.Engine.Reindent
import SchemaFormat.Proofs.JsonRoundTrip
import SchemaFormat.Proofs.Lines
import SchemaFormat.Proofs.OneFile

/-!
What indenting by braces keeps.

Of a source, indenting sees the content alone (`format_eq`), and what it writes has the same content
(`content_of_reindented`): a line is its words behind blanks. Whether a source is refused hangs on
the depths, and those do not hang on the unit (`SameDepths`). So a text that was indented once can
be indented in any other way, as if it had never been indented.
-/

namespace SchemaFormat

namespace Reindent

open Text

/-! ### Depths -/

/-- The depth that a line stands at and the depth behind it; none if it closes more blocks than
there are. -/
def levels (depth : Nat) (joined : List Char) : Option (Nat × Nat) :=
  let leading := if joined.head? = some '\x7d' then 1 else 0
  if depth < leading then none
  else
    let inner := depth - leading
    let closing := closes joined - leading
    if inner + opens joined < closing then none
    else some (inner, inner + opens joined - closing)

/-- The unit takes part in the blanks before a line and in nothing else. -/
theorem indentLine_eq (unit : List Char) (depth : Nat) (joined : List Char) :
    indentLine unit depth joined =
      (levels depth joined).map fun level => (indent unit level.1 ++ joined, level.2) := by
  unfold indentLine levels
  dsimp only
  split_ifs <;> rfl

/-! ### One line -/

namespace Progress

/-- Take a line of these words. After a fault nothing changes. -/
def takeWords (unit : List Char) (p : Progress) (ws : List (List Char)) : Progress :=
  if p.fault.isSome then p
  else if join [' '] ws = [] then { p with written := [] :: p.written, count := p.count + 1 }
  else
    match indentLine unit p.depth (join [' '] ws) with
    | none => { p with fault := some (p.count + 1) }
    | some (text, depth) => { p with
        written := text :: p.written, depth := depth, count := p.count + 1 }

/-- Of a line, its words are all that is taken. -/
theorem take_eq_takeWords (unit : List Char) (p : Progress) (line : List Char) :
    p.take unit line = p.takeWords unit (words line) := rfl

variable {unit : List Char} {p : Progress} {ws : List (List Char)}

theorem takeWords_of_fault (h : p.fault.isSome) : p.takeWords unit ws = p := by
  rw [takeWords, if_pos h]

/-- A blank line stays an empty line. -/
theorem takeWords_blank (h : p.fault = none) (hws : join [' '] ws = []) :
    p.takeWords unit ws = { p with written := [] :: p.written, count := p.count + 1 } := by
  rw [takeWords, h, if_neg (by simp), if_pos hws]

/-- A line that closes too many blocks ends the run. -/
theorem takeWords_refused (h : p.fault = none) (hws : join [' '] ws ≠ [])
    (hlevels : levels p.depth (join [' '] ws) = none) :
    p.takeWords unit ws = { p with fault := some (p.count + 1) } := by
  rw [takeWords, h, if_neg (by simp), if_neg hws, indentLine_eq, hlevels]
  rfl

/-- Any other line is written at its depth. -/
theorem takeWords_indented {level : Nat × Nat} (h : p.fault = none) (hws : join [' '] ws ≠ [])
    (hlevels : levels p.depth (join [' '] ws) = some level) :
    p.takeWords unit ws = { p with
      written := (indent unit level.1 ++ join [' '] ws) :: p.written
      depth := level.2
      count := p.count + 1 } := by
  rw [takeWords, h, if_neg (by simp), if_neg hws, indentLine_eq, hlevels]
  rfl

/-- What is answered after the last line. -/
def result (p : Progress) : Except EngineFault String :=
  match p.fault with
  | some line => .error (.rejected s!"unexpected \x60\x7d\x60 on line {line}")
  | none =>
    if p.depth ≠ 0 then .error (.rejected "unclosed block")
    else .ok (String.ofList (trimEnd (· == '\n') (join ['\n'] p.written.reverse) ++ ['\n']))

/-- A text is answered when no line was refused and every block is closed. -/
theorem result_eq_ok_iff {out : String} :
    p.result = .ok out ↔ p.fault = none ∧ p.depth = 0 ∧
      String.ofList (trimEnd (· == '\n') (join ['\n'] p.written.reverse) ++ ['\n']) = out := by
  unfold result
  cases p.fault with
  | some line => simp
  | none =>
    by_cases hdepth : p.depth = 0 <;> simp [hdepth]

/-- A blank line at the end makes no difference. -/
theorem result_takeWords_nil (unit : List Char) (p : Progress) :
    (p.takeWords unit []).result = p.result := by
  cases hfault : p.fault with
  | some line => rw [takeWords_of_fault (by simp [hfault])]
  | none =>
    rw [takeWords_blank hfault rfl]
    simp only [result, hfault, List.reverse_cons, trimEnd_join_append_nil]

/-- Nor do any number of them. -/
theorem result_foldl_rdropWhile (unit : List Char) (p : Progress) (ls : List (List (List Char))) :
    ((ls.rdropWhile (· == [])).foldl (takeWords unit) p).result =
      (ls.foldl (takeWords unit) p).result := by
  induction ls using List.reverseRecOn with
  | nil => rfl
  | append_singleton ls ws ih =>
    cases ws with
    | nil =>
      rw [List.rdropWhile_concat_pos _ _ _ (by rfl), ih, List.foldl_concat, result_takeWords_nil]
    | cons w ws => rw [List.rdropWhile_concat_neg _ _ _ (by simp)]

end Progress

/-- What a source comes to under a unit: the lines of its content, taken one after the other. -/
def reindented (unit : List Char) (source : String) : Except EngineFault String :=
  ((content source.toList).foldl (Progress.takeWords unit) {}).result

/-- That is what all lines come to, blank ones at the end among them. -/
theorem reindented_eq_foldl (unit : List Char) (source : String) :
    reindented unit source = ((lines source.toList).foldl (Progress.take unit) {}).result := by
  rw [reindented, content, Progress.result_foldl_rdropWhile, List.foldl_map]
  rfl

/-- **Of a source, indenting sees the content; of a request, it sees the unit.** -/
theorem format_eq {source request : String} {value : Json.Value}
    (h : Json.read request = some value) :
    format source request = reindented (unit value) source := by
  rw [reindented_eq_foldl]
  unfold format
  simp only [h]
  rfl

/-- Texts of the same content are indented alike. -/
theorem reindented_congr {t u : String} (h : content t.toList = content u.toList)
    (unit : List Char) :
    reindented unit t = reindented unit u := by
  rw [reindented, reindented, h]

/-! ### Other units -/

/-- Two runs that have come equally far and stand equally deep. -/
structure SameDepths (p q : Progress) : Prop where
  depth : p.depth = q.depth
  fault : p.fault = q.fault
  count : p.count = q.count

namespace SameDepths

variable {p q : Progress}

/-- The same line keeps two runs in step, whatever their units are. -/
theorem takeWords (h : SameDepths p q) (a b : List Char) (ws : List (List Char)) :
    SameDepths (p.takeWords a ws) (q.takeWords b ws) := by
  obtain ⟨hdepth, hfault, hcount⟩ := h
  cases hp : p.fault with
  | some line =>
    have hq : q.fault = some line := hfault ▸ hp
    rw [Progress.takeWords_of_fault (by simp [hp]), Progress.takeWords_of_fault (by simp [hq])]
    exact ⟨hdepth, hfault, hcount⟩
  | none =>
    have hq : q.fault = none := hfault ▸ hp
    by_cases hws : join [' '] ws = []
    · rw [Progress.takeWords_blank hp hws, Progress.takeWords_blank hq hws]
      exact ⟨hdepth, hfault, congrArg (· + 1) hcount⟩
    · cases hlevels : levels p.depth (join [' '] ws) with
      | none =>
        rw [Progress.takeWords_refused hp hws hlevels,
          Progress.takeWords_refused hq hws (hdepth ▸ hlevels)]
        exact ⟨hdepth, congrArg (fun n => some (n + 1)) hcount, hcount⟩
      | some level =>
        rw [Progress.takeWords_indented hp hws hlevels,
          Progress.takeWords_indented hq hws (hdepth ▸ hlevels)]
        exact ⟨rfl, hfault, congrArg (· + 1) hcount⟩

theorem foldl (h : SameDepths p q) (a b : List Char) (ls : List (List (List Char))) :
    SameDepths (ls.foldl (Progress.takeWords a) p) (ls.foldl (Progress.takeWords b) q) := by
  induction ls generalizing p q with
  | nil => exact h
  | cons ws ls ih => exact ih (h.takeWords a b ws)

/-- Runs in step answer a text together. -/
theorem exists_result (h : SameDepths p q) {out : String} (hp : p.result = .ok out) :
    ∃ other, q.result = .ok other := by
  obtain ⟨hfault, hdepth, -⟩ := Progress.result_eq_ok_iff.mp hp
  exact ⟨_, Progress.result_eq_ok_iff.mpr ⟨h.fault ▸ hfault, h.depth ▸ hdepth, rfl⟩⟩

end SameDepths

/-- What is accepted does not hang on the unit. -/
theorem exists_reindented {a b : List Char} {source out : String}
    (h : reindented a source = .ok out) : ∃ other, reindented b source = .ok other :=
  (SameDepths.foldl ⟨rfl, rfl, rfl⟩ a b _).exists_result h

/-! ### What is written -/

/-- A unit that is made of spaces and tabs. -/
def IsBlankUnit (unit : List Char) : Prop :=
  ∀ c ∈ unit, c = ' ' ∨ c = '\t'

theorem IsBlankUnit.indent {unit : List Char} (h : IsBlankUnit unit) (depth : Nat) :
    IsBlankUnit (indent unit depth) := by
  intro c hc
  obtain ⟨piece, hpiece, hc⟩ := List.mem_flatten.mp hc
  exact h c (List.eq_of_mem_replicate hpiece ▸ hc)

/-- The lines written so far have the words of the lines taken, in the same order. -/
structure Faithful (taken : List (List (List Char))) (p : Progress) : Prop where
  words : p.fault = none → p.written.reverse.map words = taken
  unbroken : ∀ line ∈ p.written, '\n' ∉ line

namespace Faithful

variable {taken : List (List (List Char))} {p : Progress} {ws : List (List Char)} {unit : List Char}

/-- A line behind blanks has the same words, and no line feed comes in. -/
theorem indented (hunit : IsBlankUnit unit) (depth : Nat) (hws : ∀ w ∈ ws, IsWord w) :
    Text.words (indent unit depth ++ join [' '] ws) = ws ∧
      '\n' ∉ indent unit depth ++ join [' '] ws := by
  constructor
  · rw [words_blanks_append, words_join hws]
    intro c hc
    rcases hunit.indent depth c hc with rfl | rfl <;> rfl
  · intro hmem
    rcases List.mem_append.mp hmem with hmem | hmem
    · rcases hunit.indent depth _ hmem with h | h <;> cases h
    · exact not_mem_join_of_isWord hws (by decide) (by rfl) hmem

/-- Taking a line keeps the account. -/
theorem takeWords (h : Faithful taken p) (hunit : IsBlankUnit unit) (hws : ∀ w ∈ ws, IsWord w) :
    Faithful (taken ++ [ws]) (p.takeWords unit ws) := by
  cases hfault : p.fault with
  | some line =>
    rw [Progress.takeWords_of_fault (by simp [hfault])]
    exact ⟨fun hnone => by simp [hfault] at hnone, h.unbroken⟩
  | none =>
    have htaken := h.words hfault
    by_cases hblank : join [' '] ws = []
    · rw [Progress.takeWords_blank hfault hblank]
      obtain rfl := (join_eq_nil_iff hws).mp hblank
      constructor
      · intro _
        rw [List.reverse_cons, List.map_append, htaken]
        rfl
      · exact List.forall_mem_cons.mpr ⟨by simp, h.unbroken⟩
    · cases hlevels : levels p.depth (join [' '] ws) with
      | none =>
        rw [Progress.takeWords_refused hfault hblank hlevels]
        exact ⟨fun hnone => by simp at hnone, h.unbroken⟩
      | some level =>
        rw [Progress.takeWords_indented hfault hblank hlevels]
        obtain ⟨hwords, hunbroken⟩ := indented hunit level.1 hws
        constructor
        · intro _
          rw [List.reverse_cons, List.map_append, htaken, List.map_singleton, hwords]
        · exact List.forall_mem_cons.mpr ⟨hunbroken, h.unbroken⟩

theorem foldl (h : Faithful taken p) (hunit : IsBlankUnit unit) {ls : List (List (List Char))}
    (hls : ∀ l ∈ ls, ∀ w ∈ l, IsWord w) :
    Faithful (taken ++ ls) (ls.foldl (Progress.takeWords unit) p) := by
  induction ls generalizing taken p with
  | nil => simpa using h
  | cons ws ls ih =>
    have hnext := ih (h.takeWords hunit (hls ws List.mem_cons_self))
      fun l hl => hls l (List.mem_cons_of_mem ws hl)
    simpa using hnext

theorem content_result (h : Faithful taken p) {out : String} (hout : p.result = .ok out) :
    content out.toList = taken.rdropWhile (· == []) := by
  obtain ⟨hfault, -, rfl⟩ := Progress.result_eq_ok_iff.mp hout
  rw [String.toList_ofList, content_append_newline, content_trimEnd, content_join, h.words hfault]
  intro line hline
  exact h.unbroken line (List.mem_reverse.mp hline)

end Faithful

/-- **Indenting keeps the content.** -/
theorem content_of_reindented {unit : List Char} (hunit : IsBlankUnit unit) {source out : String}
    (h : reindented unit source = .ok out) : content out.toList = content source.toList := by
  have hstart : Faithful [] {} := ⟨fun _ => rfl, by simp⟩
  have hwords : ∀ l ∈ content source.toList, ∀ w ∈ l, IsWord w := by
    intro l hl w hw
    exact isWord_of_mem_content hl hw
  have hend := hstart.foldl hunit hwords
  rw [hend.content_result h, List.nil_append]
  exact List.rdropWhile_idempotent _ _

/-- **What was indented once can be indented in any other way, as if it never had been.** -/
theorem reindented_again {a b : List Char} (ha : IsBlankUnit a) {source out : String}
    (h : reindented a source = .ok out) :
    ∃ other, reindented b source = .ok other ∧ reindented b out = .ok other := by
  obtain ⟨other, hother⟩ := exists_reindented (b := b) h
  exact ⟨other, hother, by rw [reindented_congr (content_of_reindented ha h), hother]⟩

end Reindent

/-! ### Requests -/

def PrintOptions.unit (o : PrintOptions) : List Char :=
  if o.useTabs then ['\t'] else List.replicate o.tabWidth.toNat ' '

/-- An engine reads that unit out of the request. -/
theorem PrintOptions.unit_toJson {options : PrintOptions} {request : Request}
    (h : Request.build options = .ok request) : Reindent.unit request.toJson = options.unit := by
  obtain ⟨uri, -, rfl⟩ := Request.exists_of_build h
  let request : Request := ⟨uri, options.tabWidth, ! options.useTabs, true, true, true⟩
  have htabSize : (request.toJson.member? "options").bind (·.member? "tabSize") =
      some (.integer options.tabWidth.toNat) := rfl
  have hspaces : (request.toJson.member? "options").bind (·.member? "insertSpaces") =
      some (.bool (! options.useTabs)) := rfl
  change Reindent.unit request.toJson = options.unit
  rw [Reindent.unit, PrintOptions.unit]
  simp only [htabSize, hspaces]
  cases options.useTabs <;> simp

theorem PrintOptions.isBlankUnit_unit (o : PrintOptions) : Reindent.IsBlankUnit o.unit := by
  intro c hc
  unfold PrintOptions.unit at hc
  split at hc
  · exact .inr (List.mem_singleton.mp hc)
  · exact .inl (List.eq_of_mem_replicate hc)

/-- Under a request, a text is indented by the unit that its options ask for. -/
theorem Reindent.format_of_build {options : PrintOptions} {request : Request}
    (h : Request.build options = .ok request) (source : String) :
    format source request.compact = reindented options.unit source := by
  have hread : Json.read request.compact = some request.toJson := Json.read_compact request.toJson
  rw [format_eq hread, PrintOptions.unit_toJson h]

/-! ### A printer that indents by braces -/

/-- What a printer answers a text whose engine indents by braces. -/
def printIndented (options : PrintOptions) (s : Session)
    (text : String) : Except PrintFault String :=
  ((Document.mk text).print (.ofFunction Reindent.format) options s).1

section

variable {options : PrintOptions} {request : Request} {text out : String} {s : Session}

/-- Options that make a request indent by their unit. -/
theorem printIndented_of_build (h : Request.build options = .ok request) (s : Session)
    (text : String) :
    printIndented options s text = (Reindent.reindented options.unit text).mapError .engine := by
  rw [printIndented, Document.print_of_build h, ← Reindent.format_of_build h]
  dsimp only
  rw [(Engine.computes_ofFunction Reindent.format text request.compact s).1]

/-- Without a request, no engine is at fault. -/
theorem Request.build_ne_engine (options : PrintOptions) (fault : EngineFault) :
    Request.build options ≠ .error (.engine fault) := by
  unfold Request.build documentUri
  intro h
  split at h
  · rename_i hfault
    cases h
    split at hfault
    · cases hfault
    · split at hfault
      · cases hfault
      · split at hfault <;> cases hfault
  · cases h

/-- A text that the engine refuses is one that the unit cannot be put to. -/
theorem printIndented_eq_engine_iff {fault : EngineFault} :
    printIndented options s text = .error (.engine fault) ↔
      (∃ request, Request.build options = .ok request) ∧
      Reindent.reindented options.unit text = .error fault := by
  cases hbuild : Request.build options with
  | error cause =>
    rw [printIndented, Document.print_of_build_error hbuild]
    constructor
    · rintro ⟨⟩
      exact absurd hbuild (Request.build_ne_engine options fault)
    · rintro ⟨⟨_, ⟨⟩⟩, -⟩
  | ok request =>
    rw [printIndented_of_build hbuild]
    cases Reindent.reindented options.unit text <;> simp [Except.mapError]

/-- Under options that make a request, a text is refused by the engine or not at all. -/
theorem exists_engine_of_printIndented {cause : PrintFault}
    (hbuild : Request.build options = .ok request)
    (h : printIndented options s text = .error cause) :
    ∃ fault, cause = .engine fault ∧ Reindent.reindented options.unit text = .error fault := by
  rw [printIndented_of_build hbuild] at h
  cases hanswer : Reindent.reindented options.unit text with
  | error fault =>
    rw [hanswer] at h
    cases h
    exact ⟨fault, rfl, rfl⟩
  | ok out =>
    rw [hanswer] at h
    cases h

/-- A text that is answered is one that the unit can be put to, under options that make a request.
-/
theorem printIndented_eq_ok_iff :
    printIndented options s text = .ok out ↔
      (∃ request, Request.build options = .ok request) ∧
      Reindent.reindented options.unit text = .ok out := by
  cases hbuild : Request.build options with
  | error cause =>
    rw [printIndented, Document.print_of_build_error hbuild]
    simp
  | ok request =>
    rw [printIndented_of_build hbuild]
    cases Reindent.reindented options.unit text <;> simp [Except.mapError]

end

/-! ### A formatter that indents by braces -/

def FormatOptions.unit (o : FormatOptions) : List Char :=
  if o.useTabs then ['\t'] else List.replicate o.tabWidth.toNat ' '

/-- A printer is told to use that unit, whatever the file is. -/
theorem FormatOptions.unit_printOptions (o : FormatOptions) (directory p : Path) :
    (o.printOptions directory p).unit = o.unit := rfl

theorem FormatOptions.isBlankUnit_unit (o : FormatOptions) : Reindent.IsBlankUnit o.unit :=
  PrintOptions.isBlankUnit_unit ⟨none, o.tabWidth, o.useTabs⟩

/-- The formatter whose engine indents by braces. -/
def indenter (o : FormatOptions) : Formatter :=
  ⟨.ofFunction Reindent.format, o⟩

namespace Formatter

variable {o : FormatOptions} {text out : String} {p : Path} {s : Session}

/-- A file that a parser takes is indented by the unit, whatever the session. -/
theorem formatText_indenter {parser : Parser} (hp : p.bytes ≠ []) (hroute : o.route p = .ok parser)
    (text : String) (s : Session) :
    ((indenter o).formatText text p s).1 =
      (Reindent.reindented o.unit text).mapError fun fault => .print p (.engine fault) := by
  obtain ⟨request, hbuild, -⟩ := o.exists_request s.directory.isAbsolute_path hp
  have hanswer := (formatText_computes (f := indenter o) (Engine.computes_ofFunction _) text p s).1
  rw [hanswer, FormatOptions.answer, show (indenter o).options = o from rfl, hroute]
  simp only [hbuild]
  rw [Reindent.format_of_build hbuild, FormatOptions.unit_printOptions]

/-- A text that is answered is one that the unit can be put to, of a file that a parser takes. -/
theorem exists_of_formatText_indenter (h : ((indenter o).formatText text p s).1 = .ok out) :
    p.bytes ≠ [] ∧ (∃ parser, o.route p = .ok parser) ∧
      Reindent.reindented o.unit text = .ok out := by
  rw [(formatText_computes (Engine.computes_ofFunction _) text p s).1,
    FormatOptions.answer_eq_ok_iff] at h
  obtain ⟨parser, request, hroute, hbuild, hformat⟩ := h
  rw [Reindent.format_of_build hbuild, FormatOptions.unit_printOptions] at hformat
  exact ⟨FormatOptions.ne_nil_of_build hbuild, ⟨parser, hroute⟩, hformat⟩

/-- **Re-formatting depends only on the last options.** What a formatter that indents by braces
answers a text, `u`, can be given to one that asks for another unit: that one answers `u` as it
answers the text that `u` came from. And nothing is lost on the way: what it answers, the first one
turns into `u` again. -/
theorem formatText_indenter_again (parser : Option String) (width width' : UInt32)
    (tabs tabs' : Bool) (p : Path) (t u : String) (s₁ s₂ s₃ s₄ : Session)
    (h : ((indenter ⟨width, tabs, parser⟩).formatText t p s₁).1 = .ok u) :
    ∃ v, ((indenter ⟨width', tabs', parser⟩).formatText t p s₂).1 = .ok v ∧
      ((indenter ⟨width', tabs', parser⟩).formatText u p s₃).1 = .ok v ∧
      ((indenter ⟨width, tabs, parser⟩).formatText v p s₄).1 = .ok u := by
  obtain ⟨hp, ⟨taken, hroute⟩, hfirst⟩ := exists_of_formatText_indenter h
  have hroute' : FormatOptions.route ⟨width', tabs', parser⟩ p = .ok taken := hroute
  obtain ⟨v, ht, hu⟩ := Reindent.reindented_again (b := FormatOptions.unit ⟨width', tabs', parser⟩)
    (FormatOptions.isBlankUnit_unit _) hfirst
  obtain ⟨back, ht', hv⟩ :=
    Reindent.reindented_again (b := FormatOptions.unit ⟨width, tabs, parser⟩)
      (FormatOptions.isBlankUnit_unit _) ht
  obtain rfl : u = back := Except.ok.inj (hfirst.symm.trans ht')
  refine ⟨v, ?_, ?_, ?_⟩
  · rw [formatText_indenter hp hroute', ht]
    rfl
  · rw [formatText_indenter hp hroute', hu]
    rfl
  · rw [formatText_indenter hp hroute, hv]
    rfl

/-- A model that is indented by two spaces can be indented by tabs instead, and back. -/
theorem formatText_indenter_again_model :
    ((indenter ⟨2, false, none⟩).formatText "model A \x7b\n\tid  Int\n\x7d\n\n"
        (Path.ofString "a.prisma") { files := .empty }).1 = .ok "model A \x7b\n  id Int\n\x7d\n" ∧
      ∃ v, ((indenter ⟨8, true, none⟩).formatText "model A \x7b\n  id Int\n\x7d\n"
          (Path.ofString "a.prisma") { files := .empty }).1 = .ok v ∧
        ((indenter ⟨2, false, none⟩).formatText v (Path.ofString "a.prisma")
          { files := .empty }).1 =
          .ok "model A \x7b\n  id Int\n\x7d\n" := by
  have h : ((indenter ⟨2, false, none⟩).formatText "model A \x7b\n\tid  Int\n\x7d\n\n"
      (Path.ofString "a.prisma") { files := .empty }).1 = .ok "model A \x7b\n  id Int\n\x7d\n" := by
    rw [formatText_indenter (by decide) rfl]
    rfl
  obtain ⟨v, -, hu, hv⟩ :=
    formatText_indenter_again none 2 8 false true (Path.ofString "a.prisma") _ _
      { files := .empty } { files := .empty } { files := .empty } { files := .empty } h
  exact ⟨h, v, hu, hv⟩

end Formatter

end SchemaFormat
