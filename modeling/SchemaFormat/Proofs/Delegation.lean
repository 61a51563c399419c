import SchemaFormat.Formatter.Basic
import SchemaFormat.Proofs.DocumentUri
import SchemaFormat.Proofs.Run

/-!
What formatting a text asks of the engine.

A file that no parser takes is refused before the engine is asked. For any other file the engine is
asked once, and its answer is the answer, with the file's path put on a fault. Nothing else can go
wrong on the way: a host spells every path but the empty one from the root, and such a spelling
always makes a locator (`exists_request`).
-/

namespace SchemaFormat

/-- A request is its options and a locator. -/
theorem Request.exists_of_build {options : PrintOptions} {request : Request}
    (h : Request.build options = .ok request) :
    ∃ uri, documentUri options.path = .ok uri ∧
      request = ⟨uri, options.tabWidth, ! options.useTabs, true, true, true⟩ := by
  unfold Request.build at h
  cases huri : documentUri options.path with
  | error fault =>
    rw [huri] at h
    cases h
  | ok uri =>
    rw [huri] at h
    cases h
    exact ⟨uri, rfl, rfl⟩

theorem FormatOptions.ne_nil_of_build {o : FormatOptions} {directory p : Path} {request : Request}
    (h : Request.build (o.printOptions directory p) = .ok request) : p.bytes ≠ [] := by
  obtain ⟨bytes⟩ := p
  rintro rfl
  cases h

/-- Every path but the empty one has a request, and its locator names no host. -/
theorem FormatOptions.exists_request (o : FormatOptions) {directory p : Path}
    (hd : directory.isAbsolute = true) (hp : p.bytes ≠ []) :
    ∃ request, Request.build (o.printOptions directory p) = .ok request ∧
      "file:///".toList <+: request.uri.toList := by
  obtain ⟨q, habsolute, hq⟩ := Path.absolute?_isAbsolute hd hp
  obtain ⟨rest, hrest⟩ := Path.display_of_isAbsolute hq
  obtain ⟨uri, huri, hslashes⟩ := documentUri_of_slash hrest
  have hbuild : Request.build (o.printOptions directory p) =
      .ok ⟨uri, o.tabWidth, ! o.useTabs, true, true, true⟩ := by
    rw [Request.build, FormatOptions.printOptions, habsolute, Option.getD_some, huri]
  exact ⟨_, hbuild, hslashes⟩

@[simp] theorem Parser.read_text (parser : Parser) (text : String) :
    (parser.read text).text = text := rfl

@[simp] theorem Parser.read_start (parser : Parser) (text : String) :
    (parser.read text).start = 0 := rfl

@[simp] theorem Parser.read_stop (parser : Parser) (text : String) :
    (parser.read text).stop = text.utf8ByteSize := rfl

/-- A file is refused for its parser, never for its locator. -/
theorem FormatOptions.route_ne_print (o : FormatOptions) (p q : Path) (cause : PrintFault) :
    o.route p ≠ .error (.print q cause) := by
  unfold FormatOptions.route
  intro h
  split at h
  · split at h <;> cases h
  · split at h <;> cases h

theorem Document.print_of_build {d : Document} {engine : Engine} {options : PrintOptions}
    {request : Request} (h : Request.build options = .ok request) (s : Session) :
    d.print engine options s =
      ((engine d.text request.compact s).1.mapError .engine,
        (engine d.text request.compact s).2) := by
  unfold Document.print
  rw [h]
  simp only [Run.bind_apply]
  cases (engine d.text request.compact s).1 <;> rfl

theorem Document.print_of_build_error {d : Document} {engine : Engine} {options : PrintOptions}
    {cause : PrintFault} (h : Request.build options = .error cause) (s : Session) :
    d.print engine options s = (.error cause, s) := by
  unfold Document.print
  rw [h]
  rfl

namespace Formatter

variable {f : Formatter} {s : Session} {text : String} {p : Path}

/-- A file that no parser takes is refused, and nothing happens. -/
theorem formatText_of_route_error {fault : FileFault} (h : f.options.route p = .error fault) :
    f.formatText text p s = (.error fault, s) := by
  unfold formatText
  rw [h]
  rfl

/-- The session in which the engine is asked: it is logged that the document goes to its printer. -/
def announced (s : Session) (parser : Parser) (text : String) (p : Path) : Session :=
  s.logged (.printing p parser.format 0 text.utf8ByteSize)

/-- A file that a parser takes and that has no request is refused, and the engine is not asked. -/
theorem formatText_of_request_error {parser : Parser} {cause : PrintFault}
    (hroute : f.options.route p = .ok parser)
    (hbuild : Request.build (f.options.printOptions s.directory.path p) = .error cause) :
    f.formatText text p s = (.error (.print p cause), announced s parser text p) := by
  have hprint : (parser.read text).print f.engine _ (announced s parser text p) = _ :=
    Document.print_of_build_error hbuild _
  unfold formatText
  rw [hroute]
  simp only [Run.bind_apply, Run.log_apply, Run.get_apply, Parser.read_start, Parser.read_stop,
    Parser.printer_eq, Printer.print]
  rw [← announced, show (announced s parser text p).directory = s.directory from rfl, hprint]
  rfl

/-- A file that a parser takes and that has a request is what the engine makes of it. -/
theorem formatText_of_request {parser : Parser} {request : Request}
    (hroute : f.options.route p = .ok parser)
    (hbuild : Request.build (f.options.printOptions s.directory.path p) = .ok request) :
    f.formatText text p s =
      ((f.engine text request.compact (announced s parser text p)).1.mapError
          fun fault => .print p (.engine fault),
        (f.engine text request.compact (announced s parser text p)).2) := by
  have hprint : (parser.read text).print f.engine _ (announced s parser text p) = _ :=
    Document.print_of_build hbuild _
  unfold formatText
  rw [hroute]
  simp only [Run.bind_apply, Run.log_apply, Run.get_apply, Parser.read_start, Parser.read_stop,
    Parser.printer_eq, Printer.print]
  rw [← announced, show (announced s parser text p).directory = s.directory from rfl, hprint,
    Parser.read_text]
  cases (f.engine text request.compact (announced s parser text p)).1 <;> rfl

/-- What is asked of an engine that is a function is noted, and nothing else is. -/
theorem calls_formatText_of_request {e : String → String → Except EngineFault String}
    {parser : Parser} {request : Request} (he : f.engine = .ofFunction e)
    (hroute : f.options.route p = .ok parser)
    (hbuild : Request.build (f.options.printOptions s.directory.path p) = .ok request) :
    (f.formatText text p s).2.calls = ⟨text, request.compact⟩ :: s.calls := by
  rw [formatText_of_request hroute hbuild, he]
  rfl

/-- **Formatting hands on what the engine answers, and a path is never at fault.** For every path
but the empty one, whatever bytes it holds and wherever relative paths start: a file that no parser
takes is refused and the session stays as it is. Any other file has a request, whose locator names
no host; the engine is asked once, for the text as it is and under that request, its text is the
answer, and so is its fault, with the path put on it. -/
theorem formatText_delegates (f : Formatter) (s : Session) (text : String) (p : Path)
    (hp : p.bytes ≠ []) :
    (∀ fault, f.options.route p = .error fault → f.formatText text p s = (.error fault, s)) ∧
    (∀ parser, f.options.route p = .ok parser →
      ∃ request, Request.build (f.options.printOptions s.directory.path p) = .ok request ∧
        "file:///".toList <+: request.uri.toList ∧
        f.formatText text p s =
          ((f.engine text request.compact (announced s parser text p)).1.mapError
              fun fault => .print p (.engine fault),
            (f.engine text request.compact (announced s parser text p)).2) ∧
        ∀ e, f.engine = .ofFunction e →
          (f.formatText text p s).2.calls = ⟨text, request.compact⟩ :: s.calls) ∧
    (∀ q, (f.formatText text p s).1 ≠ .error (.print q .noPath)) ∧
    ∀ q path cause, (f.formatText text p s).1 ≠ .error (.print q (.badPath path cause)) := by
  obtain ⟨request, hbuild, hslashes⟩ :=
    f.options.exists_request s.directory.isAbsolute_path hp
  have hengine (q : Path) (cause : PrintFault)
      (h : (f.formatText text p s).1 = .error (.print q cause)) :
        ∃ fault, cause = .engine fault := by
    cases hroute : f.options.route p with
    | error fault =>
      rw [formatText_of_route_error hroute] at h
      cases h
      exact absurd hroute (f.options.route_ne_print p q cause)
    | ok parser =>
      rw [formatText_of_request hroute hbuild] at h
      cases hanswer : (f.engine text request.compact (announced s parser text p)).1 with
      | ok out =>
        rw [hanswer] at h
        cases h
      | error fault =>
        rw [hanswer] at h
        cases h
        exact ⟨fault, rfl⟩
  refine ⟨fun fault => formatText_of_route_error, ?_, ?_, ?_⟩
  · intro parser hroute
    exact ⟨request, hbuild, hslashes, formatText_of_request hroute hbuild,
      fun e he => calls_formatText_of_request he hroute hbuild⟩
  · intro q h
    obtain ⟨fault, hfault⟩ := hengine q .noPath h
    cases hfault
  · intro q path cause h
    obtain ⟨fault, hfault⟩ := hengine q (.badPath path cause) h
    cases hfault

/-- A file with a blank name, sent to a parser by name, has a locator all the same. -/
theorem formatText_delegates_blank_name :
    (Path.ofString " ").bytes ≠ [] ∧
      ∀ q, (Formatter.formatText ⟨.ofFunction fun source _ => .error (.rejected source),
          { parser := some "prisma" }⟩ "model" (Path.ofString " ")
          { files := .empty, directory := [Bytes.ofString "work"] }).1 ≠
            .error (.print q .noPath) :=
  ⟨by decide, (formatText_delegates _ _ _ _ (by decide)).2.2.1⟩

end Formatter

end SchemaFormat
