import SchemaFormat.Proofs.Following
import SchemaFormat.Proofs.Run
import SchemaFormat.Proofs.SafeText
import SchemaFormat.Shell.Launch

/-!
Requests as arguments of programs.

A program is not started if a zero byte is in its name or in an argument, and for nothing else is it
reported that there is one (`Shell.launch_zero_iff`). A request is sent in graphic characters, so no
zero byte is in it: where one is reported, it was there before the request was put behind the
arguments (`Request.safe_argument`).
-/

namespace SchemaFormat

namespace Shell

open FileSystem (PathFault)

variable {files : FileSystem} {directory : Location} {fault : SystemFault}

/-! ### Starting a program -/

/-- Why a program is not found. -/
inductive SearchFault : SystemFault → Prop where
  | permissionDenied : SearchFault .permissionDenied
  | path {fault : SystemFault} : PathFault fault → SearchFault fault

theorem searchFault_of_programAt {p : Path} (h : programAt files directory p = .error fault) :
    SearchFault fault := by
  unfold programAt at h
  split at h
  · cases h
  · cases h
    exact .permissionDenied
  · cases h
    exact .path .notFound
  · next cause hlookup =>
    cases h
    exact .path (FileSystem.pathFault_of_lookup hlookup)

theorem searchFault_of_searchProgram {name : Path} {refused : Bool} {places : List Bytes}
    (h : searchProgram files directory name refused places = .error fault) : SearchFault fault := by
  induction places generalizing refused with
  | nil =>
    cases refused with
    | false =>
      cases h
      exact .path .notFound
    | true =>
      cases h
      exact .permissionDenied
  | cons place rest ih =>
    rw [searchProgram] at h
    split at h
    · cases h
    · exact ih h
    · exact ih h
    · exact ih h
    · next hprogram =>
      cases h
      exact searchFault_of_programAt hprogram

theorem searchFault_of_findProgram {searchPath name : Bytes}
    (h : findProgram files directory searchPath name = .error fault) : SearchFault fault := by
  have hlocate : locateProgram files directory searchPath name = .error fault := by
    unfold findProgram at h
    cases hlocate : locateProgram files directory searchPath name with
    | ok found =>
      rw [hlocate] at h
      cases h
    | error cause =>
      rw [hlocate] at h
      cases h
      rfl
  unfold locateProgram at hlocate
  split at hlocate
  · cases hlocate
    exact .path .notFound
  split at hlocate
  · cases hprogram : programAt files directory ⟨name⟩ with
    | ok tool =>
      rw [hprogram] at hlocate
      cases hlocate
    | error cause =>
      rw [hprogram] at hlocate
      cases hlocate
      exact searchFault_of_programAt hprogram
  · exact searchFault_of_searchProgram hlocate

/-- **A zero byte is reported where there is one**, in the program or in an argument. -/
theorem launch_zero_iff (i : Invocation) (s : Session) :
    (launch i s).1 = .notStarted .zeroInArgument ↔
      0 ∈ i.program ∨ ∃ argument ∈ i.arguments, 0 ∈ argument := by
  have hzero : (i.program.contains 0 = true ∨ i.arguments.any (·.contains 0) = true) ↔
      0 ∈ i.program ∨ ∃ argument ∈ i.arguments, 0 ∈ argument := by
    simp
  rw [← hzero]
  unfold launch
  split
  · next h => exact ⟨fun _ => h, fun _ => rfl⟩
  · next h =>
    refine ⟨fun hfault => ?_, fun hsome => absurd hsome h⟩
    split at hfault
    · next cause hfind =>
      obtain rfl := Outcome.notStarted.inj hfault
      cases searchFault_of_findProgram hfind with
      | path hpath => cases hpath
    · split at hfault
      · cases hfault
      · cases hfault

end Shell

/-! ### Requests -/

namespace Command

variable {c : Command}

theorem engine_apply (c : Command) (launch : Launcher) (source request : String) (s : Session) :
    (c.engine launch source request s).1 =
      c.answer (launch (c.invocation source request)
        (s.logged (.spawning c.name source.utf8ByteSize request))).1 :=
  rfl

/-- A program that did not start is reported as such, and nothing else is. -/
theorem answer_eq_spawn_iff {out : Outcome} {fault : SystemFault} :
    c.answer out = .error (.spawn c.name fault) ↔ out = .notStarted fault := by
  cases out with
  | notStarted cause => simp [answer]
  | finished unfed output errorOutput status =>
    simp only [answer, reduceCtorEq, iff_false]
    intro h
    split at h
    · split at h
      · cases h
      · unfold Engine.textOf at h
        split at h
        · cases h
        · cases h
    · cases h

end Command

theorem zero_notMem_of_graphic {text : List Char} (h : Uri.GraphicText text) :
    0 ∉ Utf8.encode text := by
  intro hmem
  obtain ⟨c, hc, hbyte⟩ := List.mem_flatMap.mp hmem
  obtain ⟨hlow, hhigh⟩ := h c hc
  rw [Utf8.encodeChar, if_pos (by omega), List.mem_singleton] at hbyte
  have hzero := congrArg UInt8.toNat hbyte
  rw [Utf8.toNat_ofNat_byte (by omega)] at hzero
  exact absurd hzero.symm (by simp; omega)

/-- **A request is a safe argument.** Whatever path a request was asked for: its locator begins with
the scheme and is graphic. So the request is sent in graphic characters, of which backslashes and
double quotes alone are escaped, and holds no zero byte. And a program that is given the request is
reported to hold a zero byte, in itself or in an argument, exactly if that is in its own name or in
its own arguments. -/
theorem Request.safe_argument {options : PrintOptions} {request : Request}
    (h : build options = .ok request) :
    "file://".toList <+: request.uri.toList ∧ Uri.GraphicText request.uri.toList ∧
      Uri.GraphicText request.compact.toList ∧ Json.SafeText request.compact.toList ∧
      0 ∉ Bytes.ofString request.compact ∧
      ∀ (c : Command) (source : String) (s : Session),
        (c.engine Shell.launch source request.compact s).1 =
          .error (.spawn c.name .zeroInArgument) ↔
          0 ∈ c.program ∨ ∃ argument ∈ c.arguments, 0 ∈ argument := by
  obtain ⟨huri, hscheme⟩ := graphic_uri h
  have hsafe := safe_compact huri
  have hzero : 0 ∉ Bytes.ofString request.compact := zero_notMem_of_graphic hsafe.graphic
  refine ⟨hscheme, huri, hsafe.graphic, hsafe, hzero, fun c source s => ?_⟩
  rw [Command.engine_apply, Command.answer_eq_spawn_iff, Shell.launch_zero_iff]
  dsimp only [Command.invocation]
  constructor
  · rintro (hprogram | ⟨argument, hargument, hmem⟩)
    · exact .inl hprogram
    · rcases List.mem_append.mp hargument with hown | hrequest
      · exact .inr ⟨argument, hown, hmem⟩
      · rw [List.mem_singleton.mp hrequest] at hmem
        exact absurd hmem hzero
  · rintro (hprogram | ⟨argument, hargument, hmem⟩)
    · exact .inl hprogram
    · exact .inr ⟨argument, List.mem_append_left _ hargument, hmem⟩

/-- A path that spills into the host and the query, with a zero byte and quotes. -/
theorem Request.safe_argument_addressed :
    build { path := some "[::1]/a\x00 \"b?c\\d\"" } =
        .ok ⟨"file://[::1]/a%00%20%22b?c\\d%22", 2, true, true, true, true⟩ ∧
      Json.SafeText
        (compact ⟨"file://[::1]/a%00%20%22b?c\\d%22", 2, true, true, true, true⟩).toList ∧
      ∀ (source : String) (s : Session),
        (Command.engine Shell.launch ⟨Bytes.ofString "cat", []⟩ source
            (compact ⟨"file://[::1]/a%00%20%22b?c\\d%22", 2, true, true, true, true⟩) s).1 ≠
          .error (.spawn "cat" .zeroInArgument) := by
  have hbuild : build { path := some "[::1]/a\x00 \"b?c\\d\"" } =
      .ok ⟨"file://[::1]/a%00%20%22b?c\\d%22", 2, true, true, true, true⟩ := by decide +kernel
  obtain ⟨-, -, -, hsafe, -, hspawn⟩ := safe_argument hbuild
  refine ⟨hbuild, hsafe, fun source s h => ?_⟩
  rcases (hspawn ⟨Bytes.ofString "cat", []⟩ source s).mp h with hprogram | ⟨argument, hargument, -⟩
  · exact absurd hprogram (by decide)
  · cases hargument

end SchemaFormat
