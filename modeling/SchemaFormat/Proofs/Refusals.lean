import SchemaFormat.Proofs.Nesting

/-!
Which texts are refused, and for what.

An engine that indents by braces refuses a text for its braces alone, at the first line that closes
a block too many or else at the end, and names that line. So it does under every request, and a
formatter hands the fault on with the file's path put on it (`format_judged`). The differences that
decide this are never cut off at zero (`exact_of_indentLine`).
-/

namespace SchemaFormat.Reindent

open Text

/-- A line that is indented stands no deeper than it may, and closes no more blocks than there are.
-/
theorem exact_of_indentLine {unit : List Char} {depth next : Nat} {joined text : List Char}
    (h : indentLine unit depth joined = some (text, next)) :
    leading joined ≤ depth ∧
    closes joined - leading joined ≤ depth - leading joined + opens joined := by
  rw [indentLine_eq, levels_eq] at h
  split_ifs at h with hstart hend
  · cases h
  · cases h
  · exact ⟨Nat.not_lt.mp hstart, Nat.not_lt.mp hend⟩

/-- **Which texts are refused hangs on their braces alone.** Take the lines of a text, and for each
of them the depth that the braces before it come to. The first line that begins with a closing brace
at no depth, or that ends below none, is what the text is refused for, by its number; without such a
line it is refused if its braces do not balance, and accepted if they do. So it is under the request
for any options, and so no options make a difference. A formatter that indents by braces refuses the
text of a file with the same fault, as one of printing that file. And no difference in numbers is
cut off at zero on the way: not the closing braces of a line without the one it begins with, and,
for a line that is indented, neither its depth without that one nor the depth behind it. -/
theorem format_judged (source : String) :
    (∀ options request, Request.build options = .ok request →
      (∀ fault, format source request.compact = .error fault ↔ Judged source.toList (some fault)) ∧
        ((∃ out, format source request.compact = .ok out) ↔ Judged source.toList none)) ∧
    (∀ options options' request request', Request.build options = .ok request →
      Request.build options' = .ok request' → ∀ fault,
        format source request.compact = .error fault ↔
          format source request'.compact = .error fault) ∧
    (∀ (o : FormatOptions) (p : Path) (parser : Parser) (s : Session),
      p.bytes ≠ [] → o.route p = .ok parser →
      (∀ fault, Judged source.toList (some fault) →
        ((indenter o).formatText source p s).1 = .error (.print p (.engine fault))) ∧
      (Judged source.toList none → ∃ out, ((indenter o).formatText source p s).1 = .ok out)) ∧
    ∀ line ∈ lines source.toList,
      leading (join [' '] (words line)) ≤ closes (join [' '] (words line)) ∧
      ∀ unit depth text next, indentLine unit depth (join [' '] (words line)) = some (text, next) →
        leading (join [' '] (words line)) ≤ depth ∧
        closes (join [' '] (words line)) - leading (join [' '] (words line)) ≤
          depth - leading (join [' '] (words line)) + opens (join [' '] (words line)) := by
  have hrefused (options : PrintOptions) (request : Request)
      (h : Request.build options = .ok request) (fault : EngineFault) :
      format source request.compact = .error fault ↔ Judged source.toList (some fault) := by
    rw [format_of_build h]
    exact reindented_eq_error_iff options.isBlankUnit_unit
  refine ⟨fun options request h => ⟨hrefused options request h, ?_⟩, ?_, ?_, ?_⟩
  · rw [format_of_build h]
    constructor
    · rintro ⟨out, hout⟩
      exact ((reindented_eq_ok_iff options.isBlankUnit_unit).mp hout).1
    · intro hjudged
      exact ⟨_, (reindented_eq_ok_iff options.isBlankUnit_unit).mpr ⟨hjudged, rfl⟩⟩
  · intro options options' request request' h h' fault
    rw [hrefused options request h, hrefused options' request' h']
  · intro o p parser s hp hroute
    rw [Formatter.formatText_indenter hp hroute]
    constructor
    · intro fault hjudged
      rw [(reindented_eq_error_iff o.isBlankUnit_unit).mpr hjudged]
      rfl
    · intro hjudged
      rw [(reindented_eq_ok_iff o.isBlankUnit_unit).mpr ⟨hjudged, rfl⟩]
      exact ⟨_, rfl⟩
  · intro line _
    exact ⟨leading_le_closes _, fun unit depth text next => exact_of_indentLine⟩

/-- A second line may close and open blocks in any order; the third one closes a block too many. -/
theorem format_judged_third_line :
    (∃ request,
      Request.build (FormatOptions.printOptions {} (Location.path []) (Path.ofString "a.prisma")) =
        .ok request ∧
      format "model A \x7b\n\t\x7d \x7b \x7d\n\x7d\n" request.compact =
        .error (.rejected "unexpected \x60\x7d\x60 on line 3")) ∧
    ((indenter {}).formatText "model A \x7b\n\t\x7d \x7b \x7d\n\x7d\n" (Path.ofString "a.prisma")
        { files := .empty }).1 =
      .error (.print (Path.ofString "a.prisma")
        (.engine (.rejected "unexpected \x60\x7d\x60 on line 3"))) := by
  have hfirst :
      IsLeast {i | OverclosesAt (lines "model A \x7b\n\t\x7d \x7b \x7d\n\x7d\n".toList) i} 2 := by
    constructor
    · change OverclosesAt _ 2
      decide
    · intro i hi
      match i with
      | 0 => exact absurd hi (by change ¬ OverclosesAt _ 0; decide)
      | 1 => exact absurd hi (by change ¬ OverclosesAt _ 1; decide)
      | i + 2 => exact Nat.le_add_left 2 i
  have hnamed : (Path.ofString "a.prisma").bytes ≠ [] := by decide
  obtain ⟨request, hbuild, -⟩ :=
    FormatOptions.exists_request {} (Location.isAbsolute_path []) hnamed
  constructor
  · exact ⟨request, hbuild, ((format_judged _).1 _ request hbuild).1 _ |>.mpr (.overclosed hfirst)⟩
  · exact ((format_judged _).2.2.1 {} _ .prisma _ hnamed rfl).1 _ (.overclosed hfirst)

end SchemaFormat.Reindent
