import SchemaFormat.Formatter.Basic
import SchemaFormat.Proofs.LiteralLocator

/-!
Locators that decode to their paths.

A path may hold blanks, quotes, braces, controls and any characters beyond ASCII: as long as it
holds none of the few that mean something in a locator, its locator decodes to the bytes of the path
(`FormatOptions.uri_decodes`).
-/

namespace SchemaFormat

namespace Uri

variable {text : List Char}

/-- What is in an escaped text was left as it is, or is a sign of an escape. -/
theorem mem_percentEncode {escaped : Char → Bool} {c : Char} (h : c ∈ percentEncode escaped text) :
    escaped c = false ∨ c = '%' ∨ ∃ d < 16, c = upperHexDigit d := by
  obtain ⟨d, -, hd⟩ := List.mem_flatMap.mp h
  unfold percentChar at hd
  split at hd
  · obtain ⟨b, -, hb⟩ := List.mem_flatMap.mp hd
    have hbyte : b.toNat < 256 := b.toNat_lt
    rcases List.mem_cons.mp hb with rfl | hb
    · exact .inr (.inl rfl)
    rcases List.mem_cons.mp hb with rfl | hb
    · exact .inr (.inr ⟨_, by omega, rfl⟩)
    · obtain rfl := List.mem_singleton.mp hb
      exact .inr (.inr ⟨_, by omega, rfl⟩)
  · next hplain =>
    obtain rfl := List.mem_singleton.mp hd
    exact .inl (Bool.eq_false_iff.mpr hplain)

/-- A mark that is escaped is not in an escaped text. -/
theorem mark_notMem_percentEncode {escaped : Char → Bool} {c : Char} (hc : escaped c = true)
    (hpercent : c ≠ '%') (hdigit : ∀ d < 16, c ≠ upperHexDigit d) :
    c ∉ percentEncode escaped text := by
  intro hmem
  rcases mem_percentEncode hmem with hplain | rfl | ⟨d, hd, rfl⟩
  · rw [hc] at hplain
    cases hplain
  · exact hpercent rfl
  · exact hdigit d hd rfl

/-- A text without the marks of a query and a fragment is a path. -/
theorem parts_of_unmarked (hquery : '?' ∉ text) (hfragment : '#' ∉ text) :
    pathOf text = text ∧ queryOf text = [] ∧ fragmentOf text = [] := by
  have hno {mark c : Char} (hmark : mark ∉ text) (hc : c ∈ text) : (c != mark) = true := by
    have hne : c ≠ mark := fun heq => hmark (heq ▸ hc)
    simpa using hne
  have hfront : front text = text := List.takeWhile_eq_self_iff.mpr fun c hc => hno hfragment hc
  refine ⟨?_, ?_, List.dropWhile_eq_nil_iff.mpr fun c hc => hno hfragment hc⟩
  · rw [pathOf, hfront]
    exact List.takeWhile_eq_self_iff.mpr fun c hc => hno hquery hc
  · rw [queryOf, hfront]
    exact List.dropWhile_eq_nil_iff.mpr fun c hc => hno hquery hc

/-- A text is literal if it holds no mark that means something in a locator, and no dots between two
slashes. -/
theorem literal_of_unmarked (hmarks : ∀ c ∈ ['?', '#', '\\', '%', '\t', '\n', '\r'], c ∉ text)
    (hdot : ['.'] ∉ Text.split (· == '/') text) (hdots : ['.', '.'] ∉ Text.split (· == '/') text) :
    Literal text := by
  obtain ⟨hpath, -⟩ := parts_of_unmarked (hmarks '?' (by decide)) (hmarks '#' (by decide))
  have hspelled {part dots : List Char} (hpart : part ∈ Text.split (· == '/') text)
      (hdecode : percentDecode part = Utf8.encode dots) : part = dots := by
    have hpercent : '%' ∉ part :=
      fun hmem => hmarks '%' (by decide) (Text.subset_of_mem_split hpart hmem)
    rw [percentDecode_of_notMem hpercent] at hdecode
    rw [← Utf8.decodeLossy_encode part, hdecode, Utf8.decodeLossy_encode]
  constructor
  · intro c hc
    rw [Bool.eq_false_iff]
    intro hignored
    simp only [isIgnored, Bool.or_eq_true, beq_iff_eq] at hignored
    rcases hignored with (rfl | rfl) | rfl
    · exact hmarks '\t' (by decide) hc
    · exact hmarks '\n' (by decide) hc
    · exact hmarks '\r' (by decide) hc
  · rw [hpath]
    exact hmarks '\\' (by decide)
  · rw [hpath]
    intro part hpart
    constructor
    · intro hdecode
      exact hdot (hspelled hpart hdecode ▸ hpart)
    · intro hdecode
      exact hdots (hspelled hpart hdecode ▸ hpart)

end Uri

namespace FormatOptions

/-- No part of what a printer is told about a file is one dot, if none is where relative paths
start. -/
theorem dot_notMem_printOptions {o : FormatOptions} {directory r : Path} {p : String}
    (hdirectory : [Path.dot] ∉ directory.parts) (hp : (o.printOptions directory r).path = some p) :
    ['.'] ∉ Text.split (· == '/') p.toList := by
  obtain rfl := Option.some.inj hp
  cases habsolute : Path.absolute? directory r with
  | some q => exact Path.dot_notMem_display (Path.dot_notMem_absolute? hdirectory habsolute)
  | none =>
    -- Only the empty path has no absolute spelling.
    have hempty : r.bytes = [] := by
      by_contra hne
      rw [Path.absolute?, if_neg hne] at habsolute
      cases habsolute
    apply Path.dot_notMem_display
    rw [Option.getD_none, Path.parts, hempty]
    decide

/-- **The locator of a path decodes to the path.** Let a printer be told of a file by a path with
one slash in front, without a part of two dots, without a question mark, number sign, backslash,
percent sign, tab or line break, and with no blank or control at its end. Whatever other characters
it holds, it makes a locator without host, query and fragment, and what follows the scheme decodes
to the bytes of the path. Parts of one dot do not occur: relative paths start at a directory that is
spelled without them, as a system spells its working directory. -/
theorem uri_decodes (o : FormatOptions) {directory r : Path} {p : String} {rest : List Char}
    (hdirectory : [Path.dot] ∉ directory.parts) (hp : (o.printOptions directory r).path = some p)
    (hslash : p.toList = '/' :: rest) (honce : rest.head? ≠ some '/')
    (hdots : ['.', '.'] ∉ Text.split (· == '/') p.toList)
    (hmarks : ∀ c ∈ ['?', '#', '\\', '%', '\t', '\n', '\r'], c ∉ p.toList)
    (hlast : ∀ c ∈ p.toList.getLast?, 0x20 < c.toNat) :
    ∃ document written, Uri.Document.ofPath p.toList = .ok document ∧ document.host = none ∧
      document.query = none ∧ document.fragment = none ∧
      documentUri (some p) = .ok (String.ofList ("file://".toList ++ written)) ∧ '?' ∉ written ∧
      '#' ∉ written ∧
      Uri.percentDecode written = Bytes.ofString p := by
  have hliteral := Uri.literal_of_unmarked hmarks (dot_notMem_printOptions hdirectory hp) hdots
  obtain ⟨hpath, hquery, hfragment⟩ :=
    Uri.parts_of_unmarked (hmarks '?' (by decide)) (hmarks '#' (by decide))
  have hescape : Uri.escape p.toList = Uri.percentEncode Uri.escapedInPath p.toList := by
    rw [Uri.escape, hpath, hquery, hfragment]
    exact List.append_nil _
  have hrest : p.toList.dropWhile (! Uri.Document.endsPath ·) = [] := by
    rw [(Uri.takeWhile_endsPath p.toList).2, hquery, hfragment, List.append_nil]
  refine ⟨_, Uri.escape p.toList, Uri.Document.ofPath_eq hslash hlast,
    Uri.Document.host_assemble_none _, ?_, ?_,
    documentUri_of_literal hliteral hslash honce hlast, ?_, ?_, ?_⟩
  · simp only [Uri.Document.assemble, hrest]
    rfl
  · simp only [Uri.Document.assemble, hrest]
    rfl
  · rw [hescape]
    exact Uri.mark_notMem_percentEncode (by decide) (by decide) (by decide)
  · rw [hescape]
    exact Uri.mark_notMem_percentEncode (by decide) (by decide) (by decide)
  · rw [Uri.percentDecode_escape, Uri.percentDecode_of_notMem (hmarks '%' (by decide))]
    rfl

/-- A path with blanks, quotes, a letter beyond ASCII and what looks like a drive, given from within
a directory. -/
theorem uri_decodes_quoted :
    (printOptions {} (Path.ofString "/work") (Path.ofString "./my \"models\"//c|/é.prisma")).path =
        some "/work/my \"models\"/c|/é.prisma" ∧
      ∃ document written,
        Uri.Document.ofPath "/work/my \"models\"/c|/é.prisma".toList = .ok document ∧
        document.host = none ∧ document.query = none ∧ document.fragment = none ∧
        documentUri (some "/work/my \"models\"/c|/é.prisma") =
          .ok (String.ofList ("file://".toList ++ written)) ∧
        '?' ∉ written ∧ '#' ∉ written ∧
        Uri.percentDecode written = Bytes.ofString "/work/my \"models\"/c|/é.prisma" := by
  have hpath :
      (printOptions {} (Path.ofString "/work")
          (Path.ofString "./my \"models\"//c|/é.prisma")).path =
        some "/work/my \"models\"/c|/é.prisma" := by rfl
  have hslash : "/work/my \"models\"/c|/é.prisma".toList =
      '/' :: "work/my \"models\"/c|/é.prisma".toList := by decide
  refine ⟨hpath, uri_decodes {} (by decide) hpath hslash (by decide) (by decide) (by simp)
    fun c hc => ?_⟩
  obtain rfl : 'a' = c := Option.some.inj hc
  decide

end FormatOptions

end SchemaFormat
