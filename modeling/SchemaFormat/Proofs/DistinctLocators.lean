import SchemaFormat.Formatter.Basic
import SchemaFormat.Proofs.Delegation
import SchemaFormat.Proofs.LiteralLocator

/-!
Which files an engine can tell apart.

An engine knows a document by its locator. Two files whose paths are literal have the same locator
exactly if their paths are the same once they are escaped (`FormatOptions.uri_eq_iff`); then what
the paths decode to is the same as well. Other paths can share a locator for other reasons, and all
of them are shown (`FormatOptions.uri_shared`): a percent sign that spells a character, a backslash,
a line break or tab, and dots in front of a query.
-/

namespace SchemaFormat

variable {s t : String}

namespace Path

theorem Spelled.exists_text (h : (ofString s).Spelled) :
    ∃ rest, s.toList = '/' :: rest ∧ rest.head? ≠ some '/' := by
  obtain ⟨text, htext⟩ := display_of_isAbsolute h.absolute
  rw [display_ofString] at htext
  refine ⟨text, htext, fun hslash => ?_⟩
  obtain ⟨more, rfl⟩ := List.head?_eq_some_iff.mp hslash
  have hbytes : (ofString s).bytes = slash :: slash :: Utf8.encode more := by
    rw [ofString, Bytes.ofString, htext]
    rfl
  -- The part between the two slashes is empty.
  have hempty : [] ∈ (ofString s).parts.tail := by
    rw [parts, hbytes, Text.split_cons_separator (by decide), Text.split_cons_separator (by decide)]
    exact List.mem_cons_self
  exact (h.names [] hempty).1 rfl

end Path

namespace FormatOptions

/-- The locator of a model file whose path is spelled out, wherever relative paths start. -/
theorem build_of_spelled (o : FormatOptions) (directory : Path)
    (hspelled : (Path.ofString s).Spelled) (hends : ".prisma".toList <:+ s.toList) :
    ∃ request, Request.build (o.printOptions directory (Path.ofString s)) = .ok request ∧
      request.uri = String.ofList (Uri.Document.assemble none s.toList).render := by
  obtain ⟨rest, hslash, -⟩ := hspelled.exists_text
  have hlast : ∀ c ∈ s.toList.getLast?, 0x20 < c.toNat := by
    obtain ⟨before, hbefore⟩ := hends
    intro c hc
    rw [← hbefore, List.getLast?_append_of_ne_nil _ (by decide)] at hc
    obtain rfl : 'a' = c := Option.some.inj hc
    decide
  have hpath : (o.printOptions directory (Path.ofString s)).path = some s := by
    rw [printOptions, hspelled.absolute?_eq directory, Option.getD_some, Path.display_ofString]
  unfold Request.build
  rw [hpath, documentUri_of_ofPath hslash (Uri.Document.ofPath_eq hslash hlast)]
  exact ⟨_, rfl, rfl⟩

/-- **When two files share a locator.** For two paths of model files that are spelled out from the
root and literal, both requests exist, and they carry the same locator exactly if the paths are the
same once each character is written as its part of a locator writes it. So they carry different ones
if the paths still differ when their escapes are decoded. -/
theorem uri_eq_iff (o : FormatOptions) (directory : Path) (hs : (Path.ofString s).Spelled)
    (ht : (Path.ofString t).Spelled) (hends : ".prisma".toList <:+ s.toList)
    (hends' : ".prisma".toList <:+ t.toList) (hliteral : Uri.Literal s.toList)
    (hliteral' : Uri.Literal t.toList) :
    ∃ request other, Request.build (o.printOptions directory (Path.ofString s)) = .ok request ∧
      Request.build (o.printOptions directory (Path.ofString t)) = .ok other ∧
      (request.uri = other.uri ↔ Uri.escape s.toList = Uri.escape t.toList) ∧
      (Uri.percentDecode s.toList ≠ Uri.percentDecode t.toList → request.uri ≠ other.uri) := by
  obtain ⟨request, hbuild, huri⟩ := o.build_of_spelled directory hs hends
  obtain ⟨other, hbuild', huri'⟩ := o.build_of_spelled directory ht hends'
  obtain ⟨rest, hslash, honce⟩ := hs.exists_text
  obtain ⟨rest', hslash', honce'⟩ := ht.exists_text
  rw [hliteral.render_assemble hslash honce] at huri
  rw [hliteral'.render_assemble hslash' honce'] at huri'
  have hiff : request.uri = other.uri ↔ Uri.escape s.toList = Uri.escape t.toList := by
    rw [huri, huri']
    constructor
    · intro h
      exact List.append_cancel_left (String.ofList_injective h)
    · intro h
      rw [h]
  refine ⟨request, other, hbuild, hbuild', hiff, fun hne h => hne ?_⟩
  rw [← Uri.percentDecode_escape s.toList, hiff.mp h, Uri.percentDecode_escape]

/-- A blank and a question mark keep two files apart. -/
theorem uri_eq_iff_marked :
    ∃ request other,
      Request.build (printOptions {} (Path.ofString "/") (Path.ofString "/a b.prisma")) =
        .ok request ∧
      Request.build (printOptions {} (Path.ofString "/") (Path.ofString "/a?b.prisma")) =
        .ok other ∧
      request.uri ≠ other.uri := by
  obtain ⟨request, other, hbuild, hbuild', -, hne⟩ :=
    uri_eq_iff {} (Path.ofString "/") (s := "/a b.prisma") (t := "/a?b.prisma") (by decide)
      (by decide) (by decide) (by decide) (by decide) (by decide)
  exact ⟨request, other, hbuild, hbuild', hne (by decide)⟩

/-- Two paths of model files, spelled out from the root, that differ. -/
def DifferentFiles (s t : String) : Prop :=
  s ≠ t ∧ (Path.ofString s).Spelled ∧ (Path.ofString t).Spelled ∧
    ".prisma".toList <:+ s.toList ∧ ".prisma".toList <:+ t.toList

instance (s t : String) : Decidable (DifferentFiles s t) :=
  inferInstanceAs (Decidable (_ ∧ _ ∧ _ ∧ _ ∧ _))

/-- Two files that an engine is told of by one locator. -/
def ShareUri (s t : String) : Prop :=
  ∃ request other,
    Request.build (printOptions {} (Path.ofString "/") (Path.ofString s)) = .ok request ∧
    Request.build (printOptions {} (Path.ofString "/") (Path.ofString t)) = .ok other ∧
    request.uri = other.uri

/-- Files share a locator if it is assembled of the same parts. -/
theorem shareUri_of_render (h : DifferentFiles s t)
    (hrender : (Uri.Document.assemble none s.toList).render =
      (Uri.Document.assemble none t.toList).render) :
    DifferentFiles s t ∧ ShareUri s t := by
  obtain ⟨hne, hs, ht, hends, hends'⟩ := h
  obtain ⟨request, hbuild, huri⟩ := build_of_spelled {} (Path.ofString "/") hs hends
  obtain ⟨other, hbuild', huri'⟩ := build_of_spelled {} (Path.ofString "/") ht hends'
  exact ⟨⟨hne, hs, ht, hends, hends'⟩, request, other, hbuild, hbuild', by
    rw [huri, huri', hrender]⟩

/-- **Different files can share a locator**: a blank is written as what spells it, a backslash as a
slash, a tab is dropped, and dots in front of a question mark go up. -/
theorem uri_shared :
    (DifferentFiles "/a b.prisma" "/a%20b.prisma" ∧ ShareUri "/a b.prisma" "/a%20b.prisma") ∧
      (DifferentFiles "/a/b.prisma" "/a\\b.prisma" ∧ ShareUri "/a/b.prisma" "/a\\b.prisma") ∧
      (DifferentFiles "/ab.prisma" "/a\tb.prisma" ∧ ShareUri "/ab.prisma" "/a\tb.prisma") ∧
      (DifferentFiles "/?b.prisma" "/a/..?b.prisma" ∧ ShareUri "/?b.prisma" "/a/..?b.prisma") := by
  refine ⟨?_, ?_, ?_, ?_⟩
  · exact shareUri_of_render (by decide) (by decide)
  · exact shareUri_of_render (by decide) (by decide)
  · exact shareUri_of_render (by decide) (by decide)
  · exact shareUri_of_render (by decide) (by decide)

end FormatOptions

end SchemaFormat
