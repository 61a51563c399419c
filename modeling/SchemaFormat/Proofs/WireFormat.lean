import SchemaFormat.Proofs.Delegation
import SchemaFormat.Proofs.JsonRoundTrip

/-!
What a request looks like to the one that receives it.

A request is sent as one JSON text. Whoever reads that text finds the locator, the tab size and the
flags in their places (`Request.DecodedFrom`), whatever characters the locator holds, so no two
requests are sent as the same text (`compact_decodes`).
-/

namespace SchemaFormat

/-- What is found in a value under names, one inside the other. -/
def Json.Value.at? (v : Json.Value) : List String → Option Json.Value
  | [] => some v
  | name :: names => (v.member? name).bind (·.at? names)

namespace Request

/-- A value holds all that a request asks, each thing in its place. -/
structure DecodedFrom (r : Request) (v : Json.Value) : Prop where
  uri : v.at? ["textDocument", "uri"] = some (.string r.uri)
  tabSize : v.at? ["options", "tabSize"] = some (.integer r.tabSize.toNat)
  insertSpaces : v.at? ["options", "insertSpaces"] = some (.bool r.insertSpaces)
  trimFinalNewlines : v.at? ["options", "trimFinalNewlines"] = some (.bool r.trimFinalNewlines)
  insertFinalNewline : v.at? ["options", "insertFinalNewline"] = some (.bool r.insertFinalNewline)
  trimTrailingWhitespace : v.at? ["options", "trimTrailingWhitespace"] =
    some (.bool r.trimTrailingWhitespace)

variable {r r' : Request} {v : Json.Value}

theorem decodedFrom_toJson (r : Request) : r.DecodedFrom r.toJson := by
  constructor <;> simp [toJson, Json.Value.at?, Json.Value.member?, List.lookup_cons]

theorem spelledBy_compact (r : Request) : r.toJson.SpelledBy r.compact :=
  Json.spelledBy_compact r.toJson

theorem read_compact (r : Request) : Json.read r.compact = some r.toJson :=
  Json.read_of_spelledBy r.spelledBy_compact

/-- No two requests are found in the same value. -/
theorem DecodedFrom.unique (h : r.DecodedFrom v) (h' : r'.DecodedFrom v) : r = r' := by
  have huri := h.uri.symm.trans h'.uri
  have htabSize := h.tabSize.symm.trans h'.tabSize
  have hspaces := h.insertSpaces.symm.trans h'.insertSpaces
  have htrim := h.trimFinalNewlines.symm.trans h'.trimFinalNewlines
  have hinsert := h.insertFinalNewline.symm.trans h'.insertFinalNewline
  have htrailing := h.trimTrailingWhitespace.symm.trans h'.trimTrailingWhitespace
  cases r
  cases r'
  simp only [Option.some.injEq, Json.Value.string.injEq, Json.Value.integer.injEq,
    Json.Value.bool.injEq, Int.natCast_inj,
    UInt32.toNat_inj] at huri htabSize hspaces htrim hinsert htrailing
  simp only [huri, htabSize, hspaces, htrim, hinsert, htrailing]

/-- **A request is decoded without loss.** Its text is JSON, and the reader takes it. Whatever value
a reader of JSON makes of the text, it holds the request's locator, tab size and flags in their
places, so two requests never have the same text. In a request that was built from options, these
are the locator of the path, the tab width, that spaces are inserted unless tabs are used, and that
the three rules about blanks hold. -/
theorem compact_decodes :
    (∀ r : Request, (∃ v : Json.Value, v.SpelledBy r.compact) ∧
      (∃ v, Json.read r.compact = some v ∧ r.DecodedFrom v) ∧
      ∀ v : Json.Value, v.SpelledBy r.compact → r.DecodedFrom v) ∧
    (∀ r r' : Request, r ≠ r' → r.compact ≠ r'.compact) ∧
    ∀ options r, Request.build options = .ok r → ∃ uri v, documentUri options.path = .ok uri ∧
      Json.read r.compact = some v ∧
      (⟨uri, options.tabWidth, ! options.useTabs, true, true, true⟩ : Request).DecodedFrom v := by
  refine ⟨?_, ?_, ?_⟩
  · intro r
    refine ⟨⟨_, r.spelledBy_compact⟩, ⟨_, r.read_compact, r.decodedFrom_toJson⟩, ?_⟩
    intro v hv
    rw [Json.spelledBy_unique hv r.spelledBy_compact]
    exact r.decodedFrom_toJson
  · intro r r' hne heq
    have hread := r.read_compact
    rw [heq, r'.read_compact] at hread
    have hsame : r'.toJson = r.toJson := Option.some.inj hread
    exact hne (r.decodedFrom_toJson.unique (hsame ▸ r'.decodedFrom_toJson))
  · intro options r hbuild
    obtain ⟨uri, huri, rfl⟩ := Request.exists_of_build hbuild
    exact ⟨uri, _, huri, read_compact _, decodedFrom_toJson _⟩

/-- A backslash in the query of a locator is decoded. -/
theorem compact_decodes_backslash :
    Request.build { path := some "/x?a\\b", tabWidth := 4 } =
        .ok ⟨"file:///x?a\\b", 4, true, true, true, true⟩ ∧
      ∃ v, Json.read (⟨"file:///x?a\\b", 4, true, true, true, true⟩ : Request).compact = some v ∧
        v.at? ["textDocument", "uri"] = some (.string "file:///x?a\\b") := by
  have hbuild : Request.build { path := some "/x?a\\b", tabWidth := 4 } =
      .ok ⟨"file:///x?a\\b", 4, true, true, true, true⟩ := by decide +kernel
  obtain ⟨uri, v, huri, hread, hdecoded⟩ := compact_decodes.2.2 _ _ hbuild
  have hsame : uri = "file:///x?a\\b" :=
    Except.ok.inj (huri.symm.trans (by decide +kernel))
  exact ⟨hbuild, v, hread, hsame ▸ hdecoded.uri⟩

end Request

end SchemaFormat
