import SchemaFormat.Proofs.Delegation

/-!
The characters of a locator.

Controls, the space and all that is not ASCII are escaped in every part of a locator. So a path, a
query and a fragment are written in graphic characters alone, whatever was read, and a locator is
graphic if its host is (`Document.graphic_render`). The locator of a file whose path is absolute has
none (`FormatOptions.graphic_uri`).
-/

namespace SchemaFormat.Uri

/-- A graphic character: one of ASCII that is neither a control nor the space. -/
def IsGraphic (c : Char) : Prop :=
  0x20 < c.toNat ∧ c.toNat < 0x7F

instance (c : Char) : Decidable (IsGraphic c) :=
  inferInstanceAs (Decidable (_ ∧ _))

/-- A text of graphic characters. -/
def GraphicText (text : List Char) : Prop :=
  ∀ c ∈ text, IsGraphic c

instance (text : List Char) : Decidable (GraphicText text) :=
  List.decidableBAll IsGraphic text

namespace GraphicText

variable {text other : List Char} {c : Char}

theorem nil : GraphicText [] := by
  intro c hc
  cases hc

theorem cons (hc : IsGraphic c) (h : GraphicText text) : GraphicText (c :: text) := by
  intro d hd
  rcases List.mem_cons.mp hd with rfl | hd
  · exact hc
  · exact h d hd

theorem append (h : GraphicText text) (h' : GraphicText other) : GraphicText (text ++ other) := by
  intro c hc
  rcases List.mem_append.mp hc with hc | hc
  · exact h c hc
  · exact h' c hc

theorem flatMap {α : Type} {parts : List α} {f : α → List Char}
    (h : ∀ a ∈ parts, GraphicText (f a)) :
    GraphicText (parts.flatMap f) := by
  intro c hc
  obtain ⟨a, ha, hc⟩ := List.mem_flatMap.mp hc
  exact h a ha c hc

theorem of_subset (h : GraphicText text) (hsub : other ⊆ text) : GraphicText other :=
  fun c hc => h c (hsub hc)

end GraphicText

/-! ### Escapes -/

theorem isGraphic_upperHexDigit {d : Nat} (h : d < 16) : IsGraphic (upperHexDigit d) := by
  have hdigits : ∀ d < 16, IsGraphic (upperHexDigit d) := by decide
  exact hdigits d h

theorem graphic_percentByte (b : UInt8) : GraphicText (percentByte b) := by
  have hb : b.toNat < 256 := b.toNat_lt
  refine .cons (by decide) (.cons ?_ (.cons ?_ .nil))
  · exact isGraphic_upperHexDigit (by omega)
  · exact isGraphic_upperHexDigit (by omega)

theorem isGraphic_of_not_escaped {c : Char} (h : escapedEverywhere c = false) : IsGraphic c := by
  simp only [escapedEverywhere, Bool.or_eq_false_iff, decide_eq_false_iff_not] at h
  obtain ⟨⟨⟨⟨hlow, hhigh⟩, -⟩, -⟩, -⟩ := h
  exact ⟨by omega, by omega⟩

/-- **What is escaped as every part of a locator is, is graphic.** -/
theorem graphic_percentEncode {escaped : Char → Bool}
    (h : ∀ c, escapedEverywhere c = true → escaped c = true) (text : List Char) :
    GraphicText (percentEncode escaped text) := by
  apply GraphicText.flatMap
  intro c _
  unfold percentChar
  split
  · exact .flatMap fun b _ => graphic_percentByte b
  · next hplain =>
    refine .cons (isGraphic_of_not_escaped ?_) .nil
    exact Bool.eq_false_iff.mpr fun hc => hplain (h c hc)

theorem graphic_writeSegment (text : List Char) : GraphicText (writeSegment text) :=
  graphic_percentEncode (fun c hc => by simp [escapedInPath, hc]) text

theorem graphic_query (text : List Char) : GraphicText (percentEncode escapedInQuery text) :=
  graphic_percentEncode (fun c hc => by simp [escapedInQuery, hc]) text

theorem graphic_fragment (text : List Char) : GraphicText (percentEncode escapedInFragment text) :=
  graphic_percentEncode (fun c hc => by simp [escapedInFragment, hc]) text

/-! ### Paths -/

theorem isGraphic_of_isAlpha {c : Char} (h : c.isAlpha = true) : IsGraphic c := by
  have hcases : (decide ('A'.val ≤ c.val ∧ c.val ≤ 'Z'.val) ||
      decide ('a'.val ≤ c.val) && decide (c.val ≤ 'z'.val)) = true := h
  simp only [Bool.or_eq_true, Bool.and_eq_true, decide_eq_true_eq, UInt32.le_iff_toNat_le] at hcases
  have hranges : (65 ≤ c.toNat ∧ c.toNat ≤ 90) ∨ (97 ≤ c.toNat ∧ c.toNat ≤ 122) := hcases
  rcases hranges with ⟨hlow, hhigh⟩ | ⟨hlow, hhigh⟩
  · exact ⟨by omega, by omega⟩
  · exact ⟨by omega, by omega⟩

/-- Every segment read so far is graphic. -/
def Walking.Graphic (w : Walking) : Prop :=
  ∀ segment ∈ w.segments, GraphicText segment

theorem goUp_subset (segments : List (List Char)) : goUp segments ⊆ segments := by
  cases segments with
  | nil => exact List.Subset.refl _
  | cons last before =>
    rw [goUp]
    split
    · exact List.Subset.refl _
    · exact List.subset_cons_self last before

/-- A drive that is split off opens with a letter. -/
theorem isAlpha_of_driveSplit {raw drive rest : List Char}
    (h : driveSplit raw = some (drive, rest)) :
    ∃ letter, letter.isAlpha = true ∧ drive = [letter, ':'] := by
  unfold driveSplit at h
  split at h
  · next letter c more _ =>
    dsimp only at h
    split at h
    · next hletter =>
      obtain ⟨rfl, -⟩ := Prod.mk.inj (Option.some.inj h)
      exact ⟨letter, (Bool.and_eq_true_iff.mp hletter).1, rfl⟩
    · cases h
  · cases h

/-- **Each raw segment leaves the path graphic.** -/
theorem Walking.Graphic.take {w : Walking} (h : w.Graphic) (raw : List Char) (more : Bool) :
    (w.take raw more).Graphic := by
  have hsegment := graphic_writeSegment (visible raw)
  have hfinish {segments : List (List Char)} (hsub : segments ⊆ w.segments) :
      ∀ segment ∈ if more then segments else [] :: segments, GraphicText segment := by
    intro segment hmem
    split at hmem
    · exact h segment (hsub hmem)
    · rcases List.mem_cons.mp hmem with rfl | hmem
      · exact .nil
      · exact h segment (hsub hmem)
  unfold Walking.take
  dsimp only
  split
  · next drive rest _ hsplit =>
    obtain ⟨letter, hletter, rfl⟩ := isAlpha_of_driveSplit hsplit
    intro segment hmem
    rcases List.mem_cons.mp hmem with rfl | hmem
    · exact graphic_writeSegment rest
    · obtain rfl := List.mem_singleton.mp hmem
      exact .cons (isGraphic_of_isAlpha hletter) (.cons (by decide) .nil)
  · split
    · exact hfinish (goUp_subset w.segments)
    split
    · exact hfinish (List.Subset.refl _)
    split
    · intro segment hmem
      obtain rfl := List.mem_singleton.mp hmem
      exact (hsegment.of_subset (List.take_subset 1 _)).append (.cons (by decide) .nil)
    · intro segment hmem
      rcases List.mem_cons.mp hmem with rfl | hmem
      · exact hsegment
      · exact h segment hmem

theorem Walking.Graphic.run {w : Walking} (h : w.Graphic) (raws : List (List Char)) :
    (w.run raws).Graphic := by
  induction raws generalizing w with
  | nil => exact h
  | cons raw raws ih =>
    cases raws with
    | nil => exact h.take raw false
    | cons next raws => exact ih (h.take raw true)

theorem graphic_readPath (text : List Char) : (readPath text).Graphic := by
  have hstart : ({} : Walking).Graphic := by
    intro segment hmem
    cases hmem
  exact hstart.run _

theorem graphic_renderPath {w : Walking} (h : w.Graphic) : GraphicText (renderPath w) := by
  have hslash : GraphicText ['/'] := .cons (by decide) .nil
  have hjoined : GraphicText (Text.join ['/'] w.segments.reverse) := by
    have hsegments : ∀ segment ∈ w.segments.reverse, GraphicText segment :=
      fun segment hmem => h segment (List.mem_reverse.mp hmem)
    cases hparts : w.segments.reverse with
    | nil => exact .nil
    | cons first rest =>
      rw [hparts] at hsegments
      refine (hsegments first List.mem_cons_self).append (.flatMap fun segment hmem => ?_)
      exact hslash.append (hsegments segment (List.mem_cons_of_mem first hmem))
  exact hslash.append (hjoined.of_subset (List.dropWhile_subset _))

/-! ### Locators -/

namespace Document

/-- Every document is assembled of a host and a text. -/
theorem exists_assemble {text : List Char} {d : Document} (h : ofPath text = .ok d) :
    ∃ host rest, d = assemble host rest := by
  unfold ofPath at h
  dsimp only at h
  split at h
  · exact ⟨_, _, (Except.ok.inj h).symm⟩
  split at h
  · exact ⟨_, _, (Except.ok.inj h).symm⟩
  split at h
  · cases h
  · split at h
    · exact ⟨_, _, (Except.ok.inj h).symm⟩
    · exact ⟨_, _, (Except.ok.inj h).symm⟩

/-- What a query or a fragment begins with is graphic, and so is the rest of it. -/
theorem graphic_readRest (rest : List Char) :
    GraphicText (((readRest rest).1.map ('?' :: ·)).getD []) ∧
      GraphicText (((readRest rest).2.map ('#' :: ·)).getD []) := by
  unfold readRest
  split
  · dsimp only
    split
    · exact ⟨.cons (by decide) (graphic_query _), .cons (by decide) (graphic_fragment _)⟩
    · exact ⟨.cons (by decide) (graphic_query _), .nil⟩
  · exact ⟨.nil, .cons (by decide) (graphic_fragment _)⟩
  · exact ⟨.nil, .nil⟩

/-- **A locator is graphic if its host is**, whatever text it was read from. -/
theorem graphic_render {text : List Char} {d : Document} (h : ofPath text = .ok d)
    (hhost : ∀ host, d.host = some host → GraphicText host.render) : GraphicText d.render := by
  obtain ⟨host, rest, rfl⟩ := exists_assemble h
  obtain ⟨hquery, hfragment⟩ := graphic_readRest (rest.dropWhile (! endsPath ·))
  have hscheme : GraphicText scheme := by decide
  have hpath := graphic_renderPath (graphic_readPath (rest.takeWhile (! endsPath ·)))
  have hname : GraphicText (((assemble host rest).host.map Host.render).getD []) := by
    cases hfound : (assemble host rest).host with
    | none => exact .nil
    | some found => exact hhost found hfound
  exact hscheme.append (hname.append (hpath.append (hquery.append hfragment)))

end Document

end Uri

open Uri

/-- A text that begins with a slash makes a graphic locator. -/
theorem graphic_documentUri {path uri : String} {rest : List Char}
    (hslash : path.toList = '/' :: rest)
    (h : documentUri (some path) = .ok uri) : GraphicText uri.toList := by
  obtain ⟨document, hdocument, hhost⟩ := Document.ofPath_of_slash rest
  unfold documentUri at h
  dsimp only at h
  rw [hslash, hdocument] at h
  split at h
  · cases h
  · obtain rfl := Except.ok.inj h
    rw [String.toList_ofList]
    refine Document.graphic_render hdocument fun host hsome => ?_
    rw [hhost] at hsome
    cases hsome

/-- **The locator of each file that a host names is graphic.** -/
theorem FormatOptions.graphic_uri {o : FormatOptions} {directory p : Path} {request : Request}
    (hd : directory.isAbsolute = true)
    (h : Request.build (o.printOptions directory p) = .ok request) :
    GraphicText request.uri.toList := by
  obtain ⟨q, habsolute, hq⟩ := Path.absolute?_isAbsolute hd (ne_nil_of_build h)
  obtain ⟨rest, hrest⟩ := Path.display_of_isAbsolute hq
  obtain ⟨uri, huri, rfl⟩ := Request.exists_of_build h
  rw [printOptions, habsolute, Option.getD_some] at huri
  exact graphic_documentUri hrest huri

end SchemaFormat
