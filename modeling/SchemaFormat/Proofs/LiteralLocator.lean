import SchemaFormat.Proofs.DocumentUri
import SchemaFormat.Proofs.PercentDecoding

/-!
Texts that a locator takes as they stand.

Reading a text as a locator can change more than escapes do: tabs and line breaks are dropped,
backslashes are slashes, dots go up or stay. `Literal` says that a text holds nothing of the kind.
Each character of such a text is put into the locator as its part of the locator writes it
(`documentUri_of_literal`), so the locator decodes to what the text decodes to
(`percentDecode_escape`).
-/

namespace SchemaFormat

namespace Uri

open Utf8 (encode)

variable {text : List Char}

/-! ### Path, query and fragment of a text -/

/-- What stands before the fragment. -/
def front (text : List Char) : List Char :=
  text.takeWhile (· != '#')

/-- The path that a text writes. -/
def pathOf (text : List Char) : List Char :=
  (front text).takeWhile (· != '?')

/-- The query that a text writes, with its question mark. -/
def queryOf (text : List Char) : List Char :=
  (front text).dropWhile (· != '?')

/-- The fragment that a text writes, with its number sign. -/
def fragmentOf (text : List Char) : List Char :=
  text.dropWhile (· != '#')

/-- A text with each character as its part of a locator writes it. -/
def escape (text : List Char) : List Char :=
  percentEncode escapedInPath (pathOf text) ++
    (percentEncode escapedInQuery (queryOf text) ++
      percentEncode escapedInFragment (fragmentOf text))

theorem eq_append_parts (text : List Char) :
    text = pathOf text ++ (queryOf text ++ fragmentOf text) := by
  rw [← List.append_assoc, pathOf, queryOf, List.takeWhile_append_dropWhile, front, fragmentOf,
    List.takeWhile_append_dropWhile]

theorem queryOf_cases (text : List Char) :
    queryOf text = [] ∨ ∃ after, queryOf text = '?' :: after ∧ '#' ∉ after := by
  cases hquery : queryOf text with
  | nil => exact .inl rfl
  | cons c after =>
    have hc := List.head?_dropWhile_not (· != '?') (front text)
    rw [← queryOf, hquery] at hc
    obtain rfl : c = '?' := by simpa using hc
    refine .inr ⟨after, rfl, fun hmem => ?_⟩
    have hfront : '#' ∈ front text := by
      refine (List.dropWhile_suffix (· != '?')).subset ?_
      rw [← queryOf, hquery]
      exact List.mem_cons_of_mem _ hmem
    have hnot := List.mem_takeWhile_imp hfront
    exact absurd hnot (by decide)

theorem fragmentOf_cases (text : List Char) :
    fragmentOf text = [] ∨ ∃ after, fragmentOf text = '#' :: after := by
  cases hfragment : fragmentOf text with
  | nil => exact .inl rfl
  | cons c after =>
    have hc := List.head?_dropWhile_not (· != '#') text
    rw [← fragmentOf, hfragment] at hc
    obtain rfl : c = '#' := by simpa using hc
    exact .inr ⟨after, rfl⟩

theorem endsPath_of_mem_pathOf {c : Char} (h : c ∈ pathOf text) : Document.endsPath c = false := by
  have hquery := List.mem_takeWhile_imp h
  have hfragment := List.mem_takeWhile_imp ((List.takeWhile_prefix (· != '?')).subset h)
  unfold Document.endsPath
  simp_all

/-- A locator takes a text apart at the first question mark or number sign. -/
theorem takeWhile_endsPath (text : List Char) :
    text.takeWhile (! Document.endsPath ·) = pathOf text ∧
      text.dropWhile (! Document.endsPath ·) = queryOf text ++ fragmentOf text := by
  have hpath : ∀ c ∈ pathOf text, (! Document.endsPath c) = true := by
    intro c hc
    rw [endsPath_of_mem_pathOf hc]
    rfl
  have hrest : (queryOf text ++ fragmentOf text).takeWhile (! Document.endsPath ·) = [] ∧
      (queryOf text ++ fragmentOf text).dropWhile (! Document.endsPath ·) =
        queryOf text ++ fragmentOf text := by
    rcases queryOf_cases text with hquery | ⟨after, hquery, -⟩
    · rcases fragmentOf_cases text with hfragment | ⟨after, hfragment⟩
      · rw [hquery, hfragment]
        exact ⟨rfl, rfl⟩
      · rw [hquery, hfragment]
        exact ⟨rfl, rfl⟩
    · rw [hquery]
      exact ⟨rfl, rfl⟩
  constructor
  · conv_lhs => rw [eq_append_parts text]
    rw [List.takeWhile_append_of_pos hpath, hrest.1, List.append_nil]
  · conv_lhs => rw [eq_append_parts text]
    rw [List.dropWhile_append_of_pos hpath, hrest.2]

/-! ### What a text decodes to -/

/-- A part that nothing or a mark begins is decoded by itself. -/
theorem percentDecode_append_part {c : Char} (hc : Text.hexDigit? c = none) (before : List Char)
    {part : List Char} (h : part = [] ∨ ∃ after, part = c :: after) :
    percentDecode (before ++ part) = percentDecode before ++ percentDecode part := by
  rcases h with rfl | ⟨after, rfl⟩
  · rw [List.append_nil]
    exact (List.append_nil _).symm
  · exact percentDecode_append hc before after

/-- The mark that begins a part is left in front. -/
theorem percentEncode_part (escaped : Char → Bool) {c : Char} (hc : escaped c = false)
    {part : List Char} (h : part = [] ∨ ∃ after, part = c :: after) :
    percentEncode escaped part = [] ∨ ∃ after, percentEncode escaped part = c :: after := by
  rcases h with rfl | ⟨after, rfl⟩
  · exact .inl rfl
  · exact .inr ⟨_, percentEncode_cons_of_not hc after⟩

/-- **Escaping leaves what a text decodes to.** -/
theorem percentDecode_escape (text : List Char) :
    percentDecode (escape text) = percentDecode text := by
  have hquery : queryOf text = [] ∨ ∃ after, queryOf text = '?' :: after := by
    rcases queryOf_cases text with h | ⟨after, h, -⟩
    · exact .inl h
    · exact .inr ⟨after, h⟩
  have hfragment := fragmentOf_cases text
  have hquery' := percentEncode_part escapedInQuery (by decide) hquery
  have hfragment' := percentEncode_part escapedInFragment (by decide) hfragment
  conv_rhs => rw [eq_append_parts text]
  rw [escape, ← List.append_assoc, ← List.append_assoc,
    percentDecode_append_part (by decide) _ hfragment',
    percentDecode_append_part (by decide) _ hquery',
    percentDecode_append_part (by decide) _ hfragment,
    percentDecode_append_part (by decide) _ hquery,
    percentDecode_percentEncode leavesTriples_path,
    percentDecode_percentEncode leavesTriples_query,
    percentDecode_percentEncode leavesTriples_fragment]

/-! ### Dots -/

theorem percentDecode_of_readDot {segment rest : List Char} (h : readDot segment = some rest) :
    percentDecode segment = encode ['.'] ++ percentDecode rest := by
  unfold readDot at h
  split at h
  · obtain rfl := Option.some.inj h
    exact percentDecode_cons_of_ne (by decide) _
  · obtain rfl := Option.some.inj h
    exact percentDecode_triple (h := 2) (l := 14) (by decide) (by decide) _
  · obtain rfl := Option.some.inj h
    exact percentDecode_triple (h := 2) (l := 14) (by decide) (by decide) _
  · cases h

theorem percentDecode_of_isDot {segment : List Char} (h : isDot segment = true) :
    percentDecode segment = encode ['.'] :=
  percentDecode_of_readDot (beq_iff_eq.mp h)

theorem percentDecode_of_isDotDot {segment : List Char} (h : isDotDot segment = true) :
    percentDecode segment = encode ['.', '.'] := by
  obtain ⟨rest, hfirst, hsecond⟩ := Option.bind_eq_some_iff.mp (beq_iff_eq.mp h)
  rw [percentDecode_of_readDot hfirst, percentDecode_of_readDot hsecond]
  rfl

/-! ### Literal texts -/

/-- A locator takes every character of a text for itself, in the part where it stands. -/
structure Literal (text : List Char) : Prop where
  /-- Nothing is dropped. -/
  kept : ∀ c ∈ text, isIgnored c = false
  /-- Only slashes are slashes. -/
  slashes : '\\' ∉ pathOf text
  /-- No part of the path stays or goes up. -/
  parts : ∀ part ∈ Text.split (· == '/') (pathOf text),
    percentDecode part ≠ encode ['.'] ∧ percentDecode part ≠ encode ['.', '.']

instance (text : List Char) : Decidable (Literal text) :=
  -- Only the characters of the text are looked at, not all there are.
  let _ : Decidable (∀ c ∈ text, isIgnored c = false) :=
    List.decidableBAll (isIgnored · = false) text
  decidable_of_iff ((∀ c ∈ text, isIgnored c = false) ∧ '\\' ∉ pathOf text ∧
      ∀ part ∈ Text.split (· == '/') (pathOf text),
        percentDecode part ≠ encode ['.'] ∧ percentDecode part ≠ encode ['.', '.'])
    ⟨fun ⟨hkept, hslashes, hparts⟩ => ⟨hkept, hslashes, hparts⟩,
      fun ⟨hkept, hslashes, hparts⟩ => ⟨hkept, hslashes, hparts⟩⟩

theorem visible_of_kept (h : ∀ c ∈ text, isIgnored c = false) : visible text = text := by
  refine List.filter_eq_self.mpr fun c hc => ?_
  rw [h c hc]
  rfl

/-- A raw segment that means nothing but a segment. -/
structure LiteralSegment (raw : List Char) : Prop where
  kept : ∀ c ∈ raw, isIgnored c = false
  dot : percentDecode raw ≠ encode ['.']
  dots : percentDecode raw ≠ encode ['.', '.']

namespace LiteralSegment

variable {raw : List Char} {w : Walking}

/-- Behind another segment such a segment is added as it stands. -/
theorem take (h : LiteralSegment raw) (hw : w.segments ≠ []) (more : Bool) :
    w.take raw more = { w with segments := writeSegment raw :: w.segments } := by
  have hdecode : percentDecode (writeSegment raw) = percentDecode raw :=
    percentDecode_percentEncode leavesTriples_path raw
  have hdot : isDot (writeSegment raw) = false := by
    rw [Bool.eq_false_iff]
    intro hdot
    exact h.dot (hdecode ▸ percentDecode_of_isDot hdot)
  have hdots : isDotDot (writeSegment raw) = false := by
    rw [Bool.eq_false_iff]
    intro hdots
    exact h.dots (hdecode ▸ percentDecode_of_isDotDot hdots)
  have htop : w.segments.isEmpty = false := by
    simpa using hw
  unfold Walking.take
  simp only [visible_of_kept h.kept, htop, hdot, hdots, Bool.false_and, Bool.false_eq_true,
    if_false]

/-- So a path that is more than its first segment is added as it stands. -/
theorem run {raws : List (List Char)} (h : ∀ raw ∈ raws, LiteralSegment raw) (hne : raws ≠ [])
    (hw : w.segments ≠ []) :
    (w.run raws).segments = (raws.map writeSegment).reverse ++ w.segments := by
  induction raws generalizing w with
  | nil => exact absurd rfl hne
  | cons raw raws ih =>
    have hraw := h raw List.mem_cons_self
    cases raws with
    | nil =>
      rw [Walking.run, hraw.take hw]
      rfl
    | cons next raws =>
      have hmore : ∀ raw ∈ next :: raws, LiteralSegment raw := fun raw hmem =>
          h raw (List.mem_cons_of_mem _ hmem)
      rw [Walking.run, hraw.take hw, ih hmore (List.cons_ne_nil next raws) (List.cons_ne_nil _ _)]
      · simp
      · simp

end LiteralSegment

/-! ### The path of a literal text -/

theorem percentEncode_append_slash (escaped : Char → Bool) (hslash : escaped '/' = false)
    (before after : List Char) :
    percentEncode escaped (before ++ '/' :: after) =
      percentEncode escaped before ++ '/' :: percentEncode escaped after := by
  rw [← percentEncode_cons_of_not hslash]
  exact List.flatMap_append

theorem head?_percentEncode_ne (escaped : Char → Bool) (h : text.head? ≠ some '/') :
    (percentEncode escaped text).head? ≠ some '/' := by
  cases text with
  | nil => simp [percentEncode]
  | cons c text =>
    cases hescaped : escaped c with
    | true =>
      rw [head?_percentEncode hescaped]
      decide
    | false =>
      rw [percentEncode_cons_of_not hescaped]
      exact h

/-- **A path of literal segments is written segment by segment.** -/
theorem renderPath_readPath {rest : List Char} (hslashes : '\\' ∉ rest)
    (honce : rest.head? ≠ some '/') (h : ∀ raw ∈ Text.split (· == '/') rest, LiteralSegment raw) :
    renderPath (readPath ('/' :: rest)) = percentEncode escapedInPath ('/' :: rest) := by
  have hsplit : Text.split isSlash ('/' :: rest) = [] :: Text.split (· == '/') rest := by
    rw [Text.split_cons_separator rfl, Text.split_congr fun c hc => ?_]
    have hc' : c ≠ '\\' := fun heq => hslashes (heq ▸ hc)
    simp [isSlash, hc']
  obtain ⟨first, more, hraws⟩ := List.exists_cons_of_ne_nil (Text.split_ne_nil rest)
  have hsegments : (readPath ('/' :: rest)).segments =
      ((Text.split (· == '/') rest).map writeSegment).reverse ++ [[]] := by
    -- The slash in front makes an empty segment, so what comes behind it is not read as a drive.
    have hstart : ({} : Walking).take [] true = ⟨[[]], false⟩ := rfl
    rw [readPath, hsplit, hraws, Walking.run, hstart, ← hraws]
    · exact LiteralSegment.run h (Text.split_ne_nil rest) (List.cons_ne_nil _ _)
    · simp
  have hjoin : Text.join ['/'] ((Text.split (· == '/') rest).map writeSegment) =
      percentEncode escapedInPath rest := by
    have hrest := Text.map_join rfl (percentEncode_append_slash escapedInPath (by decide))
      (Text.split (· == '/') rest)
    rw [Text.join_split fun c _ hc => beq_iff_eq.mp hc] at hrest
    exact hrest.symm
  have hne : (Text.split (· == '/') rest).map writeSegment ≠ [] := by
    rw [ne_eq, List.map_eq_nil_iff]
    exact Text.split_ne_nil rest
  have hhead := head?_percentEncode_ne escapedInPath honce
  rw [renderPath, hsegments, List.reverse_append, List.reverse_reverse, List.reverse_singleton,
    List.singleton_append, Text.join_cons _ _ hne, hjoin, percentEncode_cons_of_not (by decide)]
  cases hwritten : percentEncode escapedInPath rest with
  | nil => rfl
  | cons c written =>
    rw [hwritten] at hhead
    have hc : ¬ (c == '/') = true := by simpa using hhead
    rw [List.nil_append, List.singleton_append, List.dropWhile_cons_of_pos rfl, List.dropWhile_cons,
      if_neg hc]

namespace Literal

variable {rest : List Char}

theorem renderPath_eq (h : Literal text) (hslash : text = '/' :: rest)
    (honce : rest.head? ≠ some '/') :
    renderPath (readPath (pathOf text)) = percentEncode escapedInPath (pathOf text) := by
  have hpath : pathOf text = '/' :: pathOf rest := by
    rw [hslash]
    rfl
  have hsub {c : Char} (hc : c ∈ pathOf text) : c ∈ text := by
    rw [eq_append_parts text]
    exact List.mem_append_left _ hc
  rw [hpath]
  refine renderPath_readPath (fun hmem => ?_) (fun hhead => ?_) fun raw hraw => ?_
  · exact h.slashes (hpath ▸ List.mem_cons_of_mem _ hmem)
  · apply honce
    rw [eq_append_parts rest, List.head?_append, hhead]
    rfl
  · have hmem : raw ∈ Text.split (· == '/') (pathOf text) := by
      rw [hpath, Text.split_cons_separator rfl]
      exact List.mem_cons_of_mem _ hraw
    obtain ⟨hdot, hdots⟩ := h.parts raw hmem
    refine ⟨fun c hc => h.kept c (hsub ?_), hdot, hdots⟩
    exact Text.subset_of_mem_split hmem hc

/-- What is behind the path is escaped as it stands. -/
theorem readRest_eq (h : Literal text) :
    ((Document.readRest (queryOf text ++ fragmentOf text)).1.map ('?' :: ·)).getD [] ++
        ((Document.readRest (queryOf text ++ fragmentOf text)).2.map ('#' :: ·)).getD [] =
      percentEncode escapedInQuery (queryOf text) ++
        percentEncode escapedInFragment (fragmentOf text) := by
  have hquery {after : List Char} (hafter : queryOf text = '?' :: after) :
      visible after = after := by
    refine visible_of_kept fun c hc => h.kept c ?_
    rw [eq_append_parts text, hafter]
    exact List.mem_append_right _ (List.mem_append_left _ (List.mem_cons_of_mem _ hc))
  have hfragment {after : List Char} (hafter : fragmentOf text = '#' :: after) :
      visible after = after := by
    refine visible_of_kept fun c hc => h.kept c ?_
    rw [eq_append_parts text, hafter]
    exact List.mem_append_right _ (List.mem_append_right _ (List.mem_cons_of_mem _ hc))
  rcases queryOf_cases text with hnone | ⟨query, hsome, hnumber⟩
  · rcases fragmentOf_cases text with hnone' | ⟨fragment, hsome'⟩
    · rw [hnone, hnone']
      rfl
    · rw [hnone, hsome', percentEncode_cons_of_not (by decide) fragment]
      simp only [List.nil_append, Document.readRest, hfragment hsome']
      rfl
  · have hfront : ∀ c ∈ query, (c != '#') = true := by
      intro c hc
      have hne : c ≠ '#' := fun heq => hnumber (heq ▸ hc)
      simpa using hne
    rw [hsome, percentEncode_cons_of_not (by decide) query, List.cons_append]
    rcases fragmentOf_cases text with hnone' | ⟨fragment, hsome'⟩
    · rw [hnone', List.append_nil]
      simp only [Document.readRest, List.takeWhile_eq_self_iff.mpr hfront,
        List.dropWhile_eq_nil_iff.mpr hfront, hquery hsome]
      rfl
    · rw [hsome', percentEncode_cons_of_not (by decide) fragment]
      simp only [Document.readRest, List.takeWhile_append_of_pos hfront,
        List.dropWhile_append_of_pos hfront]
      simp [hquery hsome, hfragment hsome']

/-- **A literal text is escaped, and nothing else is done to it.** -/
theorem render_assemble (h : Literal text) (hslash : text = '/' :: rest)
    (honce : rest.head? ≠ some '/') :
    (Document.assemble none text).render = Document.scheme ++ escape text := by
  obtain ⟨hpath, hrest⟩ := takeWhile_endsPath text
  rw [Document.render, Document.host_assemble_none, escape, ← h.renderPath_eq hslash honce,
    ← h.readRest_eq]
  simp only [Document.assemble, hpath, hrest]
  rfl

end Literal

end Uri

/-- **The locator of a literal text**: the scheme, and the text with each character as its part of a
locator writes it. -/
theorem documentUri_of_literal {path : String} {rest : List Char} (h : Uri.Literal path.toList)
    (hslash : path.toList = '/' :: rest) (honce : rest.head? ≠ some '/')
    (hlast : ∀ c ∈ path.toList.getLast?, 0x20 < c.toNat) :
    documentUri (some path) =
      .ok (String.ofList (Uri.Document.scheme ++ Uri.escape path.toList)) := by
  rw [documentUri_of_ofPath hslash (Uri.Document.ofPath_eq hslash hlast),
    h.render_assemble hslash honce]

end SchemaFormat
