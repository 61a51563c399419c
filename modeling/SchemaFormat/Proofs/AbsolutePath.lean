import SchemaFormat.Proofs.Pieces
import SchemaFormat.Proofs.Steps

/-!
Absolute paths and absolute spellings.

Every path but the empty one has an absolute spelling, and that begins with a slash
(`absolute?_isAbsolute`). It is what the path's own components are joined to (`exists_extend`), so
it has the file name of the path (`fileName?_absolute?`), and no part of it is one dot
(`dot_notMem_absolute?`). A path that is spelled out from the root is its own absolute spelling,
wherever relative paths start (`Spelled.absolute?_eq`). A path is shown part by part
(`split_display`).
-/

namespace SchemaFormat.Path

variable {p q base directory : Path} {n : Bytes}

/-! ### Absolute paths -/

theorem isAbsolute_join {base : Path} (p : Path) (h : base.isAbsolute = true) :
    (base.join p).isAbsolute = true := by
  obtain ⟨rest, hrest⟩ := isAbsolute_iff.mp h
  unfold join
  split
  · assumption
  · split <;> exact isAbsolute_iff.mpr ⟨_, by rw [hrest]; rfl⟩

theorem isAbsolute_extend (base : Path) (cs : List Component) (h : base.isAbsolute = true) :
    (base.extend cs).isAbsolute = true := by
  unfold extend
  induction cs generalizing base with
  | nil => exact h
  | cons c rest ih => exact ih _ (isAbsolute_join _ h)

/-- **Every path but the empty one has an absolute spelling**, wherever an absolute directory lets
relative paths start. -/
theorem absolute?_isAbsolute {directory p : Path} (hd : directory.isAbsolute = true)
    (hp : p.bytes ≠ []) : ∃ q, absolute? directory p = some q ∧ q.isAbsolute = true := by
  rw [absolute?, if_neg hp]
  refine ⟨_, rfl, ?_⟩
  have hfound : (if p.hasTwoSlashes then
        extend ⟨[slash, slash]⟩ ((p.components.filter (· ≠ .current)).drop 1)
      else if p.isAbsolute then extend ⟨[]⟩ (p.components.filter (· ≠ .current))
      else extend directory (p.components.filter (· ≠ .current))).isAbsolute = true := by
    split
    · exact isAbsolute_extend _ _ rfl
    · split
      · next h =>
        -- The root comes first, and joining it to nothing gives the root.
        rw [components_of_isAbsolute h, List.filter_cons_of_pos (by decide)]
        exact isAbsolute_extend ⟨[slash]⟩ _ rfl
      · exact isAbsolute_extend _ _ hd
  split
  · exact isAbsolute_join _ hfound
  · exact hfound

/-! ### What is joined -/

/-- **What an absolute spelling is made of**: the components that mean something, joined to two
slashes, to nothing or to where relative paths start. If two slashes are in front already, the root
is not joined to them. -/
theorem exists_extend (h : absolute? directory p = some q) :
    ∃ base before cs, (base = ⟨[slash, slash]⟩ ∨ base = ⟨[]⟩ ∨ base = directory) ∧
      p.components.filter (· ≠ .current) = before ++ cs ∧ (∀ c ∈ before, c = .root) ∧
      q = if p.endsInSlash then (extend base cs).join ⟨[]⟩ else extend base cs := by
  unfold absolute? at h
  split at h
  · cases h
  dsimp only at h
  obtain rfl := Option.some.inj h
  by_cases htwo : p.hasTwoSlashes = true
  · have hcomponents := components_of_isAbsolute (isAbsolute_of_hasTwoSlashes htwo)
    refine ⟨⟨[slash, slash]⟩, [.root], (p.components.filter (· ≠ .current)).drop 1, .inl rfl,
      ?_, by simp, ?_⟩
    · rw [hcomponents, List.filter_cons_of_pos (by decide)]
      rfl
    · rw [if_pos htwo]
  · rw [if_neg htwo]
    by_cases habsolute : p.isAbsolute = true
    · exact ⟨⟨[]⟩, [], _, .inr (.inl rfl), rfl, by simp, by rw [if_pos habsolute]⟩
    · exact ⟨directory, [], _, .inr (.inr rfl), rfl, by simp, by rw [if_neg habsolute]⟩

/-! ### File names -/

theorem extend_append (base : Path) (cs : List Component) (c : Component) :
    extend base (cs ++ [c]) = (extend base cs).join ⟨c.spelling⟩ := by
  rw [extend, List.foldl_concat]
  rfl

/-- The file name is the last part with a meaning, and it is a name. -/
theorem of_fileName? (h : p.fileName? = some n) :
    slash ∉ n ∧ component? n = some (.normal n) ∧
      ∃ before, p.components.filter (· ≠ .current) = before ++ [.normal n] := by
  obtain ⟨before, hbefore⟩ := List.getLast?_eq_some_iff.mp (fileName?_eq_some_iff.mp h)
  have hmem : Component.normal n ∈ p.parts.filterMap component? := by
    rw [hbefore]
    exact List.mem_append_right before (List.mem_singleton.mpr rfl)
  obtain ⟨part, hpart, hname⟩ := List.mem_filterMap.mp hmem
  obtain ⟨rfl, hmeans⟩ := component?_eq_normal_iff.mp hname
  refine ⟨slash_notMem_of_mem_parts hpart, hname, ?_⟩
  have hfirst : ∃ first, p.components = first ++ p.parts.filterMap component? := by
    unfold components
    split_ifs
    · exact ⟨[.root], rfl⟩
    · exact ⟨[.current], rfl⟩
    · exact ⟨[], rfl⟩
  obtain ⟨first, hfirst⟩ := hfirst
  refine ⟨(first ++ before).filter (· ≠ .current), ?_⟩
  rw [hfirst, hbefore, ← List.append_assoc, List.filter_append]
  rfl

/-- **An absolute spelling has the file name of the path.** -/
theorem fileName?_absolute? (h : p.fileName? = some n)
    (habsolute : absolute? directory p = some q) :
    q.fileName? = some n := by
  obtain ⟨hslash, hn, before, hbefore⟩ := of_fileName? h
  obtain ⟨base, roots, cs, -, hcs, hroots, rfl⟩ := exists_extend habsolute
  obtain ⟨more, rfl⟩ : ∃ more, cs = more ++ [.normal n] := by
    rw [hbefore] at hcs
    rcases List.eq_nil_or_concat cs with rfl | ⟨more, last, rfl⟩
    · -- Only the root was left out.
      have hroot := hroots (.normal n) (by simp [← List.append_nil roots ▸ hcs])
      cases hroot
    · rw [List.concat_eq_append, ← List.append_assoc] at hcs
      obtain ⟨-, hlast⟩ := List.append_inj' hcs rfl
      exact ⟨more, by rw [hlast, List.concat_eq_append]⟩
  have hfound : (extend base (more ++ [.normal n])).fileName? = some n := by
    rw [extend_append]
    exact fileName?_join _ hslash hn
  split
  · exact fileName?_join_nil hfound
  · exact hfound

/-! ### Dots -/

/-- What is joined is the last part, and no other part is new. -/
theorem notMem_parts_join {part : Bytes} (hbase : part ∉ base.parts) (hslash : slash ∉ n)
    (hn : part ≠ n) :
    part ∉ (base.join ⟨n⟩).parts := by
  obtain ⟨before, after, hbefore, -, hparts⟩ := base.parts_join hslash
  rw [hbefore, List.mem_append, not_or] at hbase
  rw [hparts, List.mem_append, List.mem_singleton, not_or]
  exact ⟨hbase.1, hn⟩

/-- No component that means something is spelled as one dot. -/
theorem dot_notMem_join {c : Component} (hc : c ∈ p.components) (hcurrent : c ≠ .current)
    (hbase : [dot] ∉ base.parts) : [dot] ∉ (base.join ⟨c.spelling⟩).parts := by
  cases c with
  | root => exact (by decide : [dot] ∉ (⟨[slash]⟩ : Path).parts)
  | current => exact absurd rfl hcurrent
  | parent => exact notMem_parts_join hbase (by decide) (by decide)
  | normal n =>
    have hmem : Component.normal n ∈ p.parts.filterMap component? := by
      unfold components at hc
      split_ifs at hc
      · simpa using hc
      · simpa using hc
      · exact hc
    obtain ⟨part, hpart, hname⟩ := List.mem_filterMap.mp hmem
    obtain ⟨rfl, -, hdot, -⟩ := component?_eq_normal_iff.mp hname
    exact notMem_parts_join hbase (slash_notMem_of_mem_parts hpart) (Ne.symm hdot)

/-- **No part of an absolute spelling is one dot**, if none is where relative paths start. -/
theorem dot_notMem_absolute? (hdirectory : [dot] ∉ directory.parts)
    (habsolute : absolute? directory p = some q) :
    [dot] ∉ q.parts := by
  obtain ⟨base, roots, cs, hbase, hcs, -, rfl⟩ := exists_extend habsolute
  have hstart : [dot] ∉ base.parts := by
    rcases hbase with rfl | rfl | rfl
    · decide
    · decide
    · exact hdirectory
  have hfound : [dot] ∉ (extend base cs).parts := by
    have hmeans : ∀ c ∈ cs, c ∈ p.components ∧ c ≠ .current := by
      intro c hc
      have hmem : c ∈ p.components.filter (· ≠ .current) := hcs ▸ List.mem_append_right roots hc
      simpa using List.mem_filter.mp hmem
    clear hcs hbase habsolute
    unfold extend
    induction cs generalizing base with
    | nil => exact hstart
    | cons c cs ih =>
      obtain ⟨hc, hcurrent⟩ := hmeans c List.mem_cons_self
      exact ih _ (dot_notMem_join hc hcurrent hstart) fun d hd =>
        hmeans d (List.mem_cons_of_mem c hd)
  split
  · exact notMem_parts_join hfound (by simp) (by simp)
  · exact hfound

/-! ### Spelled out -/

/-- A path is spelled out from the root: behind the slash in front each part is a name. -/
structure Spelled (p : Path) : Prop where
  absolute : p.isAbsolute = true
  names : ∀ part ∈ p.parts.tail, part ≠ [] ∧ part ≠ [dot] ∧ part ≠ [dot, dot]

instance (p : Path) : Decidable p.Spelled :=
  decidable_of_iff
    (p.isAbsolute = true ∧ ∀ part ∈ p.parts.tail, part ≠ [] ∧ part ≠ [dot] ∧ part ≠ [dot, dot])
    ⟨fun ⟨habsolute, hnames⟩ => ⟨habsolute, hnames⟩, fun ⟨habsolute, hnames⟩ => ⟨habsolute, hnames⟩⟩

namespace Spelled

theorem exists_names (h : p.Spelled) :
    ∃ rest, p.bytes = slash :: rest ∧ p.parts = [] :: Text.split (· == slash) rest ∧
      ∀ part ∈ Text.split (· == slash) rest,
        component? part = some (.normal part) ∧ slash ∉ part := by
  obtain ⟨rest, hrest⟩ := isAbsolute_iff.mp h.absolute
  have hparts := parts_of_bytes hrest
  refine ⟨rest, hrest, hparts, fun part hpart => ⟨?_, ?_⟩⟩
  · have hname := h.names part (by rw [hparts]; exact hpart)
    exact component?_eq_normal_iff.mpr ⟨rfl, hname⟩
  · refine slash_notMem_of_mem_parts (p := p) ?_
    rw [hparts]
    exact List.mem_cons_of_mem _ hpart

/-- **A path that is spelled out is its own absolute spelling.** -/
theorem absolute?_eq (h : p.Spelled) (directory : Path) : absolute? directory p = some p := by
  obtain ⟨rest, hrest, -, hnames⟩ := h.exists_names
  have hjoin : p = ⟨[slash] ++ Text.join [slash] (Text.split (· == slash) rest) ++ []⟩ := by
    refine congrArg Path.mk (hrest.trans ?_)
    rw [Text.join_split fun b _ hb => beq_iff_eq.mp hb, List.append_nil]
    rfl
  have hsteps : ∀ part ∈ Text.split (· == slash) rest, IsStep part := by
    intro part hpart
    obtain ⟨hname, hslash⟩ := hnames part hpart
    obtain ⟨-, hempty, hdot, -⟩ := component?_eq_normal_iff.mp hname
    exact ⟨hempty, hdot, hslash⟩
  rw [hjoin]
  exact absolute?_of_join_steps hsteps (Text.split_ne_nil rest) (.inl rfl) (.inl rfl) directory

end Spelled

/-! ### How a path is shown -/

/-- An absolute path is shown with a slash in front, whatever bytes follow. -/
theorem display_of_isAbsolute {p : Path} (h : p.isAbsolute = true) :
    ∃ rest, p.display.toList = '/' :: rest := by
  obtain ⟨bytes, hbytes⟩ := isAbsolute_iff.mp h
  refine ⟨Utf8.decodeLossy bytes, ?_⟩
  rw [display, Bytes.display, hbytes, String.toList_ofList]
  exact Utf8.decodeLossy_cons_ascii (c := '/') (by decide) bytes

theorem display_ofString (s : String) : (ofString s).display = s := by
  rw [display, ofString, Bytes.display, Bytes.ofString, Utf8.decodeLossy_encode,
    String.ofList_toList]

/-- **The parts of a path are shown one by one.** -/
theorem split_display (p : Path) :
    Text.split (· == '/') p.display.toList = p.parts.map Utf8.decodeLossy := by
  have hjoin : p.bytes = Text.join [slash] p.parts :=
    (Text.join_split fun b _ hb => beq_iff_eq.mp hb).symm
  have hne : p.parts.map Utf8.decodeLossy ≠ [] := by
    rw [ne_eq, List.map_eq_nil_iff]
    exact Text.split_ne_nil p.bytes
  have hshown : Utf8.decodeLossy p.bytes = Text.join ['/'] (p.parts.map Utf8.decodeLossy) := by
    conv_lhs => rw [hjoin]
    exact Text.map_join rfl (Utf8.decodeLossy_append_ascii (b := slash) (by decide)) p.parts
  rw [display, Bytes.display, String.toList_ofList, hshown]
  refine Text.split_join rfl hne fun text htext c hc => ?_
  obtain ⟨part, hpart, rfl⟩ := List.mem_map.mp htext
  have hslash : c ≠ '/' := by
    rintro rfl
    exact Utf8.ascii_notMem_decodeLossy (c := '/') (by decide) (slash_notMem_of_mem_parts hpart) hc
  simpa using hslash

/-- No part but one dot is shown as one. -/
theorem dot_notMem_display (h : [dot] ∉ p.parts) :
    ['.'] ∉ Text.split (· == '/') p.display.toList := by
  intro hmem
  rw [split_display] at hmem
  obtain ⟨part, hpart, hshown⟩ := List.mem_map.mp hmem
  obtain rfl : part = [dot] := Utf8.eq_of_decodeLossy_eq_ascii (c := '.') (by decide) hshown
  exact h hpart

end SchemaFormat.Path
