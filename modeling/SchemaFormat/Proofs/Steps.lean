import SchemaFormat.Proofs.PathParts

/-!
The steps of a path.

A part of a path is a step if it means something: a name or two dots. A slash ends one step and
begins the next (`steps_append_slash`), and steps are read back from a path that joins them
(`steps_join`). A path that has a step is spelled from the root by its steps, with one slash between
each two (`absolute?_eq_of_steps`): what stands in front of them hangs on how the path begins, and
what stands behind them on how it ends. A path that is spelled like that is its own absolute
spelling (`absolute?_of_join_steps`).
-/

namespace SchemaFormat.Path

variable {p q base directory : Path} {n after : Bytes} {ns : List Bytes}

/-! ### Absolute paths -/

theorem isAbsolute_iff {p : Path} : p.isAbsolute = true ↔ ∃ rest, p.bytes = slash :: rest := by
  unfold isAbsolute
  cases p.bytes with
  | nil => simp
  | cons b rest => simp

theorem isAbsolute_of_hasTwoSlashes (h : p.hasTwoSlashes = true) : p.isAbsolute = true := by
  obtain ⟨htwo, -⟩ := Bool.and_eq_true_iff.mp h
  obtain ⟨rest, hrest⟩ := List.isPrefixOf_iff_prefix.mp htwo
  rw [isAbsolute, ← hrest]
  rfl

theorem components_of_isAbsolute {p : Path} (h : p.isAbsolute = true) :
    p.components = .root :: p.parts.filterMap component? := by
  rw [components, if_pos h]

theorem parts_of_bytes {rest : Bytes} (h : p.bytes = slash :: rest) :
    p.parts = [] :: Text.split (· == slash) rest := by
  rw [parts, h]
  exact Text.split_cons_separator (by decide) rest

/-! ### Steps -/

/-- A part of a path that means something: a name or two dots. -/
def IsStep (part : Bytes) : Prop :=
  part ≠ [] ∧ part ≠ [dot] ∧ slash ∉ part

/-- The parts of a path that mean something. -/
def steps (p : Path) : List Bytes :=
  p.parts.filter fun part => (component? part).isSome

theorem isSome_component?_iff {part : Bytes} :
    (component? part).isSome = true ↔ part ≠ [] ∧ part ≠ [dot] := by
  unfold component?
  split_ifs with hnone hparent
  · rcases hnone with rfl | rfl <;> simp
  · subst hparent
    simp
  · rw [not_or] at hnone
    simpa using hnone

theorem isStep_of_mem_steps {part : Bytes} (h : part ∈ p.steps) : IsStep part := by
  obtain ⟨hpart, hmeans⟩ := List.mem_filter.mp h
  obtain ⟨hempty, hdot⟩ := isSome_component?_iff.mp hmeans
  exact ⟨hempty, hdot, slash_notMem_of_mem_parts hpart⟩

theorem map_spelling_component? (part : Bytes) :
    (component? part).map Component.spelling =
      if (component? part).isSome then some part else none := by
  unfold component?
  split_ifs with hnone hparent <;> simp_all [Component.spelling]

theorem map_spelling_eq_steps (p : Path) :
    (p.parts.filterMap component?).map Component.spelling = p.steps := by
  rw [List.map_filterMap, steps, ← List.filterMap_eq_filter]
  refine List.filterMap_congr fun part _ => ?_
  rw [map_spelling_component?, Option.guard]

theorem filterMap_steps (p : Path) :
    p.steps.filterMap component? = p.parts.filterMap component? := by
  rw [steps, List.filterMap_filter]
  refine List.filterMap_congr fun part _ => ?_
  cases component? part <;> rfl

/-- The steps of a path determine its file name. -/
theorem fileName?_congr (h : q.steps = p.steps) : q.fileName? = p.fileName? := by
  refine Option.ext fun n => ?_
  rw [fileName?_eq_some_iff, fileName?_eq_some_iff, ← filterMap_steps q, h, filterMap_steps]

theorem steps_ne_nil (h : p.fileName? = some n) : p.steps ≠ [] := by
  intro hnil
  rw [fileName?_eq_some_iff, ← filterMap_steps, hnil] at h
  cases h

/-- **A slash ends one step and begins the next.** -/
theorem steps_append_slash (before after : Bytes) :
    (⟨before ++ slash :: after⟩ : Path).steps =
      (⟨before⟩ : Path).steps ++ (⟨after⟩ : Path).steps := by
  rw [steps, parts, Text.split_append_separator (by decide), List.filter_append]
  rfl

theorem steps_nil : (⟨[]⟩ : Path).steps = [] := by decide

theorem steps_cons_slash (after : Bytes) :
    (⟨slash :: after⟩ : Path).steps = (⟨after⟩ : Path).steps := by
  have h := steps_append_slash [] after
  rwa [steps_nil] at h

theorem bytes_ne_nil_of_steps (h : p.steps ≠ []) : p.bytes ≠ [] := by
  intro hnil
  rw [show p = ⟨[]⟩ from congrArg Path.mk hnil, steps_nil] at h
  exact h rfl

/-- Steps are read back from a path that joins them. -/
theorem steps_join (h : ∀ part ∈ ns, IsStep part) : (⟨Text.join [slash] ns⟩ : Path).steps = ns := by
  by_cases hne : ns = []
  · subst hne
    rfl
  · have hsplit : Text.split (· == slash) (Text.join [slash] ns) = ns := by
      refine Text.split_join (by decide) hne fun part hpart b hb => ?_
      have hslash : b ≠ slash := fun heq => (h part hpart).2.2 (heq ▸ hb)
      simpa using hslash
    rw [steps, parts, hsplit, List.filter_eq_self]
    intro part hpart
    exact isSome_component?_iff.mpr ⟨(h part hpart).1, (h part hpart).2.1⟩

/-- Steps that are each followed by a slash are read back in front of others. -/
theorem steps_flatMap_append (h : ∀ part ∈ ns, IsStep part) (after : Bytes) :
    (⟨ns.flatMap (· ++ [slash]) ++ after⟩ : Path).steps = ns ++ (⟨after⟩ : Path).steps := by
  induction ns with
  | nil => rfl
  | cons part ns ih =>
    obtain ⟨hpart, hns⟩ := List.forall_mem_cons.mp h
    have hone : (⟨part⟩ : Path).steps = [part] := by
      have hjoin : (⟨Text.join [slash] [part]⟩ : Path).steps = [part] :=
        steps_join (by simpa using hpart)
      rwa [show Text.join [slash] [part] = part from List.append_nil part] at hjoin
    rw [List.flatMap_cons, List.append_assoc, List.append_assoc, List.singleton_append,
      steps_append_slash, hone, ih hns]
    rfl

/-! ### The spelling from the root -/

/-- What an absolute spelling begins with. -/
def front (directory p : Path) : Bytes :=
  if p.hasTwoSlashes then [slash, slash] else if p.isAbsolute then [slash] else directory.lead

/-- What an absolute spelling ends with. -/
def back (p : Path) : Bytes :=
  if p.endsInSlash then [slash] else []

theorem filter_components (p : Path) : p.components.filter (· ≠ .current) =
    (if p.isAbsolute then [.root] else []) ++ p.parts.filterMap component? := by
  have hkept : (p.parts.filterMap component?).filter (· ≠ .current) =
      p.parts.filterMap component? := by
    refine List.filter_eq_self.mpr fun c hc => ?_
    obtain ⟨part, -, hpart⟩ := List.mem_filterMap.mp hc
    unfold component? at hpart
    split_ifs at hpart <;> simp [← Option.some.inj hpart]
  unfold components
  split_ifs
  · rw [List.filter_cons_of_pos (by decide), hkept]
    rfl
  · rw [List.filter_cons_of_neg (by decide), hkept]
    rfl
  · exact hkept

theorem extend_eq_foldl (base p : Path) :
    extend base (p.parts.filterMap component?) = p.steps.foldl (fun p n => p.join ⟨n⟩) base := by
  rw [← map_spelling_eq_steps, List.foldl_map]
  rfl

theorem join_nil (base : Path) : base.join ⟨[]⟩ = ⟨base.lead⟩ :=
  congrArg Path.mk ((bytes_join (by simp)).trans (List.append_nil _))

/-- What is joined step by step is spelled with a slash between each two, and goes on behind another
one. -/
theorem bytes_join_steps (base : Path) (h : ∀ part ∈ ns, IsStep part) (hne : ns ≠ []) :
    (ns.foldl (fun p n => p.join ⟨n⟩) base).bytes = base.lead ++ Text.join [slash] ns ∧
      (ns.foldl (fun p n => p.join ⟨n⟩) base).lead =
        base.lead ++ Text.join [slash] ns ++ [slash] := by
  have hbytes := bytes_joins (p := base) (fun n hn => ⟨(h n hn).1, (h n hn).2.2⟩) hne
  refine ⟨hbytes, ?_⟩
  obtain ⟨first, last, rfl⟩ := (List.eq_nil_or_concat ns).resolve_left hne
  obtain ⟨hempty, -, hslash⟩ := h last (by simp)
  rw [List.concat_eq_append] at hbytes ⊢
  rw [List.foldl_concat, bytes_join hslash] at hbytes
  rw [List.foldl_concat, lead_join hempty hslash, hbytes]

/-- What means something is joined step by step to what an absolute spelling begins with. -/
theorem exists_joined_steps (directory p : Path) : ∃ base : Path, base.lead = front directory p ∧
    (if p.hasTwoSlashes then extend ⟨[slash, slash]⟩ ((p.components.filter (· ≠ .current)).drop 1)
    else if p.isAbsolute then extend ⟨[]⟩ (p.components.filter (· ≠ .current))
    else extend directory (p.components.filter (· ≠ .current))) =
      p.steps.foldl (fun p n => p.join ⟨n⟩) base := by
  rw [filter_components, front]
  by_cases htwo : p.hasTwoSlashes = true
  · rw [if_pos htwo, if_pos htwo, if_pos (isAbsolute_of_hasTwoSlashes htwo)]
    exact ⟨⟨[slash, slash]⟩, rfl, extend_eq_foldl _ p⟩
  · rw [if_neg htwo, if_neg htwo]
    by_cases habsolute : p.isAbsolute = true
    · -- The root is joined first, and joined to nothing it is one slash.
      rw [if_pos habsolute, if_pos habsolute, if_pos habsolute]
      exact ⟨⟨[slash]⟩, rfl, extend_eq_foldl _ p⟩
    · rw [if_neg habsolute, if_neg habsolute, if_neg habsolute]
      exact ⟨directory, rfl, extend_eq_foldl _ p⟩

/-- **How a path is spelled from the root**: its steps, one slash between each two, with what was in
front of them and one slash at the end if there was any. -/
theorem absolute?_eq_of_steps (h : p.steps ≠ []) (directory : Path) :
    absolute? directory p = some ⟨front directory p ++ Text.join [slash] p.steps ++ back p⟩ := by
  have hne := bytes_ne_nil_of_steps h
  obtain ⟨base, hbase, hfound⟩ := exists_joined_steps directory p
  obtain ⟨hbytes, hlead⟩ := bytes_join_steps base (fun _ => isStep_of_mem_steps) h
  rw [absolute?, if_neg hne]
  dsimp only
  rw [hfound, back, ← hbase]
  split
  · rw [join_nil, hlead]
  · rw [List.append_nil, ← hbytes]

/-! ### Spelled from the root -/

/-- A path with no empty part behind the slash in front does not end in a slash. -/
theorem endsInSlash_of_parts (h : p.isAbsolute = true) (hparts : [] ∉ p.parts.tail) :
    p.endsInSlash = false := by
  obtain ⟨rest, hrest⟩ := isAbsolute_iff.mp h
  by_contra hend
  rw [Bool.not_eq_false, endsInSlash, beq_iff_eq] at hend
  obtain ⟨first, hfirst⟩ := List.getLast?_eq_some_iff.mp hend
  have hlast : p.parts.getLast? = some [] := by
    rw [parts, hfirst, Text.split_append_separator (by decide), Text.split_nil,
      List.getLast?_concat]
  rw [parts_of_bytes hrest, List.tail_cons] at hparts
  rw [parts_of_bytes hrest, List.getLast?_cons,
    List.getLast?_eq_some_getLast (Text.split_ne_nil rest), Option.getD_some,
    Option.some.injEq] at hlast
  exact hparts (hlast ▸ List.getLast_mem _)

/-- How many slashes are in front. -/
theorem hasTwoSlashes_cons (h : after.head? ≠ some slash) :
    (⟨slash :: after⟩ : Path).hasTwoSlashes = false ∧
    (⟨slash :: slash :: after⟩ : Path).hasTwoSlashes = true := by
  cases after with
  | nil => decide
  | cons b rest =>
    have hb : slash ≠ b := fun heq => h (by rw [heq]; rfl)
    constructor
    · simp [hasTwoSlashes, List.isPrefixOf, hb]
    · simp [hasTwoSlashes, List.isPrefixOf, hb]

/-- Joined steps begin with no slash. -/
theorem head?_join_steps (h : ∀ part ∈ ns, IsStep part) (hne : ns ≠ []) (after : Bytes) :
    (Text.join [slash] ns ++ after).head? ≠ some slash := by
  obtain ⟨part, more, rfl⟩ := List.exists_cons_of_ne_nil hne
  obtain ⟨hempty, -, hslash⟩ := h part List.mem_cons_self
  obtain ⟨b, rest, rfl⟩ := List.exists_cons_of_ne_nil hempty
  intro hhead
  exact hslash (by rw [← Option.some.inj hhead]; exact List.mem_cons_self)

/-- Nor do they end in one. -/
theorem endsInSlash_join_steps (h : ∀ part ∈ ns, IsStep part) (hne : ns ≠ []) (before : Bytes) :
    (⟨before ++ Text.join [slash] ns⟩ : Path).endsInSlash = false := by
  obtain ⟨first, last, rfl⟩ := (List.eq_nil_or_concat ns).resolve_left hne
  obtain ⟨hempty, -, hslash⟩ := h last (by simp)
  rw [List.concat_eq_append, Text.join_append_eq_flatMap _ _ (by simp), ← List.append_assoc,
    show Text.join [slash] [last] = last from List.append_nil last]
  exact endsInSlash_append _ hempty hslash

/-- **A path that is spelled from the root is its own absolute spelling.** -/
theorem absolute?_of_join_steps (h : ∀ part ∈ ns, IsStep part) (hne : ns ≠ []) {front back : Bytes}
    (hfront : front = [slash] ∨ front = [slash, slash]) (hback : back = [] ∨ back = [slash])
    (directory : Path) :
    absolute? directory ⟨front ++ Text.join [slash] ns ++ back⟩ =
      some ⟨front ++ Text.join [slash] ns ++ back⟩ := by
  have hsteps : (⟨front ++ Text.join [slash] ns ++ back⟩ : Path).steps = ns := by
    have hjoin : (⟨Text.join [slash] ns ++ back⟩ : Path).steps = ns := by
      rcases hback with rfl | rfl
      · rw [List.append_nil, steps_join h]
      · rw [steps_append_slash, steps_join h, steps_nil, List.append_nil]
    rw [List.append_assoc]
    rcases hfront with rfl | rfl
    · exact (steps_cons_slash _).trans hjoin
    · exact (steps_cons_slash _).trans ((steps_cons_slash _).trans hjoin)
  have hstart : Path.front directory ⟨front ++ Text.join [slash] ns ++ back⟩ = front := by
    obtain ⟨hone, htwo⟩ := hasTwoSlashes_cons (head?_join_steps h hne back)
    rw [List.append_assoc, Path.front]
    rcases hfront with rfl | rfl
    · rw [List.singleton_append, hone]
      rfl
    · rw [List.cons_append, List.singleton_append, htwo]
      rfl
  have hend : Path.back ⟨front ++ Text.join [slash] ns ++ back⟩ = back := by
    rw [Path.back]
    rcases hback with rfl | rfl
    · rw [List.append_nil, endsInSlash_join_steps h hne]
      rfl
    · rw [endsInSlash, List.getLast?_concat]
      rfl
  rw [absolute?_eq_of_steps (by rw [hsteps]; exact hne), hsteps, hstart, hend]

end SchemaFormat.Path
