import SchemaFormat.Path.Basic
import SchemaFormat.Proofs.Lines

/-!
The parts of a path that others were joined to.

A part is joined behind a slash (`bytes_join`), and so it becomes the last part of the path
(`parts_join`), which otherwise keeps its own. What is joined by one part after another is spelled
with a slash between each two (`bytes_joins`). If the part is a name, it is the file name of the
whole (`fileName?_join`).
-/

namespace SchemaFormat.Path

variable {p : Path} {n : Bytes}

/-! ### Bytes -/

/-- What a path begins with that goes on behind another one. -/
def lead (p : Path) : Bytes :=
  if p.bytes = [] ∨ p.endsInSlash then p.bytes else p.bytes ++ [slash]

/-- A path that is not empty begins with its own bytes. -/
theorem lead_eq_append (p : Path) :
    ∃ slashes, p.lead = p.bytes ++ slashes ∧ (slashes = [] ∨ slashes = [slash]) := by
  unfold lead
  split
  · exact ⟨[], (List.append_nil _).symm, .inl rfl⟩
  · exact ⟨[slash], rfl, .inr rfl⟩

/-- What holds no slash does not begin with one. -/
theorem isAbsolute_of_notMem (h : slash ∉ n) : (⟨n⟩ : Path).isAbsolute = false := by
  cases n with
  | nil => rfl
  | cons b n =>
    have hb : b ≠ slash := by
      rintro rfl
      exact h List.mem_cons_self
    simpa [isAbsolute] using hb

/-- What holds no slash does not end in one. -/
theorem endsInSlash_append (before : Bytes) (hne : n ≠ []) (h : slash ∉ n) :
    (⟨before ++ n⟩ : Path).endsInSlash = false := by
  have hlast : n.getLast hne ≠ slash := fun heq => h (heq ▸ List.getLast_mem hne)
  rw [endsInSlash, List.getLast?_append_of_ne_nil _ hne, List.getLast?_eq_getLast_of_ne_nil hne]
  simpa using hlast

theorem bytes_join_of_relative (base : Path) (h : p.isAbsolute = false) :
    (base.join p).bytes = base.lead ++ p.bytes := by
  rw [join, h, lead]
  by_cases hend : base.bytes = [] ∨ base.endsInSlash
  · rw [if_neg (by simp), if_pos hend, if_pos hend]
  · rw [if_neg (by simp), if_neg hend, if_neg hend, List.append_assoc, List.singleton_append]

theorem bytes_join (h : slash ∉ n) : (p.join ⟨n⟩).bytes = p.lead ++ n :=
  bytes_join_of_relative p (isAbsolute_of_notMem h)

theorem lead_join (hne : n ≠ []) (h : slash ∉ n) : (p.join ⟨n⟩).lead = p.lead ++ n ++ [slash] := by
  have hend : (p.join ⟨n⟩).endsInSlash = false := by
    rw [show p.join ⟨n⟩ = ⟨p.lead ++ n⟩ from congrArg Path.mk (bytes_join h)]
    exact endsInSlash_append _ hne h
  rw [lead, if_neg (by simp [hend, bytes_join h, hne]), bytes_join h]

/-- **What is joined part by part is spelled with a slash between each two.** -/
theorem bytes_joins {ns : List Bytes} (h : ∀ n ∈ ns, n ≠ [] ∧ slash ∉ n) (hne : ns ≠ []) :
    (ns.foldl (fun p n => p.join ⟨n⟩) p).bytes = p.lead ++ Text.join [slash] ns := by
  induction ns generalizing p with
  | nil => exact absurd rfl hne
  | cons n ns ih =>
    obtain ⟨hn, hslash⟩ := h n List.mem_cons_self
    rw [List.foldl_cons]
    by_cases hlast : ns = []
    · subst hlast
      simpa [Text.join] using bytes_join hslash
    · rw [ih (fun m hm => h m (List.mem_cons_of_mem n hm)) hlast, lead_join hn hslash,
        Text.join_cons _ _ hlast]
      simp only [List.append_assoc]

/-! ### Parts -/

theorem slash_notMem_of_mem_parts {part : Bytes} (h : part ∈ p.parts) : slash ∉ part := by
  intro hmem
  have hslash := Text.not_of_mem_split h slash hmem
  exact absurd hslash (by decide)

theorem split_of_slash_notMem (h : slash ∉ n) : Text.split (· == slash) n = [n] := by
  refine Text.split_of_not fun b hb => ?_
  have hne : b ≠ slash := fun heq => h (heq ▸ hb)
  simpa using hne

/-- A slash at the end makes an empty part, which what is joined takes the place of. -/
theorem parts_join (p : Path) (h : slash ∉ n) :
    ∃ before after, p.parts = before ++ after ∧ (∀ part ∈ after, part = []) ∧
      (p.join ⟨n⟩).parts = before ++ [n] := by
  have hn := split_of_slash_notMem h
  by_cases hempty : p.bytes = []
  · refine ⟨[], [[]], by rw [parts, hempty]; rfl, by simp, ?_⟩
    rw [parts, bytes_join h, lead, if_pos (.inl hempty), hempty]
    exact hn
  by_cases hend : p.endsInSlash = true
  · obtain ⟨first, hfirst⟩ : ∃ first, p.bytes = first ++ [slash] :=
      List.getLast?_eq_some_iff.mp (by simpa [endsInSlash] using hend)
    refine ⟨Text.split (· == slash) first, [[]], ?_, by simp, ?_⟩
    · rw [parts, hfirst, Text.split_append_separator (by decide)]
      rfl
    · rw [parts, bytes_join h, lead, if_pos (.inr hend), hfirst, List.append_assoc,
        List.singleton_append, Text.split_append_separator (by decide), hn]
  · refine ⟨p.parts, [], (List.append_nil _).symm, by simp, ?_⟩
    rw [parts, bytes_join h, lead, if_neg (by simp [hempty, hend]), List.append_assoc,
      List.singleton_append, Text.split_append_separator (by decide), hn, parts]

/-! ### Names -/

theorem component?_eq_normal_iff {part : Bytes} :
    component? part = some (.normal n) ↔ part = n ∧ n ≠ [] ∧ n ≠ [dot] ∧ n ≠ [dot, dot] := by
  unfold component?
  constructor
  · intro h
    split_ifs at h with hnone hparent
    · cases h
    · rw [not_or] at hnone
      obtain rfl := Component.normal.inj (Option.some.inj h)
      exact ⟨rfl, hnone.1, hnone.2, hparent⟩
  · rintro ⟨rfl, hempty, hdot, hdots⟩
    rw [if_neg (by simp [hempty, hdot]), if_neg hdots]

/-- The file name is what the last part with a meaning names. -/
theorem fileName?_eq_some_iff :
    p.fileName? = some n ↔ (p.parts.filterMap component?).getLast? = some (.normal n) := by
  have hname : p.fileName? = some n ↔ p.components.getLast? = some (.normal n) := by
    unfold fileName?
    cases p.components.getLast? with
    | none => simp
    | some last => cases last <;> simp
  rw [hname, components]
  have hbehind {first : Component} (hfirst : first ≠ .normal n) :
      (first :: p.parts.filterMap component?).getLast? = some (.normal n) ↔
        (p.parts.filterMap component?).getLast? = some (.normal n) := by
    cases p.parts.filterMap component? with
    | nil => simpa using hfirst
    | cons second rest => rw [List.getLast?_cons_cons]
  split_ifs
  · exact hbehind (by simp)
  · exact hbehind (by simp)
  · exact Iff.rfl

/-- **A name is the file name of the path that it was joined to.** -/
theorem fileName?_join (p : Path) (h : slash ∉ n) (hn : component? n = some (.normal n)) :
    (p.join ⟨n⟩).fileName? = some n := by
  obtain ⟨before, after, -, -, hparts⟩ := p.parts_join h
  rw [fileName?_eq_some_iff, hparts, List.filterMap_append]
  simp [hn]

/-- A slash at the end leaves the file name. -/
theorem fileName?_join_nil (h : p.fileName? = some n) : (p.join ⟨[]⟩).fileName? = some n := by
  obtain ⟨before, after, hbefore, hafter, hparts⟩ := p.parts_join (n := []) (by simp)
  have hnone : after.filterMap component? = [] :=
    List.filterMap_eq_nil_iff.mpr fun part hpart => by rw [hafter part hpart]; rfl
  rw [fileName?_eq_some_iff, hbefore, List.filterMap_append, hnone, List.append_nil] at h
  rw [fileName?_eq_some_iff, hparts, List.filterMap_append]
  simpa [component?] using h

end SchemaFormat.Path
