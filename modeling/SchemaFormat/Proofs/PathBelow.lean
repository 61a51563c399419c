import SchemaFormat.Formatter.Collect
import SchemaFormat.Proofs.Following
import SchemaFormat.Proofs.PathParts

/-!
Paths into a directory.

The path from a target to what stands below it is the target, a slash unless it ends in one, and the
names with a slash between each two (`bytes_pathBelow`). So its parts are those of the target and
then the names (`parts_pathBelow`), other names make another path (`pathBelow_injective`), and its
language is that of the last name (`ofPath?_pathBelow`). If the target leads to a directory, the
path leads to what stands below it (`lookup_pathBelow`).
-/

namespace SchemaFormat

theorem component?_of_isName {n : Name} (h : isName n = true) :
    Path.component? n = some (.normal n) := by
  obtain ⟨hempty, hdot, hdots, -, -⟩ := isName_iff.mp h
  exact Path.component?_eq_normal_iff.mpr ⟨rfl, hempty, hdot, hdots⟩

/-- The language of a path hangs on its file name. -/
theorem Language.ofPath?_congr {p q : Path} (h : q.fileName? = p.fileName?) :
    ofPath? q = ofPath? p := by
  rw [ofPath?, ofPath?, Path.extension?, Path.extension?, h]

theorem slash_notMem_of_isName {n : Name} (h : isName n = true) : Path.slash ∉ n :=
  (isName_iff.mp h).2.2.2.1

/-! ### The path to what stands below a target -/

namespace Collected

variable {target : Path} {names : Location}

/-- The path is the target, a slash unless it ends in one, and the names with slashes between them.
-/
theorem bytes_pathBelow (hnames : ∀ n ∈ names, isName n = true) (hne : names ≠ []) :
    (pathBelow target names).bytes = target.lead ++ FileSystem.relative names := by
  refine Path.bytes_joins (fun n hn => ?_) hne
  exact ⟨(isName_iff.mp (hnames n hn)).1, slash_notMem_of_isName (hnames n hn)⟩

theorem isSlash_of_mem_name (hnames : ∀ n ∈ names, isName n = true) :
    ∀ n ∈ names, ∀ b ∈ n, (b == Path.slash) = false := by
  intro n hn b hb
  have hne : b ≠ Path.slash := fun heq => slash_notMem_of_isName (hnames n hn) (heq ▸ hb)
  simpa using hne

theorem split_relative (hnames : ∀ n ∈ names, isName n = true) (hne : names ≠ []) :
    Text.split (· == Path.slash) (FileSystem.relative names) = names :=
  Text.split_join (by decide) hne (isSlash_of_mem_name hnames)

/-- **Other names make another path.** -/
theorem pathBelow_injective {others : Location} (hnames : ∀ n ∈ names, isName n = true)
    (hne : names ≠ []) (hothers : ∀ n ∈ others, isName n = true) (hne' : others ≠ [])
    (h : pathBelow target names = pathBelow target others) : names = others := by
  have hbytes := congrArg Path.bytes h
  rw [bytes_pathBelow hnames hne, bytes_pathBelow hothers hne'] at hbytes
  rw [← split_relative hnames hne, List.append_cancel_left hbytes, split_relative hothers hne']

/-- The parts of the path are those of the target and the names; a slash that the target ends in
makes no part. -/
theorem parts_pathBelow (htarget : target.bytes ≠ []) (hnames : ∀ n ∈ names, isName n = true)
    (hne : names ≠ []) :
    ∃ first, (target.parts = first ∨ target.parts = first ++ [[]]) ∧
      (pathBelow target names).parts = first ++ names := by
  by_cases hend : target.endsInSlash = true
  · obtain ⟨first, hfirst⟩ : ∃ first, target.bytes = first ++ [Path.slash] := by
      refine ⟨target.bytes.dropLast, ?_⟩
      have hlast :=
        List.dropLast_append_getLast? Path.slash (by simpa [Path.endsInSlash] using hend)
      exact hlast.symm
    refine ⟨Text.split (· == Path.slash) first, .inr ?_, ?_⟩
    · rw [Path.parts, hfirst, Text.split_append_separator (by decide)]
      rfl
    · rw [Path.parts, bytes_pathBelow hnames hne, Path.lead, if_pos (.inr hend), hfirst,
        List.append_assoc, List.singleton_append, Text.split_append_separator (by decide),
        split_relative hnames hne]
  · refine ⟨target.parts, .inl rfl, ?_⟩
    rw [Path.parts, bytes_pathBelow hnames hne, Path.lead, if_neg (by simp [htarget, hend]),
      List.append_assoc, List.singleton_append, Text.split_append_separator (by decide),
      split_relative hnames hne, Path.parts]

/-- The path starts where the target starts. -/
theorem isAbsolute_pathBelow (htarget : target.bytes ≠ []) (hnames : ∀ n ∈ names, isName n = true)
    (hne : names ≠ []) : (pathBelow target names).isAbsolute = target.isAbsolute := by
  obtain ⟨slashes, hlead, -⟩ := target.lead_eq_append
  rw [Path.isAbsolute, bytes_pathBelow hnames hne, hlead, List.append_assoc,
    List.head?_append_of_ne_nil _ htarget, Path.isAbsolute]

/-- Neither names nor slashes hold a zero byte. -/
theorem zero_notMem_relative (hnames : ∀ n ∈ names, isName n = true) :
    0 ∉ FileSystem.relative names := by
  have hname (n : Name) (hn : n ∈ names) : 0 ∉ n := (isName_iff.mp (hnames n hn)).2.2.2.2
  cases names with
  | nil => simp [FileSystem.relative, Text.join]
  | cons n names =>
    have hslash : (0 : UInt8) ≠ Path.slash := by decide
    simp only [FileSystem.relative, Text.join, List.mem_append, List.mem_flatMap, not_or,
      not_exists, not_and]
    refine ⟨hname n List.mem_cons_self, fun m hm => ⟨by simpa using hslash, ?_⟩⟩
    exact hname m (List.mem_cons_of_mem n hm)

theorem zero_notMem_pathBelow (hzero : 0 ∉ target.bytes) (hnames : ∀ n ∈ names, isName n = true)
    (hne : names ≠ []) : 0 ∉ (pathBelow target names).bytes := by
  obtain ⟨slashes, hlead, rfl | rfl⟩ := target.lead_eq_append
  all_goals
    rw [bytes_pathBelow hnames hne, hlead]
    have hslash : (0 : UInt8) ≠ Path.slash := by decide
    simp [hzero, zero_notMem_relative hnames, hslash]

/-- The last name is joined to the path of the directory around. -/
theorem pathBelow_eq_join (target : Path) (hne : names ≠ []) :
    pathBelow target names = (pathBelow target names.dropLast).join ⟨names.getLast hne⟩ := by
  conv_lhs => rw [← List.dropLast_concat_getLast hne]
  rw [pathBelow, List.foldl_concat]
  rfl

/-- The path is no shorter than the one to the directory around. -/
theorem length_pathBelow_dropLast (target : Path) (hnames : ∀ n ∈ names, isName n = true) :
    (pathBelow target names.dropLast).bytes.length ≤ (pathBelow target names).bytes.length := by
  by_cases hne : names = []
  · rw [hne]
    exact le_rfl
  · obtain ⟨slashes, hlead, -⟩ := (pathBelow target names.dropLast).lead_eq_append
    rw [pathBelow_eq_join target hne,
      Path.bytes_join (slash_notMem_of_isName (hnames _ (List.getLast_mem hne))), hlead]
    simp only [List.length_append]
    omega

/-! ### The language of the path -/

theorem fileName?_of_isName {n : Name} (h : isName n = true) : (⟨n⟩ : Path).fileName? = some n := by
  have hparts : (⟨n⟩ : Path).parts = [n] :=
    Text.split_of_not (@isSlash_of_mem_name [n] (by simpa using h) n List.mem_cons_self)
  rw [Path.fileName?_eq_some_iff, hparts]
  simp [component?_of_isName h]

/-- The path's file name is the last name. -/
theorem fileName?_pathBelow (hnames : ∀ n ∈ names, isName n = true) (hne : names ≠ []) :
    (pathBelow target names).fileName? = some (names.getLast hne) := by
  have hlast := hnames _ (List.getLast_mem hne)
  rw [pathBelow_eq_join target hne]
  exact Path.fileName?_join _ (slash_notMem_of_isName hlast) (component?_of_isName hlast)

/-- **The path's language is that of its last name.** -/
theorem ofPath?_pathBelow (hnames : ∀ n ∈ names, isName n = true) (hne : names ≠ []) :
    Language.ofPath? (pathBelow target names) = Language.ofPath? ⟨names.getLast hne⟩ := by
  apply Language.ofPath?_congr
  rw [fileName?_pathBelow hnames hne, fileName?_of_isName (hnames _ (List.getLast_mem hne))]

end Collected

/-! ### Where the path leads -/

namespace FileSystem

open Collected (pathBelow)

variable {fs : FileSystem} {directory place : Location} {target : Path} {names : Location}
  {node : Node}

/-- What is known of a path that leads somewhere. -/
theorem of_lookup_found (h : fs.lookup true directory target = .found place node) :
    0 ∉ target.bytes ∧ target.bytes ≠ [] ∧
      fs.follow true (if target.isAbsolute then [] else directory) target.parts maxLinks =
        .found place node := by
  unfold lookup at h
  split_ifs at h with hzero hempty hlong <;> simp_all

/-- A path into a directory that a target leads to leads where its names lead from there, if it is
not too long. -/
theorem lookup_pathBelow_of_reach {result : Lookup}
    (h : fs.lookup true directory target = .found place .directory)
    (hnames : ∀ n ∈ names, isName n = true) (hne : names ≠ [])
    (hfits : (pathBelow target names).bytes.length ≤ maxPath)
    (hreach : fs.reach true place names = .done result) :
    fs.lookup true directory (pathBelow target names) = result := by
  obtain ⟨hzero, htarget, hfollow⟩ := of_lookup_found h
  obtain ⟨first, hfirst, hparts⟩ := Collected.parts_pathBelow htarget hnames hne
  have hfollow' : fs.follow true (if target.isAbsolute then [] else directory) first maxLinks =
      .found place .directory := by
    rcases hfirst with hfirst | hfirst
    · rwa [hfirst] at hfollow
    · rw [hfirst] at hfollow
      exact follow_of_slash hfollow
  have hbytes : (pathBelow target names).bytes ≠ [] := by
    rw [Collected.bytes_pathBelow hnames hne]
    obtain ⟨slashes, hlead, -⟩ := target.lead_eq_append
    simp [hlead, htarget]
  rw [lookup, if_neg (by simpa using Collected.zero_notMem_pathBelow hzero hnames hne),
    if_neg hbytes, if_neg (Nat.not_lt.mpr hfits), Collected.isAbsolute_pathBelow htarget hnames hne,
    hparts]
  exact follow_append hfollow' hreach

/-- **Below a directory that a target leads to, a path leads to the node that stands there**, if it
is not too long and the node is no link. -/
theorem lookup_pathBelow (h : fs.lookup true directory target = .found place .directory)
    (hnode : fs.node? (place ++ names) = some node) (hne : names ≠ [])
    (hshort : ∀ name ∈ names, name.length ≤ maxName) (hlink : ∀ held, node ≠ .link held)
    (hfits : (pathBelow target names).bytes.length ≤ maxPath) :
    fs.lookup true directory (pathBelow target names) = .found (place ++ names) node := by
  have hnames : ∀ n ∈ names, isName n = true :=
    fun n hn => isName_of_node? hnode n (List.mem_append_right place hn)
  exact lookup_pathBelow_of_reach h hnames hne hfits (reach_below hnode hne hshort hlink)

end FileSystem

end SchemaFormat
