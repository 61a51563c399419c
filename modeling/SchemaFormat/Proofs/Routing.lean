import SchemaFormat.Formatter.Basic
import SchemaFormat.Proofs.PathParts
import SchemaFormat.Proofs.Pieces

/-!
Which paths a parser takes.

Only the end of a path counts. Slashes and single dots there are passed over (`Path.Trailing`), and
what stands in front of them, behind the slash before it, is the file name if it is a name
(`Path.fileName?_eq_some_iff_endsIn`). The extension is what follows the last dot of that name,
unless nothing is in front of the dot (`Path.nameExtension?_eq_some_iff`). One language is
registered, by one extension, so a path is taken exactly if its file name is `.prisma` with
something in front of it (`Language.ofPath?_eq_some_iff`).
-/

namespace SchemaFormat

namespace Path

variable {p : Path} {n m before stem trail : Bytes}

/-! ### The end of a path -/

/-- What may stand at the end of a path without a meaning: slashes, with a single dot behind some of
them. -/
inductive Trailing : Bytes → Prop where
  | nil : Trailing []
  | slashed {trail : Bytes} : Trailing trail → Trailing (slash :: trail)
  | dotted {trail : Bytes} : Trailing trail → Trailing (slash :: dot :: trail)

/-- The bytes in front of a component of a path: none, or bytes of which a slash is the last. -/
def Leading (before : Bytes) : Prop :=
  before = [] ∨ before.getLast? = some slash

/-- The last component of a path is `n`, when slashes and single dots at the end are passed over. -/
def EndsIn (p : Path) (n : Bytes) : Prop :=
  ∃ before trail, p.bytes = before ++ n ++ trail ∧ Leading before ∧ slash ∉ n ∧ Trailing trail

/-- What stands at the end without a meaning makes parts without a meaning. -/
theorem Trailing.exists_parts (htrail : Trailing trail) (h : slash ∉ n) :
    ∃ after, Text.split (· == slash) (n ++ trail) = n :: after ∧
      ∀ part ∈ after, component? part = none := by
  induction htrail generalizing n with
  | nil =>
    rw [List.append_nil, split_of_slash_notMem h]
    exact ⟨[], rfl, by simp⟩
  | @slashed trail _ ih =>
    obtain ⟨after, hafter, hnone⟩ := @ih [] (by simp)
    refine ⟨[] :: after, ?_, List.forall_mem_cons.mpr ⟨rfl, hnone⟩⟩
    rw [Text.split_append_separator (by decide), split_of_slash_notMem h, ← List.nil_append trail,
      hafter]
    rfl
  | @dotted trail _ ih =>
    obtain ⟨after, hafter, hnone⟩ := @ih [dot] (by decide)
    refine ⟨[dot] :: after, ?_, List.forall_mem_cons.mpr ⟨rfl, hnone⟩⟩
    rw [Text.split_append_separator (by decide), split_of_slash_notMem h,
      show dot :: trail = [dot] ++ trail from rfl, hafter]
    rfl

/-- Parts without a meaning are made by nothing else. -/
theorem trailing_of_parts {after : List Bytes} (h : ∀ part ∈ after, component? part = none) :
    Trailing (after.flatMap ([slash] ++ ·)) := by
  induction after with
  | nil => exact .nil
  | cons part after ih =>
    obtain ⟨hpart, hafter⟩ := List.forall_mem_cons.mp h
    have hmeans : part = [] ∨ part = [dot] := by
      unfold component? at hpart
      split_ifs at hpart with hnone
      exact hnone
    rcases hmeans with rfl | rfl
    · exact .slashed (ih hafter)
    · exact .dotted (ih hafter)

/-- The parts of a path that ends in a component: others, the component, and parts without a
meaning. -/
theorem EndsIn.parts (h : p.EndsIn n) :
    ∃ first after, p.parts = first ++ n :: after ∧ ∀ part ∈ after, component? part = none := by
  obtain ⟨before, trail, hbytes, hleading, hslash, htrail⟩ := h
  obtain ⟨after, hafter, hnone⟩ := htrail.exists_parts hslash
  rw [Path.parts, hbytes, List.append_assoc]
  rcases hleading with rfl | hlast
  · exact ⟨[], after, hafter, hnone⟩
  · obtain ⟨first, rfl⟩ := List.getLast?_eq_some_iff.mp hlast
    refine ⟨Text.split (· == slash) first, after, ?_, hnone⟩
    rw [List.append_assoc, List.singleton_append, Text.split_append_separator (by decide), hafter]

/-- Such parts put a path together that ends in the component. -/
theorem endsIn_of_parts {first after : List Bytes} (hparts : p.parts = first ++ n :: after)
    (hnone : ∀ part ∈ after, component? part = none) : p.EndsIn n := by
  have hslash : slash ∉ n := slash_notMem_of_mem_parts (p := p) (by simp [hparts])
  have hbytes : p.bytes = Text.join [slash] (first ++ n :: after) := by
    rw [← hparts]
    exact (Text.join_split fun b _ hb => beq_iff_eq.mp hb).symm
  have hlast : Text.join [slash] (n :: after) = n ++ after.flatMap ([slash] ++ ·) := rfl
  by_cases hfirst : first = []
  · subst hfirst
    exact ⟨[], _, by rw [hbytes, List.nil_append, hlast, List.nil_append], .inl rfl, hslash,
      trailing_of_parts hnone⟩
  · refine ⟨Text.join [slash] first ++ [slash], _, ?_, .inr List.getLast?_concat, hslash,
      trailing_of_parts hnone⟩
    rw [hbytes, Text.join_append _ hfirst (by simp), hlast]
    simp only [List.append_assoc]

/-- **The file name is the component that a path ends in**, if that is a name. -/
theorem fileName?_eq_some_iff_endsIn :
    p.fileName? = some n ↔ p.EndsIn n ∧ component? n = some (.normal n) := by
  rw [fileName?_eq_some_iff]
  constructor
  · intro h
    obtain ⟨before, hbefore⟩ := List.getLast?_eq_some_iff.mp h
    obtain ⟨first, rest, hparts, -, hrest⟩ := List.filterMap_eq_append_iff.mp hbefore
    obtain ⟨skipped, part, after, rfl, -, hpart, hnone⟩ := List.filterMap_eq_cons_iff.mp hrest
    obtain ⟨rfl, hname⟩ := component?_eq_normal_iff.mp hpart
    rw [← List.append_assoc] at hparts
    exact ⟨endsIn_of_parts hparts (List.filterMap_eq_nil_iff.mp hnone),
      component?_eq_normal_iff.mpr ⟨rfl, hname⟩⟩
  · rintro ⟨hends, hname⟩
    obtain ⟨first, after, hparts, hnone⟩ := hends.parts
    rw [hparts, List.filterMap_append, List.filterMap_cons_some hname,
      List.filterMap_eq_nil_iff.mpr hnone]
    exact List.getLast?_concat

/-- A path that ends in something else with a meaning has no file name, or another one. -/
theorem EndsIn.eq_of_fileName? (h : p.EndsIn n) (hn : component? n ≠ none)
    (hname : p.fileName? = some m) :
    component? n = some (.normal m) := by
  obtain ⟨c, hc⟩ := Option.ne_none_iff_exists'.mp hn
  obtain ⟨first, after, hparts, hnone⟩ := h.parts
  rw [fileName?_eq_some_iff, hparts, List.filterMap_append, List.filterMap_cons_some hc,
    List.filterMap_eq_nil_iff.mpr hnone, List.getLast?_concat] at hname
  rw [hc, hname]

/-! ### Extensions -/

/-- **The extension of a name follows its last dot**, and something is in front of that dot. -/
theorem nameExtension?_eq_some_iff {extension : Bytes} :
    nameExtension? n = some extension ↔
      ∃ stem, stem ≠ [] ∧ n = stem ++ dot :: extension ∧ dot ∉ extension := by
  unfold nameExtension?
  dsimp only
  constructor
  · intro h
    split_ifs at h with hlength
    obtain rfl := Option.some.inj h
    have hsplit := List.takeWhile_append_dropWhile (p := (· ≠ dot)) (l := n.reverse)
    have hdot : dot ∉ n.reverse.takeWhile (· ≠ dot) :=
      fun hmem => by simpa using List.mem_takeWhile_imp hmem
    cases hrest : n.reverse.dropWhile (· ≠ dot) with
    | nil =>
      rw [hrest, List.append_nil] at hsplit
      rw [hsplit, List.length_reverse] at hlength
      omega
    | cons b rest =>
      have hb : b = dot := by
        have hhead := List.head?_dropWhile_not (· ≠ dot) n.reverse
        rw [hrest] at hhead
        simpa using hhead
      subst hb
      rw [hrest] at hsplit
      refine ⟨rest.reverse, ?_, ?_, by simpa using hdot⟩
      · intro hempty
        rw [List.reverse_eq_nil_iff.mp hempty] at hsplit
        have htotal := congrArg List.length hsplit
        rw [List.length_append, List.length_singleton, List.length_reverse] at htotal
        omega
      · calc
          n = (n.reverse.takeWhile (· ≠ dot) ++ dot :: rest).reverse := by
            rw [hsplit, List.reverse_reverse]
          _ = rest.reverse ++ dot :: (n.reverse.takeWhile (· ≠ dot)).reverse := by
            rw [List.reverse_append, List.reverse_cons, List.append_assoc, List.singleton_append]
  · rintro ⟨stem, hstem, rfl, hdot⟩
    have hafter : (stem ++ dot :: extension).reverse.takeWhile (· ≠ dot) = extension.reverse := by
      rw [List.reverse_append, List.reverse_cons, List.append_assoc, List.takeWhile_append_of_pos]
      · simp
      · intro b hb
        have hne : b ≠ dot := fun heq => hdot (heq ▸ List.mem_reverse.mp hb)
        simpa using hne
    have hpos := List.length_pos_iff.mpr hstem
    rw [hafter, if_pos (by simp; omega), List.reverse_reverse]

/-- What the file name of a schema file ends in. -/
def schemaEnd : Bytes :=
  Bytes.ofString ".prisma"

/-- The path of a schema file: it ends in a component of the form `x.prisma`, where `x` is not
empty. -/
def NamesSchema (p : Path) : Prop :=
  ∃ stem, stem ≠ [] ∧ p.EndsIn (stem ++ schemaEnd)

/-- Such a component is a name. -/
theorem component?_schemaEnd (stem : Bytes) :
    component? (stem ++ schemaEnd) = some (.normal (stem ++ schemaEnd)) := by
  have hlong : 2 < (stem ++ schemaEnd).length := by
    rw [List.length_append, show schemaEnd.length = 7 by decide]
    omega
  refine component?_eq_normal_iff.mpr ⟨rfl, ?_, ?_, ?_⟩
  · intro h
    simp [h] at hlong
  · intro h
    simp [h] at hlong
  · intro h
    simp [h] at hlong

theorem namesSchema_iff : p.NamesSchema ↔ p.extension? = some (Bytes.ofString "prisma") := by
  rw [extension?, Option.bind_eq_some_iff]
  constructor
  · rintro ⟨stem, hstem, hends⟩
    refine ⟨stem ++ schemaEnd, fileName?_eq_some_iff_endsIn.mpr ⟨hends, component?_schemaEnd stem⟩,
      ?_⟩
    exact nameExtension?_eq_some_iff.mpr ⟨stem, hstem, rfl, by decide⟩
  · rintro ⟨n, hname, hextension⟩
    obtain ⟨stem, hstem, rfl, -⟩ := nameExtension?_eq_some_iff.mp hextension
    exact ⟨stem, hstem, (fileName?_eq_some_iff_endsIn.mp hname).1⟩

/-- What is behind the last dot of a file name holds no dot. -/
theorem dot_notMem_extension {extension : Bytes} (h : p.extension? = some extension) :
    dot ∉ extension := by
  obtain ⟨n, -, hextension⟩ := Option.bind_eq_some_iff.mp h
  obtain ⟨stem, -, -, hdot⟩ := nameExtension?_eq_some_iff.mp hextension
  exact hdot

/-- A path that ends in another component, and one with a meaning, names no schema file. -/
theorem EndsIn.not_namesSchema (h : p.EndsIn n) (hmeans : component? n ≠ none)
    (hn : schemaEnd <:+ n → n = schemaEnd) : ¬ p.NamesSchema := by
  rintro ⟨stem, hstem, hends⟩
  have hname :=
    h.eq_of_fileName? hmeans (fileName?_eq_some_iff_endsIn.mpr ⟨hends, component?_schemaEnd stem⟩)
  obtain ⟨rfl, -⟩ := component?_eq_normal_iff.mp hname
  exact hstem (List.append_cancel_right
    ((hn (List.suffix_append stem schemaEnd)).trans (List.nil_append _).symm))

/-- The path that goes on with a text behind some bytes. -/
def behind (before : Bytes) (text : String) : Path :=
  ⟨before ++ Bytes.ofString text⟩

/-- It ends in the text, if the bytes lead up to it and no slash is in it. -/
theorem endsIn_behind {text : String} (h : Leading before) (hslash : slash ∉ Bytes.ofString text) :
    (behind before text).EndsIn (Bytes.ofString text) :=
  ⟨before, [], (List.append_nil _).symm, h, hslash, .nil⟩

/-- Or in a part of the text behind a slash. -/
theorem endsIn_behind_slash {text : String} (first : Bytes) {last : Bytes} (hslash : slash ∉ last)
    (htext : Bytes.ofString text = first ++ slash :: last) : (behind before text).EndsIn last := by
  refine ⟨before ++ (first ++ [slash]), [], ?_, .inr ?_, hslash, .nil⟩
  · simp [behind, htext]
  · rw [← List.append_assoc, List.getLast?_concat]

/-- A text names a schema file behind any bytes that lead up to it, if it is one's name with what
has no meaning. -/
theorem namesSchema_behind {text : String} (stem : Bytes) (h : Leading before) (hstem : stem ≠ [])
    (hslash : slash ∉ stem) (htext : Bytes.ofString text = stem ++ schemaEnd ++ trail)
    (htrail : Trailing trail) :
    (behind before text).NamesSchema := by
  refine ⟨stem, hstem, before, trail, ?_, h, ?_, htrail⟩
  · rw [behind, htext, ← List.append_assoc]
  · rw [List.mem_append, not_or]
    exact ⟨hslash, by decide⟩

end Path

/-! ### Languages and parsers -/

namespace Language

/-- One language is registered, by one extension, whose dot may be left out. -/
theorem ofExtension?_eq_some_iff {text : String} {l : Language} :
    ofExtension? text = some l ↔ l = prisma ∧ (text = "prisma" ∨ text = ".prisma") := by
  have hlookup (dotted : String) :
      all.find? (·.extensions.contains dotted) = some l ↔ l = prisma ∧ dotted = ".prisma" := by
    have hcontains : prisma.extensions.contains dotted = (dotted == ".prisma") := Bool.or_false _
    rw [all, List.find?_singleton, hcontains]
    by_cases hdotted : dotted = ".prisma"
    · simp [hdotted, eq_comm]
    · simp [hdotted]
  unfold ofExtension?
  dsimp only
  rw [hlookup]
  apply and_congr_right
  rintro -
  split_ifs with hhead
  · constructor
    · exact .inr
    · rintro (rfl | rfl)
      · exact absurd hhead (by decide)
      · rfl
  · constructor
    · intro h
      have hlist := congrArg String.toList h
      rw [String.toList_append] at hlist
      exact .inl (String.toList_injective (List.cons.inj hlist).2)
    · rintro (rfl | rfl)
      · rfl
      · exact absurd rfl hhead

/-- **A path has a language exactly if it names a schema file.** -/
theorem ofPath?_eq_some_iff {p : Path} {l : Language} :
    ofPath? p = some l ↔ l = prisma ∧ p.NamesSchema := by
  rw [Path.namesSchema_iff]
  constructor
  · intro h
    obtain ⟨extension, hextension, h⟩ := Option.bind_eq_some_iff.mp h
    obtain ⟨text, htext, hlanguage⟩ := Option.bind_eq_some_iff.mp h
    obtain ⟨rfl, hregistered⟩ := ofExtension?_eq_some_iff.mp hlanguage
    cases hdecoded : Bytes.toString? extension with
    | error fault =>
      rw [hdecoded] at htext
      cases htext
    | ok decoded =>
      rw [hdecoded] at htext
      obtain rfl := Option.some.inj htext
      obtain rfl := Bytes.toString?_eq_ok_iff.mp hdecoded
      rcases hregistered with rfl | rfl
      · exact ⟨rfl, hextension⟩
      · exact absurd (by decide) (Path.dot_notMem_extension hextension)
  · rintro ⟨rfl, hextension⟩
    rw [ofPath?, hextension]
    decide

theorem ofPath?_eq_none_iff {p : Path} : ofPath? p = none ↔ ¬ p.NamesSchema := by
  constructor
  · intro h hnames
    rw [ofPath?_eq_some_iff.mpr ⟨rfl, hnames⟩] at h
    cases h
  · intro h
    rw [Option.eq_none_iff_forall_ne_some]
    rintro l hl
    exact h (ofPath?_eq_some_iff.mp hl).2

end Language

namespace FormatOptions

variable {o : FormatOptions} {p : Path}

/-- If no parser is forced, the language of a file decides. -/
theorem route_of_language (h : o.parser = none) (hnames : p.NamesSchema) :
    o.route p = .ok .prisma := by
  unfold route
  rw [h, Language.ofPath?_eq_some_iff.mpr ⟨rfl, hnames⟩]
  rfl

theorem route_of_no_language (h : o.parser = none) (hnames : ¬ p.NamesSchema) :
    o.route p = .error (.noParser p) := by
  unfold route
  rw [h, Language.ofPath?_eq_none_iff.mpr hnames]
  rfl

/-- **Which paths are taken.** A path, whatever bytes it holds, has a language exactly if it ends,
slashes and single dots at the end passed over, in a component `x.prisma` where `x` is not empty;
and if no parser is forced, these paths go to the parser of that language and all others to none. So
nothing in front of the last component counts: wherever they stand, four names are refused that come
near, and four others are taken. The empty path is refused. -/
theorem route_exactly :
    (∀ p, (Language.ofPath? p = some .prisma ↔ p.NamesSchema) ∧
      (Language.ofPath? p = none ↔ ¬ p.NamesSchema)) ∧
    (∀ o : FormatOptions, o.parser = none → ∀ p,
      (o.route p = .ok .prisma ↔ p.NamesSchema) ∧
      (o.route p = .error (.noParser p) ↔ ¬ p.NamesSchema)) ∧
    (∀ before, Path.Leading before →
      (∀ text ∈ [".prisma", "x.prisma.", "x.PRISMA", "x.prisma/.."],
        ¬ (Path.behind before text).NamesSchema) ∧
      ∀ text ∈ ["..prisma", "a.b.prisma", "x.prisma/", "x.prisma/."],
        (Path.behind before text).NamesSchema) ∧
    ¬ (⟨[]⟩ : Path).NamesSchema := by
  refine ⟨fun p => ⟨?_, Language.ofPath?_eq_none_iff⟩,
    fun o h p => ⟨⟨?_, route_of_language h⟩, ⟨?_, ?_⟩⟩, fun before hbefore => ⟨?_, ?_⟩, ?_⟩
  · rw [Language.ofPath?_eq_some_iff, and_iff_right rfl]
  · intro hroute
    by_contra hnames
    rw [route_of_no_language h hnames] at hroute
    cases hroute
  · intro hroute hnames
    rw [route_of_language h hnames] at hroute
    cases hroute
  · exact route_of_no_language h
  · simp only [List.forall_mem_cons]
    refine ⟨?_, ?_, ?_, ?_, by simp⟩
    · exact (Path.endsIn_behind hbefore (by decide)).not_namesSchema (by decide) (by decide)
    · exact (Path.endsIn_behind hbefore (by decide)).not_namesSchema (by decide) (by decide)
    · exact (Path.endsIn_behind hbefore (by decide)).not_namesSchema (by decide) (by decide)
    · have hends : (Path.behind before "x.prisma/..").EndsIn [Path.dot, Path.dot] :=
        Path.endsIn_behind_slash (Bytes.ofString "x.prisma") (by decide) (by decide)
      exact hends.not_namesSchema (by decide) (by decide)
  · simp only [List.forall_mem_cons]
    refine ⟨?_, ?_, ?_, ?_, by simp⟩
    · exact Path.namesSchema_behind [Path.dot] hbefore (by decide) (by decide) (by decide) .nil
    · exact Path.namesSchema_behind (Bytes.ofString "a.b") hbefore (by decide) (by decide)
        (by decide) .nil
    · exact Path.namesSchema_behind (Bytes.ofString "x") hbefore (by decide) (by decide) (by decide)
        (.slashed .nil)
    · exact Path.namesSchema_behind (Bytes.ofString "x") hbefore (by decide) (by decide) (by decide)
        (.dotted .nil)
  · rw [Path.namesSchema_iff]
    decide

/-- The path of a schema file whose name is no text, with slashes and a dot behind it. -/
def unreadableName : Path :=
  ⟨0xFF :: Bytes.ofString ".prisma//."⟩

/-- A name that is no text is taken all the same, and a name without a stem is refused below any
directory. -/
theorem route_exactly_unreadable :
    route {} unreadableName = .ok .prisma ∧
      route {} (Path.ofString "a/.prisma") = .error (.noParser (Path.ofString "a/.prisma")) := by
  obtain ⟨-, hroute, hnear, -⟩ := route_exactly
  have hnames : unreadableName.NamesSchema :=
    ⟨[0xFF], by decide, [], Bytes.ofString "//.", by decide, .inl rfl, by decide,
      .slashed (.dotted .nil)⟩
  have hbehind : Path.ofString "a/.prisma" = Path.behind (Bytes.ofString "a/") ".prisma" := by
    decide
  have hrefused : ¬ (Path.ofString "a/.prisma").NamesSchema := by
    rw [hbehind]
    exact (hnear _ (.inr (by decide))).1 _ List.mem_cons_self
  exact ⟨(hroute {} rfl _).1.mpr hnames, (hroute {} rfl _).2.mpr hrefused⟩

end FormatOptions

end SchemaFormat
