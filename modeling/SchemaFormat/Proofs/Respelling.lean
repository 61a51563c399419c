import Mathlib.Logic.Relation
import SchemaFormat.Proofs.AbsolutePath
import SchemaFormat.Proofs.Questions

/-!
Other spellings of a path.

Two paths that have the same steps, start alike and end alike are spelled alike from the root
(`ReadAlike.absolute?`). So it is with a slash that is repeated behind a name, with a dot between
slashes behind one, and with a dot and a slash in front of a relative path. A relative path may also
be put behind the directory in which it starts (`Tidy.absolute?_join`). Whatever of this is done and
however often (`Respells`), the file name and the absolute spelling stay (`keeps_of_respells`), and
on these hang the parser of a file and what a printer is told about it. What a printer is told is a
spelling as well, if the path is a text (`Tidy.absolute?_absolute?`).
-/

namespace SchemaFormat

namespace Path

variable {p q directory : Path} {n before after : Bytes}

/-! ### Paths that are read alike -/

/-- Two paths are read alike: they have the same steps, start at the same place and end alike. -/
structure ReadAlike (p q : Path) : Prop where
  steps : q.steps = p.steps
  absolute : q.isAbsolute = p.isAbsolute
  twoSlashes : q.hasTwoSlashes = p.hasTwoSlashes
  ending : q.endsInSlash = p.endsInSlash

theorem ReadAlike.absolute? (h : ReadAlike p q) (hsteps : p.steps ≠ []) (directory : Path) :
    absolute? directory q = absolute? directory p := by
  rw [absolute?_eq_of_steps hsteps, absolute?_eq_of_steps (h.steps ▸ hsteps), front, front, back,
    back, h.steps, h.absolute, h.twoSlashes, h.ending]

/-- Some byte is no slash, so the bytes are more than a root. -/
def HoldsName (before : Bytes) : Prop :=
  ∃ b ∈ before, b ≠ slash

/-- How many slashes a path begins with is seen up to its first other byte. -/
theorem isPrefixOf_append_of_holdsName (h : HoldsName before) (k : Nat) (after : Bytes) :
    (List.replicate k slash).isPrefixOf (before ++ after) =
      (List.replicate k slash).isPrefixOf before := by
  obtain ⟨b, hb, hne⟩ := h
  rw [Bool.eq_iff_iff, List.isPrefixOf_iff_prefix, List.isPrefixOf_iff_prefix]
  constructor
  · intro hprefix
    rcases List.prefix_or_prefix_of_prefix hprefix (List.prefix_append before after) with
      hslashes | hbefore
    · exact hslashes
    · exact absurd (List.eq_of_mem_replicate (hbefore.subset hb)) hne
  · intro hprefix
    exact hprefix.trans (List.prefix_append before after)

theorem hasTwoSlashes_append_of_holdsName (h : HoldsName before) (after : Bytes) :
    (⟨before ++ after⟩ : Path).hasTwoSlashes = (⟨before⟩ : Path).hasTwoSlashes := by
  have htwo := isPrefixOf_append_of_holdsName h 2 after
  have hthree := isPrefixOf_append_of_holdsName h 3 after
  rw [hasTwoSlashes, hasTwoSlashes]
  exact congrArg₂ (fun two three => two && ! three) htwo hthree

theorem isAbsolute_append_of_holdsName (h : HoldsName before) (after : Bytes) :
    (⟨before ++ after⟩ : Path).isAbsolute = (⟨before⟩ : Path).isAbsolute := by
  obtain ⟨b, hb, -⟩ := h
  rw [isAbsolute, isAbsolute, List.head?_append_of_ne_nil _ (List.ne_nil_of_mem hb)]

/-- **What follows a name is read alike** if it has the same steps and ends alike. -/
theorem readAlike_append (h : HoldsName before) {after' : Bytes}
    (hsteps : (⟨before ++ after'⟩ : Path).steps = (⟨before ++ after⟩ : Path).steps)
    (hending : (⟨before ++ after'⟩ : Path).endsInSlash = (⟨before ++ after⟩ : Path).endsInSlash) :
    ReadAlike ⟨before ++ after⟩ ⟨before ++ after'⟩ where
  steps := hsteps
  absolute := by rw [isAbsolute_append_of_holdsName h, isAbsolute_append_of_holdsName h]
  twoSlashes := by rw [hasTwoSlashes_append_of_holdsName h, hasTwoSlashes_append_of_holdsName h]
  ending := hending

theorem steps_singleton_dot : (⟨[dot]⟩ : Path).steps = [] := by decide

/-- A slash may be repeated behind a name. -/
theorem readAlike_repeated (h : HoldsName before) (after : Bytes) :
    ReadAlike ⟨before ++ slash :: after⟩ ⟨before ++ slash :: slash :: after⟩ := by
  refine readAlike_append h ?_ ?_
  · rw [steps_append_slash, steps_append_slash, steps_cons_slash]
  · rw [endsInSlash, endsInSlash, List.getLast?_append_of_ne_nil _ (by simp),
      List.getLast?_append_of_ne_nil _ (by simp), List.getLast?_cons_cons]

/-- A dot may be put behind a name. -/
theorem readAlike_dotted (h : HoldsName before) (after : Bytes) :
    ReadAlike ⟨before ++ slash :: after⟩ ⟨before ++ slash :: dot :: slash :: after⟩ := by
  refine readAlike_append h ?_ ?_
  · have hafter := steps_append_slash [dot] after
    rw [steps_singleton_dot, List.nil_append, List.singleton_append] at hafter
    rw [steps_append_slash, steps_append_slash, hafter]
  · rw [endsInSlash, endsInSlash, List.getLast?_append_of_ne_nil _ (by simp),
      List.getLast?_append_of_ne_nil _ (by simp), List.getLast?_cons_cons, List.getLast?_cons_cons]

/-- And one may be put in front of a relative path. -/
theorem readAlike_started (hrelative : p.isAbsolute = false) (hsteps : p.steps ≠ []) :
    ReadAlike p ⟨dot :: slash :: p.bytes⟩ := by
  have htwo : p.hasTwoSlashes = false := by
    by_contra htwo
    rw [Bool.not_eq_false] at htwo
    simp [isAbsolute_of_hasTwoSlashes htwo] at hrelative
  have hne := bytes_ne_nil_of_steps hsteps
  refine ⟨?_, ?_, ?_, ?_⟩
  · have hafter := steps_append_slash [dot] p.bytes
    rwa [steps_singleton_dot, List.nil_append, List.singleton_append] at hafter
  · rw [hrelative]
    rfl
  · rw [htwo]
    rfl
  · obtain ⟨b, rest, hbytes⟩ := List.exists_cons_of_ne_nil hne
    rw [endsInSlash, endsInSlash, hbytes, List.getLast?_cons_cons, List.getLast?_cons_cons]

/-! ### Where relative paths start -/

/-- A directory as the system spells it: from the root, with no empty part and no single dot. -/
structure Tidy (p : Path) : Prop where
  absolute : p.isAbsolute = true
  parts : p.bytes = [slash] ∨ ∀ part ∈ p.parts.tail, part ≠ [] ∧ part ≠ [dot]

/-- A path goes on behind a tidy directory as behind its steps. -/
theorem Tidy.lead_eq (h : directory.Tidy) :
    directory.lead = slash :: directory.steps.flatMap (· ++ [slash]) := by
  rcases h.parts with hroot | hparts
  · obtain rfl : directory = ⟨[slash]⟩ := congrArg Path.mk hroot
    rfl
  · have hend := endsInSlash_of_parts h.absolute fun hmem => (hparts [] hmem).1 rfl
    obtain ⟨rest, hrest⟩ := isAbsolute_iff.mp h.absolute
    have hsplit := parts_of_bytes hrest
    have hsteps : directory.steps = Text.split (· == slash) rest := by
      rw [steps, hsplit, List.filter_cons_of_neg (by decide), List.filter_eq_self]
      intro part hpart
      exact isSome_component?_iff.mpr (hparts part (hsplit ▸ hpart))
    have hjoin : Text.join [slash] (Text.split (· == slash) rest) = rest :=
      Text.join_split fun b _ hb => beq_iff_eq.mp hb
    rw [lead, if_neg (by simp [hrest, hend]), hsteps,
      ← Text.join_append_separator _ (Text.split_ne_nil rest), hjoin, hrest]
    rfl

/-- Behind a tidy directory, a path is spelled with the directory's steps in front. -/
theorem Tidy.exists_spelling (h : directory.Tidy) (hsteps : p.steps ≠ []) :
    ∃ front ns back, absolute? directory p = some ⟨front ++ Text.join [slash] ns ++ back⟩ ∧
      (front = [slash] ∨ front = [slash, slash]) ∧ (back = [] ∨ back = [slash]) ∧ ns ≠ [] ∧
      ∀ part ∈ ns, part ∈ directory.steps ∨ part ∈ p.steps := by
  have hback : back p = [] ∨ back p = [slash] := by
    unfold back
    split_ifs
    · exact .inr rfl
    · exact .inl rfl
  rw [absolute?_eq_of_steps hsteps, front]
  split_ifs with htwo habsolute
  · exact ⟨_, _, _, rfl, .inr rfl, hback, hsteps, fun _ => .inr⟩
  · exact ⟨_, _, _, rfl, .inl rfl, hback, hsteps, fun _ => .inr⟩
  · refine ⟨[slash], directory.steps ++ p.steps, back p, ?_, .inl rfl, hback, by simp [hsteps],
      fun _ => List.mem_append.mp⟩
    rw [Text.join_append_eq_flatMap _ _ hsteps, h.lead_eq]
    rfl

/-- **A relative path may be put behind the directory that it starts in.** -/
theorem Tidy.absolute?_join (h : directory.Tidy) (hrelative : p.isAbsolute = false)
    (hsteps : p.steps ≠ []) :
    (directory.join p).steps = directory.steps ++ p.steps ∧
      absolute? directory (directory.join p) = absolute? directory p := by
  have hne := bytes_ne_nil_of_steps hsteps
  have hbytes : directory.join p =
      ⟨slash :: (directory.steps.flatMap (· ++ [slash]) ++ p.bytes)⟩ := by
    refine congrArg Path.mk ((bytes_join_of_relative directory hrelative).trans ?_)
    rw [h.lead_eq]
    rfl
  have hjoined : (directory.join p).steps = directory.steps ++ p.steps := by
    rw [hbytes, steps_cons_slash, steps_flatMap_append fun _ => isStep_of_mem_steps]
  have hhead : (directory.steps.flatMap (· ++ [slash]) ++ p.bytes).head? ≠ some slash := by
    by_cases hroot : directory.steps = []
    · rw [hroot]
      simpa [isAbsolute] using hrelative
    · rw [← Text.join_append_separator _ hroot, List.append_assoc]
      exact head?_join_steps (fun _ => isStep_of_mem_steps) hroot _
  have hfront : front directory (directory.join p) = [slash] := by
    rw [hbytes, front, (hasTwoSlashes_cons hhead).1]
    rfl
  have hfront' : front directory p = directory.lead := by
    rw [front, hrelative, if_neg]
    · rfl
    · intro htwo
      rw [isAbsolute_of_hasTwoSlashes htwo] at hrelative
      cases hrelative
  have hback : back (directory.join p) = back p := by
    rw [back, back, endsInSlash, endsInSlash, bytes_join_of_relative directory hrelative,
      List.getLast?_append_of_ne_nil _ hne]
  refine ⟨hjoined, ?_⟩
  rw [absolute?_eq_of_steps (by simp [hjoined, hsteps]), absolute?_eq_of_steps hsteps, hjoined,
    hfront, hfront', hback, h.lead_eq, Text.join_append_eq_flatMap _ _ hsteps]
  rfl

/-! ### Respelling -/

/-- One way to spell a path otherwise. A slash is behind a name if some byte in front of it is no
slash. -/
inductive Respells (directory : Path) : Path → Path → Prop where
  /-- One dot and a slash are put in front of a relative path. -/
  | started {p : Path} : p.isAbsolute = false → Respells directory p ⟨dot :: slash :: p.bytes⟩
  /-- A slash behind a name is repeated. -/
  | repeated {before : Bytes} (after : Bytes) : HoldsName before →
      Respells directory ⟨before ++ slash :: after⟩ ⟨before ++ slash :: slash :: after⟩
  /-- One dot is put behind a name, between slashes. -/
  | dotted {before : Bytes} (after : Bytes) : HoldsName before →
      Respells directory ⟨before ++ slash :: after⟩ ⟨before ++ slash :: dot :: slash :: after⟩
  /-- A relative path is put behind the directory that it starts in. -/
  | joined {p : Path} : p.isAbsolute = false → Respells directory p (directory.join p)

/-- Another spelling in one step has the same file name and the same absolute spelling. -/
theorem Respells.keeps (hdirectory : directory.Tidy) (h : Respells directory p q)
    (hname : p.fileName? = some n) :
    q.fileName? = some n ∧ absolute? directory q = absolute? directory p := by
  have hsteps := steps_ne_nil hname
  have halike (hread : ReadAlike p q) : q.fileName? = some n ∧
      absolute? directory q = absolute? directory p :=
    ⟨(fileName?_congr hread.steps).trans hname, hread.absolute? hsteps directory⟩
  cases h with
  | started hrelative => exact halike (readAlike_started hrelative hsteps)
  | repeated after hbefore => exact halike (readAlike_repeated hbefore after)
  | dotted after hbefore => exact halike (readAlike_dotted hbefore after)
  | joined hrelative =>
    obtain ⟨hjoined, habsolute⟩ := hdirectory.absolute?_join hrelative hsteps
    refine ⟨?_, habsolute⟩
    rw [fileName?_eq_some_iff, ← filterMap_steps, hjoined, List.filterMap_append, filterMap_steps p]
    rw [fileName?_eq_some_iff] at hname
    rw [List.getLast?_append_of_ne_nil _ (by rintro hnil; simp [hnil] at hname), hname]

/-- And so has another spelling in any number of steps. -/
theorem keeps_of_respells (hdirectory : directory.Tidy) (hname : p.fileName? = some n)
    (h : Relation.ReflTransGen (Respells directory) p q) :
    q.fileName? = some n ∧ absolute? directory q = absolute? directory p := by
  induction h with
  | refl => exact ⟨hname, rfl⟩
  | tail _ hstep ih =>
    obtain ⟨hname', habsolute⟩ := hstep.keeps hdirectory ih.1
    exact ⟨hname', habsolute.trans ih.2⟩

end Path

/-! ### Texts -/

theorem Utf8.split_encode (text : List Char) :
    Text.split (· == Path.slash) (encode text) = (Text.split (· == '/') text).map encode := by
  have hjoin : encode text = Text.join [Path.slash] ((Text.split (· == '/') text).map encode) := by
    have hchars : Text.join ['/'] (Text.split (· == '/') text) = text :=
      Text.join_split fun d _ hd => beq_iff_eq.mp hd
    conv_lhs => rw [← hchars]
    refine Text.map_join rfl (fun before after => ?_) _
    rw [encode, List.flatMap_append, List.flatMap_cons]
    rfl
  rw [hjoin]
  refine Text.split_join (by decide) (by simpa using Text.split_ne_nil text)
    fun part hpart b hb => ?_
  obtain ⟨chars, hchars, rfl⟩ := List.mem_map.mp hpart
  have hslash : '/' ∉ chars := fun hmem => by simpa using Text.not_of_mem_split hchars '/' hmem
  have hne : b ≠ Path.slash := by
    rintro rfl
    exact ascii_notMem_encode (c := '/') (by decide) hslash hb
  simpa using hne

/-- Some bytes are those of a text. -/
def Bytes.IsText (bytes : Bytes) : Prop :=
  ∃ text, bytes = Utf8.encode text

namespace Bytes.IsText

variable {a b : Bytes}

theorem append (ha : a.IsText) (hb : b.IsText) : (a ++ b : Bytes).IsText := by
  obtain ⟨text, rfl⟩ := ha
  obtain ⟨other, rfl⟩ := hb
  exact ⟨text ++ other, List.flatMap_append.symm⟩

theorem join {parts : List Bytes} (ha : a.IsText) (h : ∀ part ∈ parts, IsText part) :
    IsText (Text.join a parts) := by
  induction parts with
  | nil => exact ⟨[], rfl⟩
  | cons part parts ih =>
    obtain ⟨hpart, hparts⟩ := List.forall_mem_cons.mp h
    by_cases hne : parts = []
    · subst hne
      simpa [Text.join] using hpart
    · rw [Text.join_cons _ _ hne]
      exact hpart.append (ha.append (ih hparts))

theorem of_mem_steps {p : Path} (h : p.bytes.IsText) {part : Bytes} (hpart : part ∈ p.steps) :
    part.IsText := by
  obtain ⟨text, htext⟩ := h
  have hmem : part ∈ Text.split (· == Path.slash) (Utf8.encode text) :=
    htext ▸ (List.mem_filter.mp hpart).1
  rw [Utf8.split_encode] at hmem
  obtain ⟨chars, -, rfl⟩ := List.mem_map.mp hmem
  exact ⟨chars, rfl⟩

/-- A text that is shown is what it was. -/
theorem ofString_display {p : Path} (h : p.bytes.IsText) : Path.ofString p.display = p := by
  obtain ⟨text, htext⟩ := h
  refine congrArg Path.mk ?_
  rw [Path.display, Bytes.display, htext, Utf8.decodeLossy_encode, Bytes.ofString,
    String.toList_ofList]

end Bytes.IsText

/-- A text's absolute spelling is a text, and its own absolute spelling. -/
theorem Path.Tidy.absolute?_absolute? {directory p : Path} (hdirectory : directory.Tidy)
    (hsteps : p.steps ≠ []) :
    ∃ q, Path.absolute? directory p = some q ∧ Path.absolute? directory q = some q ∧
      (directory.bytes.IsText → p.bytes.IsText → q.bytes.IsText) := by
  obtain ⟨front, ns, back, habsolute, hfront, hback, hne, hns⟩ := hdirectory.exists_spelling hsteps
  have hsteps' : ∀ part ∈ ns, Path.IsStep part := fun part hpart =>
    (hns part hpart).elim Path.isStep_of_mem_steps Path.isStep_of_mem_steps
  refine ⟨_, habsolute, Path.absolute?_of_join_steps hsteps' hne hfront hback directory,
    fun hd hp => ?_⟩
  have hslash : Bytes.IsText [Path.slash] := ⟨['/'], rfl⟩
  have hfronttext : Bytes.IsText front := by
    rcases hfront with rfl | rfl
    · exact hslash
    · exact hslash.append hslash
  have hbacktext : Bytes.IsText back := by
    rcases hback with rfl | rfl
    · exact ⟨[], rfl⟩
    · exact hslash
  refine (hfronttext.append (hslash.join fun part hpart => ?_)).append hbacktext
  exact (hns part hpart).elim hd.of_mem_steps hp.of_mem_steps

/-- The same fault of a file whose path is spelled otherwise. -/
def FileFault.respelled (q : Path) : FileFault → FileFault
  | .noParser _ => .noParser q
  | fault => fault

namespace FormatOptions

variable {directory p q : Path} {n : Bytes}

/-- The parser of a file hangs on its file name. -/
theorem route_congr (o : FormatOptions) (h : q.fileName? = p.fileName?) :
    o.route q = (o.route p).mapError (.respelled q) := by
  unfold route
  rw [Language.ofPath?_congr h]
  cases o.parser with
  | some name =>
    dsimp only
    cases Parser.named? name <;> rfl
  | none =>
    dsimp only
    cases (Language.ofPath? p).bind parserOf? <;> rfl

/-- What a printer is told hangs on the absolute spelling. -/
theorem printOptions_congr (o : FormatOptions) (hp : p.bytes ≠ [])
    (h : Path.absolute? directory q = Path.absolute? directory p) :
    o.printOptions directory q = o.printOptions directory p := by
  obtain ⟨r, hr⟩ : ∃ r, Path.absolute? directory p = some r := by
    rw [Path.absolute?, if_neg hp]
    exact ⟨_, rfl⟩
  rw [printOptions, printOptions, h, hr]
  rfl

/-- **The spelling of a path does not matter.** Let relative paths start in a tidy directory, and
let a path have a file name. Put `./` in front of it if it is relative, repeat a slash behind a
name, put `./` behind one, put the directory in front of it if it is relative, and do so as often as
you like: the file goes to the same parser or is refused for the same reason, a printer is told the
same about it, and so a text is put to the engine under the same request. And if path and directory
are texts, the path that a printer is told stands for the same: a printer is told the same about it.
-/
theorem printOptions_respelled (o : FormatOptions) (hdirectory : directory.Tidy)
    (hname : p.fileName? = some n) :
    (∀ q, Relation.ReflTransGen (Path.Respells directory) p q →
      o.route q = (o.route p).mapError (.respelled q) ∧
      o.printOptions directory q = o.printOptions directory p ∧
      ∀ text, o.question? directory text q = o.question? directory text p) ∧
    ∀ s t, directory = Path.ofString s → p = Path.ofString t →
      ∃ shown, (o.printOptions directory p).path = some shown ∧
        o.printOptions directory (Path.ofString shown) = o.printOptions directory p := by
  have hsteps := Path.steps_ne_nil hname
  have hne := Path.bytes_ne_nil_of_steps hsteps
  constructor
  · intro q hq
    obtain ⟨hname', habsolute⟩ := Path.keeps_of_respells hdirectory hname hq
    have hroute := o.route_congr (hname'.trans hname.symm)
    have hprint := o.printOptions_congr hne habsolute
    refine ⟨hroute, hprint, fun text => ?_⟩
    rw [question?, question?, hroute, hprint]
    cases o.route p <;> rfl
  · rintro s t rfl rfl
    obtain ⟨q, habsolute, hown, htext⟩ := hdirectory.absolute?_absolute? hsteps
    have hshown : Path.ofString q.display = q :=
      (htext ⟨s.toList, rfl⟩ ⟨t.toList, rfl⟩).ofString_display
    refine ⟨q.display, ?_, ?_⟩
    · rw [printOptions, habsolute]
      rfl
    · rw [hshown]
      exact o.printOptions_congr hne (hown.trans habsolute.symm)

/-- A path behind a parent, and the same path from the root, with a dot and a slash more behind its
names. -/
theorem printOptions_respelled_parent :
    printOptions {} (Path.ofString "/w/..") (Path.ofString "/w/.././a/./..//b.prisma") =
        printOptions {} (Path.ofString "/w/..") (Path.ofString "a/../b.prisma") ∧
      route {} (Path.ofString "/w/.././a/./..//b.prisma") = .ok .prisma := by
  have hdirectory : (Path.ofString "/w/..").Tidy := ⟨by decide, .inr (by decide)⟩
  have hname : (Path.ofString "a/../b.prisma").fileName? = some (Bytes.ofString "b.prisma") := by
    decide
  have ha : Path.HoldsName (Bytes.ofString "a") := ⟨0x61, by decide, by decide⟩
  have hdotted : Path.Respells (Path.ofString "/w/..") (Path.ofString "a/../b.prisma")
      (Path.ofString "a/./../b.prisma") := .dotted (Bytes.ofString "../b.prisma") ha
  have hparent : Path.HoldsName (Bytes.ofString "a/./..") := ⟨0x61, by decide, by decide⟩
  have hrepeated : Path.Respells (Path.ofString "/w/..") (Path.ofString "a/./../b.prisma")
      (Path.ofString "a/./..//b.prisma") := .repeated (Bytes.ofString "b.prisma") hparent
  have hstarted : Path.Respells (Path.ofString "/w/..") (Path.ofString "a/./..//b.prisma")
      (Path.ofString "./a/./..//b.prisma") := .started (by decide)
  have hjoined : Path.Respells (Path.ofString "/w/..") (Path.ofString "./a/./..//b.prisma")
      (Path.ofString "/w/.././a/./..//b.prisma") := .joined (by decide)
  have hsteps :=
    (((Relation.ReflTransGen.single hdotted).tail hrepeated).tail hstarted).tail hjoined
  obtain ⟨hspellings, -⟩ := printOptions_respelled {} hdirectory hname
  obtain ⟨hroute, hprint, -⟩ := hspellings _ hsteps
  exact ⟨hprint, hroute.trans (by decide)⟩

end FormatOptions

end SchemaFormat
