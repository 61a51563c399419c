import Mathlib.Data.List.Induction
import SchemaFormat.Proofs.FileTree

/-!
Following a path.

What one part does does not depend on the parts behind it (`reach_cons_cases`), and so there are few
things that a path can come to (`ends_lookup`): what it leads to stands there. If some parts lead to
a directory, more parts behind them lead where they lead from there (`reach_append`), and so it is
when links are replaced on the way (`follow_append`). Names below a directory that lead to a node
without a link in between are followed to that node (`reach_below`). So a path into a directory
leads to what stands there.
-/

namespace SchemaFormat

theorem isName_iff {n : Name} :
    isName n = true ↔
      n ≠ [] ∧ n ≠ [Path.dot] ∧ n ≠ [Path.dot, Path.dot] ∧ Path.slash ∉ n ∧ 0 ∉ n := by
  simp [isName, and_assoc]

namespace FileSystem

variable {fs : FileSystem} {last : Bool} {directory place : Location} {parts more : List Name}
  {links : Nat} {fault : SystemFault}

/-! ### One part -/

/-- What one part does in a directory, whatever the parts behind it are. -/
inductive PartCases (fs : FileSystem) (last : Bool) (directory : Location)
    (part : Name) : Prop where
  /-- The parts behind it lead on from a directory, that of its name if it is one. -/
  | goesOn (next : Location) (named : isName part = true → next = directory ++ [part])
    (step : ∀ rest, fs.reach last directory (part :: rest) = fs.reach last next rest)
  | tooLong (long : maxName < part.length)
    (step : ∀ rest, fs.reach last directory (part :: rest) = .done (.failed .nameTooLong))
  | nothing (stands : fs.node? (directory ++ [part]) = none)
    (step : ∀ rest, fs.reach last directory (part :: rest) =
      if onlySlashes rest then .done (.missing (directory ++ [part]) (! rest.isEmpty))
        else .done (.failed .notFound))
  | link (held : Path) (stands : fs.node? (directory ++ [part]) = some (.link held))
    (step : ∀ rest, fs.reach last directory (part :: rest) =
      if rest.isEmpty && ! last then .done (.found (directory ++ [part]) (.link held))
        else .link directory held rest)
  /-- A node that is neither a directory nor a link ends a path. -/
  | final (node : Node) (stands : fs.node? (directory ++ [part]) = some node)
    (directory_ne : node ≠ .directory) (link_ne : ∀ held, node ≠ .link held)
    (step : ∀ rest, fs.reach last directory (part :: rest) =
      if rest.isEmpty then .done (.found (directory ++ [part]) node)
        else .done (.failed .notDirectory))

/-- **One part is followed alike, whatever is behind it.** -/
theorem reach_cons_cases (fs : FileSystem) (last : Bool) (directory : Location) (part : Name) :
    PartCases fs last directory part := by
  by_cases hdot : part = [] ∨ part = [Path.dot]
  · refine .goesOn directory (fun hname => ?_) fun rest => by rw [reach, if_pos hdot]
    obtain ⟨hempty, hname, -⟩ := isName_iff.mp hname
    exact absurd hdot (not_or.mpr ⟨hempty, hname⟩)
  by_cases hdots : part = [Path.dot, Path.dot]
  · refine .goesOn directory.dropLast (fun hname => ?_)
      fun rest => by rw [reach, if_neg hdot, if_pos hdots]
    exact absurd hdots (isName_iff.mp hname).2.2.1
  by_cases hlong : maxName < part.length
  · exact .tooLong hlong fun rest => by rw [reach, if_neg hdot, if_neg hdots, if_pos hlong]
  -- The part is looked up in the directory.
  have hshort : ∀ rest, fs.reach last directory (part :: rest) = _ := fun rest => by
    rw [reach, if_neg hdot, if_neg hdots, if_neg hlong]
  dsimp only at hshort
  cases hnode : fs.node? (directory ++ [part]) with
  | none => exact .nothing hnode fun rest => by rw [hshort, hnode]
  | some node =>
    cases node with
    | directory =>
      exact .goesOn (directory ++ [part]) (fun _ => rfl) fun rest => by rw [hshort, hnode]
    | link held => exact .link held hnode fun rest => by rw [hshort, hnode]
    | _ => exact .final _ hnode nofun nofun fun rest => by rw [hshort, hnode]

/-! ### Where a path ends -/

/-- What can be wrong with a path. -/
inductive PathFault : SystemFault → Prop where
  | notFound : PathFault .notFound
  | notDirectory : PathFault .notDirectory
  | nameTooLong : PathFault .nameTooLong
  | tooManyLinks : PathFault .tooManyLinks
  | zeroInPath : PathFault .zeroInPath

/-- What a path can come to. -/
inductive Ends (fs : FileSystem) (last : Bool) : Lookup → Prop where
  /-- A directory, which may be taken for granted. -/
  | directory (place : Location) : Ends fs last (.found place .directory)
  /-- A node that stands there, no link if the last link is followed. -/
  | node {place : Location} {node : Node} (stands : fs.node? place = some node)
    (followed : last = true → ∀ held, node ≠ .link held) : Ends fs last (.found place node)
  | missing {place : Location} (slashed : Bool) (nothing : fs.node? place = none) :
    Ends fs last (.missing place slashed)
  | failed {fault : SystemFault} : PathFault fault → Ends fs last (.failed fault)

theorem Ends.of_reach {result : Lookup} (h : fs.reach last directory parts = .done result) :
    fs.Ends last result := by
  induction parts generalizing directory with
  | nil =>
    cases h
    exact .directory directory
  | cons part rest ih =>
    cases fs.reach_cons_cases last directory part with
    | goesOn next _ hstep => exact ih (hstep rest ▸ h)
    | tooLong _ hstep =>
      rw [hstep] at h
      cases h
      exact .failed .nameTooLong
    | nothing hnode hstep =>
      rw [hstep] at h
      split at h <;> cases h
      · exact .missing _ hnode
      · exact .failed .notFound
    | link held hnode hstep =>
      rw [hstep] at h
      split at h
      · next hend =>
        cases h
        exact .node hnode fun hlast => by simp [hlast] at hend
      · cases h
    | final node hnode _ hlink hstep =>
      rw [hstep] at h
      split at h <;> cases h
      · exact .node hnode fun _ => hlink
      · exact .failed .notDirectory

theorem follow_of_done {result : Lookup} (h : fs.reach last directory parts = .done result)
    (links : Nat) :
    fs.follow last directory parts links = result := by
  cases links <;> rw [follow, h]

theorem follow_succ_of_link {target : Path} {rest : List Name}
    (h : fs.reach last directory parts = .link place target rest) (links : Nat) :
    fs.follow last directory parts (links + 1) =
      if target.bytes = [] then .failed .notFound
      else fs.follow last (if target.isAbsolute then [] else place)
        (target.parts ++ rest) links := by
  rw [follow, h]

theorem ends_follow (fs : FileSystem) (last : Bool) (directory : Location) (parts : List Name)
    (links : Nat) :
    fs.Ends last (fs.follow last directory parts links) := by
  induction links generalizing directory parts with
  | zero =>
    cases hreach : fs.reach last directory parts with
    | done result => exact follow_of_done hreach 0 ▸ .of_reach hreach
    | link place target rest =>
      rw [follow, hreach]
      exact .failed .tooManyLinks
  | succ links ih =>
    cases hreach : fs.reach last directory parts with
    | done result => exact follow_of_done hreach (links + 1) ▸ .of_reach hreach
    | link place target rest =>
      rw [follow_succ_of_link hreach]
      split
      · exact .failed .notFound
      · exact ih _ _

/-- **Every path comes to one of these.** -/
theorem ends_lookup (fs : FileSystem) (last : Bool) (directory : Location) (p : Path) :
    fs.Ends last (fs.lookup last directory p) := by
  unfold lookup
  split
  · exact .failed .zeroInPath
  split
  · exact .failed .notFound
  split
  · exact .failed .nameTooLong
  · exact fs.ends_follow last _ _ _

/-- **Where a path leads nowhere, the path is at fault.** -/
theorem pathFault_of_lookup {p : Path} (h : fs.lookup last directory p = .failed fault) :
    PathFault fault := by
  have hends := fs.ends_lookup last directory p
  rw [h] at hends
  cases hends with
  | failed hfault => exact hfault

/-- **What a path leads to stands there**; only of a directory it may have been taken for granted.
-/
theorem node?_of_lookup {p : Path} {node : Node}
    (h : fs.lookup last directory p = .found place node) :
    node = .directory ∨ fs.node? place = some node := by
  have hends := fs.ends_lookup last directory p
  rw [h] at hends
  cases hends with
  | directory => exact .inl rfl
  | node hnode => exact .inr hnode

/-- **A path whose last link is followed leads to no link.** -/
theorem lookup_ne_link {p held : Path} :
    fs.lookup true directory p ≠ .found place (.link held) := by
  intro h
  have hends := fs.ends_lookup true directory p
  rw [h] at hends
  cases hends with
  | node _ hlink => exact hlink rfl held rfl

/-! ### Further parts -/

/-- Parts can lead on from where some led: to a directory, or to a link that has to be replaced. -/
def Reach.Open : Reach → Prop
  | .done (.found _ .directory) => True
  | .link .. => True
  | _ => False

/-- Where further parts lead from there. -/
def Reach.onward (fs : FileSystem) (more : List Name) : Reach → Reach
  | .done (.found place .directory) => fs.reach true place more
  | .link directory target rest => .link directory target (rest ++ more)
  | closed => closed

/-- Some parts lead on with more behind them, or neither do they nor those with more behind them. -/
theorem reach_append_cases (fs : FileSystem) (directory : Location) (parts more : List Name) :
    (fs.reach true directory parts).Open ∧
        fs.reach true directory (parts ++ more) = (fs.reach true directory parts).onward fs more ∨
      ¬ (fs.reach true directory parts).Open ∧
      ¬ (fs.reach true directory (parts ++ more)).Open := by
  induction parts generalizing directory with
  | nil => exact .inl ⟨trivial, rfl⟩
  | cons part rest ih =>
    rw [List.cons_append]
    cases fs.reach_cons_cases true directory part with
    | goesOn next _ hstep =>
      rw [hstep, hstep]
      exact ih next
    | tooLong _ hstep =>
      rw [hstep, hstep]
      exact .inr ⟨id, id⟩
    | nothing _ hstep =>
      rw [hstep, hstep]
      refine .inr ⟨?_, ?_⟩
      · cases onlySlashes rest <;> exact id
      · cases onlySlashes (rest ++ more) <;> exact id
    | link held _ hstep =>
      rw [hstep, hstep]
      simp only [Bool.not_true, Bool.and_false, Bool.false_eq_true, if_false]
      exact .inl ⟨trivial, rfl⟩
    | final node _ hdirectory _ hstep =>
      have hclosed : ∀ further, ¬ (fs.reach true directory (part :: further)).Open := by
        intro further
        rw [hstep]
        cases further.isEmpty with
        | true => cases node <;> first | exact id | exact absurd rfl hdirectory
        | false => exact id
      exact .inr ⟨hclosed rest, hclosed (rest ++ more)⟩

/-- **Where some parts lead, more lead on.** -/
theorem reach_append (h : (fs.reach true directory parts).Open) (more : List Name) :
    fs.reach true directory (parts ++ more) = (fs.reach true directory parts).onward fs more := by
  rcases reach_append_cases fs directory parts more with ⟨-, honward⟩ | ⟨hclosed, -⟩
  · exact honward
  · exact absurd h hclosed

theorem open_of_reach_append (h : (fs.reach true directory (parts ++ more)).Open) :
    (fs.reach true directory parts).Open := by
  rcases reach_append_cases fs directory parts more with ⟨hopen, -⟩ | ⟨-, hclosed⟩
  · exact hopen
  · exact absurd h hclosed

/-- Where a link has to be replaced, that fails or it is replaced by what it holds. -/
theorem follow_of_link {target : Path} {rest : List Name}
    (h : fs.reach true directory parts = .link place target rest) (links : Nat) :
    (∃ fault, fs.follow true directory parts links = .failed fault) ∨
      ∃ fewer, links = fewer + 1 ∧ target.bytes ≠ [] ∧
        fs.follow true directory parts links =
          fs.follow true (if target.isAbsolute then [] else place)
            (target.parts ++ rest) fewer := by
  cases links with
  | zero => exact .inl ⟨.tooManyLinks, by rw [follow, h]⟩
  | succ fewer =>
    have hstep := follow_succ_of_link h fewer
    by_cases hempty : target.bytes = []
    · rw [if_pos hempty] at hstep
      exact .inl ⟨_, hstep⟩
    · rw [if_neg hempty] at hstep
      exact .inr ⟨fewer, rfl, hempty, hstep⟩

/-- What leads to a directory in the end leads on at first. -/
theorem open_of_follow (h : fs.follow true directory parts links = .found place .directory) :
    (fs.reach true directory parts).Open := by
  cases hreach : fs.reach true directory parts with
  | link further target rest => trivial
  | done result =>
    rw [follow_of_done hreach] at h
    rw [h]
    trivial

theorem Reach.Open.cases {r : Reach} (h : r.Open) :
    (∃ place, r = .done (.found place .directory)) ∨
    ∃ place target rest, r = .link place target rest := by
  cases r with
  | link further target rest => exact .inr ⟨further, target, rest, rfl⟩
  | done result =>
    cases result with
    | missing further slashed => cases h
    | failed fault => cases h
    | found further node =>
      cases node with
      | directory => exact .inl ⟨further, rfl⟩
      | _ => cases h

/-- **Where a path leads to a directory, further parts lead on from there**, however many links were
replaced on the way. -/
theorem follow_append {result : Lookup}
    (h : fs.follow true directory parts links = .found place .directory)
    (hmore : fs.reach true place more = .done result) :
    fs.follow true directory (parts ++ more) links = result := by
  induction links using Nat.strongRecOn generalizing directory parts with
  | _ links ih =>
    have honward := reach_append (open_of_follow h) more
    rcases (open_of_follow h).cases with ⟨found, hreach⟩ | ⟨further, target, rest, hreach⟩
    · rw [follow_of_done hreach] at h
      cases h
      rw [hreach, Reach.onward, hmore] at honward
      exact follow_of_done honward _
    · rw [hreach, Reach.onward] at honward
      rcases follow_of_link hreach links with ⟨fault, hfault⟩ | ⟨fewer, rfl, htarget, hstep⟩
      · rw [hfault] at h
        cases h
      · rw [hstep] at h
        rw [follow_succ_of_link honward, if_neg htarget, ← List.append_assoc]
        exact ih fewer (Nat.lt_succ_self fewer) h

/-- A slash behind a path that leads to a directory says nothing. -/
theorem follow_of_slash
    (h : fs.follow true directory (parts ++ [[]]) links = .found place .directory) :
    fs.follow true directory parts links = .found place .directory := by
  induction links using Nat.strongRecOn generalizing directory parts with
  | _ links ih =>
    have hopen := open_of_reach_append (open_of_follow h)
    have honward := reach_append hopen [[]]
    rcases hopen.cases with ⟨found, hreach⟩ | ⟨further, target, rest, hreach⟩
    · rw [hreach] at honward
      rw [follow_of_done honward] at h
      rw [follow_of_done hreach, h]
    · rw [hreach, Reach.onward] at honward
      rcases follow_of_link honward links with ⟨fault, hfault⟩ | ⟨fewer, rfl, htarget, hstep⟩
      · rw [hfault] at h
        cases h
      · rw [hstep, ← List.append_assoc] at h
        rw [follow_succ_of_link hreach, if_neg htarget]
        exact ih fewer (Nat.lt_succ_self fewer) h

/-! ### Below a directory -/

/-- What stands below a location stands in directories. -/
theorem node?_of_append {l more : Location} {n : Node} (h : fs.node? (l ++ more) = some n)
    (hmore : more ≠ []) : fs.node? l = some .directory := by
  induction more using List.reverseRecOn generalizing n with
  | nil => exact absurd rfl hmore
  | append_singleton more name ih =>
    have hne : l ++ (more ++ [name]) ≠ [] := by simp
    obtain ⟨-, -, hparent⟩ := fs.placed _ (Entry.mem_of_find? hne h)
    dsimp only at hparent
    rw [← List.append_assoc, List.dropLast_concat] at hparent
    by_cases hempty : more = []
    · subst hempty
      rwa [List.append_nil] at hparent
    · exact ih hparent hempty

/-- The names of a location are names. -/
theorem isName_of_node? {l : Location} {n : Node} (h : fs.node? l = some n) :
    ∀ name ∈ l, isName name = true := by
  by_cases hl : l = []
  · simp [hl]
  · exact (fs.placed _ (Entry.mem_of_find? hl h)).2.1

theorem reach_directory {name : Name} (h : isName name = true) (hshort : name.length ≤ maxName)
    (hnode : fs.node? (place ++ [name]) = some .directory) (rest : List Name) :
    fs.reach true place (name :: rest) = fs.reach true (place ++ [name]) rest := by
  obtain ⟨hempty, hdot, hdots, -, -⟩ := isName_iff.mp h
  rw [reach, if_neg (by simp [hempty, hdot]), if_neg hdots, if_neg (Nat.not_lt.mpr hshort)]
  simp only [hnode]

/-- The last name leads to what stands there, if that is no link. -/
theorem reach_last {name : Name} {node : Node} (h : isName name = true)
    (hshort : name.length ≤ maxName) (hnode : fs.node? (place ++ [name]) = some node)
    (hlink : ∀ held, node ≠ .link held) :
    fs.reach true place [name] = .done (.found (place ++ [name]) node) := by
  obtain ⟨hempty, hdot, hdots, -, -⟩ := isName_iff.mp h
  cases node with
  | directory => exact reach_directory h hshort hnode []
  | link held => exact absurd rfl (hlink held)
  | _ =>
    rw [reach, if_neg (by simp [hempty, hdot]), if_neg hdots, if_neg (Nat.not_lt.mpr hshort)]
    simp [hnode]

/-- **Names below a directory are followed to the node that stands there**, if none of them is too
long and the node is no link. -/
theorem reach_below {names : Location} {node : Node} (hnode : fs.node? (place ++ names) = some node)
    (hne : names ≠ []) (hshort : ∀ name ∈ names, name.length ≤ maxName)
    (hlink : ∀ held, node ≠ .link held) :
    fs.reach true place names = .done (.found (place ++ names) node) := by
  induction names generalizing place with
  | nil => exact absurd rfl hne
  | cons name names ih =>
    have hname : isName name = true := isName_of_node? hnode name (by simp)
    by_cases hlast : names = []
    · subst hlast
      exact reach_last hname (hshort name List.mem_cons_self) hnode hlink
    · rw [List.append_cons place name names] at hnode ⊢
      rw [reach_directory hname (hshort name List.mem_cons_self) (node?_of_append hnode hlast)]
      exact ih hnode hlast fun other hother => hshort other (List.mem_cons_of_mem name hother)

/-- Names that are followed without a link lead to where they say. -/
theorem eq_append_of_reach {names : Location} {found : Location} {node : Node}
    (hnames : ∀ n ∈ names, isName n = true)
    (h : fs.reach true place names = .done (.found found node)) :
    found = place ++ names := by
  induction names generalizing place with
  | nil =>
    cases h
    exact (List.append_nil _).symm
  | cons name names ih =>
    have hrest : ∀ n ∈ names, isName n = true := fun n hn => hnames n (List.mem_cons_of_mem name hn)
    cases fs.reach_cons_cases true place name with
    | goesOn next hnext hstep =>
      obtain rfl := hnext (hnames name List.mem_cons_self)
      rw [List.append_cons]
      exact ih hrest (hstep names ▸ h)
    | tooLong _ hstep =>
      rw [hstep] at h
      cases h
    | nothing _ hstep =>
      rw [hstep] at h
      split at h <;> cases h
    | link held _ hstep =>
      rw [hstep] at h
      simp at h
    | final other _ _ _ hstep =>
      rw [hstep] at h
      split at h
      · next hlast =>
        cases h
        rw [List.isEmpty_iff.mp hlast]
      · cases h

end FileSystem

end SchemaFormat
