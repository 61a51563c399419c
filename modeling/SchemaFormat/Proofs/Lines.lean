import Mathlib.Data.List.DropRight
import SchemaFormat.Text.Blank

/-!
Parts, words and lines of a text.

Everything about `split` follows from one equation, `split_append_separator`: a separator ends one
part and begins the next. From it `words_join` and `split_join` say that words and parts are read
back from a text that joins them. `content` is what remains of a text when its blanks do not count,
and `content_join` reads it back.
-/

namespace SchemaFormat.Text

variable {α : Type} {isSeparator : α → Bool}

/-! ### Parts -/

@[simp] theorem split_nil : split isSeparator [] = [[]] := rfl

theorem split_cons_separator {c : α} (h : isSeparator c = true) (text : List α) :
    split isSeparator (c :: text) = [] :: split isSeparator text := by
  simp [split, h]

theorem split_cons_of_not {c : α} (h : isSeparator c = false) (text : List α) :
    split isSeparator (c :: text) = consFirst c (split isSeparator text) := by
  simp [split, h]

theorem split_ne_nil (text : List α) : split isSeparator text ≠ [] := by
  cases text with
  | nil => simp
  | cons c rest =>
    cases h : isSeparator c with
    | true => simp [split_cons_separator h]
    | false =>
      rw [split_cons_of_not h]
      cases split isSeparator rest <;> simp [consFirst]

theorem consFirst_append (c : α) {parts : List (List α)} (h : parts ≠ []) (more : List (List α)) :
    consFirst c (parts ++ more) = consFirst c parts ++ more := by
  cases parts with
  | nil => exact absurd rfl h
  | cons part parts => rfl

/-- **A separator ends one part and begins the next.** -/
theorem split_append_separator {c : α} (h : isSeparator c = true) (before after : List α) :
    split isSeparator (before ++ c :: after) =
      split isSeparator before ++ split isSeparator after := by
  induction before with
  | nil => exact split_cons_separator h after
  | cons d before ih =>
    cases hd : isSeparator d with
    | true =>
      rw [List.cons_append, split_cons_separator hd, split_cons_separator hd, ih, List.cons_append]
    | false =>
      rw [List.cons_append, split_cons_of_not hd, split_cons_of_not hd, ih,
        consFirst_append d (split_ne_nil before)]

theorem split_of_not {text : List α} (h : ∀ c ∈ text, isSeparator c = false) :
    split isSeparator text = [text] := by
  induction text with
  | nil => rfl
  | cons c text ih =>
    rw [split_cons_of_not (h c List.mem_cons_self), ih fun d hd => h d (List.mem_cons_of_mem c hd)]
    rfl

theorem not_of_mem_split {text part : List α} (h : part ∈ split isSeparator text) :
    ∀ c ∈ part, isSeparator c = false := by
  induction text generalizing part with
  | nil =>
    rw [split_nil, List.mem_singleton] at h
    simp [h]
  | cons d text ih =>
    cases hd : isSeparator d with
    | true =>
      rw [split_cons_separator hd, List.mem_cons] at h
      rcases h with rfl | h
      · simp
      · exact ih h
    | false =>
      rw [split_cons_of_not hd] at h
      have hne : split isSeparator text ≠ [] := split_ne_nil text
      obtain ⟨first, parts, hsplit⟩ := List.exists_cons_of_ne_nil hne
      rw [hsplit, consFirst, List.mem_cons] at h
      rcases h with rfl | h
      · intro c hc
        rcases List.mem_cons.mp hc with rfl | hc
        · exact hd
        · exact ih (by simp [hsplit]) c hc
      · exact ih (by simp [hsplit, h])

/-- What a part holds is of the text. -/
theorem subset_of_mem_split {text part : List α} (h : part ∈ split isSeparator text) :
    part ⊆ text := by
  induction text generalizing part with
  | nil =>
    rw [split_nil, List.mem_singleton] at h
    exact h ▸ List.Subset.refl []
  | cons d text ih =>
    have hne : split isSeparator text ≠ [] := split_ne_nil text
    obtain ⟨first, parts, hsplit⟩ := List.exists_cons_of_ne_nil hne
    cases hd : isSeparator d with
    | true =>
      rw [split_cons_separator hd, List.mem_cons] at h
      rcases h with rfl | h
      · exact List.nil_subset _
      · exact List.subset_cons_of_subset d (ih h)
    | false =>
      rw [split_cons_of_not hd, hsplit, consFirst, List.mem_cons] at h
      rcases h with rfl | h
      · exact List.cons_subset_cons d (ih (hsplit ▸ List.mem_cons_self))
      · exact List.subset_cons_of_subset d (ih (hsplit ▸ List.mem_cons_of_mem first h))

theorem join_cons (separator first : List α) {parts : List (List α)} (h : parts ≠ []) :
    join separator (first :: parts) = first ++ (separator ++ join separator parts) := by
  obtain ⟨second, parts, rfl⟩ := List.exists_cons_of_ne_nil h
  simp [join]

theorem split_join {c : α} (hc : isSeparator c = true) {parts : List (List α)} (hne : parts ≠ [])
    (h : ∀ part ∈ parts, ∀ d ∈ part, isSeparator d = false) :
    split isSeparator (join [c] parts) = parts := by
  induction parts with
  | nil => exact absurd rfl hne
  | cons part parts ih =>
    have hpart := split_of_not (h part List.mem_cons_self)
    cases parts with
    | nil => simpa [join] using hpart
    | cons next parts =>
      rw [join_cons _ _ (by simp), List.singleton_append, split_append_separator hc, hpart,
        ih (by simp) fun q hq => h q (List.mem_cons_of_mem part hq)]
      rfl

theorem join_split {c : α} {text : List α} (h : ∀ d ∈ text, isSeparator d = true → d = c) :
    join [c] (split isSeparator text) = text := by
  induction text with
  | nil => rfl
  | cons d text ih =>
    have hne : split isSeparator text ≠ [] := split_ne_nil text
    have htext := ih fun e he => h e (List.mem_cons_of_mem d he)
    cases hd : isSeparator d with
    | true =>
      obtain rfl := h d List.mem_cons_self hd
      rw [split_cons_separator hd, join_cons _ _ hne, htext]
      rfl
    | false =>
      obtain ⟨first, parts, hsplit⟩ := List.exists_cons_of_ne_nil hne
      rw [hsplit, join] at htext
      rw [split_cons_of_not hd, hsplit, consFirst, join, List.cons_append, htext]

/-- What goes through a text piece by piece, and makes one separator of another, goes through its
parts. -/
theorem map_join {β : Type} {f : List α → List β} {c : α} {d : β} (hnil : f [] = [])
    (h : ∀ before after, f (before ++ c :: after) = f before ++ d :: f after)
    (parts : List (List α)) :
    f (join [c] parts) = join [d] (parts.map f) := by
  induction parts with
  | nil => exact hnil
  | cons part parts ih =>
    by_cases hne : parts = []
    · subst hne
      simp [join]
    · rw [join_cons _ _ hne, List.map_cons, join_cons _ _ (by simpa using hne),
        List.singleton_append, List.singleton_append, h, ih]

/-- One separator may stand for others where they agree. -/
theorem split_congr {isSeparator' : α → Bool} {text : List α}
    (h : ∀ c ∈ text, isSeparator c = isSeparator' c) :
    split isSeparator text = split isSeparator' text := by
  induction text with
  | nil => rfl
  | cons c text ih =>
    have htext := ih fun d hd => h d (List.mem_cons_of_mem c hd)
    have hc := h c List.mem_cons_self
    cases hsep : isSeparator c with
    | true => rw [split_cons_separator hsep, split_cons_separator (hc ▸ hsep), htext]
    | false => rw [split_cons_of_not hsep, split_cons_of_not (hc ▸ hsep), htext]

theorem flatten_split (text : List α) :
    (split isSeparator text).flatten = text.filter (! isSeparator ·) := by
  induction text with
  | nil => rfl
  | cons c text ih =>
    cases h : isSeparator c with
    | true =>
      rw [split_cons_separator h, List.flatten_cons, ih, List.filter_cons_of_neg (by simp [h]),
        List.nil_append]
    | false =>
      have hne : split isSeparator text ≠ [] := split_ne_nil text
      obtain ⟨first, parts, hsplit⟩ := List.exists_cons_of_ne_nil hne
      rw [split_cons_of_not h, List.filter_cons_of_pos (by simp [h]), ← ih, hsplit]
      rfl

/-- Where two lists of parts meet stands one more separator. -/
theorem join_append (separator : List α) {before after : List (List α)} (hbefore : before ≠ [])
    (hafter : after ≠ []) :
    join separator (before ++ after) =
      join separator before ++ (separator ++ join separator after) := by
  obtain ⟨first, parts, rfl⟩ := List.exists_cons_of_ne_nil hbefore
  obtain ⟨next, others, rfl⟩ := List.exists_cons_of_ne_nil hafter
  simp [join]

/-- Parts that are put in front are each followed by a separator. -/
theorem join_append_eq_flatMap (separator : List α) (before : List (List α)) {after : List (List α)}
    (hafter : after ≠ []) :
    join separator (before ++ after) = before.flatMap (· ++ separator) ++ join separator after := by
  induction before with
  | nil => rfl
  | cons part before ih =>
    rw [List.cons_append, join_cons _ _ (by simp [hafter]), ih, List.flatMap_cons]
    simp only [List.append_assoc]

/-- Parts of which a separator follows the last as well. -/
theorem join_append_separator (separator : List α) {parts : List (List α)} (h : parts ≠ []) :
    join separator parts ++ separator = parts.flatMap (· ++ separator) := by
  have hflat : join separator (parts ++ [[]]) =
      parts.flatMap (· ++ separator) ++ join separator [[]] :=
    join_append_eq_flatMap separator parts (by simp)
  rw [join_append _ h (by simp), show join separator [([] : List α)] = [] from rfl, List.append_nil,
    List.append_nil] at hflat
  exact hflat

/-- Joined parts end as the last of them does. -/
theorem getLast?_join_concat (separator : List α) (parts : List (List α)) {part : List α}
    (h : part ≠ []) :
    (join separator (parts ++ [part])).getLast? = part.getLast? := by
  by_cases hparts : parts = []
  · simp [hparts, join]
  · have hpart : join separator [part] = part := by simp [join]
    rw [join_append _ hparts (by simp), ← List.append_assoc, hpart,
      List.getLast?_append_of_ne_nil _ h]

/-! ### Words -/

/-- A word is not empty and holds no blank. -/
def IsWord (word : List Char) : Prop :=
  word ≠ [] ∧ ∀ c ∈ word, isBlank c = false

theorem isWord_of_mem_words {text word : List Char} (h : word ∈ words text) : IsWord word := by
  obtain ⟨hsplit, hne⟩ := List.mem_filter.mp h
  exact ⟨by simpa using hne, not_of_mem_split hsplit⟩

@[simp] theorem words_nil : words [] = [] := rfl

/-- **A blank ends the words before it and belongs to none.** -/
theorem words_append_blank {c : Char} (h : isBlank c = true) (before after : List Char) :
    words (before ++ c :: after) = words before ++ words after := by
  rw [words, split_append_separator h, List.filter_append]
  rfl

theorem words_blanks_append {blanks : List Char} (h : ∀ c ∈ blanks, isBlank c = true)
    (text : List Char) : words (blanks ++ text) = words text := by
  induction blanks with
  | nil => rfl
  | cons c blanks ih =>
    rw [List.cons_append, show c :: (blanks ++ text) = [] ++ c :: (blanks ++ text) from rfl,
      words_append_blank (h c List.mem_cons_self), ih fun d hd => h d (List.mem_cons_of_mem c hd)]
    rfl

theorem words_of_isWord {word : List Char} (h : IsWord word) : words word = [word] := by
  rw [words, split_of_not h.2, List.filter_cons_of_pos (by simpa using h.1), List.filter_nil]

/-- **Words are read back from a text that joins them by spaces.** -/
theorem words_join {ws : List (List Char)} (h : ∀ w ∈ ws, IsWord w) :
    words (join [' '] ws) = ws := by
  induction ws with
  | nil => rfl
  | cons w ws ih =>
    have hw := words_of_isWord (h w List.mem_cons_self)
    cases ws with
    | nil => simpa [join] using hw
    | cons next ws =>
      rw [join_cons _ _ (by simp), List.singleton_append, words_append_blank (by decide), hw,
        ih fun q hq => h q (List.mem_cons_of_mem w hq)]
      rfl

/-- No other blank than the space stands between words. -/
theorem not_mem_join_of_isWord {ws : List (List Char)} (h : ∀ w ∈ ws, IsWord w) {c : Char}
    (hspace : c ≠ ' ') (hblank : isBlank c = true) : c ∉ join [' '] ws := by
  have hword (w : List Char) (hw : w ∈ ws) : c ∉ w := by
    intro hc
    rw [(h w hw).2 c hc] at hblank
    cases hblank
  cases ws with
  | nil => simp [join]
  | cons w ws =>
    intro hmem
    rcases List.mem_append.mp hmem with hmem | hmem
    · exact hword w List.mem_cons_self hmem
    · obtain ⟨next, hnext, hc⟩ := List.mem_flatMap.mp hmem
      rcases List.mem_append.mp hc with hc | hc
      · exact hspace (List.mem_singleton.mp hc)
      · exact hword next (List.mem_cons_of_mem w hnext) hc

theorem join_eq_nil_iff {ws : List (List Char)} (h : ∀ w ∈ ws, IsWord w) :
    join [' '] ws = [] ↔ ws = [] := by
  cases ws with
  | nil => simp [join]
  | cons w ws => simp [join, (h w List.mem_cons_self).1]

/-- Words hold all of a text but its blanks. -/
theorem flatten_words (text : List Char) : (words text).flatten = text.filter (! isBlank ·) := by
  rw [words, List.flatten_filter_not_isEmpty, flatten_split]

/-- Joined words hold, apart from blanks, what the words hold. -/
theorem filter_join {ws : List (List Char)} (h : ∀ w ∈ ws, IsWord w) :
    (join [' '] ws).filter (! isBlank ·) = ws.flatten := by
  rw [← flatten_words, words_join h]

/-- Words begin with the first of them, which is not empty. -/
theorem head?_flatten {ws : List (List Char)} (h : ∀ w ∈ ws, IsWord w) :
    ws.flatten.head? = ws.head?.bind List.head? := by
  cases ws with
  | nil => rfl
  | cons w ws =>
    obtain ⟨c, rest, rfl⟩ := List.exists_cons_of_ne_nil (h w List.mem_cons_self).1
    rfl

theorem head?_join {ws : List (List Char)} (h : ∀ w ∈ ws, IsWord w) :
    (join [' '] ws).head? = ws.head?.bind List.head? := by
  cases ws with
  | nil => rfl
  | cons w ws =>
    obtain ⟨c, rest, rfl⟩ := List.exists_cons_of_ne_nil (h w List.mem_cons_self).1
    rfl

/-- A line put together again from its words begins with its first character that is no blank. -/
theorem head?_join_words (text : List Char) :
    (join [' '] (words text)).head? = text.find? (! isBlank ·) := by
  have hwords (w : List Char) : w ∈ words text → IsWord w := isWord_of_mem_words
  rw [head?_join hwords, ← head?_flatten hwords, flatten_words, List.head?_filter]

/-- A line put together again from its words has as many of each character that is no blank. -/
theorem count_join_words {c : Char} (hc : isBlank c = false) (text : List Char) :
    (join [' '] (words text)).count c = text.count c := by
  have hfilter := filter_join fun w (hw : w ∈ words text) => isWord_of_mem_words hw
  rw [flatten_words] at hfilter
  have hcount := congrArg (List.count c) hfilter
  rwa [List.count_filter (by simp [hc]), List.count_filter (by simp [hc])] at hcount

theorem words_eq_nil_iff {text : List Char} : words text = [] ↔ ∀ c ∈ text, isBlank c = true := by
  have hflatten : words text = [] ↔ (words text).flatten = [] := by
    constructor
    · intro h
      rw [h]
      rfl
    · intro h
      rw [List.eq_nil_iff_forall_not_mem]
      intro w hw
      exact (isWord_of_mem_words hw).1 (List.flatten_eq_nil_iff.mp h w hw)
  rw [hflatten, flatten_words, List.filter_eq_nil_iff]
  simp

/-- Joined words end in the last word, so in no blank. -/
theorem isBlank_getLast?_join {ws : List (List Char)} (h : ∀ w ∈ ws, IsWord w) {c : Char}
    (hc : c ∈ (join [' '] ws).getLast?) : isBlank c = false := by
  induction ws using List.reverseRecOn with
  | nil => simp [join] at hc
  | append_singleton ws w _ =>
    have hw := h w (by simp)
    rw [getLast?_join_concat _ ws hw.1] at hc
    exact hw.2 c (List.mem_of_mem_getLast? hc)

/-! ### Lines -/

theorem flatten_lines (text : List Char) : (lines text).flatten = text.filter (! · == '\n') := by
  rw [← flatten_split]
  unfold lines
  dsimp only
  split
  · rename_i hlast
    obtain ⟨before, hsplit⟩ := List.getLast?_eq_some_iff.mp hlast
    rw [hsplit, List.dropLast_concat, List.flatten_append]
    simp
  · rfl

/-- A text that a line feed ends has its parts for lines. -/
theorem lines_append_newline (text : List Char) :
    lines (text ++ ['\n']) = split (· == '\n') text := by
  unfold lines
  dsimp only
  rw [split_append_separator (by rfl), split_nil, List.getLast?_concat, if_pos rfl,
    List.dropLast_concat]

/-- Behind a line feed new lines begin. -/
theorem lines_append_of_newline {before : List Char} (h : before.getLast? = some '\n')
    (after : List Char) :
    lines (before ++ after) = lines before ++ lines after := by
  obtain ⟨text, rfl⟩ := List.getLast?_eq_some_iff.mp h
  rw [lines_append_newline, List.append_assoc, List.singleton_append]
  unfold lines
  dsimp only
  rw [split_append_separator (by rfl), List.getLast?_append_of_ne_nil _ (split_ne_nil after)]
  split
  · exact List.dropLast_append_of_ne_nil (split_ne_nil after)
  · rfl

theorem lines_join {ls : List (List Char)} (hne : ls ≠ []) (h : ∀ l ∈ ls, '\n' ∉ l) :
    lines (join ['\n'] ls ++ ['\n']) = ls := by
  rw [lines_append_newline, split_join (by rfl) hne]
  intro l hl c hc
  exact beq_eq_false_iff_ne.mpr fun hnewline => h l hl (hnewline ▸ hc)

theorem trimEnd_join_append_nil (ls : List (List Char)) :
    trimEnd (· == '\n') (join ['\n'] (ls ++ [[]])) = trimEnd (· == '\n') (join ['\n'] ls) := by
  by_cases hls : ls = []
  · subst hls
    rfl
  · rw [join_append _ hls (by simp)]
    exact List.rdropWhile_concat_pos _ _ _ (by rfl)

/-- Trimming takes the empty lines at the end. -/
theorem trimEnd_join {ls : List (List Char)} (h : ∀ l ∈ ls, '\n' ∉ l) :
    trimEnd (· == '\n') (join ['\n'] ls) = join ['\n'] (ls.rdropWhile (· == [])) := by
  change (join ['\n'] ls).rdropWhile (· == '\n') = _
  induction ls using List.reverseRecOn with
  | nil => rfl
  | append_singleton ls l ih =>
    have hls := ih fun k hk => h k (by simp [hk])
    by_cases hl : l = []
    · subst hl
      rw [List.rdropWhile_concat_pos _ _ _ (by rfl), ← hls]
      exact trimEnd_join_append_nil ls
    · rw [List.rdropWhile_concat_neg _ _ _ (by simpa using hl), List.rdropWhile_eq_self_iff]
      intro hjoin hnewline
      have hlast := getLast?_join_concat ['\n'] ls hl
      rw [List.getLast?_eq_some_getLast hjoin] at hlast
      refine h l (by simp) (List.mem_of_mem_getLast? ?_)
      rw [← hlast, eq_of_beq hnewline]
      rfl

/-- What a text holds apart from blanks: the words of each line, up to the last line that has any.
-/
def content (text : List Char) : List (List (List Char)) :=
  ((lines text).map words).rdropWhile (· == [])

/-- A last part without characters is no line, but it holds no words either. -/
theorem content_eq_split (text : List Char) :
    content text = ((split (· == '\n') text).map words).rdropWhile (· == []) := by
  unfold content lines
  dsimp only
  split
  · rename_i hlast
    obtain ⟨before, hsplit⟩ := List.getLast?_eq_some_iff.mp hlast
    rw [hsplit, List.dropLast_concat, List.map_append, List.map_singleton, words_nil,
      List.rdropWhile_concat_pos _ _ _ (by simp)]
  · rfl

/-- A line feed at the end adds nothing. -/
theorem content_append_newline (text : List Char) : content (text ++ ['\n']) = content text := by
  rw [content_eq_split, content_eq_split, split_append_separator (by simp), split_nil,
    List.map_append, List.map_singleton, words_nil, List.rdropWhile_concat_pos _ _ _ (by simp)]

/-- Line feeds at the end are nothing. -/
theorem content_trimEnd (text : List Char) : content (trimEnd (· == '\n') text) = content text := by
  change content (text.rdropWhile (· == '\n')) = content text
  induction text using List.reverseRecOn with
  | nil => rfl
  | append_singleton text c ih =>
    by_cases hc : c = '\n'
    · subst hc
      rw [List.rdropWhile_concat_pos _ _ _ (by rfl), ih, content_append_newline]
    · rw [List.rdropWhile_concat_neg (· == '\n') text c (by simpa using hc)]

/-- Each word of a text belongs to a line. -/
theorem isWord_of_mem_content {text word : List Char} {line : List (List Char)}
    (hline : line ∈ content text) (hword : word ∈ line) : IsWord word := by
  obtain ⟨l, -, rfl⟩ := List.mem_map.mp ((List.rdropWhile_prefix _ _).subset hline)
  exact isWord_of_mem_words hword

/-- **Joined lines hold what each of them holds.** -/
theorem content_join {ls : List (List Char)} (h : ∀ l ∈ ls, '\n' ∉ l) :
    content (join ['\n'] ls) = (ls.map words).rdropWhile (· == []) := by
  cases ls with
  | nil => rfl
  | cons l ls =>
    rw [content_eq_split, split_join (by simp) (by simp)]
    intro part hpart d hd
    exact beq_eq_false_iff_ne.mpr fun hnewline => h part hpart (hnewline ▸ hd)

end SchemaFormat.Text
