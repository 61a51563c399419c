import SchemaFormat.Engine.Request
import SchemaFormat.Proofs.HostText

/-!
The characters of a request as it is sent.

On one line, a JSON value whose strings are graphic is graphic itself, and all that is escaped in it
are backslashes and double quotes (`SafeText`). A request holds one string besides the names of its
members, and that is its locator (`Request.safe_compact`).
-/

namespace SchemaFormat

open Uri (IsGraphic GraphicText)

namespace Json

/-- A graphic text in which each backslash escapes: it stands in front of another backslash or of a
double quote. -/
inductive SafeText : List Char → Prop where
  | nil : SafeText []
  | plain {c : Char} {text : List Char} : IsGraphic c → c ≠ '\\' → SafeText text →
    SafeText (c :: text)
  | escaped {c : Char} {text : List Char} : c = '\\' ∨ c = '"' → SafeText text →
    SafeText ('\\' :: c :: text)

namespace SafeText

variable {text other : List Char} {c : Char}

theorem graphic (h : SafeText text) : GraphicText text := by
  induction h with
  | nil => exact .nil
  | plain hc _ _ ih => exact .cons hc ih
  | escaped hc _ ih =>
    refine .cons (by decide) (.cons ?_ ih)
    rcases hc with rfl | rfl
    · decide
    · decide

theorem append (h : SafeText text) (h' : SafeText other) : SafeText (text ++ other) := by
  induction h with
  | nil => exact h'
  | plain hc hplain _ ih => exact .plain hc hplain ih
  | escaped hc _ ih => exact .escaped hc ih

theorem flatMap {α : Type} {parts : List α} {f : α → List Char} (h : ∀ a ∈ parts, SafeText (f a)) :
    SafeText (parts.flatMap f) := by
  induction parts with
  | nil => exact .nil
  | cons a parts ih =>
    rw [List.flatMap_cons]
    exact (h a List.mem_cons_self).append (ih fun b hb => h b (List.mem_cons_of_mem a hb))

theorem of_graphic (h : GraphicText text) (hbackslash : '\\' ∉ text) : SafeText text := by
  induction text with
  | nil => exact .nil
  | cons c text ih =>
    rw [List.mem_cons, not_or] at hbackslash
    refine .plain (h c List.mem_cons_self) (Ne.symm hbackslash.1) (ih (fun d hd => ?_) hbackslash.2)
    exact h d (List.mem_cons_of_mem c hd)

end SafeText

/-! ### Values -/

/-- Of the graphic characters two are escaped. -/
theorem safe_escape {c : Char} (h : IsGraphic c) : SafeText (escape c) := by
  have hcontrol : ¬ c.toNat < 0x20 := by
    have hlow := h.1
    omega
  have hne {d : Char} (hd : d.toNat < 0x20) : c ≠ d := fun heq => hcontrol (heq ▸ hd)
  unfold escape
  rw [if_neg (hne (d := '\x08') (by decide)), if_neg (hne (d := '\x09') (by decide)),
    if_neg (hne (d := '\x0a') (by decide)), if_neg (hne (d := '\x0c') (by decide)),
    if_neg (hne (d := '\x0d') (by decide)), if_neg hcontrol]
  split
  · exact .escaped (.inr rfl) .nil
  · split
    · exact .escaped (.inl rfl) .nil
    · next hbackslash => exact .plain h hbackslash .nil

theorem safe_quoted {text : String} (h : GraphicText text.toList) : SafeText (quoted text) := by
  refine .append (.plain (by decide) (by decide) (.flatMap fun c hc => safe_escape (h c hc))) ?_
  exact .plain (by decide) (by decide) .nil

theorem safe_natDigits (n : Nat) : SafeText (Nat.toDigits 10 n) := by
  refine .of_graphic (Uri.graphic_toDigits (by decide) (by decide) n) fun hmem => ?_
  obtain ⟨d, hd, hdigit⟩ := Uri.exists_digit_of_mem_toDigits (by decide) n _ hmem
  have hdigits : ∀ d < 10, Nat.digitChar d ≠ '\\' := by decide
  exact hdigits d hd hdigit.symm

theorem safe_bracketed {opening closing : Char} {items : List (List Char)}
    (hopening : SafeText [opening]) (hclosing : SafeText [closing])
    (h : ∀ item ∈ items, SafeText item) :
    SafeText (bracketed opening closing items) := by
  cases items with
  | nil => exact hopening.append hclosing
  | cons item items =>
    have hitem := hopening.append (h item List.mem_cons_self)
    refine (hitem.append (.flatMap fun next hnext => ?_)).append hclosing
    exact .plain (by decide) (by decide) (h next (List.mem_cons_of_mem item hnext))

/-- Members of an object that are safe on one line. -/
def SafeMembers (members : List (String × Value)) : Prop :=
  ∀ item ∈ compactMembers members, SafeText item

theorem SafeMembers.nil : SafeMembers [] := by
  intro item hitem
  cases hitem

theorem SafeMembers.cons {name : String} {value : Value} {members : List (String × Value)}
    (hname : GraphicText name.toList) (hvalue : SafeText value.compactChars)
    (h : SafeMembers members) :
    SafeMembers ((name, value) :: members) := by
  intro item hitem
  rcases List.mem_cons.mp hitem with rfl | hitem
  · exact (safe_quoted hname).append (.plain (by decide) (by decide) hvalue)
  · exact h item hitem

theorem SafeMembers.object {members : List (String × Value)} (h : SafeMembers members) :
    SafeText (Value.object members).compactChars := by
  have hbraces : SafeText ['\x7b'] ∧ SafeText ['\x7d'] :=
    ⟨.plain (by decide) (by decide) .nil, .plain (by decide) (by decide) .nil⟩
  exact safe_bracketed hbraces.1 hbraces.2 h

theorem safe_bool (b : Bool) : SafeText (Value.bool b).compactChars := by
  cases b with
  | false => exact .of_graphic (by decide) (by decide)
  | true => exact .of_graphic (by decide) (by decide)

end Json

/-! ### Requests -/

namespace Request

variable {r : Request}

theorem safe_options (r : Request) :
    Json.SafeMembers [
      ("tabSize", .integer r.tabSize.toNat),
      ("insertSpaces", .bool r.insertSpaces),
      ("trimFinalNewlines", .bool r.trimFinalNewlines),
      ("insertFinalNewline", .bool r.insertFinalNewline),
      ("trimTrailingWhitespace", .bool r.trimTrailingWhitespace)] := by
  refine .cons (by decide) ?_
    (.cons (by decide) (Json.safe_bool _) (.cons (by decide) (Json.safe_bool _)
    (.cons (by decide) (Json.safe_bool _) (.cons (by decide) (Json.safe_bool _) .nil))))
  rw [Json.Value.compactChars, Json.digits, if_neg (by omega)]
  exact Json.safe_natDigits _

/-- **A request whose locator is graphic is sent in graphic characters**, of which backslashes and
double quotes alone are escaped. -/
theorem safe_compact (h : GraphicText r.uri.toList) : Json.SafeText r.compact.toList := by
  have huri : Json.SafeMembers [("uri", .string r.uri)] :=
    .cons (by decide) (Json.safe_quoted h) .nil
  have hmembers :
      Json.SafeMembers [("textDocument", .object [("uri", .string r.uri)]), ("options", _)] :=
    .cons (by decide) huri.object (.cons (by decide) r.safe_options.object .nil)
  rw [compact, Json.Value.compact, String.toList_ofList]
  exact hmembers.object

end Request

end SchemaFormat
