import SchemaFormat.Proofs.LocatorText

/-!
The characters of a host.

A domain name is refused unless its ASCII form is graphic, and addresses are written in digits, full
stops and colons. So every host is graphic (`Host.graphic_render_of_parse`), and with it every
locator that is made at all (`Request.graphic_uri`).
-/

namespace SchemaFormat

namespace Uri

theorem GraphicText.join {separator : List Char} {parts : List (List Char)}
    (hseparator : GraphicText separator)
    (h : ∀ part ∈ parts, GraphicText part) : GraphicText (Text.join separator parts) := by
  cases parts with
  | nil => exact .nil
  | cons part parts =>
    refine (h part List.mem_cons_self).append (.flatMap fun next hnext => ?_)
    exact hseparator.append (h next (List.mem_cons_of_mem part hnext))

/-! ### Numbers -/

theorem exists_digit_of_mem_toDigits {base : Nat} (hbase : 1 < base) (n : Nat) :
    ∀ c ∈ Nat.toDigits base n, ∃ d < base, c = Nat.digitChar d := by
  induction n using Nat.strongRecOn with
  | _ n ih =>
    intro c hc
    rw [Nat.toDigits_eq_if hbase] at hc
    split at hc
    · next hlt => exact ⟨n, hlt, List.mem_singleton.mp hc⟩
    · next hge =>
      rcases List.mem_append.mp hc with hc | hc
      · exact ih (n / base) (Nat.div_lt_self (by omega) hbase) c hc
      · exact ⟨n % base, Nat.mod_lt n (by omega), List.mem_singleton.mp hc⟩

theorem graphic_toDigits {base : Nat} (hbase : 1 < base) (hbase' : base ≤ 16) (n : Nat) :
    GraphicText (Nat.toDigits base n) := by
  intro c hc
  obtain ⟨d, hd, rfl⟩ := exists_digit_of_mem_toDigits hbase n c hc
  have hdigits : ∀ d < 16, IsGraphic (Nat.digitChar d) := by decide
  exact hdigits d (by omega)

/-! ### Hosts -/

/-- A name is refused if a character of its ASCII form is not graphic. -/
theorem graphic_of_toAscii {name written : List Char} (h : Domain.toAscii name = some written) :
    GraphicText written := by
  obtain ⟨mapped, -, h⟩ := Option.bind_eq_some_iff.mp h
  obtain ⟨labels, -, h⟩ := Option.bind_eq_some_iff.mp h
  dsimp only at h
  split at h
  · next hallowed =>
    obtain ⟨-, hplain⟩ := Bool.and_eq_true_iff.mp hallowed
    obtain rfl := Option.some.inj h
    refine .join (.cons (by decide) .nil) fun label hlabel c hc => ?_
    have hlabel' := List.all_eq_true.mp hplain label hlabel
    obtain ⟨hascii, hforbidden⟩ := Bool.and_eq_true_iff.mp (List.all_eq_true.mp hlabel' c hc)
    simp only [Domain.isAscii, decide_eq_true_eq] at hascii
    simp only [Domain.isForbidden, Bool.not_eq_true', Bool.or_eq_false_iff, decide_eq_false_iff_not,
      beq_eq_false_iff_ne] at hforbidden
    obtain ⟨⟨hlow, hdelete⟩, -⟩ := hforbidden
    exact ⟨by omega, by omega⟩
  · cases h

theorem Ipv4.graphic_render (a : Ipv4) : GraphicText a.render := by
  refine .join (.cons (by decide) .nil) fun part hpart => ?_
  obtain ⟨position, -, rfl⟩ := List.mem_map.mp hpart
  exact graphic_toDigits (by decide) (by decide) _

theorem Ipv6.graphic_renderPieces (pieces : List Nat) : GraphicText (renderPieces pieces) := by
  refine .join (.cons (by decide) .nil) fun part hpart => ?_
  obtain ⟨piece, -, rfl⟩ := List.mem_map.mp hpart
  exact graphic_toDigits (by decide) (by decide) piece

theorem Ipv6.graphic_render (a : Ipv6) : GraphicText a.render := by
  unfold render
  split
  · exact graphic_renderPieces _
  · refine (GraphicText.append (graphic_renderPieces _) ?_).append (graphic_renderPieces _)
    exact .cons (by decide) (.cons (by decide) .nil)

/-- A domain is the ASCII form of some name. -/
theorem Host.exists_toAscii_of_parse {text name : List Char} (h : parse text = .ok (.domain name)) :
    ∃ meant, Domain.toAscii meant = some name := by
  unfold parse at h
  split at h
  · split at h
    · split at h <;> cases h
    · cases h
  · split at h
    · cases h
    split at h
    · cases h
    · next meant _ _ written hascii =>
      split at h
      · cases h
      split at h
      · split at h <;> cases h
      · obtain rfl := Host.domain.inj (Except.ok.inj h)
        exact ⟨_, hascii⟩

/-- **Every host is graphic.** -/
theorem Host.graphic_render_of_parse {text : List Char} {host : Host} (h : parse text = .ok host) :
    GraphicText host.render := by
  cases host with
  | ipv4 address => exact address.graphic_render
  | ipv6 address =>
    exact (GraphicText.cons (by decide) address.graphic_render).append (.cons (by decide) .nil)
  | domain name =>
    obtain ⟨meant, hascii⟩ := exists_toAscii_of_parse h
    exact graphic_of_toAscii hascii

namespace Document

/-- The host of a document was parsed. -/
theorem exists_parse {text : List Char} {d : Document} {host : Host} (h : ofPath text = .ok d)
    (hhost : d.host = some host) : ∃ name, Host.parse name = .ok host := by
  have hnone (rest : List Char) : (assemble none rest).host ≠ some host := by
    rw [host_assemble_none]
    simp
  unfold ofPath at h
  dsimp only at h
  split at h
  · obtain rfl := Except.ok.inj h
    exact absurd hhost (hnone _)
  split at h
  · obtain rfl := Except.ok.inj h
    exact absurd hhost (hnone _)
  split at h
  · cases h
  · next found hparse =>
    split at h
    · obtain rfl := Except.ok.inj h
      exact absurd hhost (hnone _)
    · obtain rfl := Except.ok.inj h
      simp only [assemble] at hhost
      split at hhost
      · cases hhost
      · obtain rfl := Option.some.inj hhost
        exact ⟨_, hparse⟩

end Document

end Uri

/-- **Every locator is graphic**, whatever path it was asked for. -/
theorem Request.graphic_uri {options : PrintOptions} {request : Request}
    (h : build options = .ok request) :
    Uri.GraphicText request.uri.toList ∧ "file://".toList <+: request.uri.toList := by
  obtain ⟨uri, huri, rfl⟩ := exists_of_build h
  unfold documentUri at huri
  split at huri
  · cases huri
  split at huri
  · cases huri
  split at huri
  · cases huri
  · next document hdocument =>
    obtain rfl := Except.ok.inj huri
    rw [String.toList_ofList]
    refine ⟨Uri.Document.graphic_render hdocument fun host hhost => ?_, List.prefix_append _ _⟩
    obtain ⟨name, hparse⟩ := Uri.Document.exists_parse hdocument hhost
    exact Uri.Host.graphic_render_of_parse hparse

end SchemaFormat
