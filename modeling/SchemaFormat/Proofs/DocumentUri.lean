import SchemaFormat.Engine.Session
import SchemaFormat.Engine.Request
import SchemaFormat.Proofs.AbsolutePath

/-!
The locator of a file whose path is absolute.

A host hands on the absolute spelling of a path, which is shown with a slash in front.
`documentUri_of_slash` says that a text that begins with a slash always makes a locator, and one
without a host.
-/

namespace SchemaFormat

theorem Location.isAbsolute_path (l : Location) : l.path.isAbsolute = true := by
  unfold Location.path
  cases l <;> rfl

namespace Uri.Document

/-! ### Locators -/

/-- A text that begins with a slash has nothing to be read as a host. -/
theorem ofPath_slash (rest : List Char) :
    ofPath ('/' :: rest) = .ok (assemble none (Text.trimEnd (·.toNat ≤ 0x20) ('/' :: rest))) := by
  have htrim : ∃ more, Text.trimEnd (·.toNat ≤ 0x20) ('/' :: rest) = '/' :: more := by
    unfold Text.trimEnd
    rw [List.reverse_cons, List.dropWhile_append]
    split
    · exact ⟨[], rfl⟩
    · exact ⟨_, by rw [List.reverse_append]; rfl⟩
  obtain ⟨more, hmore⟩ := htrim
  unfold ofPath
  rw [hmore]
  rfl

/-- Nothing of a text is the host, and nothing is dropped at its end, if it begins with a slash and
ends in no blank. -/
theorem ofPath_eq {text rest : List Char} (hslash : text = '/' :: rest)
    (hlast : ∀ c ∈ text.getLast?, 0x20 < c.toNat) :
    ofPath text = .ok (assemble none text) := by
  have htrim : Text.trimEnd (·.toNat ≤ 0x20) text = text := by
    have hne : text ≠ [] := hslash ▸ List.cons_ne_nil '/' rest
    obtain ⟨init, last, rfl⟩ : ∃ init last, text = init ++ [last] :=
      ⟨_, _, (List.dropLast_concat_getLast hne).symm⟩
    have hend : 0x20 < last.toNat := hlast last (by simp)
    have hkeep : ¬ decide (last.toNat ≤ 0x20) = true := by simpa using hend
    rw [Text.trimEnd, List.reverse_append, List.reverse_singleton, List.singleton_append,
      List.dropWhile_cons, if_neg hkeep, List.reverse_cons, List.reverse_reverse]
  have hread := ofPath_slash rest
  rwa [← hslash, htrim] at hread

theorem host_assemble_none (text : List Char) : (assemble none text).host = none := by
  simp only [assemble]
  split <;> rfl

theorem ofPath_of_slash (rest : List Char) :
    ∃ document, ofPath ('/' :: rest) = .ok document ∧ document.host = none :=
  ⟨_, ofPath_slash rest, host_assemble_none _⟩

/-- A locator without a host goes on with the slash of its path. -/
theorem render_of_no_host {d : Document} (h : d.host = none) :
    "file:///".toList <+: d.render := by
  rw [render, h]
  exact ⟨_, rfl⟩

end Uri.Document

/-- What begins with a slash is not blank. -/
theorem documentUri_of_ofPath {path : String} {rest : List Char} {document : Uri.Document}
    (h : path.toList = '/' :: rest) (hdocument : Uri.Document.ofPath path.toList = .ok document) :
    documentUri (some path) = .ok (String.ofList document.render) := by
  have hblank : (Text.trim path.toList).isEmpty = false := by
    rw [h, Text.trim, List.dropWhile_cons_of_neg (by decide), Text.trimEnd, List.reverse_cons,
      List.dropWhile_append]
    split
    · rfl
    · rw [List.reverse_append]
      rfl
  unfold documentUri
  simp only [hblank, Bool.false_eq_true, if_false]
  rw [hdocument]

/-- **A text that begins with a slash makes a locator**, and no part of it is taken for a host. -/
theorem documentUri_of_slash {path : String} {rest : List Char} (h : path.toList = '/' :: rest) :
    ∃ uri, documentUri (some path) = .ok uri ∧ "file:///".toList <+: uri.toList := by
  obtain ⟨document, hdocument, hhost⟩ := Uri.Document.ofPath_of_slash rest
  refine ⟨String.ofList document.render, documentUri_of_ofPath h (h ▸ hdocument), ?_⟩
  rw [String.toList_ofList (l := document.render)]
  exact Uri.Document.render_of_no_host hhost

end SchemaFormat
