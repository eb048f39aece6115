import DirectiveDocs.Proofs.CrossReference

namespace DirectiveDocs

open Node Registry

namespace Reference

/-- A text in front of the lead is part of the lead. -/
theorem bracketed_append {body lead label : String} (h : Bracketed body lead label)
    (front : String) : Bracketed (front ++ body) (front ++ lead) label := by
  obtain ⟨rfl, hne, hl⟩ := h
  exact ⟨by simp [String.append_assoc], hne, hl⟩

/-- A label in brackets ends with a bracket, so what has none is a label as a whole. -/
theorem not_bracketed_of_plain {label : String} (hl : ∀ c ∈ label.toList, isBracket c = false) :
    ¬ ∃ lead inner, Bracketed label lead inner := by
  rintro ⟨lead, inner, rfl, -, -⟩
  have := hl '>' (by simp)
  simp [isBracket] at this

/-- A lead that is not blank is displayed without the blanks around it. -/
theorem displayText_labeled {lead label : String} (h : Text.trim lead ≠ "") :
    (labeled lead label).displayText? = some (Text.trim lead) := by
  simp [displayText?, h]

theorem displayText_blank {lead label : String} (h : Text.trim lead = "") :
    (labeled lead label).displayText? = none := by
  simp [displayText?, h]

end Reference

namespace Registry

variable {r : Registry} {body body' : String}

/-- All but the shown text of a reference is decided by its label. -/
theorem attributes_resolve (h : (Reference.parse body).label = (Reference.parse body').label) :
    (r.resolve body).attributes = (r.resolve body').attributes := by
  unfold resolve
  simp only [h]
  rfl

/-- The identifier of a reference depends on its label alone. -/
theorem identifier_resolve_congr
    (h : (Reference.parse body).label = (Reference.parse body').label) :
    (r.resolve body).identifier? = (r.resolve body').identifier? :=
  congrArg (Attributes.get? · "identifier") (attributes_resolve h)

/-- A reference with a text to display has that text as its only child. -/
theorem resolve_of_displayText {text : String}
    (h : (Reference.parse body).displayText? = some text) :
    r.resolve body =
      .mk .crossReference (r.resolve body).attributes [.node (Node.inlineCode text)] := by
  unfold resolve
  simp only [h]
  rfl

/-- References with equal labels and equal texts to display are one node. -/
theorem resolve_eq_of_reading (hl : (Reference.parse body).label = (Reference.parse body').label)
    (hd : (Reference.parse body).displayText? = (Reference.parse body').displayText?) :
    r.resolve body = r.resolve body' := by
  unfold resolve
  simp only [hl, hd]

/-- Display text never influences where a reference points. Whatever stands in front of a bracketed
label, the reference has the identifier of the label alone; it shows the text in front without the
blanks around it, and if that leaves nothing it is the very node of the label alone. More text in front
of a body that ends with a bracketed label leaves the identifier too. -/
theorem display_never_redirects (r : Registry) :
    (∀ label : String, label ≠ "" → (∀ c ∈ label.toList, Reference.isBracket c = false) →
      ∃ id, (r.resolve label).identifier? = some id ∧ ∀ lead : String,
        (r.resolve (lead ++ "<" ++ label ++ ">")).identifier? = some id ∧
        (Text.trim lead ≠ "" → r.resolve (lead ++ "<" ++ label ++ ">") =
          .mk .crossReference (r.resolve label).attributes
            [.node (Node.inlineCode (Text.trim lead))]) ∧
        (Text.trim lead = "" → r.resolve (lead ++ "<" ++ label ++ ">") = r.resolve label)) ∧
    (∀ body lead label : String, Reference.parse body = .labeled lead label →
      ∃ id, (r.resolve body).identifier? = some id ∧
        ∀ front : String, (r.resolve (front ++ body)).identifier? = some id) := by
  constructor
  · intro label hne hl
    have hv := Reference.not_bracketed_of_plain hl
    refine ⟨_, identifier_resolve_eq rfl, fun lead => ?_⟩
    have hb : Bracketed (lead ++ "<" ++ label ++ ">") lead label := ⟨rfl, hne, hl⟩
    have hlabel : (Reference.parse (lead ++ "<" ++ label ++ ">")).label =
        (Reference.parse label).label :=
      (Reference.label_of_bracketed hb).trans (Reference.label_of_not_bracketed hv).symm
    refine ⟨?_, fun ht => ?_, fun ht => ?_⟩
    · exact (identifier_resolve_congr hlabel).trans (identifier_resolve_eq rfl)
    · rw [← attributes_resolve hlabel]
      apply resolve_of_displayText
      rw [Reference.parse_labeled_iff.mpr hb, Reference.displayText_labeled ht]
    · apply resolve_eq_of_reading hlabel
      rw [Reference.parse_labeled_iff.mpr hb, Reference.displayText_blank ht,
        Reference.parse_verbatim_iff.mpr hv]
      rfl
  · intro body lead label hp
    have hb := Reference.parse_labeled_iff.mp hp
    refine ⟨_, identifier_resolve_eq rfl, fun front => ?_⟩
    have hlabel : (Reference.parse (front ++ body)).label = (Reference.parse body).label :=
      (Reference.label_of_bracketed (Reference.bracketed_append hb front)).trans
        (Reference.label_of_bracketed hb).symm
    exact (identifier_resolve_congr hlabel).trans (identifier_resolve_eq rfl)

/-- A lead with brackets and a line break is displayed; a blank one leaves the reference as it is. -/
theorem display_never_redirects_figure :
    (ofList [figure]).resolve ("  the <b> width\n" ++ "<" ++ "fig.width" ++ ">") =
      .mk .crossReference ((ofList [figure]).resolve "fig.width").attributes
        [.node (Node.inlineCode "the <b> width")] ∧
    (ofList [figure]).resolve ("\u3000" ++ "<" ++ "fig.width" ++ ">") =
      (ofList [figure]).resolve "fig.width" ∧
    ∃ id, ((ofList [figure]).resolve "a <fig>").identifier? = some id ∧
      ((ofList [figure]).resolve ("see <x>, " ++ "a <fig>")).identifier? = some id := by
  obtain ⟨hlabel, hfront⟩ := display_never_redirects (ofList [figure])
  obtain ⟨_, -, hlead⟩ := hlabel "fig.width" (by decide) (by simp [Reference.isBracket])
  obtain ⟨id, hbody, hid⟩ := hfront "a <fig>" "a " "fig" (by decide)
  have hshown := (hlead "  the <b> width\n").2.1 (by decide)
  have htrim : Text.trim "  the <b> width\n" = "the <b> width" := by decide
  exact ⟨htrim ▸ hshown, (hlead "\u3000").2.2 (by decide), id, hbody, hid "see <x>, "⟩

end Registry
end DirectiveDocs
