import DirectiveDocs.Proofs.Anchors
import DirectiveDocs.Proofs.LabelGrammar
import DirectiveDocs.Proofs.Lookup
import Mathlib.Data.List.Nodup

namespace DirectiveDocs

open Node Registry

namespace Registry

/-- The identifier of a reference is made from the name that its label leads to; a label that leads
to no spec stands for itself. -/
theorem identifier_resolve_eq {r : Registry} {body target : String} {option? : Option String}
    (hl : Reference.splitLabel (Reference.parse body).label = (target, option?)) :
    (r.resolve body).identifier? =
      some (option?.elim (directiveAnchor (((r.lookup? target).map Spec.name).getD target))
        (optionAnchor (((r.lookup? target).map Spec.name).getD target))) := by
  unfold resolve
  simp only [hl]
  rw [withChild, identifier_withChildren, identifier_withIdentifier]
  cases r.lookup? target <;> cases option? <;> rfl

/-- A label that leads to a spec gives the identifier of its section, or that of an option in it. -/
theorem identifier_resolve {r : Registry} {body target : String} {option? : Option String}
    {s : Spec} (hl : Reference.splitLabel (Reference.parse body).label = (target, option?))
    (hs : r.lookup? target = some s) :
    (r.resolve body).identifier? =
      some (option?.elim (directiveAnchor s.name) (optionAnchor s.name)) := by
  rw [identifier_resolve_eq hl, hs]
  rfl

/-- A label of a key and an option, as the whole body. -/
theorem identifier_resolve_verbatim {r : Registry} {key o : String} {s : Spec}
    (hk : '.' ∉ key.toList) (ho : o ≠ "") (hs : r.lookup? key = some s)
    (hv : ¬ ∃ lead label, Bracketed (key ++ "." ++ o) lead label) :
    (r.resolve (key ++ "." ++ o)).identifier? = some (optionAnchor s.name o) := by
  have hsplit := Reference.splitLabel_dot hk ho
  rw [← Reference.label_of_not_bracketed hv] at hsplit
  exact identifier_resolve hsplit hs

/-- The same label in brackets, after any lead. -/
theorem identifier_resolve_labeled {r : Registry} {key o : String} {s : Spec}
    (hk : '.' ∉ key.toList) (ho : o ≠ "") (hs : r.lookup? key = some s)
    (hb : ∀ c ∈ (key ++ "." ++ o).toList, Reference.isBracket c = false) (lead : String) :
    (r.resolve (lead ++ "<" ++ (key ++ "." ++ o) ++ ">")).identifier? =
      some (optionAnchor s.name o) := by
  have hsplit := Reference.splitLabel_dot hk ho
  have hne : key ++ "." ++ o ≠ "" := by
    intro he
    have := congrArg String.toList he
    simp at this
  rw [← Reference.label_of_bracketed ⟨rfl, hne, hb⟩] at hsplit
  exact identifier_resolve hsplit hs

/-- A spec that some key leads to has a section under its name, be it that of an earlier spec of
the same name. -/
theorem get_of_lookup {specs : List Spec} {key : String} {s : Spec}
    (h : (ofList specs).lookup? key = some s) :
    ∃ t, (ofList specs).get? s.name = some t ∧ t.name = s.name := by
  rw [lookup_ofList] at h
  rw [get_ofList]
  cases hf : specs.find? (fun t => t.name == s.name) with
  | none =>
    have hn := List.find?_eq_none.mp hf s (List.mem_of_find?_eq_some h)
    simp at hn
  | some t => exact ⟨t, rfl, Spec.name_of_find hf⟩

/-- Where no name occurs twice each spec is found by its name. -/
theorem get_of_nodup {specs : List Spec} {s : Spec} (hn : (specs.map Spec.name).Nodup)
    (hs : s ∈ specs) : (ofList specs).get? s.name = some s := by
  rw [get_ofList]
  cases hf : specs.find? (fun t => t.name == s.name) with
  | none =>
    have hno := List.find?_eq_none.mp hf s hs
    simp at hno
  | some t =>
    exact congrArg some
      (List.inj_on_of_nodup_map hn (List.mem_of_find?_eq_some hf) hs (Spec.name_of_find hf))

end Registry

namespace Spec

/-- The term that a section has for a name of its own, before any option's. -/
def sectionTerm? (s : Spec) (o : String) : Option Node :=
  if o = "arg" then s.argument.map (fun x => x.term s.name "arg")
  else if o = "body" then s.body.map (fun x => x.term s.name "body")
  else if o = "opts" then some s.optionsTerm
  else none

/-- Option names that a section takes for itself. -/
def Reserves (s : Spec) (o : String) : Prop :=
  o = "opts" ∨ (o = "arg" ∧ s.argument.isSome = true) ∨ (o = "body" ∧ s.body.isSome = true)

instance (s : Spec) (o : String) : Decidable (s.Reserves o) :=
  inferInstanceAs (Decidable (_ ∨ _))

theorem sectionTerm_eq_none {s : Spec} {o : String} (h : ¬ s.Reserves o) :
    s.sectionTerm? o = none := by
  unfold Reserves at h
  unfold sectionTerm?
  split
  · rename_i ha
    cases hx : s.argument with
    | none => rfl
    | some x => exact absurd (Or.inr (Or.inl ⟨ha, by rw [hx]; rfl⟩)) h
  · split
    · rename_i hb
      cases hx : s.body with
      | none => rfl
      | some x => exact absurd (Or.inr (Or.inr ⟨hb, by rw [hx]; rfl⟩)) h
    · exact if_neg (fun he => h (Or.inl he))

theorem mem_entries_of_get {m : OptionMap} {o : String} {opt : OptionSpec}
    (h : m.get? o = some opt) : m.entries.find? (fun e => e.1 == o) = some (o, opt) := by
  unfold OptionMap.get? at h
  obtain ⟨⟨n, x⟩, hf, rfl⟩ := Option.map_eq_some_iff.mp h
  have hn : n = o := by
    simpa using List.find?_some (p := fun e : String × OptionSpec => e.1 == o) hf
  rw [hf, hn]

/-- Among the nodes with an identifier the section's own terms come before those of options. -/
theorem find_anchorNodes {s : Spec} {o : String} {opt : OptionSpec}
    (h : s.options.get? o = some opt) :
    s.anchorNodes.find? (fun m => m.identifier? == some (optionAnchor s.name o)) =
      some ((s.sectionTerm? o).getD (opt.term s.name o)) := by
  have hhead : ((heading s.name).identifier? == some (optionAnchor s.name o)) = false := by
    simpa [identifier_heading] using (optionAnchor_ne_directiveAnchor s.name o).symm
  have hentries : (s.options.entries.map (fun e => e.2.term s.name e.1)).find?
      (fun m => m.identifier? == some (optionAnchor s.name o)) = some (opt.term s.name o) := by
    rw [List.find?_map]
    simp only [Function.comp_def, OptionSpec.identifier_term_beq, mem_entries_of_get h,
      Option.map_some]
  simp only [anchorNodes, List.find?_cons, hhead, List.find?_append, identifier_optionsTerm_beq,
    hentries, List.find?_map, Function.comp_def, OptionSpec.identifier_term_beq, sectionTerm?]
  by_cases ha : o = "arg"
  · subst ha
    cases s.argument <;> cases s.body <;> rfl
  · by_cases hb : o = "body"
    · subst hb
      cases s.argument <;> cases s.body <;> rfl
    · have ha' : ("arg" == o) = false := by simpa using Ne.symm ha
      have hb' : ("body" == o) = false := by simpa using Ne.symm hb
      by_cases ho : o = "opts"
      · subst ho
        cases s.argument <;> cases s.body <;> rfl
      · have ho' : ("opts" == o) = false := by simpa using Ne.symm ho
        cases s.argument <;> cases s.body <;> simp [ha, hb, ho, ha', hb', ho']

/-- In a section the first node with an option's identifier is the term of the section itself if
that takes the name, else the option's. -/
theorem find_compile {parse : MarkupParser} (hu : parse.Unmarked) {s : Spec} {o : String}
    {opt : OptionSpec} (h : s.options.get? o = some opt) :
    (s.compile parse).findSome? (fun n => n.findIdentifier? (optionAnchor s.name o)) =
      some ((s.sectionTerm? o).getD (opt.term s.name o)) := by
  rw [findSome_anchored, anchored_compile hu, find_anchorNodes h]

end Spec

/-- The term of an option in the nodes of a section: it stands in the list that the description at
the end of the definitions holds. -/
def EmitsTerm (nodes : List Node) (t : Node) : Prop :=
  ∃ heading intro definitions description entries, nodes = [heading, intro, definitions] ∧
    definitions.children.getLast? = some (.node description) ∧
    description.children = [.node entries] ∧ entries.kind = .definitionList ∧
    t.kind = .definitionTerm ∧ .node t ∈ entries.children

/-- Every option of a spec has its term in the section. -/
theorem emitsTerm_compile {s : Spec} {o : String} {opt : OptionSpec}
    (h : s.options.get? o = some opt) (parse : MarkupParser) :
    EmitsTerm (s.compile parse) (opt.term s.name o) := by
  have hm : opt.term s.name o ∈ s.optionEntries parse :=
    List.mem_flatMap.mpr ⟨(o, opt), List.mem_of_find?_eq_some (Spec.mem_entries_of_get h),
      List.mem_cons_self⟩
  have he : (s.optionEntries parse).isEmpty = false := by
    cases hx : s.optionEntries parse with
    | nil => rw [hx] at hm; cases hm
    | cons n ns => rfl
  refine ⟨_, _, s.definitions parse, s.optionsDescription parse,
    (Node.empty .definitionList).withNodes (s.optionEntries parse), rfl, ?_, ?_, rfl, rfl, ?_⟩
  · rw [Spec.definitions, children_withNodes]
    simp
  · simp [Spec.optionsDescription, he, withChild, children_withChildren, children_empty]
  · rw [children_withNodes]
    exact List.mem_append_right _ (List.mem_map.mpr ⟨_, hm, rfl⟩)

/-- References never dangle. What a label leads to has a section under the identifier of the
reference, and a reference to an option has the identifier of the option's term there. The section
has that term first under the identifier, unless it takes the option's name for itself. -/
theorem references_agree_with_sections (specs : List Spec) :
    (∀ (body : String) (s : Spec) (parse : MarkupParser) (d : Diagnostics),
      (ofList specs).lookup? (Reference.splitLabel (Reference.parse body).label).1 = some s →
      ∃ heading rest, (ofList specs).compileDirective parse s.name d = (heading :: rest, d) ∧
        heading.identifier? = some ("directive-" ++ s.name) ∧
        ((Reference.splitLabel (Reference.parse body).label).2 = none →
          ((ofList specs).resolve body).identifier? = some ("directive-" ++ s.name))) ∧
    ((specs.map Spec.name).Nodup →
      ∀ (key : String) (s : Spec) (o : String) (opt : OptionSpec) (parse : MarkupParser)
        (d : Diagnostics) (nodes : List Node),
      '.' ∉ key.toList → (ofList specs).lookup? key = some s → s.options.get? o = some opt →
      o ≠ "" → ((ofList specs).compileDirective parse s.name d).1 = nodes →
      EmitsTerm nodes (opt.term s.name o) ∧
      ((¬ ∃ lead label, Bracketed (key ++ "." ++ o) lead label) →
        ((ofList specs).resolve (key ++ "." ++ o)).identifier? =
          (opt.term s.name o).identifier?) ∧
      ((∀ c ∈ (key ++ "." ++ o).toList, Reference.isBracket c = false) → ∀ lead : String,
        ((ofList specs).resolve (lead ++ "<" ++ (key ++ "." ++ o) ++ ">")).identifier? =
          (opt.term s.name o).identifier?) ∧
      (parse.Unmarked → ∀ id, (opt.term s.name o).identifier? = some id →
        nodes.findSome? (fun n => n.findIdentifier? id) =
          some ((s.sectionTerm? o).getD (opt.term s.name o)) ∧
        (¬ s.Reserves o →
          nodes.findSome? (fun n => n.findIdentifier? id) = some (opt.term s.name o)))) := by
  constructor
  · intro body s parse d hs
    obtain ⟨t, ht, hname⟩ := get_of_lookup hs
    refine ⟨Spec.heading t.name, _, compileDirective_of_get ht parse d, ?_, ?_⟩
    · rw [Spec.identifier_heading, hname]
      rfl
    · intro hnone
      have hl : Reference.splitLabel (Reference.parse body).label =
          ((Reference.splitLabel (Reference.parse body).label).1, none) := by
        rw [← hnone]
      exact identifier_resolve hl hs
  · intro hn key s o opt parse d nodes hkey hs hopt ho hnodes
    have hmem : s ∈ specs := by
      rw [lookup_ofList] at hs
      exact List.mem_of_find?_eq_some hs
    rw [compileDirective_of_get (get_of_nodup hn hmem)] at hnodes
    subst hnodes
    rw [OptionSpec.identifier_term]
    refine ⟨emitsTerm_compile hopt parse, identifier_resolve_verbatim hkey ho hs,
      identifier_resolve_labeled hkey ho hs, ?_⟩
    intro hu id hid
    obtain rfl := Option.some.inj hid
    refine ⟨Spec.find_compile hu hopt, fun hr => ?_⟩
    rw [Spec.find_compile hu hopt, Spec.sectionTerm_eq_none hr]
    rfl

def figure : Spec :=
  (((Spec.named "figure").withAliases ["fig"]).withArgument default).withOption "width" default

def paragraphs : MarkupParser :=
  fun text => [(Node.empty .paragraph).withText text]

theorem paragraphs_unmarked : paragraphs.Unmarked := by
  intro text n hn m hm
  obtain rfl := List.mem_singleton.mp hn
  obtain rfl := List.mem_singleton.mp hm
  rfl

theorem references_agree_figure :
    (∃ heading rest, (ofList [figure]).compileDirective paragraphs "figure" .empty =
        (heading :: rest, .empty) ∧
      heading.identifier? = some ("directive-" ++ "figure") ∧
      ((Reference.splitLabel (Reference.parse "see <fig>").label).2 = none →
        ((ofList [figure]).resolve "see <fig>").identifier? = some ("directive-" ++ "figure"))) ∧
    EmitsTerm (figure.compile paragraphs) (OptionSpec.term "figure" "width" default) ∧
    ((ofList [figure]).resolve ("fig" ++ "." ++ "width")).identifier? =
      (OptionSpec.term "figure" "width" default).identifier? ∧
    ((ofList [figure]).resolve ("the " ++ "<" ++ ("fig" ++ "." ++ "width") ++ ">")).identifier? =
      (OptionSpec.term "figure" "width" default).identifier? ∧
    (figure.compile paragraphs).findSome? (fun n => n.findIdentifier? "directive-figure-width") =
      some (OptionSpec.term "figure" "width" default) := by
  have h := references_agree_with_sections [figure]
  obtain ⟨hterm, hverbatim, hlabeled, hfind⟩ := h.2 (by decide) "fig" figure "width" default
    paragraphs .empty (figure.compile paragraphs) (by decide) (by decide) (by decide) (by decide)
    rfl
  exact ⟨h.1 "see <fig>" figure paragraphs .empty (by decide), hterm,
    hverbatim (Reference.parse_verbatim_iff.mp (by decide)),
    hlabeled (by simp [Reference.isBracket]) "the ",
    (hfind paragraphs_unmarked "directive-figure-width" (by decide)).2 (by decide)⟩

end DirectiveDocs
