import DirectiveDocs.Proofs.Preorder
import DirectiveDocs.Section

namespace DirectiveDocs

/-- Options of one directive have different identifiers. -/
theorem optionAnchor_inj {name o o' : String} :
    optionAnchor name o = optionAnchor name o' ↔ o = o' := by
  simp [optionAnchor, String.append_right_inj]

theorem directiveAnchor_inj {name name' : String} :
    directiveAnchor name = directiveAnchor name' ↔ name = name' := by
  simp [directiveAnchor, String.append_right_inj]

/-- A hyphen and more never make the identifier of the section itself. -/
theorem optionAnchor_ne_directiveAnchor (name o : String) :
    optionAnchor name o ≠ directiveAnchor name := by
  intro h
  have hl := congrArg String.length h
  have hd : "-".length = 1 := rfl
  simp only [optionAnchor, directiveAnchor, String.length_append, hd] at hl
  omega

namespace Node

def isAnchored (n : Node) : Bool :=
  n.identifier?.isSome

def anchoredIn (cs : List Child) : List Node :=
  (preorderOfChildren cs).filter isAnchored

/-- The nodes of a forest that have an identifier, in the order of the listing. -/
def anchored (ns : List Node) : List Node :=
  (listing ns).filter isAnchored

theorem anchoredIn_append (cs ds : List Child) :
    anchoredIn (cs ++ ds) = anchoredIn cs ++ anchoredIn ds := by
  simp [anchoredIn, preorderOfChildren_append]

/-- The nodes among the children decide. -/
theorem anchoredIn_eq (cs : List Child) : anchoredIn cs = anchored (cs.filterMap Child.node?) := by
  rw [anchoredIn, preorderOfChildren_eq]
  rfl

theorem anchoredIn_nodes (ns : List Node) : anchoredIn (ns.map .node) = anchored ns := by
  have hn : (ns.map Child.node).filterMap Child.node? = ns := by
    simp [List.filterMap_map, Function.comp_def, Child.node?]
  rw [anchoredIn_eq, hn]

theorem anchored_append (ns ms : List Node) : anchored (ns ++ ms) = anchored ns ++ anchored ms := by
  simp [anchored, listing]

theorem anchored_cons (n : Node) (ns : List Node) :
    anchored (n :: ns) = anchored [n] ++ anchored ns :=
  anchored_append [n] ns

/-- A node without an identifier has those below it. -/
theorem anchored_of_none {n : Node} (h : n.identifier? = none) :
    anchored [n] = anchoredIn n.children := by
  have hn : n.isAnchored = false := by simp [isAnchored, h]
  simp [anchored, listing, anchoredIn, preorder_eq, hn]

theorem anchored_of_some {n : Node} {id : String} (h : n.identifier? = some id) :
    anchored [n] = n :: anchoredIn n.children := by
  have hn : n.isAnchored = true := by simp [isAnchored, h]
  simp [anchored, listing, anchoredIn, preorder_eq, hn]

theorem anchored_withChildren {n : Node} (h : n.identifier? = none) (cs : List Child) :
    anchored [n.withChildren cs] = anchored [n] ++ anchoredIn cs := by
  rw [anchored_of_none ((identifier_withChildren cs n).trans h), anchored_of_none h,
    ← anchoredIn_append, children_withChildren]

theorem anchored_withNodes {n : Node} (h : n.identifier? = none) (ns : List Node) :
    anchored [n.withNodes ns] = anchored [n] ++ anchored ns := by
  rw [withNodes, anchored_withChildren h, anchoredIn_nodes]

theorem anchored_flatMap {α : Type} (f : α → List Node) (xs : List α) :
    anchored (xs.flatMap f) = xs.flatMap (fun x => anchored (f x)) := by
  induction xs with
  | nil => rfl
  | cons x xs ih => simp only [List.flatMap_cons, anchored_append, ih]

/-- The search for an identifier needs to look at the nodes that have one only. -/
theorem findSome_anchored (ns : List Node) (id : String) :
    ns.findSome? (fun n => n.findIdentifier? id) =
      (anchored ns).find? (fun m => m.identifier? == some id) := by
  rw [findSome_identifier, anchored, List.find?_filter]
  congr 1
  funext m
  cases h : m.identifier? with
  | none => simp [isAnchored, h]
  | some i => simp [isAnchored, h, Bool.beq_eq_decide_eq]

end Node

open Node

/-- A markup parser whose nodes carry no identifier at any depth. -/
def MarkupParser.Unmarked (parse : MarkupParser) : Prop :=
  ∀ text, ∀ n ∈ parse text, ∀ m ∈ n.preorder, m.identifier? = none

/-- No identifier comes from a documentation text. -/
theorem MarkupParser.Unmarked.anchored {parse : MarkupParser} (h : parse.Unmarked)
    (text : String) : Node.anchored (parse text) = [] := by
  apply List.filter_eq_nil_iff.mpr
  intro m hm
  obtain ⟨n, hn, hm⟩ := List.mem_flatMap.mp hm
  simp [isAnchored, h text n hn m hm]

/-- The nodes among the children of an alias text are its label and the aliases in order. -/
theorem childNodes_aliasChildren (aliases : List String) :
    (aliasChildren aliases).filterMap Child.node? =
      Node.strong "Alias" :: aliases.map Node.inlineCode := by
  have hi : ∀ as : List String, (List.intercalate [Child.text ", "]
      (as.map (fun a => [.node (Node.inlineCode a)]))).filterMap Child.node? =
        as.map Node.inlineCode := by
    intro as
    induction as with
    | nil => rfl
    | cons a as ih =>
      cases as with
      | nil => rfl
      | cons b bs =>
        simp only [List.map_cons, List.intercalate_cons_cons, List.filterMap_append] at ih ⊢
        rw [ih]
        rfl
  exact congrArg (List.cons _) (hi aliases)

theorem anchoredIn_aliasChildren (aliases : List String) :
    anchoredIn (aliasChildren aliases) = [] := by
  have hc : ∀ as : List String, anchored (as.map Node.inlineCode) = [] := by
    intro as
    induction as with
    | nil => rfl
    | cons a as ih =>
      rw [List.map_cons, anchored_cons, ih]
      rfl
  rw [anchoredIn_eq, childNodes_aliasChildren, anchored_cons, hc]
  rfl

namespace OptionSpec

theorem identifier_term (name o : String) (opt : OptionSpec) :
    (opt.term name o).identifier? = some (optionAnchor name o) := by
  rw [term, identifier_withChildren, withChild, identifier_withChildren,
    identifier_withIdentifier]

/-- Options of one directive have the same identifier just when they have the same name. -/
theorem identifier_term_beq (name o o' : String) (opt : OptionSpec) :
    ((opt.term name o).identifier? == some (optionAnchor name o')) = (o == o') := by
  rw [identifier_term, Bool.eq_iff_iff]
  simp [optionAnchor_inj]

theorem anchored_term (name o : String) (opt : OptionSpec) :
    anchored [opt.term name o] = [opt.term name o] := by
  rw [anchored_of_some (identifier_term name o opt)]
  congr 1
  change anchoredIn (.node (Node.strong (heading o)) :: opt.annotation) = []
  unfold annotation
  split <;> rfl

theorem anchored_description {parse : MarkupParser} (h : parse.Unmarked) (opt : OptionSpec) :
    anchored [opt.description parse] = [] := by
  unfold description
  split
  · rename_i doc _
    split
    · rfl
    · rw [anchored_of_none (identifier_withChildren _ _)]
      exact (anchoredIn_nodes _).trans (h.anchored doc)
  · rfl

theorem anchored_aliasDescription (opt : OptionSpec) : anchored opt.aliasDescription = [] := by
  unfold aliasDescription
  split
  · rfl
  · rw [anchored_of_none (identifier_withChildren _ _)]
    exact anchoredIn_aliasChildren opt.aliases

/-- Of an option's entries only the term has an identifier. -/
theorem anchored_compile {parse : MarkupParser} (h : parse.Unmarked) (name o : String)
    (opt : OptionSpec) : anchored (opt.compile name o parse) = [opt.term name o] := by
  rw [compile, anchored_cons, anchored_term, anchored_cons (opt.description parse),
    anchored_description h, anchored_aliasDescription]
  rfl

end OptionSpec

theorem anchored_compileOption {parse : MarkupParser} (h : parse.Unmarked) (name o : String)
    (opt : Option OptionSpec) :
    anchored (compileOption name o parse opt) = opt.toList.map (fun x => x.term name o) := by
  cases opt with
  | none => rfl
  | some x => exact x.anchored_compile h name o

namespace Spec

theorem identifier_heading (name : String) :
    (heading name).identifier? = some (directiveAnchor name) := by
  rw [heading, withText, withChild, identifier_withChildren, withChild, identifier_withChildren,
    identifier_withIdentifier]

theorem identifier_optionsTerm (s : Spec) :
    s.optionsTerm.identifier? = some (optionAnchor s.name "opts") := by
  rw [optionsTerm, withChild, identifier_withChildren, identifier_withIdentifier]

theorem identifier_optionsTerm_beq (s : Spec) (o : String) :
    (s.optionsTerm.identifier? == some (optionAnchor s.name o)) = ("opts" == o) := by
  rw [identifier_optionsTerm, Bool.eq_iff_iff]
  simp [optionAnchor_inj]

theorem anchored_heading (name : String) : anchored [heading name] = [heading name] := by
  rw [anchored_of_some (identifier_heading name)]
  rfl

theorem anchored_intro {parse : MarkupParser} (h : parse.Unmarked) (s : Spec) :
    anchored [s.intro parse] = [] := by
  have hpar : anchored [(Node.empty .paragraph).withChildren (aliasChildren s.aliases)] = [] :=
    (anchored_withChildren rfl _).trans (anchoredIn_aliasChildren s.aliases)
  have hdoc : ∀ doc : String, anchored [(Node.empty .div).withNodes (parse doc)] = [] :=
    fun doc => (anchored_withNodes rfl _).trans (h.anchored doc)
  have hwith : ∀ n : Node, n.identifier? = none → anchored [n] = [] → anchored [n.withChild
      (.node ((Node.empty .paragraph).withChildren (aliasChildren s.aliases)))] = [] := by
    intro n hid hn
    rw [withChild, anchored_withChildren hid, hn]
    exact (anchoredIn_nodes [_]).trans hpar
  unfold intro
  cases s.doc with
  | none =>
    dsimp only
    split
    · rfl
    · exact hwith _ rfl rfl
  | some doc =>
    dsimp only
    split
    · exact hdoc doc
    · exact hwith _ (identifier_withChildren _ _) (hdoc doc)

/-- The nodes of a section that have an identifier: the heading, the terms of the argument, of the
body and of the options as a whole, and the term of each option. -/
def anchorNodes (s : Spec) : List Node :=
  heading s.name ::
    (s.argument.toList.map (fun x => x.term s.name "arg") ++
      s.body.toList.map (fun x => x.term s.name "body") ++
      s.optionsTerm :: s.options.entries.map (fun e => e.2.term s.name e.1))

theorem anchored_optionEntries {parse : MarkupParser} (h : parse.Unmarked) (s : Spec) :
    anchored (s.optionEntries parse) = s.options.entries.map (fun e => e.2.term s.name e.1) := by
  simp only [optionEntries, anchored_flatMap, OptionSpec.anchored_compile h, List.map_eq_flatMap]

theorem anchored_optionsDescription {parse : MarkupParser} (h : parse.Unmarked) (s : Spec) :
    anchored [s.optionsDescription parse] =
      s.options.entries.map (fun e => e.2.term s.name e.1) := by
  rw [← anchored_optionEntries h]
  unfold optionsDescription
  dsimp only
  split
  · rename_i he
    rw [List.isEmpty_iff.mp he]
    rfl
  · rw [withChild, anchored_withChildren rfl]
    exact (anchoredIn_nodes [_]).trans (anchored_withNodes rfl _)

/-- The identifiers of a section are on its heading and its terms, in this order. -/
theorem anchored_compile {parse : MarkupParser} (h : parse.Unmarked) (s : Spec) :
    anchored (s.compile parse) = s.anchorNodes := by
  have ho : anchored [s.optionsTerm] = [s.optionsTerm] := by
    rw [anchored_of_some (identifier_optionsTerm s)]
    rfl
  rw [compile, anchored_cons, anchored_heading, anchored_cons (s.intro parse), anchored_intro h,
    definitions, anchored_withNodes rfl, anchored_append, anchored_append,
    anchored_compileOption h, anchored_compileOption h, anchored_cons s.optionsTerm, ho,
    anchored_optionsDescription h]
  rfl

end Spec
end DirectiveDocs
