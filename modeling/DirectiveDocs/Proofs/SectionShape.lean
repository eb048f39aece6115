import DirectiveDocs.Proofs.Anchors
import DirectiveDocs.Proofs.Lookup
import Mathlib.Data.List.Forall2
import Mathlib.Data.List.TakeWhile
import Mathlib.Data.Option.Basic

namespace DirectiveDocs

theorem Child.node_injective : Function.Injective Child.node := by
  intro a b h
  cases h
  rfl

/-- Nodes that belong together in a definition list: a term and its descriptions. -/
def IsGroup (g : List Node) : Prop :=
  ∃ term descriptions, g = term :: descriptions ∧ term.kind = .definitionTerm ∧
    ∀ d ∈ descriptions, d.kind = .definitionDescription

/-- After the descriptions of a group comes a term or nothing, so they end where they end. -/
theorem takeWhile_descriptions {ds : List Node} {gs : List (List Node)}
    (hd : ∀ d ∈ ds, d.kind = .definitionDescription) (hg : ∀ g ∈ gs, IsGroup g) :
    (ds ++ gs.flatten).takeWhile (fun n => n.kind == .definitionDescription) = ds := by
  rw [List.takeWhile_append_of_pos (fun d hm => by simp [hd d hm])]
  have hrest : gs.flatten.takeWhile (fun n => n.kind == .definitionDescription) = [] := by
    cases gs with
    | nil => rfl
    | cons g gs =>
      obtain ⟨term, more, rfl, hk, _⟩ := hg g List.mem_cons_self
      simp [hk]
  rw [hrest, List.append_nil]

/-- A list of nodes is cut into groups in one way at most. -/
theorem groups_unique {gs hs : List (List Node)} (hg : ∀ g ∈ gs, IsGroup g)
    (hh : ∀ g ∈ hs, IsGroup g) (h : gs.flatten = hs.flatten) : gs = hs := by
  induction gs generalizing hs with
  | nil =>
    cases hs with
    | nil => rfl
    | cons g hs =>
      obtain ⟨term, ds, rfl, _, _⟩ := hh g List.mem_cons_self
      simp at h
  | cons g gs ih =>
    obtain ⟨term, ds, rfl, _, hds⟩ := hg g List.mem_cons_self
    have hg' : ∀ g ∈ gs, IsGroup g := fun g hm => hg g (List.mem_cons_of_mem _ hm)
    cases hs with
    | nil => simp at h
    | cons g' hs =>
      obtain ⟨term', ds', rfl, _, hds'⟩ := hh g' List.mem_cons_self
      have hh' : ∀ g ∈ hs, IsGroup g := fun g hm => hh g (List.mem_cons_of_mem _ hm)
      simp only [List.flatten_cons, List.cons_append, List.cons.injEq] at h
      obtain ⟨rfl, h⟩ := h
      have he : ds = ds' := by
        rw [← takeWhile_descriptions hds hg', h, takeWhile_descriptions hds' hh']
      subst he
      rw [ih hg' hh' (List.append_cancel_left h)]

theorem Node.inlineCode_injective : Function.Injective Node.inlineCode := by
  intro a b h
  have hm : Node.mk .inlineCode .empty [.text a] = Node.mk .inlineCode .empty [.text b] := h
  simpa using hm

theorem Node.emphasis_injective : Function.Injective Node.emphasis := by
  intro a b h
  have hm : Node.mk .emphasis .empty [.text a] = Node.mk .emphasis .empty [.text b] := h
  simpa using hm

theorem aliasChildren_injective : Function.Injective aliasChildren := by
  intro as bs h
  have hn := congrArg (List.filterMap Child.node?) h
  rw [childNodes_aliasChildren, childNodes_aliasChildren] at hn
  exact List.map_injective_iff.mpr Node.inlineCode_injective (List.cons.inj hn).2

/-- Aliases are shown by one node under some kind, or by none when there are none. -/
theorem aliases_of_shown {kind : Kind} {as bs : List String}
    (h : (if as.isEmpty then [] else [(Node.empty kind).withChildren (aliasChildren as)]) =
      if bs.isEmpty then [] else [(Node.empty kind).withChildren (aliasChildren bs)]) :
    as = bs := by
  cases as with
  | nil =>
    cases bs with
    | nil => rfl
    | cons y ys => simp at h
  | cons x xs =>
    cases bs with
    | nil => simp at h
    | cons y ys =>
      have hd := congrArg Node.children (List.cons.inj h).1
      rw [Node.children_withChildren, Node.children_withChildren] at hd
      exact aliasChildren_injective (List.append_cancel_left hd)

namespace OptionSpec

def isDocumented (o : OptionSpec) : Bool :=
  match o.doc with
  | some doc => !doc.isEmpty
  | none => false

structure SameShape (a b : OptionSpec) : Prop where
  valueType : a.valueType = b.valueType
  aliases : a.aliases = b.aliases
  required : a.valueType ≠ .unrecognized → a.required = b.required
  documented : a.isDocumented = b.isDocumented

def annotationText (t : ValueType) (required : Bool) : String :=
  if required then t.label ++ ", required" else t.label

theorem annotationText_inj {t u : ValueType} {r q : Bool}
    (h : annotationText t r = annotationText u q) : t = u ∧ r = q := by
  revert h
  cases t <;> cases u <;> cases r <;> cases q <;> decide

theorem annotation_eq (o : OptionSpec) :
    o.annotation = if o.valueType = .unrecognized then [] else
      [.text " (", .node (Node.emphasis (annotationText o.valueType o.required)), .text ")"] := by
  unfold annotation
  cases o.valueType <;> rfl

/-- An annotation shows the type, and for a recognized one whether a value is required. -/
theorem annotation_inj {a b : OptionSpec} (h : a.annotation = b.annotation) :
    a.valueType = b.valueType ∧ (a.valueType ≠ .unrecognized → a.required = b.required) := by
  rw [annotation_eq, annotation_eq] at h
  by_cases ha : a.valueType = .unrecognized
  · by_cases hb : b.valueType = .unrecognized
    · exact ⟨ha.trans hb.symm, fun hne => absurd ha hne⟩
    · simp [ha, hb] at h
  · by_cases hb : b.valueType = .unrecognized
    · simp [ha, hb] at h
    · simp only [if_neg ha, if_neg hb, List.cons.injEq, Child.node.injEq, and_true,
        true_and] at h
      obtain ⟨ht, hr⟩ := annotationText_inj (Node.emphasis_injective h)
      exact ⟨ht, fun _ => hr⟩

theorem children_term (name o : String) (a : OptionSpec) :
    (a.term name o).children = .node (Node.strong (heading o)) :: a.annotation :=
  Node.children_withChildren _ _

theorem documented_of_description {parse : MarkupParser} {a b : OptionSpec}
    (h : a.description parse = b.description parse) : a.isDocumented = b.isDocumented := by
  have hc : ∀ o : OptionSpec, (o.description parse).children =
      if o.isDocumented = true then (parse (o.doc.getD "")).map .node
      else [.text "No description"] := by
    intro o
    unfold description isDocumented
    cases o.doc with
    | none => rfl
    | some doc => cases he : doc.isEmpty <;> simp [he, Node.children_withNodes] <;> rfl
  have hne : ∀ ns : List Node, ns.map Child.node ≠ [.text "No description"] := by
    intro ns he
    cases ns <;> simp at he
  have hd := congrArg Node.children h
  rw [hc a, hc b] at hd
  cases ha : a.isDocumented <;> cases hb : b.isDocumented
  · rfl
  · simp only [ha, hb, ↓reduceIte, Bool.false_eq_true] at hd
    exact absurd hd.symm (hne _)
  · simp only [ha, hb, ↓reduceIte, Bool.false_eq_true] at hd
    exact absurd hd (hne _)
  · rfl

/-- The entries of an option determine its name and its shape. -/
theorem compile_inj {parse : MarkupParser} {name o o' : String} {a b : OptionSpec}
    (h : a.compile name o parse = b.compile name o' parse) : o = o' ∧ a.SameShape b := by
  obtain ⟨hterm, hrest⟩ := List.cons.inj h
  obtain ⟨hdescription, haliases⟩ := List.cons.inj hrest
  have hid := congrArg Node.identifier? hterm
  rw [identifier_term, identifier_term] at hid
  have hannotation := congrArg Node.children hterm
  rw [children_term, children_term] at hannotation
  obtain ⟨ht, hr⟩ := annotation_inj (List.cons.inj hannotation).2
  exact ⟨optionAnchor_inj.mp (Option.some.inj hid), ht, aliases_of_shown haliases, hr,
    documented_of_description hdescription⟩

theorem kind_description (parse : MarkupParser) (a : OptionSpec) :
    (a.description parse).kind = .definitionDescription := by
  unfold description
  split
  · split <;> rfl
  · rfl

theorem kind_of_mem_aliasDescription {a : OptionSpec} {n : Node} (h : n ∈ a.aliasDescription) :
    n.kind = .definitionDescription := by
  unfold aliasDescription at h
  split at h
  · cases h
  · rw [List.mem_singleton.mp h]
    rfl

theorem isGroup_compile (parse : MarkupParser) (name o : String) (a : OptionSpec) :
    IsGroup (a.compile name o parse) := by
  refine ⟨a.term name o, a.description parse :: a.aliasDescription, rfl, rfl, ?_⟩
  intro d hd
  rcases List.mem_cons.mp hd with rfl | hd
  · exact a.kind_description parse
  · exact kind_of_mem_aliasDescription hd

end OptionSpec

namespace Spec

/-- What documentation shows of two directives alike. -/
structure SameShape (s t : Spec) : Prop where
  name : s.name = t.name
  aliases : s.aliases = t.aliases
  argument : Option.Rel OptionSpec.SameShape s.argument t.argument
  body : Option.Rel OptionSpec.SameShape s.body t.body
  options : List.Forall₂ (fun a b => a.1 = b.1 ∧ a.2.SameShape b.2)
    s.options.entries t.options.entries

def groups (parse : MarkupParser) (s : Spec) : List (List Node) :=
  s.argument.toList.map (fun x => x.compile s.name "arg" parse) ++
    s.body.toList.map (fun x => x.compile s.name "body" parse) ++
    [[s.optionsTerm, s.optionsDescription parse]]

def optionGroups (parse : MarkupParser) (s : Spec) : List (List Node) :=
  s.options.entries.map (fun e => e.2.compile s.name e.1 parse)

theorem flatten_groups (parse : MarkupParser) (s : Spec) :
    (s.definitions parse).children = (s.groups parse).flatten.map .node := by
  have hc : ∀ (o : String) (x : Option OptionSpec), compileOption s.name o parse x =
      (x.toList.map (fun x => x.compile s.name o parse)).flatten := by
    intro o x
    cases x <;> simp [compileOption]
  rw [definitions, Node.children_withNodes, Node.children_empty, hc, hc]
  simp only [groups, List.flatten_append, List.flatten_singleton, List.nil_append]

theorem kind_optionsDescription (parse : MarkupParser) (s : Spec) :
    (s.optionsDescription parse).kind = .definitionDescription := by
  unfold optionsDescription
  dsimp only
  split <;> rfl

theorem children_optionsDescription (parse : MarkupParser) (s : Spec) :
    (s.optionsDescription parse).children =
      if (s.optionEntries parse).isEmpty then [.text "No options"]
      else [.node ((Node.empty .definitionList).withNodes (s.optionEntries parse))] := by
  unfold optionsDescription
  dsimp only
  split <;> rfl

theorem isGroup_of_mem_groups {parse : MarkupParser} {s : Spec} :
    ∀ g ∈ s.groups parse, IsGroup g := by
  intro g hg
  simp only [groups, List.mem_append, List.mem_map, List.mem_singleton] at hg
  rcases hg with (⟨x, _, rfl⟩ | ⟨x, _, rfl⟩) | rfl
  · exact x.isGroup_compile parse s.name "arg"
  · exact x.isGroup_compile parse s.name "body"
  · refine ⟨s.optionsTerm, [s.optionsDescription parse], rfl, rfl, ?_⟩
    intro d hd
    rw [List.mem_singleton.mp hd]
    exact s.kind_optionsDescription parse

theorem isGroup_of_mem_optionGroups {parse : MarkupParser} {s : Spec} :
    ∀ g ∈ s.optionGroups parse, IsGroup g := by
  intro g hg
  obtain ⟨e, _, rfl⟩ := List.mem_map.mp hg
  exact e.2.isGroup_compile parse s.name e.1

def groupAt (id : String) (gs : List (List Node)) : Option (List Node) :=
  gs.find? (fun g => g.head?.bind Node.identifier? == some id)

theorem groupAt_groups (parse : MarkupParser) (s : Spec) :
    groupAt (optionAnchor s.name "arg") (s.groups parse) =
        s.argument.map (fun x => x.compile s.name "arg" parse) ∧
      groupAt (optionAnchor s.name "body") (s.groups parse) =
        s.body.map (fun x => x.compile s.name "body" parse) ∧
      groupAt (optionAnchor s.name "opts") (s.groups parse) =
        some [s.optionsTerm, s.optionsDescription parse] := by
  have hcompile : ∀ (x : OptionSpec) (o o' : String),
      ((x.compile s.name o parse).head?.bind Node.identifier? ==
        some (optionAnchor s.name o')) = (o == o') :=
    fun x o o' => x.identifier_term_beq s.name o o'
  unfold groupAt groups
  refine ⟨?_, ?_, ?_⟩ <;> cases s.argument <;> cases s.body <;>
    simp [hcompile, identifier_optionsTerm, optionAnchor_inj]

theorem aliases_of_intro {parse : MarkupParser} {s t : Spec} (hdoc : s.doc = t.doc)
    (h : s.intro parse = t.intro parse) : s.aliases = t.aliases := by
  have hc : ∀ s : Spec, (s.intro parse).children = (s.doc.elim [] parse).map .node ++
      (if s.aliases.isEmpty then []
        else [(Node.empty .paragraph).withChildren (aliasChildren s.aliases)]).map .node := by
    intro s
    unfold intro
    cases s.doc <;> cases s.aliases <;>
      simp [Node.withChild, Node.children_withChildren, Node.children_withNodes,
        Node.children_empty]
  have hd := congrArg Node.children h
  rw [hc s, hc t, hdoc] at hd
  exact aliases_of_shown
    (List.map_injective_iff.mpr Child.node_injective (List.append_cancel_left hd))

theorem optionGroups_of_description {parse : MarkupParser} {s t : Spec}
    (h : s.optionsDescription parse = t.optionsDescription parse) :
    s.optionGroups parse = t.optionGroups parse := by
  have hd := congrArg Node.children h
  rw [children_optionsDescription, children_optionsDescription] at hd
  have he : s.optionEntries parse = t.optionEntries parse := by
    cases hs : s.optionEntries parse with
    | nil =>
      cases ht : t.optionEntries parse with
      | nil => rfl
      | cons y ys => simp [hs, ht] at hd
    | cons x xs =>
      cases ht : t.optionEntries parse with
      | nil => simp [hs, ht] at hd
      | cons y ys =>
        simp only [hs, ht, List.isEmpty_cons, Bool.false_eq_true, ↓reduceIte, List.cons.injEq,
          Child.node.injEq, and_true] at hd
        have hn := congrArg Node.children hd
        rw [Node.children_withNodes, Node.children_withNodes] at hn
        exact List.map_injective_iff.mpr Child.node_injective (List.append_cancel_left hn)
  apply groups_unique isGroup_of_mem_optionGroups isGroup_of_mem_optionGroups
  rw [optionGroups, ← List.flatMap_def, optionGroups, ← List.flatMap_def]
  exact he

/-- Equal definitions are cut into equal groups. -/
theorem groups_of_definitions {parse : MarkupParser} {s t : Spec}
    (h : s.definitions parse = t.definitions parse) : s.groups parse = t.groups parse := by
  have hd := congrArg Node.children h
  rw [flatten_groups, flatten_groups] at hd
  exact groups_unique isGroup_of_mem_groups isGroup_of_mem_groups
    (List.map_injective_iff.mpr Child.node_injective hd)

theorem rel_of_compile {parse : MarkupParser} {name o : String} {x y : Option OptionSpec}
    (h : x.map (fun a => a.compile name o parse) = y.map (fun a => a.compile name o parse)) :
    Option.Rel OptionSpec.SameShape x y := by
  cases x with
  | none =>
    cases y with
    | none => exact .none
    | some b => cases h
  | some a =>
    cases y with
    | none => cases h
    | some b => exact .some (OptionSpec.compile_inj (Option.some.inj h)).2

/-- Equal sections come from directives of one shape. -/
theorem compile_inj {parse : MarkupParser} {s t : Spec} (hdoc : s.doc = t.doc)
    (h : s.compile parse = t.compile parse) : s.SameShape t := by
  obtain ⟨hheading, hrest⟩ := List.cons.inj h
  obtain ⟨hintro, hrest⟩ := List.cons.inj hrest
  obtain ⟨hdefinitions, _⟩ := List.cons.inj hrest
  have hname : s.name = t.name := by
    have hid := congrArg Node.identifier? hheading
    rw [identifier_heading, identifier_heading] at hid
    exact (String.append_right_inj _).mp (Option.some.inj hid)
  obtain ⟨hsa, hsb, hso⟩ := groupAt_groups parse s
  obtain ⟨hta, htb, hto⟩ := groupAt_groups parse t
  rw [groups_of_definitions hdefinitions, hname] at hsa hsb hso
  have hoptions := optionGroups_of_description
    (List.cons.inj (List.cons.inj (Option.some.inj (hso.symm.trans hto))).2).1
  unfold optionGroups at hoptions
  rw [hname, ← List.forall₂_eq_eq_eq, List.forall₂_map_left_iff,
    List.forall₂_map_right_iff] at hoptions
  exact ⟨hname, aliases_of_intro hdoc hintro, rel_of_compile (hsa.symm.trans hta),
    rel_of_compile (hsb.symm.trans htb), hoptions.imp (fun _ _ he => OptionSpec.compile_inj he)⟩

end Spec

open Registry

/-- A section shows all of the declared shape: directives of one documentation text that compile
to equal sections are alike, whatever the parser makes of their texts. -/
theorem sections_determine_shape (parse : MarkupParser) (specs others : List Spec) (s t : Spec)
    (d e : Diagnostics) (hs : specs.find? (fun x => x.name == s.name) = some s)
    (ht : others.find? (fun x => x.name == t.name) = some t) (hdoc : s.doc = t.doc)
    (h : ((ofList specs).compileDirective parse s.name d).1 =
      ((ofList others).compileDirective parse t.name e).1) : s.SameShape t := by
  rw [← get_ofList] at hs ht
  rw [compileDirective_of_get hs, compileDirective_of_get ht] at h
  exact Spec.compile_inj hdoc h

def captioned (required : Bool) (caption : String) : Spec :=
  ((Spec.named "figure").withAliases ["fig"]).withOption "caption"
    ⟨.unrecognized, required, some caption, ["title"]⟩

/-- A parser that makes nothing of any text, and two directives that it cannot tell apart. -/
theorem sections_determine_captioned :
    captioned true "A line." ≠ captioned false "A text." ∧
      ((ofList [.named "note", captioned true "A line.", .named "figure"]).compileDirective
          (fun _ => []) "figure" .empty).1 =
        ((ofList [captioned false "A text."]).compileDirective (fun _ => []) "figure" .empty).1 ∧
      (captioned true "A line.").SameShape (captioned false "A text.") :=
  ⟨by decide, rfl, sections_determine_shape (fun _ => [])
    [.named "note", captioned true "A line.", .named "figure"] [captioned false "A text."]
    (captioned true "A line.") (captioned false "A text.") .empty .empty (by decide) (by decide)
    rfl rfl⟩

end DirectiveDocs
