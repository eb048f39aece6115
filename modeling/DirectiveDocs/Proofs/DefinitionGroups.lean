import DirectiveDocs.Proofs.CrossReference
import DirectiveDocs.Proofs.SectionShape

namespace DirectiveDocs

/-- A group of a definition list: a term, its description, and one more description at most. -/
structure DefinitionGroup where
  term : Node
  description : Node
  more? : Option Node
  isTerm : term.kind = .definitionTerm
  isDescription : description.kind = .definitionDescription
  isMore : ∀ n ∈ more?, n.kind = .definitionDescription

namespace DefinitionGroup

def nodes (g : DefinitionGroup) : List Node :=
  g.term :: g.description :: g.more?.toList

/-- Different groups have different nodes. -/
theorem nodes_injective : Function.Injective nodes := by
  intro g h he
  obtain ⟨hterm, hrest⟩ := List.cons.inj he
  obtain ⟨hdescription, hmore⟩ := List.cons.inj hrest
  have hmore : g.more? = h.more? := by
    simpa using congrArg List.head? hmore
  cases g
  cases h
  simp_all

theorem isGroup_nodes (g : DefinitionGroup) : IsGroup g.nodes := by
  refine ⟨g.term, g.description :: g.more?.toList, rfl, g.isTerm, ?_⟩
  intro d hd
  rcases List.mem_cons.mp hd with rfl | hd
  · exact g.isDescription
  · exact g.isMore d (Option.mem_toList.mp hd)

/-- What a group shows of an option: its identifier, and its aliases in a second description. -/
structure Shows (g : DefinitionGroup) (name optionName : String) (o : OptionSpec) : Prop where
  identifier : g.term.identifier? = some ("directive-" ++ name ++ "-" ++ optionName)
  more : g.more?.isSome = true ↔ o.aliases ≠ []
  aliases : ∀ n ∈ g.more?, n.childNodes.filter (fun c => c.kind == .inlineCode) =
    o.aliases.map Node.inlineCode

end DefinitionGroup

open DefinitionGroup

namespace Node

/-- The children of a node are those of the groups. -/
def GroupedAs (n : Node) (gs : List DefinitionGroup) : Prop :=
  n.children = (gs.flatMap nodes).map .node

/-- The children of a node are those of the groups and of no others. -/
def GroupedOnlyAs (n : Node) (gs : List DefinitionGroup) : Prop :=
  n.GroupedAs gs ∧ ∀ hs, n.GroupedAs hs → hs = gs

/-- Each term starts a group, so there is no second way to cut the children. -/
theorem GroupedAs.only {n : Node} {gs : List DefinitionGroup} (h : n.GroupedAs gs) :
    n.GroupedOnlyAs gs := by
  refine ⟨h, fun hs hhs => ?_⟩
  have hflat : (hs.map nodes).flatten = (gs.map nodes).flatten := by
    apply List.map_injective_iff.mpr Child.node_injective
    rw [← List.flatMap_def, ← List.flatMap_def]
    exact hhs.symm.trans h
  have hgroups : ∀ gs : List DefinitionGroup, ∀ g ∈ gs.map nodes, IsGroup g := by
    intro gs g hg
    obtain ⟨g, _, rfl⟩ := List.mem_map.mp hg
    exact g.isGroup_nodes
  exact List.map_injective_iff.mpr nodes_injective
    (groups_unique (hgroups hs) (hgroups gs) hflat)

end Node

namespace OptionSpec

def group (parse : MarkupParser) (name optionName : String) (o : OptionSpec) : DefinitionGroup where
  term := o.term name optionName
  description := o.description parse
  more? := o.aliasDescription.head?
  isTerm := rfl
  isDescription := o.kind_description parse
  isMore _ hn := kind_of_mem_aliasDescription (List.mem_of_mem_head? hn)

theorem nodes_group (parse : MarkupParser) (name optionName : String) (o : OptionSpec) :
    (o.group parse name optionName).nodes = o.compile name optionName parse := by
  unfold nodes compile group aliasDescription
  split <;> rfl

/-- The group of an option shows that option. -/
theorem shows_group (parse : MarkupParser) (name optionName : String) (o : OptionSpec) :
    (o.group parse name optionName).Shows name optionName o := by
  refine ⟨identifier_term name optionName o, ?_, ?_⟩
  · simp only [group, aliasDescription]
    cases o.aliases <;> simp
  · intro n hn
    simp only [group, aliasDescription] at hn
    split at hn
    · cases hn
    · cases hn
      rw [Node.childNodes, Node.children_withChildren, Node.children_empty, List.nil_append,
        childNodes_aliasChildren, List.filter_cons_of_neg (by decide), List.filter_eq_self]
      intro c hc
      obtain ⟨a, _, rfl⟩ := List.mem_map.mp hc
      rfl

end OptionSpec

def optionGroupsOf (parse : MarkupParser) (name : String) (options : List (String × OptionSpec)) :
    List DefinitionGroup :=
  options.map (fun e => e.2.group parse name e.1)

theorem shows_optionGroupsOf (parse : MarkupParser) (name : String)
    (options : List (String × OptionSpec)) :
    List.Forall₂ (fun e g => g.Shows name e.1 e.2) options (optionGroupsOf parse name options) := by
  apply List.forall₂_map_right_iff.mpr
  apply List.forall₂_same.mpr
  intro e _
  exact e.2.shows_group parse name e.1

theorem map_nodes_optionGroupsOf (parse : MarkupParser) (name : String)
    (options : List (String × OptionSpec)) :
    (optionGroupsOf parse name options).map nodes =
      options.map (fun e => e.2.compile name e.1 parse) := by
  simp [optionGroupsOf, OptionSpec.nodes_group]

/-- Names apart make identifiers apart. -/
theorem nodup_identifiers_optionGroupsOf (parse : MarkupParser) (name : String)
    {options : List (String × OptionSpec)} (h : (options.map (·.1)).Nodup) :
    ((optionGroupsOf parse name options).map (fun g => g.term.identifier?)).Nodup := by
  have hids : (optionGroupsOf parse name options).map (fun g => g.term.identifier?) =
      (options.map (·.1)).map (fun o => some (optionAnchor name o)) := by
    simp [optionGroupsOf, OptionSpec.group, OptionSpec.identifier_term]
  rw [hids]
  exact h.map (fun _ _ he => optionAnchor_inj.mp (Option.some.inj he))

namespace Spec

/-- The argument and the body, as options of their own. -/
def ownOptions (s : Spec) : List (String × OptionSpec) :=
  s.argument.toList.map (fun o => ("arg", o)) ++ s.body.toList.map (fun o => ("body", o))

theorem identifier_optionsTerm_eq (s : Spec) :
    s.optionsTerm.identifier? = some ("directive-" ++ s.name ++ "-opts") := by
  rw [identifier_optionsTerm, optionAnchor, String.append_assoc]
  rfl

def optionsGroup (parse : MarkupParser) (s : Spec) : DefinitionGroup where
  term := s.optionsTerm
  description := s.optionsDescription parse
  more? := none
  isTerm := rfl
  isDescription := s.kind_optionsDescription parse
  isMore := nofun

theorem groups_eq_map_nodes (parse : MarkupParser) (s : Spec) :
    s.groups parse =
      (optionGroupsOf parse s.name s.ownOptions ++ [s.optionsGroup parse]).map nodes := by
  rw [List.map_append, map_nodes_optionGroupsOf, ownOptions, groups]
  simp only [List.map_append, List.map_map]
  rfl

/-- A section's definitions are the groups of its own entries and that of the options. -/
theorem groupedAs_definitions (parse : MarkupParser) (s : Spec) :
    (s.definitions parse).GroupedAs
      (optionGroupsOf parse s.name s.ownOptions ++ [s.optionsGroup parse]) := by
  rw [Node.GroupedAs, flatten_groups, groups_eq_map_nodes, ← List.flatMap_def]

theorem optionEntries_isEmpty (parse : MarkupParser) (s : Spec) :
    (s.optionEntries parse).isEmpty = s.options.entries.isEmpty := by
  unfold optionEntries
  cases s.options.entries <;> simp [OptionSpec.compile]

/-- The list of options has a group for each of them in their order. -/
theorem groupedAs_optionEntries (parse : MarkupParser) (s : Spec) :
    ((Node.empty .definitionList).withNodes (s.optionEntries parse)).GroupedAs
      (optionGroupsOf parse s.name s.options.entries) := by
  rw [Node.GroupedAs, Node.children_withNodes, Node.children_empty, List.nil_append, optionEntries,
    List.flatMap_def, List.flatMap_def, map_nodes_optionGroupsOf]

/-- The description of the options holds a text when there are none, and otherwise one list of their
groups. -/
theorem optionsDescription_cases (parse : MarkupParser) (s : Spec) :
    (s.options.entries = [] →
      (s.optionsDescription parse).children = [.text "No options"]) ∧
    (s.options.entries ≠ [] → ∃ list, (s.optionsDescription parse).children = [.node list] ∧
      list.kind = .definitionList ∧
      list.GroupedAs (optionGroupsOf parse s.name s.options.entries)) := by
  rw [children_optionsDescription, optionEntries_isEmpty]
  constructor
  · intro h
    rw [h]
    rfl
  · intro h
    refine ⟨_, if_neg ?_, rfl, s.groupedAs_optionEntries parse⟩
    simpa using h

end Spec

open Registry

/-- The definitions of a section are a list of groups in one way only, whatever the parser makes of
documentation texts. Their groups are those of the argument and of the body, where the directive has
them, and of the options as a whole. The one description of that last group says that there are no
options, or has a list of one group for each option in the order of declaration. -/
theorem definitions_mirror_declaration (specs : List Spec) (parse : MarkupParser) (name : String)
    (s : Spec) (d : Diagnostics) (h : (ofList specs).get? name = some s) :
    ∃ heading intro definitions groups options,
      (ofList specs).compileDirective parse name d = ([heading, intro, definitions], d) ∧
      definitions.kind = .definitionList ∧
      definitions.GroupedOnlyAs (groups ++ [options]) ∧
      List.Forall₂ (fun e g => g.Shows name e.1 e.2) s.ownOptions groups ∧
      options.term.identifier? = some ("directive-" ++ name ++ "-opts") ∧
      options.more? = none ∧
      (s.options.entries = [] → options.description.children = [.text "No options"]) ∧
      (s.options.entries ≠ [] → ∃ list entries,
        options.description.children = [.node list] ∧ list.kind = .definitionList ∧
        list.GroupedOnlyAs entries ∧
        List.Forall₂ (fun e g => g.Shows name e.1 e.2) s.options.entries entries ∧
        (entries.map (fun g => g.term.identifier?)).Nodup) := by
  have hname : s.name = name := by
    rw [get_ofList] at h
    exact Spec.name_of_find h
  subst hname
  refine ⟨Spec.heading s.name, s.intro parse, s.definitions parse,
    optionGroupsOf parse s.name s.ownOptions, s.optionsGroup parse,
    compileDirective_of_get h parse d, rfl, (s.groupedAs_definitions parse).only,
    shows_optionGroupsOf parse s.name s.ownOptions, s.identifier_optionsTerm_eq, rfl,
    (s.optionsDescription_cases parse).1, ?_⟩
  intro hne
  obtain ⟨list, hchildren, hkind, hgroups⟩ := (s.optionsDescription_cases parse).2 hne
  exact ⟨list, _, hchildren, hkind, hgroups.only,
    shows_optionGroupsOf parse s.name s.options.entries,
    nodup_identifiers_optionGroupsOf parse s.name s.options.distinct⟩

def codeBlock : Spec :=
  let caption : OptionSpec := ⟨.string, false, some "Shown above.", []⟩
  let lines : OptionSpec := ⟨.number, true, none, ["l", "n"]⟩
  (((Spec.named "code-block").withBody default).withOption "caption" caption).withOption "lines" lines

def terms : MarkupParser :=
  fun text => [(Node.empty .definitionTerm).withText text, Node.empty .definitionDescription]

theorem definitions_mirror_codeBlock :
    (ofList [figure, codeBlock]).get? "code-block" = some codeBlock ∧
    ∃ heading intro definitions body options list caption lines,
      (ofList [figure, codeBlock]).compileDirective terms "code-block" .empty =
        ([heading, intro, definitions], .empty) ∧
      definitions.GroupedOnlyAs [body, options] ∧
      body.term.identifier? = some "directive-code-block-body" ∧
      options.description.children = [.node list] ∧
      list.GroupedOnlyAs [caption, lines] ∧
      caption.term.identifier? = some "directive-code-block-caption" ∧
      caption.more?.isSome = false ∧
      lines.more?.isSome = true := by
  have hget : (ofList [figure, codeBlock]).get? "code-block" = some codeBlock := by decide
  refine ⟨hget, ?_⟩
  obtain ⟨heading, intro, definitions, groups, options, hcompile, -, honly, hown, -, -, -,
      hlist⟩ :=
    definitions_mirror_declaration [figure, codeBlock] terms "code-block" codeBlock .empty hget
  obtain ⟨list, entries, hchildren, -, hentries, hshows, -⟩ := hlist (by decide)
  cases hown with | cons hbody hnil =>
  cases hnil
  cases hshows with | cons hcaption hrest =>
  cases hrest with | cons hlines hnil =>
  cases hnil
  refine ⟨heading, intro, definitions, _, options, list, _, _, hcompile, honly, hbody.identifier,
    hchildren, hentries, hcaption.identifier, ?_, hlines.more.mpr (by decide)⟩
  exact Bool.eq_false_iff.mpr (fun h => hcaption.more.mp h rfl)

end DirectiveDocs
