import DirectiveDocs.Plugin
import DirectiveDocs.Proofs.CrossReference
import DirectiveDocs.Proofs.Loading
import DirectiveDocs.Proofs.Reordering

namespace DirectiveDocs

open Node Registry

namespace Registry

theorem kind_resolve (r : Registry) (body : String) : (r.resolve body).kind = .crossReference := by
  rfl

end Registry

/-- A reference with an option never has the identifier of a section named by the whole body. The
option ends the identifier, but after a dot or before a bracket in the body. -/
theorem optionAnchor_ne_of_split {body key o : String}
    (h : Reference.splitLabel (Reference.parse body).label = (key, some o)) (name : String) :
    optionAnchor name o ≠ directiveAnchor body := by
  intro he
  have hbody : name ++ "-" ++ o = body := by
    simpa [optionAnchor, directiveAnchor, String.append_assoc, String.append_right_inj] using he
  obtain ⟨hlabel, _, ho⟩ := Reference.splitLabel_some_iff.mp h
  by_cases hb : ∃ lead label, Bracketed body lead label
  · obtain ⟨lead, label, hb⟩ := hb
    rw [Reference.label_of_bracketed hb] at hlabel
    obtain ⟨hform, _, hplain⟩ := hb
    -- the body ends with a bracket, so the option does, but no bracket stands in the label
    obtain ⟨c, hc⟩ : ∃ c, o.toList.getLast? = some c := by
      rw [← Option.isSome_iff_exists, List.getLast?_isSome]
      exact fun hnil => ho (String.ext hnil)
    have hlast := congrArg (fun s => s.toList.getLast?) (hbody.trans hform)
    simp only [String.toList_append, List.getLast?_append, hc, Option.some_or] at hlast
    obtain rfl : c = '>' := by simpa using hlast
    have hm : '>' ∈ label.toList := by
      rw [hlabel]
      simp [List.mem_of_getLast? hc]
    have := hplain '>' hm
    simp [Reference.isBracket] at this
  · rw [Reference.label_of_not_bracketed hb] at hlabel
    have hdash : name ++ "-" = key ++ "." := (String.append_left_inj o).mp (hbody.trans hlabel)
    have := congrArg (fun s => s.toList.getLast?) hdash
    simp at this

/-- A spec's name, read as a reference, is a key of the spec without an option after it. -/
def Spec.NamesItself (s : Spec) : Prop :=
  ∃ key, Reference.splitLabel (Reference.parse s.name).label = (key, none) ∧
    s.answersTo key = true

/-- A name without a dot that does not end with a label in brackets is read as it is. -/
theorem Spec.namesItself_of_plain {s : Spec} (hd : '.' ∉ s.name.toList)
    (hb : ¬ ∃ lead label, Bracketed s.name lead label) : s.NamesItself := by
  refine ⟨s.name, ?_, s.answersTo_name⟩
  rw [Reference.label_of_not_bracketed hb, Reference.splitLabel_of_no_dot hd]

namespace Registry

/-- Where no key is shared, a spec's name refers to the section of the spec just when it reads as
one of its keys. -/
theorem identifier_resolve_name_iff {specs : List Spec} (hu : Unshared specs) {s : Spec}
    (hs : s ∈ specs) :
    ((ofList specs).resolve s.name).identifier? = some (directiveAnchor s.name) ↔
      s.NamesItself := by
  obtain ⟨key, option?, hl⟩ : ∃ key option?,
      Reference.splitLabel (Reference.parse s.name).label = (key, option?) := ⟨_, _, rfl⟩
  rw [identifier_resolve_eq hl, Option.some_inj]
  constructor
  · intro h
    cases option? with
    | some o => exact absurd h (optionAnchor_ne_of_split hl _)
    | none =>
      refine ⟨key, hl, ?_⟩
      have hname := directiveAnchor_inj.mp h
      cases hk : (ofList specs).lookup? key with
      | none =>
        rw [hk] at hname
        obtain rfl : key = s.name := hname
        exact s.answersTo_name
      | some t =>
        rw [hk] at hname
        obtain ⟨ht, hkey⟩ := hu.lookup_eq_some_iff.mp hk
        have hts : t.answersTo s.name = true := hname ▸ t.answersTo_name
        rwa [hu.unique ht hs hts s.answersTo_name] at hkey
  · rintro ⟨key', hl', hkey⟩
    obtain ⟨rfl, rfl⟩ := Prod.mk.inj (hl.symm.trans hl')
    rw [hu.lookup_eq_some_iff.mpr ⟨hs, hkey⟩]
    rfl

/-- Only the name of a spec itself gives the section of the spec. -/
theorem compileDirective_eq_iff {specs : List Spec} {s : Spec}
    (hs : (ofList specs).get? s.name = some s) (parse : MarkupParser) (d : Diagnostics)
    (name : String) :
    (ofList specs).compileDirective parse name d =
      (ofList specs).compileDirective parse s.name d ↔ name = s.name := by
  constructor
  · intro h
    rw [compileDirective_of_get hs] at h
    cases hn : (ofList specs).get? name with
    | none => simp [compileDirective, hn, Spec.compile] at h
    | some t =>
      rw [compileDirective_of_get hn] at h
      have hhead : Spec.heading t.name = Spec.heading s.name :=
        (List.cons.inj (Prod.mk.inj h).1).1
      have hid := congrArg Node.identifier? hhead
      rw [Spec.identifier_heading, Spec.identifier_heading, Option.some_inj,
        directiveAnchor_inj] at hid
      rw [get_ofList] at hn
      rw [← Spec.name_of_find hn, hid]
  · rintro rfl
    rfl

end Registry

namespace Plugin

/-- The documentation directive compiles its argument without the blanks around it. -/
theorem run_docsDirective {arg : String} (h : Text.isBlankText arg = false)
    (body : Option String) (ctx : HandlerContext) :
    docsDirective.run (some arg) body ctx =
      ctx.registry.compileDirective ctx.parse (Text.trim arg) ctx.diagnostics := by
  have he : (Text.trim arg).isEmpty = false := by rw [Text.isEmpty_trim, h]
  simp only [docsDirective, Option.getD_some, he, Bool.false_eq_true, if_false]

/-- Loaded directives and their own names, when no key is shared. The documentation directive gives
the section of a name just when no blanks surround the name, and the documentation role refers to
that section just when the name reads as a key of its spec. -/
theorem loaded_names_address {text : String} {specs : List Spec}
    (hload : Spec.load text = .ok specs) (hc : (ofList specs).collisions = []) {s : Spec}
    (hs : s ∈ specs) (parse : MarkupParser) (d : Diagnostics) (body : Option String) :
    (∃ heading rest, (ofList specs).compileDirective parse s.name d = (heading :: rest, d) ∧
      heading.identifier? = some ("directive-" ++ s.name)) ∧
    (∃ handler, docs.directive? "myst:directive" = some handler ∧
      (handler.run (some s.name) body ⟨ofList specs, parse, d⟩ =
        (ofList specs).compileDirective parse s.name d ↔ Text.trim s.name = s.name)) ∧
    (∃ handler node, docs.role? "myst:directive" = some handler ∧
      handler.run s.name ⟨ofList specs, parse, d⟩ = ([node], d) ∧ node.kind = .crossReference ∧
      (node.identifier? = some ("directive-" ++ s.name) ↔ s.NamesItself)) ∧
    ('.' ∉ s.name.toList → (¬ ∃ lead label, Bracketed s.name lead label) → s.NamesItself) := by
  have hu := (collisions_eq_nil_iff specs).mp hc
  have hget : (ofList specs).get? s.name = some s := hu.get_eq_some_iff.mpr ⟨hs, rfl⟩
  have hname : Text.isBlankText s.name = false := Spec.allNamed_of_load hload s hs
  refine ⟨⟨Spec.heading s.name, _, compileDirective_of_get hget parse d,
    Spec.identifier_heading s.name⟩, ⟨docsDirective, rfl, ?_⟩,
    ⟨docsRole, (ofList specs).resolve s.name, rfl, rfl, kind_resolve _ _, ?_⟩,
    Spec.namesItself_of_plain⟩
  · rw [run_docsDirective hname]
    exact compileDirective_eq_iff hget parse d (Text.trim s.name)
  · exact identifier_resolve_name_iff hu hs

def tabText : String := "- name: tab-set\n  alias: [tabs]\n"

def tabSet : Spec := (Spec.named "tab-set").withAliases ["tabs"]

theorem load_tabText : Spec.load tabText = .ok [tabSet] := by decide +kernel

theorem loaded_names_address_tabs :
    (∃ handler, docs.directive? "myst:directive" = some handler ∧
      (handler.run (some "tab-set") none ⟨ofList [tabSet], fun _ => [], .empty⟩ =
        (ofList [tabSet]).compileDirective (fun _ => []) "tab-set" .empty ↔
        Text.trim "tab-set" = "tab-set")) ∧
    tabSet.NamesItself :=
  have h := loaded_names_address load_tabText (by decide) (List.mem_singleton_self tabSet)
    (fun _ => []) .empty none
  ⟨h.2.1, h.2.2.2 (by decide) (Reference.parse_verbatim_iff.mp (by decide))⟩

/-- A text with a name that has a dot and a name that has blanks around it. -/
def awkwardText : String := "- name: a.b\n- name: ' c '\n"

def awkward : List Spec := [Spec.named "a.b", Spec.named " c "]

/-- The role leads away from the section of a name with a dot, and the directive does not find a name
with blanks around it, though both are loaded without a collision. -/
theorem awkward_names_fail :
    Spec.load awkwardText = .ok awkward ∧ (ofList awkward).collisions = [] ∧
    ((docsRole.run "a.b" ⟨ofList awkward, fun _ => [], .empty⟩).1.map Node.identifier? =
        [some "directive-a-b"] ∧
      ((Spec.named "a.b").compile (fun _ => [])).head?.map Node.identifier? =
        some (some "directive-a.b")) ∧
    (docsDirective.run (some " c ") none ⟨ofList awkward, fun _ => [], .empty⟩ =
        ([], Diagnostics.empty.report (unknownDirective "c")) ∧
      (ofList awkward).compileDirective (fun _ => []) " c " .empty =
        ((Spec.named " c ").compile (fun _ => []), .empty)) :=
  ⟨by decide +kernel, by decide, ⟨by decide, by decide⟩, by decide, by decide⟩

end Plugin
end DirectiveDocs
