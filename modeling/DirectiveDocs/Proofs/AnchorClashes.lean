import DirectiveDocs.Proofs.CrossReference
import Mathlib.Data.List.Count
import Mathlib.Data.List.NodupEquivFin

namespace DirectiveDocs

open Node Registry

section Duplicates

variable {α β : Type}

theorem duplicate_filterMap_iff {f : α → Option β} {l : List α} {b : β} :
    List.Duplicate b (l.filterMap f) ↔ List.Duplicate (some b) (l.map f) := by
  induction l with
  | nil => simp
  | cons a l ih => cases ha : f a <;> simp [ha, ih, List.duplicate_cons_iff]

variable [DecidableEq α] [DecidableEq β]

theorem duplicate_map_iff {f : α → β} (hf : Function.Injective f) {l : List α} {a : α} :
    List.Duplicate (f a) (l.map f) ↔ List.Duplicate a l := by
  rw [List.duplicate_iff_two_le_count, List.duplicate_iff_two_le_count,
    List.count_map_of_injective l f hf]

/-- Two lists without repetition repeat together what they have in common. -/
theorem duplicate_append_iff {l₁ l₂ : List α} (h₁ : l₁.Nodup) (h₂ : l₂.Nodup) {a : α} :
    List.Duplicate a (l₁ ++ l₂) ↔ a ∈ l₁ ∧ a ∈ l₂ := by
  rw [List.duplicate_iff_two_le_count, List.count_append, h₁.count, h₂.count]
  split <;> split <;> simp_all

end Duplicates

namespace Node

def identifiers (ns : List Node) : List String :=
  (listing ns).filterMap identifier?

theorem identifiers_eq_anchored (ns : List Node) :
    identifiers ns = (anchored ns).filterMap identifier? := by
  rw [identifiers, anchored, List.filterMap_filter]
  congr 1
  funext n
  cases hn : n.identifier? <;> simp [isAnchored, hn]

/-- Two nodes at different places of a forest have the identifier. -/
def Shared (ns : List Node) (id : String) : Prop :=
  ∃ (i j : Nat) (m n : Node), i ≠ j ∧ (listing ns)[i]? = some m ∧ (listing ns)[j]? = some n ∧
    m.identifier? = some id ∧ n.identifier? = some id

/-- An identifier is shared when it is listed more than once. -/
theorem shared_iff_duplicate {ns : List Node} {id : String} :
    Shared ns id ↔ List.Duplicate id (identifiers ns) := by
  have hplace : ∀ k : Nat, (∃ n : Node, (listing ns)[k]? = some n ∧ n.identifier? = some id) ↔
      ∃ h, ((listing ns).map identifier?).get ⟨k, h⟩ = some id := by
    intro k
    rw [← Option.map_eq_some_iff, ← List.getElem?_map, List.getElem?_eq_some_iff]
    rfl
  rw [identifiers, duplicate_filterMap_iff, List.duplicate_iff_exists_distinct_get]
  constructor
  · rintro ⟨i, j, m, n, hne, hi, hj, hm, hn⟩
    obtain ⟨hi', hidi⟩ := (hplace i).mp ⟨m, hi, hm⟩
    obtain ⟨hj', hidj⟩ := (hplace j).mp ⟨n, hj, hn⟩
    rcases Nat.lt_or_gt_of_ne hne with hlt | hlt
    · exact ⟨⟨i, hi'⟩, ⟨j, hj'⟩, hlt, hidi.symm, hidj.symm⟩
    · exact ⟨⟨j, hj'⟩, ⟨i, hi'⟩, hlt, hidj.symm, hidi.symm⟩
  · rintro ⟨i, j, hlt, hidi, hidj⟩
    obtain ⟨m, hi, hm⟩ := (hplace i).mpr ⟨i.isLt, hidi.symm⟩
    obtain ⟨n, hj, hn⟩ := (hplace j).mpr ⟨j.isLt, hidj.symm⟩
    exact ⟨i, j, m, n, Nat.ne_of_lt hlt, hi, hj, hm, hn⟩

end Node

theorem OptionMap.isSome_get_iff {m : OptionMap} {o : String} :
    (m.get? o).isSome = true ↔ o ∈ m.entries.map (·.1) := by
  simp [OptionMap.get?, List.find?_isSome]

namespace Spec

/-- The names of the entries that a section has besides those of options. -/
def ownEntries (s : Spec) : List String :=
  s.argument.toList.map (fun _ => "arg") ++ s.body.toList.map (fun _ => "body") ++ ["opts"]

/-- The entries besides those of options are the names that a section takes for itself. -/
theorem mem_ownEntries_iff {s : Spec} {o : String} : o ∈ s.ownEntries ↔ s.Reserves o := by
  have hgiven : ∀ (name : String) (opt : Option OptionSpec),
      o ∈ opt.toList.map (fun _ => name) ↔ o = name ∧ opt.isSome = true := by
    intro name opt
    cases opt <;> simp
  rw [ownEntries, List.mem_append, List.mem_append, hgiven, hgiven, List.mem_singleton, or_comm,
    Reserves]

theorem nodup_ownEntries (s : Spec) : s.ownEntries.Nodup := by
  unfold ownEntries
  cases s.argument <;> cases s.body <;> simp

/-- A section has the identifier of its directive, then one for each of its entries. -/
theorem identifiers_compile {parse : MarkupParser} (h : parse.Unmarked) (s : Spec) :
    identifiers (s.compile parse) = directiveAnchor s.name ::
      (s.ownEntries ++ s.options.entries.map (·.1)).map (optionAnchor s.name) := by
  have hterms : ∀ (o : String) (opt : Option OptionSpec),
      (opt.toList.map (fun x => x.term s.name o)).filterMap identifier? =
        (opt.toList.map (fun _ => o)).map (optionAnchor s.name) := by
    intro o opt
    cases opt with
    | none => rfl
    | some x => simp [OptionSpec.identifier_term]
  have hoptions : (s.options.entries.map (fun e => e.2.term s.name e.1)).filterMap identifier? =
      (s.options.entries.map (·.1)).map (optionAnchor s.name) := by
    simp [List.filterMap_map, Function.comp_def, OptionSpec.identifier_term]
  rw [identifiers_eq_anchored, anchored_compile h, anchorNodes, ownEntries,
    List.filterMap_cons_some (identifier_heading s.name), List.filterMap_append,
    List.filterMap_append, hterms, hterms, List.filterMap_cons_some (identifier_optionsTerm s),
    hoptions]
  simp

/-- What a section has twice are the identifiers of options whose names it takes for itself. -/
theorem shared_compile_iff {parse : MarkupParser} (h : parse.Unmarked) {s : Spec} {id : String} :
    Shared (s.compile parse) id ↔
      ∃ o, (s.options.get? o).isSome = true ∧ s.Reserves o ∧ id = optionAnchor s.name o := by
  have hrepeat : ∀ o, List.Duplicate (optionAnchor s.name o)
      ((s.ownEntries ++ s.options.entries.map (·.1)).map (optionAnchor s.name)) ↔
        (s.options.get? o).isSome = true ∧ s.Reserves o := by
    intro o
    rw [duplicate_map_iff (fun _ _ => optionAnchor_inj.mp),
      duplicate_append_iff s.nodup_ownEntries s.options.distinct, mem_ownEntries_iff,
      OptionMap.isSome_get_iff, and_comm]
  rw [shared_iff_duplicate, identifiers_compile h, List.duplicate_cons_iff]
  constructor
  · rintro (⟨rfl, hhead⟩ | hentries)
    · -- no entry has the identifier of the directive itself
      obtain ⟨o, -, ho⟩ := List.mem_map.mp hhead
      exact absurd ho (optionAnchor_ne_directiveAnchor s.name o)
    · obtain ⟨o, -, rfl⟩ := List.mem_map.mp hentries.mem
      obtain ⟨hopt, hr⟩ := (hrepeat o).mp hentries
      exact ⟨o, hopt, hr, rfl⟩
  · rintro ⟨o, hopt, hr, rfl⟩
    exact .inr ((hrepeat o).mpr ⟨hopt, hr⟩)

/-- The identifiers of a section are all different unless an option has a name that the section takes
for itself. -/
theorem anchors_repeat_iff_reserved {parse : MarkupParser} (h : parse.Unmarked) (s : Spec) :
    (∃ id, Shared (s.compile parse) id) ↔
      (s.options.get? "opts").isSome = true ∨
      ((s.options.get? "arg").isSome = true ∧ s.argument.isSome = true) ∨
      ((s.options.get? "body").isSome = true ∧ s.body.isSome = true) := by
  constructor
  · rintro ⟨id, hid⟩
    obtain ⟨o, hopt, hr, -⟩ := (shared_compile_iff h).mp hid
    rcases hr with rfl | ⟨rfl, ha⟩ | ⟨rfl, hb⟩
    · exact .inl hopt
    · exact .inr (.inl ⟨hopt, ha⟩)
    · exact .inr (.inr ⟨hopt, hb⟩)
  · rintro (hopt | ⟨hopt, ha⟩ | ⟨hopt, hb⟩)
    · exact ⟨_, (shared_compile_iff h).mpr ⟨"opts", hopt, .inl rfl, rfl⟩⟩
    · exact ⟨_, (shared_compile_iff h).mpr ⟨"arg", hopt, .inr (.inl ⟨rfl, ha⟩), rfl⟩⟩
    · exact ⟨_, (shared_compile_iff h).mpr ⟨"body", hopt, .inr (.inr ⟨rfl, hb⟩), rfl⟩⟩

end Spec

def argued : Spec := figure.withOption "arg" default

/-- An option with the name of the argument's entry repeats its identifier; without one nothing
does. -/
theorem anchors_repeat_argued :
    (∃ id, Shared (argued.compile paragraphs) id) ∧ ¬ ∃ id, Shared (figure.compile paragraphs) id :=
  ⟨(Spec.anchors_repeat_iff_reserved paragraphs_unmarked argued).mpr (by decide),
    fun h => absurd ((Spec.anchors_repeat_iff_reserved paragraphs_unmarked figure).mp h) (by decide)⟩

/-- A name that goes on with a hyphen, and anything after it, where another name ends. -/
def Prolongs (name other : String) : Prop :=
  ∃ more, name = other ++ "-" ++ more

theorem prolongs_iff_prefix {name other : String} :
    (other ++ "-").toList <+: name.toList ↔ Prolongs name other := by
  constructor
  · rintro ⟨more, h⟩
    exact ⟨String.ofList more, String.ext (by simp [← h])⟩
  · rintro ⟨more, rfl⟩
    exact ⟨more.toList, by simp⟩

instance (name other : String) : Decidable (Prolongs name other) :=
  decidable_of_iff _ prolongs_iff_prefix

/-- What an identifier has after the directive's name: nothing, or a hyphen and the name of an entry. -/
def AnchorEnd (tail : List Char) : Prop :=
  tail = [] ∨ ∃ entry, tail = '-' :: entry

/-- Where two identifiers agree, the names before their ends are equal or one prolongs the other. -/
theorem prolongs_of_append_eq {name other : String} {more tail : List Char}
    (ht : AnchorEnd (more ++ tail)) (h : other.toList = name.toList ++ more) :
    name = other ∨ Prolongs other name := by
  cases more with
  | nil =>
    rw [List.append_nil] at h
    exact .inl (String.ext h.symm)
  | cons c more =>
    rcases ht with hnil | ⟨entry, hentry⟩
    · cases hnil
    · -- the longer name goes on into the end of the identifier, which starts with the hyphen
      obtain ⟨rfl, -⟩ := List.cons.inj hentry
      exact .inr ⟨String.ofList more, String.ext (by simp [h])⟩

/-- Directives of different names have an identifier in common only if one name prolongs the other. -/
theorem prolongs_of_anchor_eq {name other : String} {tail tail' : List Char}
    (ht : AnchorEnd tail) (ht' : AnchorEnd tail')
    (h : name.toList ++ tail = other.toList ++ tail') (hne : name ≠ other) :
    Prolongs name other ∨ Prolongs other name := by
  rcases List.append_eq_append_iff.mp h with ⟨more, hname, rfl⟩ | ⟨more, hname, rfl⟩
  · exact .inr ((prolongs_of_append_eq ht hname).resolve_left hne)
  · exact .inl ((prolongs_of_append_eq ht' hname).resolve_left hne.symm)

namespace Spec

/-- Every identifier of a section begins with the section's own. -/
theorem anchorEnd_of_mem {parse : MarkupParser} (h : parse.Unmarked) {s : Spec} {id : String}
    (hid : id ∈ identifiers (s.compile parse)) :
    ∃ tail, AnchorEnd tail ∧ id.toList = "directive-".toList ++ (s.name.toList ++ tail) := by
  rw [identifiers_compile h, List.mem_cons, List.mem_map] at hid
  rcases hid with rfl | ⟨o, -, rfl⟩
  · exact ⟨[], .inl rfl, by simp [directiveAnchor]⟩
  · exact ⟨'-' :: o.toList, .inr ⟨_, rfl⟩, by simp [optionAnchor]⟩

/-- Sections of different names share an identifier only when one name prolongs the other. -/
theorem prolongs_of_common {p q : MarkupParser} (hp : p.Unmarked) (hq : q.Unmarked) {s t : Spec}
    {id : String} (hs : id ∈ identifiers (s.compile p)) (ht : id ∈ identifiers (t.compile q))
    (hne : s.name ≠ t.name) : Prolongs s.name t.name ∨ Prolongs t.name s.name := by
  obtain ⟨tail, htail, hids⟩ := anchorEnd_of_mem hp hs
  obtain ⟨tail', htail', hidt⟩ := anchorEnd_of_mem hq ht
  exact prolongs_of_anchor_eq htail htail' (List.append_cancel_left (hids.symm.trans hidt)) hne

end Spec

/-- An identifier in the section of a name is one of the section of a spec with that name. -/
theorem Registry.mem_identifiers_compileDirective {specs : List Spec} {parse : MarkupParser}
    {name id : String} {d : Diagnostics}
    (hid : id ∈ identifiers ((ofList specs).compileDirective parse name d).1) :
    ∃ s ∈ specs, s.name = name ∧ id ∈ identifiers (s.compile parse) := by
  cases hg : (ofList specs).get? name with
  | none =>
    simp only [compileDirective, hg] at hid
    cases hid
  | some s =>
    rw [compileDirective_of_get hg] at hid
    rw [get_ofList] at hg
    exact ⟨s, List.mem_of_find?_eq_some hg, Spec.name_of_find hg, hid⟩

/-- Sections of directives with different names have an identifier in common only if one of the names
prolongs the other. So in a registry where no name prolongs another the sections of different names
have none in common. -/
theorem anchors_meet_only_prolonged {p q : MarkupParser} (hp : p.Unmarked) (hq : q.Unmarked) :
    (∀ s t : Spec, s.name ≠ t.name → ∀ id ∈ identifiers (s.compile p),
      id ∈ identifiers (t.compile q) → Prolongs s.name t.name ∨ Prolongs t.name s.name) ∧
    (∀ specs : List Spec, (∀ s ∈ specs, ∀ t ∈ specs, ¬ Prolongs s.name t.name) →
      ∀ (a b : String) (d e : Diagnostics), a ≠ b →
        List.Disjoint (identifiers ((ofList specs).compileDirective p a d).1)
          (identifiers ((ofList specs).compileDirective q b e).1)) := by
  refine ⟨fun s t hne id hs ht => Spec.prolongs_of_common hp hq hs ht hne, ?_⟩
  intro specs hfree a b d e hne id ha hb
  obtain ⟨s, hs, rfl, hids⟩ := mem_identifiers_compileDirective ha
  obtain ⟨t, ht, rfl, hidt⟩ := mem_identifiers_compileDirective hb
  rcases Spec.prolongs_of_common hp hq hids hidt hne with h | h
  · exact hfree s hs t ht h
  · exact hfree t ht s hs h

def bulletList : Spec := (Spec.named "list").withOption "table-width" default

def listTable : Spec := (Spec.named "list-table").withOption "width" default

theorem anchors_meet_listTable :
    (Prolongs "list" "list-table" ∨ Prolongs "list-table" "list") ∧
    List.Disjoint
      (identifiers ((ofList [figure, bulletList]).compileDirective paragraphs "figure" .empty).1)
      (identifiers ((ofList [figure, bulletList]).compileDirective paragraphs "list" .empty).1) :=
  have h := anchors_meet_only_prolonged paragraphs_unmarked paragraphs_unmarked
  ⟨h.1 bulletList listTable (by decide) "directive-list-table-width" (by decide) (by decide),
    h.2 [figure, bulletList] (by decide) "figure" "list" .empty .empty (by decide)⟩

end DirectiveDocs
