import DirectiveDocs.Proofs.Collisions

namespace DirectiveDocs.Registry

/-- No key is shared just when the specs have no keys in common, two by two. -/
theorem unshared_iff_pairwise {specs : List Spec} :
    Unshared specs ↔ specs.Pairwise (fun s t => s.keys.Disjoint t.keys) := by
  rw [List.pairwise_iff_getElem]
  constructor
  · intro h i j hi hj hlt key hs ht
    have hij := h key i j specs[i] specs[j] (List.getElem?_eq_getElem hi)
      (List.getElem?_eq_getElem hj) (Spec.answersTo_iff.mpr hs) (Spec.answersTo_iff.mpr ht)
    omega
  · intro h key i j s t hi hj hs ht
    obtain ⟨hi', rfl⟩ := List.getElem?_eq_some_iff.mp hi
    obtain ⟨hj', rfl⟩ := List.getElem?_eq_some_iff.mp hj
    rw [Spec.answersTo_iff] at hs ht
    rcases Nat.lt_trichotomy i j with hlt | he | hlt
    · exact absurd ht (h i j hi' hj' hlt hs)
    · exact he
    · exact absurd hs (h j i hj' hi' hlt ht)

/-- What two specs have in common does not depend on where they stand. -/
theorem Unshared.perm {specs specs' : List Spec} (h : specs.Perm specs') :
    Unshared specs ↔ Unshared specs' := by
  rw [unshared_iff_pairwise, unshared_iff_pairwise]
  exact h.pairwise_iff (fun hd => List.disjoint_symm hd)

theorem collisions_eq_nil_perm {specs specs' : List Spec} (h : specs.Perm specs') :
    (ofList specs).collisions = [] ↔ (ofList specs').collisions = [] := by
  rw [collisions_eq_nil_iff, collisions_eq_nil_iff]
  exact Unshared.perm h

theorem Unshared.unique {specs : List Spec} (hu : Unshared specs) {key : String} {s t : Spec}
    (hs : s ∈ specs) (ht : t ∈ specs) (ha : s.answersTo key = true)
    (hb : t.answersTo key = true) : s = t := by
  obtain ⟨i, hi⟩ := List.mem_iff_getElem?.mp hs
  obtain ⟨j, hj⟩ := List.mem_iff_getElem?.mp ht
  obtain rfl := hu key i j s t hi hj ha hb
  exact Option.some.inj (hi.symm.trans hj)

/-- A test that only specs answering to one key can pass finds its spec wherever that stands. -/
theorem Unshared.find_eq_some_iff {specs : List Spec} (hu : Unshared specs) {key : String}
    {p : Spec → Bool} (hp : ∀ s, p s = true → s.answersTo key = true) {s : Spec} :
    specs.find? p = some s ↔ s ∈ specs ∧ p s = true := by
  constructor
  · intro h
    exact ⟨List.mem_of_find?_eq_some h, List.find?_some h⟩
  · rintro ⟨hs, ha⟩
    cases hf : specs.find? p with
    | none => exact absurd ha (List.find?_eq_none.mp hf s hs)
    | some t =>
      have ht : t ∈ specs := List.mem_of_find?_eq_some hf
      rw [hu.unique ht hs (hp t (List.find?_some hf)) (hp s ha)]

/-- Where no key is shared, the spec for a key is any that answers to it. -/
theorem Unshared.lookup_eq_some_iff {specs : List Spec} (hu : Unshared specs) {key : String}
    {s : Spec} :
    (ofList specs).lookup? key = some s ↔ s ∈ specs ∧ s.answersTo key = true := by
  rw [lookup_ofList]
  exact hu.find_eq_some_iff (fun _ h => h)

theorem Unshared.get_eq_some_iff {specs : List Spec} (hu : Unshared specs) {name : String}
    {s : Spec} : (ofList specs).get? name = some s ↔ s ∈ specs ∧ s.name = name := by
  have hp : ∀ t : Spec, (t.name == name) = true → t.answersTo name = true := by
    intro t ht
    exact (beq_iff_eq.mp ht) ▸ t.answersTo_name
  rw [get_ofList, hu.find_eq_some_iff hp, beq_iff_eq]

/-- Sections depend on a registry through its lookup by name only. -/
theorem compileDirective_congr {r r' : Registry} {name : String}
    (h : r.get? name = r'.get? name) (parse : MarkupParser) (d : Diagnostics) :
    r.compileDirective parse name d = r'.compileDirective parse name d := by
  simp only [compileDirective, h]

/-- References depend on a registry through its lookup by any key only. -/
theorem resolve_congr {r r' : Registry} {body : String}
    (h : r.lookup? (Reference.splitLabel (Reference.parse body).label).1 =
      r'.lookup? (Reference.splitLabel (Reference.parse body).label).1) :
    r.resolve body = r'.resolve body := by
  simp only [resolve, h]

/-- Without collisions the order of declarations does not matter, and whether there are any does
not depend on the order. -/
theorem order_free_without_collisions {specs specs' : List Spec} (h : specs.Perm specs') :
    ((ofList specs).collisions = [] ↔ (ofList specs').collisions = []) ∧
    ((ofList specs).collisions = [] →
      (∀ name, (ofList specs).get? name = (ofList specs').get? name) ∧
      (∀ key, (ofList specs).lookup? key = (ofList specs').lookup? key) ∧
      (∀ (parse : MarkupParser) (name : String) (d : Diagnostics),
        (ofList specs).compileDirective parse name d =
          (ofList specs').compileDirective parse name d) ∧
      (∀ body, (ofList specs).resolve body = (ofList specs').resolve body)) := by
  refine ⟨collisions_eq_nil_perm h, fun hc => ?_⟩
  have hu := (collisions_eq_nil_iff specs).mp hc
  have hu' := (Unshared.perm h).mp hu
  have hget : ∀ name, (ofList specs).get? name = (ofList specs').get? name := by
    intro name
    ext s
    rw [hu.get_eq_some_iff, hu'.get_eq_some_iff, h.mem_iff]
  have hlookup : ∀ key, (ofList specs).lookup? key = (ofList specs').lookup? key := by
    intro key
    ext s
    rw [hu.lookup_eq_some_iff, hu'.lookup_eq_some_iff, h.mem_iff]
  exact ⟨hget, hlookup, fun parse name d => compileDirective_congr (hget name) parse d,
    fun body => resolve_congr (hlookup _)⟩

def apart : List Spec :=
  [(Spec.named "code").withAliases ["code", "listing", "listing"],
    (Spec.named "figure").withAliases ["fig"]]

theorem order_free_apart :
    apart.Perm apart.reverse ∧ (ofList apart).collisions = [] ∧
    (ofList apart.reverse).collisions = [] ∧
    (ofList apart).lookup? "listing" = (ofList apart.reverse).lookup? "listing" ∧
    (ofList apart).resolve "see <fig.width>" = (ofList apart.reverse).resolve "see <fig.width>" :=
  have hp : apart.Perm apart.reverse := (List.reverse_perm apart).symm
  have hc : (ofList apart).collisions = [] := by decide
  have h := order_free_without_collisions hp
  ⟨hp, hc, h.1.mp hc, (h.2 hc).2.1 "listing", (h.2 hc).2.2.2 "see <fig.width>"⟩

end DirectiveDocs.Registry
