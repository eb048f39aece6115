import DirectiveDocs.Section
import Mathlib.Data.List.Induction
import Mathlib.Data.List.Nodup

namespace DirectiveDocs

theorem Spec.answersTo_iff {s : Spec} {key : String} :
    s.answersTo key = true ↔ key ∈ s.keys := by
  simp [Spec.answersTo]

theorem Spec.answersTo_name (s : Spec) : s.answersTo s.name = true :=
  Spec.answersTo_iff.mpr List.mem_cons_self

theorem Spec.name_of_find {specs : List Spec} {name : String} {s : Spec}
    (h : specs.find? (fun t => t.name == name) = some s) : s.name = name := by
  simpa using List.find?_some (p := fun t : Spec => t.name == name) h

def Claim.ofSpecs (specs : List Spec) : List Claim :=
  specs.zipIdx.map (fun p => ⟨p.2, p.1⟩)

theorem Claim.ofSpecs_append (specs more : List Spec) :
    Claim.ofSpecs (specs ++ more) =
      Claim.ofSpecs specs ++ (more.zipIdx specs.length).map (fun p => ⟨p.2, p.1⟩) := by
  simp [Claim.ofSpecs, List.zipIdx_append]

/-- A claim stands at the position that it names. -/
theorem Claim.mem_ofSpecs {specs : List Spec} {c : Claim} :
    c ∈ Claim.ofSpecs specs ↔ specs[c.position]? = some c.spec := by
  constructor
  · intro h
    obtain ⟨⟨s, i⟩, hm, rfl⟩ := List.mem_map.mp h
    exact List.mk_mem_zipIdx_iff_getElem?.mp hm
  · intro h
    exact List.mem_map.mpr ⟨(c.spec, c.position), List.mk_mem_zipIdx_iff_getElem?.mpr h, rfl⟩

theorem Claim.ofSpecs_spec (specs : List Spec) :
    (Claim.ofSpecs specs).map Claim.spec = specs := by
  simp [Claim.ofSpecs, Function.comp_def]

/-- The spec of the first claim that passes a test on specs is the first such spec. -/
theorem Claim.find_ofSpecs (specs : List Spec) (p : Spec → Bool) :
    ((Claim.ofSpecs specs).find? (fun c => p c.spec)).map Claim.spec = specs.find? p := by
  conv_rhs => rw [← Claim.ofSpecs_spec specs]
  rw [List.find?_map]
  rfl

theorem Index.holder_claim (index : Index) (key k : String) (c : Claim) :
    (index.claim key c).holder? k = (index.holder? k).or (if key = k then some c else none) := by
  unfold Index.claim
  cases hk : index.holder? key with
  | some held =>
    by_cases he : key = k
    · subst he
      simp [hk]
    · simp [he]
  | none =>
    by_cases he : key = k
    · subst he
      rw [hk]
      simp [Index.holder?]
    · have hb : (key == k) = false := by simpa using he
      simp [Index.holder?, hb, he]

namespace Registry

theorem claimKeys_holder (index : Index) (c : Claim) (ks : List String) (k : String) :
    (claimKeys index c ks).1.holder? k =
      (index.holder? k).or (if k ∈ ks then some c else none) := by
  induction ks generalizing index with
  | nil => simp [claimKeys]
  | cons key rest ih =>
    simp only [claimKeys, ih, Index.holder_claim, Option.or_assoc]
    congr 1
    by_cases he : key = k
    · simp [he]
    · simp [he, Ne.symm he]

/-- Keys that a claim has taken already do not turn into collisions with itself. -/
theorem keyCollision_claim (index : Index) (key k : String) (c : Claim) :
    keyCollision (index.claim key c) k c = keyCollision index k c := by
  unfold keyCollision
  rw [Index.holder_claim]
  cases index.holder? k with
  | some held => rfl
  | none => by_cases he : key = k <;> simp [he]

theorem claimKeys_collisions (index : Index) (c : Claim) (ks : List String) :
    (claimKeys index c ks).2 = ks.flatMap (fun k => keyCollision index k c) := by
  induction ks generalizing index with
  | nil => rfl
  | cons key rest ih =>
    simp only [claimKeys, ih, List.flatMap_cons, keyCollision_claim]

theorem ofList_append (specs : List Spec) (s : Spec) :
    ofList (specs ++ [s]) = (ofList specs).add s := by
  simp [ofList]

theorem specs_ofList (specs : List Spec) : (ofList specs).specs = specs := by
  induction specs using List.reverseRecOn with
  | nil => rfl
  | append_singleton specs s ih => simp [ofList_append, add, ih]

/-- A name is held by the first claim of a spec of that name. -/
theorem names_ofList (specs : List Spec) (name : String) :
    (ofList specs).names.holder? name =
      (Claim.ofSpecs specs).find? (fun c => c.spec.name == name) := by
  induction specs using List.reverseRecOn with
  | nil => rfl
  | append_singleton specs s ih =>
    rw [ofList_append, Claim.ofSpecs_append, List.find?_append, ← ih]
    change ((ofList specs).names.claim s.name _).holder? name = _
    rw [Index.holder_claim, specs_ofList]
    by_cases he : s.name = name <;> simp [he]

/-- A key is held by the first claim of a spec that answers to it. -/
theorem keys_ofList (specs : List Spec) (key : String) :
    (ofList specs).keys.holder? key =
      (Claim.ofSpecs specs).find? (fun c => c.spec.answersTo key) := by
  induction specs using List.reverseRecOn with
  | nil => rfl
  | append_singleton specs s ih =>
    rw [ofList_append, Claim.ofSpecs_append, List.find?_append, ← ih]
    change (claimKeys (ofList specs).keys _ s.keys).1.holder? key = _
    rw [claimKeys_holder, specs_ofList]
    by_cases hk : key ∈ s.keys
    · simp [hk, Spec.answersTo_iff.mpr hk]
    · have ha : s.answersTo key = false :=
        Bool.eq_false_iff.mpr (fun h => hk (Spec.answersTo_iff.mp h))
      simp [hk, ha]

/-- Specs that are added later take no key away. -/
theorem keys_ofList_append {specs : List Spec} {key : String} {held : Claim}
    (h : (ofList specs).keys.holder? key = some held) (more : List Spec) :
    (ofList (specs ++ more)).keys.holder? key = some held := by
  rw [keys_ofList] at h ⊢
  rw [Claim.ofSpecs_append, List.find?_append, h]
  rfl

/-- The holder of a key answers to it and stands at its position. -/
theorem keys_ofList_some {specs : List Spec} {key : String} {held : Claim}
    (h : (ofList specs).keys.holder? key = some held) :
    specs[held.position]? = some held.spec ∧ held.spec.answersTo key = true := by
  rw [keys_ofList] at h
  have hp := List.find?_some (p := fun c : Claim => c.spec.answersTo key) h
  exact ⟨Claim.mem_ofSpecs.mp (List.mem_of_find?_eq_some h), hp⟩

/-- The spec of a name is the first one with that name. -/
theorem get_ofList (specs : List Spec) (name : String) :
    (ofList specs).get? name = specs.find? (fun s => s.name == name) := by
  rw [get?, names_ofList, Claim.find_ofSpecs specs (fun s => s.name == name)]

/-- The spec for a key is the first one that answers to it. -/
theorem lookup_ofList (specs : List Spec) (key : String) :
    (ofList specs).lookup? key = specs.find? (fun s => s.answersTo key) := by
  rw [lookup?, keys_ofList, Claim.find_ofSpecs specs (fun s => s.answersTo key)]

/-- A known directive is compiled without a report. -/
theorem compileDirective_of_get {r : Registry} {name : String} {s : Spec}
    (h : r.get? name = some s) (parse : MarkupParser) (d : Diagnostics) :
    r.compileDirective parse name d = (s.compile parse, d) := by
  simp only [compileDirective, h]

end Registry

namespace Index

variable {index : Index} {specs : List Spec} {answers : Spec → String → Bool}

/-- No key is stored twice, and a key is stored with the position of a spec that answers to it. -/
structure Sound (index : Index) (specs : List Spec) (answers : Spec → String → Bool) : Prop where
  distinct : (index.map Prod.fst).Nodup
  placed : ∀ e ∈ index, specs[e.2.position]? = some e.2.spec
  answered : ∀ e ∈ index, answers e.2.spec e.1 = true

theorem holder_eq_none_iff {key : String} :
    index.holder? key = none ↔ key ∉ index.map Prod.fst := by
  rw [holder?, Option.map_eq_none_iff, List.find?_eq_none, List.mem_map, not_exists]
  simp only [beq_iff_eq, not_and]

theorem Sound.nil : Sound [] specs answers :=
  ⟨List.nodup_nil, fun _ h => absurd h List.not_mem_nil, fun _ h => absurd h List.not_mem_nil⟩

/-- More specs leave the stored positions as they are. -/
theorem Sound.append (h : index.Sound specs answers) (more : List Spec) :
    index.Sound (specs ++ more) answers := by
  refine ⟨h.distinct, fun e he => ?_, h.answered⟩
  have hp := h.placed e he
  rw [List.getElem?_append_left (List.getElem?_eq_some_iff.mp hp).1, hp]

theorem Sound.claim (h : index.Sound specs answers) {key : String} {c : Claim}
    (hc : specs[c.position]? = some c.spec) (ha : answers c.spec key = true) :
    (index.claim key c).Sound specs answers := by
  unfold Index.claim
  cases hk : index.holder? key with
  | some held => exact h
  | none =>
    exact ⟨List.nodup_cons.mpr ⟨holder_eq_none_iff.mp hk, h.distinct⟩,
      List.forall_mem_cons.mpr ⟨hc, h.placed⟩, List.forall_mem_cons.mpr ⟨ha, h.answered⟩⟩

/-- An index stays sound when a spec claims its keys. -/
theorem Sound.claimKeys (h : index.Sound specs answers) {c : Claim} {ks : List String}
    (hc : specs[c.position]? = some c.spec) (ha : ∀ k ∈ ks, answers c.spec k = true) :
    (Registry.claimKeys index c ks).1.Sound specs answers := by
  induction ks generalizing index with
  | nil => exact h
  | cons key rest ih =>
    obtain ⟨hkey, hrest⟩ := List.forall_mem_cons.mp ha
    exact ih (h.claim hc hkey) hrest

theorem Sound.holder_of_mem (h : index.Sound specs answers) {e : String × Claim}
    (he : e ∈ index) : index.holder? e.1 = some e.2 := by
  unfold holder?
  -- the entry that is found has the same key, and no key is stored twice
  cases hf : index.find? (fun x => x.1 == e.1) with
  | none =>
    have hn := List.find?_eq_none.mp hf e he
    simp at hn
  | some x =>
    have hx : x.1 = e.1 := by
      simpa using List.find?_some (p := fun y : String × Claim => y.1 == e.1) hf
    rw [List.inj_on_of_nodup_map h.distinct (List.mem_of_find?_eq_some hf) he hx]
    rfl

/-- A lookup through an index against the specs in declaration order. It finds the first spec that
answers to a key, or none if no spec does; and that is the spec at the position stored for the key,
which is one of the list. -/
structure Scans (index : Index) (specs : List Spec) (answers : Spec → String → Bool)
    (lookup : String → Option Spec) : Prop where
  scan : ∀ key, lookup key = specs.find? (fun s => answers s key)
  first : ∀ key s, lookup key = some s ↔ answers s key = true ∧
    ∃ before after, specs = before ++ s :: after ∧ ∀ t ∈ before, answers t key = false
  missing : ∀ key, lookup key = none ↔ ∀ s ∈ specs, answers s key = false
  bounded : ∀ e ∈ index, e.2.position < specs.length
  indexed : ∀ e ∈ index, lookup e.1 = specs[e.2.position]?
  unindexed : ∀ key, key ∉ index.map Prod.fst → lookup key = none

/-- An index that holds the first claim on each key scans. -/
theorem Sound.scans (h : index.Sound specs answers)
    (hfirst : ∀ key, index.holder? key =
      (Claim.ofSpecs specs).find? (fun c => answers c.spec key)) :
    index.Scans specs answers (fun key => (index.holder? key).map Claim.spec) := by
  have hscan : ∀ key, (index.holder? key).map Claim.spec =
      specs.find? (fun s => answers s key) := by
    intro key
    rw [hfirst, Claim.find_ofSpecs specs (fun s => answers s key)]
  refine ⟨hscan, fun key s => ?_, fun key => ?_, fun e he => ?_, fun e he => ?_, fun key hk => ?_⟩
  · rw [hscan, List.find?_eq_some_iff_append]
    simp
  · rw [hscan, List.find?_eq_none]
    simp
  · exact (List.getElem?_eq_some_iff.mp (h.placed e he)).1
  · rw [h.holder_of_mem he, h.placed e he]
    rfl
  · rw [holder_eq_none_iff.mpr hk]
    rfl

end Index

namespace Registry

structure Indexed (r : Registry) : Prop where
  names : r.names.Sound r.specs (fun s name => s.name == name)
  keys : r.keys.Sound r.specs Spec.answersTo

theorem Indexed.add {r : Registry} (h : r.Indexed) (s : Spec) : (r.add s).Indexed := by
  have hs : (r.specs ++ [s])[r.specs.length]? = some s := by simp
  have hnames : (r.names.claim s.name ⟨r.specs.length, s⟩).Sound (r.specs ++ [s])
      (fun s name => s.name == name) :=
    (h.names.append [s]).claim hs (by simp)
  have hkeys : (claimKeys r.keys ⟨r.specs.length, s⟩ s.keys).1.Sound (r.specs ++ [s])
      Spec.answersTo :=
    (h.keys.append [s]).claimKeys hs (fun _ => Spec.answersTo_iff.mpr)
  exact ⟨hnames, hkeys⟩

/-- The indexes of every registry are sound. -/
theorem indexed_ofList (specs : List Spec) : (ofList specs).Indexed := by
  induction specs using List.reverseRecOn with
  | nil => exact ⟨.nil, .nil⟩
  | append_singleton specs s ih =>
    rw [ofList_append]
    exact ih.add s

/-- The indexes of a registry stand for linear scans of its specs, by name and by any key. All specs
are kept, also those that no lookup finds. -/
theorem lookups_scan_specs (specs : List Spec) :
    (ofList specs).names.Scans specs (fun s name => s.name == name) (ofList specs).get? ∧
    (ofList specs).keys.Scans specs Spec.answersTo (ofList specs).lookup? ∧
    (ofList specs).specs = specs := by
  have h := indexed_ofList specs
  have hspecs := specs_ofList specs
  have hnames : (ofList specs).names.Sound specs (fun s name => s.name == name) := by
    simpa only [hspecs] using h.names
  have hkeys : (ofList specs).keys.Sound specs Spec.answersTo := by
    simpa only [hspecs] using h.keys
  exact ⟨hnames.scans (names_ofList specs), hkeys.scans (keys_ofList specs), hspecs⟩

end Registry
end DirectiveDocs
