import DirectiveDocs.Command.Run
import DirectiveDocs.Proofs.Lookup
import DirectiveDocs.Proofs.SpecFiles

namespace DirectiveDocs.Registry

def raised (r : Registry) (s : Spec) : List Collision :=
  nameCollision r.names s ++
    s.keys.flatMap (fun key => keyCollision r.keys key ⟨r.specs.length, s⟩)

/-- One more spec adds its collisions after the others. -/
theorem collisions_add (r : Registry) (s : Spec) :
    (r.add s).collisions = r.collisions ++ r.raised s := by
  simp only [add, raised, claimKeys_collisions, List.append_assoc]

/-- Every collision was brought by one spec, against the specs before it. -/
theorem mem_collisions {specs : List Spec} {e : Collision} :
    e ∈ (ofList specs).collisions ↔
      ∃ before s after, specs = before ++ s :: after ∧ e ∈ (ofList before).raised s := by
  induction specs using List.reverseRecOn with
  | nil =>
    constructor
    · intro h
      cases h
    · rintro ⟨before, s, after, h, _⟩
      simp at h
  | append_singleton specs t ih =>
    rw [ofList_append, collisions_add, List.mem_append, ih]
    constructor
    · rintro (⟨before, s, after, rfl, he⟩ | he)
      · exact ⟨before, s, after ++ [t], by simp, he⟩
      · exact ⟨specs, t, [], rfl, he⟩
    · rintro ⟨before, s, after, h, he⟩
      rcases List.eq_nil_or_concat after with rfl | ⟨front, last, rfl⟩
      · obtain ⟨hb, ht⟩ := List.append_inj' h rfl
        cases hb
        cases ht
        exact Or.inr he
      · have h' : specs ++ [t] = (before ++ s :: front) ++ [last] := by simpa using h
        obtain ⟨hb, _⟩ := List.append_inj' h' rfl
        subst hb
        exact Or.inl ⟨before, s, front, rfl, he⟩

theorem mem_nameCollision {specs : List Spec} {s : Spec} {e : Collision} :
    e ∈ nameCollision (ofList specs).names s ↔
      e = ⟨s.name, s.name, s.name, .name⟩ ∧ ∃ t ∈ specs, t.name = s.name := by
  unfold nameCollision
  rw [names_ofList]
  cases h : (Claim.ofSpecs specs).find? (fun c => c.spec.name == s.name) with
  | none =>
    have hn := List.find?_eq_none.mp h
    simp only [List.not_mem_nil, false_iff, not_and]
    rintro _ ⟨t, ht, he⟩
    obtain ⟨i, hi⟩ := List.mem_iff_getElem?.mp ht
    exact hn ⟨i, t⟩ (Claim.mem_ofSpecs.mpr hi) (by simpa using he)
  | some held =>
    have hname : held.spec.name = s.name := by
      simpa using List.find?_some (p := fun c : Claim => c.spec.name == s.name) h
    have hmem := List.mem_of_getElem? (Claim.mem_ofSpecs.mp (List.mem_of_find?_eq_some h))
    simp only [hname, List.mem_singleton]
    exact ⟨fun he => ⟨he, held.spec, hmem, hname⟩, fun he => he.1⟩

/-- A key that an earlier spec of another name holds is a collision. The guard on positions never
decides: a holder among the earlier specs stands at an earlier position. -/
theorem mem_keyCollision {specs : List Spec} {s : Spec} {key : String} {e : Collision} :
    e ∈ keyCollision (ofList specs).keys key ⟨specs.length, s⟩ ↔
      ∃ held, (ofList specs).keys.holder? key = some held ∧ held.spec.name ≠ s.name ∧
        e = ⟨key, held.spec.name, s.name, .alias⟩ := by
  unfold keyCollision
  cases h : (ofList specs).keys.holder? key with
  | none => simp
  | some held =>
    have hlt := (List.getElem?_eq_some_iff.mp (keys_ofList_some h).1).1
    by_cases hn : held.spec.name = s.name
    · simp [hn]
    · simp [hn, Nat.ne_of_lt hlt]

/-- A spec of a list with what stands before and after it. -/
theorem split_at {specs : List Spec} {i : Nat} {s : Spec} (h : specs[i]? = some s) :
    ∃ before after, specs = before ++ s :: after ∧ before.length = i := by
  obtain ⟨hi, rfl⟩ := List.getElem?_eq_some_iff.mp h
  refine ⟨specs.take i, specs.drop (i + 1), ?_, by simp; omega⟩
  rw [List.getElem_cons_drop, List.take_append_drop]

/-- What becomes of a key of the spec at a position: the lookup of the key finds that spec, or
another one, and then a collision tells so. -/
def Accounted (r : Registry) (position : Nat) (s : Spec) (key : String) : Prop :=
  ∃ held, r.keys.holder? key = some held ∧ r.lookup? key = some held.spec ∧
    ((held.position = position ∧ held.spec = s) ∨
      (held.spec.name ≠ s.name ∧ ⟨key, held.spec.name, s.name, .alias⟩ ∈ r.collisions) ∨
      (held.spec.name = s.name ∧ ⟨s.name, s.name, s.name, .name⟩ ∈ r.collisions))

/-- No lookup leads past a spec without a report. -/
theorem accounted_ofList {specs : List Spec} {i : Nat} {s : Spec} {key : String}
    (hs : specs[i]? = some s) (hk : s.answersTo key = true) :
    Accounted (ofList specs) i s key := by
  obtain ⟨before, after, rfl, rfl⟩ := split_at hs
  cases hb : (ofList before).keys.holder? key with
  | none =>
    have hh : (ofList (before ++ s :: after)).keys.holder? key = some ⟨before.length, s⟩ := by
      rw [keys_ofList] at hb ⊢
      rw [Claim.ofSpecs_append, List.find?_append, hb]
      simp [hk]
    exact ⟨_, hh, by simp [lookup?, hh], Or.inl ⟨rfl, rfl⟩⟩
  | some held =>
    have hh := keys_ofList_append hb (s :: after)
    have hm := List.mem_of_getElem? (keys_ofList_some hb).1
    refine ⟨held, hh, by simp [lookup?, hh], Or.inr ?_⟩
    by_cases hn : held.spec.name = s.name
    · right
      refine ⟨hn, mem_collisions.mpr ⟨before, s, after, rfl, List.mem_append_left _ ?_⟩⟩
      exact mem_nameCollision.mpr ⟨rfl, held.spec, hm, hn⟩
    · left
      refine ⟨hn, mem_collisions.mpr ⟨before, s, after, rfl, List.mem_append_right _ ?_⟩⟩
      rw [specs_ofList]
      exact List.mem_flatMap.mpr ⟨key, Spec.answersTo_iff.mp hk,
        mem_keyCollision.mpr ⟨held, hb, hn, rfl⟩⟩

/-- What a collision says of the specs: two of them share a name, or a lookup finds the first of
two specs of different names that both answer to a key. -/
def Founded (specs : List Spec) (e : Collision) : Prop :=
  ∃ i j s t, i < j ∧ specs[i]? = some s ∧ specs[j]? = some t ∧
    s.name = e.kept ∧ t.name = e.shadowed ∧
    match e.kind with
    | .name => s.name = e.key ∧ t.name = e.key
    | .alias => e.kept ≠ e.shadowed ∧ t.answersTo e.key = true ∧
      (ofList specs).keys.holder? e.key = some ⟨i, s⟩ ∧ (ofList specs).lookup? e.key = some s

/-- Nothing is reported that lookups do not bear out. -/
theorem founded_of_mem {specs : List Spec} {e : Collision}
    (he : e ∈ (ofList specs).collisions) : Founded specs e := by
  obtain ⟨before, s, after, rfl, hr⟩ := mem_collisions.mp he
  have hs : (before ++ s :: after)[before.length]? = some s := by simp
  rcases List.mem_append.mp hr with hr | hr
  · obtain ⟨rfl, t, ht, hn⟩ := mem_nameCollision.mp hr
    obtain ⟨i, hi⟩ := List.mem_iff_getElem?.mp ht
    have hlt := (List.getElem?_eq_some_iff.mp hi).1
    exact ⟨i, before.length, t, s, hlt, by rwa [List.getElem?_append_left hlt], hs, hn, rfl,
      hn, rfl⟩
  · rw [specs_ofList] at hr
    obtain ⟨key, hk, hr⟩ := List.mem_flatMap.mp hr
    obtain ⟨held, hb, hn, rfl⟩ := mem_keyCollision.mp hr
    have hi := (keys_ofList_some hb).1
    have hlt := (List.getElem?_eq_some_iff.mp hi).1
    have hh := keys_ofList_append hb (s :: after)
    exact ⟨held.position, before.length, held.spec, s, hlt,
      by rwa [List.getElem?_append_left hlt], hs, rfl, rfl, hn, Spec.answersTo_iff.mpr hk, hh,
      by simp [lookup?, hh]⟩

/-- No key is answered by the specs at two positions. -/
def Unshared (specs : List Spec) : Prop :=
  ∀ (key : String) (i j : Nat) (s t : Spec), specs[i]? = some s → specs[j]? = some t →
    s.answersTo key = true → t.answersTo key = true → i = j

/-- Nothing is reported just when no key is shared. -/
theorem collisions_eq_nil_iff (specs : List Spec) :
    (ofList specs).collisions = [] ↔ Unshared specs := by
  constructor
  · intro hc key i j s t hi hj hs ht
    -- with nothing reported, both positions are that of the key's holder
    have at_holder : ∀ {i s}, specs[i]? = some s → s.answersTo key = true →
        ∃ held, (ofList specs).keys.holder? key = some held ∧ held.position = i := by
      intro i s hi hs
      obtain ⟨held, hh, _, ⟨hp, _⟩ | ⟨_, hm⟩ | ⟨_, hm⟩⟩ := accounted_ofList hi hs
      · exact ⟨held, hh, hp⟩
      · rw [hc] at hm
        cases hm
      · rw [hc] at hm
        cases hm
    obtain ⟨held, hh, rfl⟩ := at_holder hi hs
    obtain ⟨held', hh', rfl⟩ := at_holder hj ht
    rw [Option.some.inj (hh.symm.trans hh')]
  · intro hu
    apply List.eq_nil_iff_forall_not_mem.mpr
    intro e he
    obtain ⟨i, j, s, t, hlt, hi, hj, _, _, hkind⟩ := founded_of_mem he
    have hij : i = j := by
      cases hk : e.kind with
      | name =>
        rw [hk] at hkind
        obtain ⟨hs, ht⟩ := hkind
        exact hu e.key i j s t hi hj (hs ▸ s.answersTo_name) (ht ▸ t.answersTo_name)
      | «alias» =>
        rw [hk] at hkind
        obtain ⟨_, ht, hh, _⟩ := hkind
        exact hu e.key i j s t hi hj (keys_ofList_some hh).2 ht
    omega

/-- A registry that a configuration loads is one of the specs it lists. -/
theorem load_eq_ofList {w : Workspace} {c : Config} {r : Registry} (h : load w c = .ok r) :
    r = ofList r.specs := by
  obtain ⟨_, _, _, _, rfl⟩ := assemble_eq_ok_iff.mp h
  rw [specs_ofList]

end DirectiveDocs.Registry

namespace DirectiveDocs.Command
open Registry

/-- The registry of a session is the one that its specs make. -/
theorem openSession_registry {w : Workspace} {o : Options} {s : Session}
    (h : openSession w o = .ok s) : s.registry = ofList s.registry.specs := by
  obtain ⟨c, _, hc⟩ := bind_eq_ok.mp h
  obtain ⟨r, hr, hs⟩ := bind_eq_ok.mp hc
  cases hs
  exact load_eq_ofList (mapError_eq_ok.mp hr)

/-- A check passes just when nothing is reported. -/
theorem report_exitCode (s : Session) :
    (report s false).exitCode = 0 ↔ s.registry.collisions = [] := by
  cases h : s.registry.collisions <;> simp [report, outcome, h]

theorem run_eq_perform {w : Workspace} {args : List String} {options : Options} {action : Action}
    {s : Session} (ha : request w.variableValue? args = .ok (.run options action))
    (hs : openSession w options = .ok s) : run w args = perform s action := by
  simp only [run, ha, hs]

theorem run_check {w : Workspace} {args : List String} {options : Options} {s : Session}
    (ha : request w.variableValue? args = .ok (.run options (.check false)))
    (hs : openSession w options = .ok s) : run w args = report s false :=
  run_eq_perform ha hs

/-- The collisions of a registry are sound and complete for its lookups: a key that does not lead
to its spec is reported, what is reported is so, and a check passes just when no key is shared. -/
theorem collisions_account_for_lookups (specs : List Spec) :
    (∀ (i : Nat) (s : Spec) (key : String), specs[i]? = some s → s.answersTo key = true →
      Accounted (ofList specs) i s key) ∧
    (∀ e ∈ (ofList specs).collisions, Founded specs e) ∧
    ((ofList specs).collisions = [] ↔ Unshared specs) ∧
    (∀ config : Config,
      (perform ⟨config, ofList specs⟩ (.check false)).exitCode = 0 ↔ Unshared specs) ∧
    (∀ (w : Workspace) (args : List String) (options : Options) (session : Session),
      request w.variableValue? args = .ok (.run options (.check false)) →
      openSession w options = .ok session → session.registry.specs = specs →
      ((run w args).exitCode = 0 ↔ Unshared specs)) := by
  refine ⟨fun i s key hs hk => accounted_ofList hs hk, fun e he => founded_of_mem he,
    collisions_eq_nil_iff specs, ?_, ?_⟩
  · intro config
    rw [← collisions_eq_nil_iff]
    exact report_exitCode ⟨config, ofList specs⟩
  · intro w args options session ha hs hspecs
    have hr : session.registry = ofList specs := hspecs ▸ openSession_registry hs
    rw [run_check ha hs, report_exitCode, hr]
    exact collisions_eq_nil_iff specs

def clashing : List Spec :=
  [(Spec.named "admonition").withAliases ["note"], (Spec.named "callout").withAliases ["note"]]

def bare : Workspace := ⟨.empty, [], []⟩

theorem load_bare : Registry.load bare .default = .ok (ofList Spec.builtins) :=
  assemble_eq_ok_iff.mpr ⟨[], [], rfl, rfl, by simp [Config.default]⟩

theorem bare_session : openSession bare {} = .ok ⟨.default, ofList Spec.builtins⟩ := by
  have hc : Config.load bare none (Options.settings {}) = .ok .default := by rfl
  simp [openSession, hc, load_bare, Except.mapError, bind, Except.bind]

theorem collisions_account_clashing :
    Accounted (ofList clashing) 1 ((Spec.named "callout").withAliases ["note"]) "note" ∧
    Founded clashing ⟨"note", "admonition", "callout", .alias⟩ ∧
    ((run bare ["check"]).exitCode = 0 ↔ Unshared Spec.builtins) :=
  ⟨(collisions_account_for_lookups clashing).1 1 _ "note" rfl (by decide),
    (collisions_account_for_lookups clashing).2.1 _ (by decide),
    (collisions_account_for_lookups Spec.builtins).2.2.2.2 bare ["check"] {} _ rfl bare_session
      (specs_ofList _)⟩

end DirectiveDocs.Command
