import DirectiveDocs.Proofs.Collisions

namespace DirectiveDocs.Registry

/-- A registry with more specs after those of another one. What was found before is found as it was,
and what is reported is reported before anything about the new specs. -/
structure Extends (r : Registry) (more : List Spec) (r' : Registry) : Prop where
  specs : r'.specs = r.specs ++ more
  get : ∀ name s, r.get? name = some s → r'.get? name = some s
  lookup : ∀ key s, r.lookup? key = some s → r'.lookup? key = some s
  reports : ∃ later, r'.collisions = r.collisions ++ later ∧
    ∀ e ∈ later, ∃ s ∈ more, s.name = e.shadowed ∧ s.answersTo e.key = true

theorem Extends.refl (r : Registry) : r.Extends [] r :=
  ⟨by simp, fun _ _ h => h, fun _ _ h => h, [], by simp, nofun⟩

theorem Extends.trans {r r' r'' : Registry} {more more' : List Spec} (h : r.Extends more r')
    (h' : r'.Extends more' r'') : r.Extends (more ++ more') r'' := by
  refine ⟨?_, fun name s hs => h'.get name s (h.get name s hs),
    fun key s hs => h'.lookup key s (h.lookup key s hs), ?_⟩
  · rw [h'.specs, h.specs, List.append_assoc]
  · obtain ⟨later, hl, hm⟩ := h.reports
    obtain ⟨later', hl', hm'⟩ := h'.reports
    refine ⟨later ++ later', by rw [hl', hl, List.append_assoc], fun e he => ?_⟩
    rcases List.mem_append.mp he with he | he
    · obtain ⟨s, hs, hse⟩ := hm e he
      exact ⟨s, List.mem_append_left _ hs, hse⟩
    · obtain ⟨s, hs, hse⟩ := hm' e he
      exact ⟨s, List.mem_append_right _ hs, hse⟩

/-- A collision that a spec brings is about that spec and one of its own keys. -/
theorem shadowed_of_mem_raised {r : Registry} {s : Spec} {e : Collision} (h : e ∈ r.raised s) :
    s.name = e.shadowed ∧ s.answersTo e.key = true := by
  rcases List.mem_append.mp h with h | h
  · unfold nameCollision at h
    split at h
    · obtain rfl := List.mem_singleton.mp h
      exact ⟨rfl, s.answersTo_name⟩
    · cases h
  · obtain ⟨key, hk, h⟩ := List.mem_flatMap.mp h
    unfold keyCollision at h
    split at h
    · split at h
      · obtain rfl := List.mem_singleton.mp h
        exact ⟨rfl, Spec.answersTo_iff.mpr hk⟩
      · cases h
    · cases h

/-- Declaring one more spec takes nothing away: a key that is held stays with its holder. -/
theorem extends_add (r : Registry) (s : Spec) : r.Extends [s] (r.add s) := by
  refine ⟨rfl, fun name t h => ?_, fun key t h => ?_, r.raised s, collisions_add r s, ?_⟩
  · obtain ⟨c, hc, rfl⟩ := Option.map_eq_some_iff.mp h
    have hc' : (r.add s).names.holder? name = some c := by
      change (r.names.claim s.name _).holder? name = some c
      rw [Index.holder_claim, hc]
      rfl
    rw [get?, hc']
    rfl
  · obtain ⟨c, hc, rfl⟩ := Option.map_eq_some_iff.mp h
    have hc' : (r.add s).keys.holder? key = some c := by
      change (claimKeys r.keys _ s.keys).1.holder? key = some c
      rw [claimKeys_holder, hc]
      rfl
    rw [lookup?, hc']
    rfl
  · intro e he
    exact ⟨s, List.mem_singleton_self s, shadowed_of_mem_raised he⟩

/-- Any number of further specs takes nothing away. -/
theorem extends_foldl (r : Registry) (more : List Spec) : r.Extends more (more.foldl add r) := by
  induction more generalizing r with
  | nil => exact .refl r
  | cons s more ih => exact (extends_add r s).trans (ih (r.add s))

theorem extends_ofList_append (specs more : List Spec) :
    (ofList specs).Extends more (ofList (specs ++ more)) := by
  have h := extends_foldl (ofList specs) more
  rwa [ofList, ← List.foldl_append] at h

/-- A directive that was known is documented as it was. -/
theorem Extends.compileDirective {r r' : Registry} {more : List Spec} (h : r.Extends more r')
    {name : String} {s : Spec} (hs : r.get? name = some s) (parse : MarkupParser)
    (d : Diagnostics) : r'.compileDirective parse name d = (s.compile parse, d) :=
  compileDirective_of_get (h.get name s hs) parse d

/-- The name that a label leads to is all that a reference takes from a registry. -/
theorem Extends.resolve {r r' : Registry} {more : List Spec} (h : r.Extends more r')
    {body : String} {s : Spec}
    (hs : r.lookup? (Reference.splitLabel (Reference.parse body).label).1 = some s) :
    r'.resolve body = r.resolve body := by
  unfold Registry.resolve
  simp only [hs, h.lookup _ s hs]

/-- The specs of files come after the built-in specs. -/
theorem load_builtins {w : Workspace} {c : Config} {r : Registry} (hb : c.builtins = true)
    (h : load w c = .ok r) : ∃ more, r = ofList (Spec.builtins ++ more) := by
  obtain ⟨_, loaded, _, _, rfl⟩ := assemble_eq_ok_iff.mp h
  exact ⟨loaded.flatten, by rw [if_pos hb]⟩

/-- Specs that are declared later change nothing that worked before. Sections and references stay
the same and nothing new is reported before the old reports; so it is with the built-in specs and
the specs of files. -/
theorem later_specs_preserve (specs more : List Spec) :
    (∀ (name : String) (s : Spec) (parse : MarkupParser) (d : Diagnostics),
      (ofList specs).get? name = some s →
      (ofList specs).compileDirective parse name d = (s.compile parse, d) ∧
      (ofList (specs ++ more)).compileDirective parse name d = (s.compile parse, d)) ∧
    (∀ (body : String) (s : Spec),
      (ofList specs).lookup? (Reference.splitLabel (Reference.parse body).label).1 = some s →
      (ofList (specs ++ more)).resolve body = (ofList specs).resolve body) ∧
    (∃ later, (ofList (specs ++ more)).collisions = (ofList specs).collisions ++ later ∧
      ∀ e ∈ later, ∃ t ∈ more, t.name = e.shadowed ∧ t.answersTo e.key = true) ∧
    (∀ (w : Workspace) (c : Config) (r : Registry), c.builtins = true → load w c = .ok r →
      ∃ filed, r = ofList (Spec.builtins ++ filed) ∧ (ofList Spec.builtins).Extends filed r) := by
  have h := extends_ofList_append specs more
  refine ⟨fun name s parse d hs => ⟨compileDirective_of_get hs parse d,
    h.compileDirective hs parse d⟩, fun body s hs => h.resolve hs, h.reports, ?_⟩
  intro w c r hb hr
  obtain ⟨filed, rfl⟩ := load_builtins hb hr
  exact ⟨filed, rfl, extends_ofList_append Spec.builtins filed⟩

def noted : Spec := (Spec.named "admonition").withAliases ["note"]

def shelf : Workspace := ⟨.directory [("note.yaml", .file "- name: note\n".toUTF8)], [], []⟩

/-- The file's spec comes after the built-in ones, one of which has its name as an alias. -/
theorem load_shelf {c : Config} (hb : c.builtins = true) (hf : c.specFiles = ["note.yaml"]) :
    load shelf c = .ok (ofList (Spec.builtins ++ [Spec.named "note"])) := by
  have hfiles : files (Glob.list shelf) c.specFiles = .ok ["note.yaml"] := by
    rw [hf]
    exact files_singleton.trans (entryFiles_of_plain (by decide))
  have hread : List.Forall₂ (fun path specs => Spec.loadFile shelf path = .ok specs)
      ["note.yaml"] [[Spec.named "note"]] :=
    .cons (by decide +kernel) .nil
  refine assemble_eq_ok_iff.mpr ⟨_, _, hfiles, mapM_eq_ok_iff.mpr hread, ?_⟩
  rw [if_pos hb]
  rfl

/-- The alias stays with its spec when a spec of that name comes later, and so do the aliases of the
built-in specs when a spec file has a spec of such a name. -/
theorem later_specs_preserve_noted :
    (ofList ([noted] ++ [Spec.named "note"])).compileDirective (fun _ => []) "admonition" .empty =
      (noted.compile (fun _ => []), .empty) ∧
    (ofList ([noted] ++ [Spec.named "note"])).resolve "see <note.class>" =
      (ofList [noted]).resolve "see <note.class>" ∧
    (∃ later, (ofList ([noted] ++ [Spec.named "note"])).collisions =
      (ofList [noted]).collisions ++ later ∧
      ∀ e ∈ later, ∃ t ∈ [Spec.named "note"], t.name = e.shadowed ∧ t.answersTo e.key = true) ∧
    load shelf { Config.default with specFiles := ["note.yaml"] } =
      .ok (ofList (Spec.builtins ++ [Spec.named "note"])) ∧
    ∃ filed, ofList (Spec.builtins ++ [Spec.named "note"]) = ofList (Spec.builtins ++ filed) ∧
      (ofList Spec.builtins).Extends filed (ofList (Spec.builtins ++ [Spec.named "note"])) :=
  have h := later_specs_preserve [noted] [Spec.named "note"]
  have hload := load_shelf (c := { Config.default with specFiles := ["note.yaml"] }) rfl rfl
  ⟨(h.1 "admonition" noted (fun _ => []) .empty (by decide)).2,
    h.2.1 "see <note.class>" noted (by decide), h.2.2.1, hload,
    h.2.2.2 shelf _ _ rfl hload⟩

end DirectiveDocs.Registry
