import DirectiveDocs.Proofs.Collisions
import Mathlib.Data.List.Duplicate

namespace DirectiveDocs

section FirstOccurrences

variable {α β : Type} [BEq α] [BEq β]

theorem eraseDups_sublist (l : List α) : l.eraseDups.Sublist l := by
  match l with
  | [] => simp
  | a :: l =>
    rw [List.eraseDups_cons]
    exact ((eraseDups_sublist _).trans List.filter_sublist).cons_cons a
termination_by l.length
decreasing_by exact Nat.lt_succ_of_le (List.length_filter_le _ _)

theorem eraseDups_eq_nil_iff {l : List α} : l.eraseDups = [] ↔ l = [] := by
  cases l <;> simp [List.eraseDups_cons]

theorem flatten_eraseDups_sublist (blocks : List (List α)) :
    (blocks.map List.eraseDups).flatten.Sublist blocks.flatten := by
  induction blocks with
  | nil => simp
  | cons l blocks ih => exact (eraseDups_sublist l).append ih

/-- Lists that stay the same together without their repetitions stay the same one by one. -/
theorem flatten_eraseDups_eq_iff {blocks : List (List α)} :
    (blocks.map List.eraseDups).flatten = blocks.flatten ↔ ∀ l ∈ blocks, l.eraseDups = l := by
  induction blocks with
  | nil => simp
  | cons l blocks ih =>
    rw [List.forall_mem_cons, ← ih, List.map_cons, List.flatten_cons, List.flatten_cons]
    constructor
    · intro h
      have hl := (eraseDups_sublist l).length_le
      have hrest := (flatten_eraseDups_sublist blocks).length_le
      have hlength := congrArg List.length h
      simp only [List.length_append] at hlength
      exact List.append_inj h (by omega)
    · rintro ⟨hl, hrest⟩
      rw [hl, hrest]

variable [LawfulBEq α] [LawfulBEq β]

theorem eraseDups_eq_self_iff {l : List α} : l.eraseDups = l ↔ l.Nodup := by
  induction l with
  | nil => simp
  | cons a l ih =>
    have hfilter : l.filter (fun b => !b == a) = l ↔ a ∉ l := by
      rw [List.filter_eq_self]
      simp only [Bool.not_eq_true', beq_eq_false_iff_ne]
      exact ⟨fun h ha => h a ha rfl, fun ha b hb he => ha (he ▸ hb)⟩
    rw [List.eraseDups_cons, List.nodup_cons, List.cons.injEq, ← ih]
    constructor
    · rintro ⟨-, h⟩
      -- nothing is dropped, so the filter in front drops nothing either
      have hle := (eraseDups_sublist (l.filter (fun b => !b == a))).length_le
      rw [h] at hle
      have hl := List.filter_sublist.eq_of_length_le hle
      exact ⟨hfilter.mp hl, by rwa [hl] at h⟩
    · rintro ⟨ha, h⟩
      exact ⟨rfl, by rwa [hfilter.mpr ha]⟩

variable {f : α → Option β} {key : β → α}

/-- What comes of different elements is different, so repetitions may be dropped before or after. -/
theorem eraseDups_filterMap (h : ∀ a b, f a = some b → key b = a) (l : List α) :
    (l.filterMap f).eraseDups = l.eraseDups.filterMap f := by
  match l with
  | [] => simp
  | a :: l =>
    have ih := eraseDups_filterMap h (l.filter (fun b => !b == a))
    rw [List.filterMap_filter] at ih
    rw [List.eraseDups_cons]
    cases ha : f a with
    | none =>
      rw [List.filterMap_cons_none ha, List.filterMap_cons_none ha, ← ih]
      congr 1
      apply List.filterMap_congr
      intro b _
      by_cases hb : b = a <;> simp [hb, ha]
    | some e =>
      rw [List.filterMap_cons_some ha, List.filterMap_cons_some ha, List.eraseDups_cons, ← ih,
        List.filter_filterMap]
      congr 2
      apply List.filterMap_congr
      intro b _
      by_cases hb : b = a
      · simp [hb, ha]
      · cases he : f b with
        | none => simp
        | some e' =>
          have hne : e' ≠ e := fun hee => hb ((h b e' he).symm.trans (hee ▸ h a e ha))
          simp [hb, hne]
termination_by l.length
decreasing_by exact Nat.lt_succ_of_le (List.length_filter_le _ _)

omit [BEq α] [BEq β] [LawfulBEq α] [LawfulBEq β] in
theorem nodup_filterMap_iff (h : ∀ a b, f a = some b → key b = a) {l : List α} :
    (l.filterMap f).Nodup ↔ ∀ a, List.Duplicate a l → f a = none := by
  induction l with
  | nil => simp
  | cons a l ih =>
    simp only [List.duplicate_cons_iff, or_imp, forall_and, ← ih]
    cases ha : f a with
    | none => simp [ha]
    | some e =>
      have hmem : e ∈ l.filterMap f ↔ a ∈ l := by
        rw [List.mem_filterMap]
        constructor
        · rintro ⟨b, hb, he⟩
          rwa [← h a e ha, h b e he]
        · exact fun hm => ⟨a, hm, ha⟩
      simp [ha, hmem]

end FirstOccurrences

namespace Spec

/-- A spec without the aliases that are its own name or stand before already. -/
def withoutRepeats (s : Spec) : Spec :=
  { s with aliases := (s.aliases.filter (fun key => !key == s.name)).eraseDups }

theorem keys_withoutRepeats (s : Spec) : s.withoutRepeats.keys = s.keys.eraseDups := by
  rw [keys, keys, List.eraseDups_cons]
  rfl

theorem answersTo_withoutRepeats (s : Spec) (key : String) :
    s.withoutRepeats.answersTo key = s.answersTo key := by
  rw [Bool.eq_iff_iff, answersTo_iff, answersTo_iff, keys_withoutRepeats, List.mem_eraseDups]

end Spec

def Claim.withoutRepeats (c : Claim) : Claim :=
  { c with spec := c.spec.withoutRepeats }

theorem Claim.ofSpecs_withoutRepeats (specs : List Spec) :
    Claim.ofSpecs (specs.map Spec.withoutRepeats) =
      (Claim.ofSpecs specs).map Claim.withoutRepeats := by
  simp [Claim.ofSpecs, Claim.withoutRepeats, List.zipIdx_map]

namespace Registry

variable {specs : List Spec} {s : Spec}

theorem names_withoutRepeats (specs : List Spec) (name : String) :
    (ofList (specs.map Spec.withoutRepeats)).names.holder? name =
      ((ofList specs).names.holder? name).map Claim.withoutRepeats := by
  rw [names_ofList, names_ofList, Claim.ofSpecs_withoutRepeats, List.find?_map]
  rfl

theorem keys_withoutRepeats (specs : List Spec) (key : String) :
    (ofList (specs.map Spec.withoutRepeats)).keys.holder? key =
      ((ofList specs).keys.holder? key).map Claim.withoutRepeats := by
  rw [keys_ofList, keys_ofList, Claim.ofSpecs_withoutRepeats, List.find?_map]
  simp only [Function.comp_def, Claim.withoutRepeats, Spec.answersTo_withoutRepeats]

def reports (specs : List Spec) : List (List Collision) :=
  specs.zipIdx.map (fun p => (ofList (specs.take p.2)).raised p.1)

theorem reports_append (specs : List Spec) (s : Spec) :
    reports (specs ++ [s]) = reports specs ++ [(ofList specs).raised s] := by
  simp only [reports, List.zipIdx_append, List.map_append]
  congr 1
  · apply List.map_congr_left
    intro p hp
    have hlt := (List.mem_zipIdx' hp).1
    rw [List.take_append_of_le_length (by omega)]
  · simp

/-- The collisions of a registry are what each of its specs brings. -/
theorem collisions_eq_flatten_reports (specs : List Spec) :
    (ofList specs).collisions = (reports specs).flatten := by
  induction specs using List.reverseRecOn with
  | nil => rfl
  | append_singleton specs s ih =>
    rw [ofList_append, collisions_add, ih, reports_append, List.flatten_append]
    simp

def keyReport (r : Registry) (s : Spec) (key : String) : Option Collision :=
  (keyCollision r.keys key ⟨r.specs.length, s⟩).head?

theorem key_of_keyReport {r : Registry} (key : String) (e : Collision)
    (h : r.keyReport s key = some e) : e.key = key := by
  unfold keyReport keyCollision at h
  split at h
  · split at h <;> cases h
    rfl
  · cases h

theorem kind_of_keyReport {r : Registry} {key : String} {e : Collision}
    (h : r.keyReport s key = some e) : e.kind = .alias := by
  unfold keyReport keyCollision at h
  split at h
  · split at h <;> cases h
    rfl
  · cases h

theorem raised_eq (r : Registry) (s : Spec) :
    r.raised s = nameCollision r.names s ++ s.keys.filterMap (r.keyReport s) := by
  have hlist : ∀ key, keyCollision r.keys key ⟨r.specs.length, s⟩ = (r.keyReport s key).toList := by
    intro key
    unfold keyReport keyCollision
    split
    · split <;> rfl
    · rfl
  rw [raised, List.filterMap_eq_flatMap_toList]
  simp only [hlist]

theorem nameCollision_disjoint {r : Registry} {e : Collision}
    (he : e ∈ s.keys.filterMap (r.keyReport s)) : e ∉ nameCollision r.names s := by
  obtain ⟨key, _, hk⟩ := List.mem_filterMap.mp he
  intro hn
  have hname : e.kind = .name := by
    unfold nameCollision at hn
    split at hn
    · rw [List.mem_singleton.mp hn]
    · cases hn
  rw [kind_of_keyReport hk] at hname
  cases hname

theorem nodup_nameCollision (index : Index) (s : Spec) : (nameCollision index s).Nodup := by
  unfold nameCollision
  split <;> simp

theorem eraseDups_raised (r : Registry) (s : Spec) :
    (r.raised s).eraseDups =
      nameCollision r.names s ++ s.keys.eraseDups.filterMap (r.keyReport s) := by
  have hkeys : (s.keys.filterMap (r.keyReport s)).removeAll (nameCollision r.names s) =
      s.keys.filterMap (r.keyReport s) :=
    List.filter_eq_self.mpr (fun e he => by simpa using nameCollision_disjoint he)
  rw [raised_eq, List.eraseDups_append, hkeys, eraseDups_filterMap key_of_keyReport,
    eraseDups_eq_self_iff.mpr (nodup_nameCollision _ _)]

theorem nodup_raised_iff {r : Registry} :
    (r.raised s).Nodup ↔ ∀ key, List.Duplicate key s.keys → r.keyReport s key = none := by
  rw [raised_eq, List.nodup_append', nodup_filterMap_iff key_of_keyReport]
  exact ⟨fun h => h.2.1, fun h => ⟨nodup_nameCollision _ _, h,
    fun e hn he => nameCollision_disjoint he hn⟩⟩

/-- Without repeated keys a spec brings the same collisions, each once. -/
theorem raised_withoutRepeats (specs : List Spec) (s : Spec) :
    (ofList (specs.map Spec.withoutRepeats)).raised s.withoutRepeats =
      ((ofList specs).raised s).eraseDups := by
  have hname : nameCollision (ofList (specs.map Spec.withoutRepeats)).names s.withoutRepeats =
      nameCollision (ofList specs).names s := by
    have hs : s.withoutRepeats.name = s.name := rfl
    simp only [nameCollision, hs, names_withoutRepeats]
    cases (ofList specs).names.holder? s.name <;> rfl
  have hkey : (ofList (specs.map Spec.withoutRepeats)).keyReport s.withoutRepeats =
      (ofList specs).keyReport s := by
    funext key
    simp only [keyReport, keyCollision, keys_withoutRepeats, specs_ofList, List.length_map]
    cases (ofList specs).keys.holder? key <;> rfl
  rw [eraseDups_raised, raised_eq, hname, hkey, Spec.keys_withoutRepeats]

theorem reports_withoutRepeats (specs : List Spec) :
    reports (specs.map Spec.withoutRepeats) = (reports specs).map List.eraseDups := by
  induction specs using List.reverseRecOn with
  | nil => rfl
  | append_singleton specs s ih =>
    rw [List.map_append, List.map_singleton, reports_append, reports_append, ih,
      raised_withoutRepeats, List.map_append, List.map_singleton]

theorem mem_reports {specs : List Spec} {l : List Collision} :
    l ∈ reports specs ↔
      ∃ before s after, specs = before ++ s :: after ∧ l = (ofList before).raised s := by
  rw [reports, List.mem_map]
  constructor
  · rintro ⟨⟨s, i⟩, hm, rfl⟩
    obtain ⟨before, after, rfl, rfl⟩ := split_at (List.mk_mem_zipIdx_iff_getElem?.mp hm)
    exact ⟨before, s, after, rfl, by rw [List.take_left]⟩
  · rintro ⟨before, s, after, rfl, rfl⟩
    exact ⟨(s, before.length), List.mk_mem_zipIdx_iff_getElem?.mpr (by simp),
      by rw [List.take_left]⟩

/-- One of a spec's own keys is reported unless it leads to a spec of the same name. -/
theorem keyReport_eq_none_iff {before after : List Spec} {key : String} (hk : key ∈ s.keys) :
    (ofList before).keyReport s key = none ↔
      ∀ t, (ofList (before ++ s :: after)).lookup? key = some t → t.name = s.name := by
  have hs : (s :: after).find? (fun t => t.answersTo key) = some s := by
    rw [List.find?_cons, Spec.answersTo_iff.mpr hk]
  rw [lookup_ofList, List.find?_append, hs, ← lookup_ofList, lookup?, keyReport, keyCollision,
    specs_ofList]
  cases hh : (ofList before).keys.holder? key with
  | none => simp
  | some held =>
    have hlt := (List.getElem?_eq_some_iff.mp (keys_ofList_some hh).1).1
    by_cases hn : held.spec.name = s.name <;> simp [hn, Nat.ne_of_lt hlt]

/-- The keys that specs repeat lead to specs of their names. -/
def KeepRepeated (specs : List Spec) : Prop :=
  ∀ s ∈ specs, ∀ key, List.Duplicate key s.keys →
    ∀ t, (ofList specs).lookup? key = some t → t.name = s.name

/-- No spec reports anything twice just when repeated keys lead to specs of their names. -/
theorem nodup_reports_iff (specs : List Spec) :
    (∀ l ∈ reports specs, l.Nodup) ↔ KeepRepeated specs := by
  constructor
  · intro h s hs key hk
    obtain ⟨before, after, rfl⟩ := List.append_of_mem hs
    exact (keyReport_eq_none_iff hk.mem).mp
      (nodup_raised_iff.mp (h _ (mem_reports.mpr ⟨before, s, after, rfl, rfl⟩)) key hk)
  · intro h l hl
    obtain ⟨before, s, after, rfl, rfl⟩ := mem_reports.mp hl
    exact nodup_raised_iff.mpr (fun key hk =>
      (keyReport_eq_none_iff hk.mem).mpr (h s (by simp) key hk))

theorem collisions_withoutRepeats (specs : List Spec) :
    (ofList (specs.map Spec.withoutRepeats)).collisions =
      ((reports specs).map List.eraseDups).flatten := by
  rw [collisions_eq_flatten_reports, reports_withoutRepeats]

theorem collisions_withoutRepeats_eq_iff (specs : List Spec) :
    (ofList (specs.map Spec.withoutRepeats)).collisions = (ofList specs).collisions ↔
      KeepRepeated specs := by
  rw [collisions_withoutRepeats, collisions_eq_flatten_reports, flatten_eraseDups_eq_iff,
    ← nodup_reports_iff]
  simp only [eraseDups_eq_self_iff]

/-- Whether anything is reported does not depend on repetitions. -/
theorem collisions_withoutRepeats_eq_nil_iff (specs : List Spec) :
    (ofList (specs.map Spec.withoutRepeats)).collisions = [] ↔ (ofList specs).collisions = [] := by
  rw [collisions_withoutRepeats, collisions_eq_flatten_reports, List.flatten_eq_nil_iff,
    List.flatten_eq_nil_iff, List.forall_mem_map]
  exact forall₂_congr (fun l _ => eraseDups_eq_nil_iff)

end Registry

open Command Registry

theorem Command.exitCode_report_congr {s s' : Session}
    (h : s.registry.collisions = [] ↔ s'.registry.collisions = []) (warnOnly : Bool) :
    (report s warnOnly).exitCode = (report s' warnOnly).exitCode := by
  have hexit : ∀ s : Session, (report s warnOnly).exitCode =
      if s.registry.collisions = [] ∨ warnOnly = true then 0 else 1 := by
    intro s
    cases hc : s.registry.collisions <;> cases warnOnly <;> simp [report, outcome, hc]
  simp only [hexit, h]

namespace Registry

/-- Repeated keys change no lookup. What a registry reports without them is what each spec brings,
each collision once; that is all that it reported before just when every repeated key leads to a
spec of the same name. Whether a check passes does not depend on them. -/
theorem repeats_change_only_reports (specs : List Spec) :
    (∀ name, (ofList (specs.map Spec.withoutRepeats)).get? name =
      ((ofList specs).get? name).map Spec.withoutRepeats) ∧
    (∀ key, (ofList (specs.map Spec.withoutRepeats)).lookup? key =
      ((ofList specs).lookup? key).map Spec.withoutRepeats) ∧
    (ofList specs).collisions = (reports specs).flatten ∧
    (ofList (specs.map Spec.withoutRepeats)).collisions =
      ((reports specs).map List.eraseDups).flatten ∧
    ((ofList (specs.map Spec.withoutRepeats)).collisions = (ofList specs).collisions ↔
      KeepRepeated specs) ∧
    (∀ (config : Config) (warnOnly : Bool),
      (perform ⟨config, ofList (specs.map Spec.withoutRepeats)⟩ (.check warnOnly)).exitCode =
        (perform ⟨config, ofList specs⟩ (.check warnOnly)).exitCode) ∧
    (KeepRepeated specs → ∀ (config : Config) (warnOnly : Bool),
      perform ⟨config, ofList (specs.map Spec.withoutRepeats)⟩ (.check warnOnly) =
        perform ⟨config, ofList specs⟩ (.check warnOnly)) := by
  refine ⟨fun name => ?_, fun key => ?_, collisions_eq_flatten_reports specs,
    collisions_withoutRepeats specs, collisions_withoutRepeats_eq_iff specs, ?_, ?_⟩
  · rw [get?, get?, names_withoutRepeats, Option.map_map, Option.map_map]
    rfl
  · rw [lookup?, lookup?, keys_withoutRepeats, Option.map_map, Option.map_map]
    rfl
  · intro config warnOnly
    exact exitCode_report_congr (collisions_withoutRepeats_eq_nil_iff specs) warnOnly
  · intro h config warnOnly
    have hc := (collisions_withoutRepeats_eq_iff specs).mpr h
    simp only [perform, report, hc, size, specs_ofList, List.length_map]

def tabSet : List Spec :=
  [(Spec.named "tab-set").withAliases ["tabs", "tab-set", "tabs"], Spec.named "card"]

theorem keepRepeated_tabSet : KeepRepeated tabSet :=
  (collisions_withoutRepeats_eq_iff tabSet).mp (by decide)

theorem repeats_change_only_reports_tabSet :
    KeepRepeated tabSet ∧
    perform ⟨.default, ofList [(Spec.named "tab-set").withAliases ["tabs"], Spec.named "card"]⟩
        (.check false) =
      perform ⟨.default, ofList tabSet⟩ (.check false) :=
  ⟨keepRepeated_tabSet,
    (repeats_change_only_reports tabSet).2.2.2.2.2.2 keepRepeated_tabSet .default false⟩

/-- A spec that repeats an alias of an earlier spec is reported for it twice. -/
theorem repeated_alias_reported_twice :
    ¬ ∀ specs : List Spec, (ofList (specs.map Spec.withoutRepeats)).collisions =
      (ofList specs).collisions := by
  intro h
  have he := h [(Spec.named "admonition").withAliases ["note"],
    (Spec.named "callout").withAliases ["note", "note"]]
  revert he
  decide

end Registry
end DirectiveDocs
