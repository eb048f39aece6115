import DirectiveDocs.Proofs.Configuration

namespace DirectiveDocs

theorem findIdx?_eq_some_iff {α : Type} {xs : List α} {p : α → Bool} {i : Nat} :
    xs.findIdx? p = some i ↔
      ∃ x, xs[i]? = some x ∧ p x = true ∧ ∀ j < i, ∀ y, xs[j]? = some y → p y = false := by
  rw [List.findIdx?_eq_some_iff_getElem]
  constructor
  · rintro ⟨hi, hp, hfirst⟩
    refine ⟨xs[i], List.getElem?_eq_getElem hi, hp, fun j hj y hy => ?_⟩
    obtain ⟨_, rfl⟩ := List.getElem?_eq_some_iff.mp hy
    simpa using hfirst j hj
  · rintro ⟨x, hx, hp, hfirst⟩
    obtain ⟨hi, rfl⟩ := List.getElem?_eq_some_iff.mp hx
    refine ⟨hi, hp, fun j hj => ?_⟩
    simp [hfirst j hj _ (List.getElem?_eq_getElem (Nat.lt_trans hj hi))]

namespace ConfigFile

open Toml (Value Entries)

/-- The value of a field in a table, or at its position in an array. -/
def part? (position : Nat) (field : String) : Value → Option Value
  | .table _ es => Entries.get? es field
  | v => (items? v).bind (fun vs => vs[position]?)

/-- What a document says for a field of a table that it may leave out, as does the table. -/
def said? (es : Entries) (table : String) (position : Nat) (field : String) : Option Value :=
  (es.get? table).bind (part? position field)

def saidPretty? (es : Entries) : Option Bool :=
  (said? es "output" 0 "pretty").bind (fun v => (bool v).toOption)

def saidBuiltins? (es : Entries) : Option Bool :=
  (said? es "registry" 0 "builtins").bind (fun v => (bool v).toOption)

def saidSpecFiles (es : Entries) : List String :=
  ((said? es "registry" 1 "spec_files").bind (fun v => (stringList v).toOption)).getD []

theorem fields_eq_ok {expected : String} {names : List String} {v : Value}
    {parts : List (Option Value)} (h : fields expected names v = .ok parts) :
    parts = names.mapIdx (fun i field => part? i field v) := by
  cases v with
  | string | number | bool => cases h
  | array | tables | table | moment =>
    cases h
    apply List.ext_getElem <;> simp [part?, items?]

theorem optional_eq_ok {α : Type} {read : Value → Except ConfigMisfit α} {o : Option Value}
    {r : Option α} (h : optional read o = .ok r) : r = o.bind (fun v => (read v).toOption) := by
  cases o with
  | none =>
    cases h
    rfl
  | some v =>
    obtain ⟨a, ha, rfl⟩ := map_eq_ok.mp h
    simp [ha, Except.toOption]

theorem output_eq_ok {v : Value} {b : Bool} (h : output v = .ok b) :
    b = ((part? 0 "pretty" v).bind (fun v => (bool v).toOption)).getD true := by
  obtain ⟨parts, hp, h⟩ := bind_eq_ok.mp h
  obtain rfl := fields_eq_ok hp
  obtain ⟨pretty, hb, h⟩ := bind_eq_ok.mp h
  cases h
  rw [optional_eq_ok hb]
  rfl

theorem registry_eq_ok {v : Value} {builtins : Option Bool} {specFiles : List String}
    (h : registry v = .ok (builtins, specFiles)) :
    builtins = (part? 0 "builtins" v).bind (fun v => (bool v).toOption) ∧
    specFiles = ((part? 1 "spec_files" v).bind (fun v => (stringList v).toOption)).getD [] := by
  obtain ⟨parts, hp, h⟩ := bind_eq_ok.mp h
  obtain rfl := fields_eq_ok hp
  obtain ⟨_, hb, h⟩ := bind_eq_ok.mp h
  obtain ⟨_, hf, h⟩ := bind_eq_ok.mp h
  cases h
  refine ⟨optional_eq_ok hb, ?_⟩
  rw [optional_eq_ok hf]
  rfl

/-- A file that fits the model holds what its document says, and the defaults for the rest. -/
theorem decode_eq_ok {es : Entries} {f : ConfigFile} (h : decode es = .ok f) :
    f = ⟨saidBuiltins? es, saidSpecFiles es, (saidPretty? es).getD true⟩ := by
  obtain ⟨pretty, hp, h⟩ := bind_eq_ok.mp h
  obtain ⟨sources, hs, h⟩ := bind_eq_ok.mp h
  have hpretty : pretty.getD true = (saidPretty? es).getD true := by
    rw [saidPretty?, said?]
    cases ho : es.get? "output" with
    | none =>
      rw [ho] at hp
      cases hp
      rfl
    | some v =>
      rw [ho] at hp
      obtain ⟨b, hb, rfl⟩ := map_eq_ok.mp hp
      exact output_eq_ok hb
  have hsources : sources.getD (none, []) = (saidBuiltins? es, saidSpecFiles es) := by
    rw [saidBuiltins?, saidSpecFiles, said?, said?]
    cases ho : es.get? "registry" with
    | none =>
      rw [ho] at hs
      cases hs
      rfl
    | some v =>
      rw [ho] at hs
      obtain ⟨⟨builtins, specFiles⟩, hr, rfl⟩ := map_eq_ok.mp hs
      obtain ⟨rfl, rfl⟩ := registry_eq_ok hr
      rfl
  rw [hpretty, hsources] at h
  cases h
  rfl

end ConfigFile

namespace Config

variable {w : Workspace} {path : String} {es : Toml.Entries} {s : Settings}

/-- Expansion fails for the first entry with a variable that has no value. -/
theorem expandEntries_eq_error_iff {k : Nat} {raws : List String} {e : ConfigError} :
    expandEntries w k raws = .error e ↔
      ∃ i raw name, raws[i]? = some raw ∧ Text.expand w.variableValue? raw = .error name ∧
        (∀ j < i, ∀ raw', raws[j]? = some raw' → ∃ entry, Expands w raw' entry) ∧
        e = .unsetVariable (k + i) name := by
  induction raws generalizing k with
  | nil => simp [expandEntries]
  | cons raw raws ih =>
    rw [expandEntries]
    cases he : Text.expand w.variableValue? raw with
    | error name =>
      constructor
      · rintro ⟨⟩
        exact ⟨0, raw, name, rfl, he, fun j hj => absurd hj (Nat.not_lt_zero j), rfl⟩
      · rintro ⟨i, raw', name', hi, hname, hfirst, rfl⟩
        cases i with
        | zero =>
          cases hi
          rw [he] at hname
          cases hname
          rfl
        | succ i =>
          obtain ⟨entry, hentry⟩ := hfirst 0 (Nat.succ_pos i) raw rfl
          rw [Expands, he] at hentry
          cases hentry
    | ok text =>
      simp only [bind_eq_error, ih, reduceCtorEq, and_false, exists_false, or_false]
      constructor
      · rintro ⟨i, raw', name, hi, hname, hfirst, rfl⟩
        refine ⟨i + 1, raw', name, hi, hname, fun j hj raw'' hraw => ?_,
          by rw [Nat.add_right_comm, Nat.add_assoc]⟩
        cases j with
        | zero =>
          cases hraw
          exact ⟨text, he⟩
        | succ j => exact hfirst j (Nat.lt_of_succ_lt_succ hj) raw'' hraw
      · rintro ⟨i, raw', name, hi, hname, hfirst, rfl⟩
        cases i with
        | zero =>
          cases hi
          rw [he] at hname
          cases hname
        | succ i =>
          exact ⟨i, raw', name, hi, hname,
            fun j hj raw'' hraw => hfirst (j + 1) (Nat.succ_lt_succ hj) raw'' hraw,
            by rw [Nat.add_right_comm, Nat.add_assoc]⟩

/-- The first blank entry is at fault. -/
theorem checkEntries_eq_error_iff {entries : List String} {e : ConfigError} :
    checkEntries entries = .error e ↔
      ∃ i entry, entries[i]? = some entry ∧ Text.isBlankText entry = true ∧
        (∀ j < i, ∀ entry', entries[j]? = some entry' → Text.isBlankText entry' = false) ∧
        e = .blankEntry i := by
  have hfirst : checkEntries entries = .error e ↔
      ∃ i, entries.findIdx? Text.isBlankText = some i ∧ e = .blankEntry i := by
    unfold checkEntries
    cases entries.findIdx? Text.isBlankText <;> simp [eq_comm]
  rw [hfirst]
  constructor
  · rintro ⟨i, hi, rfl⟩
    obtain ⟨entry, hat, hblank, hbefore⟩ := findIdx?_eq_some_iff.mp hi
    exact ⟨i, entry, hat, hblank, hbefore, rfl⟩
  · rintro ⟨i, entry, hat, hblank, hbefore, rfl⟩
    exact ⟨i, findIdx?_eq_some_iff.mpr ⟨entry, hat, hblank, hbefore⟩, rfl⟩

/-- The configuration of a file's entries and settings: the settings first, then what the document
says, then the defaults. The file's entries are seen from its directory, an absolute one stays
itself, and those of the settings come after them. -/
def merged (path : String) (es : Toml.Entries) (s : Settings) (entries : List String) : Config where
  builtins := (s.builtins.or (ConfigFile.saidBuiltins? es)).getD true
  specFiles := entries.map (fun entry =>
    if Path.isAbsolute entry then entry else Path.join (Path.parent path) entry) ++ s.specFiles
  pretty := (s.pretty.or (ConfigFile.saidPretty? es)).getD true
  path := some path

/-- What loading a file gives. Variables without a value come before blank entries, both by the
first entry at fault, and only then is it asked whether there are specs at all. -/
inductive Outcome (w : Workspace) (path : String) (es : Toml.Entries) (s : Settings) :
    Except ConfigError Config → Prop
  | unset {i : Nat} {raw name : String}
      (hi : (ConfigFile.saidSpecFiles es)[i]? = some raw)
      (hname : Text.expand w.variableValue? raw = .error name)
      (hfirst : ∀ j < i, ∀ raw', (ConfigFile.saidSpecFiles es)[j]? = some raw' →
        ∃ entry, Expands w raw' entry) :
      Outcome w path es s (.error (.unsetVariable i name))
  | blank {entries : List String} {i : Nat} {entry : String}
      (hentries : List.Forall₂ (Expands w) (ConfigFile.saidSpecFiles es) entries)
      (hi : entries[i]? = some entry) (hblank : Text.isBlankText entry = true)
      (hfirst : ∀ j < i, ∀ entry', entries[j]? = some entry' → Text.isBlankText entry' = false) :
      Outcome w path es s (.error (.blankEntry i))
  | sourceless {entries : List String}
      (hentries : List.Forall₂ (Expands w) (ConfigFile.saidSpecFiles es) entries)
      (hnamed : ∀ entry ∈ entries, Text.isBlankText entry = false)
      (hbuiltins : (merged path es s entries).builtins = false)
      (hfiles : (merged path es s entries).specFiles = []) :
      Outcome w path es s (.error .noSource)
  | loaded {entries : List String}
      (hentries : List.Forall₂ (Expands w) (ConfigFile.saidSpecFiles es) entries)
      (hnamed : ∀ entry ∈ entries, Text.isBlankText entry = false)
      (hsource : (merged path es s entries).builtins = true ∨
        (merged path es s entries).specFiles ≠ []) :
      Outcome w path es s (.ok (merged path es s entries))

theorem join_eq (directory entry : String) :
    Path.join directory entry =
      if Path.isAbsolute entry then entry else Path.join directory entry := by
  split
  · rename_i h
    simp [Path.join, h]
  · rfl

/-- Settings over a file's configuration give the merged one. -/
theorem apply_eq_merged {f : ConfigFile} (hf : ConfigFile.decode es = .ok f)
    (entries : List String) :
    Config.apply s ⟨f.builtins.getD true, entries.map (Path.join (Path.parent path)), f.pretty,
      some path⟩ = merged path es s entries := by
  have hfiles : entries.map (Path.join (Path.parent path)) = entries.map (fun entry =>
      if Path.isAbsolute entry then entry else Path.join (Path.parent path) entry) :=
    List.map_congr_left (fun entry _ => join_eq _ entry)
  obtain rfl := ConfigFile.decode_eq_ok hf
  rw [apply, merged, hfiles]
  cases s.builtins <;> cases s.pretty <;> rfl

theorem hasSource_eq_true_iff {c : Config} :
    c.hasSource = true ↔ c.builtins = true ∨ c.specFiles ≠ [] := by
  simp [hasSource]

theorem load_of_base_error {path? : Option String} {e : ConfigError} (h : base w path? = .error e) :
    load w path? s = .error e := by
  simp [load, h, bind, Except.bind]

theorem load_of_base_ok {path? : Option String} {c : Config} (h : base w path? = .ok c) :
    load w path? s = if (c.apply s).hasSource then .ok (c.apply s) else .error .noSource := by
  simp only [load, h, bind, Except.bind]

/-- Every file that fits the model has an outcome. -/
theorem Outcome.exists (w : Workspace) (path : String) (es : Toml.Entries) (s : Settings) :
    ∃ result, Outcome w path es s result := by
  cases hx : expandEntries w 0 (ConfigFile.saidSpecFiles es) with
  | error e =>
    obtain ⟨i, raw, name, hi, hname, hfirst, rfl⟩ := expandEntries_eq_error_iff.mp hx
    exact ⟨_, .unset hi hname hfirst⟩
  | ok entries =>
    have hentries := expandEntries_eq_ok_iff.mp hx
    cases hc : checkEntries entries with
    | error e =>
      obtain ⟨i, entry, hi, hblank, hfirst, rfl⟩ := checkEntries_eq_error_iff.mp hc
      exact ⟨_, .blank hentries hi hblank hfirst⟩
    | ok =>
      have hnamed := checkEntries_eq_ok_iff.mp hc
      by_cases hs : (merged path es s entries).hasSource = true
      · exact ⟨_, .loaded hentries hnamed (hasSource_eq_true_iff.mp hs)⟩
      · obtain ⟨hbuiltins, hfiles⟩ := not_or.mp (hasSource_eq_true_iff.not.mp hs)
        exact ⟨_, .sourceless hentries hnamed (Bool.not_eq_true _ ▸ hbuiltins)
          (Classical.not_not.mp hfiles)⟩

/-- Whatever outcome the entries have is what loading gives. -/
theorem Outcome.load_eq {text : String} {f : ConfigFile} (ht : w.readText path = .ok text)
    (hp : Toml.parse? text = some es) (hf : ConfigFile.decode es = .ok f)
    {result : Except ConfigError Config} (h : Outcome w path es s result) :
    load w (some path) s = result := by
  have hbase : base w (some path) = ofFile w path f :=
    Holds.base_eq ⟨rfl, text, es, ht, hp, hf⟩
  have hraws : f.specFiles = ConfigFile.saidSpecFiles es := by
    rw [ConfigFile.decode_eq_ok hf]
  have hfails : ∀ e, expandEntries w 0 (ConfigFile.saidSpecFiles es) = .error e ∨
      (∃ entries, expandEntries w 0 (ConfigFile.saidSpecFiles es) = .ok entries ∧
        checkEntries entries = .error e) → load w (some path) s = .error e := by
    intro e he
    refine load_of_base_error (hbase.trans ?_)
    rw [ofFile, hraws, bind_eq_error]
    rcases he with he | ⟨entries, hx, hc⟩
    · exact .inl he
    · exact .inr ⟨entries, hx, bind_eq_error.mpr (.inl hc)⟩
  have hmerges : ∀ entries, List.Forall₂ (Expands w) (ConfigFile.saidSpecFiles es) entries →
      (∀ entry ∈ entries, Text.isBlankText entry = false) →
      load w (some path) s = if (merged path es s entries).hasSource
        then .ok (merged path es s entries) else .error .noSource := by
    intro entries hentries hnamed
    rw [← apply_eq_merged hf]
    exact load_of_base_ok
      (hbase.trans (ofFile_eq_ok_iff.mpr ⟨entries, hraws ▸ hentries, hnamed, rfl⟩))
  cases h with
  | unset hi hname hfirst =>
    refine hfails _ (.inl (expandEntries_eq_error_iff.mpr ⟨_, _, _, hi, hname, hfirst, ?_⟩))
    rw [Nat.zero_add]
  | blank hentries hi hblank hfirst =>
    exact hfails _ (.inr ⟨_, expandEntries_eq_ok_iff.mpr hentries,
      checkEntries_eq_error_iff.mpr ⟨_, _, hi, hblank, hfirst, rfl⟩⟩)
  | sourceless hentries hnamed hbuiltins hfiles =>
    rw [hmerges _ hentries hnamed, if_neg]
    rw [hasSource_eq_true_iff, hbuiltins, hfiles]
    simp
  | loaded hentries hnamed hsource =>
    rw [hmerges _ hentries hnamed, if_pos (hasSource_eq_true_iff.mpr hsource)]

def listing (first : String) (environment : List (String × String)) : Workspace :=
  let settings := "[registry]\nspec_files = [\"" ++ first ++ "\", \"$\x7bA\x7d\"]\n"
  ⟨.directory [("conf", .directory [("mystdoc.toml", .file settings.toUTF8)])], [], environment⟩

end Config
end DirectiveDocs
