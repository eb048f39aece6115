import DirectiveDocs.Config.Basic
import DirectiveDocs.Proofs.Attempts

namespace DirectiveDocs

theorem Workspace.exists_of_readText {w : Workspace} {path text : String}
    (h : w.readText path = .ok text) : w.exists? path = true := by
  obtain ⟨t, ht, _⟩ := bind_eq_ok.mp h
  simp [exists?, ht]

namespace Config

variable {w : Workspace} {path : String} {path? : Option String} {f : ConfigFile} {c : Config}
  {s : Settings}

/-- An entry whose variables all have values. -/
def Expands (w : Workspace) (raw entry : String) : Prop :=
  Text.expand w.variableValue? raw = .ok entry

theorem expandEntries_eq_ok_iff {i : Nat} {raws entries : List String} :
    expandEntries w i raws = .ok entries ↔ List.Forall₂ (Expands w) raws entries := by
  induction raws generalizing i entries with
  | nil => simp [expandEntries, eq_comm]
  | cons raw raws ih =>
    rw [List.forall₂_cons_left_iff, expandEntries]
    cases he : Text.expand w.variableValue? raw with
    | error name => simp [Expands, he]
    | ok text =>
      simp only [bind_eq_ok, ih, Expands, he, Except.ok.injEq]
      constructor
      · rintro ⟨rest, hr, rfl⟩
        exact ⟨text, rest, rfl, hr, rfl⟩
      · rintro ⟨_, rest, rfl, hr, rfl⟩
        exact ⟨rest, hr, rfl⟩

theorem checkEntries_eq_ok_iff {entries : List String} :
    checkEntries entries = .ok () ↔ ∀ entry ∈ entries, Text.isBlankText entry = false := by
  rw [checkEntries, ← List.findIdx?_eq_none_iff]
  cases entries.findIdx? Text.isBlankText <;> simp

/-- A file gives a configuration when all variables of its entries have values and no entry is
blank. -/
theorem ofFile_eq_ok_iff :
    ofFile w path f = .ok c ↔
      ∃ entries, List.Forall₂ (Expands w) f.specFiles entries ∧
        (∀ entry ∈ entries, Text.isBlankText entry = false) ∧
        c = ⟨f.builtins.getD true, entries.map (Path.join (Path.parent path)), f.pretty,
          some path⟩ := by
  simp only [ofFile, bind_eq_ok, expandEntries_eq_ok_iff, Except.ok.injEq, eq_comm (a := c)]
  constructor
  · rintro ⟨entries, he, ⟨⟩, hc, rfl⟩
    exact ⟨entries, he, checkEntries_eq_ok_iff.mp hc, rfl⟩
  · rintro ⟨entries, he, hn, rfl⟩
    exact ⟨entries, he, (), checkEntries_eq_ok_iff.mpr hn, rfl⟩

/-- The file at a path is the one that is asked for, or else the one that is found, and it holds a
configuration. -/
structure Holds (w : Workspace) (path? : Option String) (path : String) (f : ConfigFile) : Prop where
  chosen : path?.or (discover w) = some path
  decoded : ∃ text es, w.readText path = .ok text ∧ Toml.parse? text = some es ∧
    ConfigFile.decode es = .ok f

theorem Holds.of_toOption (hc : path?.or (discover w) = some path)
    (hd : ((w.readText path).toOption.bind Toml.parse?).bind
      (fun es => (ConfigFile.decode es).toOption) = some f) : Holds w path? path f := by
  obtain ⟨es, hes, hf⟩ := Option.bind_eq_some_iff.mp hd
  obtain ⟨text, ht, hp⟩ := Option.bind_eq_some_iff.mp hes
  exact ⟨hc, text, es, toOption_eq_some_iff.mp ht, hp, toOption_eq_some_iff.mp hf⟩

theorem Holds.read_eq (h : Holds w path? path f) : read w path = ofFile w path f := by
  obtain ⟨text, es, ht, hp, hf⟩ := h.decoded
  simp [read, ht, hp, hf, Except.mapError, bind, Except.bind]

theorem Holds.base_eq (h : Holds w path? path f) : base w path? = ofFile w path f := by
  obtain ⟨text, _, ht, _⟩ := h.decoded
  rw [← h.read_eq]
  have hc := h.chosen
  cases path? with
  | some p =>
    obtain rfl : p = path := by simpa using hc
    simp [base, Workspace.exists_of_readText ht]
  | none =>
    rw [Option.none_or] at hc
    simp [base, hc]

/-- A configuration is loaded when there is a base for it and specs are left in the end. -/
theorem load_eq_ok_iff :
    load w path? s = .ok c ↔
      ∃ b, base w path? = .ok b ∧ (b.apply s).hasSource = true ∧ c = b.apply s := by
  simp only [load, bind_eq_ok]
  constructor
  · rintro ⟨b, hb, h⟩
    split at h
    · cases h
      exact ⟨b, hb, ‹_›, rfl⟩
    · cases h
  · rintro ⟨b, hb, hs, rfl⟩
    exact ⟨b, hb, by simp [hs]⟩

/-- The entries of the file come first, seen from its directory, and then those of the settings. -/
theorem Holds.specFiles_eq (h : Holds w path? path f) (hl : load w path? s = .ok c) :
    ∃ entries, List.Forall₂ (Expands w) f.specFiles entries ∧
      c.specFiles = entries.map (Path.join (Path.parent path)) ++ s.specFiles := by
  obtain ⟨b, hb, _, rfl⟩ := load_eq_ok_iff.mp hl
  rw [h.base_eq] at hb
  obtain ⟨entries, he, _, rfl⟩ := ofFile_eq_ok_iff.mp hb
  exact ⟨entries, he, rfl⟩

/-- An entry of a file keeps its position and is seen from the file's directory. -/
theorem Holds.specFiles_at (h : Holds w path? path f) (hl : load w path? s = .ok c) {i : Nat}
    {raw entry : String} (hi : f.specFiles[i]? = some raw) (he : Expands w raw entry) :
    c.specFiles[i]? = some (Path.join (Path.parent path) entry) := by
  obtain ⟨entries, hall, hs⟩ := h.specFiles_eq hl
  obtain ⟨expanded, hx, hraw⟩ := exists_getElem?_of_forall₂ hall hi
  obtain rfl : entry = expanded := Except.ok.inj (he.symm.trans hraw)
  have hlt : i < (entries.map (Path.join (Path.parent path))).length := by
    rw [List.length_map]
    exact (List.getElem?_eq_some_iff.mp hx).1
  rw [hs, List.getElem?_append_left hlt, List.getElem?_map, hx, Option.map_some]

end Config
end DirectiveDocs
