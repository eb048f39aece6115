import DirectiveDocs.Proofs.Loading
import DirectiveDocs.Proofs.PathOrder
import DirectiveDocs.Spec.Sources

namespace DirectiveDocs

namespace Spec

/-- The specs of a file that can be read, each of them with a name. -/
def FileGives (readText : String → Except FileError String) (path : String) (specs : List Spec) :
    Prop :=
  ∃ text, readText path = .ok text ∧ Describes text specs ∧ AllNamed specs

/-- A file is loaded just when it gives specs. -/
theorem loadFrom_eq_ok_iff {readText : String → Except FileError String} {path : String}
    {specs : List Spec} : loadFrom readText path = .ok specs ↔ FileGives readText path specs := by
  simp only [loadFrom, FileGives, bind_eq_ok, mapError_eq_ok, load_eq_ok_iff_describes]

end Spec

namespace Registry

variable {list list' : Glob.Lister} {entry path : String} {entries paths paths' : List String}
  {c : Config} {r : Registry} {i : Nat}

/-- An entry whose files are known: a pattern must be valid and its places can all be listed. -/
def Listed (list : Glob.Lister) (entry : String) : Prop :=
  Glob.isPattern entry = true → ∃ found : List String, list entry = .ok (found.map .ok)

/-- A plain path stands for itself, a pattern for all that it leads to. -/
inductive StandsFor (list : Glob.Lister) (entry : String) : String → Prop
  | plain (h : Glob.isPattern entry = false) : StandsFor list entry entry
  | pattern {found : List (Except FileError String)} {path : String}
      (h : Glob.isPattern entry = true) (hl : list entry = .ok found) (hm : .ok path ∈ found) :
      StandsFor list entry path

inductive EntryFiles (list : Glob.Lister) (entry : String) : List String → Prop
  | plain (h : Glob.isPattern entry = false) : EntryFiles list entry [entry]
  | pattern {found paths : List String} (h : Glob.isPattern entry = true)
      (hl : list entry = .ok (found.map .ok)) (hp : paths.Perm found) (hs : Path.Sorted paths) :
      EntryFiles list entry paths

/-- Two listings of an entry give the same paths, in any order. No two of them are one place. -/
def Relists (list list' : Glob.Lister) (entry : String) : Prop :=
  Glob.isPattern entry = true → ∃ found found' : List String,
    list entry = .ok (found.map .ok) ∧ list' entry = .ok (found'.map .ok) ∧
      found.Perm found' ∧ ∀ p ∈ found, ∀ q ∈ found, Path.ranks p = Path.ranks q → p = q

theorem entryFiles_of_plain (h : Glob.isPattern entry = false) :
    entryFiles list entry = .ok [entry] := by
  simp [entryFiles, h]

theorem entryFiles_of_listed {found : List String} (h : Glob.isPattern entry = true)
    (hl : list entry = .ok (found.map .ok)) :
    entryFiles list entry = .ok (found.mergeSort Path.le) := by
  have hm : (found.map .ok : List (Except FileError String)).mapM id = .ok found :=
    mapM_id_eq_ok_iff.mpr rfl
  simp [entryFiles, h, hl, hm, Except.mapError, bind, Except.bind]

theorem entryFiles_eq_ok (h : entryFiles list entry = .ok paths) : EntryFiles list entry paths := by
  cases hp : Glob.isPattern entry with
  | false =>
    rw [entryFiles_of_plain hp] at h
    cases h
    exact .plain hp
  | true =>
    simp only [entryFiles, hp, if_true] at h
    obtain ⟨attempts, ha, hfound⟩ := bind_eq_ok.mp h
    obtain ⟨found, hf, hsorted⟩ := bind_eq_ok.mp hfound
    obtain rfl := mapM_id_eq_ok_iff.mp (mapError_eq_ok.mp hf)
    cases hsorted
    exact .pattern hp (mapError_eq_ok.mp ha) (List.mergeSort_perm found _)
      (Path.sorted_mergeSort found)

theorem not_listed_of_error {e : SourceError} (h : entryFiles list entry = .error e) :
    ¬ Listed list entry := by
  intro hl
  cases hp : Glob.isPattern entry with
  | false =>
    rw [entryFiles_of_plain hp] at h
    cases h
  | true =>
    obtain ⟨found, hf⟩ := hl hp
    rw [entryFiles_of_listed hp hf] at h
    cases h

/-- The files of an entry are all that it stands for. -/
theorem EntryFiles.mem_iff (h : EntryFiles list entry paths) :
    path ∈ paths ↔ StandsFor list entry path := by
  cases h with
  | plain hp =>
    rw [List.mem_singleton]
    constructor
    · rintro rfl
      exact .plain hp
    · rintro (_ | ⟨hp', _, _⟩)
      · rfl
      · simp [hp] at hp'
  | pattern hp hl hperm _ =>
    rw [hperm.mem_iff]
    constructor
    · exact fun hm => .pattern hp hl (List.mem_map_of_mem hm)
    · rintro (hp' | ⟨_, hl', hm⟩)
      · simp [hp] at hp'
      · rw [hl] at hl'
        cases hl'
        simpa using hm

theorem EntryFiles.listed (h : EntryFiles list entry paths) : Listed list entry := by
  intro hp
  cases h with
  | plain hp' =>
    simp [hp] at hp'
  | pattern _ hl _ _ => exact ⟨_, hl⟩

/-- The files of an entry are determined when no two of them are one place. -/
theorem EntryFiles.unique (h : EntryFiles list entry paths) (h' : EntryFiles list entry paths')
    (hd : ∀ p ∈ paths, ∀ q ∈ paths, Path.ranks p = Path.ranks q → p = q) : paths = paths' := by
  cases h with
  | plain hp =>
    cases h' with
    | plain _ => rfl
    | pattern hp' _ _ _ =>
      simp [hp] at hp'
  | pattern hp hl hperm hs =>
    cases h' with
    | plain hp' =>
      simp [hp] at hp'
    | pattern _ hl' hperm' hs' =>
      have hfound := mapM_id_eq_ok_iff.mpr (Except.ok.inj (hl.symm.trans hl'))
      rw [mapM_id_eq_ok_iff.mpr rfl] at hfound
      cases hfound
      exact hs.eq_of_perm hs' (hperm.trans hperm'.symm) hd

theorem entryFiles_relists (h : Relists list list' entry) :
    entryFiles list entry = entryFiles list' entry := by
  cases hp : Glob.isPattern entry with
  | false => rw [entryFiles_of_plain hp, entryFiles_of_plain hp]
  | true =>
    obtain ⟨found, found', hl, hl', hperm, hd⟩ := h hp
    rw [entryFiles_of_listed hp hl, entryFiles_of_listed hp hl']
    have hsorts : (found.mergeSort Path.le).Perm (found'.mergeSort Path.le) :=
      ((List.mergeSort_perm found _).trans hperm).trans (List.mergeSort_perm found' _).symm
    congr 1
    refine (Path.sorted_mergeSort found).eq_of_perm (Path.sorted_mergeSort found') hsorts ?_
    intro p hm q hm'
    exact hd p (List.mem_mergeSort.mp hm) q (List.mem_mergeSort.mp hm')

/-- The files of all entries, one block for each entry. -/
theorem files_eq_ok (h : files list entries = .ok paths) :
    ∃ blocks, List.Forall₂ (EntryFiles list) entries blocks ∧ paths = blocks.flatten := by
  obtain ⟨blocks, hb, h⟩ := bind_eq_ok.mp h
  cases h
  exact ⟨blocks, (mapM_eq_ok_iff.mp hb).imp fun _ _ => entryFiles_eq_ok, rfl⟩

theorem files_eq_error {e : SourceError} (h : files list entries = .error e) :
    ∃ entry ∈ entries, entryFiles list entry = .error e := by
  rcases bind_eq_error.mp h with hm | ⟨_, _, h⟩
  · exact mapM_eq_error hm
  · cases h

theorem mem_blocks_iff {blocks : List (List String)}
    (h : List.Forall₂ (EntryFiles list) entries blocks) :
    path ∈ blocks.flatten ↔ ∃ entry ∈ entries, StandsFor list entry path := by
  induction h with
  | nil => simp
  | cons he _ ih => simp [he.mem_iff, ih]

theorem listed_of_blocks {blocks : List (List String)}
    (h : List.Forall₂ (EntryFiles list) entries blocks) : ∀ entry ∈ entries, Listed list entry := by
  induction h with
  | nil => simp
  | cons he _ ih => simpa using ⟨he.listed, ih⟩

/-- Entries that are all listed have files. -/
theorem exists_files (h : ∀ entry ∈ entries, Listed list entry) :
    ∃ paths, files list entries = .ok paths := by
  cases hf : files list entries with
  | ok paths => exact ⟨paths, rfl⟩
  | error e =>
    obtain ⟨entry, hm, he⟩ := files_eq_error hf
    exact absurd (h entry hm) (not_listed_of_error he)

theorem files_relists (h : ∀ entry ∈ entries, Relists list list' entry) :
    files list entries = files list' entries := by
  have hm : entries.mapM (entryFiles list) = entries.mapM (entryFiles list') := by
    induction entries with
    | nil => rfl
    | cons entry entries ih =>
      rw [List.mapM_cons, List.mapM_cons, entryFiles_relists (h entry List.mem_cons_self),
        ih fun e he => h e (List.mem_cons_of_mem entry he)]
  rw [files, files, hm]

/-- Entries after others add their files after those of the others. -/
theorem files_append_eq_ok_iff {entries' : List String} :
    files list (entries ++ entries') = .ok paths ↔
      ∃ before after, files list entries = .ok before ∧ files list entries' = .ok after ∧
        paths = before ++ after := by
  simp only [files, bind_eq_ok, mapM_append_eq_ok_iff, Except.ok.injEq]
  constructor
  · rintro ⟨_, ⟨bs, bs', hb, hb', rfl⟩, rfl⟩
    exact ⟨_, _, ⟨bs, hb, rfl⟩, ⟨bs', hb', rfl⟩, List.flatten_append⟩
  · rintro ⟨_, _, ⟨bs, hb, rfl⟩, ⟨bs', hb', rfl⟩, rfl⟩
    exact ⟨_, ⟨bs, bs', hb, hb', rfl⟩, List.flatten_append⟩

theorem files_singleton : files list [entry] = entryFiles list entry := by
  unfold files
  rw [List.mapM_cons, List.mapM_nil]
  cases entryFiles list entry <;> simp [bind, Except.bind, pure, Except.pure]

/-- The files of an entry stand between those of the entries before and after it. -/
theorem files_split (hi : entries[i]? = some entry) (h : files list entries = .ok paths) :
    ∃ before here after, files list (entries.take i) = .ok before ∧
      entryFiles list entry = .ok here ∧ files list (entries.drop (i + 1)) = .ok after ∧
      paths = before ++ here ++ after := by
  obtain ⟨hlt, rfl⟩ := List.getElem?_eq_some_iff.mp hi
  rw [← List.take_append_drop i entries, List.drop_eq_getElem_cons hlt,
    ← List.singleton_append, files_append_eq_ok_iff] at h
  obtain ⟨before, rest, hb, hrest, rfl⟩ := h
  obtain ⟨here, after, hh, ha, rfl⟩ := files_append_eq_ok_iff.mp hrest
  rw [files_singleton] at hh
  exact ⟨before, here, after, hb, hh, ha, (List.append_assoc ..).symm⟩

/-- Assembling succeeds when the files are known and reading them gives their specs. -/
theorem assemble_eq_ok_iff {readAll : List String → Except SpecFileError (List (List Spec))} :
    assemble list readAll c = .ok r ↔
      ∃ paths loaded, files list c.specFiles = .ok paths ∧ readAll paths = .ok loaded ∧
        r = ofList ((if c.builtins then Spec.builtins else []) ++ loaded.flatten) := by
  simp only [assemble, bind_eq_ok, mapError_eq_ok, Except.ok.injEq, eq_comm (a := r)]
  constructor
  · rintro ⟨paths, hp, loaded, hl, hr⟩
    exact ⟨paths, loaded, hp, hl, hr⟩
  · rintro ⟨paths, loaded, hp, hl, hr⟩
    exact ⟨paths, hp, loaded, hl, hr⟩

end Registry
end DirectiveDocs
