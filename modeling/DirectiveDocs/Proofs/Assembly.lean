import DirectiveDocs.Proofs.Completion
import DirectiveDocs.Proofs.Lookup
import DirectiveDocs.Proofs.SpecFiles

namespace DirectiveDocs

/-- For a batch of any size, an order in which its tasks finish, each of them once. -/
structure Schedule where
  order : Nat → List Nat
  each_once : ∀ n, (order n).Perm (List.range n)

def Schedule.inOrder : Schedule := ⟨List.range, fun _ => .refl _⟩

theorem Schedule.mem_order (schedule : Schedule) {i n : Nat} (h : i < n) : i ∈ schedule.order n :=
  (schedule.each_once n).mem_iff.mpr (List.mem_range.mpr h)

namespace Registry

variable {list : Glob.Lister} {readText : String → Except FileError String} {entry : String}
  {entries paths : List String} {c : Config} {r : Registry}

/-- What a failure to assemble a registry says: an entry is no pattern, a place on the way cannot be
listed, or a file of an entry gives no specs. Files are read when all entries are listed. -/
inductive Blames (list : Glob.Lister) (readText : String → Except FileError String)
    (entries : List String) : SourceError → Prop
  | pattern {entry : String} {e : Glob.PatternError} (hm : entry ∈ entries)
      (h : Glob.isPattern entry = true) (hl : list entry = .error e) :
      Blames list readText entries (.pattern e)
  | unlisted {entry : String} {found : List (Except FileError String)} {e : FileError}
      (hm : entry ∈ entries) (h : Glob.isPattern entry = true) (hl : list entry = .ok found)
      (he : .error e ∈ found) : Blames list readText entries (.unlisted e)
  | file {entry path : String} {e : SpecFileError} (hl : ∀ entry ∈ entries, Listed list entry)
      (hm : entry ∈ entries) (hp : StandsFor list entry path)
      (he : Spec.loadFrom readText path = .error e) : Blames list readText entries (.file e)

/-- Assembles a registry from files that are read together and arrive as the schedule says. -/
def loadOn (list : Glob.Lister) (readText : String → Except FileError String)
    (schedule : Schedule) (c : Config) : Except SourceError Registry :=
  assemble list
    (fun paths => Completion.run (Spec.loadFrom readText) (schedule.order paths.length) paths) c

/-- A registry is loaded as if its files arrived in the order in which they are listed. -/
theorem load_eq_loadOn (w : Workspace) (c : Config) :
    load w c = loadOn (Glob.list w) w.readText .inOrder c := by
  unfold load loadOn
  congr 1
  funext paths
  exact (Completion.run_range (Spec.loadFrom w.readText) paths).symm

/-- An entry whose files cannot be listed can be blamed. -/
theorem blames_of_entry {e : SourceError} (hm : entry ∈ entries)
    (h : entryFiles list entry = .error e) : Blames list readText entries e := by
  cases hp : Glob.isPattern entry with
  | false =>
    rw [entryFiles_of_plain hp] at h
    cases h
  | true =>
    simp only [entryFiles, hp, if_true] at h
    rcases bind_eq_error.mp h with ha | ⟨attempts, ha, hfound⟩
    · obtain ⟨reason, hr, rfl⟩ := mapError_eq_error.mp ha
      exact .pattern hm hp hr
    · rcases bind_eq_error.mp hfound with hf | ⟨_, _, hsorted⟩
      · obtain ⟨reason, hr, rfl⟩ := mapError_eq_error.mp hf
        obtain ⟨attempt, hmem, he⟩ := mapM_eq_error hr
        exact .unlisted hm hp (mapError_eq_ok.mp ha) (he ▸ hmem)
      · cases hsorted

/-- A registry is there just when all files are listed and all of them give specs. -/
theorem loadOn_eq_ok_iff {schedule : Schedule} :
    loadOn list readText schedule c = .ok r ↔
      ∃ paths loaded, files list c.specFiles = .ok paths ∧
        List.Forall₂ (Spec.FileGives readText) paths loaded ∧
        r = ofList ((if c.builtins then Spec.builtins else []) ++ loaded.flatten) := by
  have hrun : ∀ {paths : List String} {loaded : List (List Spec)},
      Completion.run (Spec.loadFrom readText) (schedule.order paths.length) paths = .ok loaded ↔
        List.Forall₂ (Spec.FileGives readText) paths loaded := by
    intro paths loaded
    rw [Completion.run_eq_ok_iff (fun i hi => schedule.mem_order hi)]
    simp only [Spec.loadFrom_eq_ok_iff]
  simp only [loadOn, assemble_eq_ok_iff, hrun]

/-- Every failure blames an entry or a file of one. -/
theorem blames_of_error {schedule : Schedule} {e : SourceError}
    (h : loadOn list readText schedule c = .error e) : Blames list readText c.specFiles e := by
  rcases bind_eq_error.mp h with hf | ⟨paths, hp, h⟩
  · obtain ⟨entry, hm, he⟩ := files_eq_error hf
    exact blames_of_entry hm he
  · rcases bind_eq_error.mp h with hr | ⟨_, _, h⟩
    · obtain ⟨reason, hreason, rfl⟩ := mapError_eq_error.mp hr
      obtain ⟨path, hm, he⟩ := Completion.run_eq_error hreason
      obtain ⟨blocks, hb, rfl⟩ := files_eq_ok hp
      obtain ⟨entry, hentry, hs⟩ := (mem_blocks_iff hb).mp hm
      exact .file (listed_of_blocks hb) hentry hs he
    · cases h

/-- The registry of a configuration whose files arrive in any order. There is one just when every
entry is listed and every file that an entry stands for gives specs. Then its specs are the built-in
ones and those of each file, entry by entry, the files of a pattern in the order of their paths; it
is the same when patterns list their matches and files arrive in other orders. Otherwise an entry, or
a file of an entry, is to blame. -/
theorem assembly_ordered_all_or_nothing (list : Glob.Lister)
    (readText : String → Except FileError String) (schedule : Schedule) (c : Config) :
    ((∃ r, loadOn list readText schedule c = .ok r) ↔
      (∀ entry ∈ c.specFiles, Listed list entry) ∧
      ∀ entry ∈ c.specFiles, ∀ path, StandsFor list entry path →
        ∃ specs, Spec.FileGives readText path specs) ∧
    (∀ r, loadOn list readText schedule c = .ok r →
      (∃ blocks loaded, List.Forall₂ (EntryFiles list) c.specFiles blocks ∧
        List.Forall₂ (Spec.FileGives readText) blocks.flatten loaded ∧
        r.specs = (if c.builtins then Spec.builtins else []) ++ loaded.flatten) ∧
      r = ofList r.specs ∧ Spec.AllNamed r.specs ∧
      ∀ list' schedule', (∀ entry ∈ c.specFiles, Relists list list' entry) →
        loadOn list' readText schedule' c = .ok r) ∧
    (∀ e, loadOn list readText schedule c = .error e → Blames list readText c.specFiles e) ∧
    ∀ w, load w c = loadOn (Glob.list w) w.readText .inOrder c := by
  refine ⟨⟨?_, ?_⟩, ?_, fun e => blames_of_error, fun w => load_eq_loadOn w c⟩
  · rintro ⟨r, h⟩
    obtain ⟨paths, loaded, hp, hl, _⟩ := loadOn_eq_ok_iff.mp h
    obtain ⟨blocks, hb, rfl⟩ := files_eq_ok hp
    refine ⟨listed_of_blocks hb, fun entry hm path hs => ?_⟩
    obtain ⟨specs, _, hspecs⟩ :=
      exists_right_of_forall₂ hl ((mem_blocks_iff hb).mpr ⟨entry, hm, hs⟩)
    exact ⟨specs, hspecs⟩
  · rintro ⟨hlisted, hgives⟩
    obtain ⟨paths, hp⟩ := exists_files hlisted
    obtain ⟨blocks, hb, rfl⟩ := files_eq_ok hp
    have hall : ∀ path ∈ blocks.flatten, ∃ specs, Spec.loadFrom readText path = .ok specs := by
      intro path hm
      obtain ⟨entry, hentry, hs⟩ := (mem_blocks_iff hb).mp hm
      obtain ⟨specs, hspecs⟩ := hgives entry hentry path hs
      exact ⟨specs, Spec.loadFrom_eq_ok_iff.mpr hspecs⟩
    obtain ⟨loaded, hl⟩ := exists_forall₂_ok hall
    exact ⟨_, loadOn_eq_ok_iff.mpr
      ⟨_, loaded, hp, hl.imp fun _ _ => Spec.loadFrom_eq_ok_iff.mp, rfl⟩⟩
  · intro r h
    obtain ⟨paths, loaded, hp, hl, rfl⟩ := loadOn_eq_ok_iff.mp h
    have hsame : ∀ list' schedule', (∀ entry ∈ c.specFiles, Relists list list' entry) →
        loadOn list' readText schedule' c = _ := fun list' schedule' hr =>
      loadOn_eq_ok_iff.mpr ⟨paths, loaded, files_relists hr ▸ hp, hl, rfl⟩
    obtain ⟨blocks, hb, rfl⟩ := files_eq_ok hp
    rw [specs_ofList]
    refine ⟨⟨blocks, loaded, hb, hl, rfl⟩, rfl, ?_, hsame⟩
    have hnamed : ∀ specs ∈ loaded, Spec.AllNamed specs := by
      intro specs hm
      obtain ⟨_, _, _, _, _, hn⟩ := exists_left_of_forall₂ hl hm
      exact hn
    refine Spec.AllNamed.append ?_ (Spec.allNamed_flatten hnamed)
    split
    · exact Spec.allNamed_builtins
    · exact fun _ hs => absurd hs List.not_mem_nil

def shuffled : Glob.Lister := fun pattern =>
  if pattern = "*.yaml" then .ok [.ok "b.yaml", .ok "a.yaml"] else .ok []

def greekFiles (path : String) : Except FileError String :=
  if path = "a.yaml" then .ok "- name: alpha\n"
  else if path = "b.yaml" then .ok "- name: beta\n- name: gamma\n"
  else .error .notFound

def backwards : Schedule :=
  ⟨fun n => (List.range n).reverse, fun n => (List.range n).reverse_perm⟩

def greek : Config := { Config.default with builtins := false, specFiles := ["*.yaml"] }

theorem entryFiles_shuffled : EntryFiles shuffled "*.yaml" ["a.yaml", "b.yaml"] := by
  have hl : shuffled "*.yaml" = .ok (["b.yaml", "a.yaml"].map .ok) := rfl
  refine .pattern rfl hl (.swap ..) ?_
  unfold Path.Sorted
  decide +kernel

theorem greekFiles_give : List.Forall₂ (Spec.FileGives greekFiles) ["a.yaml", "b.yaml"]
    [[Spec.named "alpha"], [Spec.named "beta", Spec.named "gamma"]] :=
  .cons (Spec.loadFrom_eq_ok_iff.mp (by decide +kernel))
    (.cons (Spec.loadFrom_eq_ok_iff.mp (by decide +kernel)) .nil)

theorem assembly_ordered_backwards :
    (∃ r, loadOn shuffled greekFiles backwards greek = .ok r ∧
      r.specs = [Spec.named "alpha", Spec.named "beta", Spec.named "gamma"]) ∧
    ¬ ∃ r, loadOn shuffled greekFiles backwards { greek with specFiles := ["*.yaml", "c.yaml"] } =
      .ok r := by
  constructor
  · obtain ⟨hiff, hok, _⟩ := assembly_ordered_all_or_nothing shuffled greekFiles backwards greek
    obtain ⟨r, hr⟩ := hiff.mpr <| by
      refine ⟨fun entry he => ?_, fun entry he path hs => ?_⟩
      all_goals obtain rfl := List.mem_singleton.mp he
      · exact entryFiles_shuffled.listed
      · obtain ⟨specs, _, h⟩ :=
          exists_right_of_forall₂ greekFiles_give (entryFiles_shuffled.mem_iff.mpr hs)
        exact ⟨specs, h⟩
    obtain ⟨⟨blocks, loaded, hb, hl, hs⟩, _⟩ := hok r hr
    refine ⟨r, hr, ?_⟩
    obtain ⟨paths, _, hp, hnil, rfl⟩ := List.forall₂_cons_left_iff.mp hb
    obtain rfl := entryFiles_shuffled.unique hp (by decide +kernel)
    cases hnil
    have hloaded := forall₂_ok_unique (hl.imp fun _ _ => Spec.loadFrom_eq_ok_iff.mpr)
      (greekFiles_give.imp fun _ _ => Spec.loadFrom_eq_ok_iff.mpr)
    rw [hs, hloaded]
    rfl
  · obtain ⟨hiff, _⟩ := assembly_ordered_all_or_nothing shuffled greekFiles backwards
      { greek with specFiles := ["*.yaml", "c.yaml"] }
    intro h
    obtain ⟨_, hgives⟩ := hiff.mp h
    obtain ⟨specs, text, ht, _⟩ := hgives "c.yaml" (by simp) "c.yaml" (.plain (by decide))
    cases ht

end Registry
end DirectiveDocs
