import DirectiveDocs.Proofs.Configuration
import DirectiveDocs.Proofs.Lookup
import DirectiveDocs.Proofs.SpecFiles

namespace DirectiveDocs

theorem Glob.isPattern_append (p q : String) :
    isPattern (p ++ q) = (isPattern p || isPattern q) := by
  simp [isPattern, List.any_append]

/-- A path is a pattern when the directory that it is seen from is one. -/
theorem Glob.isPattern_join {directory path : String} (h : Path.isAbsolute path = false) :
    isPattern (Path.join directory path) = (isPattern directory || isPattern path) := by
  unfold Path.join
  rw [h, Bool.false_or]
  split
  · rename_i hd
    obtain rfl := String.isEmpty_iff.mp hd
    rfl
  · split
    · exact isPattern_append directory path
    · rw [isPattern_append, isPattern_append]
      simp [isPattern]

namespace Registry

/-- The specs of a plain entry's file stand right after those that the entries before it give. -/
theorem load_at_plain {w : Workspace} {c : Config} {r : Registry} {i : Nat} {path : String}
    (hi : c.specFiles[i]? = some path) (hp : Glob.isPattern path = false)
    (h : load w c = .ok r) :
    ∃ r₀ specs after, load w { c with specFiles := c.specFiles.take i } = .ok r₀ ∧
      Spec.FileGives w.readText path specs ∧ r.specs = r₀.specs ++ specs ++ after := by
  obtain ⟨paths, loaded, hf, hl, rfl⟩ := assemble_eq_ok_iff.mp h
  obtain ⟨before, here, after, hb, hh, _, rfl⟩ := files_split hi hf
  rw [entryFiles_of_plain hp] at hh
  cases hh
  obtain ⟨upTo, later, hu, hlater, rfl⟩ := mapM_append_eq_ok_iff.mp hl
  obtain ⟨first, own, hfirst, hown, rfl⟩ := mapM_append_eq_ok_iff.mp hu
  obtain ⟨specs, _, hs, hnil, rfl⟩ := List.forall₂_cons_left_iff.mp (mapM_eq_ok_iff.mp hown)
  cases hnil
  refine ⟨_, specs, later.flatten, assemble_eq_ok_iff.mpr ⟨before, first, hb, hfirst, rfl⟩,
    Spec.loadFrom_eq_ok_iff.mp hs, ?_⟩
  simp [specs_ofList]

/-- A plain relative entry of a configuration file is seen from the directory of the file, at its own
position. When the directory is no pattern either, the joined path itself is the file that is loaded
there, and a registry has the file's specs right after those of the entries before it. In a directory
with a wildcard the joined path is a pattern, and what it leads to is loaded. -/
theorem plain_entry_at_position {w : Workspace} {path? : Option String} {s : Settings} {c : Config}
    {path : String} {f : ConfigFile} {i : Nat} {raw entry : String}
    (hc : Config.load w path? s = .ok c) (hf : Config.Holds w path? path f)
    (hi : f.specFiles[i]? = some raw) (he : Config.Expands w raw entry)
    (hr : Path.isAbsolute entry = false) (hp : Glob.isPattern entry = false) :
    c.specFiles[i]? = some (Path.join (Path.parent path) entry) ∧
    (∀ list paths, files list c.specFiles = .ok paths →
      ∃ before here after, files list (c.specFiles.take i) = .ok before ∧
        files list (c.specFiles.drop (i + 1)) = .ok after ∧ paths = before ++ here ++ after ∧
        if Glob.isPattern (Path.parent path) then
          ∃ found, list (Path.join (Path.parent path) entry) = .ok (found.map .ok) ∧
            here.Perm found ∧ Path.Sorted here
        else here = [Path.join (Path.parent path) entry]) ∧
    (Glob.isPattern (Path.parent path) = false → ∀ r, load w c = .ok r →
      ∃ r₀ specs after, load w { c with specFiles := c.specFiles.take i } = .ok r₀ ∧
        Spec.FileGives w.readText (Path.join (Path.parent path) entry) specs ∧
        r.specs = r₀.specs ++ specs ++ after) := by
  have hjoin : Glob.isPattern (Path.join (Path.parent path) entry) =
      Glob.isPattern (Path.parent path) := by
    rw [Glob.isPattern_join hr, hp, Bool.or_false]
  have hat := hf.specFiles_at hc hi he
  refine ⟨hat, ?_, fun hd r h => load_at_plain hat (hjoin.trans hd) h⟩
  intro list paths h
  obtain ⟨before, here, after, hb, hh, ha, rfl⟩ := files_split hat h
  refine ⟨before, here, after, hb, ha, rfl, ?_⟩
  rw [← hjoin]
  cases entryFiles_eq_ok hh with
  | plain hplain => simp [hplain]
  | pattern hpattern hl hperm hs =>
    rw [if_pos hpattern]
    exact ⟨_, hl, hperm, hs⟩

/-- A directory with a configuration file and the spec file that it lists, where the program works. -/
def project (directory : String) : Workspace :=
  let settings := "[registry]\nbuiltins = false\nspec_files = [\"x.yaml\"]\n"
  ⟨.directory [(directory, .directory
      [("mystdoc.toml", .file settings.toUTF8), ("x.yaml", .file "- name: foo\n".toUTF8)])],
    [directory], []⟩

def projectFile : ConfigFile := ⟨some false, ["x.yaml"], true⟩

def projectConfig (directory : String) : Config :=
  ⟨false, ["/" ++ directory ++ "/x.yaml"], true, some ("/" ++ directory ++ "/mystdoc.toml")⟩

theorem expands_project (directory : String) :
    Config.Expands (project directory) "x.yaml" "x.yaml" := by
  rfl

theorem load_project : load (project "p") (projectConfig "p") = .ok (ofList [Spec.named "foo"]) := by
  have hfiles : files (Glob.list (project "p")) (projectConfig "p").specFiles =
      .ok ["/p/x.yaml"] :=
    files_singleton.trans (entryFiles_of_plain (by decide))
  have hread : List.Forall₂ (fun path specs => Spec.loadFile (project "p") path = .ok specs)
      ["/p/x.yaml"] [[Spec.named "foo"]] :=
    .cons (by decide +kernel) .nil
  exact assemble_eq_ok_iff.mpr ⟨_, _, hfiles, mapM_eq_ok_iff.mpr hread, rfl⟩

/-- The file stands at the position of its entry, seen from the project's directory. -/
theorem plain_entry_at_position_project :
    (projectConfig "p").specFiles[0]? = some "/p/x.yaml" ∧
    ∃ r₀ specs after, load (project "p") { projectConfig "p" with specFiles := [] } = .ok r₀ ∧
      Spec.FileGives (project "p").readText "/p/x.yaml" specs ∧
      [Spec.named "foo"] = r₀.specs ++ specs ++ after := by
  have hc : Config.load (project "p") none {} = .ok (projectConfig "p") :=
    toOption_eq_some_iff.mp (by decide +kernel)
  have hf : Config.Holds (project "p") none "/p/mystdoc.toml" projectFile :=
    .of_toOption (by decide +kernel) (by decide +kernel)
  obtain ⟨hat, _, hload⟩ :=
    plain_entry_at_position hc hf (i := 0) rfl (expands_project "p") (by decide) (by decide)
  have hjoin : Path.join (Path.parent "/p/mystdoc.toml") "x.yaml" = "/p/x.yaml" := by
    decide +kernel
  rw [hjoin] at hat hload
  obtain ⟨r₀, specs, after, hr, hs, he⟩ := hload (by decide) _ load_project
  exact ⟨hat, r₀, specs, after, hr, hs, he⟩

/-- In a directory with a bracket in its name, the file of a plain entry is not among the files. -/
theorem plain_entry_lost_in_brackets :
    ¬ ∀ (w : Workspace) (path? : Option String) (s : Settings) (c : Config) (path : String)
        (f : ConfigFile) (i : Nat) (raw entry : String) (paths : List String),
      Config.load w path? s = .ok c → Config.Holds w path? path f → f.specFiles[i]? = some raw →
      Config.Expands w raw entry → Path.isAbsolute entry = false →
      Glob.isPattern entry = false → files (Glob.list w) c.specFiles = .ok paths →
      Path.join (Path.parent path) entry ∈ paths := by
  intro h
  have hc : Config.load (project "a[1]") none {} = .ok (projectConfig "a[1]") :=
    toOption_eq_some_iff.mp (by decide +kernel)
  have hf : Config.Holds (project "a[1]") none "/a[1]/mystdoc.toml" projectFile :=
    .of_toOption (by decide +kernel) (by decide +kernel)
  have hlist : Glob.list (project "a[1]") "/a[1]/x.yaml" = .ok (([] : List String).map .ok) := by
    decide +kernel
  have hentry : entryFiles (Glob.list (project "a[1]")) "/a[1]/x.yaml" = .ok [] := by
    rw [entryFiles_of_listed (by decide) hlist, List.mergeSort_nil]
  have hfiles : files (Glob.list (project "a[1]")) (projectConfig "a[1]").specFiles = .ok [] :=
    files_singleton.trans hentry
  have hm := h _ none {} _ _ _ 0 "x.yaml" "x.yaml" [] hc hf rfl (expands_project "a[1]") (by decide)
    (by decide) hfiles
  exact absurd hm List.not_mem_nil

end Registry
end DirectiveDocs
