import DirectiveDocs.Proofs.Configuration
import Mathlib.Data.List.Infix

namespace DirectiveDocs

namespace Path

structure IsName (name : String) : Prop where
  nonempty : name ≠ ""
  notCurrent : name ≠ "."
  notParent : name ≠ ".."
  noSlash : '/' ∉ name.toList
  noNul : '\x00' ∉ name.toList
  short : name.utf8ByteSize ≤ 255

/-- The text of an absolute path up to the name that it ends in. -/
def lead (place : List String) : List Char :=
  '/' :: place.flatMap (fun name => name.toList ++ ['/'])

theorem lead_concat (place : List String) (name : String) :
    lead (place ++ [name]) = lead place ++ (name.toList ++ ['/']) := by
  simp [lead]

theorem intercalate_concat (parts : List (List Char)) (last : List Char) :
    ['/'].intercalate (parts ++ [last]) = parts.flatMap (· ++ ['/']) ++ last := by
  induction parts with
  | nil => simp
  | cons part parts ih =>
    rw [List.cons_append, List.intercalate_cons_of_ne_nil (by simp), ih]
    simp

theorem toList_ofNames_concat (place : List String) (name : String) :
    (ofNames (place ++ [name])).toList = lead place ++ name.toList := by
  have hslash : "/".toList = ['/'] := rfl
  rw [ofNames, String.toList_append, String.toList_intercalate, List.map_append, List.map_singleton,
    hslash, intercalate_concat, List.flatMap_map]
  rfl

theorem split_of_noSlash {cs : List Char} (h : '/' ∉ cs) : split cs = [cs] := by
  induction cs with
  | nil => rfl
  | cons c cs ih =>
    simp only [List.mem_cons, not_or] at h
    rw [split, if_neg (Ne.symm h.1), ih h.2]

theorem split_append_slash {cs : List Char} (h : '/' ∉ cs) (rest : List Char) :
    split (cs ++ '/' :: rest) = cs :: split rest := by
  induction cs with
  | nil => rfl
  | cons c cs ih =>
    simp only [List.mem_cons, not_or] at h
    rw [List.cons_append, split, if_neg (Ne.symm h.1), ih h.2]

theorem split_lead {place : List String} (h : ∀ name ∈ place, IsName name) {cs : List Char}
    (hcs : '/' ∉ cs) : split (lead place ++ cs) = [] :: (place.map String.toList ++ [cs]) := by
  rw [lead, List.cons_append, split, if_pos rfl]
  congr 1
  induction place with
  | nil => exact split_of_noSlash hcs
  | cons name place ih =>
    obtain ⟨hname, hplace⟩ := List.forall_mem_cons.mp h
    rw [List.flatMap_cons, List.append_assoc, List.append_assoc, List.singleton_append,
      split_append_slash hname.noSlash, ih hplace]
    rfl

end Path

namespace FileTree

variable {root : FileTree}

theorem find_append (root : FileTree) (place names : List String) :
    root.find? (place ++ names) = (root.find? place).bind (fun t => t.find? names) := by
  simp [find?, List.foldlM_append]

theorem isSome_find_of_append {place names : List String}
    (h : (root.find? (place ++ names)).isSome = true) : (root.find? place).isSome = true := by
  rw [find_append] at h
  exact Option.isSome_of_isSome_bind h

theorem isSome_find_directory (entries : List (String × FileTree)) (name : String) :
    ((directory entries).find? [name]).isSome = entries.any (fun e => e.1 == name) := by
  rw [Bool.eq_iff_iff]
  simp [find?, child?, List.find?_isSome]

/-- A step by a name leads to the entry of that name, if there is one. -/
theorem step_eq_ok_iff {place place' : List String} {name : String} (h : Path.IsName name) :
    root.step place name = .ok place' ↔
      place' = place ++ [name] ∧ (root.find? (place ++ [name])).isSome = true := by
  rw [find_append, step]
  cases root.find? place with
  | none => simp
  | some t =>
    cases t with
    | file content => simp [find?, child?]
    | directory entries =>
      have hshort : ¬ 255 < name.utf8ByteSize := Nat.not_lt.mpr h.short
      simp only [h.nonempty, h.notCurrent, h.notParent, hshort, or_self, if_false, Option.bind_some,
        isSome_find_directory]
      by_cases hany : entries.any (fun e => e.1 == name) = true
      · rw [if_pos hany, Except.ok.injEq]
        exact ⟨fun he => ⟨he.symm, hany⟩, fun he => he.1.symm⟩
      · rw [if_neg hany]
        exact ⟨nofun, fun he => absurd he.2 hany⟩

/-- The steps by names from an entry lead to the entry that the names lead to. -/
theorem foldlM_step_eq_ok_iff {names : List String} (h : ∀ name ∈ names, Path.IsName name)
    {place place' : List String} (hp : (root.find? place).isSome = true) :
    names.foldlM root.step place = .ok place' ↔
      place' = place ++ names ∧ (root.find? (place ++ names)).isSome = true := by
  induction names generalizing place with
  | nil => simp [hp, pure, Except.pure, eq_comm]
  | cons name names ih =>
    obtain ⟨hname, hnames⟩ := List.forall_mem_cons.mp h
    have hsplit : place ++ name :: names = (place ++ [name]) ++ names := by simp
    rw [List.foldlM_cons, bind_eq_ok, hsplit]
    constructor
    · rintro ⟨_, hs, hf⟩
      obtain ⟨rfl, hn⟩ := (step_eq_ok_iff hname).mp hs
      exact (ih hnames hn).mp hf
    · intro hf
      have hn := isSome_find_of_append hf.2
      exact ⟨_, (step_eq_ok_iff hname).mpr ⟨rfl, hn⟩, (ih hnames hn).mpr hf⟩

/-- An absolute path of names leads to their entry, wherever it is looked up from. The system takes
no path that is longer than 4095 bytes. -/
theorem resolve_eq_ok_iff {directory names place : List String} {path : String}
    (h : ∀ name ∈ names, Path.IsName name) (hne : names ≠ []) (habs : Path.isAbsolute path = true)
    (hparts : Path.parts path = "" :: names) (hnul : '\x00' ∉ path.toList) :
    root.resolve directory path = .ok place ↔
      place = names ∧ (root.find? names).isSome = true ∧ path.utf8ByteSize ≤ 4095 := by
  have hempty : path.isEmpty = false := by
    rw [← Bool.not_eq_true, String.isEmpty_iff]
    rintro rfl
    cases habs
  have hroot : ("" :: names).foldlM root.step [] = .ok place ↔
      place = names ∧ (root.find? names).isSome = true := by
    cases root with
    | file content =>
      cases names with
      | nil => exact absurd rfl hne
      | cons name names =>
        constructor
        · rintro ⟨⟩
        · rintro ⟨-, hs⟩
          cases hs
    | directory entries =>
      have hfound : ((FileTree.directory entries).find? []).isSome = true := rfl
      exact foldlM_step_eq_ok_iff h hfound
  rw [resolve, hempty, habs, hparts, if_neg Bool.false_ne_true, if_neg (by simpa using hnul),
    if_pos rfl]
  by_cases hsize : path.utf8ByteSize ≤ 4095
  · rw [if_neg (Nat.not_lt.mpr hsize), hroot]
    simp [hsize]
  · rw [if_pos (Nat.not_le.mp hsize)]
    simp [hsize]

end FileTree

namespace Workspace

variable {w : Workspace}

theorem exists_iff {path : String} :
    w.exists? path = true ↔
      ∃ place, w.files.resolve w.directory path = .ok place ∧
        (w.files.find? place).isSome = true := by
  rw [exists?, entry]
  cases w.files.resolve w.directory path with
  | error e => simp [bind, Except.bind]
  | ok place => cases h : w.files.find? place <;> simp [bind, Except.bind, h]

/-- What an absolute path leads to does not depend on the working directory. -/
theorem entry_of_isAbsolute {path : String} (habs : Path.isAbsolute path = true)
    (directory : List String) : { w with directory := directory }.entry path = w.entry path := by
  simp only [entry, FileTree.resolve, habs, if_true]

end Workspace

namespace Config

variable {w : Workspace}

def fileAt (place : List String) : String :=
  Path.join (Path.ofNames place) fileName

theorem toList_fileAt {place : List String} (h : ∀ name ∈ place, Path.IsName name) :
    (fileAt place).toList = Path.lead place ++ fileName.toList := by
  rcases List.eq_nil_or_concat' place with rfl | ⟨front, name, rfl⟩
  · decide
  · have hname := h name (by simp)
    have htext := Path.toList_ofNames_concat front name
    have hlast : (Path.ofNames (front ++ [name])).toList.getLast? ≠ some '/' := by
      rw [htext, List.getLast?_append_of_ne_nil _ (by simpa using hname.nonempty)]
      exact fun he => hname.noSlash (List.mem_of_getLast? he)
    have hempty : (Path.ofNames (front ++ [name])).isEmpty = false := by
      rw [← Bool.not_eq_true, String.isEmpty_iff]
      intro he
      simp [he, Path.lead] at htext
    have habs : Path.isAbsolute fileName = false := by decide
    rw [fileAt, Path.join, habs, hempty, if_neg (by simp), if_neg hlast, String.toList_append,
      String.toList_append, htext, Path.lead_concat]
    simp

theorem isAbsolute_fileAt {place : List String} (h : ∀ name ∈ place, Path.IsName name) :
    Path.isAbsolute (fileAt place) = true := by
  rw [Path.isAbsolute, toList_fileAt h]
  rfl

theorem isName_fileName : Path.IsName fileName := by
  constructor <;> decide

/-- The parts of a configuration file's path are the names of its directory and its own. -/
theorem parts_fileAt {place : List String} (h : ∀ name ∈ place, Path.IsName name) :
    Path.parts (fileAt place) = "" :: (place ++ [fileName]) := by
  rw [Path.parts, toList_fileAt h, Path.split_lead h isName_fileName.noSlash]
  simp [Function.comp_def]

theorem nulFree_fileAt {place : List String} (h : ∀ name ∈ place, Path.IsName name) :
    '\x00' ∉ (fileAt place).toList := by
  rw [toList_fileAt h, Path.lead]
  simp only [List.cons_append, List.mem_cons, List.mem_append, List.mem_flatMap]
  rintro (h0 | ⟨name, hn, h0 | h0⟩ | h0)
  · cases h0
  · exact (h name hn).noNul h0
  · simp at h0
  · exact isName_fileName.noNul h0

/-- A directory holds a configuration file: it has an entry of that name, at a path that is not too
long to be looked up. -/
def HasFile (files : FileTree) (place : List String) : Prop :=
  (files.find? (place ++ [fileName])).isSome = true ∧ (fileAt place).utf8ByteSize ≤ 4095

instance (files : FileTree) (place : List String) : Decidable (HasFile files place) :=
  inferInstanceAs (Decidable (_ ∧ _))

/-- A configuration file exists where its directory holds one. -/
theorem exists_fileAt_iff {place : List String} (h : ∀ name ∈ place, Path.IsName name) :
    w.exists? (fileAt place) = true ↔ HasFile w.files place := by
  have hnames : ∀ name ∈ place ++ [fileName], Path.IsName name := by
    intro name hn
    rcases List.mem_append.mp hn with hn | hn
    · exact h name hn
    · exact List.mem_singleton.mp hn ▸ isName_fileName
  rw [Workspace.exists_iff]
  simp only [FileTree.resolve_eq_ok_iff hnames (by simp) (isAbsolute_fileAt h) (parts_fileAt h)
    (nulFree_fileAt h)]
  constructor
  · rintro ⟨_, ⟨rfl, hs⟩, _⟩
    exact hs
  · exact fun hs => ⟨_, ⟨rfl, hs⟩, hs.1⟩

/-- The search for a configuration file, from a directory upwards: its turns and its result. -/
inductive Climbs (w : Workspace) : List String → Nat → Option String → Prop
  | found {place : List String} (h : w.exists? (fileAt place) = true) :
      Climbs w place 1 (some (fileAt place))
  | top (h : w.exists? (fileAt []) = false) : Climbs w [] 1 none
  | up {place : List String} {name : String} {turns : Nat} {found : Option String}
      (h : w.exists? (fileAt (place ++ [name])) = false) (hup : Climbs w place turns found) :
      Climbs w (place ++ [name]) (turns + 1) found

theorem ancestors_concat (place : List String) (name : String) :
    ancestors (place ++ [name]) = (place ++ [name]) :: ancestors place := by
  induction place with
  | nil => rfl
  | cons first place ih =>
    rw [List.cons_append, ancestors, ih]
    simp [ancestors]

def searchFrom (w : Workspace) (place : List String) : Option String :=
  ((ancestors place).map fileAt).find? w.exists?

/-- The search starts in the directory that the program works in. -/
theorem discover_eq_searchFrom (w : Workspace) : discover w = searchFrom w w.directory := rfl

theorem searchFrom_nil (w : Workspace) :
    searchFrom w [] = if w.exists? (fileAt []) then some (fileAt []) else none := by
  cases h : w.exists? (fileAt []) <;> simp [searchFrom, ancestors, h]

/-- A directory without a configuration file leaves the search to the directory around it. -/
theorem searchFrom_concat (w : Workspace) (place : List String) (name : String) :
    searchFrom w (place ++ [name]) =
      if w.exists? (fileAt (place ++ [name])) then some (fileAt (place ++ [name]))
      else searchFrom w place := by
  cases h : w.exists? (fileAt (place ++ [name])) <;>
    simp [searchFrom, ancestors_concat, h]

/-- The search ends after at most one turn for each directory up to the root. -/
theorem climbs_searchFrom (w : Workspace) (place : List String) :
    ∃ turns ≤ place.length + 1, Climbs w place turns (searchFrom w place) := by
  induction place using List.reverseRecOn with
  | nil =>
    rw [searchFrom_nil]
    cases h : w.exists? (fileAt []) with
    | true => exact ⟨1, by simp, .found h⟩
    | false => exact ⟨1, by simp, .top h⟩
  | append_singleton place name ih =>
    rw [searchFrom_concat]
    cases h : w.exists? (fileAt (place ++ [name])) with
    | true => exact ⟨1, by simp, .found h⟩
    | false =>
      obtain ⟨turns, hle, hup⟩ := ih
      exact ⟨turns + 1, by simpa using hle, .up h hup⟩

theorem Climbs.eq_searchFrom {place : List String} {turns : Nat} {found : Option String}
    (h : Climbs w place turns found) : found = searchFrom w place := by
  induction h with
  | @found place h =>
    rcases List.eq_nil_or_concat' place with rfl | ⟨front, name, rfl⟩
    · simp [searchFrom_nil, h]
    · simp [searchFrom_concat, h]
  | top h => simp [searchFrom_nil, h]
  | up h _ ih => simp [searchFrom_concat, h, ih]

/-- The closest directory from a place upwards that holds a configuration file. -/
structure Nearest (files : FileTree) (start place : List String) : Prop where
  above : place <+: start
  holds : HasFile files place
  closest : ∀ nearer, place <+: nearer → nearer <+: start → nearer ≠ place →
    ¬ HasFile files nearer

theorem nearest_nil_iff {place : List String} :
    Nearest w.files [] place ↔ HasFile w.files [] ∧ place = [] := by
  constructor
  · rintro ⟨habove, hfile, _⟩
    obtain rfl := List.prefix_nil.mp habove
    exact ⟨hfile, rfl⟩
  · rintro ⟨hfile, rfl⟩
    exact ⟨List.prefix_rfl, hfile, fun nearer _ hn hne => absurd (List.prefix_nil.mp hn) hne⟩

/-- The closest directory is the innermost one if that holds a file, else the closest from the
directory around it. -/
theorem nearest_concat_iff {start place : List String} {name : String} :
    Nearest w.files (start ++ [name]) place ↔
      (HasFile w.files (start ++ [name]) ∧ place = start ++ [name]) ∨
      (¬ HasFile w.files (start ++ [name]) ∧ Nearest w.files start place) := by
  constructor
  · rintro ⟨habove, hfile, hclosest⟩
    rcases List.prefix_concat_iff.mp habove with rfl | habove
    · exact .inl ⟨hfile, rfl⟩
    · refine .inr ⟨hclosest _ (habove.trans (List.prefix_append _ _)) List.prefix_rfl ?_,
        habove, hfile, fun nearer hp hn => hclosest nearer hp (hn.trans (List.prefix_append _ _))⟩
      rintro rfl
      have hle := habove.length_le
      rw [List.length_append] at hle
      exact Nat.not_succ_le_self _ hle
  · rintro (⟨hfile, rfl⟩ | ⟨hnone, habove, hfile, hclosest⟩)
    · refine ⟨List.prefix_rfl, hfile, fun nearer hp hn hne => ?_⟩
      exact absurd (hn.eq_of_length_le hp.length_le) hne
    · refine ⟨habove.trans (List.prefix_append _ _), hfile, fun nearer hp hn hne => ?_⟩
      rcases List.prefix_concat_iff.mp hn with rfl | hn
      · exact hnone
      · exact hclosest nearer hp hn hne

/-- A file is found just when it is the file of the closest directory that holds one. -/
theorem searchFrom_eq_some_iff {start : List String} (h : ∀ name ∈ start, Path.IsName name)
    {path : String} :
    searchFrom w start = some path ↔
      ∃ place, Nearest w.files start place ∧ path = fileAt place := by
  induction start using List.reverseRecOn with
  | nil =>
    simp only [searchFrom_nil, nearest_nil_iff]
    by_cases hf : HasFile w.files []
    · rw [if_pos ((exists_fileAt_iff h).mpr hf)]
      simp [hf, eq_comm (a := path)]
    · rw [if_neg (fun he => hf ((exists_fileAt_iff h).mp he))]
      simp [hf]
  | append_singleton start name ih =>
    simp only [searchFrom_concat, nearest_concat_iff]
    by_cases hf : HasFile w.files (start ++ [name])
    · rw [if_pos ((exists_fileAt_iff h).mpr hf)]
      simp [hf, eq_comm (a := path)]
    · rw [if_neg (fun he => hf ((exists_fileAt_iff h).mp he)),
        ih (fun name hn => h name (List.mem_append_left _ hn))]
      simp [hf]

/-- Nothing is found just when no directory on the way up holds a file. -/
theorem searchFrom_eq_none_iff {start : List String} (h : ∀ name ∈ start, Path.IsName name) :
    searchFrom w start = none ↔ ∀ place, place <+: start → ¬ HasFile w.files place := by
  induction start using List.reverseRecOn with
  | nil =>
    simp only [searchFrom_nil, List.prefix_nil, forall_eq]
    by_cases hf : HasFile w.files []
    · rw [if_pos ((exists_fileAt_iff h).mpr hf)]
      simp [hf]
    · rw [if_neg (fun he => hf ((exists_fileAt_iff h).mp he))]
      simp [hf]
  | append_singleton start name ih =>
    simp only [searchFrom_concat, List.prefix_concat_iff, or_imp, forall_and, forall_eq]
    by_cases hf : HasFile w.files (start ++ [name])
    · rw [if_pos ((exists_fileAt_iff h).mpr hf)]
      simp [hf]
    · rw [if_neg (fun he => hf ((exists_fileAt_iff h).mp he)),
        ih (fun name hn => h name (List.mem_append_left _ hn))]
      simp [hf]

/-- A path is not longer than that of a directory further down. -/
theorem size_fileAt_le {place start : List String} (h : ∀ name ∈ start, Path.IsName name)
    (hp : place <+: start) : (fileAt place).utf8ByteSize ≤ (fileAt start).utf8ByteSize := by
  obtain ⟨more, rfl⟩ := hp
  have hplace : fileAt place = String.ofList (Path.lead place) ++ fileName := by
    rw [← String.toList_inj, toList_fileAt (fun name hn => h name (List.mem_append_left _ hn))]
    simp
  have hmore : fileAt (place ++ more) = String.ofList (Path.lead place) ++
      String.ofList (more.flatMap (fun name => name.toList ++ ['/'])) ++ fileName := by
    rw [← String.toList_inj, toList_fileAt h]
    simp [Path.lead]
  rw [hplace, hmore]
  simp only [String.utf8ByteSize_append]
  omega

/-- A file at an absolute path is read in the same way from every working directory. -/
theorem read_congr {path : String} (habs : Path.isAbsolute path = true) (directory : List String) :
    read { w with directory := directory } path = read w path := by
  have htext : ({ w with directory := directory } : Workspace).readText path = w.readText path := by
    simp only [Workspace.readText, Workspace.entry_of_isAbsolute habs]
  have hexpand : ∀ i entries,
      expandEntries { w with directory := directory } i entries = expandEntries w i entries := by
    intro i entries
    induction entries generalizing i with
    | nil => rfl
    | cons entry entries ih => rw [expandEntries, expandEntries, ih]; rfl
  rw [read, read, htext]
  simp only [ofFile, hexpand]

/-- Two directories from which the same file is found load the same configuration. -/
theorem load_congr {directory : List String} (h : ∀ name ∈ w.directory, Path.IsName name)
    (hd : discover { w with directory := directory } = discover w) (s : Settings) :
    load { w with directory := directory } none s = load w none s := by
  have hbase : base { w with directory := directory } none = base w none := by
    rw [base, base, hd]
    cases hf : discover w with
    | none => rfl
    | some path =>
      obtain ⟨place, hn, rfl⟩ := (searchFrom_eq_some_iff h).mp hf
      exact read_congr (isAbsolute_fileAt (fun name hm => h name (hn.above.subset hm))) directory
  rw [load, load, hbase]

/-- The search for a configuration file ends, in the closest directory from the working directory
upwards that has one or at the root when none has. Two working directories with the same closest
directory, or both without, load the same configuration or fail alike. The limit on the length of
paths plays no part where the path in the working directory itself keeps to it. -/
theorem discovery_finds_nearest (w : Workspace) (h : ∀ name ∈ w.directory, Path.IsName name) :
    (∃ turns ≤ w.directory.length + 1, Climbs w w.directory turns (discover w)) ∧
    (∀ turns found, Climbs w w.directory turns found → found = discover w) ∧
    (∀ path, discover w = some path ↔
      ∃ place, Nearest w.files w.directory place ∧ path = fileAt place) ∧
    (discover w = none ↔ ∀ place, place <+: w.directory → ¬ HasFile w.files place) ∧
    ((fileAt w.directory).utf8ByteSize ≤ 4095 → ∀ place, place <+: w.directory →
      (HasFile w.files place ↔ (w.files.find? (place ++ [fileName])).isSome = true)) ∧
    (∀ directory : List String, (∀ name ∈ directory, Path.IsName name) →
      (∀ place, Nearest w.files directory place ↔ Nearest w.files w.directory place) →
      ∀ s, load { w with directory := directory } none s = load w none s) := by
  refine ⟨climbs_searchFrom w w.directory, fun turns found hc => hc.eq_searchFrom,
    fun path => searchFrom_eq_some_iff h, searchFrom_eq_none_iff h, ?_, ?_⟩
  · intro hsize place hp
    exact and_iff_left ((size_fileAt_le h hp).trans hsize)
  · intro directory hdirectory hsame
    refine load_congr h (Option.ext fun path => ?_)
    rw [discover_eq_searchFrom, discover_eq_searchFrom, searchFrom_eq_some_iff hdirectory,
      searchFrom_eq_some_iff h]
    simp only [hsame]

def nested (directory : List String) : Workspace :=
  let settings := FileTree.file "[output]\npretty = false\n".toUTF8
  ⟨.directory [("mystdoc.toml", .file "".toUTF8),
      ("docs", .directory [("mystdoc.toml", settings), ("api", .directory [])])],
    directory, []⟩

/-- The inner directory is the closest when the program works in it. -/
theorem nearest_nested : Nearest (nested []).files ["docs"] ["docs"] :=
  ⟨List.prefix_rfl, by decide +kernel, fun nearer hp hn hne =>
    absurd (hn.eq_of_length_le hp.length_le) hne⟩

/-- From the directory below, the nearer of two files is found, and it is loaded as from its own. -/
theorem discovery_finds_nearest_nested :
    discover (nested ["docs", "api"]) = some "/docs/mystdoc.toml" ∧
    ∀ s, load (nested ["docs"]) none s = load (nested ["docs", "api"]) none s := by
  have hnames : ∀ name ∈ ["docs", "api"], Path.IsName name := by
    simp only [List.forall_mem_cons, List.not_mem_nil, false_imp_iff, implies_true, and_true]
    constructor <;> constructor <;> decide
  have hbelow : ¬ HasFile (nested []).files ["docs", "api"] := by decide +kernel
  have hsame : ∀ place, Nearest (nested []).files ["docs"] place ↔
      Nearest (nested []).files ["docs", "api"] place := by
    intro place
    have h : Nearest (nested []).files (["docs"] ++ ["api"]) place ↔ _ := nearest_concat_iff
    exact ⟨fun hn => h.mpr (.inr ⟨hbelow, hn⟩),
      fun hn => ((h.mp hn).resolve_left (fun hl => hbelow hl.1)).2⟩
  have h := discovery_finds_nearest (nested ["docs", "api"]) hnames
  refine ⟨(h.2.2.1 _).mpr ⟨["docs"], (hsame _).mp nearest_nested, by decide +kernel⟩, ?_⟩
  exact h.2.2.2.2.2 ["docs"] (fun name hn => hnames name (List.mem_cons.mpr (by simp_all))) hsame

end Config
end DirectiveDocs
