import DirectiveDocs.Command.Run

namespace DirectiveDocs.Disk

/-- What stands at a place on the disk. A directory comes without its entries. -/
def entryAt (place : List String) : IO (Option FileTree) := do
  let path := (← IO.currentDir) / Path.ofNames place
  if ← path.isDir then return some .empty
  else if ← path.pathExists then return some (.file (← IO.FS.readBinFile path))
  else return none

/-- Takes in the file or directory that a path leads to, with the directories it passes. -/
def take (w : Workspace) (path : String) : IO Workspace :=
  (Path.places w.directory path).foldlM (fun w place => do
    match ← entryAt place with
    | some entry => return w.withEntry place entry
    | none => return w) w

/-- The names in a directory, each with whether it is one itself. -/
def names (place : List String) : IO (List (String × Bool)) := do
  let path := (← IO.currentDir) / Path.ofNames place
  let entries ← try path.readDir catch _ => pure #[]
  entries.toList.mapM (fun e => return (e.fileName, ← e.path.isDir))

/-- Takes in the names below a directory, as deep as asked for. Files that are new stay empty. -/
def survey : Nat → Workspace → List String → IO Workspace
  | 0, w, _ => return w
  | depth + 1, w, place => do
    (← names place).foldlM (fun w (name, isDirectory) => do
      let place := place ++ [name]
      if isDirectory then survey depth (w.withEntry place .empty) place
      else if (w.files.find? place).isSome then return w
      else return w.withEntry place (.file ByteArray.empty)) w

def deepest : Nat := 2048

/-- Takes in the files of an entry of a list of spec files. For a pattern its directory is
searched as deep as the pattern reaches. -/
def takeSpecFiles (w : Workspace) (entry : String) : IO Workspace := do
  if Glob.isPattern entry then
    let parts := Path.parts entry
    let lead := "/".intercalate (parts.takeWhile (!Glob.isPattern ·))
    let lead := if Path.isAbsolute entry then "/" ++ lead else lead
    let w ← take w lead
    let place := (Path.places w.directory lead).getLast?.getD w.directory
    let w ← survey (if parts.contains "**" then deepest else parts.length) w place
    match Registry.entryFiles (Glob.list w) entry with
    | .ok paths => paths.foldlM take w
    | .error _ => return w
  else take w entry

def takeVariable (w : Workspace) (name : String) : IO Workspace := do
  match ← IO.getEnv name with
  | some value => return w.withVariable name value
  | none => return w

/-- The variables that the spec files of a configuration file refer to. -/
def variableNames (w : Workspace) (path : String) : List String :=
  match (w.readText path).toOption.bind Toml.parse? with
  | some es =>
    match ConfigFile.decode es with
    | .ok f => f.specFiles.flatMap Text.variableNames
    | .error _ => []
  | none => []

def takeFor (w : Workspace) (options : Command.Options) : IO Workspace := do
  let paths := match options.config with
    | some path => [path]
    | none => Config.candidates w
  let w ← (("." :: paths).foldlM take w)
  let w ← (paths.flatMap (variableNames w)).foldlM takeVariable w
  match Config.load w options.config options.settings with
  | .ok c => c.specFiles.foldlM takeSpecFiles w
  | .error _ => return w

def workspace (args : List String) : IO Workspace := do
  let directory := (Path.parts (← IO.currentDir).toString).filter (· != "")
  let w ← takeVariable ⟨.empty, directory, []⟩ Command.configVariable
  match Command.request w.variableValue? args with
  | .ok (.run options _) => takeFor w options
  | _ => return w

end DirectiveDocs.Disk

open DirectiveDocs

def main (args : List String) : IO UInt32 := do
  let outcome := Command.run (← Disk.workspace args) args
  (← IO.getStdout).putStr outcome.output
  let errors ← IO.getStderr
  outcome.errors.forM errors.putStrLn
  return outcome.exitCode.toUInt32
