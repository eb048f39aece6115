import DirectiveDocs.Config.File
import DirectiveDocs.Files.Tree
import DirectiveDocs.Text.Blank
import DirectiveDocs.Text.Expansion

namespace DirectiveDocs

/-- Where specs come from and how output is written. -/
structure Config where
  builtins : Bool := true
  specFiles : List String := []
  pretty : Bool := true
  path : Option String := none
  deriving DecidableEq, Repr

/-- Settings that are stronger than the file's; spec files are added to the file's. -/
structure Settings where
  builtins : Option Bool := none
  specFiles : List String := []
  pretty : Option Bool := none
  deriving DecidableEq, Repr

inductive ConfigError where
  | notFound (path : String)
  | unreadable (reason : FileError)
  | malformed
  | misfit (reason : ConfigMisfit)
  | unsetVariable (index : Nat) (name : String)
  | blankEntry (index : Nat)
  | noSource

namespace Config

def default : Config where

instance : Inhabited Config := ⟨default⟩

def fileName : String := "mystdoc.toml"

/-- An entry of the list of spec files, as messages name it. -/
def entryName (index : Nat) : String :=
  "registry.spec_files[" ++ toString index ++ "]"

end Config

def ConfigError.message : ConfigError → String
  | notFound path => "Configuration file not found: " ++ path
  | unreadable e => "I/O error: " ++ e.message
  | malformed => "TOML parse error"
  | misfit m => "TOML parse error: " ++ m.message
  | unsetVariable i name =>
    "Environment variable error in " ++ Config.entryName i ++ ": $\x7b" ++ name ++ "\x7d not set"
  | blankEntry i => "Configuration error: " ++ Config.entryName i ++ " cannot be empty"
  | noSource =>
    "Configuration error: registry has no specs: enable registry.builtins or list " ++
      "registry.spec_files"

namespace Config

/-- A registry needs the built-in specs or a spec file. -/
def hasSource (c : Config) : Bool :=
  c.builtins || !c.specFiles.isEmpty

/-- Replaces the variables of entries, the first of which has an index. -/
def expandEntries (w : Workspace) : Nat → List String → Except ConfigError (List String)
  | _, [] => .ok []
  | i, entry :: rest =>
    match Text.expand w.variableValue? entry with
    | .ok text => do
      .ok (text :: (← expandEntries w (i + 1) rest))
    | .error name => .error (.unsetVariable i name)

def checkEntries (entries : List String) : Except ConfigError Unit :=
  match entries.findIdx? Text.isBlankText with
  | some i => .error (.blankEntry i)
  | none => .ok ()

/-- The configuration of a file; its spec files are seen from its directory. -/
def ofFile (w : Workspace) (path : String) (f : ConfigFile) : Except ConfigError Config := do
  let entries ← expandEntries w 0 f.specFiles
  checkEntries entries
  .ok ⟨f.builtins.getD true, entries.map (Path.join (Path.parent path)), f.pretty, some path⟩

def read (w : Workspace) (path : String) : Except ConfigError Config := do
  let text ← (w.readText path).mapError .unreadable
  match Toml.parse? text with
  | some es => do
    let f ← (ConfigFile.decode es).mapError .misfit
    ofFile w path f
  | none => .error .malformed

def apply (s : Settings) (c : Config) : Config :=
  { c with
    builtins := s.builtins.getD c.builtins
    specFiles := c.specFiles ++ s.specFiles
    pretty := s.pretty.getD c.pretty }

/-- The directories from a place up to the root, given by the names that lead to them. -/
def ancestors : List String → List (List String)
  | [] => [[]]
  | name :: names => (ancestors names).map (name :: ·) ++ [[]]

/-- Where a configuration file may be, the nearest directory first. -/
def candidates (w : Workspace) : List String :=
  (ancestors w.directory).map (fun names => Path.join (Path.ofNames names) fileName)

def discover (w : Workspace) : Option String :=
  (candidates w).find? w.exists?

/-- The configuration that holds without settings: that of a file which must be there, or of the
file that is found, or the default one. -/
def base (w : Workspace) (path : Option String) : Except ConfigError Config :=
  match path with
  | some p => if w.exists? p then read w p else .error (.notFound p)
  | none =>
    match discover w with
    | some p => read w p
    | none => .ok default

def load (w : Workspace) (path : Option String) (s : Settings) : Except ConfigError Config := do
  let c := (← base w path).apply s
  if c.hasSource then .ok c else .error .noSource

end Config
end DirectiveDocs
