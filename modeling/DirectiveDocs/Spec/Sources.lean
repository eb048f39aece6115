import DirectiveDocs.Config.Basic
import DirectiveDocs.Files.Glob
import DirectiveDocs.Spec.Builtin
import DirectiveDocs.Spec.Loading
import DirectiveDocs.Spec.Registry

namespace DirectiveDocs

inductive SpecFileError where
  | unreadable (path : String) (reason : FileError)
  | invalid (path : String) (reason : LoadError)
  deriving DecidableEq, Repr

def SpecFileError.message : SpecFileError → String
  | unreadable path e => "Failed to read " ++ path ++ ": " ++ e.message
  | invalid path e => e.message (some path)

namespace Spec

def loadFrom (readText : String → Except FileError String) (path : String) :
    Except SpecFileError (List Spec) := do
  let text ← (readText path).mapError (.unreadable path)
  (load text).mapError (.invalid path)

def loadFile (w : Workspace) (path : String) : Except SpecFileError (List Spec) :=
  loadFrom w.readText path

end Spec

inductive SourceError where
  | pattern (reason : Glob.PatternError)
  | unlisted (reason : FileError)
  | file (reason : SpecFileError)
  deriving DecidableEq, Repr

def SourceError.message : SourceError → String
  | pattern e => "Invalid spec file pattern: " ++ e.message
  | unlisted e => e.message
  | file e => e.message

namespace Registry

/-- The files of an entry: a pattern stands for its matches in order, a path for itself. -/
def entryFiles (list : Glob.Lister) (entry : String) : Except SourceError (List String) :=
  if Glob.isPattern entry then do
    let found ← (list entry).mapError .pattern
    let paths ← (found.mapM id).mapError .unlisted
    .ok (paths.mergeSort Path.le)
  else .ok [entry]

def files (list : Glob.Lister) (entries : List String) : Except SourceError (List String) := do
  .ok (← entries.mapM (entryFiles list)).flatten

/-- The registry of a configuration: the built-in specs first, then those of each file. All files
are read together. -/
def assemble (list : Glob.Lister)
    (readAll : List String → Except SpecFileError (List (List Spec))) (c : Config) :
    Except SourceError Registry := do
  let paths ← files list c.specFiles
  let loaded ← (readAll paths).mapError .file
  .ok (ofList ((if c.builtins then Spec.builtins else []) ++ loaded.flatten))

def load (w : Workspace) (c : Config) : Except SourceError Registry :=
  assemble (Glob.list w) (fun paths => paths.mapM (Spec.loadFile w)) c

end Registry
end DirectiveDocs
