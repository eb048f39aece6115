import DirectiveDocs.Files.Path

namespace DirectiveDocs

/-- Files and directories. No name occurs twice in a directory. -/
inductive FileTree where
  | file (content : ByteArray)
  | directory (entries : List (String × FileTree))

inductive FileError where
  | notFound | denied | notDirectory | isDirectory | nameTooLong | nulInName | notText
  deriving DecidableEq, Repr

def FileError.message : FileError → String
  | notFound => "No such file or directory (os error 2)"
  | denied => "Permission denied (os error 13)"
  | notDirectory => "Not a directory (os error 20)"
  | isDirectory => "Is a directory (os error 21)"
  | nameTooLong => "File name too long (os error 36)"
  | nulInName => "file name contained an unexpected NUL byte"
  | notText => "stream did not contain valid UTF-8"

namespace FileTree

def empty : FileTree := directory []

instance : Inhabited FileTree := ⟨empty⟩

def child? (name : String) : FileTree → Option FileTree
  | file _ => none
  | directory entries => (entries.find? (fun e => e.1 == name)).map (·.2)

def find? (t : FileTree) (names : List String) : Option FileTree :=
  names.foldlM (fun t name => t.child? name) t

def isDirectory : FileTree → Bool
  | file _ => false
  | directory _ => true

def names : FileTree → List String
  | file _ => []
  | directory entries => entries.map (·.1)

mutual

/-- How many names the longest way down has. -/
def height : FileTree → Nat
  | file _ => 0
  | directory entries => heights entries

def heights : List (String × FileTree) → Nat
  | [] => 0
  | e :: es => max (height e.2 + 1) (heights es)

end

mutual

/-- Puts an entry at the place that names lead to, with the directories on the way. -/
def insert (entry : FileTree) : List String → FileTree → FileTree
  | [], t =>
    match entry, t with
    | directory [], directory es => directory es
    | e, _ => e
  | name :: names, directory es => directory (insertInto entry name names es)
  | name :: names, file _ => directory (insertInto entry name names [])

def insertInto (entry : FileTree) (name : String) (names : List String) :
    List (String × FileTree) → List (String × FileTree)
  | [] => [(name, insert entry names empty)]
  | (n, t) :: es =>
    if n = name then (n, insert entry names t) :: es
    else (n, t) :: insertInto entry name names es

end

/-- Goes on from a place by one part of a path. Every part but an unknown name needs a directory
to stand in. -/
def step (root : FileTree) (place : List String) (part : String) :
    Except FileError (List String) :=
  match root.find? place with
  | some (directory entries) =>
    if part = "" ∨ part = "." then .ok place
    else if part = ".." then .ok place.dropLast
    else if 255 < part.utf8ByteSize then .error .nameTooLong
    else if entries.any (fun e => e.1 == part) then .ok (place ++ [part])
    else .error .notFound
  | some (file _) => .error .notDirectory
  | none => .error .notFound

/-- The place that a path leads to, seen from a directory. -/
def resolve (root : FileTree) (directory : List String) (path : String) :
    Except FileError (List String) :=
  if path.isEmpty then .error .notFound
  else if path.toList.contains '\x00' then .error .nulInName
  else if 4095 < path.utf8ByteSize then .error .nameTooLong
  else (Path.parts path).foldlM root.step (if Path.isAbsolute path then [] else directory)

end FileTree

/-- What a program sees around it: the files, the directory it works in and the variables of its
environment. -/
structure Workspace where
  files : FileTree
  directory : List String
  environment : List (String × String)

namespace Workspace

def entry (w : Workspace) (path : String) : Except FileError FileTree := do
  let place ← w.files.resolve w.directory path
  match w.files.find? place with
  | some t => .ok t
  | none => .error .notFound

def exists? (w : Workspace) (path : String) : Bool :=
  match w.entry path with
  | .ok _ => true
  | .error _ => false

def isDirectory (w : Workspace) (path : String) : Bool :=
  match w.entry path with
  | .ok t => t.isDirectory
  | .error _ => false

def names (w : Workspace) (path : String) : List String :=
  match w.entry path with
  | .ok t => t.names
  | .error _ => []

def readText (w : Workspace) (path : String) : Except FileError String := do
  match ← w.entry path with
  | .file content =>
    match String.fromUTF8? content with
    | some text => .ok text
    | none => .error .notText
  | .directory _ => .error .isDirectory

def withEntry (w : Workspace) (place : List String) (entry : FileTree) : Workspace :=
  { w with files := FileTree.insert entry place w.files }

def withVariable (w : Workspace) (name value : String) : Workspace :=
  { w with environment := (name, value) :: w.environment }

def variableValue? (w : Workspace) (name : String) : Option String :=
  (w.environment.find? (fun e => e.1 == name)).map (·.2)

end Workspace
end DirectiveDocs
