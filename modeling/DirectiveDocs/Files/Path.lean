namespace DirectiveDocs.Path

def isAbsolute (path : String) : Bool :=
  path.toList.head? == some '/'

def split : List Char → List (List Char)
  | [] => [[]]
  | c :: cs =>
    if c = '/' then [] :: split cs
    else
      match split cs with
      | [] => [[c]]
      | part :: parts => (c :: part) :: parts

def parts (path : String) : List String :=
  (split path.toList).map String.ofList

/-- A path seen from a directory; an absolute path stays itself. -/
def join (directory path : String) : String :=
  if isAbsolute path || directory.isEmpty then path
  else if directory.toList.getLast? = some '/' then directory ++ path
  else directory ++ "/" ++ path

/-- A path, last character first, without slashes and parts of one dot at its end. -/
def trimReversed : List Char → List Char
  | ['/'] => ['/']
  | '/' :: cs => trimReversed cs
  | '.' :: '/' :: cs => trimReversed ('/' :: cs)
  | cs => cs

/-- The directory of a path that ends in a name. -/
def parent (path : String) : String :=
  String.ofList (trimReversed (path.toList.reverse.dropWhile (· != '/'))).reverse

def name (path : String) : String :=
  String.ofList (path.toList.reverse.takeWhile (· != '/')).reverse

/-- The absolute path of a place given by the names that lead to it. -/
def ofNames (names : List String) : String :=
  "/" ++ "/".intercalate names

/-- The place one part of a path further on. -/
def advance (place : List String) (part : String) : List String :=
  if part = "" ∨ part = "." then place
  else if part = ".." then place.dropLast
  else place ++ [part]

/-- The places that a path passes, the first one included; a place is given by the names that
lead to it. -/
def places (directory : List String) (path : String) : List (List String) :=
  let start := if isAbsolute path then [] else directory
  (parts path).foldl (fun visited part => visited ++ [advance (visited.getLast?.getD start) part])
    [start]

/-- A part's rank, and its name if it has one. The root comes before the current directory, this
before the directory above, and names come last. -/
def rank (part : String) : Nat × String :=
  if part = "." then (1, "") else if part = ".." then (2, "") else (3, part)

/-- The parts that count in the order of paths. -/
def ranks (path : String) : List (Nat × String) :=
  let ps := parts path
  let lead := if isAbsolute path then [(0, "")] else if ps.head? = some "." then [(1, "")] else []
  lead ++ (ps.filter (fun p => p != "" && p != ".")).map rank

def ranksLe : List (Nat × String) → List (Nat × String) → Bool
  | [], _ => true
  | _ :: _, [] => false
  | (i, s) :: ps, (j, t) :: qs =>
    if i < j then true
    else if j < i then false
    else if s < t then true
    else if t < s then false
    else ranksLe ps qs

def le (p q : String) : Bool :=
  ranksLe (ranks p) (ranks q)

end DirectiveDocs.Path
