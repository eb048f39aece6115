import DirectiveDocs.Files.Tree

namespace DirectiveDocs.Glob

/-- A part of a pattern: `?`, `*`, `**`, a set of characters in brackets, or a character. -/
inductive Token where
  | anyChar
  | anyText
  | anyPath
  | oneOf (negated : Bool) (ranges : List (Char × Char))
  | char (c : Char)
  deriving DecidableEq, Repr

inductive Problem where
  | wildcards | recursiveWildcard | range
  deriving DecidableEq, Repr

def Problem.message : Problem → String
  | wildcards => "wildcards are either regular `*` or recursive `**`"
  | recursiveWildcard => "recursive wildcards must form a single path component"
  | range => "invalid range pattern"

structure PatternError where
  position : Nat
  problem : Problem
  deriving DecidableEq, Repr

def PatternError.message (e : PatternError) : String :=
  "Pattern syntax error near position " ++ toString e.position ++ ": " ++ e.problem.message

abbrev Pattern := List Token

def ranges : List Char → List (Char × Char)
  | a :: '-' :: b :: cs => (a, b) :: ranges cs
  | a :: cs => (a, a) :: ranges cs
  | [] => []

/-- The set after an opening bracket, and the rest after the closing one. The first character of
a set is never the closing bracket. -/
def bracket? (cs : List Char) : Option (Token × List Char) :=
  let close (negated : Bool) : List Char → Option (Token × List Char)
    | first :: cs =>
      match cs.dropWhile (· != ']') with
      | _ :: rest => some (.oneOf negated (ranges (first :: cs.takeWhile (· != ']'))), rest)
      | [] => none
    | [] => none
  match cs with
  | '!' :: cs => close true cs
  | cs => close false cs

/-- Reads tokens from a position on, with the character before it. Two stars must stand between
slashes. -/
def tokens : Nat → Nat → Option Char → List Char → Except PatternError Pattern
  | 0, _, _, _ => .ok []
  | fuel + 1, i, before, cs =>
    match cs with
    | [] => .ok []
    | '?' :: rest => do
      .ok (.anyChar :: (← tokens fuel (i + 1) (some '?') rest))
    | '*' :: rest =>
      let count := 1 + (rest.takeWhile (· == '*')).length
      let rest := rest.dropWhile (· == '*')
      if 2 < count then .error ⟨i + 2, .wildcards⟩
      else if count = 1 then do
        .ok (.anyText :: (← tokens fuel (i + 1) (some '*') rest))
      else if before = none ∨ before = some '/' then
        match rest with
        | [] => .ok [.anyPath]
        | '/' :: rest => do
          .ok (.anyPath :: (← tokens fuel (i + 3) (some '/') rest))
        | _ => .error ⟨i + 2, .recursiveWildcard⟩
      else .error ⟨i - 1, .recursiveWildcard⟩
    | '[' :: rest =>
      match bracket? rest with
      | some (token, after) => do
        .ok (token :: (← tokens fuel (i + 1 + (rest.length - after.length)) (some ']') after))
      | none => .error ⟨i, .range⟩
    | c :: rest => do
      .ok (.char c :: (← tokens fuel (i + 1) (some c) rest))

def parse (text : String) : Except PatternError Pattern :=
  tokens text.length 0 none text.toList

def Token.admits : Token → Char → Bool
  | anyChar, _ => true
  | oneOf negated rs, c => rs.any (fun r => r.1 ≤ c && c ≤ r.2) != negated
  | char d, c => c == d
  | _, _ => false

def Token.isStar : Token → Bool
  | anyText | anyPath => true
  | _ => false

/-- The ends of a text, the whole of it first. -/
def suffixes : List Char → List (List Char)
  | [] => [[]]
  | c :: cs => (c :: cs) :: suffixes cs

def matchesAll : Pattern → List Char → Bool
  | [], cs => cs.isEmpty
  | t :: ts, cs =>
    if t.isStar then (suffixes cs).any (matchesAll ts)
    else
      match cs with
      | c :: rest => t.admits c && matchesAll ts rest
      | [] => false

/-- The text of a pattern that has only characters. -/
def literal? : Pattern → Option (List Char)
  | [] => some []
  | .char c :: ts => (literal? ts).map (c :: ·)
  | _ => none

def isRecursive (p : Pattern) : Bool :=
  p.contains .anyPath

/-- A path below a directory; below the directory of the program it is the path alone. -/
def below (directory path : String) : String :=
  if directory = "." then path else Path.join directory path

mutual

/-- The paths below a directory that patterns lead to, a pattern for each part. A part without
wildcards is looked up and not searched for. -/
def search (w : Workspace) (onlyDirectories : Bool) :
    Nat → List Pattern → String → List String
  | 0, _, _ | _, [], _ => []
  | fuel + 1, p :: ps, directory =>
    match literal? p with
    | some name =>
      let name := String.ofList name
      let path := below directory name
      let isSpecial := name = "." ∨ name = ".."
      if if isSpecial then w.isDirectory directory else w.exists? path then
        arrive w onlyDirectories fuel ps path
      else []
    | none =>
      if w.isDirectory directory then
        let specials := if p.head? = some (.char '.') then
            [".", ".."].filter (fun s => matchesAll p s.toList) else []
        (w.names directory).flatMap
            (fun name => visit w onlyDirectories fuel (p :: ps) (below directory name)) ++
          specials.flatMap
            (fun s => arrive w onlyDirectories fuel ps (Path.join directory s))
      else []

/-- A path that has matched so far: the result, or a place to search. -/
def arrive (w : Workspace) (onlyDirectories : Bool) :
    Nat → List Pattern → String → List String
  | 0, _, _ => []
  | _, [], path => if onlyDirectories && !w.isDirectory path then [] else [path]
  | fuel + 1, ps, path => search w onlyDirectories fuel ps path

/-- A path whose name is still to be matched. Two stars match any number of directories. -/
def visit (w : Workspace) (onlyDirectories : Bool) :
    Nat → List Pattern → String → List String
  | 0, _, _ | _, [], _ => []
  | fuel + 1, p :: ps, path =>
    let isMatch (p : Pattern) (ps : List Pattern) : List String :=
      if matchesAll p (Path.name path).toList then arrive w onlyDirectories fuel ps path else []
    if isRecursive p then
      let ps := ps.dropWhile isRecursive
      let deeper := if w.isDirectory path then search w onlyDirectories fuel (p :: ps) path else []
      deeper ++
        match ps with
        | [] => if w.isDirectory path then [path] else []
        | q :: qs => isMatch q qs
    else isMatch p ps

end

/-- The parts of a pattern without its root; a slash at the end adds none. -/
def parts (pattern : String) : List String :=
  let cs := if Path.isAbsolute pattern then pattern.toList.drop 1 else pattern.toList
  let ps := (Path.split cs).map String.ofList
  if ps.getLast? = some "" then ps.dropLast else ps

/-- Lists what a pattern leads to, in no certain order: paths, and reasons why a place on the way
cannot be listed. -/
abbrev Lister := String → Except PatternError (List (Except FileError String))

/-- The paths that a pattern matches. In a workspace every place can be listed. -/
def list (w : Workspace) : Lister := fun pattern => do
  let _ ← parse pattern
  let ps ← (parts pattern).mapM parse
  let scope := if Path.isAbsolute pattern then "/" else "."
  let onlyDirectories := pattern.toList.getLast? == some '/'
  let fuel := 4 * (ps.length + 1) * (w.files.height + 2)
  .ok ((search w onlyDirectories fuel ps scope).map .ok)

def isPattern (path : String) : Bool :=
  path.toList.any (fun c => c == '*' || c == '?' || c == '[')

end DirectiveDocs.Glob
