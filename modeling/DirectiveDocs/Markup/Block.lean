import DirectiveDocs.Markup.Token

namespace DirectiveDocs.Markup

/-- Inline text as tokens, with the end of its block and what its lines start with. -/
structure Passage where
  tokens : List Token
  stop : Nat
  containers : List Container
  inTable : Bool

inductive Scope (d : Dialect) where
  | quote (alert : Option { _a : Alert // d.has .github = true })
  | list (tight : Bool) (mark : ItemMark)
  | item (columns : Nat)
  | definitionList (tight : Bool)
  | definition (columns : Nat)

namespace Scope

variable {d : Dialect}

/-- What a line must start with to stay in the container. -/
def container? : Scope d → Option Container
  | quote _ => some .quote
  | item columns | definition columns => some (.indented columns)
  | list .. | definitionList _ => none

def isList : Scope d → Bool
  | list .. | definitionList _ => true
  | _ => false

def isItem : Scope d → Bool
  | item _ | definition _ => true
  | _ => false

def loosen : Scope d → Scope d
  | list _ mark => list false mark
  | definitionList _ => definitionList false
  | scope => scope

end Scope

/-- A block with its inline text not yet resolved. A `candidate` is a paragraph after a definition
that becomes a term if a definition follows it; a tight paragraph has no node of its own. -/
inductive Block (d : Dialect) where
  | paragraph (p : Passage)
  | tight (p : Passage)
  | candidate (p : Passage)
  | term (p : Passage)
  | heading (depth : Nat) (p : Passage)
  | rule
  | code (info : Option String) (lines : List String)
  | html (lines : List String)
  | table (columns : List Alignment) (rows : List (List Passage)) (allowed : d.has .github = true)
  | taskMarker (checked : Bool) (allowed : d.has .github = true)
  | group (scope : Scope d) (blocks : List (Block d))

structure Frame (d : Dialect) where
  scope : Scope d
  blocks : List (Block d)

structure LinkTarget where
  url : String
  title : String

/-- The document as far as it is read: open containers, innermost first; finished blocks, latest
first; whether the innermost item has begun with a blank line; whether the last line was blank;
and the link definitions by folded label. -/
structure Draft (d : Dialect) where
  frames : List (Frame d)
  blocks : List (Block d)
  emptyItem : Bool
  blank : Bool
  targets : List (String × LinkTarget)

namespace Block

variable {d : Dialect}

def tighten : Block d → Block d
  | paragraph p => tight p
  | b => b

/-- The paragraphs of a tight list's items lose their nodes. -/
def tightenItem : Block d → Block d
  | group scope blocks => group scope (blocks.map tighten)
  | b => b

/-- The blocks that a closed container gives, latest first: a candidate that no definition
followed stands after its list as a paragraph. -/
def ofFrame (f : Frame d) : List (Block d) :=
  match f.scope with
  | .list true _ => [group f.scope (f.blocks.reverse.map tightenItem)]
  | .definitionList isTight =>
    let finish (blocks : List (Block d)) : Block d :=
      group f.scope (if isTight then blocks.reverse.map tightenItem else blocks.reverse)
    match f.blocks with
    | candidate p :: rest => [paragraph p, finish rest]
    | heading depth p :: rest => [heading depth p, finish rest]
    | table columns rows allowed :: rest => [table columns rows allowed, finish rest]
    | blocks => [finish blocks]
  | _ => [group f.scope f.blocks.reverse]

end Block

namespace Draft

variable {d : Dialect}

def empty : Draft d := ⟨[], [], false, false, []⟩

def containers (t : Draft d) : List Container :=
  (t.frames.filterMap (·.scope.container?)).reverse

/-- The blocks of the innermost open container, latest first. -/
def current (t : Draft d) : List (Block d) :=
  match t.frames with
  | f :: _ => f.blocks
  | [] => t.blocks

def setCurrent (t : Draft d) (blocks : List (Block d)) : Draft d :=
  match t.frames with
  | f :: rest => { t with frames := { f with blocks := blocks } :: rest }
  | [] => { t with blocks := blocks }

def add (t : Draft d) (b : Block d) : Draft d :=
  t.setCurrent (b :: t.current)

def enter (t : Draft d) (scope : Scope d) : Draft d :=
  { t with frames := ⟨scope, []⟩ :: t.frames }

def leave (t : Draft d) : Draft d :=
  match t.frames with
  | [] => t
  | f :: rest =>
    let t := { t with frames := rest }
    let t := t.setCurrent (Block.ofFrame f ++ t.current)
    match f.scope with
    | .list true _ | .definitionList _ => { t with emptyItem := false }
    | _ => t

def leaveTo (t : Draft d) (depth : Nat) : Draft d :=
  (List.range (t.frames.length - depth)).foldl (fun t _ => t.leave) t

/-- An item may begin with one blank line only: after more it is closed empty. -/
def finishEmptyItem (t : Draft d) : Draft d :=
  let t := match t.frames with
    | f :: _ => if t.emptyItem && t.blank && f.scope.isItem then t.leave else t
    | [] => t
  { t with emptyItem := false }

/-- Closes an open list before a block that is not an item of it. A blank line before the block
loosens the list whose item the block stands in. -/
def finishList (t : Draft d) : Draft d :=
  let t := t.finishEmptyItem
  let t := match t.frames with
    | f :: _ => if f.scope.isList then t.leave else t
    | [] => t
  if t.blank then
    match t.frames with
    | f :: g :: rest =>
      { t with frames := f :: { g with scope := g.scope.loosen } :: rest, blank := false }
    | _ => { t with blank := false }
  else t

/-- Continues the open list if the mark fits it, or starts a new one. -/
def continueList (t : Draft d) (mark : ItemMark) : Draft d :=
  let t := t.finishEmptyItem
  let start (t : Draft d) : Draft d := { t.enter (.list true mark) with blank := false }
  match t.frames with
  | f :: rest =>
    match f.scope with
    | .list _ open_ =>
      if open_.sign == mark.sign then
        if t.blank then { t with frames := { f with scope := f.scope.loosen } :: rest, blank := false }
        else t
      else start t.finishList
    | _ => start t.finishList
  | [] => start t

/-- Enters a definition if a term or a definition stands before it. A paragraph becomes the
first term of a new list. -/
def enterDefinition? (t : Draft d) (columns : Nat) : Option (Draft d) :=
  let enterIn (t : Draft d) : Draft d :=
    let t := match t.frames with
      | f :: rest =>
        if t.blank && f.scope.isList then
          { t with frames := { f with scope := f.scope.loosen } :: rest, blank := false }
        else t
      | [] => t
    t.enter (.definition columns)
  match t.current with
  | .paragraph p :: rest =>
    some (enterIn (((t.setCurrent rest).enter (.definitionList true)).add (.term p)))
  | .candidate p :: rest => some (enterIn ((t.setCurrent rest).add (.term p)))
  | .group (.definition _) _ :: _ => some (enterIn t)
  | _ => none

/-- Makes room for a paragraph and tells whether it is a candidate for the next term: that is
one that follows a definition. In any other place it ends an open list. -/
def openParagraph (t : Draft d) : Draft d × Bool :=
  match t.frames with
  | f :: _ =>
    match f.scope, f.blocks with
    | .definitionList _, .group (.definition _) _ :: _ => ({ t with blank := false }, true)
    | _, _ => (t.finishList, false)
  | [] => (t.finishList, false)

def target? (t : Draft d) (label : String) : Option LinkTarget :=
  (t.targets.find? (fun e => e.1 == Unicode.foldCase label)).map (·.2)

/-- Keeps the first definition of a label. -/
def define (t : Draft d) (label : String) (target : LinkTarget) : Draft d :=
  match t.target? label with
  | some _ => t
  | none => { t with targets := (Unicode.foldCase label, target) :: t.targets }

end Draft
end DirectiveDocs.Markup
