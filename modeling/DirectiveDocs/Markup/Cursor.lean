import DirectiveDocs.Markup.Source

namespace DirectiveDocs.Markup

/-- A place at the start of a line, counted in columns. A tab reaches to the next multiple of
four from where tabs are counted; the columns of it not used yet are `pending`. -/
structure Cursor where
  position : Nat
  tabStart : Nat
  pending : Nat

inductive Container where
  | quote
  | indented (columns : Nat)
  deriving DecidableEq, Repr

namespace Cursor

def atLine (i : Nat) : Cursor := ⟨i, i, 0⟩

def column? (s : Source) (c : Cursor) : Option Cursor :=
  if 0 < c.pending then some { c with pending := c.pending - 1 }
  else
    match s[c.position]? with
    | some ' ' => some { c with position := c.position + 1 }
    | some '\t' => some ⟨c.position + 1, c.position + 1, 3 - (c.position - c.tabStart) % 4⟩
    | _ => none

/-- Takes up to a number of columns and tells how many were missing. -/
def takeColumns (s : Source) : Nat → Cursor → Nat × Cursor
  | 0, c => (0, c)
  | n + 1, c =>
    match c.column? s with
    | some c => takeColumns s n c
    | none => (n + 1, c)

/-- Takes all blanks and forgets columns of a tab not used yet. -/
def takeBlanks (s : Source) (c : Cursor) : Cursor :=
  { c with position := s.skipWhile (fun x => x == ' ' || x == '\t') c.position, pending := 0 }

def atLineEnd (s : Source) (c : Cursor) : Bool :=
  match s[c.position]? with
  | some x => isLineEnd x
  | none => true

def take? (s : Source) (x : Char) (c : Cursor) : Option Cursor :=
  if s.isAt c.position x then some { c with position := c.position + 1 } else none

/-- A quote marker with one column after it. -/
def quoteMarker? (s : Source) (c : Cursor) : Option Cursor :=
  (c.take? s '>').map (fun c => (c.takeColumns s 1).2)

/-- Takes the start of a line that continues a container. A line without text continues any
indented container. -/
def continue? (s : Source) (c : Cursor) : Container → Option Cursor
  | .quote => (c.takeColumns s 3).2.quoteMarker? s
  | .indented columns =>
    let (missing, c) := c.takeColumns s columns
    if missing = 0 || c.atLineEnd s then some c else none

/-- Takes what continues the containers, outermost first, and gives those that do not continue. -/
def continueAll (s : Source) (c : Cursor) : List Container → List Container × Cursor
  | [] => ([], c)
  | k :: ks =>
    match c.continue? s k with
    | some c => c.continueAll s ks
    | none => (k :: ks, c)

end Cursor

/-- The position after what continues the containers at the start of a line. -/
def skipContainers (s : Source) (containers : List Container) (i : Nat) : Nat :=
  ((Cursor.atLine i).continueAll s containers).2.position

end DirectiveDocs.Markup
