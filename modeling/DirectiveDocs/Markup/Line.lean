import DirectiveDocs.Markup.Cursor
import DirectiveDocs.Markup.Event

namespace DirectiveDocs.Markup

namespace Source

def runEnd (s : Source) (c : Char) (i : Nat) : Nat :=
  s.skipWhile (· == c) i

/-- The position after a line of at least three equal marks with blanks between them. -/
def thematicBreak? (s : Source) (i : Nat) : Option Nat :=
  match s[i]? with
  | some c =>
    if c == '*' || c == '-' || c == '_' then
      let stop := s.skipWhile (fun x => x == c || x == ' ' || x == '\t') i
      let marks := (s.extract i stop).foldl (fun n x => if x == c then n + 1 else n) 0
      match s.lineEnd? stop with
      | some after => if 3 ≤ marks then some after else none
      | none => none
    else none
  | none => none

def atxDepth? (s : Source) (i : Nat) : Option Nat :=
  let stop := s.runEnd '#' i
  let depth := stop - i
  let ends := match s[stop]? with
    | some c => isAsciiBlank c
    | none => true
  if ends && 1 ≤ depth && depth ≤ 6 then some depth else none

/-- The depth of a heading marked by an underline, and the position after the underline. -/
def underline? (s : Source) (i : Nat) : Option (Nat × Nat) :=
  match s[i]? with
  | some '=' => (s.blankLine? (s.runEnd '=' i)).map (fun after => (1, after))
  | some '-' => (s.blankLine? (s.runEnd '-' i)).map (fun after => (2, after))
  | _ => none

/-- The mark of a code fence and how often it stands. The info text after backticks has none. -/
def codeFence? (s : Source) (i : Nat) : Option (Char × Nat) :=
  match s[i]? with
  | some c =>
    if c == backtick || c == '~' then
      let stop := s.runEnd c i
      let ticks := c == backtick && (s.extract stop (s.nextLine stop)).any (· == backtick)
      if 3 ≤ stop - i && !ticks then some (c, stop - i) else none
    else none
  | none => none

/-- The position of the line end after a closing fence; the end of the text closes too. -/
def closingFence? (s : Source) (mark : Char) (length : Nat) (i : Nat) : Option Nat :=
  if i < s.size then
    let stop := s.runEnd mark i
    let after := s.runEnd ' ' stop
    if length ≤ stop - i && (s.lineEnd? after).isSome then some after else none
  else some i

def decimal (s : Source) (start stop : Nat) : Nat :=
  (s.extract start stop).foldl (fun n c => 10 * n + (c.toNat - '0'.toNat)) 0

def digitsEnd (s : Source) (limit : Nat) (i : Nat) : Nat :=
  min (i + limit) (s.skipWhile Char.isDigit i)

end Source

structure ItemMark where
  sign : Char
  start : Nat
  deriving DecidableEq, Repr

def isBullet (c : Char) : Bool :=
  c == '-' || c == '+' || c == '*'

namespace Source

/-- The mark of a list item and the position after it. A number has at most nine digits. -/
def itemMark? (s : Source) (i : Nat) : Option (ItemMark × Nat) :=
  match s[i]? with
  | some c =>
    if isBullet c then some (⟨c, 0⟩, i + 1)
    else if c.isDigit then
      let stop := s.digitsEnd 9 i
      match s[stop]? with
      | some sign =>
        if sign == '.' || sign == ')' then some (⟨sign, s.decimal i stop⟩, stop + 1) else none
      | none => none
    else none
  | none => none

def twoBlankLines (s : Source) (i : Nat) : Bool :=
  match s.blankLine? i with
  | some j => (s.blankLine? j).isSome
  | none => false

/-- Whether a list item starts here that may interrupt a paragraph: it is not empty, and a
number is one. In other places any list item interrupts. -/
def itemInterrupts (s : Source) (anyItem : Bool) (i : Nat) : Bool :=
  match s.itemMark? i with
  | some (mark, after) =>
    let blank := s.test after (fun c => c == ' ' || c == '\t')
    if blank || (s.lineEnd? after).isSome then
      anyItem || ((isBullet mark.sign || mark.start == 1) && !s.twoBlankLines after)
    else false
  | none => false

end Source

namespace Cursor

/-- The columns of an item's content. More than three columns after the marker's own one belong
to the content, and the rest of a blank line does not count. -/
def contentColumns (s : Source) (c : Cursor) (columns : Nat) : Nat × Cursor :=
  if (s.blankLine? c.position).isSome then (columns, c)
  else
    let (missing, after) := c.takeColumns s 4
    if 0 < missing then (columns + (4 - missing), after) else (columns, c)

/-- The marker of a list item that `outer` columns stand before, with the columns of its
content. -/
def itemMarker? (s : Source) (c : Cursor) (outer : Nat) : Option (ItemMark × Nat × Cursor) :=
  match s.itemMark? c.position with
  | some (mark, after) =>
    if isBullet mark.sign && (s.thematicBreak? c.position).isSome then none
    else
      let (missing, next) := ({ c with position := after }).takeColumns s 1
      if missing = 0 || next.atLineEnd s then
        let (columns, next) := next.contentColumns s (outer + (after - c.position) + 1)
        some (mark, columns, next)
      else none
  | none => none

/-- The marker of a definition, with the columns of its content. -/
def definitionMarker? (s : Source) (c : Cursor) (outer : Nat) : Option (Nat × Cursor) :=
  (c.take? s ':').map (fun c => (c.takeColumns s 1).2.contentColumns s (outer + 2))

/-- The box of a task, with whether it is checked. -/
def taskMarker? (s : Source) (c : Cursor) : Option (Bool × Cursor) :=
  match ((c.takeColumns s 3).2).take? s '[' with
  | some c =>
    let mark := s[c.position]?
    let blank := s.test c.position isInlineBlank
    let checked := mark == some 'x' || mark == some 'X'
    if (blank || checked) && s.isAt (c.position + 1) ']' && s.test (c.position + 2) isInlineBlank
    then some (checked, { c with position := c.position + 2 })
    else none
  | none => none

/-- An alert's tag, alone on the rest of its line, and the position of the next line. -/
def alert? (s : Source) (c : Cursor) : Option (Alert × Nat) :=
  let tags : List (String × Alert) :=
    [("note", .note), ("tip", .tip), ("important", .important), ("warning", .warning),
     ("caution", .caution)]
  if s.startsWith c.position ['[', '!'] then
    tags.findSome? (fun (name, alert) =>
      if s.startsWithFolded (c.position + 2) (name.toList ++ [']']) then
        (s.blankLine? (c.position + 2 + name.length + 1)).map (fun next => (alert, next))
      else none)
  else none

end Cursor

/-- A delimiter row as it is read: its columns so far, latest first. -/
structure DelimiterRow where
  columns : List Alignment
  current : Alignment
  fresh : Bool
  hyphen : Bool
  pipe : Bool
  anyHyphen : Bool

namespace DelimiterRow

def add (r : DelimiterRow) (c : Char) : Option DelimiterRow :=
  if c == ' ' then some r
  else if c == ':' then
    match r.fresh, r.current with
    | true, .none => some { r with current := .left, fresh := false }
    | false, .left => some { r with current := .center, fresh := false }
    | false, .none => some { r with current := .right, fresh := false }
    | _, _ => none
  else if c == '-' then some { r with fresh := false, hyphen := true, anyHyphen := true }
  else if c == '|' then
    if r.hyphen then
      some ⟨r.current :: r.columns, .none, true, false, true, r.anyHyphen⟩
    else none
  else none

/-- A row needs a pipe and a hyphen. -/
def finish (r : DelimiterRow) : Option (List Alignment) :=
  if r.pipe && r.anyHyphen then
    some (if r.fresh then r.columns else r.current :: r.columns).reverse
  else none

end DelimiterRow

namespace Source

/-- The columns of a table's delimiter row and the position after the row. -/
def delimiterRow? (s : Source) (i : Nat) : Option (List Alignment × Nat) :=
  let (missing, c) := (Cursor.atLine i).takeColumns s 4
  if missing = 0 then none
  else
    let pipe := s.isAt c.position '|'
    let start := if pipe then c.position + 1 else c.position
    let stop := s.skipWhile (fun x => !isLineEnd x) start
    if c.position < s.size then
      match (s.extract start stop).foldlM DelimiterRow.add ⟨[], .none, true, false, pipe, false⟩ with
      | some row => row.finish.map (fun columns => (columns, (s.lineEnd? stop).getD stop))
      | none => none
    else none

/-- The columns of a table's head row from its pipes: a pipe at either end divides nothing. -/
def headColumns (s : Source) (start pipes lastPipe : Nat) : Nat :=
  let opens := s.isAt (s.skipWhile isInlineBlank start) '|'
  let closes := (s.blankLine? (lastPipe + 1)).isSome
  let between := if opens then pipes - 1 else pipes
  if closes then between else between + 1

end Source
end DirectiveDocs.Markup
