import DirectiveDocs.Decimal.Reading
import DirectiveDocs.Yaml.Token

namespace DirectiveDocs.Yaml

/-- What stands between two words of a scalar: blanks, or line breaks of which the first is
kept apart. -/
structure Gap where
  broken : Bool := false
  blanks : List Char := []
  first : List Char := []
  more : List Char := []

namespace Gap

def empty : Gap where

/-- One line feed is folded to a space, and of several the first is dropped. -/
def text (g : Gap) : List Char :=
  if g.broken then
    if g.first = ['\n'] then (if g.more.isEmpty then [' '] else g.more) else g.first ++ g.more
  else g.blanks

/-- Reads blanks and breaks. A tab may not stand before a column on a new line. -/
def read (column : Nat) : Nat → Gap → Cursor → Option (Gap × Cursor)
  | 0, g, c => some (g, c)
  | fuel + 1, g, c =>
    match c.rest with
    | x :: _ =>
      if isSpace x then
        if g.broken then
          if x = '\t' ∧ c.mark.column < column then none else read column fuel g c.skip
        else read column fuel { g with blanks := g.blanks ++ [x] } c.skip
      else if isBreak x then
        let g := if g.broken then { g with more := g.more ++ c.breakText }
          else { g with broken := true, first := c.breakText }
        read column fuel g c.skipBreak
      else some (g, c)
    | [] => some (g, c)

end Gap

/-- A scalar's text, the place after it, and whether a line break was passed after its last
word. -/
structure ScalarText where
  text : List Char
  stop : Cursor
  broken : Bool := false

namespace Plain

/-- The characters up to a blank or an indicator. In a flow collection a colon may not stand
before an indicator. -/
def word (inFlow : Bool) : List Char → Option (List Char × List Char)
  | [] => some ([], [])
  | x :: rest =>
    if isGap x then some ([], x :: rest)
    else if inFlow && x == ':' && (rest.head?.any (fun y => isFlowIndicator y || y == '?')) then
      none
    else if (x == ':' && wordEnds rest) || (inFlow && isFlowIndicator x) then some ([], x :: rest)
    else (word inFlow rest).map (fun (w, r) => (x :: w, r))

/-- Words and the gaps between them, on lines indented to a column. -/
def words (inFlow : Bool) (column : Nat) :
    Nat → List Char → Gap → Cursor → Option ScalarText
  | 0, _, _, _ => none
  | fuel + 1, text, gap, c =>
    if c.isDocumentIndicator || c.rest.head? == some '#' then some ⟨text, c, gap.broken⟩
    else do
      let (w, rest) ← word inFlow c.rest
      let c := c.upTo rest
      if w.isEmpty then some ⟨text, c, gap.broken⟩
      else
        let text := text ++ gap.text ++ w
        if !wordEnds c.rest || c.rest.isEmpty then some ⟨text, c, false⟩
        else
          let (gap, c) ← Gap.read column (c.rest.length + 1) .empty c
          if !inFlow && c.mark.column < column then some ⟨text, c, gap.broken⟩
          else words inFlow column fuel text gap c

end Plain

def plainScalar (inFlow : Bool) (column : Nat) (c : Cursor) : Option ScalarText :=
  Plain.words inFlow column (c.rest.length + 1) [] .empty c

namespace Quoted

/-- The characters that stand for one other after a backslash. -/
def shortEscape? (x : Char) : Option Char :=
  match x with
  | '0' => some '\x00'
  | 'a' => some '\x07'
  | 'b' => some '\x08'
  | 't' | '\t' => some '\t'
  | 'n' => some '\n'
  | 'v' => some '\x0b'
  | 'f' => some '\x0c'
  | 'r' => some '\r'
  | 'e' => some '\x1b'
  | ' ' => some ' '
  | '"' => some '"'
  | '/' => some '/'
  | '\\' => some '\\'
  | 'N' => some '\u0085'
  | '_' => some '\u00a0'
  | 'L' => some '\u2028'
  | 'P' => some '\u2029'
  | _ => none

def escapeLength? (x : Char) : Option Nat :=
  match x with
  | 'x' => some 2
  | 'u' => some 4
  | 'U' => some 8
  | _ => none

/-- The character of that number, which is no surrogate. -/
def scalarValue? (n : Nat) : Option Char :=
  if n.isValidChar then some (Char.ofNat n) else none

/-- The character that an escape stands for, and the rest after it. -/
def escape? : List Char → Option (Char × List Char)
  | [] => none
  | x :: rest =>
    match shortEscape? x, escapeLength? x with
    | some y, _ => some (y, rest)
    | none, some n =>
      if rest.length < n then none
      else do
        let value ← Decimal.natural? 16 (rest.take n)
        let y ← scalarValue? value
        some (y, rest.drop n)
    | none, none => none

/-- The characters up to a blank or the closing quote, with escapes read. -/
def word (double : Bool) : Nat → List Char → Option (List Char × List Char)
  | 0, rest => some ([], rest)
  | fuel + 1, rest =>
    match rest with
    | [] => some ([], [])
    | x :: rest =>
      if isGap x then some ([], x :: rest)
      else if double then
        if x = '"' then some ([], x :: rest)
        else if x = '\\' then
          if rest.head?.any isBreak then some ([], x :: rest)
          else do
            let (y, rest) ← escape? rest
            let (w, rest) ← word double fuel rest
            some (y :: w, rest)
        else (word double fuel rest).map (fun (w, r) => (x :: w, r))
      else if x = '\'' then
        match rest with
        | '\'' :: rest => (word double fuel rest).map (fun (w, r) => ('\'' :: w, r))
        | _ => some ([], x :: rest)
      else (word double fuel rest).map (fun (w, r) => (x :: w, r))

/-- Words and the gaps between them up to the closing quote. A backslash before a break joins
the lines. -/
def words (double : Bool) : Nat → List Char → Cursor → Option ScalarText
  | 0, _, _ => none
  | fuel + 1, text, c =>
    if c.isDocumentIndicator || c.rest.isEmpty then none
    else do
      let (w, rest) ← word double c.rest.length c.rest
      let c := c.upTo rest
      let (joined, c) := match c.rest with
        | '\\' :: _ => (true, c.skip.skipBreak)
        | _ => (false, c)
      let text := text ++ w
      if c.rest.head? == some (if double then '"' else '\'') then some ⟨text, c.skip, false⟩
      else
        let (gap, c) ← Gap.read 0 (c.rest.length + 1) { Gap.empty with broken := joined } c
        words double fuel (text ++ gap.text) c

end Quoted

def quotedScalar (double : Bool) (c : Cursor) : Option ScalarText :=
  Quoted.words double (c.rest.length + 1) [] c.skip

namespace Block

inductive Chomping where
  | strip | clip | keep
  deriving DecidableEq, Repr

structure Header where
  chomping : Chomping := .clip
  indentation : Option Nat := none

def chomping? (c : Cursor) : Option (Chomping × Cursor) :=
  match c.rest with
  | '+' :: _ => some (.keep, c.skip)
  | '-' :: _ => some (.strip, c.skip)
  | _ => none

/-- A digit for the indentation, which may not be zero. -/
def indentation (c : Cursor) : Option (Option Nat × Cursor) :=
  match c.rest with
  | x :: _ =>
    if x = '0' then none
    else if x.isDigit then some (Decimal.digitValue? x, c.skip)
    else some (none, c)
  | [] => some (none, c)

def header (c : Cursor) : Option (Header × Cursor) :=
  match chomping? c with
  | some (chomping, c) => do
    let (n, c) ← indentation c
    some (⟨chomping, n⟩, c)
  | none => do
    let (n, c) ← indentation c
    match n, chomping? c with
    | some n, some (chomping, c) => some (⟨chomping, some n⟩, c)
    | n, _ => some (⟨.clip, n⟩, c)

/-- Line breaks and the indentation of the next line, with the widest indentation seen. No
column means that any indentation is taken. -/
def breaks (column : Option Nat) :
    Nat → Nat → List Char → Cursor → Option (Nat × List Char × Cursor)
  | 0, widest, text, c => some (widest, text, c)
  | fuel + 1, widest, text, c =>
    let spaces := (c.rest.takeWhile (· == ' ')).length
    let c := c.skip (match column with
      | some n => min spaces (n - c.mark.column)
      | none => spaces)
    let widest := max widest c.mark.column
    let short := column.all (fun n => c.mark.column < n)
    if short && c.rest.head? == some '\t' then none
    else if c.rest.head?.any isBreak then
      breaks column fuel widest (text ++ c.breakText) c.skipBreak
    else some (widest, text, c)

/-- What is known of a block scalar before a line of it: its text, the break before the line,
the empty lines before that, and whether the last line started with a blank. -/
structure Draft where
  text : List Char
  lead : List Char
  empty : List Char
  indented : Bool

/-- Lines at a column. When lines are folded, a line feed between two lines that start without
a blank becomes a space, or nothing before empty lines. -/
def lines (isLiteral : Bool) (column : Nat) : Nat → Draft → Cursor → Option (Draft × Cursor)
  | 0, d, c => some (d, c)
  | fuel + 1, d, c =>
    if c.mark.column ≠ column || c.rest.isEmpty then some (d, c)
    else
      let indented := c.rest.head?.any isSpace
      let fold := !isLiteral && d.lead == ['\n'] && !d.indented && !indented
      let lead := if fold then (if d.empty.isEmpty then [' '] else []) else d.lead
      let line := c.rest.takeWhile (fun x => !isBreak x)
      let stop := c.skip line.length
      match breaks (some column) (stop.rest.length + 1) 0 [] stop.skipBreak with
      | some (_, empty, next) =>
        lines isLiteral column fuel
          ⟨d.text ++ lead ++ d.empty ++ line, stop.breakText, empty, indented⟩ next
      | none => none

end Block

/-- A literal or folded scalar, from its indicator on, inside a block that starts at a column. -/
def blockScalar (isLiteral : Bool) (block : Option Nat) (c : Cursor) : Option ScalarText := do
  let (header, c) ← Block.header c.skip
  let c ← c.finishLine?
  let given := header.indentation.map (fun n => block.getD 0 + n)
  let (widest, empty, c) ← Block.breaks given (c.rest.length + 1) 0 [] c
  let inner := (block.map (· + 1)).getD 0
  let column := given.getD (max widest (max inner 1))
  let (d, c) ← Block.lines isLiteral column (c.rest.length + 1) ⟨[], [], empty, false⟩ c
  let text := match header.chomping with
    | .strip => d.text
    | .clip => d.text ++ d.lead
    | .keep => d.text ++ d.lead ++ d.empty
  some ⟨text, c, false⟩

end DirectiveDocs.Yaml
