import DirectiveDocs.Markup.Line
import DirectiveDocs.Markup.Link
import DirectiveDocs.Text.Blank
import DirectiveDocs.Unicode.Punctuation

namespace DirectiveDocs.Markup

inductive TokenKind where
  | text
  | reference (text : String)
  | delimiter (mark : Char) (count : Nat) (opens closes : Bool)
  | ticks (count : Nat) (escaped : Bool)
  | angle
  | linkOpen
  | imageOpen
  | bracketClose (viable : Bool)
  | softBreak
  | hardBreak (backslash : Bool)
  deriving DecidableEq, Repr

structure Token where
  start : Nat
  stop : Nat
  kind : TokenKind
  deriving DecidableEq, Repr

/-- How a line is cut into pieces: as a line of text, or as a cell that ends at a pipe. -/
inductive LineMode where
  | text | cell
  deriving DecidableEq

structure Run where
  mark : Char
  length : Nat
  before : Option Char
  escapedPipe : Bool
  after : Option Char
  mode : LineMode

namespace Run

def isPunctuation (c : Char) : Bool :=
  isAsciiPunctuation c || Unicode.isPunctuation c

def followsPipe (r : Run) : Bool :=
  r.mode == .cell && r.before == some '|' && !r.escapedPipe

def precedesPipe (r : Run) : Bool :=
  r.mode == .cell && r.after == some '|'

/-- Whether the run may stand inside a word. -/
def splitsWords (r : Run) : Bool :=
  r.mark == '*' || (r.mark == '~' && 1 < r.length)

def opens (r : Run) : Bool :=
  match r.after with
  | none => false
  | some after =>
    if Text.isBlank after then false
    else
      match r.before with
      | none => true
      | some before =>
        if r.followsPipe then true
        else if r.precedesPipe then false
        else if r.mark == '*' && !isPunctuation after then true
        else if r.mark == '~' && 1 < r.length then true
        else if r.mark == '~' && before == '~' && !isPunctuation after then true
        else Text.isBlank before || isPunctuation before

def closes (r : Run) : Bool :=
  match r.before with
  | none => false
  | some before =>
    if Text.isBlank before then false
    else
      match r.after with
      | none => true
      | some after =>
        if r.followsPipe then false
        else if r.precedesPipe then true
        else if r.splitsWords && !isPunctuation before then true
        else if r.mark == '~' && before == '~' then true
        else Text.isBlank after || isPunctuation after

end Run

/-- A line as it is cut: its pieces latest first, where the piece not yet cut starts, and the
pipes met. -/
structure LineScan where
  tokens : List Token
  since : Nat
  pipes : Nat
  lastPipe : Nat

namespace LineScan

def atStart (start : Nat) : LineScan := ⟨[], start, 0, start⟩

/-- Adds a piece of text, which may be empty. A text that follows a text continues it. -/
def pushText (tokens : List Token) (start stop : Nat) : List Token :=
  if start < stop then
    match tokens with
    | t :: rest =>
      if t.kind == .text && t.stop == start then { t with stop := stop } :: rest
      else ⟨start, stop, .text⟩ :: t :: rest
    | [] => [⟨start, stop, .text⟩]
  else tokens

/-- Ends the text before a position and adds a token there. -/
def cut (l : LineScan) (t : Token) (before : Nat) : LineScan :=
  { l with tokens := t :: pushText l.tokens l.since before, since := t.stop }

def cutText (l : LineScan) (stop : Nat) : LineScan :=
  { l with tokens := pushText l.tokens l.since stop, since := stop }

end LineScan

/-- How a line ends: with a break between lines, as the head of a table, or for good. -/
inductive LineEnd where
  | break (token : Token)
  | table (columns : List Alignment) (body : Nat)
  | done

structure Line where
  tokens : List Token
  position : Nat
  ending : LineEnd

/-- The rules of a line: where it starts and must end, how it is cut, the delimiters of the
dialect, and what makes it the head of a table. -/
structure LineRules where
  start : Nat
  limit : Nat
  mode : LineMode
  github : Bool
  table? : Option (Nat → Option (List Alignment × Nat))

namespace LineRules

def finish (s : Source) (stop : Nat) (l : LineScan) : Line :=
  let l := l.cutText (max l.since (s.skipBack isInlineBlank stop))
  ⟨l.tokens.reverse, stop, .done⟩

/-- The end of a line: a hard break after a backslash or two blanks, the head of a table, or a
soft break. -/
def lineBreak (r : LineRules) (s : Source) (i : Nat) (l : LineScan) : Line :=
  let next := min r.limit ((s.lineEnd? i).getD i)
  let backslashes := i - s.skipBack (· == '\\') i
  let text := s.skipBack isInlineBlank i
  if r.mode == .cell then finish s i l
  else if backslashes % 2 == 1 && next < r.limit then
    ⟨(l.cutText (i - 1)).tokens.reverse, next, .break ⟨i - 1, next, .hardBreak true⟩⟩
  else
    let head := if 0 < l.pipes then
        (r.table?.bind (fun row => row next)).filter (fun t =>
          t.1.length == s.headColumns r.start l.pipes l.lastPipe)
      else none
    match head with
    | some (columns, body) => ⟨l.tokens.reverse, next, .table columns body⟩
    | none =>
      if 2 ≤ i - text then
        ⟨(l.cutText text).tokens.reverse, next, .break ⟨text, next, .hardBreak false⟩⟩
      else
        ⟨(l.cutText text).tokens.reverse, next, .break ⟨i, next, .softBreak⟩⟩

/-- An escape, and how many characters it covers after the backslash. -/
def escape (r : LineRules) (s : Source) (i : Nat) (l : LineScan) : Nat × LineScan :=
  if i + 1 < r.limit && s.test (i + 1) isAsciiPunctuation then
    let l := l.cutText i
    if s.isAt (i + 1) backtick then
      let stop := s.skipWhile (· == backtick) (i + 1)
      (stop - i - 1, l.cut ⟨i + 1, stop, .ticks (stop - i - 1) true⟩ l.since)
    else if r.mode == .cell && i + 2 < r.limit && s.isAt (i + 1) '\\' && s.isAt (i + 2) '|' then
      (2, { l with since := i + 2 })
    else (1, { l with since := i + 1 })
  else (0, l)

/-- A run of delimiters, one token for each mark that can open or close. -/
def delimiters (r : LineRules) (s : Source) (i : Nat) (c : Char) (l : LineScan) :
    Nat × LineScan :=
  let count := s.skipWhile (· == c) i - i
  let run : Run :=
    { mark := c
      length := count
      before := if i = r.start then none else s[i - 1]?
      escapedPipe := r.start + 2 ≤ i && s.isAt (i - 2) '\\'
      after := s[i + count]?
      mode := r.mode }
  if (run.opens || run.closes) && (c != '~' || (r.github && count ≤ 2)) then
    let marks := (List.range count).map (fun k =>
      (⟨i + k, i + k + 1, .delimiter c (count - k) run.opens run.closes⟩ : Token))
    let l := l.cutText i
    (count - 1, { l with tokens := marks.reverse ++ l.tokens, since := i + count })
  else (count - 1, l)

/-- What a character does: either the line ends with it, or some characters after it are passed
along with it. -/
def step (r : LineRules) (s : Source) (i : Nat) (c : Char) (l : LineScan) :
    Line ⊕ (Nat × LineScan) :=
  let single (kind : TokenKind) (length : Nat) : Line ⊕ (Nat × LineScan) :=
    .inr (length - 1, l.cut ⟨i, i + length, kind⟩ i)
  if isLineEnd c then .inl (r.lineBreak s i l)
  else if c == '\\' then .inr (r.escape s i l)
  else if c == '*' || c == '_' || (c == '~' && r.github) then .inr (r.delimiters s i c l)
  else if c == backtick then
    let count := s.skipWhile (· == backtick) i - i
    single (.ticks count false) count
  else if c == '<' && !s.isAt (i + 1) '\\' then single .angle 1
  else if c == '!' && s.isAt (i + 1) '[' then single .imageOpen 2
  else if c == '[' then single .linkOpen 1
  else if c == ']' then single (.bracketClose true) 1
  else if c == '&' then
    match s.reference? i with
    | some (text, stop) => single (.reference text) (stop - i)
    | none => .inr (0, l)
  else if c == '|' then
    if r.mode == .cell then .inl (finish s i l)
    else if r.start < i && s.isAt (i - 1) '\\' then .inr (0, l)
    else .inr (0, { l with pipes := l.pipes + 1, lastPipe := i })
  else .inr (0, l)

def scan (r : LineRules) (s : Source) (i : Nat) (l : LineScan) : Line :=
  if _ : i < r.limit then
    match s[i]? with
    | none => finish s i l
    | some c =>
      match r.step s i c l with
      | .inl line => line
      | .inr (extra, l) => r.scan s (i + 1 + extra) l
  else finish s r.limit l
termination_by r.limit - i

def read (r : LineRules) (s : Source) : Line :=
  r.scan s r.start (.atStart r.start)

end LineRules
end DirectiveDocs.Markup
