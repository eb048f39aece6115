namespace DirectiveDocs.Yaml

/-- A place in a text: how many characters, lines, and characters of its line come before it. -/
structure Mark where
  index : Nat
  line : Nat
  column : Nat
  deriving DecidableEq, Repr

namespace Mark

def first : Mark := ⟨0, 0, 0⟩

instance : Inhabited Mark := ⟨first⟩

/-- The start of the next line, unless this is the start of a line. -/
def lineStart (m : Mark) : Mark :=
  if m.column = 0 then m else ⟨m.index, m.line + 1, 0⟩

end Mark

def isBreak (c : Char) : Bool :=
  c == '\n' || c == '\r' || c == '\u0085' || c == '\u2028' || c == '\u2029'

def isSpace (c : Char) : Bool :=
  c == ' ' || c == '\t'

/-- The characters that end a word. -/
def isGap (c : Char) : Bool :=
  isSpace c || isBreak c

def isNameChar (c : Char) : Bool :=
  c.isAlphanum || c == '_' || c == '-'

def isFlowIndicator (c : Char) : Bool :=
  c == ',' || c == '[' || c == ']' || c == '\x7b' || c == '\x7d'

def isPrintable (c : Char) : Bool :=
  let n := c.toNat
  n == 0x09 || n == 0x0A || n == 0x0D || (0x20 ≤ n && n ≤ 0x7E) || n == 0x85 ||
  (0xA0 ≤ n && n ≤ 0xD7FF) || (0xE000 ≤ n && n ≤ 0xFFFD) || 0x10000 ≤ n

def wordEnds (cs : List Char) : Bool :=
  match cs with
  | [] => true
  | c :: _ => isGap c

def lineEnds (cs : List Char) : Bool :=
  match cs with
  | [] => true
  | c :: _ => isBreak c

/-- What is left of a text at a place of it. -/
structure Cursor where
  mark : Mark
  rest : List Char

namespace Cursor

def ofString (s : String) : Cursor := ⟨.first, s.toList⟩

def skip (c : Cursor) (n : Nat := 1) : Cursor :=
  ⟨⟨c.mark.index + n, c.mark.line, c.mark.column + n⟩, c.rest.drop n⟩

/-- The place where the rest of the text, which starts on the same line, is a given one. -/
def upTo (c : Cursor) (rest : List Char) : Cursor :=
  let n := c.rest.length - rest.length
  ⟨⟨c.mark.index + n, c.mark.line, c.mark.column + n⟩, rest⟩

/-- The start of the next line, when a line break stands here. A carriage return and a line
feed are one break. -/
def skipBreak (c : Cursor) : Cursor :=
  match c.rest with
  | '\r' :: '\n' :: rest => ⟨⟨c.mark.index + 2, c.mark.line + 1, 0⟩, rest⟩
  | x :: rest => if isBreak x then ⟨⟨c.mark.index + 1, c.mark.line + 1, 0⟩, rest⟩ else c
  | [] => c

/-- A line break as it counts in a scalar: the separators of lines and of paragraphs stay, all
other breaks are line feeds. -/
def breakText (c : Cursor) : List Char :=
  match c.rest with
  | x :: _ => if x = '\u2028' ∨ x = '\u2029' then [x] else if isBreak x then ['\n'] else []
  | [] => []

def skipWhile (p : Char → Bool) (c : Cursor) : Cursor :=
  c.upTo (c.rest.dropWhile p)

def skipSpaces (c : Cursor) : Cursor :=
  c.skipWhile isSpace

def skipComment (c : Cursor) : Cursor :=
  match c.rest with
  | '#' :: _ => c.skipWhile (fun x => !isBreak x)
  | _ => c

/-- The next line, when this one has only blanks and a comment left. -/
def finishLine? (c : Cursor) : Option Cursor :=
  let c := c.skipSpaces.skipComment
  if lineEnds c.rest then some c.skipBreak else none

/-- Whether a line that separates documents starts here: three of one character and the end of
a word. -/
def isDocumentLine (c : Cursor) (x : Char) : Bool :=
  c.mark.column == 0 && c.rest.take 3 == [x, x, x] && wordEnds (c.rest.drop 3)

def isDocumentIndicator (c : Cursor) : Bool :=
  c.isDocumentLine '-' || c.isDocumentLine '.'

end Cursor
end DirectiveDocs.Yaml
