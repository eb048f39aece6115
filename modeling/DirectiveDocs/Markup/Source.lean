namespace DirectiveDocs.Markup

/-- A text whose characters are found by position. -/
abbrev Source := Array Char

/-- The mark around inline code and before fenced code. -/
def backtick : Char := '\x60'

def isLineEnd (c : Char) : Bool :=
  c == '\n' || c == '\r'

def isInlineBlank (c : Char) : Bool :=
  c == ' ' || c == '\t' || c == '\x0b' || c == '\x0c'

def isAsciiBlank (c : Char) : Bool :=
  isInlineBlank c || isLineEnd c

def isAsciiPunctuation (c : Char) : Bool :=
  let n := c.toNat
  (0x21 ≤ n && n ≤ 0x2F) || (0x3A ≤ n && n ≤ 0x40) || (0x5B ≤ n && n ≤ 0x60) ||
  (0x7B ≤ n && n ≤ 0x7E)

namespace Source

def ofString (s : String) : Source :=
  s.toList.toArray

def slice (s : Source) (start stop : Nat) : String :=
  String.ofList (s.extract start stop).toList

def isAt (s : Source) (i : Nat) (c : Char) : Bool :=
  s[i]? == some c

def test (s : Source) (i : Nat) (p : Char → Bool) : Bool :=
  match s[i]? with
  | some c => p c
  | none => false

def startsWith (s : Source) (i : Nat) : List Char → Bool
  | [] => true
  | c :: cs => s.isAt i c && s.startsWith (i + 1) cs

/-- Whether given lower-case letters stand at a position, in either case. -/
def startsWithFolded (s : Source) (i : Nat) : List Char → Bool
  | [] => true
  | c :: cs => s.test i (fun x => x.toLower == c) && s.startsWithFolded (i + 1) cs

def skipWhile (s : Source) (p : Char → Bool) (i : Nat) : Nat :=
  if h : i < s.size then
    if p s[i] then s.skipWhile p (i + 1) else i
  else i
termination_by s.size - i

/-- The start of the run of characters before a position that satisfy a test. -/
def skipBack (s : Source) (p : Char → Bool) : Nat → Nat
  | 0 => 0
  | i + 1 => if s.test i p then s.skipBack p i else i + 1

def find? (s : Source) (cs : List Char) (i : Nat) : Option Nat :=
  if i < s.size then
    if s.startsWith i cs then some i else s.find? cs (i + 1)
  else none
termination_by s.size - i

/-- The position after a line end; the end of the text is one too. -/
def lineEnd? (s : Source) (i : Nat) : Option Nat :=
  match s[i]? with
  | none => some i
  | some '\n' => some (i + 1)
  | some '\r' => some (if s.isAt (i + 1) '\n' then i + 2 else i + 1)
  | some _ => none

/-- The position after the rest of a line that has nothing but blanks. -/
def blankLine? (s : Source) (i : Nat) : Option Nat :=
  s.lineEnd? (s.skipWhile isInlineBlank i)

def nextLine (s : Source) (i : Nat) : Nat :=
  min s.size (s.skipWhile (· != '\n') i + 1)

def upTo (s : Source) (stop : Nat) : Source :=
  s.extract 0 stop

end Source
end DirectiveDocs.Markup
