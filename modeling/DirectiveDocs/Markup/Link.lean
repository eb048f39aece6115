import DirectiveDocs.Markup.Cursor
import DirectiveDocs.Markup.Entity
import DirectiveDocs.Unicode.CaseFolding

namespace DirectiveDocs.Markup

/-- The character of a numeric reference; zero stands for the replacement character. -/
def charOfNumber? (n : Nat) : Option Char :=
  if n = 0 then some '\uFFFD'
  else if n < 0xD800 ∨ (0xDFFF < n ∧ n < 0x110000) then some (Char.ofNat n)
  else none

namespace Source

/-- A character reference that starts at an ampersand: its text and the position after it. -/
def reference? (s : Source) (i : Nat) : Option (String × Nat) :=
  if s.isAt (i + 1) '#' then
    let hex := s.isAt (i + 2) 'x' || s.isAt (i + 2) 'X'
    let start := if hex then i + 3 else i + 2
    let stop :=
      if hex then min (start + 6) (s.skipWhile (fun c => (hexDigit? c).isSome) start)
      else min (start + 7) (s.skipWhile Char.isDigit start)
    let digits := (s.extract start stop).toList
    if start < stop && s.isAt stop ';' then
      let n :=
        if hex then ofHexDigits digits
        else digits.foldl (fun n c => 10 * n + (c.toNat - '0'.toNat)) 0
      (charOfNumber? n).map (fun c => (String.singleton c, stop + 1))
    else none
  else
    let stop := s.skipWhile Char.isAlphanum (i + 1)
    if s.isAt stop ';' then
      (entity? (s.slice (i + 1) stop)).map (fun text => (text, stop + 1))
    else none

/-- Resolves escapes and character references. In a table an escaped backslash before a pipe is
dropped with its escape. -/
def unescapeFrom (s : Source) (inTable : Bool) : Nat → Nat → List Char → List Char
  | 0, _, done => done
  | fuel + 1, i, done =>
    match s[i]? with
    | none => done
    | some c =>
      if c == '\\' && inTable && s.isAt (i + 1) '\\' && s.isAt (i + 2) '|' then
        s.unescapeFrom inTable fuel (i + 3) ('|' :: done)
      else if c == '\\' && s.test (i + 1) isAsciiPunctuation then
        s.unescapeFrom inTable fuel (i + 2) (s[i + 1]?.toList ++ done)
      else if c == '\r' then s.unescapeFrom inTable fuel (i + 1) done
      else
        match if c == '&' then s.reference? i else none with
        | some (text, j) => s.unescapeFrom inTable fuel j (text.toList.reverse ++ done)
        | none => s.unescapeFrom inTable fuel (i + 1) (c :: done)

end Source

def unescape (inTable : Bool) (text : String) : String :=
  let s := Source.ofString text
  String.ofList (s.unescapeFrom inTable (s.size + 1) 0 []).reverse

/-- How deep parentheses may nest in a link destination. -/
def deepestNesting : Nat := 32

namespace Source

/-- The closing bracket of a destination between angle brackets. -/
def pointyEnd? (s : Source) : Nat → Nat → Option Nat
  | 0, _ => none
  | fuel + 1, i =>
    match s[i]? with
    | none => none
    | some c =>
      if isLineEnd c || c == '<' then none
      else if c == '>' then some i
      else if c == '\\' && s.test (i + 1) isAsciiPunctuation then s.pointyEnd? fuel (i + 2)
      else s.pointyEnd? fuel (i + 1)

/-- The end of a bare destination, whose parentheses are balanced. -/
def bareEnd? (s : Source) : Nat → Nat → Nat → Option Nat
  | 0, _, _ => none
  | fuel + 1, nesting, i =>
    let done := if nesting = 0 then some i else none
    match s[i]? with
    | none => done
    | some c =>
      if c.toNat ≤ 0x20 then done
      else if c == '(' then
        if deepestNesting < nesting then none else s.bareEnd? fuel (nesting + 1) (i + 1)
      else if c == ')' then
        if nesting = 0 then done else s.bareEnd? fuel (nesting - 1) (i + 1)
      else if c == '\\' && s.test (i + 1) isAsciiPunctuation then s.bareEnd? fuel nesting (i + 2)
      else s.bareEnd? fuel nesting (i + 1)

/-- A link destination as written, and the position after it. -/
def destination? (s : Source) (i : Nat) : Option (String × Nat) :=
  if s.isAt i '<' then
    (s.pointyEnd? (s.size + 1) (i + 1)).map (fun stop => (s.slice (i + 1) stop, stop + 1))
  else
    (s.bareEnd? (s.size + 1) 0 i).map (fun stop => (s.slice i stop, stop))

/-- The end of the blanks from a position, with the number of line ends among them. A rule gives
the position to go on from after a line end, or refuses it. -/
def blanksEnd? (s : Source) (line : Nat → Option Nat) : Nat → Nat → Nat → Option (Nat × Nat)
  | 0, i, lines => some (i, lines)
  | fuel + 1, i, lines =>
    match s[i]? with
    | none => some (i, lines)
    | some c =>
      if isLineEnd c then
        match (s.lineEnd? i).bind line with
        | some j => if 0 < lines then none else s.blanksEnd? line fuel j (lines + 1)
        | none => none
      else if isInlineBlank c then s.blanksEnd? line fuel (i + 1) lines
      else some (i, lines)

/-- The longest label of a link, in characters. -/
def longestLabel : Nat := 1000

/-- Reads a label up to its closing bracket. Blanks in it count as one space. -/
def labelFrom? (s : Source) (line : Nat → Option Nat) (inTable : Bool) :
    Nat → Nat → Nat → Bool → List Char → Option (String × Nat)
  | 0, _, _, _, _ => none
  | fuel + 1, i, count, blank, done =>
    if longestLabel ≤ count then none
    else
      match s[i]? with
      | none => none
      | some c =>
        if c == '[' then none
        else if c == ']' then
          if blank then none else some (String.ofList done.reverse, i + 1)
        else if c == '\\' then
          if inTable && s.isAt (i + 1) '|' then
            s.labelFrom? line inTable fuel (i + 2) (count + 2) false ('|' :: done)
          else if inTable && s.isAt (i + 1) '\\' && s.isAt (i + 2) '|' then
            s.labelFrom? line inTable fuel (i + 3) (count + 3) false ('|' :: c :: done)
          else
            s.labelFrom? line inTable fuel (i + 2) (count + 2) false
              (s[i + 1]?.toList ++ c :: done)
        else if isAsciiBlank c then
          match s.blanksEnd? line (s.size + 1) i 0 with
          | some (j, _) => s.labelFrom? line inTable fuel j (count + (j - i)) blank (' ' :: done)
          | none => none
        else s.labelFrom? line inTable fuel (i + 1) (count + 1) false (c :: done)

/-- The label whose text starts at a position, and the position after its closing bracket. -/
def label? (s : Source) (line : Nat → Option Nat) (inTable : Bool) (i : Nat) :
    Option (String × Nat) :=
  s.labelFrom? line inTable (s.size + 1) i 0 true []

def uri? (s : Source) (i : Nat) : Option (String × Nat) :=
  if s.test i Char.isAlpha then
    let colon := s.skipWhile (fun c => c.isAlphanum || c == '.' || c == '-' || c == '+') i
    let length := colon - i
    if s.isAt colon ':' && 2 ≤ length && length ≤ 32 then
      let stop := s.skipWhile (fun c => 0x20 < c.toNat && c != '>' && c != '<') (colon + 1)
      if s.isAt stop '>' then some (s.slice i stop, stop + 1) else none
    else none
  else none

def isMailboxChar (c : Char) : Bool :=
  c.isAlphanum || ".!#$%&'*+/=?^_`\x7b|\x7d~-".toList.contains c

/-- The end of a host's labels: each has up to 63 letters, digits and inner hyphens. -/
def hostEnd? (s : Source) : Nat → Nat → Option Nat
  | 0, _ => none
  | fuel + 1, i =>
    let stop := s.skipWhile (fun c => c.isAlphanum || c == '-') i
    if stop = i ∨ 63 < stop - i ∨ s.isAt i '-' ∨ s.isAt (stop - 1) '-' then none
    else if s.isAt stop '.' then s.hostEnd? fuel (stop + 1)
    else some stop

def mail? (s : Source) (i : Nat) : Option (String × Nat) :=
  let at_ := s.skipWhile isMailboxChar i
  if i < at_ && s.isAt at_ '@' then
    match s.hostEnd? (s.size + 1) (at_ + 1) with
    | some stop => if s.isAt stop '>' then some (s.slice i stop, stop + 1) else none
    | none => none
  else none

def autolink? (s : Source) (i : Nat) : Option (String × Nat) :=
  (s.uri? i).or (s.mail? i)

end Source
end DirectiveDocs.Markup
