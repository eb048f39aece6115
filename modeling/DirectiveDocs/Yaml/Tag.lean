import DirectiveDocs.Decimal.Reading
import DirectiveDocs.Yaml.Token

namespace DirectiveDocs.Yaml

/-- The characters of tags besides names and escapes. -/
def isTagChar (c : Char) : Bool :=
  isNameChar c || ";/?:@&=+$.!~*'()".toList.contains c

/-- Inside angle brackets and in directives a tag may hold these too. -/
def isOpenTagChar (c : Char) : Bool :=
  isTagChar c || c == ',' || c == '[' || c == ']'

def octetCount? (n : Nat) : Option Nat :=
  if n < 0x80 then some 1
  else if 0xC0 ≤ n ∧ n < 0xE0 then some 2
  else if 0xE0 ≤ n ∧ n < 0xF0 then some 3
  else if 0xF0 ≤ n ∧ n < 0xF8 then some 4
  else none

def octet? : List Char → Option (Nat × List Char)
  | '%' :: a :: b :: rest => (Decimal.natural? 16 [a, b]).map (fun n => (n, rest))
  | _ => none

/-- The bits that a number of further octets add to a character. -/
def octets? : Nat → Nat → List Char → Option (Nat × List Char)
  | 0, value, cs => some (value, cs)
  | n + 1, value, cs => do
    let (o, rest) ← octet? cs
    if 0x80 ≤ o ∧ o < 0xC0 then octets? n (value * 64 + (o - 0x80)) rest else none

def escapedChar? (cs : List Char) : Option (Char × List Char) := do
  let (o, rest) ← octet? cs
  let n ← octetCount? o
  let head := if n = 1 then o else o % Nat.pow 2 (7 - n)
  let (value, rest) ← octets? (n - 1) head rest
  some (Char.ofNat value, rest)

def tagText (isMember : Char → Bool) : Nat → List Char → Option (List Char × List Char)
  | 0, cs => some ([], cs)
  | fuel + 1, cs =>
    match cs with
    | [] => some ([], [])
    | c :: rest =>
      if c = '%' then do
        let (x, rest) ← escapedChar? cs
        let (w, rest) ← tagText isMember fuel rest
        some (x :: w, rest)
      else if isMember c then (tagText isMember fuel rest).map (fun (w, r) => (c :: w, r))
      else some ([], cs)

def tagText? (isMember : Char → Bool) (c : Cursor) : Option (String × Cursor) :=
  match tagText isMember c.rest.length c.rest with
  | some ([], _) | none => none
  | some (w, rest) => some (String.ofList w, c.upTo rest)

/-- An exclamation mark and a name, with a second exclamation mark if there is one. -/
def handleText (c : Cursor) : List Char × Cursor :=
  match c.rest with
  | '!' :: rest =>
    let name := rest.takeWhile isNameChar
    match rest.dropWhile isNameChar with
    | '!' :: rest => ('!' :: name ++ ['!'], c.upTo rest)
    | rest => ('!' :: name, c.upTo rest)
  | _ => ([], c)

/-- A tag as a handle and a suffix: in angle brackets it has no handle, a handle of one mark
stands for local tags, and the mark alone is a suffix. -/
def tagParts (c : Cursor) : Option (String × String × Cursor) :=
  match c.rest with
  | '!' :: '<' :: _ => do
    let (suffix, c) ← tagText? isOpenTagChar (c.skip 2)
    if c.rest.head? == some '>' then some ("", suffix, c.skip) else none
  | _ =>
    let (handle, c) := handleText c
    if 1 < handle.length ∧ handle.getLast? = some '!' then do
      let (suffix, c) ← tagText? isTagChar c
      some (String.ofList handle, suffix, c)
    else do
      let (w, rest) ← tagText isTagChar c.rest.length c.rest
      let suffix := handle.drop 1 ++ w
      if suffix.isEmpty then some ("", "!", c.upTo rest)
      else some ("!", String.ofList suffix, c.upTo rest)

/-- A tag ends where a word ends, or before a comma in a flow collection. -/
def scanTag (inFlow : Bool) (c : Cursor) : Option (TokenKind × Cursor) := do
  let (handle, suffix, stop) ← tagParts c
  if (inFlow && stop.rest.head? == some ',') || wordEnds stop.rest then
    some (.tag handle suffix, stop)
  else none

/-- The name of an anchor or alias ends where a word ends or before an indicator. -/
def scanName (c : Cursor) : Option (String × Cursor) :=
  let name := c.rest.takeWhile isNameChar
  let rest := c.rest.drop name.length
  if name.isEmpty then none
  else if wordEnds rest || rest.head?.any ("?:,]\x7d%@`".toList.contains ·) then
    some (String.ofList name, c.upTo rest)
  else none

def versionNumber? (c : Cursor) : Option (Nat × Cursor) :=
  let digits := c.rest.takeWhile Char.isDigit
  if 9 < digits.length then none
  else (Decimal.natural? 10 digits).map (fun n => (n, c.skip digits.length))

/-- A directive, from its percent sign to the end of its line: the version, or a handle and
what it stands for. -/
def scanDirective (c : Cursor) : Option (TokenKind × Cursor) := do
  let name := (c.skip).rest.takeWhile isNameChar
  let c := c.skip (1 + name.length)
  if !wordEnds c.rest then none
  else if name = "YAML".toList then
    let (major, c) ← versionNumber? c.skipSpaces
    if c.rest.head? == some '.' then
      let (minor, c) ← versionNumber? c.skip
      let c ← c.finishLine?
      some (.version major minor, c)
    else none
  else if name = "TAG".toList then
    let (handle, c) := handleText c.skipSpaces
    if handle.isEmpty || handle.getLast? ≠ some '!' then none
    else if !c.rest.head?.any isSpace then none
    else
      let (expansion, c) ← tagText? isOpenTagChar c.skipSpaces
      if wordEnds c.rest then
        let c ← c.finishLine?
        some (.handle (String.ofList handle) expansion, c)
      else none
  else none

end DirectiveDocs.Yaml
