import DirectiveDocs.Yaml.Scalar
import DirectiveDocs.Yaml.Tag

namespace DirectiveDocs.Yaml

/-- A place where the key of a mapping may have started, with the number of tokens before it.
At the column of a block a key is required there. -/
structure PendingKey where
  position : Nat
  mark : Mark
  required : Bool

/-- The tokens read so far, last first, and the layout around what comes next: the columns of
the open blocks and the pending keys of the open flow collections, innermost first. -/
structure Layout where
  cursor : Cursor
  tokens : List Token
  count : Nat
  columns : List Nat
  pending : Option PendingKey
  outer : List (Option PendingKey)
  keyAllowed : Bool

namespace Layout

def start (c : Cursor) : Layout := ⟨c, [], 0, [], none, [], true⟩

def inFlow (l : Layout) : Bool :=
  !l.outer.isEmpty

def push (t : Token) (l : Layout) : Layout :=
  { l with tokens := t :: l.tokens, count := l.count + 1 }

def mark (kind : TokenKind) (m : Mark) (l : Layout) : Layout :=
  l.push ⟨kind, m, m⟩

/-- Puts a token that takes no characters before the tokens from a position on. -/
def insert (position : Nat) (kind : TokenKind) (m : Mark) (l : Layout) : Layout :=
  { l with tokens := l.tokens.insertIdx (l.count - position) ⟨kind, m, m⟩, count := l.count + 1 }

def take (kind : TokenKind) (stop : Cursor) (l : Layout) : Layout :=
  { l.push ⟨kind, l.cursor.mark, stop.mark⟩ with cursor := stop }

/-- Gives up the pending key, which must not be a required one. -/
def dropKey (l : Layout) : Option Layout :=
  match l.pending with
  | some k => if k.required then none else some { l with pending := none }
  | none => some l

def saveKey (l : Layout) : Option Layout :=
  if l.keyAllowed then do
    let required := !l.inFlow && l.columns.head? == some l.cursor.mark.column
    let l ← l.dropKey
    some { l with pending := some ⟨l.count, l.cursor.mark, required⟩ }
  else some l

/-- A key ends on the line it starts on and has at most 1024 characters. -/
def isStale (m : Mark) (k : PendingKey) : Bool :=
  k.mark.line < m.line || k.mark.index + 1024 < m.index

def dropStaleKey (m : Mark) : Option PendingKey → Option (Option PendingKey)
  | some k =>
    if isStale m k then if k.required then none else some none
    else some (some k)
  | none => some none

def dropStaleKeys (l : Layout) : Option Layout := do
  let m := l.cursor.mark
  let pending ← dropStaleKey m l.pending
  let outer ← l.outer.mapM (dropStaleKey m)
  some { l with pending := pending, outer := outer }

/-- Whether a block that starts at a column lies inside the open blocks. -/
def isDeeper (column : Nat) (l : Layout) : Bool :=
  !l.inFlow && l.columns.head?.all (· < column)

/-- Opens a block at the place of the next token, unless one is open at its column. -/
def openBlock (kind : TokenKind) (l : Layout) : Layout :=
  let m := l.cursor.mark
  if l.isDeeper m.column then { l.mark kind m with columns := m.column :: l.columns } else l

def endBlocks (m : Mark) : List Nat → Layout → Layout
  | [], l => l
  | _ :: columns, l => endBlocks m columns (l.mark .blockEnd m)

/-- Closes the blocks whose column satisfies a test; in a flow collection none is closed. -/
def closeBlocks (isClosed : Nat → Bool) (l : Layout) : Layout :=
  if l.inFlow then l
  else
    endBlocks l.cursor.mark (l.columns.takeWhile isClosed)
      { l with columns := l.columns.dropWhile isClosed }

/-- Passes over blanks, comments and line breaks. A tab may not stand where a key of a block
may start; a byte order mark may start a line. -/
def skipBlank (inFlow : Bool) : Nat → Bool → Cursor → Bool × Cursor
  | 0, keyAllowed, c => (keyAllowed, c)
  | fuel + 1, keyAllowed, c =>
    let c := if c.mark.column = 0 ∧ c.rest.head? = some '\ufeff' then c.skip else c
    let tabs := inFlow || !keyAllowed
    let c := (c.skipWhile (fun x => x == ' ' || (tabs && x == '\t'))).skipComment
    if c.rest.head?.any isBreak then skipBlank inFlow fuel (keyAllowed || !inFlow) c.skipBreak
    else (keyAllowed, c)

/-- Goes to the next token: keys that cannot be completed are given up, blocks end. -/
def advance (l : Layout) : Option Layout := do
  let (keyAllowed, c) := skipBlank l.inFlow (l.cursor.rest.length + 1) l.keyAllowed l.cursor
  let l ← { l with keyAllowed := keyAllowed, cursor := c }.dropStaleKeys
  some (l.closeBlocks (c.mark.column < ·))

/-- Closes all blocks before something that belongs to no block. -/
def leaveBlocks (l : Layout) : Option Layout := do
  let l ← (l.closeBlocks (fun _ => true)).dropKey
  some { l with keyAllowed := false }

def finish (l : Layout) : Option Layout :=
  { l with cursor := ⟨l.cursor.mark.lineStart, l.cursor.rest⟩ }.leaveBlocks

def openFlow (kind : TokenKind) (l : Layout) : Option Layout := do
  let l ← l.saveKey
  let l := l.take kind l.cursor.skip
  some { l with pending := none, outer := l.pending :: l.outer, keyAllowed := true }

def closeFlow (kind : TokenKind) (l : Layout) : Option Layout := do
  let l ← l.dropKey
  let l := l.take kind l.cursor.skip
  match l.outer with
  | pending :: outer => some { l with pending := pending, outer := outer, keyAllowed := false }
  | [] => some { l with keyAllowed := false }

def flowEntry (l : Layout) : Option Layout := do
  let l ← l.dropKey
  some { l.take .flowEntry l.cursor.skip with keyAllowed := true }

/-- An indicator that opens a block and stands where keys are allowed; after it a key may
start unless it is in a flow collection. -/
def blockIndicator (block kind : TokenKind) (keyAllowed : Bool) (l : Layout) : Option Layout :=
  if l.inFlow || l.keyAllowed then do
    let l ← (l.openBlock block).dropKey
    some { l.take kind l.cursor.skip with keyAllowed := keyAllowed }
  else none

/-- A colon makes the pending key a key; without one it starts the value of an explicit key. -/
def value (l : Layout) : Option Layout :=
  match l.pending with
  | some k =>
    let isDeeper := l.isDeeper k.mark.column
    let l := l.insert k.position .key k.mark
    let l := if isDeeper then
        { l.insert k.position .blockMappingStart k.mark with
          columns := k.mark.column :: l.columns }
      else l
    some { l.take .value l.cursor.skip with pending := none, keyAllowed := false }
  | none =>
    if l.inFlow || l.keyAllowed then
      let l := l.openBlock .blockMappingStart
      some { l.take .value l.cursor.skip with keyAllowed := !l.inFlow }
    else none

/-- An anchor, an alias, a tag or a scalar on one line, which may be a key or stand before
one. -/
def keyPart (scan : Layout → Option (TokenKind × Cursor)) (l : Layout) : Option Layout := do
  let l ← l.saveKey
  let (kind, stop) ← scan l
  some { l.take kind stop with keyAllowed := false }

def named (kind : String → TokenKind) (l : Layout) : Option (TokenKind × Cursor) :=
  (scanName l.cursor.skip).map (fun (name, stop) => (kind name, stop))

def quoted (double : Bool) (l : Layout) : Option (TokenKind × Cursor) :=
  (quotedScalar double l.cursor).map (fun s =>
    (.scalar (if double then .doubleQuoted else .singleQuoted) (String.ofList s.text), s.stop))

/-- A plain scalar that ends after a line break lets a key start. -/
def plain (l : Layout) : Option Layout := do
  let l ← l.saveKey
  let s ← plainScalar l.inFlow ((l.columns.head?.map (· + 1)).getD 0) l.cursor
  some { l.take (.scalar .plain (String.ofList s.text)) s.stop with keyAllowed := s.broken }

def block (isLiteral : Bool) (l : Layout) : Option Layout := do
  let l ← l.dropKey
  let s ← blockScalar isLiteral l.columns.head? l.cursor
  let style : Style := if isLiteral then .literal else .folded
  some { l.take (.scalar style (String.ofList s.text)) s.stop with keyAllowed := true }

def directive (l : Layout) : Option Layout := do
  let l ← l.leaveBlocks
  let (kind, stop) ← scanDirective l.cursor
  some (l.take kind stop)

def documentLine (kind : TokenKind) (l : Layout) : Option Layout := do
  let l ← l.leaveBlocks
  some (l.take kind (l.cursor.skip 3))

def isIndicator (c : Char) : Bool :=
  "-?:,[]\x7b\x7d#&*!|>'\"%@`".toList.contains c

/-- Whether a plain scalar starts with a character before the rest. -/
def startsPlain (inFlow : Bool) (c : Char) (rest : List Char) : Bool :=
  !(isGap c || isIndicator c) || (c == '-' && !rest.head?.any isSpace) ||
  (!inFlow && (c == '?' || c == ':') && !wordEnds rest)

def token (l : Layout) : Option Layout :=
  match l.cursor.rest with
  | [] => none
  | c :: rest =>
    let column := l.cursor.mark.column
    if column = 0 ∧ c = '%' then l.directive
    else if l.cursor.isDocumentLine '-' then l.documentLine .documentStart
    else if l.cursor.isDocumentLine '.' then l.documentLine .documentEnd
    else if c = '[' then l.openFlow .flowSequenceStart
    else if c = '\x7b' then l.openFlow .flowMappingStart
    else if c = ']' then l.closeFlow .flowSequenceEnd
    else if c = '\x7d' then l.closeFlow .flowMappingEnd
    else if c = ',' then l.flowEntry
    else if c = '-' ∧ wordEnds rest then l.blockIndicator .blockSequenceStart .blockEntry true
    else if c = '?' ∧ (l.inFlow ∨ wordEnds rest) then
      l.blockIndicator .blockMappingStart .key (!l.inFlow)
    else if c = ':' ∧ (l.inFlow ∨ wordEnds rest) then l.value
    else if c = '*' then l.keyPart (named .alias)
    else if c = '&' then l.keyPart (named .anchor)
    else if c = '!' then l.keyPart (fun l => scanTag l.inFlow l.cursor)
    else if c = '|' ∧ !l.inFlow then l.block true
    else if c = '>' ∧ !l.inFlow then l.block false
    else if c = '\'' then l.keyPart (quoted false)
    else if c = '"' then l.keyPart (quoted true)
    else if startsPlain l.inFlow c rest then l.plain
    else none

/-- Reads all tokens, each of which takes at least one character. -/
def tokensFrom : Nat → Layout → Option Layout
  | 0, _ => none
  | fuel + 1, l => do
    let l ← l.advance
    if l.cursor.rest.isEmpty then l.finish
    else
      let l ← l.token
      tokensFrom fuel l

end Layout

/-- The tokens of a text; none when there is a place where no token can stand. -/
def tokens? (text : String) : Option (List Token) :=
  let c := Cursor.ofString text
  if c.rest.all isPrintable then
    (Layout.tokensFrom (c.rest.length + 1) (.start c)).map (fun l => l.tokens.reverse)
  else none

end DirectiveDocs.Yaml
