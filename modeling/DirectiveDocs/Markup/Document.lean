import DirectiveDocs.Markup.Block
import DirectiveDocs.Markup.Html

namespace DirectiveDocs.Markup

/-- Takes the start of a line that continues containers, outermost first, and gives those that it
does not continue. -/
def Cursor.continueScopes {d : Dialect} (s : Source) (c : Cursor) :
    List (Scope d) → List (Scope d) × Cursor
  | [] => ([], c)
  | scope :: rest =>
    match scope.container? with
    | none => c.continueScopes s rest
    | some k =>
      match c.continue? s k with
      | some c => c.continueScopes s rest
      | none => (scope :: rest, c)

namespace Draft

variable {d : Dialect}

/-- The containers that a line does not continue, and the place after those that it does. -/
def continueLine (t : Draft d) (s : Source) (i : Nat) : List (Scope d) × Cursor :=
  (Cursor.atLine i).continueScopes s (t.frames.reverse.map (·.scope))

def passage (t : Draft d) (tokens : List Token) (stop : Nat) (inTable : Bool) : Passage :=
  ⟨tokens, stop, t.containers, inTable⟩

/-- The table whose delimiter row is the line at a position. -/
def delimiterRow? (t : Draft d) (s : Source) (i : Nat) : Option (List Alignment × Nat) :=
  let (outside, c) := t.continueLine s i
  if outside.isEmpty then s.delimiterRow? c.position else none

/-- Counts the pipes of a line that no backslash precedes, and finds the last of them. -/
def pipes (s : Source) (start stop : Nat) : Nat × Nat :=
  (List.range (stop - start)).foldl (fun (n, last) k =>
    let i := start + k
    if s.isAt i '|' && !(start < i && s.isAt (i - 1) '\\') then (n + 1, i) else (n, last)) (0, start)

def startsTable (t : Draft d) (s : Source) (i : Nat) : Bool :=
  let stop := s.skipWhile (fun c => !isLineEnd c) i
  if s.isAt i '|' && stop < s.size then
    let (count, last) := pipes s i stop
    match t.delimiterRow? s ((s.lineEnd? stop).getD stop) with
    | some (columns, _) => columns.length == s.headColumns i count last
    | none => false
  else false

/-- Where a line stands that may interrupt a block. -/
inductive Interrupted where
  | paragraph | table | other
  deriving DecidableEq

/-- Whether a line ends the block before it, by what stands after the containers that it
continues. -/
def interrupts (t : Draft d) (s : Source) (block : Interrupted) (outside : List (Scope d))
    (i : Nat) : Bool :=
  let inside := outside.isEmpty
  let defines :=
    (inside && block == .paragraph) ||
      (match outside with
       | .definition _ :: _ => true
       | _ => false)
  (s.lineEnd? i).isSome || (s.thematicBreak? i).isSome || (s.atxDepth? i).isSome ||
    (s.codeFence? i).isSome || s.isAt i '>' ||
    s.itemInterrupts (!inside || block == .table) i ||
    (s.isAt i '<' && ((s.htmlBlockEnd? (i + 1)).isSome || s.startsBlockElement (i + 1))) ||
    (defines && s.isAt i ':') ||
    (block != .table && d.has .github && t.startsTable s i)

/-- What the place after a line end means to a block that goes on. -/
structure Continuation (d : Dialect) where
  outside : List (Scope d)
  cursor : Cursor
  indented : Bool
  interrupted : Bool

/-- Looks at the next line. A line set in by four columns never interrupts. -/
def lookAhead (t : Draft d) (s : Source) (block : Interrupted) (i : Nat) : Continuation d :=
  let (outside, c) := t.continueLine s i
  let (missing, c) := c.takeColumns s 4
  let indented := missing == 0
  ⟨outside, c, indented, !indented && t.interrupts s block outside c.position⟩

/-- The underline of a heading on a line that stands in the same containers. -/
def Continuation.underline? (k : Continuation d) (s : Source) : Option (Nat × Nat) :=
  if !k.indented && k.outside.isEmpty then s.underline? k.cursor.position else none

/-- Goes on from the start of a line inside a link definition, unless the line ends it. -/
def definitionLine? (t : Draft d) (s : Source) (i : Nat) : Option Nat :=
  let next := t.lookAhead s .other i
  if next.interrupted || (next.underline? s).isSome then none else some next.cursor.position

def titleFrom? (t : Draft d) (s : Source) (close : Char) : Nat → Nat → List Char →
    Option (String × Nat)
  | 0, _, _ => none
  | fuel + 1, i, done =>
    match s[i]? with
    | none => none
    | some c =>
      if c == close then some (String.ofList done.reverse, i + 1)
      else if c == '(' && close == ')' then none
      else if isLineEnd c then
        match (s.lineEnd? i).bind (t.definitionLine? s) with
        | some j => t.titleFrom? s close fuel (s.skipWhile isInlineBlank j) ('\n' :: done)
        | none => none
      else if c == '\\' then
        match s[i + 1]? with
        | some e =>
          if isLineEnd e then t.titleFrom? s close fuel (i + 1) (c :: done)
          else t.titleFrom? s close fuel (i + 2) (e :: c :: done)
        | none => none
      else t.titleFrom? s close fuel (i + 1) (c :: done)

def title? (t : Draft d) (s : Source) (i : Nat) : Option (String × Nat) :=
  match s[i]? with
  | some '"' => t.titleFrom? s '"' (s.size + 1) (i + 1) []
  | some '\'' => t.titleFrom? s '\'' (s.size + 1) (i + 1) []
  | some '(' => t.titleFrom? s ')' (s.size + 1) (i + 1) []
  | _ => none

/-- The blanks inside a link definition, with at most one line end among them. -/
def definitionBlanks? (t : Draft d) (s : Source) (i : Nat) : Option (Nat × Nat) :=
  match s.blanksEnd? (t.definitionLine? s) (s.size + 1) i 0 with
  | some (j, lines) => if j < s.size then some (j, lines) else none
  | none => none

/-- A link definition: its label, its target and the position after it. A title that does not
end its line counts only as text, and then the definition must end before it. -/
def linkDefinition? (t : Draft d) (s : Source) (i : Nat) : Option (String × LinkTarget × Nat) :=
  if s.isAt i '[' then
    match s.label? (t.definitionLine? s) false (i + 1) with
    | some (label, j) =>
      if s.isAt j ':' then
        match t.definitionBlanks? s (j + 1) with
        | some (j, _) =>
          match s.destination? j with
          | some (url, after) =>
            if after = j then none
            else
              let plain := some (label, (⟨unescape false url, ""⟩ : LinkTarget), after)
              match t.definitionBlanks? s after with
              | none => plain
              | some (k, lines) =>
                if k = after then none
                else
                  let untitled := if 0 < lines then plain else none
                  match t.title? s k with
                  | some (title, stop) =>
                    if (s.blankLine? stop).isSome then
                      some (label, ⟨unescape false url, unescape false title⟩, stop)
                    else untitled
                  | none => untitled
          | none => none
        | none => none
      else none
    | none => none
  else none

/-- Reads link definitions. Either a line after them ends the block, or its text goes on at a
cursor. -/
def linkDefinitions (s : Source) : Nat → Draft d → Cursor → (Nat × Draft d) ⊕ (Cursor × Draft d)
  | 0, t, c => .inr (c, t)
  | fuel + 1, t, c =>
    match t.linkDefinition? s c.position with
    | none => .inr (c, t)
    | some (label, target, after) =>
      let t := t.define label target
      let next := (s.blankLine? after).getD after
      let ahead := t.lookAhead s .other next
      if ahead.interrupted then .inl (next, t.finishList)
      else linkDefinitions s fuel t (ahead.cursor.takeBlanks s)

/-- The text of a line with its line end, which a line feed alone stands for. -/
def codeLine (s : Source) (columns start stop : Nat) : List String :=
  let spaces := if columns = 0 then [] else [String.ofList (List.replicate columns ' ')]
  let text :=
    if s.isAt (stop - 2) '\r' then s.slice start (stop - 2) ++ s.slice (stop - 1) stop
    else s.slice start stop
  if text.isEmpty then spaces else spaces ++ [text]

/-- The lines of a fenced code block, latest first, and the position after it. -/
def fencedLines (t : Draft d) (s : Source) (mark : Char) (length indent : Nat) :
    Nat → Nat → List String → List String × Nat
  | 0, i, done => (done, i)
  | fuel + 1, i, done =>
    let (outside, c) := t.continueLine s i
    if !outside.isEmpty || s.size ≤ i then (done, i)
    else
      let c := (c.takeColumns s indent).2
      let (missing, close) := c.takeColumns s (4 - indent)
      match if 0 < missing then s.closingFence? mark length close.position else none with
      | some after => (done, after)
      | none =>
        let next := s.nextLine c.position
        t.fencedLines s mark length indent fuel next
          ((codeLine s c.pending c.position next).reverse ++ done)

def readFence (t : Draft d) (s : Source) (i indent : Nat) (mark : Char) (length : Nat) :
    Nat × Draft d :=
  let start := s.skipWhile isInlineBlank (i + length)
  let next := s.nextLine start
  let info := s.slice start (max start (s.skipBack isAsciiBlank next))
  let (lines, after) := t.fencedLines s mark length indent (s.size + 1) next []
  ((s.blankLine? after).getD after, t.add (.code (some (unescape false info)) lines.reverse))

/-- The lines of an indented code block, latest first, the lines up to the last one that is not
blank, the position after it, and whether it ended with a blank line. -/
def indentedLines (t : Draft d) (s : Source) :
    Nat → Cursor → Bool → List String → List String → List String × Nat × Bool
  | 0, c, blank, _, kept => (kept, c.position, blank)
  | fuel + 1, c, blank, done, kept =>
    let next := s.nextLine c.position
    let done := (codeLine s c.pending c.position next).reverse ++ done
    let kept := if blank then kept else done
    let (outside, c) := t.continueLine s next
    let (missing, c) := c.takeColumns s 4
    if !outside.isEmpty || !(missing = 0 || c.atLineEnd s) || s.size ≤ c.position then
      (kept, next, blank)
    else t.indentedLines s fuel c (s.blankLine? c.position).isSome done kept

def readIndented (t : Draft d) (s : Source) (c : Cursor) : Nat × Draft d :=
  let (lines, after, blank) := t.indentedLines s (s.size + 1) c false [] []
  (after, { t with blank := blank }.add (.code none lines.reverse))

/-- The lines of a block of HTML, latest first, and the position after it. The block ends with a
line that holds its end, or before a blank line if it has none. -/
def htmlLines (t : Draft d) (s : Source) (stop? : Option String) :
    Nat → Nat → Nat → List String → List String × Nat
  | 0, _, i, done => (done, i)
  | fuel + 1, columns, i, done =>
    let next := s.nextLine i
    let done := (codeLine s columns i next).reverse ++ done
    let (outside, c) := t.continueLine s next
    let ended := match stop? with
      | some stop => (s.find? stop.toList i).any (fun j => j + stop.length ≤ next)
      | none => (s.blankLine? c.position).isSome
    if !outside.isEmpty || ended || s.size ≤ c.position then (done, next)
    else t.htmlLines s stop? fuel c.pending c.position done

def readHtml (t : Draft d) (s : Source) (stop? : Option String) (columns i : Nat) :
    Nat × Draft d :=
  let (lines, after) := t.htmlLines s stop? (s.size + 1) columns i []
  (after, t.add (.html lines.reverse))

/-- The end of a heading's text before closing number signs. -/
def headingEnd (s : Source) (start stop : Nat) : Nat :=
  let limit := max start (s.skipBack (fun c => isLineEnd c || c == ' ') stop)
  let closer := max start (s.skipBack (· == '#') limit)
  if closer = start then start
  else
    let text := s.skipBack (· == ' ') closer
    if text < closer then max start text else limit

def endLast (stop : Nat) : List Token → List Token
  | [] => []
  | [t] => [{ t with stop := stop }]
  | t :: rest => t :: endLast stop rest

def readHeading (t : Draft d) (s : Source) (i depth : Nat) : Nat × Draft d :=
  match s.lineEnd? (i + depth) with
  | some next => (next, t.add (.heading depth (t.passage [] next false)))
  | none =>
    let start := s.skipWhile isInlineBlank (i + depth)
    let next := s.nextLine start
    let line := (⟨start, next, .text, d.has .github, none⟩ : LineRules).read s
    let tokens := endLast (headingEnd s start next) line.tokens
    (next, t.add (.heading depth (t.passage tokens next false)))

/-- The cells of a table's row, latest first, and the position after it. -/
def rowCells (t : Draft d) (s : Source) : Nat → Nat → List Passage → List Passage × Nat
  | 0, i, done => (done, i)
  | fuel + 1, i, done =>
    let i := if s.isAt i '|' then i + 1 else i
    let start := s.skipWhile isInlineBlank i
    match s.lineEnd? start with
    | some next => (done, next)
    | none =>
      let line := (⟨start, s.size, .cell, d.has .github, none⟩ : LineRules).read s
      t.rowCells s fuel line.position (t.passage line.tokens line.position true :: done)

/-- A row cut or filled to a number of cells. -/
def fillRow (t : Draft d) (width stop : Nat) (cells : List Passage) : List Passage :=
  (cells.reverse ++ List.replicate (width - cells.length) (t.passage [] stop true)).take width

/-- The rows below a table's head, latest first. A line without cells ends the table. -/
def bodyRows (t : Draft d) (s : Source) (width : Nat) :
    Nat → Nat → List (List Passage) → List (List Passage) × Nat
  | 0, i, done => (done, i)
  | fuel + 1, i, done =>
    let (outside, c) := t.continueLine s i
    let c := c.takeBlanks s
    if !outside.isEmpty || t.interrupts s .table outside c.position then (done, i)
    else
      match t.rowCells s (s.size + 1) c.position [] with
      | ([], _) => (done, i)
      | (cells, next) => t.bodyRows s width fuel next (t.fillRow width next cells :: done)

def readTable (t : Draft d) (s : Source) (columns : List Alignment) (start body : Nat)
    (allowed : d.has .github = true) : Nat × Draft d :=
  let (cells, next) := t.rowCells s (s.size + 1) start []
  let head := t.fillRow columns.length next cells
  let (rows, after) := t.bodyRows s columns.length (s.size + 1) body []
  (after, t.add (.table columns (head :: rows.reverse) allowed))

inductive ParagraphEnd where
  | text (tokens : List Token) (stop : Nat)
  | underlined (depth : Nat) (tokens : List Token) (stop : Nat)
  | table (columns : List Alignment) (body : Nat)

/-- The break between two lines, and a backslash that no longer breaks at the end of a block. -/
def closingTokens (tokens : List Token) : LineEnd → List Token
  | .break ⟨start, _, .hardBreak true⟩ => LineScan.pushText tokens start (start + 1)
  | _ => tokens

def breakTokens (tokens : List Token) : LineEnd → List Token
  | .break token => token :: tokens
  | _ => tokens

def paragraphLines (t : Draft d) (s : Source) (start : Nat) : Nat → Nat → List Token → ParagraphEnd
  | 0, i, done => .text done i
  | fuel + 1, i, done =>
    let head := if d.has .github && i == start then some (t.delimiterRow? s) else none
    let line := (⟨i, s.size, .text, d.has .github, head⟩ : LineRules).read s
    match line.ending with
    | .table columns body => .table columns body
    | ending =>
      let done := line.tokens.reverse ++ done
      let ahead := t.lookAhead s .paragraph line.position
      match ahead.underline? s with
      | some (depth, after) => .underlined depth (closingTokens done ending) after
      | none =>
        let c := ahead.cursor.takeBlanks s
        if ahead.interrupted || c.atLineEnd s then
          .text (closingTokens done ending) line.position
        else t.paragraphLines s start fuel c.position (breakTokens done ending)

def readParagraph (t : Draft d) (s : Source) (i : Nat) : Nat × Draft d :=
  let (t, candidate) := t.openParagraph
  match t.paragraphLines s i (s.size + 1) i [] with
  | .text tokens stop =>
    let p := t.passage tokens.reverse stop false
    (stop, t.add (if candidate then .candidate p else .paragraph p))
  | .underlined depth tokens stop =>
    (stop, t.add (.heading depth (t.passage tokens.reverse stop false)))
  | .table columns body =>
    if h : d.has .github = true then t.readTable s columns i body h
    else (body, t)

/-- A blank line: it counts for the tightness of a list, except inside a quote. An item that
began with a blank line ends with the next one. -/
def blankLine (t : Draft d) : Draft d :=
  match t.frames with
  | ⟨.quote _, _⟩ :: _ => t
  | ⟨.item columns, blocks⟩ :: rest =>
    { t with
      frames := ⟨.item (if t.emptyItem then 0 else columns), blocks⟩ :: rest, blank := true }
  | ⟨.definition columns, blocks⟩ :: rest =>
    { t with
      frames := ⟨.definition (if t.emptyItem then 0 else columns), blocks⟩ :: rest, blank := true }
  | _ => { t with blank := true }

def addTask (t : Draft d) (s : Source) (c : Cursor) : Cursor × Draft d :=
  if h : d.has .github = true then
    match c.taskMarker? s with
    | some (checked, c) => (c, t.add (.taskMarker checked h))
    | none => (c, t)
  else (c, t)

/-- Enters the containers that open on a line. The line either ends with them, or a block follows
at a cursor. -/
def openContainers (s : Source) : Nat → Draft d → Cursor → (Nat × Draft d) ⊕ (Cursor × Draft d)
  | 0, t, c => .inr (c, t)
  | fuel + 1, t, c =>
    let (missing, inner) := c.takeColumns s 4
    let outer := 4 - missing
    if missing = 0 then .inr (c, t)
    else
      match inner.itemMarker? s outer with
      | some (mark, columns, c) =>
        let t := (t.continueList mark).enter (.item columns)
        match s.blankLine? c.position with
        | some next => .inl (next, { t with emptyItem := true })
        | none =>
          let (c, t) := t.addTask s c
          openContainers s fuel t c
      | none =>
        let definition := (inner.definitionMarker? s outer).bind (fun (columns, c) =>
          (t.enterDefinition? columns).map (fun t => (c, t)))
        match definition with
        | some (c, t) =>
          match s.blankLine? c.position with
          | some next => .inl (next, { t with emptyItem := true })
          | none => openContainers s fuel t c
        | none =>
          match inner.quoteMarker? s with
          | none => .inr (c, t)
          | some c =>
            if h : d.has .github = true then
              match c.alert? s with
              | none => openContainers s fuel (t.finishList.enter (.quote none)) c
              | some (alert, next) =>
                let t := t.finishList.enter (.quote (some ⟨alert, h⟩))
                let ahead := t.lookAhead s .other next
                if ahead.interrupted then .inl (next, t)
                else .inr (ahead.cursor.takeBlanks s, t)
            else openContainers s fuel (t.finishList.enter (.quote none)) c

def readLeaf (t : Draft d) (s : Source) (c : Cursor) : Nat × Draft d :=
  match s.blankLine? c.position with
  | some next => (next, t.blankLine)
  | none =>
    let (missing, c) := c.takeColumns s 4
    let indent := 4 - missing
    let i := c.position
    let html :=
      if s.isAt i '<' then
        match s.htmlBlockEnd? (i + 1) with
        | some stop => some (some stop)
        | none => if s.startsBlockElement (i + 1) || s.isLoneTag i then some none else none
      else none
    if missing = 0 then t.finishList.readIndented s c
    else
      match html with
      | some stop? => t.finishList.readHtml s stop? indent i
      | none =>
        match s.thematicBreak? i with
        | some next => (next, t.finishList.add .rule)
        | none =>
          match s.atxDepth? i with
          | some depth => t.finishList.readHeading s i depth
          | none =>
            match s.codeFence? i with
            | some (mark, length) => t.finishList.readFence s i indent mark length
            | none =>
              match linkDefinitions s (s.size + 1) t c with
              | .inl done => done
              | .inr (c, t) => t.readParagraph s c.position

def readBlock (t : Draft d) (s : Source) (i : Nat) : Nat × Draft d :=
  let (outside, c) := t.continueLine s i
  let t := t.leaveTo (t.frames.length - outside.length)
  match openContainers s (s.size + 1) t c with
  | .inl done => done
  | .inr (c, t) => t.readLeaf s c

def readBlocks (s : Source) : Nat → Nat → Draft d → Draft d
  | 0, _, t => t
  | fuel + 1, i, t =>
    if i < s.size then
      let (next, t) := t.readBlock s i
      readBlocks s fuel next t
    else t

end Draft

def readDocument (d : Dialect) (s : Source) : List (Block d) × Draft d :=
  let t := (Draft.readBlocks s (s.size + 1) 0 (Draft.empty : Draft d)).leaveTo 0
  (t.blocks.reverse, t)

end DirectiveDocs.Markup
