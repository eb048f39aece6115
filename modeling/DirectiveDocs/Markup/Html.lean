import DirectiveDocs.Markup.Source

namespace DirectiveDocs.Markup

/-- Names of the elements whose tags start a block of HTML up to the next blank line. -/
def blockElements : List String :=
  ["address", "article", "aside", "base", "basefont", "blockquote", "body", "caption", "center",
   "col", "colgroup", "dd", "details", "dialog", "dir", "div", "dl", "dt", "fieldset",
   "figcaption", "figure", "footer", "form", "frame", "frameset", "h1", "h2", "h3", "h4", "h5",
   "h6", "head", "header", "hr", "html", "iframe", "legend", "li", "link", "main", "menu",
   "menuitem", "nav", "noframes", "ol", "optgroup", "option", "p", "param", "search", "section",
   "summary", "table", "tbody", "td", "tfoot", "th", "thead", "title", "tr", "track", "ul"]

/-- Elements whose content is not markup, with the tag that ends their block. -/
def rawElements : List (String × String) :=
  [("pre", "</pre>"), ("style", "</style>"), ("script", "</script>"), ("textarea", "</textarea>")]

/-- Openings of other HTML constructs, with what ends their block. -/
def rawOpenings : List (String × String) :=
  [("!--", "-->"), ("?", "?>"), ("![CDATA[", "]]>")]

namespace Source

/-- What ends the block of HTML whose opening bracket stands before a position, if the block
does not end at a blank line. -/
def htmlBlockEnd? (s : Source) (i : Nat) : Option String :=
  let raw := rawElements.findSome? (fun (name, stop) =>
    let after := i + name.length
    let ends := after == s.size || s.test after (fun c => isAsciiBlank c || c == '>')
    if s.startsWithFolded i name.toList && ends then some stop else none)
  let opening := rawOpenings.findSome? (fun (start, stop) =>
    if s.startsWith i start.toList then some stop else none)
  let declaration :=
    if s.isAt i '!' && s.test (i + 1) Char.isAlpha then some ">" else none
  raw.or (opening.or declaration)

/-- Whether the tag of a block element stands after an opening bracket. -/
def startsBlockElement (s : Source) (i : Nat) : Bool :=
  let start := if s.isAt i '/' then i + 1 else i
  let stop := s.skipWhile Char.isAlphanum start
  let name := (s.slice start stop).map Char.toLower
  blockElements.contains name &&
    (stop == s.size || s.isAt stop ' ' || s.isAt stop '\t' || s.isAt stop '\r' ||
      s.isAt stop '\n' || s.isAt stop '>' || s.startsWith stop ['/', '>'])

end Source

/-- A tag as it is scanned: what is kept of it so far, where the rest starts, and where the
scan stands. -/
structure TagScan where
  kept : String
  since : Nat
  position : Nat

namespace TagScan

def advance (t : TagScan) (n : Nat) : TagScan :=
  { t with position := t.position + n }

def moveTo (t : TagScan) (i : Nat) : TagScan :=
  { t with position := i }

/-- Passes a line end. What the next line starts with is left out of the tag. -/
def line (s : Source) (skip : Nat → Nat) (t : TagScan) (i : Nat) : TagScan :=
  let j := skip i
  if i < j then ⟨t.kept ++ s.slice t.since i, j, j⟩ else { t with position := i }

def text (s : Source) (t : TagScan) : String :=
  t.kept ++ s.slice t.since t.position

/-- Passes blanks and line ends; without a rule for line ends there may be none. -/
def blanks? (s : Source) (skip : Option (Nat → Nat)) : Nat → TagScan → Option TagScan
  | 0, _ => none
  | fuel + 1, t =>
    match s[t.position]? with
    | none => some t
    | some c =>
      if isLineEnd c then
        match skip, s.lineEnd? t.position with
        | some skip, some i => blanks? s skip fuel (t.line s skip i)
        | _, _ => none
      else if isInlineBlank c then blanks? s skip fuel (t.advance 1)
      else some t

def quoted? (s : Source) (skip : Option (Nat → Nat)) (quote : Char) : Nat → TagScan → Option TagScan
  | 0, _ => none
  | fuel + 1, t =>
    match s[t.position]? with
    | none => none
    | some c =>
      if c == quote then some (t.advance 1)
      else if isLineEnd c then
        match skip, s.lineEnd? t.position with
        | some skip, some i => quoted? s skip quote fuel (t.line s skip i)
        | _, _ => none
      else quoted? s skip quote fuel (t.advance 1)

def isBareValueChar (c : Char) : Bool :=
  !(c == '\'' || c == '"' || c == ' ' || c == '=' || c == '>' || c == '<' || c == backtick ||
    isLineEnd c)

def value? (s : Source) (skip : Option (Nat → Nat)) (t : TagScan) : Option TagScan :=
  match s[t.position]? with
  | none => none
  | some c =>
    if c == '"' || c == '\'' then quoted? s skip c (s.size + 1) (t.advance 1)
    else if isBareValueChar c then some (t.moveTo (s.skipWhile isBareValueChar t.position))
    else none

def isNameChar (c : Char) : Bool :=
  c.isAlphanum || c == '_' || c == '.' || c == ':' || c == '-'

def attribute? (s : Source) (skip : Option (Nat → Nat)) (t : TagScan) : Option TagScan :=
  if s.test t.position (fun c => c.isAlpha || c == '_' || c == ':') then
    let name := t.moveTo (s.skipWhile isNameChar t.position)
    match blanks? s skip (s.size + 1) name with
    | none => none
    | some u =>
      if s.isAt u.position '=' then
        (blanks? s skip (s.size + 1) (u.advance 1)).bind (value? s skip)
      else some name
  else none

/-- Attributes, each after blanks, up to the end of an opening tag. -/
def attributes? (s : Source) (skip : Option (Nat → Nat)) : Nat → TagScan → Option TagScan
  | 0, _ => none
  | fuel + 1, t =>
    match blanks? s skip (s.size + 1) t with
    | none => none
    | some u =>
      match s[u.position]? with
      | none => none
      | some c =>
        if c == '/' || c == '>' then some u
        else if u.position = t.position then none
        else (attribute? s skip u).bind (attributes? s skip fuel)

def tag? (s : Source) (skip : Option (Nat → Nat)) (i : Nat) : Option TagScan :=
  let closing := s.isAt (i + 1) '/'
  let start := if closing then i + 2 else i + 1
  if s.test start Char.isAlpha then
    let named : TagScan :=
      ⟨"", i, s.skipWhile (fun c => c.isAlphanum || c == '-') start⟩
    let body := if closing then some named else attributes? s skip (s.size + 1) named
    body.bind (fun t =>
      let t := t.moveTo (s.skipWhile isInlineBlank t.position)
      let t := if !closing && s.isAt t.position '/' then t.advance 1 else t
      if s.isAt t.position '>' then some (t.advance 1) else none)
  else none

end TagScan

namespace Source

/-- Whether a complete tag stands alone on its line. -/
def isLoneTag (s : Source) (i : Nat) : Bool :=
  match TagScan.tag? s none i with
  | some t => (s.blankLine? t.position).isSome
  | none => false

/-- The end of a comment, a CDATA section or a declaration, after its exclamation mark. -/
def declarationEnd? (s : Source) (i : Nat) : Option Nat :=
  if s.startsWith i ['-', '-'] then
    if s.isAt (i + 2) '>' then some (i + 3)
    else if s.startsWith (i + 2) ['-', '>'] then some (i + 4)
    else (s.find? ['-', '-', '>'] (i + 2)).map (· + 3)
  else if s.startsWith i ['[', 'C', 'D', 'A', 'T', 'A', '['] then
    let stop := s.skipWhile (· != ']') (i + 7)
    let after := s.skipWhile (· == ']') stop
    if stop < after && s.isAt after '>' then some (after + 1) else none
  else if s.test i Char.isAlpha then
    let stop := s.skipWhile (· != '>') i
    if stop < s.size then some (stop + 1) else none
  else none

/-- The end of a processing instruction after its question mark. -/
def instructionEnd? (s : Source) (i : Nat) : Option Nat :=
  (s.find? ['?', '>'] i).map (· + 2)

/-- Inline HTML from its opening bracket on: its text and the position after it. -/
def inlineHtml? (s : Source) (skip : Nat → Nat) (i : Nat) : Option (String × Nat) :=
  if s.isAt (i + 1) '!' then
    (s.declarationEnd? (i + 2)).map (fun stop => (s.slice i stop, stop))
  else if s.isAt (i + 1) '?' then
    (s.instructionEnd? (i + 2)).map (fun stop => (s.slice i stop, stop))
  else
    (TagScan.tag? s (some skip) i).map (fun t => (t.text s, t.position))

end Source
end DirectiveDocs.Markup
