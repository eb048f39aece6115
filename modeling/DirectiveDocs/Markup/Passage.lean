import DirectiveDocs.Markup.Block
import DirectiveDocs.Markup.Html
import DirectiveDocs.Markup.Inline

namespace DirectiveDocs.Markup

/-- The tokens that end after a position; the first of them starts no earlier than there. -/
def tokensFrom (position : Nat) : List Token → List Token
  | [] => []
  | t :: rest =>
    if t.stop ≤ position then tokensFrom position rest
    else { t with start := max t.start position } :: rest

/-- A bracket that may open a link or an image, with what came after it, latest first. Inside
the text of a link no other link opens. -/
structure Bracket (d : Dialect) where
  token : Token
  image : Bool
  enabled : Bool
  latest : List (Inline d)

/-- A passage as its links are found: the brackets still open, innermost first, and what came
before them, latest first. -/
structure Linking (d : Dialect) where
  brackets : List (Bracket d)
  latest : List (Inline d)

structure Surroundings where
  source : Source
  block : Source
  containers : List Container
  inTable : Bool
  target? : String → Option LinkTarget

namespace Surroundings

def skip (x : Surroundings) (i : Nat) : Nat :=
  skipContainers x.block x.containers i

/-- The text of inline code: line ends count as spaces, and one space at both ends is dropped
unless there is nothing else. -/
def codeText (x : Surroundings) (stop : Nat) : Nat → Nat → List Char → List Char
  | 0, _, done => done
  | fuel + 1, i, done =>
    if stop ≤ i then done
    else
      match x.source[i]? with
      | none => done
      | some c =>
        if isLineEnd c then
          codeText x stop fuel (skipContainers x.source x.containers (i + 1)) (' ' :: done)
        else if c == '\\' && x.inTable && x.source.isAt (i + 1) '|' then
          codeText x stop fuel (i + 2) ('|' :: done)
        else codeText x stop fuel (i + 1) (c :: done)

def code (x : Surroundings) (start stop : Nat) : String :=
  let text := (x.codeText stop (x.source.size + 1) start []).reverse
  let padded := text.head? == some ' ' && text.getLast? == some ' ' && text.any (· != ' ')
  String.ofList (if padded then (text.drop 1).dropLast else text)

/-- Blanks inside a link, with at most one line end. -/
def separator (x : Surroundings) (i : Nat) : Nat :=
  let i := x.block.skipWhile isInlineBlank i
  let i := if x.block.test i isLineEnd then x.skip ((x.block.lineEnd? i).getD i) else i
  x.block.skipWhile isInlineBlank i

/-- The title of an inline link up to its closing mark. A line goes on where its text starts. -/
def titleFrom? (x : Surroundings) (opening close : Char) :
    Nat → Nat → List Token → List Char → Option (String × Nat)
  | 0, _, _, _ => none
  | fuel + 1, i, tokens, done =>
    match x.block[i]? with
    | none => none
    | some c =>
      if c == close then some (String.ofList done.reverse, i + 1)
      else if c == opening then none
      else
        let ahead := tokens.dropWhile (·.stop ≤ i + 1)
        let line := if isLineEnd c then ahead.head?.filter (fun t => i < t.start) else none
        match line with
        | some t => titleFrom? x opening close fuel t.start ahead ('\n' :: done)
        | none =>
          match if c == '&' then x.block.reference? i else none with
          | some (text, j) =>
            titleFrom? x opening close fuel j tokens (text.toList.reverse ++ done)
          | none =>
            if c == '\\' && x.inTable && x.block.isAt (i + 1) '\\' && x.block.isAt (i + 2) '|' then
              titleFrom? x opening close fuel (i + 3) tokens ('|' :: done)
            else if c == '\\' && x.block.test (i + 1) isAsciiPunctuation then
              titleFrom? x opening close fuel (i + 2) tokens (x.block[i + 1]?.toList ++ done)
            else titleFrom? x opening close fuel (i + 1) tokens (c :: done)

def title? (x : Surroundings) (tokens : List Token) (i : Nat) : Option (String × Nat) :=
  let fuel := x.block.size + 1
  match x.block[i]? with
  | some '"' => x.titleFrom? '"' '"' fuel (i + 1) tokens []
  | some '\'' => x.titleFrom? '\'' '\'' fuel (i + 1) tokens []
  | some '(' => x.titleFrom? '(' ')' fuel (i + 1) tokens []
  | _ => none

/-- The destination and title in parentheses after a link's text. -/
def inlineTarget? (x : Surroundings) (tokens : List Token) (i : Nat) : Option (LinkTarget × Nat) :=
  if x.block.isAt i '(' then
    match x.block.destination? (x.separator (i + 1)) with
    | none => none
    | some (url, j) =>
      let j := x.separator j
      let (title, j) := match x.title? tokens j with
        | some (title, k) => (title, x.separator k)
        | none => ("", j)
      if x.block.isAt j ')' then some (⟨unescape x.inTable url, title⟩, j + 1) else none
  else none

def label? (x : Surroundings) (s : Source) (i : Nat) : Option (String × Nat) :=
  if s.isAt i '[' then
    s.label? (fun j => some (skipContainers s x.containers j)) x.inTable (i + 1)
  else none

end Surroundings

/-- What follows a link's text: a label, empty brackets, or neither. -/
inductive Follow where
  | label (label : String) (stop : Nat)
  | collapsed
  | nothing

namespace Linking

variable {d : Dialect}

def add (l : Linking d) (i : Inline d) : Linking d :=
  match l.brackets with
  | b :: rest => { l with brackets := { b with latest := i :: b.latest } :: rest }
  | [] => { l with latest := i :: l.latest }

def addAll (l : Linking d) (new : List (Inline d)) : Linking d :=
  match l.brackets with
  | b :: rest => { l with brackets := { b with latest := new ++ b.latest } :: rest }
  | [] => { l with latest := new ++ l.latest }

def finish (s : Source) (l : Linking d) : List (Inline d) :=
  (l.brackets.foldr (fun b latest =>
    b.latest ++ .text (s.slice b.token.start b.token.stop) :: latest) l.latest).reverse

def link (l : Linking d) (b : Bracket d) (target : LinkTarget) : Linking d :=
  if b.image then l.add (.image target.url target.title b.latest.reverse)
  else
    let disabled := l.brackets.map (fun o => if o.image then o else { o with enabled := false })
    ({ l with brackets := disabled } : Linking d).add
      (.link target.url target.title b.latest.reverse)

/-- What stands after a closing bracket. -/
def follow (x : Surroundings) : List Token → Follow
  | [] => .nothing
  | next :: _ =>
    if x.block.startsWith next.start ['[', ']'] then .collapsed
    else
      match x.label? x.block next.start with
      | some (label, stop) => .label label stop
      | none => .nothing

/-- The reference that a bracketed text makes, with the tokens after it. A label that points
nowhere keeps its own closing bracket from making a reference. -/
def reference? (x : Surroundings) (opening closing : Token) (viable : Bool) (rest : List Token) :
    Option (LinkTarget × List Token) × List Token :=
  let own :=
    if viable then
      match x.label? (x.source.upTo closing.stop) (opening.stop - 1) with
      | some (label, stop) => if stop = closing.stop then x.target? label else none
      | none => none
    else none
  match follow x rest with
  | .label label stop =>
    let skipped := rest.takeWhile (·.stop ≤ stop - 1)
    match rest.dropWhile (·.stop ≤ stop - 1) with
    | close :: after =>
      match x.target? label with
      | some target => (some (target, after), rest)
      | none => (none, skipped ++ { close with kind := .bracketClose false } :: after)
    | [] => (none, rest)
  | .collapsed => (own.map (fun target => (target, rest.drop 2)), rest)
  | .nothing => (own.map (fun target => (target, rest)), rest)

/-- A closing bracket: it ends a link or an image, or it is text. Gives the tokens that follow. -/
def closeBracket (x : Surroundings) (closing : Token) (viable : Bool) (rest : List Token)
    (l : Linking d) : List Token × Linking d :=
  let text (l : Linking d) : Linking d := l.add (.text (x.source.slice closing.start closing.stop))
  match l.brackets with
  | [] => (rest, text l)
  | b :: below =>
    let outer : Linking d := { l with brackets := below }
    let plain := text (outer.addAll
      (b.latest ++ [.text (x.source.slice b.token.start b.token.stop)]))
    if !b.enabled then (rest, plain)
    else
      match x.inlineTarget? rest closing.stop with
      | some (target, stop) => (tokensFrom stop rest, outer.link b target)
      | none =>
        match reference? x b.token closing viable rest with
        | (some (target, after), _) => (after, outer.link b target)
        | (none, rest) => (rest, plain)

/-- A run of backticks: inline code up to an equal run, or text. An escaped run is one shorter
when it opens. -/
def ticks (x : Surroundings) (t : Token) (count : Nat) (escaped : Bool) (rest : List Token)
    (l : Linking d) : List Token × Linking d :=
  let sought := if escaped then count - 1 else count
  let closes (u : Token) : Bool :=
    match u.kind with
    | .ticks n _ => n == sought
    | _ => false
  let text := (rest, l.add (.text (x.source.slice t.start t.stop)))
  if sought = 0 then text
  else
    match rest.find? closes with
    | none => text
    | some close =>
      let after := (rest.dropWhile (fun u => !closes u)).drop 1
      let l := if escaped then l.add (.text (x.source.slice t.start (t.start + 1))) else l
      (after, l.add (.code (x.code t.stop close.start)))

/-- An opening angle bracket: an address, inline HTML, or text. -/
def angle (x : Surroundings) (t : Token) (rest : List Token) (l : Linking d) :
    List Token × Linking d :=
  let text := (rest, l.add (.text (x.source.slice t.start t.stop)))
  match rest with
  | [] => text
  | next :: _ =>
    match x.block.autolink? next.start with
    | some (url, stop) =>
      (tokensFrom stop rest, l.add (.link url "" [.text (x.source.slice (t.start + 1) (stop - 1))]))
    | none =>
      match x.block.inlineHtml? x.skip (next.start - 1) with
      | some (html, stop) => (tokensFrom stop rest, l.add (.html html))
      | none => text

/-- Reads tokens as inline text with its links, code and HTML. -/
def read (x : Surroundings) : Nat → List Token → Linking d → Linking d
  | 0, _, l => l
  | _, [], l => l
  | fuel + 1, t :: rest, l =>
    match t.kind with
    | .text => read x fuel rest (l.add (.text (x.source.slice t.start t.stop)))
    | .reference text => read x fuel rest (l.add (.text text))
    | .delimiter mark count opens closes =>
      read x fuel rest (l.add (.delimiter mark count opens closes))
    | .softBreak => read x fuel rest (l.add .softBreak)
    | .hardBreak backslash => read x fuel rest (l.add (.hardBreak backslash))
    | .linkOpen => read x fuel rest { l with brackets := ⟨t, false, true, []⟩ :: l.brackets }
    | .imageOpen => read x fuel rest { l with brackets := ⟨t, true, true, []⟩ :: l.brackets }
    | .bracketClose viable =>
      let (rest, l) := l.closeBracket x t viable rest
      read x fuel rest l
    | .ticks count escaped =>
      let (rest, l) := l.ticks x t count escaped rest
      read x fuel rest l
    | .angle =>
      let (rest, l) := l.angle x t rest
      read x fuel rest l

end Linking

def Passage.inlines {d : Dialect} (p : Passage) (s : Source) (target? : String → Option LinkTarget) :
    List (Inline d) :=
  let x : Surroundings := ⟨s, s.upTo p.stop, p.containers, p.inTable, target?⟩
  let linked : List (Inline d) :=
    (Linking.read x (p.tokens.length + 1) p.tokens ⟨[], []⟩).finish s
  (Matching.empty.read (resolveInside linked)).finish

end DirectiveDocs.Markup
