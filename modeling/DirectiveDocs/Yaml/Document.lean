import DirectiveDocs.Yaml.Layout
import DirectiveDocs.Yaml.Tree

namespace DirectiveDocs.Yaml

/-- The tokens not used yet, the numbers of the anchors named so far, and what the handles of
tags stand for. -/
structure Reading where
  tokens : List Token
  anchors : List (String × Nat)
  handles : List (String × String)

/-- Reads a part of the tokens; none when they do not fit. -/
abbrev Reader (α : Type) := Reading → Option (α × Reading)

namespace Reader

instance : Monad Reader where
  pure a := fun r => some (a, r)
  bind x f := fun r => (x r).bind (fun (a, r) => f a r)

def fail : Reader α := fun _ => none

def peek : Reader (Option Token) := fun r => some (r.tokens.head?, r)

def skip : Reader Unit := fun r => some ((), { r with tokens := r.tokens.tail })

def isNext (p : TokenKind → Bool) : Reader Bool := fun r =>
  some ((r.tokens.head?.map (fun t => p t.kind)).getD false, r)

def place : Reader Mark := fun r => r.tokens.head?.map (fun t => (t.start, r))

/-- An anchor's number is the number of different names before it. A later anchor of the same
name takes a number of its own. -/
def defineAnchor (name : String) : Reader Nat := fun r =>
  let n := r.anchors.length
  some (n, { r with anchors := (name, n) :: r.anchors.filter (fun e => e.1 != name) })

def findAnchor (name : String) : Reader Nat := fun r =>
  (r.anchors.find? (fun e => e.1 == name)).map (fun e => (e.2, r))

/-- A tag with its handle expanded; without a handle the suffix is the tag. -/
def expandTag (handle suffix : String) : Reader String := fun r =>
  if handle.isEmpty then some (suffix, r)
  else (r.handles.find? (fun e => e.1 == handle)).map (fun e => (e.2 ++ suffix, r))

end Reader

open Reader

/-- The anchor and the tag before a node, and the place of the first of them. -/
structure Properties where
  mark : Option Mark := none
  anchor : Option Nat := none
  tag : Option String := none

namespace Properties

def isEmpty (p : Properties) : Bool :=
  p.anchor.isNone && p.tag.isNone

def readAnchor (p : Properties) : Reader Properties := do
  match ← peek with
  | some ⟨.anchor name, start, _⟩ => do
    skip
    let n ← defineAnchor name
    pure { p with mark := p.mark.or (some start), anchor := some n }
  | _ => pure p

def readTag (p : Properties) : Reader Properties := do
  match ← peek with
  | some ⟨.tag handle suffix, start, _⟩ => do
    skip
    let t ← expandTag handle suffix
    pure { p with mark := p.mark.or (some start), tag := some t }
  | _ => pure p

def read : Reader Properties := do
  let p : Properties := ⟨none, none, none⟩
  if ← isNext (fun k => match k with | .tag .. => true | _ => false) then
    (← p.readTag).readAnchor
  else (← p.readAnchor).readTag

end Properties

def TokenKind.endsBlockPart : TokenKind → Bool
  | .key | .value | .blockEnd => true
  | _ => false

mutual

/-- A node, in block style if `block`. The items of a block sequence that is the value of a
mapping need no indentation if `unindented`. -/
def node : Nat → (block unindented : Bool) → Reader Node
  | 0, _, _ => fail
  | fuel + 1, block, unindented => do
    let p ← Properties.read
    let some t ← peek
      | match p.mark with
        | some m => pure (.scalar m p.anchor p.tag .plain "")
        | none => fail
    let m := p.mark.getD t.start
    match t.kind with
    | .alias name =>
      if p.isEmpty then do
        skip
        pure (.reference t.start (← findAnchor name))
      else pure (.scalar m p.anchor p.tag .plain "")
    | .scalar style text => do
      skip
      pure (.scalar m p.anchor (if p.tag = some "!" then none else p.tag) style text)
    | .flowSequenceStart => do
      skip
      pure (.sequence m p.anchor p.tag (← flowItems fuel true))
    | .flowMappingStart => do
      skip
      pure (.mapping m p.anchor p.tag (← flowEntries fuel true))
    | kind =>
      if unindented && kind == .blockEntry then
        pure (.sequence m p.anchor p.tag (← unindentedItems fuel))
      else if block && kind == .blockSequenceStart then do
        skip
        pure (.sequence m p.anchor p.tag (← blockItems fuel))
      else if block && kind == .blockMappingStart then do
        skip
        pure (.mapping m p.anchor p.tag (← blockEntries fuel))
      else if p.isEmpty then fail
      else pure (.scalar m p.anchor p.tag .plain "")

def nodeUnless : Nat → (isEnd : TokenKind → Bool) → Mark → (block unindented : Bool) →
    Reader Node
  | 0, _, _, _, _ => fail
  | fuel + 1, isEnd, m, block, unindented => do
    if ← isNext isEnd then pure (.absent m) else node fuel block unindented

def blockItems : Nat → Reader (List Node)
  | 0 => fail
  | fuel + 1 => do
    match ← peek with
    | some ⟨.blockEntry, _, stop⟩ => do
      skip
      let n ← nodeUnless fuel (fun k => k == .blockEntry || k == .blockEnd) stop true false
      pure (n :: (← blockItems fuel))
    | some ⟨.blockEnd, _, _⟩ => do
      skip
      pure []
    | _ => fail

/-- The items of a block sequence that has no end of its own. -/
def unindentedItems : Nat → Reader (List Node)
  | 0 => fail
  | fuel + 1 => do
    match ← peek with
    | some ⟨.blockEntry, _, stop⟩ => do
      skip
      let n ← nodeUnless fuel (fun k => k == .blockEntry || k.endsBlockPart) stop true false
      pure (n :: (← unindentedItems fuel))
    | _ => pure []

def blockEntries : Nat → Reader (List (Node × Node))
  | 0 => fail
  | fuel + 1 => do
    match ← peek with
    | some ⟨.key, _, stop⟩ => do
      skip
      let k ← nodeUnless fuel TokenKind.endsBlockPart stop true true
      let v ← blockValue fuel
      pure ((k, v) :: (← blockEntries fuel))
    | some ⟨.blockEnd, _, _⟩ => do
      skip
      pure []
    | _ => fail

/-- The value after a key of a block mapping; it may be left out. -/
def blockValue : Nat → Reader Node
  | 0 => fail
  | fuel + 1 => do
    match ← peek with
    | some ⟨.value, _, stop⟩ => do
      skip
      nodeUnless fuel TokenKind.endsBlockPart stop true true
    | some t => pure (.absent t.start)
    | none => fail

def flowItems : Nat → (first : Bool) → Reader (List Node)
  | 0, _ => fail
  | fuel + 1, first => do
    if ← isNext (· == .flowSequenceEnd) then do
      skip
      pure []
    else do
      if !first then
        if ← isNext (· == .flowEntry) then skip else fail
      match ← peek with
      | some ⟨.flowSequenceEnd, _, _⟩ => do
        skip
        pure []
      | some ⟨.key, start, _⟩ => do
        skip
        let entry ← flowPair fuel
        pure (.mapping start none none [entry] :: (← flowItems fuel false))
      | _ => do
        let n ← node fuel false false
        pure (n :: (← flowItems fuel false))

/-- A single entry that stands as an item of a flow sequence. A token that shows its key to be
left out is used up. -/
def flowPair : Nat → Reader (Node × Node)
  | 0 => fail
  | fuel + 1 => do
    let isEnd : TokenKind → Bool := fun k => k == .flowEntry || k == .flowSequenceEnd
    let some t ← peek | fail
    let k ← if t.kind == .value || isEnd t.kind then do
        skip
        pure (.absent t.stop)
      else node fuel false false
    if ← isNext (· == .value) then do
      skip
      pure (k, ← nodeUnless fuel isEnd (← place) false false)
    else pure (k, .absent (← place))

def flowEntries : Nat → (first : Bool) → Reader (List (Node × Node))
  | 0, _ => fail
  | fuel + 1, first => do
    if ← isNext (· == .flowMappingEnd) then do
      skip
      pure []
    else do
      if !first then
        if ← isNext (· == .flowEntry) then skip else fail
      let isEnd : TokenKind → Bool := fun k => k == .flowEntry || k == .flowMappingEnd
      match ← peek with
      | some ⟨.flowMappingEnd, _, _⟩ => do
        skip
        pure []
      | some ⟨.key, _, _⟩ => do
        skip
        let k ← nodeUnless fuel (fun k => k == .value || isEnd k) (← place) false false
        let v ← if ← isNext (· == .value) then do
            skip
            nodeUnless fuel isEnd (← place) false false
          else pure (.absent (← place))
        pure ((k, v) :: (← flowEntries fuel false))
      | _ => do
        let k ← node fuel false false
        pure ((k, .absent (← place)) :: (← flowEntries fuel false))

end

/-- The directives before a document. The version is 1.1 or 1.2 and is given at most once, as
is each handle. -/
def directives : Nat → (versioned : Bool) → List (String × String) →
    Reader (List (String × String))
  | 0, _, _ => fail
  | fuel + 1, versioned, handles => do
    match ← peek with
    | some ⟨.version major minor, _, _⟩ =>
      if versioned || major != 1 || (minor != 1 && minor != 2) then fail
      else do
        skip
        directives fuel true handles
    | some ⟨.handle name expansion, _, _⟩ =>
      if handles.any (fun e => e.1 == name) then fail
      else do
        skip
        directives fuel versioned ((name, expansion) :: handles)
    | _ => pure handles

/-- The handles that need no directive. -/
def standardHandles : List (String × String) :=
  [("!", "!"), ("!!", "tag:yaml.org,2002:")]

def TokenKind.isDirective : TokenKind → Bool
  | .version .. | .handle .. => true
  | _ => false

def TokenKind.endsDocument (k : TokenKind) : Bool :=
  k.isDirective || k == .documentStart || k == .documentEnd

def skipDocumentEnds : Nat → Reader Unit
  | 0 => pure ()
  | fuel + 1 => do
    if ← isNext (· == .documentEnd) then do
      skip
      skipDocumentEnds fuel

/-- At most one document, whose start is marked when there are directives before it. -/
def document (fuel : Nat) : Reader Document := do
  let some t ← peek | pure .empty
  if t.kind.isDirective || t.kind == .documentStart then do
    let handles ← directives fuel false []
    if !(← isNext (· == .documentStart)) then fail
    skip
    fun r => some ((), { r with handles := handles ++ standardHandles })
    if (← peek).all (fun t => t.kind.endsDocument) then pure (.ofRoot (.absent t.stop))
    else pure (.ofRoot (← node fuel true false))
  else pure (.ofRoot (← node fuel true false))

/-- The document that a text holds; none when the text is not well formed, names an unknown
anchor or holds a second document. -/
def parse? (text : String) : Option Document := do
  let tokens ← tokens? text
  let fuel := 4 * tokens.length + 4
  let (d, r) ← document fuel ⟨tokens, [], standardHandles⟩
  let ((), r) ← skipDocumentEnds r.tokens.length r
  if r.tokens.isEmpty then some d else none

end DirectiveDocs.Yaml
