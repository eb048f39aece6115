import DirectiveDocs.Toml.Scalar

namespace DirectiveDocs.Toml

def skipSpaces (cs : List Char) : List Char :=
  cs.dropWhile isSpace

def skipComment? : List Char → Option (List Char)
  | '#' :: cs =>
    let rest := cs.dropWhile isTextChar
    if rest.isEmpty || (lineBreak? rest).isSome then some rest else none
  | cs => some cs

/-- The next line, when nothing but blanks and a comment is left of this one. -/
def endLine? (cs : List Char) : Option (List Char) := do
  let rest ← skipComment? (skipSpaces cs)
  if rest.isEmpty then some [] else lineBreak? rest

def skipVoid? : Nat → List Char → Option (List Char)
  | 0, cs => some cs
  | fuel + 1, cs => do
    let rest ← skipComment? (skipSpaces cs)
    match lineBreak? rest with
    | some rest => skipVoid? fuel rest
    | none => some rest

def void? (cs : List Char) : Option (List Char) :=
  skipVoid? (cs.length + 1) cs

def keyPart? (cs : List Char) : Option (String × List Char) :=
  let name := cs.takeWhile isKeyChar
  if name.isEmpty then lineString? cs else some (String.ofList name, cs.drop name.length)

def key? : Nat → List Char → Option (List String × List Char)
  | 0, _ => none
  | fuel + 1, cs => do
    let (part, rest) ← keyPart? (skipSpaces cs)
    match skipSpaces rest with
    | '.' :: rest => do
      let (parts, rest) ← key? fuel rest
      some (part :: parts, rest)
    | rest => some ([part], rest)

def dottedKey? (cs : List Char) : Option (List String × List Char) :=
  key? (cs.length + 1) cs

mutual

def value? : Nat → List Char → Option (Value × List Char)
  | 0, _ => none
  | fuel + 1, cs =>
    match cs with
    | '[' :: cs => do
      let (items, rest) ← items? fuel cs
      some (.array items, rest)
    | '\x7b' :: cs => do
      let (es, rest) ← inlineEntries? fuel [] cs
      some (.table .inline es, rest)
    | c :: _ =>
      if c = '"' ∨ c = '\'' then (string? cs).map (fun (s, rest) => (.string s, rest))
      else bare? cs
    | [] => none

/-- The items of an array up to its closing bracket; a comma may follow the last one. -/
def items? : Nat → List Char → Option (List Value × List Char)
  | 0, _ => none
  | fuel + 1, cs => do
    match ← void? cs with
    | ']' :: rest => some ([], rest)
    | cs => do
      let (v, rest) ← value? fuel cs
      match ← void? rest with
      | ',' :: rest => do
        let (vs, rest) ← items? fuel rest
        some (v :: vs, rest)
      | ']' :: rest => some ([v], rest)
      | _ => none

/-- The entries of a table in braces up to its closing brace; a comma may follow the last one. -/
def inlineEntries? : Nat → Entries → List Char → Option (Entries × List Char)
  | 0, _, _ => none
  | fuel + 1, es, cs => do
    match ← void? cs with
    | '\x7d' :: rest => some (es, rest)
    | cs => do
      let (keys, rest) ← dottedKey? cs
      match rest with
      | '=' :: rest => do
        let (v, rest) ← value? fuel (skipSpaces rest)
        let es ← es.set keys v
        match ← void? rest with
        | ',' :: rest => inlineEntries? fuel es rest
        | '\x7d' :: rest => some (es, rest)
        | _ => none
      | _ => none

end

inductive Statement where
  | entry (keys : List String) (value : Value)
  | table (keys : List String)
  | element (keys : List String)

def statement? (cs : List Char) : Option (Statement × List Char) :=
  match cs with
  | '[' :: '[' :: cs => do
    let (keys, rest) ← dottedKey? cs
    match rest with
    | ']' :: ']' :: rest => do
      some (.element keys, ← endLine? rest)
    | _ => none
  | '[' :: cs => do
    let (keys, rest) ← dottedKey? cs
    match rest with
    | ']' :: rest => do
      some (.table keys, ← endLine? rest)
    | _ => none
  | cs => do
    let (keys, rest) ← dottedKey? cs
    match rest with
    | '=' :: rest => do
      let rest := skipSpaces rest
      let (v, rest) ← value? (rest.length + 1) rest
      some (.entry keys v, ← endLine? rest)
    | _ => none

/-- A document and the keys of the table that entries belong to. -/
structure Draft where
  entries : Entries
  current : List String

namespace Draft

def add (d : Draft) : Statement → Option Draft
  | .entry keys v => do
    let es ← d.entries.within false (Entries.set keys v) d.current
    some { d with entries := es }
  | .table keys => do
    let key ← keys.getLast?
    let es ← d.entries.within false (Entries.define key) keys.dropLast
    some ⟨es, keys⟩
  | .element keys => do
    let key ← keys.getLast?
    let es ← d.entries.within false (Entries.append key) keys.dropLast
    some ⟨es, keys⟩

end Draft

def document? : Nat → Draft → List Char → Option Entries
  | 0, _, _ => none
  | fuel + 1, d, cs => do
    match ← void? cs with
    | [] => some d.entries
    | cs => do
      let (s, rest) ← statement? cs
      document? fuel (← d.add s) rest

/-- The entries of a text; none when it is not a document or defines something twice. A byte
order mark may start it. -/
def parse? (text : String) : Option Entries :=
  let cs := match text.toList with
    | '\ufeff' :: cs => cs
    | cs => cs
  document? (cs.length + 1) ⟨[], []⟩ cs

end DirectiveDocs.Toml
