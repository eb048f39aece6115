import DirectiveDocs.Unicode.Alphanumeric

namespace DirectiveDocs.Text

/-- The characters of a variable's name that needs no braces. -/
def isVariableChar (c : Char) : Bool :=
  Unicode.isAlphanumeric c || c == '_'

/-- What stands before the first two characters `:-`, and what stands after them. -/
def splitDefault : List Char → List Char × Option (List Char)
  | ':' :: '-' :: cs => ([], some cs)
  | c :: cs =>
    let (name, default?) := splitDefault cs
    (c :: name, default?)
  | [] => ([], none)

/-- The name and the default between braces. Without a name all of it is the name. -/
def reference (cs : List Char) : List Char × Option (List Char) :=
  match splitDefault cs with
  | ([], some _) => (cs, none)
  | r => r

/-- A part of a text: characters as they are, or a variable with its default. -/
inductive Segment where
  | plain (text : List Char)
  | variable (name : List Char) (default? : Option (List Char))
  deriving DecidableEq, Repr

/-- The first segment after a dollar sign, and the rest. A second dollar sign is dropped, and a
brace that is not closed is plain. -/
def afterDollar : List Char → Segment × List Char
  | '\x7b' :: cs =>
    if cs.contains '\x7d' then
      let (name, default?) := reference (cs.takeWhile (· != '\x7d'))
      (.variable name default?, (cs.dropWhile (· != '\x7d')).drop 1)
    else (.plain ['$', '\x7b'], cs)
  | '$' :: cs => (.plain ['$'], cs)
  | cs =>
    let name := cs.takeWhile isVariableChar
    if name.isEmpty then (.plain ['$'], cs)
    else (.variable name none, cs.dropWhile isVariableChar)

def segmentsFrom : Nat → List Char → List Segment
  | 0, _ => []
  | fuel + 1, cs =>
    let plain := cs.takeWhile (· != '$')
    match cs.dropWhile (· != '$') with
    | _ :: rest =>
      let (segment, rest) := afterDollar rest
      .plain plain :: segment :: segmentsFrom fuel rest
    | [] => [.plain plain]

def segments (cs : List Char) : List Segment :=
  segmentsFrom (cs.length + 1) cs

def Segment.name? : Segment → Option String
  | plain _ => none
  | .variable name _ => some (String.ofList name)

def variableNames (text : String) : List String :=
  (segments text.toList).filterMap Segment.name?

/-- The values of segments, or the name of the first variable that has neither a value nor a
default. -/
def values (variableValue? : String → Option String) : List Segment → Except String (List Char)
  | [] => .ok []
  | .plain cs :: rest => do
    .ok (cs ++ (← values variableValue? rest))
  | .variable name default? :: rest =>
    match (variableValue? (String.ofList name)).map String.toList, default? with
    | some value, _ => do
      .ok (value ++ (← values variableValue? rest))
    | none, some value => do
      .ok (value ++ (← values variableValue? rest))
    | none, none => .error (String.ofList name)

def hasBracedReference : List Char → Bool
  | '$' :: '\x7b' :: _ => true
  | _ :: cs => hasBracedReference cs
  | [] => false

/-- A text with its variables replaced. Values are not looked at again, and a text without a
braced reference stays as it is. -/
def expand (variableValue? : String → Option String) (text : String) : Except String String :=
  if hasBracedReference text.toList then
    (values variableValue? (segments text.toList)).map String.ofList
  else .ok text

end DirectiveDocs.Text
