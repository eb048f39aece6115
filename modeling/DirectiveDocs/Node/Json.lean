import DirectiveDocs.Json.Basic
import DirectiveDocs.Node.Basic

namespace DirectiveDocs

namespace Attributes

def toJson (a : Attributes) : Json :=
  .object (a.entries.map (fun e => (e.1, .string e.2)))

end Attributes

namespace Node

mutual

/-- An object with the members `attributes` (left out when empty), `children` and `type`. -/
def toJson : Node → Json
  | mk k a cs =>
    let rest := [("children", Json.array (childrenToJson cs)), ("type", Json.string k.tag)]
    .object (if a.isEmpty then rest else ("attributes", a.toJson) :: rest)

def childToJson : Child → Json
  | .node n => toJson n
  | .text s => .string s

def childrenToJson : List Child → List Json
  | [] => []
  | c :: cs => childToJson c :: childrenToJson cs

end

inductive DecodeError where
  | wrongType (found : Json) (expected : String)
  | notSingleKey
  | unknownKind (tag : String)
  | missingKind
  | emptySequence
  | longSequence (length : Nat)
  | notAChild

def ticked (names : List String) : String :=
  ", ".intercalate (names.map (fun n => "`" ++ n ++ "`"))

def DecodeError.message : DecodeError → String
  | wrongType found expected => "invalid type: " ++ found.describe ++ ", expected " ++ expected
  | notSingleKey => "invalid value: map, expected map with a single key"
  | unknownKind tag =>
    "unknown variant `" ++ tag ++ "`, expected one of " ++ ticked (Kind.all.map Kind.tag)
  | missingKind => "missing field `type`"
  | emptySequence => "invalid length 0, expected struct Node with 3 elements"
  | longSequence n => "invalid length " ++ toString n ++ ", expected fewer elements in array"
  | notAChild => "data did not match any variant of untagged enum Child"

def decodeTag (tag : String) : Except DecodeError Kind :=
  match Kind.ofTag? tag with
  | some k => .ok k
  | none => .error (.unknownKind tag)

/-- A kind is its tag, or an object whose only member has the tag as key and null as value. -/
def decodeKind : Json → Except DecodeError Kind
  | .string tag => decodeTag tag
  | .object [(tag, value)] => do
    let k ← decodeTag tag
    match value with
    | .null => .ok k
    | j => .error (.wrongType j "unit")
  | .object _ => .error .notSingleKey
  | j => .error (.wrongType j "string or map")

def decodeEntries : List (String × Json) → Except DecodeError (List (String × String))
  | [] => .ok []
  | (key, .string value) :: rest => do
    let es ← decodeEntries rest
    .ok ((key, value) :: es)
  | (_, j) :: _ => .error (.wrongType j "a string")

def decodeAttributes : Json → Except DecodeError Attributes
  | .object members => do
    let es ← decodeEntries members
    .ok (Attributes.ofList es)
  | j => .error (.wrongType j "a map")

/-- What is known of a node while its members are read. -/
structure Draft where
  kind : Option Kind := none
  attributes : Attributes := .empty
  children : List Child := []

def Draft.finish (d : Draft) : Except DecodeError Node :=
  match d.kind with
  | some k => .ok (Node.mk k d.attributes d.children)
  | none => .error .missingKind

/-- A child is a node if its value can be read as one, and otherwise a text. -/
def childOf (j : Json) : Except DecodeError Node → Except DecodeError Child
  | .ok n => .ok (.node n)
  | .error _ =>
    match j with
    | .string s => .ok (.text s)
    | _ => .error .notAChild

mutual

/-- A node is an object, or a sequence of its kind, attributes and children of which the last
two may be left out. -/
def decode : Json → Except DecodeError Node
  | .object members => do
    let d ← decodeMembers members ⟨none, .empty, []⟩
    d.finish
  | .array items => decodeItems items
  | j => .error (.wrongType j "struct Node")

/-- Members are read in order; those with other names are passed over. -/
def decodeMembers : List (String × Json) → Draft → Except DecodeError Draft
  | [], d => .ok d
  | (key, j) :: rest, d =>
    if key = "attributes" then do
      let a ← decodeAttributes j
      decodeMembers rest ⟨d.kind, a, d.children⟩
    else if key = "children" then do
      let cs ← decodeChildren j
      decodeMembers rest ⟨d.kind, d.attributes, cs⟩
    else if key = "type" then do
      let k ← decodeKind j
      decodeMembers rest ⟨some k, d.attributes, d.children⟩
    else decodeMembers rest d

def decodeItems : List Json → Except DecodeError Node
  | [] => .error .emptySequence
  | [k] => do
    .ok (empty (← decodeKind k))
  | [k, a] => do
    let k ← decodeKind k
    .ok (mk k (← decodeAttributes a) [])
  | k :: a :: cs :: rest => do
    let k ← decodeKind k
    let a ← decodeAttributes a
    let cs ← decodeChildren cs
    match rest with
    | [] => .ok (mk k a cs)
    | _ => .error (.longSequence (3 + rest.length))

def decodeChildren : Json → Except DecodeError (List Child)
  | .array items => decodeChildList items
  | j => .error (.wrongType j "a sequence")

def decodeChildList : List Json → Except DecodeError (List Child)
  | [] => .ok []
  | j :: rest => do
    let c ← childOf j (decode j)
    let cs ← decodeChildList rest
    .ok (c :: cs)

end

end Node
end DirectiveDocs
