import DirectiveDocs.Spec.Basic
import DirectiveDocs.Yaml.Value

namespace DirectiveDocs

namespace Yaml

/-- A step from a value to a part of it; the last is for a key that is written elsewhere. -/
inductive Step where
  | index (i : Nat)
  | key (name : String)
  | unnamed
  deriving DecidableEq, Repr

/-- A value's place: the steps to it and its mark. -/
structure Place where
  path : List Step
  mark : Mark
  deriving DecidableEq, Repr

structure Misfit where
  place : Place
  reason : Mismatch
  deriving DecidableEq, Repr

/-- The text of a path: indexes in brackets, names after dots; a dot alone is the whole. -/
def pathText : List Step → String
  | [] => "."
  | .index i :: rest => go (".[" ++ toString i ++ "]") rest
  | .key name :: rest => go name rest
  | .unnamed :: rest => go "?" rest
where
  go (text : String) : List Step → String
    | [] => text
    | .index i :: rest => go (text ++ "[" ++ toString i ++ "]") rest
    | .key name :: rest => go (text ++ "." ++ name) rest
    | .unnamed :: rest => go (text ++ ".?") rest

/-- The line and the column, which are not told for the start of a text. -/
def Mark.text (m : Mark) : String :=
  if m.line = 0 ∧ m.column = 0 then ""
  else " at line " ++ toString (m.line + 1) ++ " column " ++ toString (m.column + 1)

def Misfit.message (m : Misfit) : String :=
  (if m.place.path.isEmpty then "" else pathText m.place.path ++ ": ") ++ m.reason.message ++
    m.place.mark.text

end Yaml

open Yaml (Document Misfit Place Step Mismatch)

inductive SpecField where
  | name | aliases | argument | body | options | doc
  deriving DecidableEq, Repr

/-- A short and a long spelling may stand for one field. -/
def SpecField.ofKey? (key : String) : Option SpecField :=
  if key = "name" then some .name
  else if key = "aliases" ∨ key = "alias" then some .aliases
  else if key = "arg" ∨ key = "argument" then some .argument
  else if key = "body" then some .body
  else if key = "options" then some .options
  else if key = "doc" ∨ key = "documentation" then some .doc
  else none

/-- The spelling that messages use. -/
def SpecField.key : SpecField → String
  | name => "name"
  | aliases => "aliases"
  | argument => "arg"
  | body => "body"
  | options => "options"
  | doc => "doc"

inductive OptionField where
  | valueType | required | doc | aliases
  deriving DecidableEq, Repr

def OptionField.ofKey? (key : String) : Option OptionField :=
  if key = "type" then some .valueType
  else if key = "required" then some .required
  else if key = "doc" ∨ key = "documentation" then some .doc
  else if key = "aliases" ∨ key = "alias" then some .aliases
  else none

def OptionField.key : OptionField → String
  | valueType => "type"
  | required => "required"
  | doc => "doc"
  | aliases => "aliases"

/-- Reading parts of a document as the parts of a spec. -/
abbrev Decoded (α : Type) := Except Misfit α

namespace Yaml.Document

variable (d : Document)

def fail (path : List Step) (n : Yaml.Node) (expected : String) : Decoded α :=
  .error ⟨⟨path, n.mark⟩, n.mismatch expected⟩

def text (expected : String) (path : List Step) (n : Yaml.Node) : Decoded String :=
  match d.target n with
  | .scalar _ _ _ _ s => .ok s
  | n => fail path n expected

def stepTo : Yaml.Node → Step
  | .scalar _ _ _ _ s => .key s
  | _ => .unnamed

def holdsBool (tag : Option String) (style : Yaml.Style) : Bool :=
  style == .plain || (style == .literal && tag == some Yaml.Tag.bool)

def bool (path : List Step) (n : Yaml.Node) : Decoded Bool :=
  let n := d.target n
  match n with
  | .scalar _ _ tag style s =>
    match if holdsBool tag style then Yaml.Value.bool? s else none with
    | some b => .ok b
    | none => fail path n "a boolean"
  | n => fail path n "a boolean"

/-- The items of a sequence; an absent node has none. -/
def items (path : List Step) (n : Yaml.Node) : Decoded (List Yaml.Node) :=
  let n := d.target n
  match n with
  | .sequence _ _ _ ns => .ok ns
  | n => if n.isAbsent then .ok [] else fail path n "a sequence"

def eachItem (f : List Step → Yaml.Node → Decoded α) (path : List Step) :
    Nat → List Yaml.Node → Decoded (List α)
  | _, [] => .ok []
  | i, n :: rest => do
    let a ← f (path ++ [.index i]) n
    let as ← eachItem f path (i + 1) rest
    .ok (a :: as)

def sequence (f : List Step → Yaml.Node → Decoded α) (path : List Step) (n : Yaml.Node) :
    Decoded (List α) := do
  eachItem f path 0 (← d.items path n)

def texts (path : List Step) (n : Yaml.Node) : Decoded (List String) :=
  d.sequence (d.text "a string") path n

/-- The entries of a mapping with the mapping's mark; an absent node has none. -/
def entries (expected : String) (path : List Step) (n : Yaml.Node) :
    Decoded (Yaml.Mark × List (Yaml.Node × Yaml.Node)) :=
  let n := d.target n
  match n with
  | .mapping m _ _ es => .ok (m, es)
  | n => if n.isAbsent then .ok (n.mark, []) else fail path n expected

/-- A value that may be null. A scalar whose tag says null but whose text does not is the fault
of what holds it. -/
def optional (f : List Step → Yaml.Node → Decoded α) (holder : Place) (path : List Step)
    (n : Yaml.Node) : Decoded (Option α) :=
  match d.target n with
  | .scalar m a tag .plain s =>
    match tag with
    | some t =>
      if t = Yaml.Tag.null then
        if Yaml.Value.isNull s then .ok none else .error ⟨holder, .wrongValue s "null"⟩
      else (f path (.scalar m a tag .plain s)).map some
    | none =>
      if s.isEmpty || Yaml.Value.isNull s then .ok none
      else (f path (.scalar m a tag .plain s)).map some
  | n => (f path n).map some

end Yaml.Document

structure SpecDraft where
  name : Option String := none
  aliases : Option (List String) := none
  argument : Option (Option OptionSpec) := none
  body : Option (Option OptionSpec) := none
  options : Option OptionMap := none
  doc : Option (Option String) := none

def SpecDraft.has (draft : SpecDraft) : SpecField → Bool
  | .name => draft.name.isSome
  | .aliases => draft.aliases.isSome
  | .argument => draft.argument.isSome
  | .body => draft.body.isSome
  | .options => draft.options.isSome
  | .doc => draft.doc.isSome

structure OptionDraft where
  valueType : Option ValueType := none
  required : Option Bool := none
  doc : Option (Option String) := none
  aliases : Option (List String) := none

def OptionDraft.has (draft : OptionDraft) : OptionField → Bool
  | .valueType => draft.valueType.isSome
  | .required => draft.required.isSome
  | .doc => draft.doc.isSome
  | .aliases => draft.aliases.isSome

def OptionDraft.finish (draft : OptionDraft) : OptionSpec :=
  ⟨draft.valueType.getD .unrecognized, draft.required.getD false, draft.doc.getD none,
    draft.aliases.getD []⟩

namespace OptionSpec

variable (d : Document)

def decodeField (place : Place) (path : List Step) (n : Yaml.Node) (draft : OptionDraft) :
    OptionField → Decoded OptionDraft
  | .valueType => do
    let tag ← d.text "a string" path n
    .ok { draft with valueType := some (.ofTag tag) }
  | .required => do
    let b ← d.bool path n
    .ok { draft with required := some b }
  | .doc => do
    let doc ← d.optional (d.text "a string") place path n
    .ok { draft with doc := some doc }
  | .aliases => do
    let aliases ← d.texts path n
    .ok { draft with aliases := some aliases }

/-- Reads entries in order. No field may be there twice; other keys are passed over. -/
def decodeEntries (place : Place) :
    List (Yaml.Node × Yaml.Node) → OptionDraft → Decoded OptionDraft
  | [], draft => .ok draft
  | (k, n) :: rest, draft => do
    let key ← d.text "field identifier" place.path k
    match OptionField.ofKey? key with
    | some field =>
      if draft.has field then .error ⟨place, .duplicateField field.key⟩
      else
        let draft ← decodeField d place (place.path ++ [Document.stepTo k]) n draft field
        decodeEntries place rest draft
    | none => decodeEntries place rest draft

def decode (path : List Step) (n : Yaml.Node) : Decoded OptionSpec := do
  let (mark, es) ← d.entries "struct OptionSpec" path n
  let draft ← decodeEntries d ⟨path, mark⟩ es ⟨none, none, none, none⟩
  .ok draft.finish

end OptionSpec

namespace OptionMap

variable (d : Document)

def expected : String := "a mapping of option names to option specs"

/-- Reads named options; a name without an option has the default one. -/
def decodeEntries (place : Place) :
    List (Yaml.Node × Yaml.Node) → OptionMap → Decoded OptionMap
  | [], m => .ok m
  | (k, n) :: rest, m => do
    let name ← d.text "a string" place.path k
    let path := place.path ++ [Document.stepTo k]
    let option ← d.optional (OptionSpec.decode d) place path n
    decodeEntries place rest (m.insert name (option.getD default))

def hasLocalTag (n : Yaml.Node) : Bool :=
  n.tag?.any Yaml.Tag.isLocal

/-- A mapping, or null for no options. -/
def decode (path : List Step) (n : Yaml.Node) : Decoded OptionMap :=
  let n := d.target n
  if hasLocalTag n then .error ⟨⟨path, n.mark⟩, .wrongType "enum" expected⟩
  else
    match n with
    | .mapping m _ _ es => decodeEntries d ⟨path, m⟩ es .empty
    | .scalar _ _ tag style s =>
      match Yaml.scalarValue tag style s with
      | .ok .null => .ok .empty
      | _ => Document.fail path n expected
    | _ => Document.fail path n expected

end OptionMap

namespace Spec

variable (d : Document)

def decodeField (place : Place) (path : List Step) (n : Yaml.Node) (draft : SpecDraft) :
    SpecField → Decoded SpecDraft
  | .name => do
    let name ← d.text "a string" path n
    .ok { draft with name := some name }
  | .aliases => do
    let aliases ← d.texts path n
    .ok { draft with aliases := some aliases }
  | .argument => do
    let o ← d.optional (OptionSpec.decode d) place path n
    .ok { draft with argument := some o }
  | .body => do
    let o ← d.optional (OptionSpec.decode d) place path n
    .ok { draft with body := some o }
  | .options => do
    let m ← OptionMap.decode d path n
    .ok { draft with options := some m }
  | .doc => do
    let doc ← d.optional (d.text "a string") place path n
    .ok { draft with doc := some doc }

/-- Reads entries in order. No field may be there twice; other keys are passed over. -/
def decodeEntries (place : Place) :
    List (Yaml.Node × Yaml.Node) → SpecDraft → Decoded SpecDraft
  | [], draft => .ok draft
  | (k, n) :: rest, draft => do
    let key ← d.text "field identifier" place.path k
    match SpecField.ofKey? key with
    | some field =>
      if draft.has field then .error ⟨place, .duplicateField field.key⟩
      else
        let draft ← decodeField d place (place.path ++ [Document.stepTo k]) n draft field
        decodeEntries place rest draft
    | none => decodeEntries place rest draft

/-- Only the name must be there. -/
def ofDraft (place : Place) (draft : SpecDraft) : Decoded Spec :=
  match draft.name with
  | some name => .ok
      { name := name
        aliases := draft.aliases.getD []
        argument := draft.argument.getD none
        body := draft.body.getD none
        options := draft.options.getD .empty
        doc := draft.doc.getD none }
  | none => .error ⟨place, .missingField SpecField.name.key⟩

def decode (path : List Step) (n : Yaml.Node) : Decoded Spec := do
  let (mark, es) ← d.entries "struct Spec" path n
  let draft ← decodeEntries d ⟨path, mark⟩ es ⟨none, none, none, none, none, none⟩
  ofDraft ⟨path, mark⟩ draft

/-- The specs of a document, none for an empty one. -/
def decodeAll : Decoded (List Spec) :=
  match d.root with
  | some n => d.sequence (decode d) [] n
  | none => .ok []

end Spec
end DirectiveDocs
