import DirectiveDocs.Toml.Document

namespace DirectiveDocs

structure ConfigMisfit where
  found : Toml.Value
  expected : String

def ConfigMisfit.message (m : ConfigMisfit) : String :=
  "invalid type: " ++ m.found.describe ++ ", expected " ++ m.expected

/-- What a configuration file says, before paths and variables are looked at. -/
structure ConfigFile where
  builtins : Option Bool := none
  specFiles : List String := []
  pretty : Bool := true
  deriving DecidableEq, Repr

namespace ConfigFile

open Toml (Value Entries)

def bool : Value → Except ConfigMisfit Bool
  | .bool b => .ok b
  | v => .error ⟨v, "a boolean"⟩

def strings : List Value → Except ConfigMisfit (List String)
  | [] => .ok []
  | .string s :: vs => do
    .ok (s :: (← strings vs))
  | v :: _ => .error ⟨v, "a string"⟩

/-- The values of an array; the elements of an array of tables are values too. -/
def items? : Value → Option (List Value)
  | .array vs => some vs
  | .tables elements => some (elements.map (.table .header ·))
  | _ => none

def stringList (v : Value) : Except ConfigMisfit (List String) :=
  match items? v with
  | some vs => strings vs
  | none => .error ⟨v, "a sequence"⟩

/-- The values of named fields in a table, or in an array by position. A date or time is a table
of other fields. -/
def fields (expected : String) (names : List String) (v : Value) :
    Except ConfigMisfit (List (Option Value)) :=
  match v with
  | .table _ es => .ok (names.map (Entries.get? es))
  | .moment => .ok (names.map (fun _ => none))
  | v =>
    match items? v with
    | some vs => .ok ((List.range names.length).map (fun i => vs[i]?))
    | none => .error ⟨v, expected⟩

def optional (read : Value → Except ConfigMisfit α) : Option Value → Except ConfigMisfit (Option α)
  | some v => (read v).map some
  | none => .ok none

def output (v : Value) : Except ConfigMisfit Bool := do
  match ← fields "struct OutputConfig" ["pretty"] v with
  | [pretty] => do
    .ok ((← optional bool pretty).getD true)
  | _ => .ok true

def registry (v : Value) : Except ConfigMisfit (Option Bool × List String) := do
  match ← fields "struct RegistryConfigRaw" ["builtins", "spec_files"] v with
  | [builtins, specFiles] => do
    let builtins ← optional bool builtins
    let specFiles ← optional stringList specFiles
    .ok (builtins, specFiles.getD [])
  | _ => .ok (none, [])

/-- Reads the tables `output` and `registry`, in this order; other keys are passed over. -/
def decode (es : Entries) : Except ConfigMisfit ConfigFile := do
  let pretty ← optional output (es.get? "output")
  let sources ← optional registry (es.get? "registry")
  let (builtins, specFiles) := sources.getD (none, [])
  .ok ⟨builtins, specFiles, pretty.getD true⟩

end ConfigFile
end DirectiveDocs
