import DirectiveDocs.Spec.Decoding
import DirectiveDocs.Text.Blank
import DirectiveDocs.Yaml.Document

namespace DirectiveDocs

inductive LoadError where
  | malformed
  | misfit (reason : Yaml.Misfit)
  | emptyName (index : Nat)
  deriving DecidableEq, Repr

def LoadError.message (file : Option String) : LoadError → String
  | malformed => "Invalid spec YAML" ++ location
  | misfit m => "Invalid spec YAML" ++ location ++ ": " ++ m.message
  | emptyName i => "Spec #" ++ toString i ++ " has an empty name"
where
  location : String := (file.map (" in " ++ ·)).getD ""

namespace Spec

def read (text : String) : Except LoadError (List Spec) :=
  match Yaml.parse? text with
  | some d =>
    match decodeAll d with
    | .ok specs => .ok specs
    | .error m => .error (.misfit m)
  | none => .error .malformed

def checkNames (specs : List Spec) : Except LoadError (List Spec) :=
  match specs.findIdx? (fun s => Text.isBlankText s.name) with
  | some i => .error (.emptyName i)
  | none => .ok specs

/-- The specs of a YAML text without the blanks around it. -/
def load (text : String) : Except LoadError (List Spec) :=
  let trimmed := Text.trim text
  if trimmed.isEmpty then .ok [] else (read trimmed).bind checkNames

end Spec
end DirectiveDocs
