import DirectiveDocs.Node.Basic
import DirectiveDocs.Spec.Registry
import DirectiveDocs.Text.Blank

namespace DirectiveDocs

/-- The identifier of a directive's section. -/
def directiveAnchor (name : String) : String :=
  "directive-" ++ name

/-- The identifier of one option in a directive's section. -/
def optionAnchor (name option : String) : String :=
  "directive-" ++ name ++ "-" ++ option

/-- The body of a reference: display text before a bracketed label, or the label alone. -/
inductive Reference where
  | labeled (lead target : String)
  | verbatim (label : String)
  deriving DecidableEq, Repr

namespace Reference

def isBracket (c : Char) : Bool :=
  c == '<' || c == '>'

/-- Reads a body from its end: the closing bracket, the label, the opening bracket, the lead. -/
def ofReversed? : List Char → Option (List Char × List Char)
  | '>' :: rest =>
    match rest.takeWhile (fun c => !isBracket c), rest.dropWhile (fun c => !isBracket c) with
    | [], _ => none
    | target, '<' :: lead => some (lead.reverse, target.reverse)
    | _, _ => none
  | _ => none

def parse (body : String) : Reference :=
  match ofReversed? body.toList.reverse with
  | some (lead, target) => labeled (String.ofList lead) (String.ofList target)
  | none => verbatim body

/-- The directive's name, with an option's name after the first dot if there is one. -/
def label : Reference → String
  | labeled _ target => target
  | verbatim l => l

/-- The lead without surrounding blanks, if anything is left of it. -/
def displayText? : Reference → Option String
  | labeled lead _ =>
    let text := Text.trim lead
    if text.isEmpty then none else some text
  | verbatim _ => none

/-- Splits a label at its first dot. Nothing after the dot means no option. -/
def splitLabel (label : String) : String × Option String :=
  let name := label.toList.takeWhile (· != '.')
  match label.toList.dropWhile (· != '.') with
  | '.' :: c :: rest => (String.ofList name, some (String.ofList (c :: rest)))
  | _ => (String.ofList name, none)

end Reference

namespace Registry

/-- The cross-reference node of a reference body. A name that no spec answers to is used as it
is written. -/
def resolve (r : Registry) (body : String) : Node :=
  let reference := Reference.parse body
  let (target, option?) := Reference.splitLabel reference.label
  let name := match r.lookup? target with
    | some s => s.name
    | none => target
  let identifier := match option? with
    | some option => optionAnchor name option
    | none => directiveAnchor name
  let display := (reference.displayText?.or option?).getD target
  ((Node.empty .crossReference).withIdentifier identifier).withChild
    (.node (Node.inlineCode display))

end Registry
end DirectiveDocs
