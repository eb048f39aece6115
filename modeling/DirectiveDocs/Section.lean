import DirectiveDocs.Diagnostics
import DirectiveDocs.Reference

namespace DirectiveDocs

/-- Reads a documentation string as block nodes. -/
abbrev MarkupParser := String → List Node

/-- A strong `Alias`, then the aliases as inline code with commas between them. -/
def aliasChildren (aliases : List String) : List Child :=
  .node (Node.strong "Alias") :: .text ": " ::
    List.intercalate [.text ", "] (aliases.map (fun a => [.node (Node.inlineCode a)]))

namespace OptionSpec

/-- The annotation after an option's label, none for an unrecognized type. -/
def annotation (o : OptionSpec) : List Child :=
  if o.valueType.label.isEmpty then []
  else
    let text := if o.required then o.valueType.label ++ ", required" else o.valueType.label
    [.text " (", .node (Node.emphasis text), .text ")"]

/-- The heading of an option in documentation; `arg` and `body` stand for the directive's own. -/
def heading (optionName : String) : String :=
  if optionName = "arg" then "Directive Argument"
  else if optionName = "body" then "Directive Body"
  else optionName

def term (specName optionName : String) (o : OptionSpec) : Node :=
  (((Node.empty .definitionTerm).withIdentifier (optionAnchor specName optionName)).withChild
    (.node (Node.strong (heading optionName)))).withChildren o.annotation

def description (parse : MarkupParser) (o : OptionSpec) : Node :=
  match o.doc with
  | some doc =>
    if doc.isEmpty then (Node.empty .definitionDescription).withText "No description"
    else (Node.empty .definitionDescription).withNodes (parse doc)
  | none => (Node.empty .definitionDescription).withText "No description"

def aliasDescription (o : OptionSpec) : List Node :=
  if o.aliases.isEmpty then []
  else [(Node.empty .definitionDescription).withChildren (aliasChildren o.aliases)]

/-- A term, a description, and a second description when the option has aliases. -/
def compile (specName optionName : String) (parse : MarkupParser) (o : OptionSpec) : List Node :=
  o.term specName optionName :: o.description parse :: o.aliasDescription

end OptionSpec

/-- An absent option has no entries. -/
def compileOption (specName optionName : String) (parse : MarkupParser)
    (o : Option OptionSpec) : List Node :=
  match o with
  | some o => o.compile specName optionName parse
  | none => []

namespace Spec

def heading (name : String) : Node :=
  ((((Node.empty .heading).withAttribute "depth" "2").withIdentifier
    (directiveAnchor name)).withChild (.node (Node.inlineCode name))).withText " directive"

/-- The documentation, then a paragraph of aliases. -/
def intro (parse : MarkupParser) (s : Spec) : Node :=
  let documented := match s.doc with
    | some doc => (Node.empty .div).withNodes (parse doc)
    | none => Node.empty .div
  if s.aliases.isEmpty then documented
  else documented.withChild
    (.node ((Node.empty .paragraph).withChildren (aliasChildren s.aliases)))

def optionEntries (parse : MarkupParser) (s : Spec) : List Node :=
  s.options.entries.flatMap (fun e => e.2.compile s.name e.1 parse)

def optionsDescription (parse : MarkupParser) (s : Spec) : Node :=
  let entries := s.optionEntries parse
  if entries.isEmpty then (Node.empty .definitionDescription).withText "No options"
  else (Node.empty .definitionDescription).withChild
    (.node ((Node.empty .definitionList).withNodes entries))

def optionsTerm (s : Spec) : Node :=
  ((Node.empty .definitionTerm).withIdentifier (optionAnchor s.name "opts")).withChild
    (.node (Node.strong "Options"))

/-- The argument, the body and the options, in this order. -/
def definitions (parse : MarkupParser) (s : Spec) : Node :=
  (Node.empty .definitionList).withNodes
    (compileOption s.name "arg" parse s.argument ++
      compileOption s.name "body" parse s.body ++
      [s.optionsTerm, s.optionsDescription parse])

/-- The documentation section of a directive: a heading, an introduction and definitions. -/
def compile (parse : MarkupParser) (s : Spec) : List Node :=
  [heading s.name, s.intro parse, s.definitions parse]

end Spec

namespace Registry

def unknownDirective (name : String) : String :=
  "myst:directive: Unknown myst directive \"" ++ name ++ "\""

/-- The section of the directive of exactly that name. An unknown name is reported once and has
no section. -/
def compileDirective (r : Registry) (parse : MarkupParser) (name : String) (d : Diagnostics) :
    List Node × Diagnostics :=
  match r.get? name with
  | some s => (s.compile parse, d)
  | none => ([], d.report (unknownDirective name))

/-- Sections in the order of the names, with one collector for all. -/
def compileDirectives (r : Registry) (parse : MarkupParser) :
    List String → Diagnostics → List (List Node) × Diagnostics
  | [], d => ([], d)
  | name :: rest, d =>
    let (nodes, d) := r.compileDirective parse name d
    let (sections, d) := compileDirectives r parse rest d
    (nodes :: sections, d)

/-- Every name compiled with a collector of its own; the messages are joined in the order of the
names. -/
def compileEach (r : Registry) (parse : MarkupParser) (names : List String) :
    List (List Node) × List String :=
  let results := names.map (fun name => r.compileDirective parse name .empty)
  (results.map (·.1), results.flatMap (·.2.errors))

end Registry
end DirectiveDocs
