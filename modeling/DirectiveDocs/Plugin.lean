import DirectiveDocs.Section
import DirectiveDocs.Text.Quoted

namespace DirectiveDocs

/-- What a handler sees: the specs it documents, the markup parser, the messages so far. -/
structure HandlerContext where
  registry : Registry
  parse : MarkupParser
  diagnostics : Diagnostics

/-- A block directive: invoked with an argument and a body, it expands to nodes. -/
structure DirectiveHandler where
  name : String
  spec : Spec
  run : Option String → Option String → HandlerContext → List Node × Diagnostics

structure RoleHandler where
  name : String
  spec : Spec
  run : String → HandlerContext → List Node × Diagnostics

structure Plugin where
  name : String
  author : String
  license : String
  directives : List DirectiveHandler
  roles : List RoleHandler

namespace Plugin

/-- The name of the documentation directive and of the documentation role. -/
def docsName : String := "myst:directive"

def missingArgument : String :=
  docsName ++ ": Missing directive name argument"

/-- Documents the directive that its argument names. -/
def docsDirective : DirectiveHandler where
  name := docsName
  spec := ((Spec.named docsName).withArgument
    ⟨.string, true, some "Name of the directive to document.", []⟩).withDoc
      "Generate the documentation section for a directive."
  run := fun arg _ ctx =>
    let name := Text.trim (arg.getD "")
    if name.isEmpty then ([], ctx.diagnostics.report missingArgument)
    else ctx.registry.compileDirective ctx.parse name ctx.diagnostics

/-- References a directive or one of its options. -/
def docsRole : RoleHandler where
  name := docsName
  spec := ((Spec.named docsName).withBody
    ⟨.string, true, some "Reference as `name`, `name.option`, or `text <name.option>`.", []⟩).withDoc
      "Reference a directive or one of its options."
  run := fun body ctx => ([ctx.registry.resolve body], ctx.diagnostics)

def docs : Plugin where
  name := "MyST Documentation Plugins"
  author := "Rowan Cockett"
  license := "MIT"
  directives := [docsDirective]
  roles := [docsRole]

def directive? (p : Plugin) (name : String) : Option DirectiveHandler :=
  p.directives.find? (fun h => h.name == name)

def role? (p : Plugin) (name : String) : Option RoleHandler :=
  p.roles.find? (fun h => h.name == name)

def directiveSpecs (p : Plugin) : List Spec :=
  p.directives.map (·.spec)

def summary (p : Plugin) : String :=
  "Plugin \x7b name: " ++ Text.quoted p.name ++ ", author: " ++ Text.quoted p.author ++
    ", license: " ++ Text.quoted p.license ++ ", directives: " ++ toString p.directives.length ++
    ", roles: " ++ toString p.roles.length ++ " \x7d"

end Plugin
end DirectiveDocs
