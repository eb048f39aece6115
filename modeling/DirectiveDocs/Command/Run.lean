import DirectiveDocs.Command.Arguments
import DirectiveDocs.Json.Printer
import DirectiveDocs.Markup.Parser
import DirectiveDocs.Node.Json
import DirectiveDocs.Section
import DirectiveDocs.Spec.Sources

namespace DirectiveDocs.Command

/-- What a run leaves behind: its exit code and what it writes, by lines on the error stream. -/
structure Outcome where
  exitCode : Nat := 0
  output : String := ""
  errors : List String := []
  deriving DecidableEq, Repr

inductive Failure where
  | config (reason : ConfigError)
  | source (reason : SourceError)
  | undocumented (failed total : Nat)
  | collisions (count : Nat)

def Failure.message : Failure → String
  | config e => e.message
  | source e => e.message
  | undocumented failed total =>
    toString failed ++ " of " ++ toString total ++ " directives could not be documented"
  | collisions count => toString count ++ " name/alias collision(s) found"

structure Session where
  config : Config
  registry : Registry

def Options.settings (o : Options) : Settings :=
  ⟨if o.noBuiltins then some false else none, o.specFiles, if o.compact then some false else none⟩

def openSession (w : Workspace) (o : Options) : Except Failure Session := do
  let c ← (Config.load w o.config o.settings).mapError .config
  let r ← (Registry.load w c).mapError .source
  .ok ⟨c, r⟩

namespace Session

/-- A JSON value on a line or several lines of its own, as the configuration has it. -/
def print (s : Session) (j : Json) : String :=
  (if s.config.pretty then j.pretty else j.compact) ++ "\n"

end Session

def describe (c : Collision) : String :=
  match c.kind with
  | .name => "Duplicate spec name \"" ++ c.key ++ "\": later definition is ignored"
  | .alias =>
    "\"" ++ c.key ++ "\" is claimed by \"" ++ c.kept ++ "\" and \"" ++ c.shadowed ++
      "\": resolves to \"" ++ c.kept ++ "\""

/-- A spec's name, with its aliases unless only names are asked for. -/
def listing (namesOnly : Bool) (s : Spec) : String :=
  if namesOnly || s.aliases.isEmpty then s.name
  else s.name ++ " (alias: " ++ ", ".intercalate s.aliases ++ ")"

/-- The lines before a failure, then the failure, if there is one. -/
def outcome (output : String) (errors : List String) (failure : Option Failure) : Outcome :=
  match failure with
  | some f => ⟨1, output, errors ++ ["Error: " ++ f.message]⟩
  | none => ⟨0, output, errors⟩

/-- The sections of directives, an array for each name. Unknown names are reported, and make the
run fail in the end. -/
def documentAll (s : Session) (names : List String) : Outcome :=
  let (sections, errors) := s.registry.compileEach (Markup.parse .github) names
  let json := Json.array (sections.map (fun nodes => .array (nodes.map Node.toJson)))
  outcome (s.print json) errors
    (if errors.isEmpty then none else some (.undocumented errors.length names.length))

def report (s : Session) (warnOnly : Bool) : Outcome :=
  let collisions := s.registry.collisions
  let lines := if collisions.isEmpty then ["No name or alias collisions"] else collisions.map describe
  outcome "" (("Checked " ++ toString s.registry.size ++ " specs") :: lines)
    (if collisions.isEmpty || warnOnly then none else some (.collisions collisions.length))

def perform (s : Session) : Action → Outcome
  | .directive names => documentAll s names
  | .reference text => outcome (s.print (s.registry.resolve text).toJson) [] none
  | .list namesOnly =>
    outcome (String.join (s.registry.specs.map (fun s => listing namesOnly s ++ "\n"))) [] none
  | .check warnOnly => report s warnOnly

def versionText : String := "mystdoc 0.1.0\n"

def usageText : String :=
  "Usage: mystdoc [--config FILE] [--spec FILE]... [--no-builtins] [--compact] [--verbose] ACTION\n\n" ++
  "Actions:\n" ++
  "  directive NAME...     Document directives as JSON\n" ++
  "  reference TEXT        Resolve a reference to a directive or option\n" ++
  "  list [--names-only]   List the registered directives\n" ++
  "  check [--warn-only]   Report names and aliases claimed twice\n"

def run (w : Workspace) (args : List String) : Outcome :=
  match request w.variableValue? args with
  | .error _ => ⟨2, "", [usageText]⟩
  | .ok .help => ⟨0, usageText, []⟩
  | .ok .version => ⟨0, versionText, []⟩
  | .ok (.run options action) =>
    match openSession w options with
    | .ok s => perform s action
    | .error f => outcome "" [] (some f)

end DirectiveDocs.Command
