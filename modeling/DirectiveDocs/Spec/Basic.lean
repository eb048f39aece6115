import DirectiveDocs.Spec.Option

namespace DirectiveDocs

/-- The declared shape of a directive or role. -/
structure Spec where
  name : String
  aliases : List String := []
  argument : Option OptionSpec := none
  body : Option OptionSpec := none
  options : OptionMap := .empty
  doc : Option String := none
  deriving DecidableEq

namespace Spec

def named (name : String) : Spec where
  name := name

def withAliases (aliases : List String) (s : Spec) : Spec :=
  { s with aliases := aliases }

def withArgument (argument : OptionSpec) (s : Spec) : Spec :=
  { s with argument := some argument }

def withBody (body : OptionSpec) (s : Spec) : Spec :=
  { s with body := some body }

def withOption (name : String) (option : OptionSpec) (s : Spec) : Spec :=
  { s with options := s.options.insert name option }

def withDoc (doc : String) (s : Spec) : Spec :=
  { s with doc := some doc }

/-- The names a spec can be found by: its own name, then its aliases. -/
def keys (s : Spec) : List String :=
  s.name :: s.aliases

def answersTo (s : Spec) (key : String) : Bool :=
  s.keys.contains key

end Spec
end DirectiveDocs
