namespace DirectiveDocs

/-- Messages in the order they were reported, with the document they belong to. -/
structure Diagnostics where
  source : Option String := none
  errors : List String := []
  deriving DecidableEq, Repr

namespace Diagnostics

def empty : Diagnostics where

def report (d : Diagnostics) (message : String) : Diagnostics :=
  { d with errors := d.errors ++ [message] }

def isEmpty (d : Diagnostics) : Bool :=
  d.errors.isEmpty

end Diagnostics
end DirectiveDocs
