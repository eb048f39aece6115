import DirectiveDocs.Yaml.Token

namespace DirectiveDocs.Yaml

/-- A node of a document, with the place where it starts. Anchors and aliases are numbered; a
tag is kept with its handle expanded. -/
inductive Node where
  | scalar (mark : Mark) (anchor : Option Nat) (tag : Option String) (style : Style)
      (text : String)
  | sequence (mark : Mark) (anchor : Option Nat) (tag : Option String) (items : List Node)
  | mapping (mark : Mark) (anchor : Option Nat) (tag : Option String)
      (entries : List (Node × Node))
  | reference (mark : Mark) (target : Nat)

namespace Node

/-- The scalar that stands where a node is left out. -/
def absent (m : Mark) : Node := scalar m none none .plain ""

instance : Inhabited Node := ⟨absent .first⟩

def mark : Node → Mark
  | scalar m _ _ _ _ | sequence m _ _ _ | mapping m _ _ _ | reference m _ => m

def tag? : Node → Option String
  | scalar _ _ t _ _ | sequence _ _ t _ | mapping _ _ t _ => t
  | reference _ _ => none

def anchor? : Node → Option Nat
  | scalar _ a _ _ _ | sequence _ a _ _ | mapping _ a _ _ => a
  | reference _ _ => none

/-- A plain scalar without text, as where a node is left out. -/
def isAbsent : Node → Bool
  | scalar _ _ _ style text => style == .plain && text.isEmpty
  | _ => false

def anchorEntry (n : Node) : List (Nat × Node) :=
  match n.anchor? with
  | some a => [(a, n)]
  | none => []

mutual

def anchored : Node → List (Nat × Node)
  | scalar m a t style text => anchorEntry (scalar m a t style text)
  | sequence m a t items => anchorEntry (sequence m a t items) ++ anchoredItems items
  | mapping m a t entries => anchorEntry (mapping m a t entries) ++ anchoredEntries entries
  | reference _ _ => []

def anchoredItems : List Node → List (Nat × Node)
  | [] => []
  | n :: rest => anchored n ++ anchoredItems rest

def anchoredEntries : List (Node × Node) → List (Nat × Node)
  | [] => []
  | (k, v) :: rest => anchored k ++ anchored v ++ anchoredEntries rest

end

end Node

/-- What a text holds: at most one tree, and its anchored nodes, the last one first. -/
structure Document where
  root : Option Node
  anchors : List (Nat × Node)

namespace Document

def empty : Document := ⟨none, []⟩

def ofRoot (n : Node) : Document := ⟨some n, n.anchored.reverse⟩

/-- The node that an alias stands for: the last one in the document with that number. Any other
node stands for itself. Aliases are followed without a limit on how often: a reader that stops
at a hundred repetitions for each event of the text refuses some documents that are read here. -/
def target (d : Document) (n : Node) : Node :=
  match n with
  | .reference _ a =>
    match d.anchors.find? (fun e => e.1 == a) with
    | some e => e.2
    | none => n
  | n => n

end Document
end DirectiveDocs.Yaml
