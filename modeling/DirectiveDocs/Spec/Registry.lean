import DirectiveDocs.Spec.Basic

namespace DirectiveDocs

/-- Which lookup a collision is about. -/
inductive CollisionKind where
  | name | alias
  deriving DecidableEq, Repr

/-- A key claimed by two specs, with the names of the one that keeps it and of the later one
that lost it. -/
structure Collision where
  key : String
  kept : String
  shadowed : String
  kind : CollisionKind
  deriving DecidableEq, Repr

structure Claim where
  position : Nat
  spec : Spec
  deriving DecidableEq

/-- Keys with the claim that came first. -/
abbrev Index := List (String × Claim)

namespace Index

def holder? (index : Index) (key : String) : Option Claim :=
  (index.find? (fun e => e.1 == key)).map (·.2)

/-- A key that is held already stays with its holder. -/
def claim (index : Index) (key : String) (c : Claim) : Index :=
  match index.holder? key with
  | some _ => index
  | none => (key, c) :: index

end Index

/-- Specs in declaration order, with the claims on their names and on all their keys. -/
structure Registry where
  specs : List Spec
  names : Index
  keys : Index
  collisions : List Collision

namespace Registry

def empty : Registry where
  specs := []
  names := []
  keys := []
  collisions := []

instance : Inhabited Registry := ⟨empty⟩

def nameCollision (index : Index) (s : Spec) : List Collision :=
  match index.holder? s.name with
  | some held => [⟨s.name, held.spec.name, s.name, .name⟩]
  | none => []

/-- The collision of a claim on a key: another spec of another name holds it. -/
def keyCollision (index : Index) (key : String) (c : Claim) : List Collision :=
  match index.holder? key with
  | some held =>
    if held.position ≠ c.position ∧ held.spec.name ≠ c.spec.name then
      [⟨key, held.spec.name, c.spec.name, .alias⟩]
    else []
  | none => []

def claimKeys (index : Index) (c : Claim) : List String → Index × List Collision
  | [] => (index, [])
  | key :: rest =>
    let (after, collisions) := claimKeys (index.claim key c) c rest
    (after, keyCollision index key c ++ collisions)

def add (r : Registry) (s : Spec) : Registry :=
  let c : Claim := ⟨r.specs.length, s⟩
  let (keys, collisions) := claimKeys r.keys c s.keys
  { specs := r.specs ++ [s]
    names := r.names.claim s.name c
    keys := keys
    collisions := r.collisions ++ nameCollision r.names s ++ collisions }

def ofList (specs : List Spec) : Registry :=
  specs.foldl add empty

/-- The spec of exactly that name. -/
def get? (r : Registry) (name : String) : Option Spec :=
  (r.names.holder? name).map (·.spec)

/-- The first spec that answers to a key. -/
def lookup? (r : Registry) (key : String) : Option Spec :=
  (r.keys.holder? key).map (·.spec)

def size (r : Registry) : Nat :=
  r.specs.length

end Registry
end DirectiveDocs
