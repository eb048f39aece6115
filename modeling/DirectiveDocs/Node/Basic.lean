import DirectiveDocs.Node.Kind
import DirectiveDocs.Node.Attributes

namespace DirectiveDocs

mutual

/-- A labeled tree with string attributes. -/
inductive Node where
  | mk (kind : Kind) (attributes : Attributes) (children : List Child)

/-- A nested node or a run of leaf text. -/
inductive Child where
  | node (node : Node)
  | text (text : String)

end

mutual

def Node.decEq : (a b : Node) → Decidable (a = b)
  | .mk k a cs, .mk k' a' cs' =>
    if hk : k = k' then
      if ha : a = a' then
        match Child.decEqList cs cs' with
        | .isTrue hc => .isTrue (hk ▸ ha ▸ hc ▸ rfl)
        | .isFalse hc => .isFalse (fun e => hc (by cases e; rfl))
      else .isFalse (fun e => ha (by cases e; rfl))
    else .isFalse (fun e => hk (by cases e; rfl))

def Child.decEq : (a b : Child) → Decidable (a = b)
  | .node n, .node m =>
    match Node.decEq n m with
    | .isTrue h => .isTrue (h ▸ rfl)
    | .isFalse h => .isFalse (fun e => h (by cases e; rfl))
  | .text s, .text t =>
    if h : s = t then .isTrue (h ▸ rfl) else .isFalse (fun e => h (by cases e; rfl))
  | .node _, .text _ => .isFalse nofun
  | .text _, .node _ => .isFalse nofun

def Child.decEqList : (a b : List Child) → Decidable (a = b)
  | [], [] => .isTrue rfl
  | [], _ :: _ => .isFalse nofun
  | _ :: _, [] => .isFalse nofun
  | c :: cs, d :: ds =>
    match Child.decEq c d with
    | .isTrue h =>
      match Child.decEqList cs ds with
      | .isTrue hs => .isTrue (h ▸ hs ▸ rfl)
      | .isFalse hs => .isFalse (fun e => hs (by cases e; rfl))
    | .isFalse h => .isFalse (fun e => h (by cases e; rfl))

end

instance : DecidableEq Node := Node.decEq
instance : DecidableEq Child := Child.decEq

namespace Child

def text? : Child → Option String
  | text s => some s
  | node _ => none

def node? : Child → Option Node
  | text _ => none
  | node n => some n

end Child

namespace Node

def kind : Node → Kind
  | mk k _ _ => k

def attributes : Node → Attributes
  | mk _ a _ => a

def children : Node → List Child
  | mk _ _ cs => cs

def empty (kind : Kind) : Node :=
  mk kind .empty []

def withAttribute (key value : String) : Node → Node
  | mk k a cs => mk k (a.insert key value) cs

def withIdentifier (identifier : String) (n : Node) : Node :=
  n.withAttribute "identifier" identifier

def withChildren (new : List Child) : Node → Node
  | mk k a cs => mk k a (cs ++ new)

def withChild (c : Child) (n : Node) : Node :=
  n.withChildren [c]

def withText (s : String) (n : Node) : Node :=
  n.withChild (.text s)

def withNodes (ns : List Node) (n : Node) : Node :=
  n.withChildren (ns.map .node)

def strong (s : String) : Node := (empty .strong).withText s

def emphasis (s : String) : Node := (empty .emphasis).withText s

def inlineCode (s : String) : Node := (empty .inlineCode).withText s

def attribute? (n : Node) (key : String) : Option String :=
  n.attributes.get? key

def identifier? (n : Node) : Option String :=
  n.attribute? "identifier"

def childNodes (n : Node) : List Node :=
  n.children.filterMap Child.node?

mutual

/-- All leaf text below a node, in document order. -/
def textContent : Node → String
  | mk _ _ cs => textOfChildren cs

def textOfChild : Child → String
  | .node n => textContent n
  | .text s => s

def textOfChildren : List Child → String
  | [] => ""
  | c :: cs => textOfChild c ++ textOfChildren cs

end

mutual

/-- The first node, depth first from the node itself, that satisfies a test. -/
def find? (p : Node → Bool) : Node → Option Node
  | mk k a cs => if p (mk k a cs) then some (mk k a cs) else findChildren? p cs

def findChild? (p : Node → Bool) : Child → Option Node
  | .node n => find? p n
  | .text _ => none

def findChildren? (p : Node → Bool) : List Child → Option Node
  | [] => none
  | c :: cs =>
    match findChild? p c with
    | some n => some n
    | none => findChildren? p cs

end

def findIdentifier? (identifier : String) (n : Node) : Option Node :=
  n.find? (fun m => m.identifier? == some identifier)

end Node
end DirectiveDocs
