import DirectiveDocs.Node.Basic

namespace DirectiveDocs

namespace Attributes

theorem insertEntry_insertEntry (key v w : String) (es : List (String × String)) :
    insertEntry key w (insertEntry key v es) = insertEntry key w es := by
  induction es with
  | nil => simp [insertEntry]
  | cons e rest ih =>
    obtain ⟨k, x⟩ := e
    by_cases hlt : key < k
    · simp [insertEntry, hlt]
    · by_cases he : key = k
      · simp [insertEntry, he]
      · simp [insertEntry, hlt, he, ih]

/-- The last value that a key is set to counts. -/
theorem insert_insert (a : Attributes) (key v w : String) :
    (a.insert key v).insert key w = a.insert key w :=
  ext (insertEntry_insertEntry key v w a.entries)

theorem find_insertEntry (key v k : String) (es : List (String × String)) :
    (insertEntry key v es).find? (fun e => e.1 == k) =
      if key = k then some (key, v) else es.find? (fun e => e.1 == k) := by
  induction es with
  | nil => by_cases hk : key = k <;> simp [insertEntry, hk]
  | cons e rest ih =>
    obtain ⟨k', x⟩ := e
    by_cases hk : key = k
    · subst hk
      simp only [↓reduceIte] at ih ⊢
      by_cases hlt : key < k'
      · simp [insertEntry, hlt]
      · by_cases he : key = k'
        · simp [insertEntry, he]
        · simp [insertEntry, hlt, he, Ne.symm he, ih]
    · simp only [hk, ↓reduceIte] at ih ⊢
      by_cases hlt : key < k'
      · simp [insertEntry, hlt, hk]
      · by_cases he : key = k'
        · subst he
          simp [insertEntry, hk]
        · simp only [insertEntry, if_neg hlt, if_neg he, List.find?_cons, ih]

/-- An insertion changes the value of its key and no other one. -/
theorem get_insert (a : Attributes) (key v k : String) :
    (a.insert key v).get? k = if key = k then some v else a.get? k := by
  simp only [get?, insert, find_insertEntry]
  split <;> rfl

end Attributes

namespace Node

/-- Setting the identifier is all that decides it. -/
theorem identifier_withIdentifier (id : String) (n : Node) :
    (n.withIdentifier id).identifier? = some id := by
  cases n
  exact (Attributes.get_insert _ _ _ _).trans (if_pos rfl)

theorem identifier_withChildren (cs : List Child) (n : Node) :
    (n.withChildren cs).identifier? = n.identifier? := by
  cases n
  rfl

theorem children_empty (k : Kind) : (empty k).children = [] :=
  rfl

theorem children_withChildren (cs : List Child) (n : Node) :
    (n.withChildren cs).children = n.children ++ cs := by
  cases n
  rfl

theorem children_withNodes (ns : List Node) (n : Node) :
    (n.withNodes ns).children = n.children ++ ns.map .node :=
  children_withChildren _ n

theorem textContent_eq (n : Node) : n.textContent = textOfChildren n.children := by
  cases n
  rfl

theorem textOfChildren_append (cs cs' : List Child) :
    textOfChildren (cs ++ cs') = textOfChildren cs ++ textOfChildren cs' := by
  induction cs with
  | nil => simp [textOfChildren]
  | cons c cs ih => simp [textOfChildren, ih, String.append_assoc]

theorem textOfChildren_eq_join (cs : List Child) :
    textOfChildren cs = String.join (cs.map textOfChild) := by
  induction cs with
  | nil => rfl
  | cons c cs ih => rw [textOfChildren, ih, List.map_cons, String.join_cons]

mutual

/-- A node, then the listings of its child nodes in order. -/
def preorder : Node → List Node
  | mk k a cs => mk k a cs :: preorderOfChildren cs

def preorderOfChild : Child → List Node
  | .node n => preorder n
  | .text _ => []

def preorderOfChildren : List Child → List Node
  | [] => []
  | c :: cs => preorderOfChild c ++ preorderOfChildren cs

end

/-- A node is listed before all that is below it. -/
theorem preorder_eq (n : Node) : n.preorder = n :: preorderOfChildren n.children := by
  cases n
  rfl

theorem preorderOfChildren_append (cs ds : List Child) :
    preorderOfChildren (cs ++ ds) = preorderOfChildren cs ++ preorderOfChildren ds := by
  induction cs with
  | nil => rfl
  | cons c cs ih => simp [preorderOfChildren, ih]

def listing (ns : List Node) : List Node :=
  ns.flatMap preorder

/-- Texts add nothing to a listing. -/
theorem preorderOfChildren_eq (cs : List Child) :
    preorderOfChildren cs = listing (cs.filterMap Child.node?) := by
  induction cs with
  | nil => rfl
  | cons c cs ih =>
    rw [preorderOfChildren, ih]
    cases c <;> rfl

mutual

/-- The search goes through the listing. -/
theorem find_preorder (p : Node → Bool) : ∀ n : Node, n.find? p = n.preorder.find? p
  | mk k a cs => by
    rw [find?, preorder, List.find?_cons, findChildren_preorder p cs]
    cases p (mk k a cs) <;> rfl

theorem findChild_preorder (p : Node → Bool) :
    ∀ c : Child, findChild? p c = (preorderOfChild c).find? p
  | .node n => find_preorder p n
  | .text _ => rfl

theorem findChildren_preorder (p : Node → Bool) :
    ∀ cs : List Child, findChildren? p cs = (preorderOfChildren cs).find? p
  | [] => rfl
  | c :: cs => by
    rw [findChildren?, preorderOfChildren, List.find?_append, findChild_preorder p c,
      findChildren_preorder p cs]
    cases (preorderOfChild c).find? p <;> rfl

end

/-- The first node of a forest with an identifier is the first of the listing. -/
theorem findSome_identifier (ns : List Node) (id : String) :
    ns.findSome? (fun n => n.findIdentifier? id) =
      (listing ns).find? (fun m => m.identifier? == some id) := by
  rw [listing, List.find?_flatMap]
  congr 1
  funext n
  exact find_preorder _ n

end Node
end DirectiveDocs
