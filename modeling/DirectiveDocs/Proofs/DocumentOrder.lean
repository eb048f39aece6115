import DirectiveDocs.Proofs.Preorder

namespace DirectiveDocs

namespace Child

def children : Child → List Child
  | .node n => n.children
  | .text _ => []

/-- What stands at a place. -/
def get? (c : Child) : List Nat → Option Child
  | [] => some c
  | i :: place => c.children[i]?.bind (fun d => d.get? place)

end Child

/-- The places after another one in the order of a document: those below it, and those that a way to
the right of its own leads to. -/
theorem place_lt_iff {place other : List Nat} :
    place < other ↔
      (∃ i rest, other = place ++ i :: rest) ∨
      ∃ common i j rest rest', place = common ++ i :: rest ∧ other = common ++ j :: rest' ∧
        i < j := by
  constructor
  · intro h
    induction h with
    | nil => exact .inl ⟨_, _, rfl⟩
    | rel h => exact .inr ⟨[], _, _, _, _, rfl, rfl, h⟩
    | @cons a _ _ _ ih =>
      rcases ih with ⟨i, rest, rfl⟩ | ⟨common, i, j, rest, rest', rfl, rfl, h⟩
      · exact .inl ⟨i, rest, rfl⟩
      · exact .inr ⟨a :: common, i, j, rest, rest', rfl, rfl, h⟩
  · intro h
    rcases h with ⟨i, rest, rfl⟩ | ⟨common, i, j, rest, rest', rfl, rfl, h⟩
    · induction place with
      | nil => exact .nil
      | cons a place ih => exact .cons ih
    · induction common with
      | nil => exact .rel h
      | cons a common ih => exact .cons ih

namespace Node

def get? (n : Node) (place : List Nat) : Option Child :=
  (Child.node n).get? place

/-- A listing of all that a node holds of one kind, each with its place, from first to last. -/
structure Lists {α : Type} (n : Node) (pick : Child → Option α) (listing : List (List Nat × α)) :
    Prop where
  sorted : listing.Pairwise (fun x y => x.1 < y.1)
  mem_iff : ∀ place a, (place, a) ∈ listing ↔ (n.get? place).bind pick = some a

/-- A node that passes a test where none above it does, and none to the left of the way to it. -/
structure Topmost (n : Node) (test : Node → Prop) (place : List Nat) (m : Node) : Prop where
  stands : n.get? place = some (.node m)
  passes : test m
  above : ∀ up i rest l, place = up ++ i :: rest → n.get? up = some (.node l) → ¬ test l
  left : ∀ common i j rest rest' l, place = common ++ j :: rest → i < j →
    n.get? (common ++ i :: rest') = some (.node l) → ¬ test l

end Node

mutual

def Node.placed : Node → List (List Nat × Child)
  | .mk k a cs => ([], .node (.mk k a cs)) :: Child.placedFrom 0 cs

def Child.placed : Child → List (List Nat × Child)
  | .node n => n.placed
  | .text s => [([], .text s)]

/-- What children hold, the first of them being at the given position. -/
def Child.placedFrom : Nat → List Child → List (List Nat × Child)
  | _, [] => []
  | i, c :: cs =>
    c.placed.map (fun (place, d) => (i :: place, d)) ++ Child.placedFrom (i + 1) cs

end

namespace Child

theorem placed_eq (c : Child) : c.placed = ([], c) :: placedFrom 0 c.children := by
  cases c with
  | node n =>
    cases n
    rfl
  | text s => rfl

/-- What stands below children stands below one of them, and the way starts with that one's
position. -/
theorem mem_placedFrom {i : Nat} {cs : List Child} {place : List Nat} {d : Child} :
    (place, d) ∈ placedFrom i cs ↔
      ∃ j rest c, place = (i + j) :: rest ∧ cs[j]? = some c ∧ (rest, d) ∈ c.placed := by
  induction cs generalizing i with
  | nil => simp [placedFrom]
  | cons c cs ih =>
    rw [placedFrom, List.mem_append, ih]
    constructor
    · intro h
      rcases h with h | ⟨j, rest, e, rfl, he, hd⟩
      · obtain ⟨⟨rest, _⟩, hd, heq⟩ := List.mem_map.mp h
        cases heq
        exact ⟨0, rest, c, rfl, rfl, hd⟩
      · exact ⟨j + 1, rest, e, by simp [Nat.add_right_comm, Nat.add_assoc], he, hd⟩
    · intro h
      obtain ⟨j, rest, e, rfl, he, hd⟩ := h
      cases j with
      | zero =>
        cases he
        exact .inl (List.mem_map.mpr ⟨(rest, d), hd, rfl⟩)
      | succ j => exact .inr ⟨j, rest, e, by simp [Nat.add_right_comm, Nat.add_assoc], he, hd⟩

/-- Exactly what stands somewhere is listed, there. -/
theorem mem_placed {c d : Child} {place : List Nat} :
    (place, d) ∈ c.placed ↔ c.get? place = some d := by
  -- on the place, since a step of the way goes into one child and leaves the other ones behind
  induction place generalizing c with
  | nil =>
    have hbelow : ([], d) ∉ placedFrom 0 c.children := by
      intro h
      obtain ⟨_, _, _, hplace, _⟩ := mem_placedFrom.mp h
      cases hplace
    simp [placed_eq, get?, hbelow, eq_comm]
  | cons i place ih =>
    rw [placed_eq, List.mem_cons, mem_placedFrom, get?, Option.bind_eq_some_iff]
    constructor
    · intro h
      rcases h with h | ⟨j, rest, e, hplace, he, hd⟩
      · cases h
      · cases hplace
        exact ⟨e, by simpa using he, ih.mp hd⟩
    · intro h
      obtain ⟨e, he, hd⟩ := h
      exact .inr ⟨i, place, e, by simp, he, ih.mpr hd⟩

end Child

mutual

/-- All that stands in a node is listed in the order of the places. -/
theorem Node.sorted_placed : ∀ n : Node, n.placed.Pairwise (fun x y => x.1 < y.1)
  | .mk k a cs => by
    refine List.pairwise_cons.mpr ⟨?_, Child.sorted_placedFrom 0 cs⟩
    intro ⟨place, d⟩ h
    obtain ⟨_, _, _, rfl, _⟩ := Child.mem_placedFrom.mp h
    exact List.nil_lt_cons _ _

theorem Child.sorted_placed : ∀ c : Child, c.placed.Pairwise (fun x y => x.1 < y.1)
  | .node n => n.sorted_placed
  | .text _ => List.pairwise_singleton _ _

/-- What a child holds comes before what the children to its right hold. -/
theorem Child.sorted_placedFrom :
    ∀ (i : Nat) (cs : List Child), (Child.placedFrom i cs).Pairwise (fun x y => x.1 < y.1)
  | _, [] => .nil
  | i, c :: cs => by
    refine List.pairwise_append.mpr ⟨?_, Child.sorted_placedFrom (i + 1) cs, ?_⟩
    · exact List.pairwise_map.mpr ((Child.sorted_placed c).imp (fun h => List.Lex.cons h))
    · intro x hleft ⟨place, d⟩ hright
      obtain ⟨_, _, rfl⟩ := List.mem_map.mp hleft
      obtain ⟨_, _, _, rfl, _⟩ := Child.mem_placedFrom.mp hright
      exact .rel (by omega)

end

namespace Node

def select {α : Type} (pick : Child → Option α) (listing : List (List Nat × Child)) :
    List (List Nat × α) :=
  listing.filterMap (fun x => (pick x.2).map (fun a => (x.1, a)))

theorem map_select {α : Type} (pick : Child → Option α) (listing : List (List Nat × Child)) :
    (select pick listing).map (·.2) = listing.filterMap (fun x => pick x.2) := by
  simp [select, List.map_filterMap, Function.comp_def]

theorem lists_select {α : Type} (n : Node) (pick : Child → Option α) :
    n.Lists pick (select pick n.placed) where
  sorted := by
    refine n.sorted_placed.filterMap _ ?_
    intro x y hlt a ha b hb
    obtain ⟨_, _, rfl⟩ := Option.map_eq_some_iff.mp ha
    obtain ⟨_, _, rfl⟩ := Option.map_eq_some_iff.mp hb
    exact hlt
  mem_iff place a := by
    rw [select, List.mem_filterMap, Option.bind_eq_some_iff]
    constructor
    · intro h
      obtain ⟨⟨_, d⟩, hmem, h⟩ := h
      obtain ⟨_, hd, heq⟩ := Option.map_eq_some_iff.mp h
      cases heq
      exact ⟨d, Child.mem_placed (c := .node n).mp hmem, hd⟩
    · intro h
      obtain ⟨d, hget, hd⟩ := h
      exact ⟨(place, d), Child.mem_placed (c := .node n).mpr hget, by simp [hd]⟩

theorem filterMap_placedFrom {α : Type} (pick : Child → Option α) (i : Nat) (c : Child)
    (cs : List Child) :
    (Child.placedFrom i (c :: cs)).filterMap (fun x => pick x.2) =
      c.placed.filterMap (fun x => pick x.2) ++
        (Child.placedFrom (i + 1) cs).filterMap (fun x => pick x.2) := by
  rw [Child.placedFrom, List.filterMap_append, List.filterMap_map]
  rfl

mutual

/-- The nodes of the listing are those of the preorder. -/
theorem nodes_placed : ∀ n : Node, n.placed.filterMap (fun x => x.2.node?) = n.preorder
  | mk k a cs => by
    rw [placed, preorder, ← nodes_placedFrom 0 cs]
    rfl

theorem nodes_placedChild : ∀ c : Child,
    c.placed.filterMap (fun x => x.2.node?) = preorderOfChild c
  | .node n => nodes_placed n
  | .text _ => rfl

theorem nodes_placedFrom : ∀ (i : Nat) (cs : List Child),
    (Child.placedFrom i cs).filterMap (fun x => x.2.node?) = preorderOfChildren cs
  | _, [] => rfl
  | i, c :: cs => by
    rw [filterMap_placedFrom, nodes_placedChild c, nodes_placedFrom (i + 1) cs, preorderOfChildren]

end

mutual

/-- The texts of the listing together are the text of the node. -/
theorem texts_placed : ∀ n : Node,
    String.join (n.placed.filterMap (fun x => x.2.text?)) = n.textContent
  | mk k a cs => by
    rw [placed, textContent, ← texts_placedFrom 0 cs]
    rfl

theorem texts_placedChild : ∀ c : Child,
    String.join (c.placed.filterMap (fun x => x.2.text?)) = textOfChild c
  | .node n => texts_placed n
  | .text _ => String.empty_append

theorem texts_placedFrom : ∀ (i : Nat) (cs : List Child),
    String.join ((Child.placedFrom i cs).filterMap (fun x => x.2.text?)) = textOfChildren cs
  | _, [] => rfl
  | i, c :: cs => by
    rw [filterMap_placedFrom, String.join_append, texts_placedChild c, texts_placedFrom (i + 1) cs,
      textOfChildren]

end

/-- In a listing by place, a search ends at the first place that passes. -/
theorem find_sorted_eq_some_iff {α : Type} {listing : List (List Nat × α)}
    (hsorted : listing.Pairwise (fun x y => x.1 < y.1)) (test : α → Bool) (place : List Nat)
    (a : α) :
    listing.find? (fun x => test x.2) = some (place, a) ↔
      (place, a) ∈ listing ∧ test a = true ∧
        ∀ other b, (other, b) ∈ listing → test b = true → ¬ other < place := by
  rw [List.find?_eq_some_iff_append]
  constructor
  · intro h
    obtain ⟨hpass, before, after, rfl, hbefore⟩ := h
    obtain ⟨_, hafter, _⟩ := List.pairwise_append.mp hsorted
    refine ⟨List.mem_append_right _ List.mem_cons_self, hpass, fun other b hmem hb hlt => ?_⟩
    rcases List.mem_append.mp hmem with hmem | hmem
    · simpa [hb] using hbefore _ hmem
    · rcases List.mem_cons.mp hmem with h | hmem
      · cases h
        exact List.lt_irrefl _ hlt
      · exact List.lt_asymm hlt ((List.pairwise_cons.mp hafter).1 _ hmem)
  · intro h
    obtain ⟨hmem, hpass, hfirst⟩ := h
    obtain ⟨before, after, rfl⟩ := List.append_of_mem hmem
    refine ⟨hpass, before, after, rfl, fun x hx => ?_⟩
    have hlt : x.1 < place := (List.pairwise_append.mp hsorted).2.2 x hx _ List.mem_cons_self
    cases htest : test x.2 with
    | false => rfl
    | true => exact absurd hlt (hfirst x.1 x.2 (List.mem_append_left _ hx) htest)

/-- Nothing that passes stands above or to the left exactly when nothing that passes stands at a
place before. -/
theorem topmost_iff {n m : Node} {test : Node → Prop} {place : List Nat} :
    n.Topmost test place m ↔
      n.get? place = some (.node m) ∧ test m ∧
        ∀ other l, n.get? other = some (.node l) → test l → ¬ other < place := by
  constructor
  · intro h
    refine ⟨h.stands, h.passes, fun other l hl hpass hlt => ?_⟩
    rcases place_lt_iff.mp hlt with ⟨i, rest, he⟩ | ⟨common, i, j, rest, rest', rfl, he, hij⟩
    · exact h.above other i rest l he hl hpass
    · exact h.left common i j rest' rest l he hij hl hpass
  · intro h
    obtain ⟨hget, hpass, hfirst⟩ := h
    refine ⟨hget, hpass, ?_, ?_⟩
    · intro up i rest l he hl hp
      have hlt : up < place := place_lt_iff.mpr (.inl ⟨i, rest, he⟩)
      exact hfirst up l hl hp hlt
    · intro common i j rest rest' l he hij hl hp
      have hlt : common ++ i :: rest' < place :=
        place_lt_iff.mpr (.inr ⟨common, i, j, rest', rest, rfl, he, hij⟩)
      exact hfirst _ l hl hp hlt

theorem Lists.mem_node_iff {n : Node} {nodes : List (List Nat × Node)}
    (h : n.Lists Child.node? nodes) (place : List Nat) (m : Node) :
    (place, m) ∈ nodes ↔ n.get? place = some (.node m) := by
  rw [h.mem_iff, Option.bind_eq_some_iff]
  constructor
  · intro h
    obtain ⟨c, hget, hm⟩ := h
    cases c with
    | node l =>
      cases hm
      exact hget
    | text s => cases hm
  · intro hget
    exact ⟨_, hget, rfl⟩

def placedNodes (n : Node) : List (List Nat × Node) :=
  select Child.node? n.placed

/-- Without their places the nodes are the preorder. -/
theorem map_placedNodes (n : Node) : n.placedNodes.map (·.2) = n.preorder :=
  (map_select _ _).trans n.nodes_placed

/-- A search finds the topmost and leftmost node that passes. -/
theorem find_eq_some_iff (n : Node) (test : Node → Bool) (m : Node) :
    n.find? test = some m ↔ ∃ place, n.Topmost (fun l => test l = true) place m := by
  have hlists : n.Lists Child.node? n.placedNodes := n.lists_select Child.node?
  rw [find_preorder, ← map_placedNodes, List.find?_map, Option.map_eq_some_iff]
  constructor
  · intro h
    obtain ⟨⟨place, _⟩, hfind, rfl⟩ := h
    obtain ⟨hmem, hpass, hfirst⟩ := (find_sorted_eq_some_iff hlists.sorted test _ _).mp hfind
    refine ⟨place, topmost_iff.mpr ⟨(hlists.mem_node_iff _ _).mp hmem, hpass, ?_⟩⟩
    exact fun other l hl => hfirst other l ((hlists.mem_node_iff _ _).mpr hl)
  · intro h
    obtain ⟨place, htop⟩ := h
    obtain ⟨hget, hpass, hfirst⟩ := topmost_iff.mp htop
    refine ⟨(place, m), (find_sorted_eq_some_iff hlists.sorted test _ _).mpr ?_, rfl⟩
    exact ⟨(hlists.mem_node_iff _ _).mpr hget, hpass,
      fun other l hl => hfirst other l ((hlists.mem_node_iff _ _).mp hl)⟩

/-- A search finds nothing just when no node passes. -/
theorem find_eq_none_iff (n : Node) (test : Node → Bool) :
    n.find? test = none ↔ ∀ m ∈ n.preorder, test m = false := by
  simp [find_preorder]

/-- The listing of a node has the nodes at all places, however deep. -/
theorem mem_preorder_iff {n m : Node} :
    m ∈ n.preorder ↔ ∃ place, n.get? place = some (.node m) := by
  rw [← map_placedNodes, List.mem_map]
  constructor
  · intro h
    obtain ⟨⟨place, _⟩, hmem, rfl⟩ := h
    exact ⟨place, ((n.lists_select Child.node?).mem_node_iff _ _).mp hmem⟩
  · intro h
    obtain ⟨place, hget⟩ := h
    exact ⟨(place, m), ((n.lists_select Child.node?).mem_node_iff _ _).mpr hget, rfl⟩

/-- A search goes through the listing that starts with the node and goes on with its child nodes, so
it finds the topmost and leftmost node that passes, at whatever depth, or there is none. The text of
a node is that of its leaves in their order, so children at its end add theirs at the end. -/
theorem queries_follow_document_order (n : Node) (test : Node → Bool) (id : String)
    (more : List Child) :
    n.preorder = n :: n.childNodes.flatMap preorder ∧
    (∃ nodes, n.Lists Child.node? nodes ∧ n.preorder = nodes.map (·.2)) ∧
    n.find? test = n.preorder.find? test ∧
    (∀ m, n.find? test = some m ↔ ∃ place, n.Topmost (fun l => test l = true) place m) ∧
    (n.find? test = none ↔ ∀ m ∈ n.preorder, test m = false) ∧
    (∀ m, n.findIdentifier? id = some m ↔
      ∃ place, n.Topmost (fun l => l.identifier? = some id) place m) ∧
    (n.findIdentifier? id = none ↔
      ∀ place m, n.get? place = some (.node m) → m.identifier? ≠ some id) ∧
    (∃ leaves, n.Lists Child.text? leaves ∧
      n.textContent = String.join (leaves.map (·.2))) ∧
    (n.withChildren more).textContent = n.textContent ++ String.join (more.map textOfChild) := by
  refine ⟨n.preorder_eq.trans (congrArg _ (preorderOfChildren_eq n.children)),
    ⟨n.placedNodes, n.lists_select Child.node?, n.map_placedNodes.symm⟩, find_preorder test n,
    n.find_eq_some_iff test, n.find_eq_none_iff test, fun m => ?_, ?_, ?_, ?_⟩
  · rw [findIdentifier?, find_eq_some_iff]
    simp only [beq_iff_eq]
  · rw [findIdentifier?, find_eq_none_iff]
    simp only [mem_preorder_iff, beq_eq_false_iff_ne]
    exact ⟨fun h place m hget => h m ⟨place, hget⟩, fun h m ⟨place, hget⟩ => h place m hget⟩
  · refine ⟨select Child.text? n.placed, n.lists_select Child.text?, ?_⟩
    rw [map_select, texts_placed]
  · rw [textContent_eq, children_withChildren, textOfChildren_append, ← textContent_eq,
      textOfChildren_eq_join more]

def twoWidths : Node :=
  .mk .definitionList .empty
    [.node (.mk .definitionDescription .empty
        [.text "see ", .node ((strong "a").withIdentifier "width")]),
      .text " or ", .node ((emphasis "b").withIdentifier "width")]

example : twoWidths.findIdentifier? "width" = some ((strong "a").withIdentifier "width") ∧
    twoWidths.get? [0, 1] = some (.node ((strong "a").withIdentifier "width")) ∧
    twoWidths.textContent = "see a or b" := by
  decide

end Node
end DirectiveDocs
