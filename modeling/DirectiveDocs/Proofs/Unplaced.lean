import DirectiveDocs.Yaml.Document
import Mathlib.Data.List.Forall2

namespace DirectiveDocs.Yaml

namespace Node

mutual

/-- A tree without the places of its nodes. -/
def unplaced : Node → Node
  | scalar _ a t style text => scalar .first a t style text
  | sequence _ a t items => sequence .first a t (unplacedItems items)
  | mapping _ a t entries => mapping .first a t (unplacedEntries entries)
  | reference _ target => reference .first target

def unplacedItems : List Node → List Node
  | [] => []
  | n :: rest => unplaced n :: unplacedItems rest

def unplacedEntries : List (Node × Node) → List (Node × Node)
  | [] => []
  | (k, v) :: rest => (unplaced k, unplaced v) :: unplacedEntries rest

end

theorem unplacedItems_eq_map (ns : List Node) : unplacedItems ns = ns.map unplaced := by
  induction ns with
  | nil => rfl
  | cons n ns ih => rw [unplacedItems, ih, List.map_cons]

theorem unplacedEntries_eq_map (es : List (Node × Node)) :
    unplacedEntries es = es.map (Prod.map unplaced unplaced) := by
  induction es with
  | nil => rfl
  | cons e es ih => rw [unplacedEntries, ih, List.map_cons, Prod.map]

@[simp] theorem tag?_unplaced (n : Node) : n.unplaced.tag? = n.tag? := by
  cases n <;> simp [unplaced, tag?]

@[simp] theorem anchor?_unplaced (n : Node) : n.unplaced.anchor? = n.anchor? := by
  cases n <;> simp [unplaced, anchor?]

theorem anchorEntry_unplaced (n : Node) :
    anchorEntry n.unplaced = (anchorEntry n).map (Prod.map id unplaced) := by
  rw [anchorEntry, anchorEntry, anchor?_unplaced]
  cases n.anchor? <;> rfl

mutual

theorem anchored_unplaced (n : Node) :
    anchored n.unplaced = (anchored n).map (Prod.map id unplaced) := by
  cases n with
  | scalar m a t style text =>
    rw [anchored, ← anchorEntry_unplaced]
    rfl
  | sequence m a t items =>
    rw [anchored, List.map_append, ← anchorEntry_unplaced, ← anchoredItems_unplaced items]
    rfl
  | mapping m a t entries =>
    rw [anchored, List.map_append, ← anchorEntry_unplaced, ← anchoredEntries_unplaced entries]
    rfl
  | reference m target => rfl

theorem anchoredItems_unplaced (ns : List Node) :
    anchoredItems (unplacedItems ns) = (anchoredItems ns).map (Prod.map id unplaced) := by
  cases ns with
  | nil => rfl
  | cons n ns =>
    rw [unplacedItems, anchoredItems, anchoredItems, List.map_append, anchored_unplaced n,
      anchoredItems_unplaced ns]

theorem anchoredEntries_unplaced (es : List (Node × Node)) :
    anchoredEntries (unplacedEntries es) = (anchoredEntries es).map (Prod.map id unplaced) := by
  cases es with
  | nil => rfl
  | cons e es =>
    rw [unplacedEntries, anchoredEntries, anchoredEntries, List.map_append, List.map_append,
      anchored_unplaced e.1, anchored_unplaced e.2, anchoredEntries_unplaced es]

end

end Node

namespace Document

def unplaced (d : Document) : Document :=
  ⟨d.root.map Node.unplaced, d.anchors.map (Prod.map id Node.unplaced)⟩

theorem ofRoot_unplaced (n : Node) : (ofRoot n).unplaced = ofRoot n.unplaced := by
  rw [unplaced, ofRoot, ofRoot, Node.anchored_unplaced, List.map_reverse]
  rfl

theorem target_unplaced (d : Document) (n : Node) :
    d.unplaced.target n.unplaced = (d.target n).unplaced := by
  cases n with
  | reference m a =>
    simp only [Node.unplaced, target, unplaced, List.find?_map]
    have h : (fun e : Nat × Node => e.1 == a) ∘ Prod.map id Node.unplaced =
        fun e => e.1 == a := rfl
    rw [h]
    cases d.anchors.find? (fun e => e.1 == a) <;> rfl
  | _ => rfl

end Document

/-- The same but for the places. -/
def Node.Alike (n n' : Node) : Prop :=
  n.unplaced = n'.unplaced

def Token.Alike (t t' : Token) : Prop :=
  t.kind = t'.kind

structure Reading.Alike (r r' : Reading) : Prop where
  tokens : List.Forall₂ Token.Alike r.tokens r'.tokens
  anchors : r.anchors = r'.anchors
  handles : r.handles = r'.handles

theorem Reading.Alike.head? {r r' : Reading} (h : r.Alike r') :
    Option.Rel Token.Alike r.tokens.head? r'.tokens.head? := by
  obtain ⟨ts, _, _⟩ := r
  obtain ⟨ts', _, _⟩ := r'
  cases h.tokens with
  | nil => exact .none
  | cons ht _ => exact .some ht

theorem Reading.Alike.tail {r r' : Reading} (h : r.Alike r') :
    List.Forall₂ Token.Alike r.tokens.tail r'.tokens.tail := by
  obtain ⟨ts, _, _⟩ := r
  obtain ⟨ts', _, _⟩ := r'
  cases h.tokens with
  | nil => exact .nil
  | cons _ hts => exact hts

structure Properties.Alike (p p' : Properties) : Prop where
  mark : p.mark.isSome = p'.mark.isSome
  anchor : p.anchor = p'.anchor
  tag : p.tag = p'.tag

/-- Two readers that give related results, or both none, on tokens of the same kinds. -/
def Reader.Agree (R : α → β → Prop) (m : Reader α) (m' : Reader β) : Prop :=
  ∀ r r', r.Alike r' → Option.Rel (fun p p' => R p.1 p'.1 ∧ p.2.Alike p'.2) (m r) (m' r')

namespace Reader

theorem Agree.bind {R : α → β → Prop} {S : γ → δ → Prop} {m : Reader α} {m' : Reader β}
    {k : α → Reader γ} {k' : β → Reader δ} (h : Agree R m m')
    (hk : ∀ a a', R a a' → Agree S (k a) (k' a')) : Agree S (m >>= k) (m' >>= k') := by
  intro r r' hr
  show Option.Rel _ ((m r).bind _) ((m' r').bind _)
  have hm := h r r' hr
  generalize m r = x, m' r' = x' at hm
  rcases hm with ⟨ha, hr⟩ | _
  · exact hk _ _ ha _ _ hr
  · exact .none

theorem Agree.pure {R : α → β → Prop} {a : α} {a' : β} (h : R a a') :
    Agree R (pure a) (pure a') :=
  fun _ _ hr => .some ⟨h, hr⟩

theorem Agree.fail {R : α → β → Prop} : Agree R fail fail :=
  fun _ _ _ => .none

theorem agree_peek : Agree (Option.Rel Token.Alike) peek peek :=
  fun _ _ hr => .some ⟨hr.head?, hr⟩

theorem agree_skip : Agree (fun _ _ => True) skip skip :=
  fun _ _ hr => .some ⟨trivial, hr.tail, hr.anchors, hr.handles⟩

theorem agree_isNext (p : TokenKind → Bool) : Agree Eq (isNext p) (isNext p) := by
  intro r r' hr
  have ht := hr.head?
  refine .some ⟨?_, hr⟩
  generalize r.tokens.head? = t, r'.tokens.head? = t' at ht
  rcases ht with ht | _
  · exact congrArg p ht
  · rfl

theorem agree_place : Agree (fun _ _ => True) place place := by
  intro r r' hr
  have ht := hr.head?
  rw [place, place]
  generalize r.tokens.head? = t, r'.tokens.head? = t' at ht
  rcases ht with ht | _
  · exact .some ⟨trivial, hr⟩
  · exact .none

theorem agree_defineAnchor (name : String) : Agree Eq (defineAnchor name) (defineAnchor name) := by
  intro r r' hr
  rw [defineAnchor, defineAnchor, hr.anchors]
  exact .some ⟨rfl, hr.tokens, rfl, hr.handles⟩

theorem agree_findAnchor (name : String) : Agree Eq (findAnchor name) (findAnchor name) := by
  intro r r' hr
  rw [findAnchor, findAnchor, hr.anchors]
  cases r'.anchors.find? (fun e => e.1 == name)
  · exact .none
  · exact .some ⟨rfl, hr⟩

theorem agree_expandTag (handle suffix : String) :
    Agree Eq (expandTag handle suffix) (expandTag handle suffix) := by
  intro r r' hr
  rw [expandTag, expandTag, hr.handles]
  split
  · exact .some ⟨rfl, hr⟩
  · cases r'.handles.find? (fun e => e.1 == handle)
    · exact .none
    · exact .some ⟨rfl, hr⟩

/-- What follows the separator that every part but the first has before it. -/
theorem Agree.separated {R : α → β → Prop} {m : Reader α} {m' : Reader β} (h : Agree R m m')
    (first : Bool) (p : TokenKind → Bool) :
    Agree R
      (if !first then do
        if ← isNext p then skip else Reader.fail
        m
      else m)
      (if !first then do
        if ← isNext p then skip else Reader.fail
        m'
      else m') := by
  cases first
  · refine (agree_isNext p).bind ?_
    rintro isNext _ rfl
    split
    · exact agree_skip.bind (fun _ _ _ => h)
    · exact Agree.bind (R := fun _ _ => True) .fail (fun _ _ _ => h)
  · exact h

theorem Agree.ite {R : α → β → Prop} {c : Prop} [Decidable c] {m₁ m₂ : Reader α}
    {m₁' m₂' : Reader β} (h₁ : Agree R m₁ m₁') (h₂ : Agree R m₂ m₂') :
    Agree R (if c then m₁ else m₂) (if c then m₁' else m₂') := by
  split
  · exact h₁
  · exact h₂

end Reader

open Reader

namespace Properties.Alike

variable {p p' : Properties}

theorem isEmpty (h : p.Alike p') : p.isEmpty = p'.isEmpty := by
  rw [Properties.isEmpty, Properties.isEmpty, h.anchor, h.tag]

theorem readAnchor (h : p.Alike p') : Agree Properties.Alike p.readAnchor p'.readAnchor := by
  refine agree_peek.bind ?_
  rintro _ _ (@⟨⟨kind, start, stop⟩, ⟨_, start', stop'⟩, ⟨⟩⟩ | _)
  · cases kind
    case anchor name =>
      refine agree_skip.bind (fun _ _ _ => (agree_defineAnchor name).bind ?_)
      rintro n _ rfl
      exact .pure ⟨by simp, rfl, h.tag⟩
    all_goals exact .pure h
  · exact .pure h

theorem readTag (h : p.Alike p') : Agree Properties.Alike p.readTag p'.readTag := by
  refine agree_peek.bind ?_
  rintro _ _ (@⟨⟨kind, start, stop⟩, ⟨_, start', stop'⟩, ⟨⟩⟩ | _)
  · cases kind
    case tag handle suffix =>
      refine agree_skip.bind (fun _ _ _ => (agree_expandTag handle suffix).bind ?_)
      rintro t _ rfl
      exact .pure ⟨by simp, h.anchor, rfl⟩
    all_goals exact .pure h
  · exact .pure h

end Properties.Alike

theorem Properties.agree_read : Agree Properties.Alike Properties.read Properties.read := by
  have h : Properties.Alike ⟨none, none, none⟩ ⟨none, none, none⟩ := ⟨rfl, rfl, rfl⟩
  refine (agree_isNext _).bind ?_
  rintro isTag _ rfl
  split
  · exact h.readTag.bind (fun _ _ hp => hp.readAnchor)
  · exact h.readAnchor.bind (fun _ _ hp => hp.readTag)

namespace Node.Alike

theorem sequence {m m' : Mark} {a : Option Nat} {t : Option String} {ns ns' : List Node}
    (h : List.Forall₂ Node.Alike ns ns') :
    Node.Alike (.sequence m a t ns) (.sequence m' a t ns') := by
  have hns : ns.map unplaced = ns'.map unplaced := by
    rwa [← List.forall₂_eq_eq_eq, List.forall₂_map_left_iff, List.forall₂_map_right_iff]
  simp only [Node.Alike, unplaced, unplacedItems_eq_map, hns]

theorem mapping {m m' : Mark} {a : Option Nat} {t : Option String} {es es' : List (Node × Node)}
    (h : List.Forall₂ (fun e e' => e.1.Alike e'.1 ∧ e.2.Alike e'.2) es es') :
    Node.Alike (.mapping m a t es) (.mapping m' a t es') := by
  have hes : es.map (Prod.map unplaced unplaced) = es'.map (Prod.map unplaced unplaced) := by
    rw [← List.forall₂_eq_eq_eq, List.forall₂_map_left_iff, List.forall₂_map_right_iff]
    exact h.imp (fun _ _ he => Prod.ext he.1 he.2)
  simp only [Node.Alike, unplaced, unplacedEntries_eq_map, hes]

end Node.Alike

abbrev EntryAlike (e e' : Node × Node) : Prop := e.1.Alike e'.1 ∧ e.2.Alike e'.2

mutual

/-- A node is read alike at whatever places its tokens stand. -/
theorem agree_node : ∀ (fuel : Nat) (block unindented : Bool),
    Agree Node.Alike (node fuel block unindented) (node fuel block unindented)
  | 0, _, _ => .fail
  | fuel + 1, block, unindented => by
    rw [node]
    refine Properties.agree_read.bind ?_
    rintro ⟨mark, anchor, tag⟩ ⟨mark', _, _⟩ ⟨hm, ⟨⟩, ⟨⟩⟩
    refine agree_peek.bind ?_
    rintro _ _ (@⟨⟨kind, start, stop⟩, ⟨_, start', stop'⟩, ⟨⟩⟩ | _)
    · by_cases ha : ∃ name, kind = .alias name
      · obtain ⟨name, rfl⟩ := ha
        refine .ite (agree_skip.bind (fun _ _ _ => (agree_findAnchor name).bind ?_)) (.pure rfl)
        rintro a _ rfl
        exact .pure rfl
      · cases kind
        case scalar style text => exact agree_skip.bind (fun _ _ _ => .pure rfl)
        case flowSequenceStart =>
          exact agree_skip.bind (fun _ _ _ =>
            (agree_flowItems fuel true).bind (fun _ _ hns => .pure (.sequence hns)))
        case flowMappingStart =>
          exact agree_skip.bind (fun _ _ _ =>
            (agree_flowEntries fuel true).bind (fun _ _ hes => .pure (.mapping hes)))
        all_goals first
          | exact absurd ⟨_, rfl⟩ ha
          | refine .ite
              ((agree_unindentedItems fuel).bind (fun _ _ hns => .pure (.sequence hns))) ?_
            refine .ite (agree_skip.bind (fun _ _ _ =>
              (agree_blockItems fuel).bind (fun _ _ hns => .pure (.sequence hns)))) ?_
            refine .ite (agree_skip.bind (fun _ _ _ =>
              (agree_blockEntries fuel).bind (fun _ _ hes => .pure (.mapping hes)))) ?_
            exact .ite .fail (.pure rfl)
    · cases mark <;> cases mark' <;> cases hm
      · exact .fail
      · exact .pure rfl

theorem agree_nodeUnless : ∀ (fuel : Nat) (isEnd : TokenKind → Bool) (m m' : Mark)
    (block unindented : Bool),
    Agree Node.Alike (nodeUnless fuel isEnd m block unindented)
      (nodeUnless fuel isEnd m' block unindented)
  | 0, _, _, _, _, _ => .fail
  | fuel + 1, isEnd, m, m', block, unindented => by
    rw [nodeUnless, nodeUnless]
    refine (agree_isNext isEnd).bind ?_
    rintro isLeftOut _ rfl
    split
    · exact .pure rfl
    · exact agree_node fuel block unindented

theorem agree_blockItems : ∀ fuel : Nat,
    Agree (List.Forall₂ Node.Alike) (blockItems fuel) (blockItems fuel)
  | 0 => .fail
  | fuel + 1 => by
    rw [blockItems]
    refine agree_peek.bind ?_
    rintro _ _ (@⟨⟨kind, start, stop⟩, ⟨_, start', stop'⟩, ⟨⟩⟩ | _)
    · cases kind
      case blockEntry =>
        refine agree_skip.bind (fun _ _ _ => ?_)
        refine (agree_nodeUnless fuel _ stop stop' true false).bind (fun _ _ hn => ?_)
        exact (agree_blockItems fuel).bind (fun _ _ hns => .pure (.cons hn hns))
      case blockEnd => exact agree_skip.bind (fun _ _ _ => .pure .nil)
      all_goals exact .fail
    · exact .fail

theorem agree_unindentedItems : ∀ fuel : Nat,
    Agree (List.Forall₂ Node.Alike) (unindentedItems fuel) (unindentedItems fuel)
  | 0 => .fail
  | fuel + 1 => by
    rw [unindentedItems]
    refine agree_peek.bind ?_
    rintro _ _ (@⟨⟨kind, start, stop⟩, ⟨_, start', stop'⟩, ⟨⟩⟩ | _)
    · cases kind
      case blockEntry =>
        refine agree_skip.bind (fun _ _ _ => ?_)
        refine (agree_nodeUnless fuel _ stop stop' true false).bind (fun _ _ hn => ?_)
        exact (agree_unindentedItems fuel).bind (fun _ _ hns => .pure (.cons hn hns))
      all_goals exact .pure .nil
    · exact .pure .nil

theorem agree_blockEntries : ∀ fuel : Nat,
    Agree (List.Forall₂ EntryAlike) (blockEntries fuel) (blockEntries fuel)
  | 0 => .fail
  | fuel + 1 => by
    rw [blockEntries]
    refine agree_peek.bind ?_
    rintro _ _ (@⟨⟨kind, start, stop⟩, ⟨_, start', stop'⟩, ⟨⟩⟩ | _)
    · cases kind
      case key =>
        refine agree_skip.bind (fun _ _ _ => ?_)
        refine (agree_nodeUnless fuel _ stop stop' true true).bind (fun _ _ hk => ?_)
        refine (agree_blockValue fuel).bind (fun _ _ hv => ?_)
        exact (agree_blockEntries fuel).bind (fun _ _ hes => .pure (.cons ⟨hk, hv⟩ hes))
      case blockEnd => exact agree_skip.bind (fun _ _ _ => .pure .nil)
      all_goals exact .fail
    · exact .fail

theorem agree_blockValue : ∀ fuel : Nat, Agree Node.Alike (blockValue fuel) (blockValue fuel)
  | 0 => .fail
  | fuel + 1 => by
    rw [blockValue]
    refine agree_peek.bind ?_
    rintro _ _ (@⟨⟨kind, start, stop⟩, ⟨_, start', stop'⟩, ⟨⟩⟩ | _)
    · cases kind
      case value =>
        exact agree_skip.bind (fun _ _ _ => agree_nodeUnless fuel _ stop stop' true true)
      all_goals exact .pure rfl
    · exact .fail

theorem agree_flowItems : ∀ (fuel : Nat) (first : Bool),
    Agree (List.Forall₂ Node.Alike) (flowItems fuel first) (flowItems fuel first)
  | 0, _ => .fail
  | fuel + 1, first => by
    rw [flowItems]
    refine (agree_isNext _).bind ?_
    rintro isEnd _ rfl
    refine .ite (agree_skip.bind (fun _ _ _ => .pure .nil)) (.separated ?_ first _)
    have hitem := (agree_node fuel false false).bind (fun _ _ hn =>
      (agree_flowItems fuel false).bind (fun _ _ hns =>
        .pure (R := List.Forall₂ Node.Alike) (.cons hn hns)))
    refine agree_peek.bind ?_
    rintro _ _ (@⟨⟨kind, start, stop⟩, ⟨_, start', stop'⟩, ⟨⟩⟩ | _)
    · cases kind
      case flowSequenceEnd => exact agree_skip.bind (fun _ _ _ => .pure .nil)
      case key =>
        refine agree_skip.bind (fun _ _ _ => ?_)
        refine (agree_flowPair fuel).bind (fun _ _ he => ?_)
        exact (agree_flowItems fuel false).bind
          (fun _ _ hns => .pure (.cons (.mapping (.cons he .nil)) hns))
      all_goals exact hitem
    · exact hitem

theorem agree_flowPair : ∀ fuel : Nat, Agree EntryAlike (flowPair fuel) (flowPair fuel)
  | 0 => .fail
  | fuel + 1 => by
    rw [flowPair]
    refine agree_peek.bind ?_
    rintro _ _ (@⟨⟨kind, start, stop⟩, ⟨_, start', stop'⟩, ⟨⟩⟩ | _)
    · refine .ite (agree_skip.bind (fun _ _ _ => .bind (R := Node.Alike) (.pure rfl) ?_))
        ((agree_node fuel false false).bind ?_)
      all_goals
        intro k k' hk
        refine (agree_isNext _).bind ?_
        rintro isValue _ rfl
        refine .ite (agree_skip.bind (fun _ _ _ => ?_))
          (agree_place.bind (fun _ _ _ => .pure ⟨hk, rfl⟩))
        refine agree_place.bind (fun m m' _ => ?_)
        exact (agree_nodeUnless fuel _ m m' false false).bind (fun _ _ hv => .pure ⟨hk, hv⟩)
    · exact .fail

theorem agree_flowEntries : ∀ (fuel : Nat) (first : Bool),
    Agree (List.Forall₂ EntryAlike) (flowEntries fuel first) (flowEntries fuel first)
  | 0, _ => .fail
  | fuel + 1, first => by
    rw [flowEntries]
    refine (agree_isNext _).bind ?_
    rintro isEnd _ rfl
    refine .ite (agree_skip.bind (fun _ _ _ => .pure .nil)) (.separated ?_ first _)
    have hkey : Agree (List.Forall₂ EntryAlike)
        (do let k ← node fuel false false
            pure ((k, .absent (← place)) :: (← flowEntries fuel false)))
        (do let k ← node fuel false false
            pure ((k, .absent (← place)) :: (← flowEntries fuel false))) := by
      refine (agree_node fuel false false).bind (fun _ _ hk => agree_place.bind (fun _ _ _ => ?_))
      exact (agree_flowEntries fuel false).bind (fun _ _ hes => .pure (.cons ⟨hk, rfl⟩ hes))
    refine agree_peek.bind ?_
    rintro _ _ (@⟨⟨kind, start, stop⟩, ⟨_, start', stop'⟩, ⟨⟩⟩ | _)
    · cases kind
      case flowMappingEnd => exact agree_skip.bind (fun _ _ _ => .pure .nil)
      case key =>
        refine agree_skip.bind (fun _ _ _ => agree_place.bind (fun m m' _ => ?_))
        refine (agree_nodeUnless fuel _ m m' false false).bind (fun _ _ hk => ?_)
        refine (agree_isNext _).bind ?_
        rintro isValue _ rfl
        refine .ite (agree_skip.bind (fun _ _ _ => agree_place.bind (fun m m' _ => ?_)))
          (agree_place.bind (fun m m' _ => .bind (R := Node.Alike) (.pure rfl) ?_))
        · refine (agree_nodeUnless fuel _ m m' false false).bind (fun _ _ hv => ?_)
          exact (agree_flowEntries fuel false).bind (fun _ _ hes => .pure (.cons ⟨hk, hv⟩ hes))
        · intro v v' hv
          exact (agree_flowEntries fuel false).bind (fun _ _ hes => .pure (.cons ⟨hk, hv⟩ hes))
      all_goals exact hkey
    · exact hkey

end

theorem agree_directives : ∀ (fuel : Nat) (versioned : Bool) (handles : List (String × String)),
    Agree Eq (directives fuel versioned handles) (directives fuel versioned handles)
  | 0, _, _ => .fail
  | fuel + 1, versioned, handles => by
    rw [directives]
    refine agree_peek.bind ?_
    rintro _ _ (@⟨⟨kind, start, stop⟩, ⟨_, start', stop'⟩, ⟨⟩⟩ | _)
    · cases kind
      case version major minor =>
        exact .ite .fail (agree_skip.bind (fun _ _ _ => agree_directives fuel true handles))
      case handle name expansion =>
        exact .ite .fail (agree_skip.bind (fun _ _ _ => agree_directives fuel versioned _))
      all_goals exact .pure rfl
    · exact .pure rfl

theorem agree_skipDocumentEnds : ∀ fuel : Nat,
    Agree (fun _ _ => True) (skipDocumentEnds fuel) (skipDocumentEnds fuel)
  | 0 => .pure trivial
  | fuel + 1 => by
    rw [skipDocumentEnds]
    refine (agree_isNext _).bind ?_
    rintro isEnd _ rfl
    exact .ite (agree_skip.bind (fun _ _ _ => agree_skipDocumentEnds fuel)) (.pure trivial)

def Document.Alike (d d' : Document) : Prop :=
  d.unplaced = d'.unplaced

theorem Node.Alike.ofRoot {n n' : Node} (h : n.Alike n') :
    (Document.ofRoot n).Alike (Document.ofRoot n') := by
  rw [Document.Alike, Document.ofRoot_unplaced, Document.ofRoot_unplaced, h]

/-- A document is read alike at whatever places its tokens stand. -/
theorem agree_document (fuel : Nat) : Agree Document.Alike (document fuel) (document fuel) := by
  have hnode := (agree_node fuel true false).bind
    (fun _ _ hn => .pure (R := Document.Alike) hn.ofRoot)
  refine agree_peek.bind ?_
  rintro _ _ (@⟨⟨kind, start, stop⟩, ⟨_, start', stop'⟩, ⟨⟩⟩ | _)
  · refine .ite ((agree_directives fuel false []).bind ?_) hnode
    rintro handles _ rfl
    refine (agree_isNext _).bind ?_
    rintro isStart _ rfl
    have hbody : Agree Document.Alike
        (do skip
            fun r => some ((), { r with handles := handles ++ standardHandles })
            if (← peek).all (fun t => t.kind.endsDocument) then pure (.ofRoot (.absent stop))
            else pure (.ofRoot (← node fuel true false)))
        (do skip
            fun r => some ((), { r with handles := handles ++ standardHandles })
            if (← peek).all (fun t => t.kind.endsDocument) then pure (.ofRoot (.absent stop'))
            else pure (.ofRoot (← node fuel true false))) := by
      refine agree_skip.bind (fun _ _ _ => ?_)
      refine Agree.bind (R := fun _ _ => True)
        (fun _ _ hr => .some ⟨trivial, hr.tokens, hr.anchors, rfl⟩) (fun _ _ _ => ?_)
      refine agree_peek.bind ?_
      rintro _ _ (@⟨⟨kind, start, stop⟩, ⟨_, start', stop'⟩, ⟨⟩⟩ | _)
      · exact .ite (.pure (Node.Alike.ofRoot rfl)) hnode
      · exact .pure (Node.Alike.ofRoot rfl)
    exact .ite (Agree.bind (R := fun _ _ => True) .fail (fun _ _ _ => hbody)) hbody
  · exact .pure rfl

/-- Texts with tokens of the same kinds hold documents that differ at most in places. -/
theorem parse?_alike {text text' : String} {ts ts' : List Token} (ht : tokens? text = some ts)
    (ht' : tokens? text' = some ts') (h : List.Forall₂ Token.Alike ts ts') :
    Option.Rel Document.Alike (parse? text) (parse? text') := by
  have hr : Reading.Alike ⟨ts, [], standardHandles⟩ ⟨ts', [], standardHandles⟩ := ⟨h, rfl, rfl⟩
  have hd := agree_document (4 * ts.length + 4) _ _ hr
  simp only [parse?, ht, ht', Option.bind_eq_bind, Option.bind_some, h.length_eq] at hd ⊢
  generalize document _ ⟨ts, [], standardHandles⟩ = x,
    document _ ⟨ts', [], standardHandles⟩ = x' at hd
  rcases hd with @⟨⟨d, r⟩, ⟨d', r'⟩, hd, hr⟩ | _
  · have he := agree_skipDocumentEnds r.tokens.length _ _ hr
    simp only [Option.bind_some, hr.tokens.length_eq] at he ⊢
    generalize skipDocumentEnds _ r = y, skipDocumentEnds _ r' = y' at he
    rcases he with @⟨⟨_, s⟩, ⟨_, s'⟩, -, hs⟩ | _
    · simp only [Option.bind_some, List.isEmpty_iff_length_eq_zero, hs.tokens.length_eq]
      split
      · exact .some hd
      · exact .none
    · exact .none
  · exact .none

end DirectiveDocs.Yaml
