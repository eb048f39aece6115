import DirectiveDocs.Proofs.ImageText
import DirectiveDocs.Proofs.Vocabulary

namespace DirectiveDocs

def Child.TextsApart (cs : List Child) : Prop :=
  ∀ s t, ¬ [Child.text s, Child.text t] <:+: cs

namespace Child

theorem textsApart_nil : TextsApart [] := by
  intro s t h
  simp at h

theorem textsApart_cons_node {n : Node} {cs : List Child} :
    TextsApart (.node n :: cs) ↔ TextsApart cs := by
  simp [TextsApart, List.infix_cons_iff]

theorem textsApart_cons_text {s : String} {cs : List Child} :
    TextsApart (.text s :: cs) ↔ (∀ t rest, cs ≠ .text t :: rest) ∧ TextsApart cs := by
  constructor
  · intro h
    constructor
    · rintro t rest rfl
      exact h s t ⟨[], rest, rfl⟩
    · intro a b hab
      exact h a b (List.infix_cons_iff.mpr (.inr hab))
  · rintro ⟨hhead, hrest⟩ a b hab
    rcases List.infix_cons_iff.mp hab with hp | hab
    · obtain ⟨-, rest, rfl⟩ := List.cons_prefix_cons.mp hp
      exact hhead b rest rfl
    · exact hrest a b hab

end Child

namespace Node

/-- The normal form of a node of a finished tree. -/
structure IsNormal (n : Node) : Prop where
  apart : Child.TextsApart n.children
  code : n.kind ∈ [Kind.code, .inlineCode] → ∃ s, n.children = [.text s]
  image : n.kind = .image → n.children = [] ∧ (n.attribute? "alt").isSome = true
  empty : n.kind ∈ [Kind.thematicBreak, .break] → n.children = []

theorem isNormal_text {k : Kind} (hk : k ∉ [Kind.image, .thematicBreak, .break]) (a : Attributes)
    (s : String) : (mk k a [.text s]).IsNormal where
  apart := Child.textsApart_cons_text.mpr ⟨by simp, Child.textsApart_nil⟩
  code _ := ⟨s, rfl⟩
  image h := absurd (h ▸ List.mem_cons_self) hk
  empty h := absurd (List.mem_cons_of_mem _ h) hk

theorem isNormal_break {k : Kind} (hk : k ∈ [Kind.thematicBreak, .break]) (a : Attributes) :
    (mk k a []).IsNormal where
  apart := Child.textsApart_nil
  code h := by cases k <;> simp [kind] at hk h
  image h := by cases k <;> simp [kind] at hk h
  empty _ := rfl

theorem isNormal_image (a : Attributes) (alt : String) :
    (mk .image (a.insert "alt" alt) []).IsNormal where
  apart := Child.textsApart_nil
  code h := absurd h (by simp [kind])
  image _ := ⟨rfl, by simp [attribute?, attributes, Attributes.get_insert]⟩
  empty _ := rfl

/-- Nodes of most kinds only have to keep their texts apart. -/
theorem isNormal_apart {k : Kind}
    (hk : k ∉ [Kind.code, .inlineCode, .image, .thematicBreak, .break]) (a : Attributes)
    {cs : List Child} (h : Child.TextsApart cs) : (mk k a cs).IsNormal where
  apart := h
  code h := by simp_all [kind]
  image h := by simp_all [kind]
  empty h := by simp_all [kind]

end Node

namespace Markup

open Node

variable {d : Dialect}

/-- Joining texts leaves none next to another. -/
theorem textsApart_joinTexts (cs : List Child) : Child.TextsApart (joinTexts cs) := by
  induction cs with
  | nil => exact Child.textsApart_nil
  | cons c cs ih =>
    cases c with
    | node n => exact Child.textsApart_cons_node.mpr ih
    | text s =>
      rw [joinTexts]
      rcases hj : joinTexts cs with _ | ⟨n | t, rest⟩
      · exact Child.textsApart_cons_text.mpr ⟨by simp, Child.textsApart_nil⟩
      · exact Child.textsApart_cons_text.mpr ⟨by simp, hj ▸ ih⟩
      · rw [hj] at ih
        exact Child.textsApart_cons_text.mpr (Child.textsApart_cons_text.mp ih)

/-- What a single event adds is in normal form. -/
theorem isNormal_leaf (e : Event d) : ∀ m ∈ preorderOfChildren e.content, m.IsNormal := by
  intro m hm
  cases e with
  | code s =>
    obtain rfl := List.mem_singleton.mp hm
    exact isNormal_text (by decide) _ s
  | inlineHtml s =>
    obtain rfl := List.mem_singleton.mp hm
    exact isNormal_text (by decide) _ s
  | hardBreak =>
    obtain rfl := List.mem_singleton.mp hm
    exact isNormal_break (by decide) _
  | rule =>
    obtain rfl := List.mem_singleton.mp hm
    exact isNormal_break (by decide) _
  | _ => cases hm

/-- Nodes of these kinds never have a group of their own. -/
theorem kind_tag_not_mem (tag : Tag d) : tag.kind ∉ [Kind.inlineCode, .thematicBreak, .break] := by
  cases tag <;> simp [Tag.kind]

/-- What the end of a group makes of an open node is in normal form, whatever the node held. -/
theorem isNormal_groupNode (tag : Tag d) (marks : List Bool) (content : List Child) :
    (groupNode tag marks content).IsNormal := by
  have htag := kind_tag_not_mem tag
  unfold groupNode
  cases hk : tag.kind with
  | code => exact isNormal_text (by decide) _ _
  | image => exact isNormal_image _ _
  | inlineCode | thematicBreak | «break» => simp [hk] at htag
  | _ => exact isNormal_apart (by decide) _ (textsApart_joinTexts content)

/-- The nodes of a group are its own and those of its content. -/
theorem mem_preorder_groupNode {tag : Tag d} {marks : List Bool} {content : List Child} {m : Node}
    (h : m ∈ (groupNode tag marks content).preorder) :
    m = groupNode tag marks content ∨ m ∈ preorderOfChildren content := by
  rw [preorder_eq, List.mem_cons] at h
  refine h.imp_right (fun h => ?_)
  unfold groupNode at h
  cases hk : tag.kind <;> simp only [hk, Node.children, preorderOfChildren_joinTexts] at h <;>
    first
      | exact h
      | cases h

mutual

/-- All that a part adds is in normal form, by induction on the parts: each group from what it
holds. -/
theorem isNormal_content : ∀ p : Part d, ∀ m ∈ preorderOfChildren p.content, m.IsNormal
  | .group tag parts, m, hm => by
    rw [Part.content, preorderOfChildren, preorderOfChildren, List.append_nil] at hm
    rcases mem_preorder_groupNode hm with rfl | hm
    · exact isNormal_groupNode tag _ _
    · exact isNormal_partContent parts m hm
  | .leaf e _, m, hm => isNormal_leaf e m hm

/-- All nodes below a group are in normal form. -/
theorem isNormal_partContent : ∀ ps : List (Part d),
    ∀ m ∈ preorderOfChildren (partContent ps), m.IsNormal
  | [], _, hm => absurd hm List.not_mem_nil
  | p :: ps, m, hm => by
    rw [partContent, preorderOfChildren_append] at hm
    rcases List.mem_append.mp hm with hm | hm
    · exact isNormal_content p m hm
    · exact isNormal_partContent ps m hm

end

/-- Outside all groups a text is one paragraph. -/
theorem isNormal_partForest (ps : List (Part d)) :
    ∀ m ∈ listing (partForest ps), m.IsNormal := by
  intro m hm
  obtain ⟨root, hroot, hm⟩ := List.mem_flatMap.mp hm
  obtain ⟨c, hc, rfl⟩ := List.mem_map.mp hroot
  cases c with
  | node n => exact isNormal_partContent ps m (mem_preorderOfChildren.mpr ⟨n, hc, hm⟩)
  | text s =>
    obtain rfl := List.mem_singleton.mp hm
    exact isNormal_text (by decide) _ s

/-- A forest is that of the parts of its events. -/
theorem forest_eq_nesting (es : List (Event d)) : forest es = partForest (nesting es) := by
  rw [← forest_partEvents, partEvents_nesting]
  exact (Builder.finish_balance es .empty).symm

/-- How many groups are open after events when a number of groups are open before them. -/
def openAfter : Nat → List (Event d) → Nat
  | n, [] => n
  | n, .start _ :: es => openAfter (n + 1) es
  | n, .stop :: es => openAfter (n - 1) es
  | n, _ :: es => openAfter n es

theorem openAfter_single {e : Event d} (h : e.isSingle = true) (n : Nat) (es : List (Event d)) :
    openAfter n (e :: es) = openAfter n es := by
  cases e <;> first | rfl | cases h

/-- Events after which nothing is open are balanced apart from those that follow. -/
theorem balance_append {n : Nat} {es : List (Event d)} (h : openAfter n es = 0)
    (more : List (Event d)) : balance n (es ++ more) = balance n es ++ balance 0 more := by
  induction es generalizing n with
  | nil =>
    rw [openAfter] at h
    rw [h]
    rfl
  | cons e es ih =>
    by_cases he : e.isSingle = true
    · rw [openAfter_single he] at h
      rw [List.cons_append, balance_single he, balance_single he, ih h, List.cons_append]
    · cases e with
      | start tag => exact congrArg (List.cons _) (ih h)
      | stop =>
        cases n with
        | zero => exact ih h
        | succ n => exact congrArg (List.cons _) (ih h)
      | _ => exact absurd rfl he

/-- Events after which nothing is open can be nested apart from the rest. -/
theorem nesting_append {es : List (Event d)} (h : openAfter 0 es = 0) (more : List (Event d)) :
    nesting (es ++ more) = nesting es ++ nesting more := by
  have hevents : partEvents (nesting (es ++ more)) = partEvents (nesting es ++ nesting more) := by
    rw [partEvents_append, partEvents_nesting, partEvents_nesting, partEvents_nesting,
      balance_append h]
  rw [← nesting_partEvents (nesting (es ++ more)), hevents, nesting_partEvents]

theorem partContent_append (ps qs : List (Part d)) :
    partContent (ps ++ qs) = partContent ps ++ partContent qs := by
  induction ps with
  | nil => rfl
  | cons p ps ih => simp [partContent, ih]

theorem forest_append {es : List (Event d)} (h : openAfter 0 es = 0) (more : List (Event d)) :
    forest (es ++ more) = forest es ++ forest more := by
  rw [forest_eq_nesting, forest_eq_nesting es, forest_eq_nesting more, nesting_append h, partForest,
    partContent_append, List.map_append]
  rfl

/-- The text of an event that goes on with the text before it. -/
def Event.run? : Event d → Option String
  | .text s | .html s => some s
  | .softBreak => some "\n"
  | _ => none

/-- A text with nothing open is a paragraph of its own. -/
theorem forest_run {e : Event d} {s : String} (h : e.run? = some s) :
    openAfter 0 [e] = 0 ∧ forest [e] = [.mk .paragraph .empty [.text s]] := by
  cases e with
  | text _ | html _ | softBreak =>
    cases h
    exact ⟨rfl, rfl⟩
  | _ => cases h

/-- Every node of a forest is in normal form, whether its events are nested well or not. A text with
nothing open is a root of its own, a paragraph of that text. -/
theorem forest_in_normal_form (es : List (Event d)) :
    (∀ n ∈ listing (forest es), n.IsNormal) ∧
    ∀ (before after : List (Event d)) (e : Event d) (s : String), es = before ++ e :: after →
      openAfter 0 before = 0 → e.run? = some s →
      forest es = forest before ++ .mk .paragraph .empty [.text s] :: forest after := by
  constructor
  · rw [forest_eq_nesting]
    exact isNormal_partForest (nesting es)
  · rintro before after e s rfl hopen hrun
    obtain ⟨hclosed, hforest⟩ := forest_run hrun
    have hrest : forest (e :: after) = forest [e] ++ forest after := forest_append hclosed after
    rw [forest_append hopen, hrest, hforest]
    rfl

def strayEnd : List (Event .plain) :=
  [.stop, .start (.code none), .text "a", .code "b", .text "c\n", .stop]

def missingEnds : List (Event .plain) :=
  [.start (.image "a.png" ""), .text "x", .softBreak, .start .emphasis, .text "y", .rule]

/-- Stray and missing ends do not keep a forest from its normal form. -/
theorem forest_in_normal_form_ragged :
    (Node.mk .code .empty [.text "abc"] ∈
        listing (forest (strayEnd ++ .softBreak :: missingEnds)) ∧
      (Node.mk .code .empty [.text "abc"]).IsNormal) ∧
    openAfter 0 strayEnd = 0 ∧
    forest (strayEnd ++ .softBreak :: missingEnds) =
      forest strayEnd ++ .mk .paragraph .empty [.text "\n"] :: forest missingEnds := by
  have h := forest_in_normal_form (strayEnd ++ .softBreak :: missingEnds)
  have hmem : Node.mk .code .empty [.text "abc"] ∈
      listing (forest (strayEnd ++ .softBreak :: missingEnds)) := by
    decide +kernel
  exact ⟨⟨hmem, h.1 _ hmem⟩, rfl, h.2 strayEnd missingEnds .softBreak "\n" rfl rfl rfl⟩

end Markup
end DirectiveDocs
