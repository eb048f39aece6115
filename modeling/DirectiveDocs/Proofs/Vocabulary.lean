import DirectiveDocs.Markup.Parser
import DirectiveDocs.Proofs.Preorder

namespace DirectiveDocs

namespace Attributes

theorem get_empty (key : String) : empty.get? key = none :=
  rfl

/-- Only the keys of a list are set by it. -/
theorem get_foldl_insert {key : String} {es : List (String × String)} (h : key ∉ es.map Prod.fst)
    (a : Attributes) : (es.foldl (fun a e => a.insert e.1 e.2) a).get? key = a.get? key := by
  induction es generalizing a with
  | nil => rfl
  | cons e es ih =>
    rw [List.map_cons, List.mem_cons, not_or] at h
    rw [List.foldl_cons, ih h.2, get_insert, if_neg (Ne.symm h.1)]

theorem get_ofList_eq_none {key : String} {es : List (String × String)}
    (h : key ∉ es.map Prod.fst) : (ofList es).get? key = none :=
  (get_foldl_insert h empty).trans (get_empty key)

end Attributes

namespace Node

/-- The nodes below children are those of the child nodes. -/
theorem mem_preorderOfChildren {m : Node} {cs : List Child} :
    m ∈ preorderOfChildren cs ↔ ∃ n, Child.node n ∈ cs ∧ m ∈ n.preorder := by
  simp only [preorderOfChildren_eq, listing, List.mem_flatMap, List.mem_filterMap]
  constructor
  · rintro ⟨n, ⟨c, hc, hn⟩, hm⟩
    cases c with
    | node _ => exact ⟨n, Option.some.inj hn ▸ hc, hm⟩
    | text _ => cases hn
  · rintro ⟨n, hc, hm⟩
    exact ⟨n, ⟨_, hc, rfl⟩, hm⟩

/-- A property of the kind and the attributes of a node, for all nodes of its listing. -/
def Throughout (P : Kind → Attributes → Prop) (n : Node) : Prop :=
  ∀ m ∈ n.preorder, P m.kind m.attributes

theorem throughout_mk {P : Kind → Attributes → Prop} {k : Kind} {a : Attributes} {cs : List Child}
    (h : P k a) (hcs : ∀ n, Child.node n ∈ cs → n.Throughout P) : (mk k a cs).Throughout P := by
  intro m hm
  rcases List.mem_cons.mp hm with rfl | hm
  · exact h
  · obtain ⟨n, hn, hm⟩ := mem_preorderOfChildren.mp hm
    exact hcs n hn m hm

theorem throughout_leaf {P : Kind → Attributes → Prop} {k : Kind} {a : Attributes} (h : P k a)
    (texts : List String) : (mk k a (texts.map .text)).Throughout P :=
  throughout_mk h (by simp)

end Node

namespace Markup

open Node

variable {d : Dialect} {P : Kind → Attributes → Prop}

/-- A property of the nodes that the events of a dialect make, which marks and descriptions keep. -/
structure Admits (d : Dialect) (P : Kind → Attributes → Prop) : Prop where
  tag (tag : Tag d) : P tag.kind (.ofList tag.attributeList)
  bare {k : Kind} (h : k ∈ [Kind.paragraph, .inlineCode, .html, .break, .thematicBreak]) :
    P k .empty
  mark (allowed : d.has .github = true) {k : Kind} {a : Attributes} (h : P k a) (value : String) :
    P k (a.insert "checked" value)
  describe {a : Attributes} (h : P .image a) (text : String) : P .image (a.insert "alt" text)

structure OpenNode.Keeps (P : Kind → Attributes → Prop) (o : OpenNode) : Prop where
  head : P o.kind o.attributes
  inside : ∀ n, Child.node n ∈ o.latest → n.Throughout P

namespace OpenNode.Keeps

variable {o : OpenNode}

theorem ofTag (h : Admits d P) (tag : Tag d) : (OpenNode.ofTag tag).Keeps P :=
  ⟨h.tag tag, fun _ hn => absurd hn List.not_mem_nil⟩

theorem addNode {n : Node} (h : o.Keeps P) (hn : n.Throughout P) : (o.addNode n).Keeps P := by
  refine ⟨h.head, fun m hm => ?_⟩
  rcases List.mem_cons.mp hm with he | hm
  · cases he
    exact hn
  · exact h.inside m hm

/-- Texts are no nodes. -/
theorem addText (h : o.Keeps P) (s : String) : (o.addText s).Keeps P := by
  obtain ⟨kind, attributes, latest⟩ := o
  refine ⟨?_, fun n hn => h.inside n ?_⟩
  · rcases latest with _ | ⟨_ | _, _⟩ <;> exact h.head
  · rcases latest with _ | ⟨_ | _, _⟩ <;> simp_all [OpenNode.addText]

theorem mark (hP : Admits d P) (allowed : d.has .github = true) (h : o.Keeps P) (value : String) :
    (o.setAttribute "checked" value).Keeps P :=
  ⟨hP.mark allowed h.head value, h.inside⟩

theorem close (hP : Admits d P) (h : o.Keeps P) : o.close.Throughout P := by
  have hinside : ∀ n, Child.node n ∈ o.latest.reverse → n.Throughout P :=
    fun n hn => h.inside n (List.mem_reverse.mp hn)
  obtain ⟨kind, attributes, latest⟩ := o
  cases kind with
  | code => exact throughout_leaf h.head [_]
  | image => exact throughout_leaf (hP.describe h.head _) []
  | _ => exact throughout_mk h.head hinside

end OpenNode.Keeps

structure Builder.Keeps (P : Kind → Attributes → Prop) (b : Builder) : Prop where
  stack : ∀ o ∈ b.stack, o.Keeps P
  roots : ∀ n ∈ b.roots, n.Throughout P

namespace Builder.Keeps

variable {b : Builder}

theorem empty : Builder.empty.Keeps P :=
  ⟨fun _ ho => absurd ho List.not_mem_nil, fun _ hn => absurd hn List.not_mem_nil⟩

/-- A change of the innermost open node leaves the nodes around it as they are. -/
theorem replace {o o' : OpenNode} {stack : List OpenNode} {roots : List Node}
    (h : Builder.Keeps P ⟨o :: stack, roots⟩) (ho : o.Keeps P → o'.Keeps P) :
    Builder.Keeps P ⟨o' :: stack, roots⟩ := by
  obtain ⟨hin, hout⟩ := List.forall_mem_cons.mp h.stack
  exact ⟨List.forall_mem_cons.mpr ⟨ho hin, hout⟩, h.roots⟩

theorem addRoot {n : Node} {roots : List Node} (h : Builder.Keeps P ⟨[], roots⟩)
    (hn : n.Throughout P) : Builder.Keeps P ⟨[], n :: roots⟩ :=
  ⟨h.stack, List.forall_mem_cons.mpr ⟨hn, h.roots⟩⟩

theorem addNode {n : Node} (h : b.Keeps P) (hn : n.Throughout P) : (b.addNode n).Keeps P := by
  obtain ⟨stack, roots⟩ := b
  cases stack with
  | nil => exact h.addRoot hn
  | cons o stack => exact h.replace (fun ho => ho.addNode hn)

theorem addText (hP : Admits d P) (h : b.Keeps P) (s : String) : (b.addText s).Keeps P := by
  obtain ⟨stack, roots⟩ := b
  cases stack with
  | nil => exact h.addRoot (throughout_leaf (hP.bare (by simp)) [s])
  | cons o stack => exact h.replace (fun ho => ho.addText s)

theorem close (hP : Admits d P) (h : b.Keeps P) : b.close.Keeps P := by
  obtain ⟨stack, roots⟩ := b
  cases stack with
  | nil => exact h
  | cons o stack =>
    obtain ⟨hin, hout⟩ := List.forall_mem_cons.mp h.stack
    exact Builder.Keeps.addNode ⟨hout, h.roots⟩ (hin.close hP)

theorem mark (hP : Admits d P) (allowed : d.has .github = true) (h : b.Keeps P) (checked : Bool) :
    (b.mark checked).Keeps P := by
  obtain ⟨stack, roots⟩ := b
  cases stack with
  | nil => exact h
  | cons o stack => exact h.replace (fun ho => ho.mark hP allowed _)

/-- Each event keeps the property. -/
theorem process (hP : Admits d P) (h : b.Keeps P) (e : Event d) : (b.process e).Keeps P := by
  cases e with
  | start tag => exact ⟨List.forall_mem_cons.mpr ⟨.ofTag hP tag, h.stack⟩, h.roots⟩
  | stop => exact h.close hP
  | text s => exact h.addText hP s
  | html s => exact h.addText hP s
  | softBreak => exact h.addText hP "\n"
  | code s => exact h.addNode (throughout_leaf (hP.bare (by simp)) [s])
  | inlineHtml s => exact h.addNode (throughout_leaf (hP.bare (by simp)) [s])
  | hardBreak => exact h.addNode (throughout_leaf (hP.bare (by simp)) [])
  | rule => exact h.addNode (throughout_leaf (hP.bare (by simp)) [])
  | taskMarker checked allowed => exact h.mark hP allowed checked
  | footnoteReference _ _ => exact h
  | math _ _ => exact h

theorem foldl (hP : Admits d P) (es : List (Event d)) (h : b.Keeps P) :
    (es.foldl Builder.process b).Keeps P := by
  induction es generalizing b with
  | nil => exact h
  | cons e es ih => exact ih (h.process hP e)

theorem closeAround (hP : Admits d P) {stack : List OpenNode} (h : ∀ o ∈ stack, o.Keeps P)
    {n : Node} (hn : n.Throughout P) : (Builder.closeAround n stack).Throughout P := by
  induction stack generalizing n with
  | nil => exact hn
  | cons o stack ih =>
    obtain ⟨hin, hout⟩ := List.forall_mem_cons.mp h
    exact ih hout ((hin.addNode hn).close hP)

theorem finish (hP : Admits d P) (h : b.Keeps P) : ∀ n ∈ b.finish, n.Throughout P := by
  obtain ⟨stack, roots⟩ := b
  intro n hn
  cases stack with
  | nil => exact h.roots n (List.mem_reverse.mp hn)
  | cons o stack =>
    obtain ⟨hin, hout⟩ := List.forall_mem_cons.mp h.stack
    rcases List.mem_cons.mp (List.mem_reverse.mp hn) with rfl | hn
    · exact closeAround hP hout (hin.close hP)
    · exact h.roots n hn

end Builder.Keeps

/-- What events admit holds of every node of their forest, however they are nested. -/
theorem forest_keeps (hP : Admits d P) {es : List (Event d)} {n : Node}
    (h : n ∈ listing (forest es)) :
    P n.kind n.attributes := by
  obtain ⟨root, hroot, hn⟩ := List.mem_flatMap.mp h
  exact (Builder.Keeps.empty.foldl hP es).finish hP root hroot n hn

/-- The attributes that come with an extension need it. -/
def Dialect.hasKey (d : Dialect) (key : String) : Bool :=
  if key = "identifier" then d.has .headingIds
  else if key = "checked" ∨ key = "kind" then d.has .github
  else true

def Dialect.hasKind (d : Dialect) : Kind → Bool
  | .crossReference => false
  | .div => d.has .footnotes || d.has .metadata
  | .superscript | .subscript => d.has .scripts
  | .table | .tableRow | .tableCell | .delete => d.has .github
  | _ => true

structure Within (d : Dialect) (k : Kind) (a : Attributes) : Prop where
  kind : d.hasKind k = true
  keys : ∀ key, d.hasKey key = false → a.get? key = none

/-- A key that the dialect has may be set. -/
theorem Within.insert {k : Kind} {a : Attributes} (h : Within d k a) {key : String}
    (hkey : d.hasKey key = true) (value : String) : Within d k (a.insert key value) := by
  refine ⟨h.kind, fun key' hk => ?_⟩
  have hne : key ≠ key' := by
    rintro rfl
    exact absurd (hk.symm.trans hkey) (by decide)
  rw [Attributes.get_insert, if_neg hne, h.keys key' hk]

theorem hasKind_tag (tag : Tag d) : d.hasKind tag.kind = true := by
  cases tag <;> simp_all [Tag.kind, Dialect.hasKind]

theorem hasKey_link {url title key : String} (h : key ∈ (linkAttributes url title).map Prod.fst) :
    d.hasKey key = true := by
  have hkey : key = "title" ∨ key = "url" := by
    unfold linkAttributes at h
    split at h
    · exact .inr (List.mem_singleton.mp h)
    · simpa using h
  rcases hkey with rfl | rfl <;> rfl

/-- A tag sets an attribute only when the dialect has it. -/
theorem hasKey_tag {tag : Tag d} {key : String} (h : key ∈ tag.attributeList.map Prod.fst) :
    d.hasKey key = true := by
  cases tag with
  | heading depth id =>
    rcases id with _ | ⟨id, allowed⟩
    · obtain rfl := List.mem_singleton.mp h
      rfl
    · have hkey : key = "depth" ∨ key = "identifier" := by
        simpa [Tag.attributeList] using h
      rcases hkey with rfl | rfl
      · rfl
      · exact allowed
  | blockquote alert =>
    rcases alert with _ | ⟨alert, allowed⟩
    · cases h
    · obtain rfl := List.mem_singleton.mp h
      exact allowed
  | code info =>
    rcases info with _ | info
    · cases h
    · simp only [Tag.attributeList, codeLanguage] at h
      split at h
      · cases h
      · obtain rfl := List.mem_singleton.mp h
        rfl
  | list start =>
    rcases start with _ | start
    · obtain rfl := List.mem_singleton.mp h
      rfl
    · have hkey : key = "ordered" ∨ key = "start" := by
        simpa [Tag.attributeList] using h
      rcases hkey with rfl | rfl <;> rfl
  | table columns _ =>
    obtain rfl := List.mem_singleton.mp h
    rfl
  | tableHead _ =>
    obtain rfl := List.mem_singleton.mp h
    rfl
  | link url title => exact hasKey_link h
  | image url title => exact hasKey_link h
  | _ => cases h

/-- All that events make is in the vocabulary of their dialect. -/
theorem admits_within : Admits d (Within d) where
  tag tag := by
    refine ⟨hasKind_tag tag, fun key hk => Attributes.get_ofList_eq_none (fun h => ?_)⟩
    exact absurd (hk.symm.trans (hasKey_tag h)) (by decide)
  bare h := by
    refine ⟨?_, fun _ _ => rfl⟩
    simp only [List.mem_cons, List.not_mem_nil, or_false] at h
    rcases h with rfl | rfl | rfl | rfl | rfl <;> rfl
  mark allowed _ _ h value := h.insert (show d.hasKey "checked" = true from allowed) value
  describe h text := h.insert rfl text

/-- The kind of a root occurs. -/
theorem occurs_of_root {k : Kind} (es : List (Event d)) (h : (forest es).map Node.kind = [k]) :
    ∃ es : List (Event d), ∃ n ∈ listing (forest es), n.kind = k := by
  obtain ⟨root, hroot, hk⟩ := List.mem_map.mp (h ▸ List.mem_singleton_self k)
  refine ⟨es, root, List.mem_flatMap.mpr ⟨root, hroot, ?_⟩, hk⟩
  rw [preorder_eq]
  exact List.mem_cons_self

/-- A group that is never ended is a node of its kind all the same. -/
theorem occurs_tag (tag : Tag d) :
    ∃ es : List (Event d), ∃ n ∈ listing (forest es), n.kind = tag.kind := by
  refine occurs_of_root [.start tag] ?_
  change [(OpenNode.ofTag tag).close.kind] = [tag.kind]
  cases tag <;> rfl

/-- The kinds that occur are exactly those of the vocabulary. -/
theorem occurs_iff {k : Kind} :
    (∃ es : List (Event d), ∃ n ∈ listing (forest es), n.kind = k) ↔ d.hasKind k = true := by
  constructor
  · rintro ⟨es, n, hn, rfl⟩
    exact (forest_keeps admits_within hn).kind
  · intro h
    cases k with
    | crossReference => cases h
    | div =>
      rcases (Bool.or_eq_true _ _).mp h with h | h
      · exact occurs_tag (.footnote "" h)
      · exact occurs_tag (.metadata h)
    | superscript => exact occurs_tag (.superscript h)
    | subscript => exact occurs_tag (.subscript h)
    | table => exact occurs_tag (.table [] h)
    | tableRow => exact occurs_tag (.tableRow h)
    | tableCell => exact occurs_tag (.tableCell h)
    | delete => exact occurs_tag (.strikethrough h)
    | heading => exact occurs_tag (.heading 1 none)
    | paragraph => exact occurs_tag .paragraph
    | strong => exact occurs_tag .strong
    | emphasis => exact occurs_tag .emphasis
    | inlineCode => exact occurs_of_root [.code ""] rfl
    | code => exact occurs_tag (.code none)
    | link => exact occurs_tag (.link "" "")
    | image => exact occurs_tag (.image "" "")
    | list => exact occurs_tag (.list none)
    | listItem => exact occurs_tag .item
    | blockquote => exact occurs_tag (.blockquote none)
    | thematicBreak => exact occurs_of_root [.rule] rfl
    | «break» => exact occurs_of_root [.hardBreak] rfl
    | html => exact occurs_tag .htmlBlock
    | definitionList => exact occurs_tag .definitionList
    | definitionTerm => exact occurs_tag .definitionTerm
    | definitionDescription => exact occurs_tag .definition

/-- However a text is read as events of its dialect, no node of its forest has an identifier or is a
division, a script or a cross-reference. In the plain dialect there is moreover no table, nothing
deleted, no task and no alert. The kinds that remain do occur. `parse` reads a text as `events`. -/
theorem forest_stays_in_dialect (source : (d : Dialect) → String → List (Event d)) (text : String) :
    (∀ n ∈ listing (forest (source .github text)), n.identifier? = none ∧
      n.kind ∉ [Kind.div, .superscript, .subscript, .crossReference]) ∧
    (∀ n ∈ listing (forest (source .plain text)), n.identifier? = none ∧
      n.kind ∉ [Kind.div, .superscript, .subscript, .crossReference] ∧
      n.kind ∉ [Kind.table, .tableRow, .tableCell, .delete] ∧
      n.attribute? "checked" = none ∧ n.attribute? "kind" = none) ∧
    ∀ (d : Dialect) (k : Kind),
      (∃ es : List (Event d), ∃ n ∈ listing (forest es), n.kind = k) ↔ d.hasKind k = true := by
  have hkind : ∀ {d : Dialect} {es : List (Event d)} {n : Node} {ks : List Kind},
      n ∈ listing (forest es) → (∀ k ∈ ks, d.hasKind k = false) → n.kind ∉ ks := by
    intro d es n ks hn hks hk
    exact absurd ((hks _ hk).symm.trans (forest_keeps admits_within hn).kind) (by decide)
  refine ⟨fun n hn => ?_, fun n hn => ?_, fun _ _ => occurs_iff⟩
  · have h := forest_keeps admits_within hn
    exact ⟨h.keys _ rfl, hkind hn (by decide)⟩
  · have h := forest_keeps admits_within hn
    exact ⟨h.keys _ rfl, hkind hn (by decide), hkind hn (by decide), h.keys _ rfl, h.keys _ rfl⟩

def taskText : String := "# a\n\n- [x] b"

theorem forest_stays_in_dialect_task :
    (∃ n ∈ listing (parse .github taskText), n.kind = .listItem ∧
      n.attribute? "checked" = some "true" ∧ n.identifier? = none) ∧
    ∃ n ∈ listing (parse .plain taskText), n.kind = .listItem ∧
      n.attribute? "checked" = none ∧ n.identifier? = none := by
  have hg : Node.mk .listItem (.ofList [("checked", "true")]) [.text "b"] ∈
      listing (parse .github taskText) := by
    decide +kernel
  have hp : Node.mk .listItem .empty [.text "[x] b"] ∈ listing (parse .plain taskText) := by
    decide +kernel
  obtain ⟨hgithub, hplain, _⟩ := forest_stays_in_dialect events taskText
  obtain ⟨hid, _, _, hchecked, _⟩ := hplain _ hp
  exact ⟨⟨_, hg, rfl, rfl, (hgithub _ hg).1⟩, _, hp, rfl, hchecked, hid⟩

end Markup
end DirectiveDocs
