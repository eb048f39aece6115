import DirectiveDocs.Node.Json
import DirectiveDocs.Proofs.Attempts
import Mathlib.Data.List.Nodup

namespace DirectiveDocs

/-- No object in a value has a key twice, as it is when objects are maps. -/
inductive Json.Keyed : Json → Prop
  | null : Keyed .null
  | bool (b : Bool) : Keyed (.bool b)
  | number (d : Decimal) : Keyed (.number d)
  | string (s : String) : Keyed (.string s)
  | array {items : List Json} (items_keyed : ∀ j ∈ items, Keyed j) : Keyed (.array items)
  | object {members : List (String × Json)} (distinct : (members.map Prod.fst).Nodup)
      (members_keyed : ∀ e ∈ members, Keyed e.2) : Keyed (.object members)

theorem Json.Keyed.lookup {members : List (String × Json)} {key : String} {j : Json}
    (h : ∀ e ∈ members, Keyed e.2) (hj : members.lookup key = some j) : j.Keyed := by
  obtain ⟨before, after, rfl, _⟩ := List.lookup_eq_some_iff.mp hj
  exact h (key, j) (by simp)

/-- A kind in JSON is its tag, or an object with the tag as its only key. -/
inductive Kind.Form (k : Kind) : Json → Prop
  | tag : Form k (.string k.tag)
  | keyed : Form k (.object [(k.tag, .null)])

/-- Attributes in JSON are an object of strings, with the keys in any order. Where there are none
the object may be left out. -/
inductive Attributes.Form (a : Attributes) : Option Json → Prop
  | omitted (none_there : a.entries = []) : Form a none
  | object {es : List (String × String)} (entries : es.Perm a.entries) :
      Form a (some (.object (es.map (fun e => (e.1, .string e.2)))))

mutual

/-- A node in JSON is an object, in which members with other names may stand too, or a sequence of
its kind, attributes and children. -/
inductive Node.Form : Node → Json → Prop
  | object {k : Kind} {a : Attributes} {cs : List Child} {members : List (String × Json)} {j : Json}
      (type : members.lookup "type" = some j) (kind : k.Form j)
      (attributes : a.Form (members.lookup "attributes"))
      (children : ChildrenForm cs (members.lookup "children")) :
      Node.Form (.mk k a cs) (.object members)
  | sequence {k : Kind} {a : Attributes} {cs : List Child} {j : Json} {rest : List Json}
      (short : rest.length ≤ 2) (kind : k.Form j) (attributes : a.Form rest[0]?)
      (children : ChildrenForm cs rest[1]?) : Node.Form (.mk k a cs) (.array (j :: rest))

/-- Children in JSON are a sequence. Where there are none the sequence may be left out. -/
inductive ChildrenForm : List Child → Option Json → Prop
  | omitted : ChildrenForm [] none
  | array {cs : List Child} {items : List Json} (each : List.Forall₂ Child.Form cs items) :
      ChildrenForm cs (some (.array items))

inductive Child.Form : Child → Json → Prop
  | node {n : Node} {j : Json} (form : n.Form j) : Child.Form (.node n) j
  | text (s : String) : Child.Form (.text s) (.string s)

end

namespace Kind

theorem ofTag?_eq_some_iff {t : String} {k : Kind} : ofTag? t = some k ↔ t = k.tag := by
  constructor
  · intro h
    exact (beq_iff_eq.mp (List.find?_some (p := fun k : Kind => k.tag == t) h)).symm
  · rintro rfl
    exact ofTag?_tag k

end Kind

namespace Attributes

theorem perm_insertEntry {key value : String} {es : List (String × String)}
    (h : key ∉ es.map Prod.fst) : (insertEntry key value es).Perm ((key, value) :: es) := by
  induction es with
  | nil => exact .refl _
  | cons e rest ih =>
    obtain ⟨hne, hrest⟩ := not_or.mp (mt List.mem_cons.mpr h)
    simp only [insertEntry, if_neg hne]
    split
    · exact .refl _
    · exact ((ih hrest).cons e).trans (.swap ..)

/-- Insertions keep all entries whose keys are new. -/
theorem perm_foldl_insert {es : List (String × String)} {a : Attributes}
    (h : (es.map Prod.fst ++ a.entries.map Prod.fst).Nodup) :
    (es.foldl (fun a e => a.insert e.1 e.2) a).entries.Perm (es ++ a.entries) := by
  induction es generalizing a with
  | nil => exact .refl _
  | cons e es ih =>
    obtain ⟨hnot, hrest⟩ := List.nodup_cons.mp h
    have hkey : e.1 ∉ a.entries.map Prod.fst := fun hm => hnot (List.mem_append_right _ hm)
    have hp : (a.insert e.1 e.2).entries.Perm (e :: a.entries) := perm_insertEntry hkey
    have hd : (es.map Prod.fst ++ (a.insert e.1 e.2).entries.map Prod.fst).Nodup :=
      (((hp.map Prod.fst).append_left _).nodup_iff).mpr (List.nodup_middle.mpr h)
    exact (ih hd).trans ((hp.append_left es).trans List.perm_middle)

theorem nodup_keys (a : Attributes) : (a.entries.map Prod.fst).Nodup :=
  List.pairwise_map.mpr (a.sorted.imp (fun h => String.ne_of_lt h))

/-- The order of entries tells nothing: attributes are what their entries are. -/
theorem ofList_eq_iff {es : List (String × String)} (h : (es.map Prod.fst).Nodup)
    {a : Attributes} : ofList es = a ↔ es.Perm a.entries := by
  have hp : (ofList es).entries.Perm es := by
    simpa [ofList, empty] using perm_foldl_insert (a := empty) (by simpa [empty] using h)
  constructor
  · rintro rfl
    exact hp.symm
  · intro hes
    refine ext (List.Perm.eq_of_pairwise ?_ (ofList es).sorted a.sorted (hp.trans hes))
    intro x y _ _ hxy hyx
    exact absurd hxy (String.lt_asymm hyx)

end Attributes

namespace Node

theorem decodeTag_iff {t : String} {k : Kind} : decodeTag t = .ok k ↔ t = k.tag := by
  rw [← Kind.ofTag?_eq_some_iff]
  unfold decodeTag
  cases Kind.ofTag? t <;> simp

/-- A kind is read from its forms and from nothing else. -/
theorem decodeKind_iff {j : Json} {k : Kind} : decodeKind j = .ok k ↔ k.Form j := by
  constructor
  · intro h
    unfold decodeKind at h
    split at h
    · rw [decodeTag_iff.mp h]
      exact .tag
    · rename_i tag value
      obtain ⟨k', hk, hv⟩ := bind_eq_ok.mp h
      cases value with
      | null =>
        cases hv
        rw [decodeTag_iff.mp hk]
        exact .keyed
      | _ => cases hv
    · cases h
    · cases h
  · intro h
    cases h with
    | tag => exact decodeTag_iff.mpr rfl
    | keyed => exact bind_eq_ok.mpr ⟨k, decodeTag_iff.mpr rfl, rfl⟩

theorem decodeEntries_iff {members : List (String × Json)} {es : List (String × String)} :
    decodeEntries members = .ok es ↔ members = es.map (fun e => (e.1, .string e.2)) := by
  induction members generalizing es with
  | nil => cases es <;> simp [decodeEntries]
  | cons m rest ih =>
    obtain ⟨key, j⟩ := m
    cases j with
    | string value =>
      simp only [decodeEntries, bind_eq_ok, ih]
      cases es with
      | nil => simp
      | cons e es => simp [Prod.ext_iff, and_comm, and_assoc, eq_comm]
    | _ => cases es <;> simp [decodeEntries]

/-- Attributes are read from their forms and from nothing else. -/
theorem decodeAttributes_iff {j : Json} (hj : j.Keyed) {a : Attributes} :
    decodeAttributes j = .ok a ↔ a.Form (some j) := by
  constructor
  · intro h
    cases hj with
    | object distinct _ =>
      obtain ⟨es, hes, ha⟩ := bind_eq_ok.mp h
      obtain rfl := decodeEntries_iff.mp hes
      have hd : (es.map Prod.fst).Nodup := by simpa [Function.comp_def] using distinct
      exact .object ((Attributes.ofList_eq_iff hd).mp (Except.ok.inj ha))
    | _ => cases h
  · intro h
    cases h with
    | @object es hp =>
      have hd := (hp.map Prod.fst).nodup_iff.mpr a.nodup_keys
      exact bind_eq_ok.mpr ⟨es, decodeEntries_iff.mpr rfl,
        congrArg _ ((Attributes.ofList_eq_iff hd).mpr hp)⟩

def memberOr {α : Type} (absent : α) (read : Json → Except DecodeError α) :
    Option Json → Except DecodeError α
  | some j => read j
  | none => .ok absent

@[simp] theorem memberOr_some {α : Type} (absent : α) (read : Json → Except DecodeError α)
    (j : Json) : memberOr absent read (some j) = read j := rfl

@[simp] theorem memberOr_none {α : Type} (absent : α) (read : Json → Except DecodeError α) :
    memberOr absent read none = .ok absent := rfl

/-- Each member that a draft is made of is read once, whatever stands between. -/
theorem decodeMembers_iff {members : List (String × Json)}
    (distinct : (members.map Prod.fst).Nodup) {d d' : Draft} :
    decodeMembers members d = .ok d' ↔
      memberOr d.kind (fun j => do .ok (some (← decodeKind j))) (members.lookup "type") =
        .ok d'.kind ∧
      memberOr d.attributes decodeAttributes (members.lookup "attributes") = .ok d'.attributes ∧
      memberOr d.children decodeChildren (members.lookup "children") = .ok d'.children := by
  induction members generalizing d with
  | nil =>
    obtain ⟨k, a, cs⟩ := d
    obtain ⟨k', a', cs'⟩ := d'
    simp [decodeMembers, memberOr]
  | cons m rest ih =>
    obtain ⟨key, j⟩ := m
    obtain ⟨hnot, hrest⟩ := List.nodup_cons.mp distinct
    have habsent : rest.lookup key = none := by
      rw [List.lookup_eq_none_iff]
      intro e he
      simpa using fun h : key = e.1 => hnot (List.mem_map.mpr ⟨e, he, h.symm⟩)
    simp only [decodeMembers]
    -- a key with a meaning is in no later member, so its value is final
    split
    · rename_i hk
      subst hk
      simp [bind_eq_ok, ih hrest, List.lookup_cons, habsent, and_left_comm]
    · split
      · rename_i hk
        subst hk
        simp [bind_eq_ok, ih hrest, List.lookup_cons, habsent, and_comm, and_assoc]
      · split
        · rename_i hk
          subst hk
          simp [bind_eq_ok, ih hrest, List.lookup_cons, habsent, ← and_assoc]
        · rename_i ha hc ht
          have hskip : ∀ name : String, key ≠ name →
              ((key, j) :: rest).lookup name = rest.lookup name := by
            intro name hne
            simp [List.lookup_cons, beq_eq_false_iff_ne.mpr hne.symm]
          rw [ih hrest, hskip _ ha, hskip _ hc, hskip _ ht]

theorem finish_iff {d : Draft} {k : Kind} {a : Attributes} {cs : List Child} :
    d.finish = .ok (.mk k a cs) ↔ d = ⟨some k, a, cs⟩ := by
  obtain ⟨kind?, _, _⟩ := d
  cases kind? <;> simp [Draft.finish]

/-- A node as an object has its kind, and may leave its attributes and its children out. -/
theorem decode_object_iff {members : List (String × Json)}
    (distinct : (members.map Prod.fst).Nodup) {k : Kind} {a : Attributes} {cs : List Child} :
    decode (.object members) = .ok (.mk k a cs) ↔
      (∃ j, members.lookup "type" = some j ∧ decodeKind j = .ok k) ∧
      memberOr .empty decodeAttributes (members.lookup "attributes") = .ok a ∧
      memberOr [] decodeChildren (members.lookup "children") = .ok cs := by
  have hkind : memberOr none (fun j => do .ok (some (← decodeKind j))) (members.lookup "type") =
      .ok (some k) ↔ ∃ j, members.lookup "type" = some j ∧ decodeKind j = .ok k := by
    cases members.lookup "type" <;> simp [bind_eq_ok]
  simp only [decode, bind_eq_ok, finish_iff, exists_eq_right, decodeMembers_iff distinct, hkind]

/-- A node as a sequence has its kind first, and two more items at most. -/
theorem decode_array_iff {j : Json} {rest : List Json} {k : Kind} {a : Attributes}
    {cs : List Child} :
    decode (.array (j :: rest)) = .ok (.mk k a cs) ↔
      rest.length ≤ 2 ∧ decodeKind j = .ok k ∧
      memberOr .empty decodeAttributes rest[0]? = .ok a ∧
      memberOr [] decodeChildren rest[1]? = .ok cs := by
  rw [decode]
  match rest with
  | [] => simp [decodeItems, bind_eq_ok, Node.empty]
  | [_] => simp [decodeItems, bind_eq_ok]
  | [_, _] => simp [decodeItems, bind_eq_ok]
  | _ :: _ :: _ :: more => simp [decodeItems, bind_eq_ok]

theorem attributesMember_iff {member? : Option Json} (h : ∀ j ∈ member?, j.Keyed)
    {a : Attributes} : memberOr .empty decodeAttributes member? = .ok a ↔ a.Form member? := by
  cases member? with
  | some j => exact decodeAttributes_iff (h j rfl)
  | none =>
    constructor
    · intro ha
      cases ha
      exact .omitted rfl
    · rintro ⟨ha⟩
      exact congrArg _ (Attributes.ext ha.symm)

/-- The member with the children is read as they are read one by one. -/
theorem childrenMember_iff {member? : Option Json} (h : ∀ j ∈ member?, j.Keyed)
    {cs : List Child}
    (each : ∀ items : List Json, (∀ j ∈ items, j.Keyed) →
      (decodeChildList items = .ok cs ↔ List.Forall₂ Child.Form cs items)) :
    memberOr [] decodeChildren member? = .ok cs ↔ ChildrenForm cs member? := by
  cases member? with
  | some j =>
    constructor
    · intro hc
      cases h j rfl with
      | array keyed => exact .array ((each _ keyed).mp (by simpa [decodeChildren] using hc))
      | _ => simp [decodeChildren] at hc
    · intro hc
      cases hc with
      | array hitems =>
        cases h _ rfl with
        | array keyed => simpa [decodeChildren] using (each _ keyed).mpr hitems
  | none =>
    constructor
    · intro hc
      cases hc
      exact .omitted
    · rintro ⟨⟩
      rfl

theorem decode_string (s : String) (n : Node) : decode (.string s) ≠ .ok n := by
  simp [decode]

theorem childOf_node_iff {j : Json} {n : Node} {read : Except DecodeError Node} :
    childOf j read = .ok (.node n) ↔ read = .ok n := by
  cases read with
  | ok m => simp [childOf]
  | error e => cases j <;> simp [childOf]

/-- A child is read as a text just when it is a string. -/
theorem childOf_text_iff {j : Json} {s : String} :
    childOf j (decode j) = .ok (.text s) ↔ j = .string s := by
  constructor
  · intro h
    cases hd : decode j with
    | ok n => simp [hd, childOf] at h
    | error e =>
      cases j <;> simp [hd, childOf] at h
      rw [h]
  · rintro rfl
    simp [decode, childOf]

mutual

/-- A node is read from its forms and from nothing else: induction on the node. -/
theorem decode_iff : ∀ (n : Node) {j : Json}, j.Keyed → (decode j = .ok n ↔ n.Form j)
  | .mk k a cs, j, hj => by
    have hc := decodeChildList_iff cs
    cases hj with
    | @object members distinct keyed =>
      have hm : ∀ key, ∀ j ∈ members.lookup key, j.Keyed := fun _ _ => Json.Keyed.lookup keyed
      rw [decode_object_iff distinct, attributesMember_iff (hm _), childrenMember_iff (hm _) hc]
      constructor
      · rintro ⟨⟨j, hj, hk⟩, ha, hc⟩
        exact .object hj (decodeKind_iff.mp hk) ha hc
      · rintro (⟨hj, hk, ha, hc⟩ | _)
        exact ⟨⟨_, hj, decodeKind_iff.mpr hk⟩, ha, hc⟩
    | @array items keyed =>
      -- a sequence is read by position; what is left out reads as a member that is left out
      cases items with
      | nil => exact ⟨fun h => by simp [decode, decodeItems] at h, nofun⟩
      | cons j rest =>
        have hm : ∀ i : Nat, ∀ j' ∈ rest[i]?, j'.Keyed := fun i j' hj' =>
          keyed j' (List.mem_cons_of_mem _ (List.mem_of_getElem? hj'))
        rw [decode_array_iff, attributesMember_iff (hm _), childrenMember_iff (hm _) hc,
          decodeKind_iff]
        constructor
        · rintro ⟨hl, hk, ha, hc⟩
          exact .sequence hl hk ha hc
        · rintro (_ | ⟨hl, hk, ha, hc⟩)
          exact ⟨hl, hk, ha, hc⟩
    | _ => exact ⟨fun h => by simp [decode] at h, nofun⟩

theorem childOf_iff : ∀ (c : Child) {j : Json}, j.Keyed →
    (childOf j (decode j) = .ok c ↔ c.Form j)
  | .node n, j, hj => by
    rw [childOf_node_iff, decode_iff n hj]
    exact ⟨.node, fun h => by cases h with | node hn => exact hn⟩
  | .text s, j, _ => by
    rw [childOf_text_iff]
    constructor
    · rintro rfl
      exact .text s
    · rintro ⟨⟩
      rfl

theorem decodeChildList_iff : ∀ (cs : List Child) (items : List Json), (∀ j ∈ items, j.Keyed) →
    (decodeChildList items = .ok cs ↔ List.Forall₂ Child.Form cs items)
  | [], [], _ => by simp [decodeChildList]
  | [], j :: items, _ => by simp [decodeChildList, bind_eq_ok]
  | c :: cs, [], _ => by simp [decodeChildList]
  | c :: cs, j :: items, h => by
    have hj := childOf_iff c (h j List.mem_cons_self)
    have hitems := decodeChildList_iff cs items (fun j' hj' => h j' (List.mem_cons_of_mem _ hj'))
    simp [decodeChildList, bind_eq_ok, hj, hitems]

end

theorem attributes_toJson_form (a : Attributes) : a.Form (some a.toJson) :=
  .object (.refl _)

theorem attributes_toJson_keyed (a : Attributes) : a.toJson.Keyed := by
  refine .object (by simpa [Function.comp_def] using a.nodup_keys) ?_
  intro e he
  obtain ⟨_, _, rfl⟩ := List.mem_map.mp he
  exact .string _

mutual

/-- What a node is written as is one of its forms. -/
theorem toJson_form : ∀ n : Node, n.Form n.toJson
  | .mk k a cs => by
    have hc : ChildrenForm cs (some (.array (childrenToJson cs))) := .array (childrenToJson_form cs)
    rw [toJson]
    by_cases ha : a.isEmpty = true
    · have hnone : a.Form none := .omitted (List.isEmpty_iff.mp ha)
      rw [if_pos ha]
      exact .object rfl .tag hnone hc
    · rw [if_neg ha]
      exact .object rfl .tag (attributes_toJson_form a) hc

theorem childToJson_form : ∀ c : Child, c.Form (childToJson c)
  | .node n => .node (toJson_form n)
  | .text s => .text s

theorem childrenToJson_form : ∀ cs : List Child, List.Forall₂ Child.Form cs (childrenToJson cs)
  | [] => .nil
  | c :: cs => .cons (childToJson_form c) (childrenToJson_form cs)

end

mutual

/-- No node is written with a key twice. -/
theorem toJson_keyed : ∀ n : Node, n.toJson.Keyed
  | .mk k a cs => by
    have hc : (Json.array (childrenToJson cs)).Keyed := .array (childrenToJson_keyed cs)
    rw [toJson]
    have hrest : ∀ e ∈ [("children", Json.array (childrenToJson cs)), ("type", .string k.tag)],
        e.2.Keyed := by
      simp [hc, Json.Keyed.string]
    by_cases ha : a.isEmpty = true
    · rw [if_pos ha]
      exact .object (by simp) hrest
    · rw [if_neg ha]
      exact .object (by simp) (List.forall_mem_cons.mpr ⟨attributes_toJson_keyed a, hrest⟩)

theorem childToJson_keyed : ∀ c : Child, (childToJson c).Keyed
  | .node n => toJson_keyed n
  | .text s => .string s

theorem childrenToJson_keyed : ∀ cs : List Child, ∀ j ∈ childrenToJson cs, j.Keyed
  | [] => nofun
  | c :: cs => List.forall_mem_cons.mpr ⟨childToJson_keyed c, childrenToJson_keyed cs⟩

end

/-- A node is read from each of its forms, its own JSON among them, and from no other value. A text
among the children is never read as a node, and no form of a node as a text. -/
theorem decode_exactly_forms :
    (∀ n : Node, decode n.toJson = .ok n) ∧
    (∀ (n : Node) (j : Json), j.Keyed → (decode j = .ok n ↔ n.Form j)) ∧
    (∀ (c : Child) (j : Json), j.Keyed → (childOf j (decode j) = .ok c ↔ c.Form j)) ∧
    (∀ (s : String) (n : Node), decode (.string s) ≠ .ok n) ∧
    (∀ (n : Node) (j : Json) (s : String), j.Keyed → n.Form j →
      childOf j (decode j) ≠ .ok (.text s)) := by
  refine ⟨fun n => (decode_iff n (toJson_keyed n)).mpr (toJson_form n),
    fun n j hj => decode_iff n hj, fun c j hj => childOf_iff c hj, decode_string, ?_⟩
  intro n j s hj hn ht
  have hnode : childOf j (decode j) = .ok (.node n) := (childOf_iff (.node n) hj).mpr (.node hn)
  rw [hnode] at ht
  cases ht

def linked : Node :=
  (((empty .paragraph).withText "see ").withChild
    (.node (((empty .link).withAttribute "url" "#a").withText "a"))).withNodes [empty .break]

/-- The link as a sequence, in an object with a member of another name. -/
def linkedJson : Json :=
  .object
    [("children", .array
        [.string "see ",
          .array [.string "link", .object [("url", .string "#a")], .array [.string "a"]],
          .object [("attributes", .object []), ("type", .object [("break", .null)])]]),
      ("position", .null), ("type", .string "paragraph")]

theorem linkedJson_keyed : linkedJson.Keyed := by
  have hlink : (Json.array [.string "link", .object [("url", .string "#a")],
      .array [.string "a"]]).Keyed := by
    refine .array ?_
    simp only [List.forall_mem_cons, List.not_mem_nil, false_implies, implies_true, and_true]
    exact ⟨.string _, .object (by simp) (by simp [Json.Keyed.string]),
      .array (by simp [Json.Keyed.string])⟩
  have hbreak : (Json.object [("attributes", .object []),
      ("type", .object [("break", .null)])]).Keyed :=
    .object (by simp) (by simp [Json.Keyed.object, Json.Keyed.null])
  exact .object (by simp) (by
    simp [Json.Keyed.array, Json.Keyed.string, Json.Keyed.null, hlink, hbreak])

theorem linkedJson_form : linked.Form linkedJson := by
  have hlink : Child.Form (.node (((empty .link).withAttribute "url" "#a").withText "a"))
      (.array [.string "link", .object [("url", .string "#a")], .array [.string "a"]]) :=
    .node (.sequence (by simp) .tag (attributes_toJson_form (Attributes.empty.insert "url" "#a"))
      (.array (.cons (.text "a") .nil)))
  have hbreak : Child.Form (.node (empty .break))
      (.object [("attributes", .object []), ("type", .object [("break", .null)])]) :=
    .node (.object rfl .keyed (attributes_toJson_form .empty) .omitted)
  exact .object rfl .tag (.omitted rfl) (.array (.cons (.text "see ") (.cons hlink
    (.cons hbreak .nil))))

/-- The member of another name is passed over, and the link is read from its sequence. -/
theorem decode_exactly_forms_linked :
    linkedJson.Keyed ∧ linked.Form linkedJson ∧ decode linkedJson = .ok linked ∧
    childOf linkedJson (decode linkedJson) = .ok (.node linked) ∧
    ∀ s, childOf linkedJson (decode linkedJson) ≠ .ok (.text s) :=
  ⟨linkedJson_keyed, linkedJson_form,
    (decode_exactly_forms.2.1 linked linkedJson linkedJson_keyed).mpr linkedJson_form,
    (decode_exactly_forms.2.2.1 (.node linked) linkedJson linkedJson_keyed).mpr
      (.node linkedJson_form),
    fun s => decode_exactly_forms.2.2.2.2 linked linkedJson s linkedJson_keyed linkedJson_form⟩

end Node
end DirectiveDocs
