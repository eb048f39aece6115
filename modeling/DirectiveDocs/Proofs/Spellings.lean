import DirectiveDocs.Proofs.OptionOrder
import DirectiveDocs.Proofs.Loading
import DirectiveDocs.Proofs.Respelling
import Mathlib.Data.List.Pairwise

namespace DirectiveDocs

namespace Yaml

namespace Role

theorem under_eq_value {role : Role} (hs : role ≠ spec) (ho : role ≠ options)
    (key : Option String) : role.under key = value := by
  cases role <;> cases key <;> first | rfl | contradiction

theorem ne_of_mem_spellings {role : Role} {p : String × String} (h : p ∈ role.spellings) :
    p.1 ≠ p.2 := by
  have hall : ∀ p ∈ role.spellings, p.1 ≠ p.2 := by cases role <;> decide
  exact hall p h

end Role

namespace Document

section

variable (d d' : Document) (uses : Nat → Role → Bool)

/-- Whether a key may stand in the place of another: it has a text when that one has, and says the
same or is the other spelling of its field. -/
def respellsKey (role : Role) (k k' : Node) : Bool :=
  match d.text? k, d'.text? k' with
  | some k, some k' => decide (role.Respells k k')
  | none, none => true
  | _, _ => false

mutual

/-- Whether a tree is another one with some keys in the other spelling, each in the role of its
mapping. An alias stays as it is, and has one of the roles that are told for it. -/
def respells (role : Role) : Node → Node → Bool
  | .scalar _ _ tag style s, n =>
    match n with
    | .scalar _ _ tag' style' s' => tag == tag' && style == style' && s == s'
    | _ => false
  | .sequence _ _ tag ns, n =>
    match n with
    | .sequence _ _ tag' ns' => tag == tag' && respellsItems role.item ns ns'
    | _ => false
  | .mapping _ _ tag es, n =>
    match n with
    | .mapping _ _ tag' es' => tag == tag' && respellsEntries role es es'
    | _ => false
  | .reference _ a, n =>
    match n with
    | .reference _ a' => a == a' && uses a role
    | _ => false

def respellsItems (role : Role) : List Node → List Node → Bool
  | [], ns' => ns'.isEmpty
  | n :: ns, ns' =>
    match ns' with
    | [] => false
    | n' :: ns' => respells role n n' && respellsItems role ns ns'

def respellsEntries (role : Role) : List (Node × Node) → List (Node × Node) → Bool
  | [], es' => es'.isEmpty
  | (k, n) :: es, es' =>
    match es' with
    | [] => false
    | (k', n') :: es' =>
      respellsKey d d' role k k' && respells (role.under (d.text? k)) n n' &&
        respellsEntries role es es'

end

/-- Documents whose trees differ at most in the spelling of keys. So do the nodes that their aliases
stand for, in every role that an alias has. -/
structure SpelledOver : Prop where
  root : Option.Rel (fun n n' => respells d d' uses .specs n n' = true) d.root d'.root
  aliases : ∀ a role, uses a role = true → ∀ m m',
    respells d d' uses role (d.target (.reference m a)) (d'.target (.reference m' a)) = true

end

variable {d d' : Document} {uses : Nat → Role → Bool} {role : Role}

theorem forall₂_of_respellsItems {ns ns' : List Node}
    (h : respellsItems d d' uses role ns ns' = true) :
    List.Forall₂ (fun n n' => respells d d' uses role n n' = true) ns ns' := by
  induction ns generalizing ns' with
  | nil =>
    obtain rfl : ns' = [] := by simpa [respellsItems] using h
    exact .nil
  | cons n ns ih =>
    cases ns' with
    | nil => cases h
    | cons n' ns' =>
      simp only [respellsItems, Bool.and_eq_true] at h
      exact .cons h.1 (ih h.2)

theorem rel_of_respellsKey {k k' : Node} (h : respellsKey d d' role k k' = true) :
    Option.Rel role.Respells (d.text? k) (d'.text? k') := by
  unfold respellsKey at h
  split at h
  · rename_i hk hk'
    rw [hk, hk']
    exact .some (of_decide_eq_true h)
  · rename_i hk hk'
    rw [hk, hk']
    exact .none
  · cases h

theorem forall₂_of_respellsEntries {es es' : List (Node × Node)}
    (h : respellsEntries d d' uses role es es' = true) :
    List.Forall₂ (Entry d d' (fun role n n' => respells d d' uses role n n' = true) role)
      es es' := by
  induction es generalizing es' with
  | nil =>
    obtain rfl : es' = [] := by simpa [respellsEntries] using h
    exact .nil
  | cons e es ih =>
    obtain ⟨k, n⟩ := e
    cases es' with
    | nil => cases h
    | cons e' es' =>
      simp only [respellsEntries, Bool.and_eq_true] at h
      exact .cons ⟨rel_of_respellsKey h.1.1, h.1.2⟩ (ih h.2)

theorem counterpart_of_respells {n n' : Node} (h : respells d d' uses role n n' = true) :
    Counterpart d d' (fun role n n' => respells d d' uses role n n' = true) role n n' := by
  cases n with
  | scalar m a tag style s =>
    cases n' with
    | scalar m' a' tag' style' s' =>
      simp only [respells, Bool.and_eq_true, beq_iff_eq] at h
      obtain ⟨⟨rfl, rfl⟩, rfl⟩ := h
      exact .scalar
    | _ => cases h
  | sequence m a tag ns =>
    cases n' with
    | sequence m' a' tag' ns' =>
      simp only [respells, Bool.and_eq_true, beq_iff_eq] at h
      obtain ⟨rfl, hns⟩ := h
      exact .sequence (forall₂_of_respellsItems hns)
    | _ => cases h
  | mapping m a tag es =>
    cases n' with
    | mapping m' a' tag' es' =>
      simp only [respells, Bool.and_eq_true, beq_iff_eq] at h
      obtain ⟨rfl, hes⟩ := h
      exact .mapping (forall₂_of_respellsEntries hes)
    | _ => cases h
  | reference m a =>
    cases n' with
    | reference m' a' => exact .reference h
    | _ => cases h

/-- Trees that spell some keys in the other way are respellings, with aliases or without. -/
theorem SpelledOver.respelled (h : SpelledOver d d' uses) : d.Respelled d' := by
  refine ⟨fun role n n' => respells d d' uses role n n' = true, ?_, h.root⟩
  intro role n n' hn
  cases counterpart_of_respells hn with
  | scalar => exact .scalar
  | sequence items => exact .sequence items
  | mapping entries => exact .mapping entries
  | reference =>
    simp only [respells, Bool.and_eq_true, beq_iff_eq] at hn
    obtain ⟨rfl, huse⟩ := hn
    exact counterpart_of_respells (h.aliases _ _ huse _ _)

inductive Reaches (d : Document) : Role → Node → Prop
  | root {n : Node} (h : d.root = some n) : d.Reaches .specs n
  | item {role : Role} {n n' : Node} {m : Mark} {a : Option Nat} {tag : Option String}
      {ns : List Node} (hn : d.Reaches role n) (ht : d.target n = .sequence m a tag ns)
      (h : n' ∈ ns) : d.Reaches role.item n'
  | value {role : Role} {n : Node} {e : Node × Node} {m : Mark} {a : Option Nat}
      {tag : Option String} {es : List (Node × Node)} (hn : d.Reaches role n)
      (ht : d.target n = .mapping m a tag es) (h : e ∈ es) :
      d.Reaches (role.under (d.text? e.1)) e.2

/-- A node that can be read as what it stands for. -/
def Accepts (d : Document) : Role → Node → Prop
  | .specs, n => ∃ path specs, d.sequence (Spec.decode d) path n = .ok specs
  | .spec, n => ∃ path s, Spec.decode d path n = .ok s
  | .option, n => ∃ holder path o, d.optional (OptionSpec.decode d) holder path n = .ok o
  | .options, n => ∃ path m, OptionMap.decode d path n = .ok m
  | .value, _ => True

theorem text_eq_ok_iff {expected : String} {path : List Step} {n : Node} {s : String} :
    d.text expected path n = .ok s ↔ d.text? n = some s := by
  rw [← toOption_eq_some_iff, toOption_text]

section

variable {role : Role} {fields : Fields role F D} {place : Place} {draft draft' : D}
  {read : Place → List Step → Node → D → F → Decoded D}

/-- What the first entry of a mapping does: its key is a text, and its value is read where the key
stands for a field that the draft does not have. -/
theorem readEntries_cons_eq_ok {e : Node × Node} {es : List (Node × Node)}
    (h : d.readEntries fields read place (e :: es) draft = .ok draft') :
    ∃ key, d.text? e.1 = some key ∧
      ((fields.ofKey? key = none ∧ d.readEntries fields read place es draft = .ok draft') ∨
      ∃ field next, fields.ofKey? key = some field ∧ fields.has draft field = false ∧
        read place (place.path ++ [stepTo e.1]) e.2 draft field = .ok next ∧
        d.readEntries fields read place es next = .ok draft') := by
  obtain ⟨k, n⟩ := e
  obtain ⟨key, hkey, h⟩ := bind_eq_ok.mp h
  refine ⟨key, text_eq_ok_iff.mp hkey, ?_⟩
  cases hf : fields.ofKey? key with
  | none => exact .inl ⟨rfl, by simpa only [hf] using h⟩
  | some field =>
    simp only [hf] at h
    split at h
    · cases h
    · rename_i hnew
      obtain ⟨next, hread, h⟩ := bind_eq_ok.mp h
      exact .inr ⟨field, next, rfl, Bool.eq_false_of_not_eq_true hnew, hread, h⟩

/-- The value of every field of a mapping that is read has been read. -/
theorem exists_read_of_mem {es : List (Node × Node)}
    (h : d.readEntries fields read place es draft = .ok draft') {e : Node × Node} (he : e ∈ es) :
    ∃ key, d.text? e.1 = some key ∧ ∀ field, fields.ofKey? key = some field →
      ∃ path draft draft', read place path e.2 draft field = .ok draft' := by
  induction es generalizing draft with
  | nil => cases he
  | cons e₀ es ih =>
    obtain ⟨key, hkey, h⟩ := readEntries_cons_eq_ok h
    cases he with
    | head =>
      refine ⟨key, hkey, ?_⟩
      intro field hfield
      rcases h with ⟨hnone, _⟩ | ⟨field', next, hfield', _, hread, _⟩
      · rw [hnone] at hfield
        cases hfield
      · rw [hfield'] at hfield
        cases hfield
        exact ⟨_, _, _, hread⟩
    | tail _ he =>
      rcases h with ⟨_, h⟩ | ⟨_, _, _, _, _, h⟩
      · exact ih h he
      · exact ih h he

/-- Reading a field gives the draft that field and no other. -/
def Adds (fields : Fields role F D) (read : Place → List Step → Node → D → F → Decoded D) : Prop :=
  ∀ place path n draft field draft', read place path n draft field = .ok draft' →
    ∀ f, fields.has draft' f = true ↔ fields.has draft f = true ∨ f = field

def fieldOf (d : Document) (fields : Fields role F D) (k : Node) : Option F :=
  (d.text? k).bind fields.ofKey?

/-- Entries that are not for one field. -/
def Apart (d : Document) (fields : Fields role F D) (e e' : Node × Node) : Prop :=
  ∀ f, d.fieldOf fields e.1 = some f → d.fieldOf fields e'.1 ≠ some f

instance : Std.Symm (d.Apart fields) where
  symm _ _ h f hf hf' := h f hf' hf

/-- A mapping that is read has no field twice, and none that the draft had before. -/
theorem apart_of_readEntries (hadds : Adds fields read) {es : List (Node × Node)}
    (h : d.readEntries fields read place es draft = .ok draft') :
    es.Pairwise (d.Apart fields) ∧
      ∀ e ∈ es, ∀ f, d.fieldOf fields e.1 = some f → fields.has draft f = false := by
  induction es generalizing draft with
  | nil => exact ⟨.nil, fun _ he => nomatch he⟩
  | cons e es ih =>
    obtain ⟨key, hkey, h⟩ := readEntries_cons_eq_ok h
    have hfirst : d.fieldOf fields e.1 = fields.ofKey? key := by rw [fieldOf, hkey]; rfl
    simp only [List.pairwise_cons, List.forall_mem_cons, Apart, hfirst]
    rcases h with ⟨hnone, h⟩ | ⟨field, next, hsome, hnew, hread, h⟩
    · obtain ⟨hpairs, hfresh⟩ := ih h
      simp only [hnone]
      exact ⟨⟨fun _ _ _ hf => (nomatch hf), hpairs⟩, fun _ hf => (nomatch hf), hfresh⟩
    · obtain ⟨hpairs, hfresh⟩ := ih h
      -- the rest is new to a draft that has the first field already
      have hrest : ∀ e' ∈ es, ∀ f, d.fieldOf fields e'.1 = some f →
          fields.has draft f = false ∧ f ≠ field := by
        intro e' he' f hf
        have hstep := hadds _ _ _ _ _ _ hread f
        simpa [hfresh e' he' f hf] using hstep
      simp only [hsome, Option.some.injEq]
      refine ⟨⟨?_, hpairs⟩, ?_, fun e' he' f hf => (hrest e' he' f hf).1⟩
      · rintro e' he' f rfl hf
        exact (hrest e' he' _ hf).2 rfl
      · rintro f rfl
        exact hnew

/-- Keys with both spellings of one field. -/
def HasBoth (d : Document) (role : Role) (es : List (Node × Node)) : Prop :=
  ∃ p ∈ role.spellings, ∃ e ∈ es, ∃ e' ∈ es, d.text? e.1 = some p.1 ∧ d.text? e'.1 = some p.2

/-- A mapping with both spellings of one field is not read. -/
theorem readEntries_ne_ok (hadds : Adds fields read) {es : List (Node × Node)}
    (hboth : d.HasBoth role es) : d.readEntries fields read place es draft ≠ .ok draft' := by
  intro h
  obtain ⟨p, hp, e, he, e', he', hshort, hlong⟩ := hboth
  obtain ⟨hsome, hsame⟩ := fields.spellings p hp
  obtain ⟨field, hfield⟩ := Option.isSome_iff_exists.mp hsome
  have hne : e ≠ e' := by
    rintro rfl
    rw [hshort, Option.some.injEq] at hlong
    exact Role.ne_of_mem_spellings hp hlong
  have hapart := (apart_of_readEntries hadds h).1.forall he he' hne field
  rw [fieldOf, fieldOf, hshort, hlong, Option.bind_some, Option.bind_some, ← hsame] at hapart
  exact hapart hfield hfield

end

theorem entries_of_target {expected : String} {path : List Step} {n : Node} {m : Mark}
    {a : Option Nat} {tag : Option String} {es : List (Node × Node)}
    (ht : d.target n = .mapping m a tag es) : d.entries expected path n = .ok (m, es) := by
  rw [entries, ht]

theorem exists_ok_of_mem {f : List Step → Node → Decoded α} {path : List Step} {i : Nat}
    {ns : List Node} {as : List α} (h : eachItem f path i ns = .ok as) {n : Node} (hn : n ∈ ns) :
    ∃ path a, f path n = .ok a := by
  induction ns generalizing i as with
  | nil => cases hn
  | cons n₀ ns ih =>
    obtain ⟨a, ha, h⟩ := bind_eq_ok.mp h
    obtain ⟨rest, hrest, _⟩ := bind_eq_ok.mp h
    cases hn with
    | head => exact ⟨_, a, ha⟩
    | tail _ hn => exact ih hrest hn

end Document
end Yaml

open Yaml (Document Role)

variable {d d' : Document} {path : List Yaml.Step} {n : Yaml.Node} {mark : Yaml.Mark}
  {a : Option Nat} {tag : Option String} {es : List (Yaml.Node × Yaml.Node)}

namespace OptionSpec

theorem adds_decodeField : Document.Adds fields (decodeField d) := by
  intro place path n draft field draft' h f
  cases field <;> (obtain ⟨_, _, h⟩ := bind_eq_ok.mp h; cases h; cases f) <;>
    simp [fields, OptionDraft.has]

/-- A mapping with both spellings of a field is not an option. -/
theorem decode_ne_ok (ht : d.target n = .mapping mark a tag es) (hboth : d.HasBoth .option es)
    {o : OptionSpec} : decode d path n ≠ .ok o := by
  intro h
  rw [decode, Document.entries_of_target ht] at h
  obtain ⟨_, ⟨⟩, h⟩ := bind_eq_ok.mp h
  obtain ⟨draft, hdraft, _⟩ := bind_eq_ok.mp h
  rw [decodeEntries_eq] at hdraft
  exact Document.readEntries_ne_ok adds_decodeField hboth hdraft

/-- What can be read as an option can be read so at any place. -/
theorem exists_optional (h : d.Accepts .option n) (holder : Yaml.Place) (path : List Yaml.Step) :
    ∃ o, d.optional (decode d) holder path n = .ok o := by
  obtain ⟨holder', path', o, ho⟩ := h
  have hself := Document.isRespelling_self d
  have hagree := Document.agreeing_optional hself (agreeing_decode hself) holder' holder path' path
    n n (hself _ _ _ rfl)
  exact ⟨o, hagree.eq_ok_iff.mp ho⟩

end OptionSpec

namespace OptionMap

/-- The entries of an options mapping are read one by one, whatever their keys say. -/
theorem exists_decodeEntries_iff {place : Yaml.Place} {m : OptionMap} :
    (∃ m', decodeEntries d place es m = .ok m') ↔
      ∀ e ∈ es, (d.text? e.1).isSome ∧ d.Accepts .option e.2 := by
  induction es generalizing m with
  | nil => simp [decodeEntries]
  | cons e es ih =>
    rw [List.forall_mem_cons]
    constructor
    · rintro ⟨m', h⟩
      obtain ⟨name, hname, h⟩ := bind_eq_ok.mp h
      obtain ⟨option, hoption, h⟩ := bind_eq_ok.mp h
      refine ⟨⟨?_, _, _, option, hoption⟩, ih.mp ⟨m', h⟩⟩
      rw [Document.text_eq_ok_iff.mp hname]
      rfl
    · rintro ⟨⟨hname, hoption⟩, hrest⟩
      obtain ⟨name, hname⟩ := Option.isSome_iff_exists.mp hname
      obtain ⟨option, hoption⟩ := OptionSpec.exists_optional hoption place
        (place.path ++ [Document.stepTo e.1])
      obtain ⟨m', hm⟩ := ih.mpr hrest
      exact ⟨m', bind_eq_ok.mpr ⟨name, Document.text_eq_ok_iff.mpr hname,
        bind_eq_ok.mpr ⟨option, hoption, hm⟩⟩⟩

theorem exists_decode_iff (ht : d.target n = .mapping mark a tag es) :
    (∃ m, decode d path n = .ok m) ↔
      tag.any Yaml.Tag.isLocal = false ∧
        ∀ e ∈ es, (d.text? e.1).isSome ∧ d.Accepts .option e.2 := by
  simp only [decode, ht, hasLocalTag, Yaml.Node.tag?]
  cases tag.any Yaml.Tag.isLocal with
  | true => simp
  | false => simpa using exists_decodeEntries_iff

/-- The options of a mapping are named by its keys, each once. -/
theorem names_of_decode (ht : d.target n = .mapping mark a tag es) {m : OptionMap}
    (h : decode d path n = .ok m) :
    ∃ names : List String, es.map (fun e => d.text? e.1) = names.map some ∧
      m.entries.map (·.1) = names.eraseDups := by
  obtain ⟨pairs, hpairs, rfl⟩ := decode_eq_ok_iff.mp h
  refine ⟨pairs.map (·.1), ?_, (records_ofList pairs).order⟩
  rw [ht] at hpairs
  cases hpairs with
  | mapping _ hentries =>
    rw [List.map_map, ← List.forall₂_eq_eq_eq, List.forall₂_map_left_iff,
      List.forall₂_map_right_iff]
    refine hentries.imp ?_
    rintro e p (⟨hname, _⟩ | ⟨hname, _, _⟩)
    · exact Document.text_eq_ok_iff.mp hname
    · exact Document.text_eq_ok_iff.mp hname

end OptionMap

namespace Spec

theorem adds_decodeField : Document.Adds fields (decodeField d) := by
  intro place path n draft field draft' h f
  cases field <;> (obtain ⟨_, _, h⟩ := bind_eq_ok.mp h; cases h; cases f) <;>
    simp [fields, SpecDraft.has]

theorem readEntries_of_decode {s : Spec} (ht : d.target n = .mapping mark a tag es)
    (h : decode d path n = .ok s) :
    ∃ draft, d.readEntries fields (decodeField d) ⟨path, mark⟩ es
      ⟨none, none, none, none, none, none⟩ = .ok draft := by
  rw [decode, Document.entries_of_target ht] at h
  obtain ⟨_, ⟨⟩, h⟩ := bind_eq_ok.mp h
  obtain ⟨draft, hdraft, _⟩ := bind_eq_ok.mp h
  exact ⟨draft, decodeEntries_eq _ _ _ ▸ hdraft⟩

/-- A field that is read has a value of the kind that the field asks for. -/
theorem accepts_of_decodeField {place : Yaml.Place} {draft draft' : SpecDraft} {field : SpecField}
    (h : decodeField d place path n draft field = .ok draft') :
    d.Accepts (fields.fieldRole field) n := by
  cases field with
  | argument | body =>
    obtain ⟨o, ho, _⟩ := bind_eq_ok.mp h
    exact ⟨_, _, o, ho⟩
  | options =>
    obtain ⟨m, hm, _⟩ := bind_eq_ok.mp h
    exact ⟨_, m, hm⟩
  | _ => trivial

/-- Where a document gives specs, all that the reader comes to has been read. -/
theorem accepts_of_reaches {role : Role} {specs : List Spec} (h : decodeAll d = .ok specs)
    (hn : d.Reaches role n) : d.Accepts role n := by
  induction hn with
  | root hr =>
    rw [decodeAll, hr] at h
    exact ⟨[], specs, h⟩
  | @item role n n' m a tag ns _ ht hmem ih =>
    cases role with
    | specs =>
      obtain ⟨path, read, hread⟩ := ih
      rw [Document.sequence, Document.items, ht] at hread
      exact Document.exists_ok_of_mem hread hmem
    | _ => trivial
  | @value role n e m a tag es _ ht hmem ih =>
    by_cases hs : role = .spec
    · subst hs
      obtain ⟨path, s, hread⟩ := ih
      obtain ⟨draft, hdraft⟩ := readEntries_of_decode ht hread
      obtain ⟨key, hkey, hfields⟩ := Document.exists_read_of_mem hdraft hmem
      rw [hkey, Role.under, Option.elim_some, fields.entry]
      cases hf : fields.ofKey? key with
      | none => trivial
      | some field =>
        obtain ⟨_, _, _, hfield⟩ := hfields field hf
        exact accepts_of_decodeField hfield
    · by_cases ho : role = .options
      · subst ho
        obtain ⟨path, options, hread⟩ := ih
        have hentry := ((OptionMap.exists_decode_iff ht).mp ⟨options, hread⟩).2 e hmem
        obtain ⟨key, hkey⟩ := Option.isSome_iff_exists.mp hentry.1
        rw [hkey]
        exact hentry.2
      · rw [Role.under_eq_value hs ho]
        trivial

/-- A document is not read where the reader comes to a mapping with both spellings of a field. -/
theorem decodeAll_ne_ok {role : Role} (hn : d.Reaches role n)
    (ht : d.target n = .mapping mark a tag es) (hboth : d.HasBoth role es) {specs : List Spec} :
    decodeAll d ≠ .ok specs := by
  intro h
  have haccepts := accepts_of_reaches h hn
  cases role with
  | spec =>
    obtain ⟨path, s, hread⟩ := haccepts
    obtain ⟨draft, hdraft⟩ := readEntries_of_decode ht hread
    exact Document.readEntries_ne_ok adds_decodeField hboth hdraft
  | option =>
    obtain ⟨holder, path, o, hread⟩ := haccepts
    rcases Document.optional_eq_ok_iff.mp hread with ⟨hnull, _⟩ | ⟨_, o, ho, _⟩
    · rw [ht] at hnull
      cases hnull
    · rw [ht] at ho
      exact OptionSpec.decode_ne_ok rfl hboth ho
  | _ =>
    obtain ⟨p, hp, _⟩ := hboth
    cases hp

def ofDocument (d : Document) : Except LoadError (List Spec) :=
  ((decodeAll d).mapError .misfit).bind checkNames

/-- A text loads as its document does, if it has one. -/
theorem load_eq (text : String) :
    load text = (Yaml.parse? (Text.trim text)).elim (.error .malformed) ofDocument := by
  have hempty : Yaml.parse? "" = some .empty := by rfl
  unfold load
  dsimp only
  split
  · rename_i h
    rw [String.isEmpty_iff.mp h, hempty]
    rfl
  · rw [read]
    cases Yaml.parse? (Text.trim text) with
    | none => rfl
    | some d =>
      rw [Option.elim_some, ofDocument]
      cases hd : decodeAll d <;> simp only [hd] <;> rfl

end Spec

/-- Failures of one kind; that of a blank name is for one spec. -/
def LoadError.SameKind : LoadError → LoadError → Prop
  | malformed, malformed => True
  | misfit _, misfit _ => True
  | emptyName i, emptyName j => i = j
  | _, _ => False

namespace Spec

inductive SameOutcome : Except LoadError (List Spec) → Except LoadError (List Spec) → Prop
  | specs (specs : List Spec) : SameOutcome (.ok specs) (.ok specs)
  | failure {e e' : LoadError} (h : e.SameKind e') : SameOutcome (.error e) (.error e')

theorem SameOutcome.refl (x : Except LoadError (List Spec)) : SameOutcome x x := by
  cases x with
  | ok specs => exact .specs specs
  | error e =>
    refine .failure ?_
    cases e <;> trivial

/-- Documents that differ in spelling end in the same way. -/
theorem sameOutcome_ofDocument (h : d.Respelled d') :
    SameOutcome (ofDocument d) (ofDocument d') := by
  have hagree := agree_of_respelled h
  rw [ofDocument, ofDocument]
  cases hd : decodeAll d <;> cases hd' : decodeAll d' <;> rw [hd, hd'] at hagree
  · exact .failure trivial
  · cases hagree
  · cases hagree
  · obtain rfl := Option.rel_some_some.mp hagree
    exact .refl _

/-- A document loads in the same way however its keys are spelled: as the same specs, or with a
failure of the same kind. Any keys of its tree may be spelled in the other way, those of a node that
aliases share in a way that fits each use. An options mapping is read entry by entry, whatever its
keys say, and they name the options. A mapping with both spellings of a field makes its document a
misfit. -/
theorem spellings_interchangeable :
    (∀ text, load text = (Yaml.parse? (Text.trim text)).elim (.error .malformed) ofDocument) ∧
    (∀ d d' : Document, d.Respelled d' → SameOutcome (ofDocument d) (ofDocument d')) ∧
    (∀ (d d' : Document) uses, d.SpelledOver d' uses → d.Respelled d') ∧
    (∀ (d : Document) path n mark a tag es, d.target n = .mapping mark a tag es →
      ((∃ m, OptionMap.decode d path n = .ok m) ↔
        tag.any Yaml.Tag.isLocal = false ∧
          ∀ e ∈ es, (d.text? e.1).isSome ∧ d.Accepts .option e.2) ∧
      ∀ m, OptionMap.decode d path n = .ok m →
        ∃ names : List String, es.map (fun e => d.text? e.1) = names.map some ∧
          m.entries.map (·.1) = names.eraseDups) ∧
    ∀ (d : Document) role n mark a tag es, d.Reaches role n → d.target n = .mapping mark a tag es →
      d.HasBoth role es → ∃ m, ofDocument d = .error (.misfit m) := by
  refine ⟨load_eq, fun d d' => sameOutcome_ofDocument,
    fun d d' uses => Document.SpelledOver.respelled, ?_, ?_⟩
  · intro d path n mark a tag es ht
    exact ⟨OptionMap.exists_decode_iff ht, fun m => OptionMap.names_of_decode ht⟩
  · intro d role n mark a tag es hn ht hboth
    rw [ofDocument]
    cases hd : decodeAll d with
    | error m => exact ⟨m, rfl⟩
    | ok specs => exact absurd hd (decodeAll_ne_ok hn ht hboth)

def documentOf (entries : List (Yaml.Node × Yaml.Node)) : Document :=
  let plain (s : String) : Yaml.Node := .scalar .first none none .plain s
  .ofRoot (.sequence .first none none
    [.mapping .first none none ((plain "name", plain "picture") :: entries)])

/-- Entries that spell some fields as they are told. The body is an alias of the argument, and an
option has the name of a field. -/
def pictureEntries (aliases argument doc : String) : List (Yaml.Node × Yaml.Node) :=
  let plain (s : String) : Yaml.Node := .scalar .first none none .plain s
  [(plain aliases, .sequence .first none none [plain "pic"]),
    (plain argument, .mapping .first (some 0) none [(plain doc, plain "A file")]),
    (plain "body", .reference .first 0),
    (plain "options", .mapping .first none none
      [(plain "alias", .mapping .first none none [(plain doc, plain "A text")])])]

def picture : Spec where
  name := "picture"
  aliases := ["pic"]
  argument := some { doc := some "A file" }
  body := some { doc := some "A file" }
  options := OptionMap.empty.insert "alias" { doc := some "A text" }

def shortPicture : Document :=
  documentOf (pictureEntries "alias" "arg" "doc")

def longPicture : Document :=
  documentOf (pictureEntries "aliases" "argument" "documentation")

def bothDocs (n : Yaml.Node) : List (Yaml.Node × Yaml.Node) :=
  let plain (s : String) : Yaml.Node := .scalar .first none none .plain s
  [(plain "doc", .absent .first), (plain "documentation", n)]

def bothDocsMapping : Yaml.Node :=
  .mapping .first none none (bothDocs (.absent .first))

/-- A document whose options have both spellings for names, and one of them has both for fields. -/
def describedTwice : Document :=
  documentOf [(.scalar .first none none .plain "options",
    .mapping .first none none (bothDocs bothDocsMapping))]

theorem spellings_interchangeable_picture :
    (shortPicture.SpelledOver longPicture (fun a role => a == 0 && role == .option) ∧
      shortPicture.Respelled longPicture ∧
      SameOutcome (ofDocument shortPicture) (ofDocument longPicture) ∧
      ofDocument longPicture = .ok [picture]) ∧
    (∃ m, OptionMap.decode .empty [] bothDocsMapping = .ok m ∧
      m.entries.map (·.1) = ["doc", "documentation"]) ∧
    describedTwice.Reaches .option bothDocsMapping ∧
    describedTwice.HasBoth .option (bothDocs (.absent .first)) ∧
    ∃ m, ofDocument describedTwice = .error (.misfit m) := by
  obtain ⟨_, hsame, htrees, hnames, hrejects⟩ := spellings_interchangeable
  have hover : shortPicture.SpelledOver longPicture (fun a role => a == 0 && role == .option) := by
    refine ⟨.some (by decide), ?_⟩
    intro a role huse m m'
    obtain ⟨rfl, rfl⟩ : a = 0 ∧ role = .option := by simpa using huse
    rfl
  have hrespelled := htrees _ _ _ hover
  have hspec := Document.Reaches.item (d := describedTwice) (.root rfl) rfl List.mem_cons_self
  have hoptions := hspec.value rfl (List.mem_cons_of_mem _ List.mem_cons_self)
  have hreaches : describedTwice.Reaches .option bothDocsMapping :=
    hoptions.value rfl (List.mem_cons_of_mem _ List.mem_cons_self)
  have hboth : describedTwice.HasBoth .option (bothDocs (.absent .first)) :=
    ⟨("doc", "documentation"), by decide, _, List.mem_cons_self, _,
      List.mem_cons_of_mem _ List.mem_cons_self, rfl, rfl⟩
  refine ⟨⟨hover, hrespelled, hsame _ _ hrespelled, toOption_eq_some_iff.mp (by decide)⟩, ?_,
    hreaches, hboth, hrejects _ _ _ _ _ _ _ hreaches rfl hboth⟩
  obtain ⟨hread, hname⟩ := hnames .empty [] bothDocsMapping _ _ _ _ rfl
  have hentries : ∀ e ∈ bothDocs (.absent .first),
      (Document.empty.text? e.1).isSome ∧ Document.empty.Accepts .option e.2 := by
    rintro e (_ | ⟨_, _ | ⟨_, ⟨⟩⟩⟩) <;> exact ⟨rfl, ⟨[], .first⟩, [], none, rfl⟩
  obtain ⟨m, hm⟩ := hread.mpr ⟨rfl, hentries⟩
  obtain ⟨names, htexts, horder⟩ := hname m hm
  have hwords : ["doc", "documentation"] = names :=
    List.map_injective_iff.mpr (Option.some_injective String) htexts
  refine ⟨m, hm, ?_⟩
  rw [horder, ← hwords]
  decide

end Spec
end DirectiveDocs
