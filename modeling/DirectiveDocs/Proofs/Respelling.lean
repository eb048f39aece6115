import DirectiveDocs.Spec.Decoding
import Mathlib.Data.List.Forall2
import Mathlib.Data.Option.Basic

namespace DirectiveDocs

/-- Two readings that give related results, or both fail, at whatever places. -/
def Decoded.Agree (R : α → β → Prop) (x : Decoded α) (y : Decoded β) : Prop :=
  Option.Rel R x.toOption y.toOption

namespace Decoded.Agree

variable {R : α → β → Prop} {S : γ → δ → Prop} {x : Decoded α} {y : Decoded β}

theorem ok {a : α} {b : β} (h : R a b) : Decoded.Agree R (.ok a) (.ok b) :=
  .some h

theorem error {m m' : Yaml.Misfit} : Decoded.Agree R (.error m) (.error m') :=
  .none

theorem bind {f : α → Decoded γ} {g : β → Decoded δ} (h : Decoded.Agree R x y)
    (hf : ∀ a b, R a b → Decoded.Agree S (f a) (g b)) : Decoded.Agree S (x >>= f) (y >>= g) := by
  cases x <;> cases y <;> cases h
  · exact .none
  · exact hf _ _ ‹_›

theorem map {f : α → γ} {g : β → δ} (h : Decoded.Agree R x y)
    (hf : ∀ a b, R a b → S (f a) (g b)) : Decoded.Agree S (x.map f) (y.map g) := by
  cases x <;> cases y <;> cases h
  · exact .none
  · exact .some (hf _ _ ‹_›)

theorem ite {c : Prop} [Decidable c] {x₁ x₂ : Decoded α} {y₁ y₂ : Decoded β}
    (h₁ : Decoded.Agree R x₁ y₁) (h₂ : Decoded.Agree R x₂ y₂) :
    Decoded.Agree R (if c then x₁ else x₂) (if c then y₁ else y₂) := by
  split
  · exact h₁
  · exact h₂

theorem eq_ok_iff {x y : Decoded α} (h : Decoded.Agree Eq x y) {a : α} :
    x = .ok a ↔ y = .ok a := by
  cases x <;> cases y <;> cases h
  · simp
  · simp_all

end Decoded.Agree

namespace Yaml

/-- What a node stands for in a document of specs. An argument and a body are options too; a value
has no fields. -/
inductive Role where
  | specs | spec | option | options | value
  deriving DecidableEq, Repr

namespace Role

/-- What the items of a sequence stand for. -/
def item : Role → Role
  | specs => spec
  | _ => value

/-- What the value of a key stands for. The keys of an options mapping are names. -/
def entry : Role → String → Role
  | spec, key =>
    if key = "arg" ∨ key = "argument" ∨ key = "body" then option
    else if key = "options" then options
    else value
  | options, _ => option
  | _, _ => value

/-- As `entry`, where a key that is no scalar has no field. -/
def under (role : Role) (key : Option String) : Role :=
  key.elim value role.entry

def spellings : Role → List (String × String)
  | spec => [("alias", "aliases"), ("arg", "argument"), ("doc", "documentation")]
  | option => [("alias", "aliases"), ("doc", "documentation")]
  | _ => []

/-- One key for another: the same one, or the other spelling of its field. -/
def Respells (role : Role) (k k' : String) : Prop :=
  k = k' ∨ (k, k') ∈ role.spellings ∨ (k', k) ∈ role.spellings

instance (role : Role) (k k' : String) : Decidable (role.Respells k k') :=
  inferInstanceAs (Decidable (_ ∨ _ ∨ _))

end Role

/-- The fields of a mapping in a role: which key stands for which, whether a draft has one, and what
its value stands for. -/
structure Fields (role : Role) (F D : Type) where
  ofKey? : String → Option F
  key : F → String
  has : D → F → Bool
  fieldRole : F → Role
  spellings : ∀ p ∈ role.spellings, (ofKey? p.1).isSome ∧ ofKey? p.1 = ofKey? p.2
  entry : ∀ k, role.entry k = (ofKey? k).elim .value fieldRole

theorem Fields.ofKey?_eq {role : Role} (fields : Fields role F D) {k k' : String}
    (h : role.Respells k k') : fields.ofKey? k = fields.ofKey? k' := by
  obtain rfl | h | h := h
  · rfl
  · exact (fields.spellings _ h).2
  · exact (fields.spellings _ h).2.symm

namespace Document

def text? (d : Document) (n : Node) : Option String :=
  match d.target n with
  | .scalar _ _ _ _ s => some s
  | _ => none

theorem toOption_text (d : Document) (expected : String) (path : List Step) (n : Node) :
    (d.text expected path n).toOption = d.text? n := by
  unfold text text?
  cases d.target n <;> rfl

/-- Reads the entries of a mapping field by field. No field may be there twice; other keys are
passed over. -/
def readEntries (d : Document) {role : Role} (fields : Fields role F D)
    (read : Place → List Step → Node → D → F → Decoded D) (place : Place) :
    List (Node × Node) → D → Decoded D
  | [], draft => .ok draft
  | (k, n) :: rest, draft => do
    let key ← d.text "field identifier" place.path k
    match fields.ofKey? key with
    | some field =>
      if fields.has draft field then .error ⟨place, .duplicateField (fields.key field)⟩
      else
        let draft ← read place (place.path ++ [stepTo k]) n draft field
        d.readEntries fields read place rest draft
    | none => d.readEntries fields read place rest draft

section

variable (d d' : Document) (R : Role → Node → Node → Prop)

structure Entry (role : Role) (e e' : Node × Node) : Prop where
  key : Option.Rel role.Respells (d.text? e.1) (d'.text? e'.1)
  value : R (role.under (d.text? e.1)) e.2 e'.2

/-- Nodes of one kind and tag with related parts. Their marks and their anchors may differ. -/
inductive Counterpart (role : Role) : Node → Node → Prop
  | scalar {m m' : Mark} {a a' : Option Nat} {tag : Option String} {style : Style} {s : String} :
      Counterpart role (.scalar m a tag style s) (.scalar m' a' tag style s)
  | sequence {m m' : Mark} {a a' : Option Nat} {tag : Option String} {ns ns' : List Node}
      (items : List.Forall₂ (R role.item) ns ns') :
      Counterpart role (.sequence m a tag ns) (.sequence m' a' tag ns')
  | mapping {m m' : Mark} {a a' : Option Nat} {tag : Option String} {es es' : List (Node × Node)}
      (entries : List.Forall₂ (Entry d d' R role) es es') :
      Counterpart role (.mapping m a tag es) (.mapping m' a' tag es')
  | reference {m m' : Mark} {a a' : Nat} (h : R role (.reference m a) (.reference m' a')) :
      Counterpart role (.reference m a) (.reference m' a')

/-- What related nodes stand for are counterparts, and so are their parts at any depth: an alias may
lead back to a node around it. -/
def IsRespelling : Prop :=
  ∀ role n n', R role n n' → Counterpart d d' R role (d.target n) (d'.target n')

/-- Some keys may be spelled in the other way, each in the role of its mapping. A node that aliases
share is respelled for each of the roles that it is used in. -/
def Respelled : Prop :=
  ∃ R, IsRespelling d d' R ∧ Option.Rel (R .specs) d.root d'.root

/-- A reading of nodes in a role that gives the same result for counterparts, at whatever places. -/
def Agreeing (role : Role) (f g : List Step → Node → Decoded α) : Prop :=
  ∀ path path' n n', Counterpart d d' R role (d.target n) (d'.target n') →
    Decoded.Agree Eq (f path n) (g path' n')

end

variable {d d' : Document} {R : Role → Node → Node → Prop} {role : Role}

theorem isRespelling_self (d : Document) : IsRespelling d d (fun _ => Eq) := by
  rintro role n _ rfl
  cases d.target n with
  | scalar => exact .scalar
  | sequence m a tag ns => exact .sequence (List.forall₂_refl ns)
  | mapping m a tag es =>
    refine .mapping (List.forall₂_same.mpr (fun e _ => ⟨?_, rfl⟩))
    cases d.text? e.1 with
    | none => exact .none
    | some k => exact .some (.inl rfl)
  | reference => exact .reference rfl

/-- What counterparts stand for are counterparts. -/
theorem Counterpart.target (h : IsRespelling d d' R) {n n' : Node}
    (hn : Counterpart d d' R role n n') : Counterpart d d' R role (d.target n) (d'.target n') := by
  cases hn with
  | scalar => exact .scalar
  | sequence items => exact .sequence items
  | mapping entries => exact .mapping entries
  | reference hr => exact h _ _ _ hr

theorem agreeing_text (role : Role) (expected : String) :
    Agreeing d d' R role (d.text expected) (d'.text expected) := by
  intro path path' n n' hn
  unfold text
  generalize d.target n = t, d'.target n' = t' at hn
  cases hn with
  | scalar => exact .ok rfl
  | _ => exact .error

theorem agreeing_bool (role : Role) : Agreeing d d' R role d.bool d'.bool := by
  intro path path' n n' hn
  unfold bool
  generalize d.target n = t, d'.target n' = t' at hn
  cases hn with
  | @scalar m m' a a' tag style s =>
    dsimp only
    cases if holdsBool tag style then Value.bool? s else none
    · exact .error
    · exact .ok rfl
  | _ => exact .error

theorem agree_key {e e' : Node × Node} (he : Entry d d' R role e e') (expected : String)
    (path path' : List Step) :
    Decoded.Agree (fun k k' => role.Respells k k' ∧ R (role.entry k) e.2 e'.2)
      (d.text expected path e.1) (d'.text expected path' e'.1) := by
  obtain ⟨hkey, hvalue⟩ := he
  rw [Decoded.Agree, toOption_text, toOption_text]
  cases hk : d.text? e.1 <;> cases hk' : d'.text? e'.1 <;> rw [hk, hk'] at hkey <;> cases hkey
  · exact .none
  · rw [hk] at hvalue
    exact .some ⟨‹_›, hvalue⟩

theorem agree_items {path path' : List Step} {n n' : Node}
    (hn : Counterpart d d' R role (d.target n) (d'.target n')) :
    Decoded.Agree (List.Forall₂ (R role.item)) (d.items path n) (d'.items path' n') := by
  unfold items
  generalize d.target n = t, d'.target n' = t' at hn
  cases hn with
  | scalar => exact .ite (.ok .nil) .error
  | sequence items => exact .ok items
  | _ => exact .error

theorem agree_entries {expected : String} {path path' : List Step} {n n' : Node}
    (hn : Counterpart d d' R role (d.target n) (d'.target n')) :
    Decoded.Agree (fun es es' => List.Forall₂ (Entry d d' R role) es.2 es'.2)
      (d.entries expected path n) (d'.entries expected path' n') := by
  unfold entries
  generalize d.target n = t, d'.target n' = t' at hn
  cases hn with
  | scalar => exact .ite (.ok .nil) .error
  | mapping entries => exact .ok entries
  | _ => exact .error

variable {f g : List Step → Node → Decoded α}

theorem agree_eachItem (h : IsRespelling d d' R) (hf : Agreeing d d' R role f g)
    {path path' : List Step} {ns ns' : List Node} (hns : List.Forall₂ (R role) ns ns') (i : Nat) :
    Decoded.Agree Eq (eachItem f path i ns) (eachItem g path' i ns') := by
  induction hns generalizing i with
  | nil => exact .ok rfl
  | cons hn _ ih =>
    refine (hf _ _ _ _ (h _ _ _ hn)).bind ?_
    rintro a _ rfl
    refine (ih (i + 1)).bind ?_
    rintro as _ rfl
    exact .ok rfl

theorem agreeing_sequence (h : IsRespelling d d' R) (hf : Agreeing d d' R role.item f g) :
    Agreeing d d' R role (d.sequence f) (d'.sequence g) := by
  intro path path' n n' hn
  exact (agree_items hn).bind (fun ns ns' hns => agree_eachItem h hf hns 0)

theorem agreeing_texts (h : IsRespelling d d' R) (role : Role) :
    Agreeing d d' R role d.texts d'.texts :=
  agreeing_sequence h (agreeing_text role.item "a string")

/-- A value may be null on both sides or on neither. -/
theorem agreeing_optional (h : IsRespelling d d' R) (hf : Agreeing d d' R role f g)
    (holder holder' : Place) :
    Agreeing d d' R role (d.optional f holder) (d'.optional g holder') := by
  intro path path' n n' hn
  have hvalue {n n' : Node} (hn : Counterpart d d' R role n n') :
      Decoded.Agree Eq ((f path n).map some) ((g path' n').map some) :=
    (hf path path' n n' (hn.target h)).map (fun _ _ => congrArg some)
  unfold optional
  generalize d.target n = t, d'.target n' = t' at hn
  cases hn with
  | @scalar m m' a a' tag style s =>
    cases style with
    | plain =>
      cases tag with
      | none => exact .ite (.ok rfl) (hvalue .scalar)
      | some t => exact .ite (.ite (.ok rfl) .error) (hvalue .scalar)
    | _ => exact hvalue .scalar
  | sequence items => exact hvalue (.sequence items)
  | mapping entries => exact hvalue (.mapping entries)
  | reference hr => exact hvalue (.reference hr)

/-- Fields are read alike where their values are: the keys stand for the same fields. -/
theorem agree_readEntries {fields : Fields role F D} {place place' : Place}
    {read read' : Place → List Step → Node → D → F → Decoded D} (h : IsRespelling d d' R)
    (hread : ∀ draft field, Agreeing d d' R (fields.fieldRole field)
      (fun path n => read place path n draft field) (fun path n => read' place' path n draft field))
    {es es' : List (Node × Node)} (hes : List.Forall₂ (Entry d d' R role) es es') (draft : D) :
    Decoded.Agree Eq (d.readEntries fields read place es draft)
      (d'.readEntries fields read' place' es' draft) := by
  induction hes generalizing draft with
  | nil => exact .ok rfl
  | @cons e e' _ _ he _ ih =>
    refine (agree_key he _ _ _).bind ?_
    rintro key key' ⟨hkey, hvalue⟩
    rw [fields.ofKey?_eq hkey]
    rw [fields.entry, fields.ofKey?_eq hkey] at hvalue
    cases hf : fields.ofKey? key' with
    | none => exact ih draft
    | some field =>
      rw [hf] at hvalue
      refine .ite .error ((hread draft field _ _ _ _ (h _ _ _ hvalue)).bind ?_)
      rintro draft _ rfl
      exact ih draft

end Document
end Yaml

open Yaml (Document Role Fields)

variable {d d' : Document} {R : Role → Yaml.Node → Yaml.Node → Prop}

namespace OptionSpec

def fields : Fields .option OptionField OptionDraft where
  ofKey? := OptionField.ofKey?
  key := OptionField.key
  has := OptionDraft.has
  fieldRole _ := .value
  spellings := by decide
  entry k := by
    cases OptionField.ofKey? k <;> rfl

theorem decodeEntries_eq (place : Yaml.Place) (es : List (Yaml.Node × Yaml.Node))
    (draft : OptionDraft) :
    decodeEntries d place es draft = d.readEntries fields (decodeField d) place es draft := by
  induction es generalizing draft with
  | nil => rfl
  | cons e es ih =>
    simp only [decodeEntries, Document.readEntries, ih, fields]
    refine bind_congr (fun key => ?_)
    cases OptionField.ofKey? key <;> rfl

theorem agreeing_decodeField (h : Document.IsRespelling d d' R) (place place' : Yaml.Place)
    (draft : OptionDraft) (field : OptionField) :
    Document.Agreeing d d' R .value (fun path n => decodeField d place path n draft field)
      (fun path n => decodeField d' place' path n draft field) := by
  intro path path' n n' hn
  cases field with
  | valueType =>
    refine (Document.agreeing_text _ _ path path' n n' hn).bind ?_
    rintro tag _ rfl
    exact .ok rfl
  | required =>
    refine (Document.agreeing_bool _ path path' n n' hn).bind ?_
    rintro b _ rfl
    exact .ok rfl
  | doc =>
    refine (Document.agreeing_optional h (Document.agreeing_text _ _) place place'
      path path' n n' hn).bind ?_
    rintro doc _ rfl
    exact .ok rfl
  | aliases =>
    refine (Document.agreeing_texts h _ path path' n n' hn).bind ?_
    rintro aliases _ rfl
    exact .ok rfl

/-- An option is read the same from counterparts. -/
theorem agreeing_decode (h : Document.IsRespelling d d' R) :
    Document.Agreeing d d' R .option (decode d) (decode d') := by
  intro path path' n n' hn
  refine (Document.agree_entries hn).bind ?_
  rintro ⟨m, es⟩ ⟨m', es'⟩ hes
  simp only [decodeEntries_eq]
  refine (Document.agree_readEntries h (agreeing_decodeField h ⟨path, m⟩ ⟨path', m'⟩) hes _).bind ?_
  rintro draft _ rfl
  exact .ok rfl

end OptionSpec

namespace OptionMap

theorem agree_decodeEntries (h : Document.IsRespelling d d' R) (place place' : Yaml.Place)
    {es es' : List (Yaml.Node × Yaml.Node)}
    (hes : List.Forall₂ (Document.Entry d d' R .options) es es') (m : OptionMap) :
    Decoded.Agree Eq (decodeEntries d place es m) (decodeEntries d' place' es' m) := by
  induction hes generalizing m with
  | nil => exact .ok rfl
  | cons he _ ih =>
    refine (Document.agree_key he _ _ _).bind ?_
    rintro name name' ⟨hname, hvalue⟩
    obtain rfl : name = name' := by simpa [Role.Respells, Role.spellings] using hname
    refine (Document.agreeing_optional h (OptionSpec.agreeing_decode h) _ _ _ _ _ _
      (h _ _ _ hvalue)).bind ?_
    rintro option _ rfl
    exact ih _

theorem agreeing_decode (h : Document.IsRespelling d d' R) :
    Document.Agreeing d d' R .options (decode d) (decode d') := by
  intro path path' n n' hn
  unfold decode
  generalize d.target n = t, d'.target n' = t' at hn
  cases hn with
  | @scalar m m' a a' tag style s =>
    refine .ite .error ?_
    dsimp only
    split
    · exact .ok rfl
    · exact .error
  | sequence => exact .ite .error .error
  | mapping entries => exact .ite .error (agree_decodeEntries h _ _ entries .empty)
  | reference => exact .ite .error .error

end OptionMap

namespace Spec

def fields : Fields .spec SpecField SpecDraft where
  ofKey? := SpecField.ofKey?
  key := SpecField.key
  has := SpecDraft.has
  fieldRole
    | .argument | .body => .option
    | .options => .options
    | .name | .aliases | .doc => .value
  spellings := by decide
  entry k := by
    simp only [Role.entry, SpecField.ofKey?]
    split_ifs <;> grind

theorem decodeEntries_eq (place : Yaml.Place) (es : List (Yaml.Node × Yaml.Node))
    (draft : SpecDraft) :
    decodeEntries d place es draft = d.readEntries fields (decodeField d) place es draft := by
  induction es generalizing draft with
  | nil => rfl
  | cons e es ih =>
    simp only [decodeEntries, Document.readEntries, ih, fields]
    refine bind_congr (fun key => ?_)
    cases SpecField.ofKey? key <;> rfl

theorem agreeing_decodeField (h : Document.IsRespelling d d' R) (place place' : Yaml.Place)
    (draft : SpecDraft) (field : SpecField) :
    Document.Agreeing d d' R (fields.fieldRole field)
      (fun path n => decodeField d place path n draft field)
      (fun path n => decodeField d' place' path n draft field) := by
  intro path path' n n' hn
  cases field with
  | name =>
    refine (Document.agreeing_text _ _ path path' n n' hn).bind ?_
    rintro name _ rfl
    exact .ok rfl
  | aliases =>
    refine (Document.agreeing_texts h _ path path' n n' hn).bind ?_
    rintro aliases _ rfl
    exact .ok rfl
  | argument | body =>
    refine (Document.agreeing_optional h (OptionSpec.agreeing_decode h) place place'
      path path' n n' hn).bind ?_
    rintro o _ rfl
    exact .ok rfl
  | options =>
    refine (OptionMap.agreeing_decode h path path' n n' hn).bind ?_
    rintro m _ rfl
    exact .ok rfl
  | doc =>
    refine (Document.agreeing_optional h (Document.agreeing_text _ _) place place'
      path path' n n' hn).bind ?_
    rintro doc _ rfl
    exact .ok rfl

/-- A spec is read the same from counterparts. -/
theorem agreeing_decode (h : Document.IsRespelling d d' R) :
    Document.Agreeing d d' R .spec (decode d) (decode d') := by
  intro path path' n n' hn
  refine (Document.agree_entries hn).bind ?_
  rintro ⟨m, es⟩ ⟨m', es'⟩ hes
  simp only [decodeEntries_eq]
  refine (Document.agree_readEntries h (agreeing_decodeField h ⟨path, m⟩ ⟨path', m'⟩) hes _).bind ?_
  rintro draft _ rfl
  rw [ofDraft, ofDraft]
  cases draft.name
  · exact .error
  · exact .ok rfl

/-- A respelled document holds the same specs, or neither holds any. -/
theorem agree_of_respelled (h : d.Respelled d') :
    Decoded.Agree Eq (decodeAll d) (decodeAll d') := by
  obtain ⟨R, h, hroot⟩ := h
  have hseq : Document.Agreeing d d' R .specs (d.sequence (decode d)) (d'.sequence (decode d')) :=
    Document.agreeing_sequence h (agreeing_decode h)
  unfold decodeAll
  generalize d.root = root, d'.root = root' at hroot
  cases hroot with
  | none => exact .ok rfl
  | some hn => exact hseq [] [] _ _ (h _ _ _ hn)

end Spec
end DirectiveDocs
