import DirectiveDocs.Proofs.Attempts
import DirectiveDocs.Spec.Builtin
import DirectiveDocs.Spec.Loading
import Mathlib.Data.List.TakeWhile

namespace DirectiveDocs

namespace Text

/-- Trimming leaves nothing just when there are blanks alone. -/
theorem trimChars_eq_nil_iff {cs : List Char} : trimChars cs = [] ↔ ∀ c ∈ cs, isBlank c = true := by
  rw [trimChars, List.reverse_eq_nil_iff, List.dropWhile_eq_nil_iff]
  constructor
  · intro h c hc
    cases hd : cs.dropWhile isBlank with
    | nil => exact List.dropWhile_eq_nil_iff.mp hd c hc
    | cons x rest =>
      -- the first character that is left is not blank
      have hx := List.head_dropWhile_not isBlank (l := cs) (by simp [hd])
      simp [hd, h x] at hx
  · intro h c hc
    exact h c ((List.dropWhile_sublist isBlank).mem (List.mem_reverse.mp hc))

/-- Trimming leaves nothing of a blank text only. -/
theorem isEmpty_trim (s : String) : (trim s).isEmpty = isBlankText s := by
  rw [Bool.eq_iff_iff, String.isEmpty_iff, isBlankText, List.all_eq_true, ← trimChars_eq_nil_iff,
    trim]
  constructor
  · intro h
    simpa using congrArg String.toList h
  · intro h
    rw [h]

end Text

/-- The items of a sequence are read one after another, each with its position. -/
theorem Yaml.Document.eachItem_eq_mapM {α : Type} (f : List Yaml.Step → Yaml.Node → Decoded α)
    (path : List Yaml.Step) (i : Nat) (ns : List Yaml.Node) :
    eachItem f path i ns = (ns.zipIdx i).mapM (fun p => f (path ++ [.index p.2]) p.1) := by
  induction ns generalizing i with
  | nil => rfl
  | cons n ns ih =>
    rw [List.zipIdx_cons, List.mapM_cons, ← ih]
    rfl

namespace Spec

/-- What a text says of specs: nothing but blanks names none; otherwise each item of the document is
the spec at the same position. -/
inductive Describes (text : String) : List Spec → Prop
  | blank (h : Text.isBlankText text = true) : Describes text []
  | empty {d : Yaml.Document} (h : Text.isBlankText text = false)
      (hd : Yaml.parse? (Text.trim text) = some d) (hr : d.root = none) : Describes text []
  | items {d : Yaml.Document} {root : Yaml.Node} {items : List Yaml.Node} {specs : List Spec}
      (h : Text.isBlankText text = false) (hd : Yaml.parse? (Text.trim text) = some d)
      (hr : d.root = some root) (hi : d.items [] root = .ok items)
      (hs : List.Forall₂ (fun p s => decode d [.index p.2] p.1 = .ok s) items.zipIdx specs) :
      Describes text specs

/-- No spec has a blank name. -/
def AllNamed (specs : List Spec) : Prop :=
  ∀ s ∈ specs, Text.isBlankText s.name = false

instance (specs : List Spec) : Decidable (AllNamed specs) :=
  inferInstanceAs (Decidable (∀ s ∈ specs, Text.isBlankText s.name = false))

theorem AllNamed.append {specs more : List Spec} (h : AllNamed specs) (h' : AllNamed more) :
    AllNamed (specs ++ more) := by
  intro s hs
  rcases List.mem_append.mp hs with hs | hs
  · exact h s hs
  · exact h' s hs

theorem allNamed_builtins : AllNamed builtins := by decide

theorem allNamed_flatten {blocks : List (List Spec)} (h : ∀ specs ∈ blocks, AllNamed specs) :
    AllNamed blocks.flatten := by
  intro s hs
  obtain ⟨specs, hm, hs⟩ := List.mem_flatten.mp hs
  exact h specs hm s hs

/-- Specs are taken as they are when all of them have names. -/
theorem checkNames_eq_ok_iff {specs specs' : List Spec} :
    checkNames specs = .ok specs' ↔ specs = specs' ∧ AllNamed specs' := by
  unfold checkNames
  cases h : specs.findIdx? (fun s => Text.isBlankText s.name) with
  | none =>
    have hn : AllNamed specs := List.findIdx?_eq_none_iff.mp h
    constructor
    · rintro ⟨⟩
      exact ⟨rfl, hn⟩
    · rintro ⟨rfl, _⟩
      rfl
  | some i =>
    constructor
    · rintro ⟨⟩
    · rintro ⟨rfl, hn⟩
      rw [List.findIdx?_eq_none_iff.mpr hn] at h
      cases h

/-- A text gives specs when it is blank, or what is left of it reads as specs whose names are not
blank. -/
theorem load_eq_ok_iff {text : String} {specs : List Spec} :
    load text = .ok specs ↔
      (Text.isBlankText text = true ∧ specs = []) ∨
      (Text.isBlankText text = false ∧ read (Text.trim text) = .ok specs ∧ AllNamed specs) := by
  simp only [load, Text.isEmpty_trim]
  cases hb : Text.isBlankText text with
  | true => simp [eq_comm]
  | false =>
    cases hr : read (Text.trim text) with
    | error e => simp [Except.bind]
    | ok read => simp [Except.bind, checkNames_eq_ok_iff]

theorem read_eq_ok_iff {text : String} {specs : List Spec} :
    read text = .ok specs ↔ ∃ d, Yaml.parse? text = some d ∧ decodeAll d = .ok specs := by
  unfold read
  cases Yaml.parse? text with
  | none => simp
  | some d => cases hd : decodeAll d <;> simp [hd]

/-- A document without a tree has no specs, and any other one has a spec for each item. -/
theorem decodeAll_eq_ok_iff {d : Yaml.Document} {specs : List Spec} :
    decodeAll d = .ok specs ↔
      (d.root = none ∧ specs = []) ∨
      ∃ root items, d.root = some root ∧ d.items [] root = .ok items ∧
        List.Forall₂ (fun p s => decode d [.index p.2] p.1 = .ok s) items.zipIdx specs := by
  unfold decodeAll
  cases d.root with
  | none => simp [eq_comm]
  | some root =>
    simp only [Yaml.Document.sequence, bind_eq_ok, Yaml.Document.eachItem_eq_mapM, mapM_eq_ok_iff]
    simp

/-- A text loads as the specs that it describes when all of them have names. -/
theorem load_eq_ok_iff_describes {text : String} {specs : List Spec} :
    load text = .ok specs ↔ Describes text specs ∧ AllNamed specs := by
  rw [load_eq_ok_iff]
  constructor
  · rintro (⟨hb, rfl⟩ | ⟨hb, hr, hn⟩)
    · exact ⟨.blank hb, fun _ hs => absurd hs List.not_mem_nil⟩
    · obtain ⟨d, hd, hr⟩ := read_eq_ok_iff.mp hr
      rcases decodeAll_eq_ok_iff.mp hr with ⟨hroot, rfl⟩ | ⟨root, items, hroot, hi, hs⟩
      · exact ⟨.empty hb hd hroot, hn⟩
      · exact ⟨.items hb hd hroot hi hs, hn⟩
  · rintro ⟨hd, hn⟩
    cases hd with
    | blank hb => exact Or.inl ⟨hb, rfl⟩
    | empty hb hd hr =>
      exact Or.inr ⟨hb, read_eq_ok_iff.mpr ⟨_, hd, decodeAll_eq_ok_iff.mpr (Or.inl ⟨hr, rfl⟩)⟩, hn⟩
    | items hb hd hr hi hs =>
      exact Or.inr ⟨hb, read_eq_ok_iff.mpr
        ⟨_, hd, decodeAll_eq_ok_iff.mpr (Or.inr ⟨_, _, hr, hi, hs⟩)⟩, hn⟩

/-- No spec of a text that loads has a blank name. -/
theorem allNamed_of_load {text : String} {specs : List Spec} (h : load text = .ok specs) :
    AllNamed specs := by
  rcases load_eq_ok_iff.mp h with ⟨_, rfl⟩ | ⟨_, _, hn⟩
  · exact fun _ hs => absurd hs List.not_mem_nil
  · exact hn

end Spec
end DirectiveDocs
