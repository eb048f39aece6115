import DirectiveDocs.Proofs.Attempts
import DirectiveDocs.Spec.Decoding
import DirectiveDocs.Yaml.Document
import Mathlib.Data.Finset.Card

namespace DirectiveDocs

/-- Whether a node is a null where a value may be null: a plain scalar that says so, or is left out,
and has no other tag. A scalar that has null's tag and says something else is neither. -/
def Yaml.Node.saysNull? : Yaml.Node → Option Bool
  | .scalar _ _ tag .plain s =>
    if tag = some Tag.null then if Value.isNull s then some true else none
    else some (tag.isNone && (s.isEmpty || Value.isNull s))
  | _ => some false

theorem Yaml.Document.optional_eq_ok_iff {α : Type} {d : Document}
    {f : List Step → Yaml.Node → Decoded α} {holder : Place} {path : List Step} {n : Yaml.Node}
    {o : Option α} :
    d.optional f holder path n = .ok o ↔
      ((d.target n).saysNull? = some true ∧ o = none) ∨
      ((d.target n).saysNull? = some false ∧ ∃ a, f path (d.target n) = .ok a ∧ o = some a) := by
  have hvalue : ∀ n, (f path n).map some = .ok o ↔ ∃ a, f path n = .ok a ∧ o = some a := by
    intro n
    rw [map_eq_ok]
    exact exists_congr (fun a => and_congr_right (fun _ => eq_comm))
  unfold optional
  cases d.target n with
  | scalar m a tag style s =>
    cases style with
    | plain =>
      cases tag with
      | none =>
        by_cases hn : (s.isEmpty || Value.isNull s) = true
        · simp [Node.saysNull?, hn, eq_comm]
        · simp [Node.saysNull?, hn, hvalue]
      | some t =>
        by_cases ht : t = Tag.null
        · by_cases hn : Value.isNull s = true
          · simp [Node.saysNull?, ht, hn, eq_comm]
          · simp [Node.saysNull?, ht, hn]
        · simp [Node.saysNull?, ht, hvalue]
    | _ => simp [Node.saysNull?, hvalue]
  | _ => simp [Node.saysNull?, hvalue]

namespace OptionMap

/-- A map that came from declarations in the given order. -/
structure Records (m : OptionMap) (pairs : List (String × OptionSpec)) : Prop where
  once : (m.entries.map (·.1)).Nodup
  order : m.entries.map (·.1) = (pairs.map (·.1)).eraseDups
  last : ∀ name, m.get? name = (pairs.reverse.find? (fun p => p.1 == name)).map (·.2)
  size : m.size = (pairs.map (·.1)).toFinset.card

theorem find_insertEntry (name key : String) (option : OptionSpec)
    (es : List (String × OptionSpec)) :
    (insertEntry name option es).find? (fun e => e.1 == key) =
      if name = key then some (name, option) else es.find? (fun e => e.1 == key) := by
  induction es with
  | nil => by_cases hk : name = key <;> simp [insertEntry, hk]
  | cons e rest ih =>
    obtain ⟨n, o⟩ := e
    by_cases hn : n = name
    · subst hn
      by_cases hk : n = key <;> simp [insertEntry, hk]
    · rw [insertEntry, if_neg hn, List.find?_cons, List.find?_cons, ih]
      by_cases hk : name = key
      · have hnk : (n == key) = false := by simpa [← hk] using hn
        simp [hnk, hk]
      · simp [hk]

/-- An insertion changes the option of its name and no other one. -/
theorem get_insert (m : OptionMap) (name key : String) (option : OptionSpec) :
    (m.insert name option).get? key = if name = key then some option else m.get? key := by
  simp only [get?, insert, find_insertEntry]
  split <;> rfl

/-- The names of a map are as many as the declared names. -/
theorem size_of_order {m : OptionMap} {pairs : List (String × OptionSpec)}
    (h : m.entries.map (·.1) = (pairs.map (·.1)).eraseDups) :
    m.size = (pairs.map (·.1)).toFinset.card := by
  have hsame : (m.entries.map (·.1)).toFinset = (pairs.map (·.1)).toFinset := by
    ext name
    simp only [h, List.mem_toFinset, List.mem_eraseDups]
  rw [← hsame, List.toFinset_card_of_nodup m.distinct, List.length_map]
  rfl

namespace Records

variable {m : OptionMap} {pairs : List (String × OptionSpec)}

theorem of_order (horder : m.entries.map (·.1) = (pairs.map (·.1)).eraseDups)
    (hlast : ∀ name, m.get? name = (pairs.reverse.find? (fun p => p.1 == name)).map (·.2)) :
    m.Records pairs :=
  ⟨m.distinct, horder, hlast, size_of_order horder⟩

theorem empty : OptionMap.empty.Records [] := by
  apply of_order
  · simp [OptionMap.empty]
  · intro name
    rfl

/-- One more declaration: a new name comes last, and a name that is there keeps its place. -/
theorem insert (h : m.Records pairs) (name : String) (option : OptionSpec) :
    (m.insert name option).Records (pairs ++ [(name, option)]) := by
  apply of_order
  · simp only [OptionMap.insert, names_insertEntry, h.order, List.map_append, List.map_cons,
      List.map_nil, List.eraseDups_append, List.mem_eraseDups]
    by_cases hn : name ∈ pairs.map (·.1)
    · simp [hn, List.removeAll]
    · simp [hn, List.removeAll, List.eraseDups_cons]
  · intro key
    rw [get_insert, h.last, List.reverse_append]
    by_cases hk : name = key
    · simp [hk]
    · simp [hk]

/-- The declarations of a run come after those that the map has already. -/
theorem foldl (h : m.Records pairs) (more : List (String × OptionSpec)) :
    (more.foldl (fun m p => m.insert p.1 p.2) m).Records (pairs ++ more) := by
  induction more generalizing m pairs with
  | nil => simpa using h
  | cons p more ih => simpa using ih (h.insert p.1 p.2)

end Records

/-- A map collected from a list records the list. -/
theorem records_ofList (pairs : List (String × OptionSpec)) : (ofList pairs).Records pairs :=
  Records.empty.foldl pairs

/-- Options that are added to a spec are inserted into its map. -/
theorem options_foldl (pairs : List (String × OptionSpec)) (s : Spec) :
    (pairs.foldl (fun s p => s.withOption p.1 p.2) s).options =
      pairs.foldl (fun m p => m.insert p.1 p.2) s.options := by
  induction pairs generalizing s with
  | nil => rfl
  | cons p pairs ih => exact ih (s.withOption p.1 p.2)

open Yaml (Document Place Step)

/-- What an entry of a mapping declares: an option under the text of its key, the default one for a
null. -/
inductive Declares (d : Document) (place : Place) :
    Yaml.Node × Yaml.Node → String × OptionSpec → Prop
  | bare {k n : Yaml.Node} {name : String} (hname : d.text "a string" place.path k = .ok name)
      (hnull : (d.target n).saysNull? = some true) : Declares d place (k, n) (name, default)
  | given {k n : Yaml.Node} {name : String} {option : OptionSpec}
      (hname : d.text "a string" place.path k = .ok name)
      (hvalue : (d.target n).saysNull? = some false)
      (hoption : OptionSpec.decode d (place.path ++ [Document.stepTo k]) (d.target n) =
        .ok option) : Declares d place (k, n) (name, option)

inductive DeclaresAll (d : Document) (path : List Step) :
    Yaml.Node → List (String × OptionSpec) → Prop
  | null {m : Yaml.Mark} {a : Option Nat} {tag : Option String} {style : Yaml.Style} {s : String}
      (hlocal : tag.any Yaml.Tag.isLocal = false) (hnull : Yaml.scalarValue tag style s = .ok .null) :
      DeclaresAll d path (.scalar m a tag style s) []
  | mapping {m : Yaml.Mark} {a : Option Nat} {tag : Option String}
      {es : List (Yaml.Node × Yaml.Node)} {pairs : List (String × OptionSpec)}
      (hlocal : tag.any Yaml.Tag.isLocal = false)
      (hentries : List.Forall₂ (Declares d ⟨path, m⟩) es pairs) :
      DeclaresAll d path (.mapping m a tag es) pairs

variable {d : Document}

/-- The entries of a mapping are inserted in document order. -/
theorem decodeEntries_eq_ok_iff {place : Place} {es : List (Yaml.Node × Yaml.Node)}
    {m m' : OptionMap} :
    decodeEntries d place es m = .ok m' ↔
      ∃ pairs, List.Forall₂ (Declares d place) es pairs ∧
        pairs.foldl (fun m p => m.insert p.1 p.2) m = m' := by
  induction es generalizing m with
  | nil => simp [decodeEntries, List.forall₂_nil_left_iff]
  | cons e es ih =>
    obtain ⟨k, n⟩ := e
    simp only [decodeEntries, bind_eq_ok, Document.optional_eq_ok_iff, ih]
    constructor
    · rintro ⟨name, hname, option, hoption, pairs, hpairs, hm⟩
      refine ⟨(name, option.getD default) :: pairs, .cons ?_ hpairs, hm⟩
      rcases hoption with ⟨hnull, rfl⟩ | ⟨hvalue, a, ha, rfl⟩
      · exact .bare hname hnull
      · exact .given hname hvalue ha
    · rintro ⟨_ | ⟨p, pairs⟩, hpairs, hm⟩
      · cases hpairs
      · obtain ⟨hp, hrest⟩ := List.forall₂_cons.mp hpairs
        cases hp with
        | bare hname hnull => exact ⟨_, hname, none, .inl ⟨hnull, rfl⟩, pairs, hrest, hm⟩
        | given hname hvalue hoption =>
          exact ⟨_, hname, some _, .inr ⟨hvalue, _, hoption, rfl⟩, pairs, hrest, hm⟩

theorem DeclaresAll.hasLocalTag_eq {path : List Step} {n : Yaml.Node}
    {pairs : List (String × OptionSpec)} (h : DeclaresAll d path n pairs) :
    hasLocalTag n = false := by
  cases h with
  | null hlocal _ => exact hlocal
  | mapping hlocal _ => exact hlocal

/-- A node is read as the map of what it declares. -/
theorem decode_eq_ok_iff {path : List Step} {n : Yaml.Node} {m : OptionMap} :
    decode d path n = .ok m ↔
      ∃ pairs, DeclaresAll d path (d.target n) pairs ∧ ofList pairs = m := by
  unfold decode
  generalize d.target n = n
  by_cases hlocal : hasLocalTag n = true
  · rw [if_pos hlocal]
    constructor
    · intro h
      cases h
    · rintro ⟨pairs, hpairs, _⟩
      exact absurd (hlocal.symm.trans hpairs.hasLocalTag_eq) (by decide)
  · rw [if_neg hlocal]
    have htag : n.tag?.any Yaml.Tag.isLocal = false := by simpa [hasLocalTag] using hlocal
    cases n with
    | scalar mark a tag style s =>
      dsimp only
      split
      · rename_i hnull
        constructor
        · rintro ⟨⟩
          exact ⟨[], .null htag hnull, rfl⟩
        · rintro ⟨pairs, hpairs, rfl⟩
          cases hpairs
          rfl
      · rename_i hnull
        constructor
        · rintro ⟨⟩
        · rintro ⟨pairs, hpairs, _⟩
          cases hpairs with
          | null _ h => exact absurd h hnull
    | mapping mark a tag es =>
      rw [decodeEntries_eq_ok_iff]
      constructor
      · rintro ⟨pairs, hpairs, hm⟩
        exact ⟨pairs, .mapping htag hpairs, hm⟩
      · rintro ⟨pairs, hpairs, hm⟩
        cases hpairs with
        | mapping _ hentries => exact ⟨pairs, hentries, hm⟩
    | sequence | reference =>
      constructor
      · intro h
        cases h
      · rintro ⟨pairs, hpairs, _⟩
        cases hpairs

/-- An option map has each name that was declared once, in the order of the first declarations and
with the option of the last one, however the declarations reach it: by insertions, as a list, through
a spec or from a document. A node of a document is read exactly when it declares options. -/
theorem records_declarations (pairs : List (String × OptionSpec)) :
    (pairs.foldl (fun m p => m.insert p.1 p.2) empty).Records pairs ∧
    (ofList pairs).Records pairs ∧
    (∀ s : Spec, s.options = empty →
      (pairs.foldl (fun s p => s.withOption p.1 p.2) s).options.Records pairs) ∧
    ∀ (d : Document) (path : List Step) (n : Yaml.Node),
      (DeclaresAll d path (d.target n) pairs →
        ∃ m, decode d path n = .ok m ∧ m.Records pairs) ∧
      ∀ m, decode d path n = .ok m →
        ∃ declared, DeclaresAll d path (d.target n) declared ∧ m.Records declared := by
  refine ⟨Records.empty.foldl pairs, records_ofList pairs, ?_, ?_⟩
  · intro s hs
    rw [options_foldl, hs]
    exact Records.empty.foldl pairs
  · intro d path n
    constructor
    · intro hpairs
      exact ⟨ofList pairs, decode_eq_ok_iff.mpr ⟨pairs, hpairs, rfl⟩, records_ofList pairs⟩
    · intro m hm
      obtain ⟨declared, hdeclared, rfl⟩ := decode_eq_ok_iff.mp hm
      exact ⟨declared, hdeclared, records_ofList declared⟩

def twiceDeclared : Yaml.Node :=
  let plain (s : String) : Yaml.Node := .scalar .first none none .plain s
  .mapping .first none none
    [(plain "width", .mapping .first none none [(plain "required", plain "true")]),
      (plain "align", .absent .first), (plain "width", plain "~")]

def twiceDeclaredPairs : List (String × OptionSpec) :=
  [("width", { required := true }), ("align", default), ("width", default)]

/-- The name that is declared twice stands first and has the option of the null. -/
theorem records_declarations_twice :
    (twiceDeclaredPairs.foldl (fun s p => s.withOption p.1 p.2) (Spec.named "figure")).options.Records
      twiceDeclaredPairs ∧
    ∃ m, decode .empty [] twiceDeclared = .ok m ∧ m.Records twiceDeclaredPairs := by
  obtain ⟨_, _, hspec, hread⟩ := records_declarations twiceDeclaredPairs
  have hdeclares : DeclaresAll .empty [] twiceDeclared twiceDeclaredPairs :=
    .mapping rfl (.cons (.given rfl (by decide) (by decide))
      (.cons (.bare rfl (by decide)) (.cons (.bare rfl (by decide)) .nil)))
  exact ⟨hspec (Spec.named "figure") rfl, (hread .empty [] twiceDeclared).1 hdeclares⟩

end OptionMap
end DirectiveDocs
