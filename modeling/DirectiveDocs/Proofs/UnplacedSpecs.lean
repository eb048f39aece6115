import DirectiveDocs.Proofs.Unplaced
import DirectiveDocs.Proofs.Loading
import DirectiveDocs.Proofs.Respelling

namespace DirectiveDocs

namespace Yaml.Document

variable (d : Document)

theorem isRespelling_unplaced :
    IsRespelling d d.unplaced (fun _ n n' => n' = n.unplaced) := by
  rintro role n _ rfl
  rw [target_unplaced]
  have hkey (k : Node) : d.unplaced.text? k.unplaced = d.text? k := by
    rw [text?, text?, target_unplaced]
    cases d.target k <;> rfl
  cases d.target n with
  | scalar m a t style s => exact .scalar
  | sequence m a t ns =>
    refine .sequence ?_
    rw [Node.unplacedItems_eq_map, List.forall₂_map_right_iff]
    exact List.forall₂_same.mpr (fun _ _ => rfl)
  | mapping m a t es =>
    refine .mapping ?_
    rw [Node.unplacedEntries_eq_map, List.forall₂_map_right_iff]
    refine List.forall₂_same.mpr (fun e _ => ⟨?_, rfl⟩)
    rw [Prod.map_fst, hkey]
    cases d.text? e.1 with
    | none => exact .none
    | some k => exact .some (.inl rfl)
  | reference m a => exact .reference rfl

/-- A document without places spells every key as it is. -/
theorem respelled_unplaced : d.Respelled d.unplaced := by
  refine ⟨_, d.isRespelling_unplaced, ?_⟩
  have hroot : d.unplaced.root = d.root.map Node.unplaced := rfl
  rw [hroot]
  cases d.root with
  | none => exact .none
  | some n => exact .some rfl

end Yaml.Document

namespace Spec

open Yaml (Document)

/-- Documents that differ at most in places hold the same specs. -/
theorem decodeAll_eq_ok_of_alike {d d' : Document} (h : d.Alike d') {specs : List Spec}
    (hd : decodeAll d = .ok specs) : decodeAll d' = .ok specs := by
  rw [(agree_of_respelled d.respelled_unplaced).eq_ok_iff, h] at hd
  exact (agree_of_respelled d'.respelled_unplaced).eq_ok_iff.mpr hd

/-- Texts with tokens of the same kinds hold the same specs. -/
theorem read_eq_ok_of_alike {text text' : String} {ts ts' : List Yaml.Token}
    (ht : Yaml.tokens? text = some ts) (ht' : Yaml.tokens? text' = some ts')
    (h : List.Forall₂ Yaml.Token.Alike ts ts') {specs : List Spec}
    (hr : read text = .ok specs) : read text' = .ok specs := by
  obtain ⟨d, hd, hs⟩ := read_eq_ok_iff.mp hr
  have hrel := Yaml.parse?_alike ht ht' h
  rw [hd] at hrel
  generalize hd' : Yaml.parse? text' = x at hrel
  cases hrel with
  | some ha => exact read_eq_ok_iff.mpr ⟨_, hd', decodeAll_eq_ok_of_alike ha hs⟩

end Spec
end DirectiveDocs
