import DirectiveDocs.Proofs.Collisions
import DirectiveDocs.Proofs.Extension
import DirectiveDocs.Proofs.JsonText
import Mathlib.Logic.Relation

namespace DirectiveDocs

/-- What each task of a batch has given, at the position of its name. A task that is not done has
given nothing yet. -/
abbrev Slots := List (Option (List Node × Diagnostics))

namespace Slots

def Done (slots : Slots) : Prop :=
  none ∉ slots

def merge (slots : Slots) : List (List Node) × List String :=
  ((slots.filterMap id).map (·.1), (slots.filterMap id).flatMap (·.2.errors))

end Slots

namespace Registry

/-- What the task of a name gives: a section, and the messages of a collector of its own. -/
def task (r : Registry) (parse : MarkupParser) (name : String) : List Node × Diagnostics :=
  r.compileDirective parse name .empty

/-- One task gets done. It may be any that is not done yet. -/
inductive Finishes (r : Registry) (parse : MarkupParser) (names : List String) :
    Slots → Slots → Prop
  | task {slots : Slots} {i : Nat} {name : String} (waiting : slots[i]? = some none)
      (named : names[i]? = some name) :
      Finishes r parse names slots (slots.set i (some (r.task parse name)))

/-- Every slot is for one name, and holds what the task of that name gives if it holds anything. -/
structure Kept (r : Registry) (parse : MarkupParser) (names : List String) (slots : Slots) :
    Prop where
  size : slots.length = names.length
  own : ∀ (i : Nat) x, slots[i]? = some (some x) → names[i]?.map (r.task parse) = some x

variable {r : Registry} {parse : MarkupParser} {names : List String} {slots slots' : Slots}

theorem Kept.start : r.Kept parse names (List.replicate names.length none) := by
  refine ⟨List.length_replicate, fun i x h => ?_⟩
  rw [List.getElem?_replicate] at h
  split at h <;> cases h

/-- As long as a task is not done the batch can go on. -/
theorem Kept.progress (h : r.Kept parse names slots) (hd : ¬ slots.Done) :
    ∃ slots', r.Finishes parse names slots slots' := by
  obtain ⟨i, hi⟩ := List.mem_iff_getElem?.mp (not_not.mp hd)
  have hlt : i < names.length := h.size ▸ (List.getElem?_eq_some_iff.mp hi).1
  exact ⟨_, .task hi (List.getElem?_eq_getElem hlt)⟩

/-- Every step does one task, so a batch is done after as many steps as it has names. -/
theorem Finishes.count (hf : r.Finishes parse names slots slots') :
    slots'.count none + 1 = slots.count none := by
  cases hf with
  | @task i name waiting named =>
    obtain ⟨hi, hnone⟩ := List.getElem?_eq_some_iff.mp waiting
    have hpos : 0 < slots.count none := List.count_pos_iff.mpr (hnone ▸ List.getElem_mem hi)
    have hset : (slots.set i (some (r.task parse name))).count none = slots.count none - 1 := by
      rw [List.count_set hi]
      simp [hnone]
    omega

end Registry

namespace Command
open Registry

/-- What is written for a name: an array of the nodes of its section. -/
def entry (specs : List Spec) (name : String) : Json :=
  .array (((ofList specs).compileDirective (Markup.parse .github) name .empty).1.map Node.toJson)

def asked : List String := ["nope", "note"]

end Command
end DirectiveDocs
