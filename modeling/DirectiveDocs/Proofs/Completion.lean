import DirectiveDocs.Proofs.Attempts

namespace DirectiveDocs.Completion

variable {ε α β : Type}

abbrev Progress (β : Type) := List (Option β)

def finish (task : α → Except ε β) (inputs : List α) (progress : Progress β) (i : Nat) :
    Except ε (Progress β) :=
  match inputs[i]? with
  | some a => (task a).map (fun b => progress.set i (some b))
  | none => .ok progress

/-- The results of all tasks, which finish in an order of their positions. -/
def run (task : α → Except ε β) (order : List Nat) (inputs : List α) : Except ε (List β) :=
  (order.foldlM (finish task inputs) (List.replicate inputs.length none)).map (List.filterMap id)

/-- What is there belongs to the input at its position, and nothing is missing for the tasks that have
finished. -/
structure Kept (task : α → Except ε β) (inputs : List α) (finished : List Nat)
    (progress : Progress β) : Prop where
  size : progress.length = inputs.length
  own : ∀ (i : Nat) b, progress[i]? = some (some b) → ∃ a, inputs[i]? = some a ∧ task a = .ok b
  complete : ∀ i ∈ finished, progress[i]? ≠ some none

variable {task : α → Except ε β} {inputs : List α} {finished order : List Nat}
  {progress progress' : Progress β} {i : Nat}

theorem finish_of_input {a : α} (ha : inputs[i]? = some a) :
    finish task inputs progress i = (task a).map (fun b => progress.set i (some b)) := by
  simp only [finish, ha]

theorem finish_of_none (ha : inputs[i]? = none) : finish task inputs progress i = .ok progress := by
  simp only [finish, ha]

theorem Kept.start : Kept task inputs [] (List.replicate inputs.length none) := by
  refine ⟨List.length_replicate, fun i b h => ?_, fun _ h => absurd h List.not_mem_nil⟩
  rw [List.getElem?_replicate] at h
  split at h <;> cases h

/-- A task that finishes puts its result at its own position. -/
theorem Kept.finish (h : Kept task inputs finished progress)
    (hf : finish task inputs progress i = .ok progress') :
    Kept task inputs (finished ++ [i]) progress' := by
  cases ha : inputs[i]? with
  | none =>
    rw [finish_of_none ha] at hf
    cases hf
    refine ⟨h.size, h.own, fun j hj => ?_⟩
    rcases List.mem_append.mp hj with hj | hj
    · exact h.complete j hj
    · obtain rfl := List.mem_singleton.mp hj
      rw [List.getElem?_eq_none (h.size ▸ List.getElem?_eq_none_iff.mp ha)]
      nofun
  | some a =>
    rw [finish_of_input ha] at hf
    obtain ⟨b, hb, rfl⟩ := map_eq_ok.mp hf
    have hi : i < progress.length := h.size ▸ (List.getElem?_eq_some_iff.mp ha).1
    refine ⟨by rw [List.length_set, h.size], fun j c hc => ?_, fun j hj => ?_⟩
    · by_cases hij : i = j
      · subst hij
        rw [List.getElem?_set_self hi] at hc
        cases hc
        exact ⟨a, ha, hb⟩
      · rw [List.getElem?_set_ne hij] at hc
        exact h.own j c hc
    · by_cases hij : i = j
      · subst hij
        rw [List.getElem?_set_self hi]
        nofun
      · rw [List.getElem?_set_ne hij]
        rcases List.mem_append.mp hj with hj | hj
        · exact h.complete j hj
        · exact absurd (List.mem_singleton.mp hj).symm hij

theorem Kept.foldlM (h : Kept task inputs finished progress)
    (hr : order.foldlM (Completion.finish task inputs) progress = .ok progress') :
    Kept task inputs (finished ++ order) progress' := by
  induction order generalizing finished progress with
  | nil =>
    cases hr
    rwa [List.append_nil]
  | cons i order ih =>
    rw [List.foldlM_cons] at hr
    obtain ⟨next, hn, hr⟩ := bind_eq_ok.mp hr
    have hk := ih (h.finish hn) hr
    rwa [List.append_assoc] at hk

theorem exists_map_some (h : none ∉ progress) : ∃ bs : List β, progress = bs.map some := by
  induction progress with
  | nil => exact ⟨[], rfl⟩
  | cons b? rest ih =>
    obtain ⟨bs, rfl⟩ := ih (fun hm => h (List.mem_cons_of_mem b? hm))
    cases b? with
    | none => exact absurd List.mem_cons_self h
    | some b => exact ⟨b :: bs, rfl⟩

/-- A batch that has finished has the result of each task, in the order of the inputs. -/
theorem Kept.results (h : Kept task inputs finished progress)
    (hall : ∀ i < inputs.length, i ∈ finished) :
    List.Forall₂ (fun a b => task a = .ok b) inputs (progress.filterMap id) := by
  have hnone : none ∉ progress := by
    intro hm
    obtain ⟨i, hi⟩ := List.mem_iff_getElem?.mp hm
    have hlt : i < inputs.length := h.size ▸ (List.getElem?_eq_some_iff.mp hi).1
    exact h.complete i (hall i hlt) hi
  obtain ⟨bs, rfl⟩ := exists_map_some hnone
  rw [List.filterMap_map, Function.id_comp, List.filterMap_some, List.forall₂_iff_get]
  refine ⟨by simpa using h.size.symm, fun i hi hi' => ?_⟩
  obtain ⟨a, ha, hb⟩ := h.own i bs[i] (by simp [List.getElem?_eq_getElem hi'])
  rw [List.getElem?_eq_getElem hi] at ha
  cases ha
  exact hb

/-- A batch fails only with what a task of it fails with. -/
theorem foldlM_eq_error {e : ε}
    (h : order.foldlM (Completion.finish task inputs) progress = .error e) :
    ∃ a ∈ inputs, task a = .error e := by
  induction order generalizing progress with
  | nil => cases h
  | cons i order ih =>
    rw [List.foldlM_cons] at h
    rcases bind_eq_error.mp h with hi | ⟨_, _, h⟩
    · cases ha : inputs[i]? with
      | none =>
        rw [finish_of_none ha] at hi
        cases hi
      | some a =>
        rw [finish_of_input ha] at hi
        exact ⟨a, List.mem_of_getElem? ha, map_eq_error.mp hi⟩
    · exact ih h

theorem run_eq_error {e : ε} (h : run task order inputs = .error e) :
    ∃ a ∈ inputs, task a = .error e :=
  foldlM_eq_error (map_eq_error.mp h)

/-- Whatever order the tasks finish in, a batch succeeds just when each task does, and it keeps the
order of the inputs. -/
theorem run_eq_ok_iff (hall : ∀ i < inputs.length, i ∈ order) {bs : List β} :
    run task order inputs = .ok bs ↔ List.Forall₂ (fun a b => task a = .ok b) inputs bs := by
  have results : ∀ {cs}, run task order inputs = .ok cs →
      List.Forall₂ (fun a b => task a = .ok b) inputs cs := by
    intro cs h
    obtain ⟨progress, hp, rfl⟩ := map_eq_ok.mp h
    exact (Kept.start.foldlM hp).results (by simpa using hall)
  constructor
  · exact results
  · intro h
    cases hr : run task order inputs with
    | ok cs => rw [forall₂_ok_unique (results hr) h]
    | error e =>
      obtain ⟨a, ha, he⟩ := run_eq_error hr
      obtain ⟨b, _, hb⟩ := exists_right_of_forall₂ h ha
      rw [hb] at he
      cases he

/-- Tasks that finish one after another from a position on. -/
theorem foldlM_range' (task : α → Except ε β) (before rest : List α) (done : List β)
    (hd : done.length = before.length) :
    (List.range' before.length rest.length).foldlM (Completion.finish task (before ++ rest))
        (done.map some ++ List.replicate rest.length none) =
      (rest.mapM task).map (fun bs => (done ++ bs).map some) := by
  induction rest generalizing before done with
  | nil => simp [Except.map, pure, Except.pure]
  | cons a rest ih =>
    have ha : (before ++ a :: rest)[before.length]? = some a := by simp
    rw [List.length_cons, List.range'_succ, List.foldlM_cons, List.mapM_cons, finish_of_input ha]
    cases task a with
    | error e => rfl
    | ok b =>
      have hset : (done.map some ++ List.replicate (rest.length + 1) none).set before.length
          (some b) = (done ++ [b]).map some ++ List.replicate rest.length none := by
        rw [← hd, List.replicate_succ]
        simp
      have hnext := ih (before ++ [a]) (done ++ [b]) (by simp [hd])
      simp only [List.append_assoc, List.singleton_append, List.length_append,
        List.length_singleton] at hnext
      change List.foldlM (Completion.finish task (before ++ a :: rest))
        ((done.map some ++ List.replicate (rest.length + 1) none).set before.length (some b)) _ = _
      rw [hset, hnext]
      cases rest.mapM task <;> rfl

/-- Tasks that finish in the order of their inputs give what they give one after another. -/
theorem run_range (task : α → Except ε β) (inputs : List α) :
    run task (List.range inputs.length) inputs = inputs.mapM task := by
  have h := foldlM_range' task [] inputs [] rfl
  simp only [List.length_nil, List.nil_append, List.map_nil, ← List.range_eq_range'] at h
  rw [run, h]
  cases inputs.mapM task <;> simp [Except.map]

end DirectiveDocs.Completion
