import DirectiveDocs.Reference
import Mathlib.Data.List.TakeWhile

namespace DirectiveDocs

/-- A body that ends with a label in brackets, after any lead. -/
def Bracketed (body lead label : String) : Prop :=
  body = lead ++ "<" ++ label ++ ">" ∧ label ≠ "" ∧
    ∀ c ∈ label.toList, Reference.isBracket c = false

namespace Reference

theorem ofReversed_of_label {back : List Char} (before : List Char) (hne : back ≠ [])
    (hl : ∀ c ∈ back, isBracket c = false) :
    ofReversed? ('>' :: (back ++ '<' :: before)) = some (before.reverse, back.reverse) := by
  have hp : ∀ c ∈ back, (!isBracket c) = true := by
    intro c hc
    rw [hl c hc]
    rfl
  have ht : (back ++ '<' :: before).takeWhile (fun c => !isBracket c) = back := by
    rw [List.takeWhile_append_of_pos hp, List.takeWhile_cons_of_neg (by decide), List.append_nil]
  have hd : (back ++ '<' :: before).dropWhile (fun c => !isBracket c) = '<' :: before := by
    rw [List.dropWhile_append_of_pos hp, List.dropWhile_cons_of_neg (by decide)]
  cases back with
  | nil => exact absurd rfl hne
  | cons c cs => simp only [ofReversed?, ht, hd]

/-- What is read from the end of a body has the form of a lead and a label in brackets. -/
theorem eq_of_ofReversed {cs lead label : List Char} (h : ofReversed? cs = some (lead, label)) :
    cs = '>' :: (label.reverse ++ '<' :: lead.reverse) ∧ label ≠ [] ∧
      ∀ c ∈ label, isBracket c = false := by
  unfold ofReversed? at h
  split at h
  · rename_i rest
    split at h
    · cases h
    · rename_i before hd hne
      cases h
      have hcat := List.takeWhile_append_dropWhile (p := fun c => !isBracket c) (l := rest)
      rw [hd] at hcat
      refine ⟨by simp [hcat], by simpa using hne, ?_⟩
      intro c hc
      have := List.mem_takeWhile_imp (List.mem_reverse.mp hc)
      simpa using this
    · cases h
  · cases h

/-- Reading a body finds a lead and a label just when it has that form. -/
theorem parse_labeled_iff {body lead label : String} :
    parse body = .labeled lead label ↔ Bracketed body lead label := by
  unfold parse
  constructor
  · intro h
    split at h
    · rename_i l t hr
      cases h
      obtain ⟨hc, hne, hl⟩ := eq_of_ofReversed hr
      have hb : body.toList = l ++ '<' :: (t ++ ['>']) := by
        have := congrArg List.reverse hc
        simpa using this
      refine ⟨?_, ?_, by simpa using hl⟩
      · apply String.ext
        simp [hb]
      · intro he
        exact hne (by simpa using congrArg String.toList he)
    · cases h
  · rintro ⟨rfl, hne, hl⟩
    have hne' : label.toList.reverse ≠ [] :=
      fun h => hne (String.ext (List.reverse_eq_nil_iff.mp h))
    have hr := ofReversed_of_label lead.toList.reverse hne'
      (fun c hc => hl c (List.mem_reverse.mp hc))
    have hc : (lead ++ "<" ++ label ++ ">").toList.reverse =
        '>' :: (label.toList.reverse ++ '<' :: lead.toList.reverse) := by
      simp
    rw [hc, hr]
    simp

/-- Any other body is a label as a whole. -/
theorem parse_verbatim_iff {body : String} :
    parse body = .verbatim body ↔ ¬ ∃ lead label, Bracketed body lead label := by
  constructor
  · rintro hp ⟨lead, label, hb⟩
    rw [parse_labeled_iff.mpr hb] at hp
    cases hp
  · intro h
    cases hp : parse body with
    | labeled lead label => exact absurd ⟨lead, label, parse_labeled_iff.mp hp⟩ h
    | verbatim l =>
      unfold parse at hp
      split at hp
      · cases hp
      · cases hp
        rfl

/-- The label is what the brackets at the end hold. -/
theorem label_of_bracketed {body lead label : String} (h : Bracketed body lead label) :
    (parse body).label = label := by
  rw [parse_labeled_iff.mpr h]
  rfl

/-- Without brackets at the end the body is the label. -/
theorem label_of_not_bracketed {body : String} (h : ¬ ∃ lead label, Bracketed body lead label) :
    (parse body).label = body := by
  rw [parse_verbatim_iff.mpr h]
  rfl

/-- A label is split at a dot that no other stands before. -/
theorem splitLabel_dot {key option : String} (hk : '.' ∉ key.toList) (ho : option ≠ "") :
    splitLabel (key ++ "." ++ option) = (key, some option) := by
  have hp : ∀ c ∈ key.toList, (c != '.') = true := by
    intro c hc
    have hne : c ≠ '.' := fun he => hk (he ▸ hc)
    simpa using hne
  have hcat : (key ++ "." ++ option).toList = key.toList ++ '.' :: option.toList := by simp
  have ht : (key ++ "." ++ option).toList.takeWhile (· != '.') = key.toList := by
    rw [hcat, List.takeWhile_append_of_pos hp, List.takeWhile_cons_of_neg (by decide),
      List.append_nil]
  have hd : (key ++ "." ++ option).toList.dropWhile (· != '.') = '.' :: option.toList := by
    rw [hcat, List.dropWhile_append_of_pos hp, List.dropWhile_cons_of_neg (by decide)]
  cases hs : option.toList with
  | nil => exact absurd (String.ext hs) ho
  | cons c rest =>
    simp only [splitLabel, ht, hd, hs]
    rw [← hs]
    simp

/-- A label with a dot that something follows is split there, and no other label is split. -/
theorem splitLabel_some_iff {label key option : String} :
    splitLabel label = (key, some option) ↔
      label = key ++ "." ++ option ∧ '.' ∉ key.toList ∧ option ≠ "" := by
  constructor
  · intro h
    unfold splitLabel at h
    have hcat := List.takeWhile_append_dropWhile (p := (· != '.')) (l := label.toList)
    split at h
    · rename_i c rest hd
      obtain ⟨rfl, ho⟩ := Prod.mk.inj h
      obtain rfl := Option.some.inj ho
      rw [hd] at hcat
      refine ⟨String.ext (by simpa using hcat.symm), fun hm => ?_, by simp⟩
      have := List.mem_takeWhile_imp (by simpa using hm)
      simp at this
    · simp at h
  · rintro ⟨rfl, hk, ho⟩
    exact splitLabel_dot hk ho

/-- A label without a dot names no option. -/
theorem splitLabel_of_no_dot {label : String} (h : '.' ∉ label.toList) :
    splitLabel label = (label, none) := by
  have hp : ∀ c ∈ label.toList, (c != '.') = true := by
    intro c hc
    have hne : c ≠ '.' := fun he => h (he ▸ hc)
    simpa using hne
  have ht : label.toList.takeWhile (· != '.') = label.toList := List.takeWhile_eq_self_iff.mpr hp
  have hd : label.toList.dropWhile (· != '.') = [] := List.dropWhile_eq_nil_iff.mpr hp
  simp [splitLabel, ht, hd]

end Reference
end DirectiveDocs
