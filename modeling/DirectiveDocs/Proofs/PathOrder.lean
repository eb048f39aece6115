import DirectiveDocs.Files.Path
import Mathlib.Data.Prod.Lex
import Mathlib.Data.String.Basic

namespace DirectiveDocs.Path

/-- The first parts that differ decide, by their ranks and then by their names. -/
theorem ranksLe_cons_iff {p q : Nat × String} {ps qs : List (Nat × String)} :
    ranksLe (p :: ps) (q :: qs) = true ↔
      toLex p < toLex q ∨ (p = q ∧ ranksLe ps qs = true) := by
  obtain ⟨i, s⟩ := p
  obtain ⟨j, t⟩ := q
  rw [Prod.Lex.toLex_lt_toLex, Prod.mk.injEq]
  rcases lt_trichotomy i j with hi | rfl | hi
  · simp [ranksLe, hi]
  · rcases lt_trichotomy s t with hs | rfl | hs
    · simp [ranksLe, hs]
    · simp [ranksLe]
    · simp [ranksLe, hs, not_lt_of_gt hs, ne_of_gt hs]
  · simp [ranksLe, hi, not_lt_of_gt hi, ne_of_gt hi]

theorem ranksLe_trans {ps qs rs : List (Nat × String)} (h : ranksLe ps qs = true)
    (h' : ranksLe qs rs = true) : ranksLe ps rs = true := by
  induction ps generalizing qs rs with
  | nil => rfl
  | cons p ps ih =>
    cases qs with
    | nil => cases h
    | cons q qs =>
      cases rs with
      | nil => cases h'
      | cons r rs =>
        rw [ranksLe_cons_iff] at h h' ⊢
        rcases h with hpq | ⟨rfl, hps⟩
        · rcases h' with hqr | ⟨rfl, _⟩
          · exact Or.inl (hpq.trans hqr)
          · exact Or.inl hpq
        · rcases h' with hqr | ⟨rfl, hqs⟩
          · exact Or.inl hqr
          · exact Or.inr ⟨rfl, ih hps hqs⟩

theorem ranksLe_total (ps qs : List (Nat × String)) :
    ranksLe ps qs = true ∨ ranksLe qs ps = true := by
  induction ps generalizing qs with
  | nil => exact Or.inl rfl
  | cons p ps ih =>
    cases qs with
    | nil => exact Or.inr rfl
    | cons q qs =>
      rw [ranksLe_cons_iff, ranksLe_cons_iff]
      rcases lt_trichotomy (toLex p) (toLex q) with hlt | he | hlt
      · exact Or.inl (Or.inl hlt)
      · obtain rfl := toLex_inj.mp he
        rcases ih qs with h | h
        · exact Or.inl (Or.inr ⟨rfl, h⟩)
        · exact Or.inr (Or.inr ⟨rfl, h⟩)
      · exact Or.inr (Or.inl hlt)

theorem ranksLe_antisymm {ps qs : List (Nat × String)} (h : ranksLe ps qs = true)
    (h' : ranksLe qs ps = true) : ps = qs := by
  induction ps generalizing qs with
  | nil =>
    cases qs with
    | nil => rfl
    | cons q qs => cases h'
  | cons p ps ih =>
    cases qs with
    | nil => cases h
    | cons q qs =>
      rw [ranksLe_cons_iff] at h h'
      rcases h with hlt | ⟨rfl, hps⟩
      · rcases h' with hgt | ⟨rfl, _⟩
        · exact absurd hlt (lt_asymm hgt)
        · exact absurd hlt (lt_irrefl _)
      · rcases h' with hlt | ⟨_, hqs⟩
        · exact absurd hlt (lt_irrefl _)
        · rw [ih hps hqs]

theorem le_trans {p q r : String} (h : le p q = true) (h' : le q r = true) : le p r = true :=
  ranksLe_trans h h'

theorem le_total (p q : String) : (le p q || le q p) = true := by
  rw [Bool.or_eq_true]
  exact ranksLe_total (ranks p) (ranks q)

/-- Paths that are each before the other have the same parts. -/
theorem ranks_eq_of_le {p q : String} (h : le p q = true) (h' : le q p = true) :
    ranks p = ranks q :=
  ranksLe_antisymm h h'

def Sorted (paths : List String) : Prop :=
  paths.Pairwise (fun p q => le p q = true)

theorem sorted_mergeSort (paths : List String) : Sorted (paths.mergeSort le) := by
  apply List.pairwise_mergeSort
  · intro p q r h h'
    exact le_trans h h'
  · exact le_total

/-- Paths with different parts have one order. -/
theorem Sorted.eq_of_perm {paths paths' : List String} (h : Sorted paths) (h' : Sorted paths')
    (hp : paths.Perm paths')
    (hd : ∀ p ∈ paths, ∀ q ∈ paths, ranks p = ranks q → p = q) : paths = paths' := by
  unfold Sorted at h h'
  refine hp.eq_of_pairwise ?_ h h'
  intro p q hm hm' hle hge
  exact hd p hm q (hp.mem_iff.mpr hm') (ranks_eq_of_le hle hge)

end DirectiveDocs.Path
