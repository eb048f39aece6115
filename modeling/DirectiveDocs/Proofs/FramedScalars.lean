import DirectiveDocs.Proofs.FramedText

namespace DirectiveDocs.Yaml.Frame

variable (f : Frame)

section Quotes

open Quoted

/-- An escape is read inside the part, or only blanks are left after it. -/
theorem escape_append {cs rest : List Char} {y : Char}
    (h : escape? (cs ++ f.trail) = some (y, rest)) :
    (∃ rest₀, rest = rest₀ ++ f.trail ∧ escape? cs = some (y, rest₀)) ∨
      ∀ x ∈ rest, isGap x = true := by
  cases cs with
  | nil => exact .inr (fun x hx => f.blank x ((suffix_escape h).mem hx))
  | cons x cs =>
    left
    rw [List.cons_append, escape?] at h
    rw [escape?]
    cases hshort : shortEscape? x with
    | some z =>
      simp only [hshort] at h
      cases h
      exact ⟨cs, rfl, rfl⟩
    | none =>
      cases hlength : escapeLength? x with
      | none => simp [hshort, hlength] at h
      | some n =>
        simp only [hshort, hlength] at h ⊢
        obtain ⟨hlen, h⟩ := Option.ite_none_left_eq_some.mp h
        obtain ⟨value, hv, h⟩ := Option.bind_eq_some_iff.mp h
        obtain ⟨z, hz, h⟩ := Option.bind_eq_some_iff.mp h
        cases h
        by_cases hn : n ≤ cs.length
        · rw [List.take_append_of_le_length hn] at hv
          refine ⟨cs.drop n, List.drop_append_of_le_length hn, ?_⟩
          rw [if_neg (by omega)]
          simp [hv, hz]
        · -- a blank is no digit
          cases ht : f.trail with
          | nil =>
            rw [ht, List.append_nil] at hlen
            omega
          | cons b t =>
            obtain ⟨k, hk⟩ : ∃ k, n - cs.length = k + 1 := ⟨n - cs.length - 1, by omega⟩
            have hb : Decimal.isDigit 16 b = false :=
              eq_false_of_isGap (by decide) b (f.blank b (ht ▸ List.mem_cons_self))
            refine absurd hv (natural?_gap hb ?_)
            rw [ht, List.take_append, hk, List.take_succ_cons]
            exact List.mem_append_right _ List.mem_cons_self

theorem closing_not_mem (double : Bool) {cs : List Char} (h : ∀ x ∈ cs, isGap x = true) :
    closing double ∉ cs := by
  intro hm
  have hg := h _ hm
  cases double <;> exact absurd hg (by decide)

/-- A scalar ends at its quote. -/
theorem closing_mem {double : Bool} {fuel : Nat} {text : List Char} {c : Cursor} {s : ScalarText}
    (h : words double fuel text c = some s) : closing double ∈ c.rest := by
  induction fuel generalizing text c with
  | zero => cases h
  | succ fuel ih =>
    obtain ⟨_, w, rest, hw, h⟩ := words_succ_eq_some_iff.mp h
    have hc := (Cursor.precedes_upTo (suffix_word hw)).trans (precedes_continuation _)
    rcases h with ⟨hq, _⟩ | ⟨_, gap, c', hg, h⟩
    · exact hc.rest.mem (List.mem_of_mem_head? hq)
    · exact (hc.trans (Gap.precedes_read hg)).rest.mem (ih h)

/-- A word of the whole text is the word of the part, or its quote is not in what is left. -/
def SameWord (double : Bool) (x x₀ : Option (List Char × List Char)) : Prop :=
  ∀ w rest, x = some (w, rest) →
    (∃ rest₀, rest = rest₀ ++ f.trail ∧ x₀ = some (w, rest₀)) ∨ closing double ∉ rest

namespace SameWord

variable {f} {double : Bool} {x x₀ y y₀ : Option (List Char × List Char)}

theorem stop (cs : List Char) :
    f.SameWord double (some ([], cs ++ f.trail)) (some ([], cs)) := by
  rintro w rest ⟨⟩
  exact .inl ⟨cs, rfl, rfl⟩

theorem ite {p : Prop} [Decidable p] (h : p → f.SameWord double x x₀)
    (h' : ¬p → f.SameWord double y y₀) :
    f.SameWord double (if p then x else y) (if p then x₀ else y₀) := by
  split
  · exact h ‹p›
  · exact h' ‹¬p›

theorem map (h : f.SameWord double x x₀) (z : Char) :
    f.SameWord double (x.map (fun p => (z :: p.1, p.2))) (x₀.map (fun p => (z :: p.1, p.2))) := by
  intro w rest hx
  obtain ⟨⟨w', r⟩, rfl, he⟩ := Option.map_eq_some_iff.mp hx
  cases he
  refine (h w' r rfl).imp ?_ id
  rintro ⟨rest₀, rfl, rfl⟩
  exact ⟨rest₀, rfl, rfl⟩

/-- From blanks no quote is reached. -/
theorem of_gaps {fuel : Nat} {cs : List Char} (hb : ∀ x ∈ cs, isGap x = true) :
    f.SameWord double (word double fuel cs) x₀ := by
  intro w rest h
  exact .inr (closing_not_mem double (fun x hx => hb x ((suffix_word h).mem hx)))

end SameWord

/-- An escape and the word after it. -/
theorem sameWord_escape {fuel : Nat} {cs : List Char} (hf : cs.length ≤ fuel)
    (ih : ∀ cs : List Char, cs.length ≤ fuel →
      f.SameWord true (word true fuel (cs ++ f.trail)) (word true fuel cs)) :
    f.SameWord true
      ((escape? (cs ++ f.trail)).bind
        (fun p => (word true fuel p.2).bind (fun q => some (p.1 :: q.1, q.2))))
      ((escape? cs).bind
        (fun p => (word true fuel p.2).bind (fun q => some (p.1 :: q.1, q.2)))) := by
  intro w rest h
  obtain ⟨⟨z, r⟩, he, h⟩ := Option.bind_eq_some_iff.mp h
  obtain ⟨⟨w', r'⟩, hw, h⟩ := Option.bind_eq_some_iff.mp h
  cases h
  rcases f.escape_append he with ⟨r₀, rfl, he₀⟩ | hr
  · have hlen := (suffix_escape he₀).length_le
    refine (ih r₀ (by omega) w' _ hw).imp ?_ id
    rintro ⟨rest₀, rfl, hw₀⟩
    exact ⟨rest₀, rfl, by simp [he₀, hw₀]⟩
  · exact .inr (closing_not_mem true (fun x hx => hr x ((suffix_word hw).mem hx)))

/-- In double quotes. -/
theorem sameWord_double {fuel : Nat} {x : Char} {cs : List Char} (hf : cs.length ≤ fuel)
    (ih : ∀ cs : List Char, cs.length ≤ fuel →
      f.SameWord true (word true fuel (cs ++ f.trail)) (word true fuel cs)) :
    f.SameWord true (word true (fuel + 1) (x :: cs ++ f.trail))
      (word true (fuel + 1) (x :: cs)) := by
  simp only [List.cons_append, word]
  refine .ite (fun _ => .stop (x :: cs)) fun _ => ?_
  refine .ite (fun _ => ?_) (fun h => absurd trivial h)
  refine .ite (fun _ => .stop (x :: cs)) fun _ => ?_
  refine .ite (fun hx => ?_) (fun _ => (ih cs hf).map x)
  cases cs with
  | cons y cs => exact .ite (fun _ => .stop (x :: y :: cs)) (fun _ => f.sameWord_escape hf ih)
  | nil =>
    intro w rest h
    rcases ite_eq_iff.mp h with ⟨_, h⟩ | ⟨_, h⟩
    · cases h
      rw [List.nil_append, List.mem_cons, not_or]
      exact .inr ⟨by rw [hx]; decide, closing_not_mem true f.blank⟩
    · exact f.sameWord_escape hf ih w rest h

/-- A single quote that is not doubled ends the word. -/
theorem word_quote {fuel : Nat} {cs : List Char} (h : cs.head? ≠ some '\'') :
    word false (fuel + 1) ('\'' :: cs) = some ([], '\'' :: cs) := by
  have hgap : isGap '\'' = false := rfl
  rw [word, hgap, if_neg Bool.false_ne_true, if_neg Bool.false_ne_true, if_pos rfl]
  intro rest hr
  rw [hr] at h
  exact h rfl

/-- In single quotes. -/
theorem sameWord_single {fuel : Nat} {x : Char} {cs : List Char} (hf : cs.length ≤ fuel)
    (ih : ∀ cs : List Char, cs.length ≤ fuel →
      f.SameWord false (word false fuel (cs ++ f.trail)) (word false fuel cs)) :
    f.SameWord false (word false (fuel + 1) (x :: cs ++ f.trail))
      (word false (fuel + 1) (x :: cs)) := by
  by_cases hx : x = '\''
  · subst hx
    by_cases hq : cs.head? = some '\''
    · obtain ⟨cs', rfl⟩ := List.head?_eq_some_iff.mp hq
      rw [List.length_cons] at hf
      exact (ih cs' (by omega)).map '\''
    · have hq' : (cs ++ f.trail).head? ≠ some '\'' := by
        have hsame := f.head?_append_beq (x := '\'') rfl cs
        rwa [beq_eq_false_iff_ne.mpr hq, beq_eq_false_iff_ne] at hsame
      rw [List.cons_append, word_quote hq, word_quote hq']
      exact .stop ('\'' :: cs)
  · simp only [List.cons_append, word]
    refine .ite (fun _ => .stop (x :: cs)) fun _ => ?_
    rw [if_neg Bool.false_ne_true, if_neg Bool.false_ne_true, if_neg hx, if_neg hx]
    exact (ih cs hf).map x

/-- A word is read inside the part, or the quote is not in what is left. -/
theorem quoted_word {double : Bool} {fuel : Nat} {cs : List Char} (hf : cs.length ≤ fuel) :
    f.SameWord double (word double fuel (cs ++ f.trail)) (word double fuel cs) := by
  induction fuel generalizing cs with
  | zero =>
    obtain rfl : cs = [] := List.length_eq_zero_iff.mp (by omega)
    exact .of_gaps f.blank
  | succ fuel ih =>
    cases cs with
    | nil => exact .of_gaps f.blank
    | cons x cs =>
      rw [List.length_cons] at hf
      cases double with
      | true => exact f.sameWord_double (by omega) (fun cs h => ih h)
      | false => exact f.sameWord_single (by omega) (fun cs h => ih h)

/-- Where more than blanks must follow, a backslash is passed inside the part. -/
theorem continuation_cursor {c : Cursor} (hs : Solid c.rest) (hne : c.rest ≠ [])
    (h : ∃ x ∈ (continuation (f.cursor c)).2.rest, isGap x = false) :
    continuation (f.cursor c) = ((continuation c).1, f.cursor (continuation c).2) ∧
      (continuation c).2.rest ≠ [] := by
  rw [continuation_eq, continuation_eq c, cursor_rest, f.head?_append_beq rfl] at *
  split at h
  · rename_i hx
    rw [if_pos hx, if_pos hx]
    rw [f.skip_cursor c (List.length_pos_iff.mpr hne)] at h ⊢
    by_cases hnext : c.skip.rest = []
    · obtain ⟨y, hy, hgap⟩ := h
      rw [f.gaps_of_precedes hnext (Cursor.precedes_skipBreak _) y hy] at hgap
      cases hgap
    · obtain ⟨hb, hne'⟩ := f.skipBreak_cursor (hs.of_suffix (Cursor.precedes_skip c 1).rest) hnext
      rw [hb]
      exact ⟨rfl, hne'⟩
  · rename_i hx
    rw [if_neg hx, if_neg hx]
    exact ⟨rfl, hne⟩

/-- A scalar in quotes is closed inside the part, with the same words. -/
theorem quoted_words {double : Bool} {fuel : Nat} {text : List Char} {c : Cursor} {s : ScalarText}
    (hs : Solid c.rest) (h : words double fuel text (f.cursor c) = some s) :
    ∃ s₀, words double fuel text c = some s₀ ∧ s = { s₀ with stop := f.cursor s₀.stop } := by
  induction fuel generalizing text c with
  | zero => cases h
  | succ fuel ih =>
    obtain ⟨hstart, w, rest, hw, h⟩ := words_succ_eq_some_iff.mp h
    -- the quote stands behind the word
    have hquote : closing double ∈ (continuation ((f.cursor c).upTo rest)).2.rest := by
      rcases h with ⟨hq, _⟩ | ⟨_, gap, c', hg, h⟩
      · exact List.mem_of_mem_head? hq
      · exact (Gap.precedes_read hg).rest.mem (closing_mem h)
    have hgap : isGap (closing double) = false := by cases double <;> rfl
    have hrest : closing double ∈ rest := (precedes_continuation _).rest.mem hquote
    rw [word_fuel (Nat.le_refl _)
      (Nat.le_of_eq (by simp) : _ ≤ c.rest.length + f.trail.length)] at hw
    obtain ⟨rest₀, rfl, hw₀⟩ :=
      (f.quoted_word (by omega) w rest hw).resolve_right (fun hn => hn hrest)
    rw [upTo_cursor] at h hquote
    have hs₀ : Solid (c.upTo rest₀).rest := hs.of_suffix (suffix_word hw₀)
    have hne₀ : (c.upTo rest₀).rest ≠ [] := by
      intro he
      have hr : rest₀ = [] := he
      rw [hr] at hrest
      exact closing_not_mem double f.blank hrest
    obtain ⟨hcont, hne⟩ := f.continuation_cursor hs₀ hne₀ ⟨_, hquote, hgap⟩
    have hs₁ := hs₀.of_suffix (precedes_continuation _).rest
    have hstart₀ : (c.isDocumentIndicator || c.rest.isEmpty) = false := by
      have hc : c.rest ≠ [] := fun he => hne₀ (List.suffix_nil.mp (he ▸ suffix_word hw₀))
      rw [f.isDocumentIndicator_cursor] at hstart
      rw [(Bool.or_eq_false_iff.mp hstart).1, List.isEmpty_eq_false_iff.mpr hc]
      rfl
    rw [word_fuel (Nat.le_add_right _ _) (Nat.le_refl _)] at hw₀
    rw [hcont] at h
    rcases h with ⟨hq, rfl⟩ | ⟨hq, gap, c', hg, h⟩
    · have hq₀ : (continuation (c.upTo rest₀)).2.rest.head? = some (closing double) := by
        rwa [cursor_rest, f.head?_append hne] at hq
      refine ⟨_, words_succ_eq_some_iff.mpr ⟨hstart₀, w, rest₀, hw₀, .inl ⟨hq₀, rfl⟩⟩, ?_⟩
      rw [f.skip_cursor _ (List.length_pos_iff.mpr hne)]
    · have hq₀ : (continuation (c.upTo rest₀)).2.rest.head? ≠ some (closing double) := by
        rwa [cursor_rest, f.head?_append hne] at hq
      obtain ⟨c₁, rfl, hg₀, hs₂, _⟩ :=
        f.read_cursor_eq_some hs₁ hne (by simp only [cursor_rest, List.length_append]; omega) hg
      obtain ⟨s₀, h₀, hsame⟩ := ih hs₂ h
      exact ⟨s₀, words_succ_eq_some_iff.mpr
        ⟨hstart₀, w, rest₀, hw₀, .inr ⟨hq₀, gap, c₁, hg₀, h₀⟩⟩, hsame⟩

end Quotes

/-- A scalar in quotes is the same in the whole text and in the part. -/
theorem quotedScalar_cursor {double : Bool} {c : Cursor} {s : ScalarText} (hs : Solid c.rest)
    (hne : c.rest ≠ []) (h : quotedScalar double (f.cursor c) = some s) :
    ∃ s₀, quotedScalar double c = some s₀ ∧ s = { s₀ with stop := f.cursor s₀.stop } := by
  rw [quotedScalar, f.skip_cursor c (List.length_pos_iff.mpr hne)] at h
  obtain ⟨s₀, h₀, hsame⟩ := f.quoted_words (hs.of_suffix (Cursor.precedes_skip c 1).rest) h
  have hle := (Cursor.precedes_skip c 1).length_le
  exact ⟨s₀, Quoted.words_fuel h₀ (Nat.lt_succ_of_le hle), hsame⟩

section Blocks

open Block

theorem chomping_cursor (c : Cursor) :
    chomping? (f.cursor c) = (chomping? c).map (fun p => (p.1, f.cursor p.2)) := by
  cases hr : c.rest with
  | nil =>
    have h₀ : chomping? c = none := by
      unfold chomping?
      rw [hr]
    rw [h₀]
    unfold chomping?
    split
    · rename_i he
      rw [cursor_rest, hr, List.nil_append] at he
      exact absurd (f.blank '+' (he ▸ List.mem_cons_self)) (by decide)
    · rename_i he
      rw [cursor_rest, hr, List.nil_append] at he
      exact absurd (f.blank '-' (he ▸ List.mem_cons_self)) (by decide)
    · rfl
  | cons x rest =>
    have hskip := f.skip_cursor c (n := 1) (by simp [hr])
    unfold chomping?
    rw [cursor_rest, hr, List.cons_append, hskip]
    split <;> simp_all

theorem indentation_cursor (c : Cursor) :
    indentation (f.cursor c) = (indentation c).map (fun p => (p.1, f.cursor p.2)) := by
  unfold indentation
  cases hr : c.rest with
  | nil =>
    rw [cursor_rest, hr, List.nil_append]
    cases ht : f.trail with
    | nil => rfl
    | cons x t =>
      have hx := f.blank x (ht ▸ List.mem_cons_self)
      have hd : x.isDigit = false := eq_false_of_isGap (by decide) x hx
      have h0 : x ≠ '0' := by
        rintro rfl
        cases hx
      simp [hd, h0]
  | cons x rest =>
    have hskip := f.skip_cursor c (n := 1) (by simp [hr])
    rw [cursor_rest, hr, List.cons_append, hskip]
    dsimp only
    split
    · rfl
    · split <;> rfl

theorem header_cursor (c : Cursor) :
    header (f.cursor c) = (header c).map (fun p => (p.1, f.cursor p.2)) := by
  unfold header
  rw [chomping_cursor]
  cases hc : chomping? c with
  | some p =>
    simp only [Option.map_some, indentation_cursor]
    cases indentation p.2 <;> rfl
  | none =>
    simp only [Option.map_none, indentation_cursor]
    cases hn : indentation c with
    | none => rfl
    | some p =>
      simp only [Option.map_some, Option.bind_eq_bind, Option.bind_some, chomping_cursor]
      cases p.1 <;> cases chomping? p.2 <;> rfl

theorem takeWhile_append_of_solid {cs : List Char} (hs : Solid cs) (hne : cs ≠ []) {p : Char → Bool}
    (hp : ∀ x, isGap x = false → p x = false) :
    (cs ++ f.trail).takeWhile p = cs.takeWhile p ∧ (cs.takeWhile p).length < cs.length := by
  have hle := (List.takeWhile_prefix (l := cs) p).length_le
  have hlt : (cs.takeWhile p).length ≠ cs.length := by
    intro he
    have heq := (List.takeWhile_prefix (l := cs) p).eq_of_length he
    exact hs.not_all hne hp (List.takeWhile_eq_self_iff.mp heq)
  refine ⟨?_, by omega⟩
  rw [List.takeWhile_append, if_neg hlt]

/-- Empty lines inside a solid part are read inside it. -/
theorem breaks_cursor {column : Option Nat} {fuel widest : Nat} {text : List Char} {c : Cursor}
    (hs : Solid c.rest) (hne : c.rest ≠ []) (hf : c.rest.length < fuel) :
    breaks column fuel widest text (f.cursor c) =
      (breaks column fuel widest text c).map (fun p => (p.1, p.2.1, f.cursor p.2.2)) ∧
    ∀ p, breaks column fuel widest text c = some p → p.2.2.rest ≠ [] := by
  induction fuel generalizing widest text c with
  | zero => omega
  | succ fuel ih =>
    have hspace : ∀ x, isGap x = false → (x == ' ') = false := by
      rintro x hx
      rw [beq_eq_false_iff_ne]
      rintro rfl
      cases hx
    obtain ⟨htake, hlt⟩ := f.takeWhile_append_of_solid hs hne hspace
    have hwidth : indentWidth column (f.cursor c) = indentWidth column c := by
      simp only [indentWidth, cursor_rest, htake, cursor_mark, mark_column]
    have hle : indentWidth column c < c.rest.length := by
      refine Nat.lt_of_le_of_lt ?_ hlt
      cases column with
      | none => exact Nat.le_refl _
      | some n => exact Nat.min_le_left _ _
    rw [breaks_succ, breaks_succ, hwidth, f.skip_cursor c (Nat.le_of_lt hle)]
    have hne' : (c.skip (indentWidth column c)).rest ≠ [] := by
      simp only [Cursor.skip, ne_eq, List.drop_eq_nil_iff]
      omega
    have hs' : Solid (c.skip (indentWidth column c)).rest :=
      hs.of_suffix (Cursor.precedes_skip c _).rest
    have hlen := (Cursor.precedes_skip c (indentWidth column c)).length_le
    generalize c.skip (indentWidth column c) = c₁ at hne' hs' hlen
    change (if ((column.all fun n => decide (c₁.mark.column < n)) &&
        (c₁.rest ++ f.trail).head? == some '\t') = true then none else
      if ((c₁.rest ++ f.trail).head?.any isBreak) = true then _ else _) = _ ∧ _
    rw [f.head?_append hne', cursor_mark, mark_column]
    dsimp only
    generalize ((column.all fun n => decide (c₁.mark.column < n)) &&
      c₁.rest.head? == some '\t') = short
    cases short with
    | true =>
      refine ⟨rfl, ?_⟩
      intro p h
      cases h
    | false =>
      by_cases hb : c₁.rest.head?.any isBreak = true
      · have hlt' := Cursor.length_skipBreak_lt hb
        obtain ⟨hbreak, hne''⟩ := f.skipBreak_cursor hs' hne'
        simp only [hb, if_true, Bool.false_eq_true, if_false, hbreak, f.breakText_cursor hne']
        exact ih (hs'.of_suffix (Cursor.precedes_skipBreak c₁).rest) hne'' (by omega)
      · simp only [hb, Bool.false_eq_true, if_false]
        refine ⟨rfl, ?_⟩
        rintro _ ⟨⟩
        exact hne'

theorem breaks_cursor_eq_some {column : Option Nat} {fuel widest widest' : Nat}
    {text text' : List Char} {c c' : Cursor} (hs : Solid c.rest) (hne : c.rest ≠ [])
    (hf : c.rest.length < fuel)
    (h : breaks column fuel widest text (f.cursor c) = some (widest', text', c')) :
    ∃ c₁, c' = f.cursor c₁ ∧
      breaks column (c.rest.length + 1) widest text c = some (widest', text', c₁) ∧
      Solid c₁.rest ∧ c₁.rest ≠ [] := by
  obtain ⟨hread, hinside⟩ := f.breaks_cursor hs hne hf
  rw [hread] at h
  obtain ⟨⟨w₁, t₁, c₁⟩, h₁, he⟩ := Option.map_eq_some_iff.mp h
  cases he
  have hs₁ := hs.of_suffix (precedes_breaks h₁).rest
  exact ⟨c₁, rfl, (breaks_fuel (Nat.lt_succ_self _) hf).trans h₁, hs₁, hinside _ h₁⟩

/-- The lines of a block scalar are read inside the part, or only blanks are left after them. -/
theorem lines_cursor {isLiteral : Bool} {column fuel : Nat} {d d' : Draft} {c c' : Cursor}
    (hs : Solid c.rest) (hne : c.rest ≠ []) (hf : c.rest.length ≤ fuel)
    (h : lines isLiteral column fuel d (f.cursor c) = some (d', c')) :
    (∃ c₁, c' = f.cursor c₁ ∧ c₁.rest ≠ [] ∧ lines isLiteral column fuel d c = some (d', c₁)) ∨
      ∀ x ∈ c'.rest, isGap x = true := by
  induction fuel generalizing d c with
  | zero => exact absurd (List.length_eq_zero_iff.mp (by omega)) hne
  | succ fuel ih =>
    have hempty : c.rest.isEmpty = false := List.isEmpty_eq_false_iff.mpr hne
    have hempty' : (c.rest ++ f.trail).isEmpty = false :=
      List.isEmpty_eq_false_iff.mpr (List.append_ne_nil_of_left_ne_nil hne _)
    rw [lines] at h ⊢
    simp only [cursor_rest, cursor_mark, mark_column, hempty, hempty', Bool.or_false,
      f.head?_append hne] at h ⊢
    by_cases hcolumn : c.mark.column ≠ column
    · simp only [hcolumn, ne_eq, not_false_eq_true, decide_true, if_true] at h ⊢
      cases h
      exact .inl ⟨c, rfl, hne, rfl⟩
    simp only [hcolumn, decide_false, Bool.false_eq_true, if_false] at h ⊢
    have hp := (passes_line hne).lt
    by_cases hall : (c.rest.takeWhile (fun x => !isBreak x)).length = c.rest.length
    · -- the last line of the part takes blanks that follow it
      right
      rw [List.takeWhile_append, if_pos hall] at h
      split at h
      · rename_i hb
        have hc := ((Cursor.precedes_skipBreak _).trans (precedes_breaks hb)).trans
          (precedes_lines h)
        intro x hx
        have hx := hc.rest.mem hx
        simp only [Cursor.skip, cursor_rest, List.length_append, ← List.drop_drop,
          List.drop_left] at hx
        exact f.blank x (List.mem_of_mem_drop hx)
      · cases h
    · have hlt : (c.rest.takeWhile (fun x => !isBreak x)).length < c.rest.length := by
        have := (List.takeWhile_prefix (l := c.rest) (fun x => !isBreak x)).length_le
        omega
      rw [List.takeWhile_append, if_neg hall, f.skip_cursor c (Nat.le_of_lt hlt)] at h
      have hstop : (c.skip (c.rest.takeWhile (fun x => !isBreak x)).length).rest ≠ [] := by
        simp only [Cursor.skip, ne_eq, List.drop_eq_nil_iff]
        omega
      have hs' := hs.of_suffix (Cursor.precedes_skip c
        (c.rest.takeWhile (fun x => !isBreak x)).length).rest
      generalize c.skip (c.rest.takeWhile (fun x => !isBreak x)).length = stop at h hstop hs' hp ⊢
      obtain ⟨hbreak, hne'⟩ := f.skipBreak_cursor hs' hstop
      rw [hbreak, f.breakText_cursor hstop] at h
      split at h
      · rename_i w empty next hb
        have hle := (Cursor.precedes_skipBreak stop).length_le
        obtain ⟨next₀, rfl, hb₀, hs₁, hne₁⟩ := f.breaks_cursor_eq_some
          (hs'.of_suffix (Cursor.precedes_skipBreak stop).rest) hne'
          (by simp only [cursor_rest, List.length_append]; omega) hb
        rw [breaks_fuel (Nat.lt_succ_self _) (Nat.lt_succ_of_le hle)] at hb₀
        rw [hb₀]
        have hle₁ := (precedes_breaks hb₀).length_le
        exact ih hs₁ hne₁ (by omega) h
      · cases h

section Bare

variable {f} (ht : f.trail = [])

include ht

theorem rest_cursor_bare (c : Cursor) : (f.cursor c).rest = c.rest := by
  rw [cursor_rest, ht, List.append_nil]

theorem skip_cursor_bare (c : Cursor) (n : Nat) : (f.cursor c).skip n = f.cursor (c.skip n) := by
  simp only [Cursor.skip, cursor, mark, ht, List.append_nil, Nat.add_right_comm]

theorem upTo_cursor_bare (c : Cursor) (rest : List Char) :
    (f.cursor c).upTo rest = f.cursor (c.upTo rest) := by
  have h := f.upTo_cursor c rest
  rwa [ht, List.append_nil] at h

theorem skipWhile_cursor_bare (c : Cursor) (p : Char → Bool) :
    (f.cursor c).skipWhile p = f.cursor (c.skipWhile p) := by
  rw [Cursor.skipWhile, rest_cursor_bare ht, upTo_cursor_bare ht]
  rfl

theorem skipBreak_cursor_bare (c : Cursor) : (f.cursor c).skipBreak = f.cursor c.skipBreak := by
  obtain ⟨m, rest⟩ := c
  cases rest with
  | nil =>
    rw [cursor, ht]
    simp only [Cursor.skipBreak, cursor, ht, List.append_nil]
  | cons x rest =>
    simp only [cursor, ht, List.append_nil, Cursor.skipBreak_cons]
    split
    · simp only [mark, Nat.add_right_comm]
    · split
      · simp only [mark, Nat.add_right_comm]
      · rfl

theorem finishLine_cursor_bare (c : Cursor) :
    (f.cursor c).finishLine? = c.finishLine?.map f.cursor := by
  have hcomment (c : Cursor) : (f.cursor c).skipComment = f.cursor c.skipComment := by
    rw [Cursor.skipComment_eq, Cursor.skipComment_eq, rest_cursor_bare ht]
    split
    · exact skipWhile_cursor_bare ht c _
    · rfl
  have hstop : (f.cursor c).skipSpaces.skipComment = f.cursor c.skipSpaces.skipComment := by
    rw [Cursor.skipSpaces, skipWhile_cursor_bare ht, hcomment]
    rfl
  rw [Cursor.finishLine?, Cursor.finishLine?, hstop, rest_cursor_bare ht, skipBreak_cursor_bare ht]
  split <;> rfl

theorem breaks_cursor_bare (column : Option Nat) (fuel widest : Nat) (text : List Char)
    (c : Cursor) :
    breaks column fuel widest text (f.cursor c) =
      (breaks column fuel widest text c).map (fun p => (p.1, p.2.1, f.cursor p.2.2)) := by
  induction fuel generalizing widest text c with
  | zero => rfl
  | succ fuel ih =>
    have hwidth : indentWidth column (f.cursor c) = indentWidth column c := by
      simp only [indentWidth, rest_cursor_bare ht, cursor_mark, mark_column]
    have htext (c : Cursor) : (f.cursor c).breakText = c.breakText := by
      simp only [Cursor.breakText, rest_cursor_bare ht]
    simp only [breaks_succ, hwidth, skip_cursor_bare ht, rest_cursor_bare ht, cursor_mark,
      mark_column, skipBreak_cursor_bare ht, htext, ih]
    split
    · rfl
    · split <;> rfl

theorem lines_cursor_bare (isLiteral : Bool) (column fuel : Nat) (d : Draft) (c : Cursor) :
    lines isLiteral column fuel d (f.cursor c) =
      (lines isLiteral column fuel d c).map (fun p => (p.1, f.cursor p.2)) := by
  induction fuel generalizing d c with
  | zero => rfl
  | succ fuel ih =>
    have htext (c : Cursor) : (f.cursor c).breakText = c.breakText := by
      simp only [Cursor.breakText, rest_cursor_bare ht]
    rw [lines, lines]
    dsimp only
    rw [rest_cursor_bare ht, skip_cursor_bare ht, rest_cursor_bare ht, skipBreak_cursor_bare ht,
      breaks_cursor_bare ht, htext, cursor_mark, mark_column]
    split
    · rfl
    · cases breaks (some column)
          ((c.skip (c.rest.takeWhile (fun x => !isBreak x)).length).rest.length + 1) 0 []
          (c.skip (c.rest.takeWhile (fun x => !isBreak x)).length).skipBreak with
      | none => rfl
      | some p => exact ih _ p.2.2

/-- Without blanks after the part a block scalar is the same. -/
theorem blockScalar_cursor_bare (isLiteral : Bool) (block : Option Nat) (c : Cursor) :
    blockScalar isLiteral block (f.cursor c) =
      (blockScalar isLiteral block c).map (fun s => { s with stop := f.cursor s.stop }) := by
  simp only [blockScalar, skip_cursor_bare ht, header_cursor]
  cases header c.skip with
  | none => rfl
  | some p =>
    simp only [Option.map_some, Option.bind_eq_bind, Option.bind_some, finishLine_cursor_bare ht]
    cases p.2.finishLine? with
    | none => rfl
    | some c₁ =>
      simp only [Option.map_some, Option.bind_some, rest_cursor_bare ht, breaks_cursor_bare ht]
      cases breaks (p.1.indentation.map (fun n => block.getD 0 + n))
          (c₁.rest.length + 1) 0 [] c₁ with
      | none => rfl
      | some q =>
        simp only [Option.map_some, Option.bind_some, rest_cursor_bare ht, lines_cursor_bare ht]
        cases lines isLiteral _ (q.2.2.rest.length + 1) ⟨[], [], q.2.1, false⟩ q.2.2 <;> rfl

end Bare

/-- A block scalar is read inside the part, or only blanks are left after it and it may have taken
some. -/
theorem blockScalar_cursor {isLiteral : Bool} {block : Option Nat} {c : Cursor} {s : ScalarText}
    (hs : Solid c.rest) (hne : c.rest ≠ [])
    (h : blockScalar isLiteral block (f.cursor c) = some s) :
    (∃ s₀, blockScalar isLiteral block c = some s₀ ∧ s = { s₀ with stop := f.cursor s₀.stop }) ∨
      f.trail ≠ [] ∧ ∀ x ∈ s.stop.rest, isGap x = true := by
  by_cases ht : f.trail = []
  · rw [blockScalar_cursor_bare ht] at h
    obtain ⟨s₀, h₀, rfl⟩ := Option.map_eq_some_iff.mp h
    exact .inl ⟨s₀, h₀, rfl⟩
  obtain ⟨⟨head, c₁⟩, hh, h⟩ := Option.bind_eq_some_iff.mp h
  rw [f.skip_cursor c (List.length_pos_iff.mpr hne), header_cursor] at hh
  obtain ⟨⟨head₀, c₁₀⟩, hh₀, he⟩ := Option.map_eq_some_iff.mp hh
  cases he
  have hs₁ := (hs.of_suffix (Cursor.precedes_skip c 1).rest).of_suffix (precedes_header hh₀).rest
  obtain ⟨c₂, hl, h⟩ := Option.bind_eq_some_iff.mp h
  obtain ⟨c₂₀, hl₀, hat⟩ := (f.at_cursor c₁₀).finishLine hs₁ hl
  obtain ⟨⟨widest, empty, c₃⟩, hb, h⟩ := Option.bind_eq_some_iff.mp h
  obtain ⟨⟨d, c₄⟩, hd, h⟩ := Option.bind_eq_some_iff.mp h
  cases h
  rcases hat with ⟨hne₂, rfl⟩ | ⟨h₂, hp⟩
  · have hs₂ := hs₁.of_suffix (Cursor.precedes_finishLine hl₀).rest
    obtain ⟨c₃₀, rfl, hb₀, hs₃, hne₃⟩ := f.breaks_cursor_eq_some hs₂ hne₂
      (by simp only [cursor_rest, List.length_append]; omega) hb
    rcases f.lines_cursor hs₃ hne₃ (by simp only [cursor_rest, List.length_append]; omega) hd with
      ⟨c₄₀, rfl, _, hd₀⟩ | hgaps
    · left
      refine ⟨_, Option.bind_eq_some_iff.mpr ⟨_, hh₀, Option.bind_eq_some_iff.mpr ⟨_, hl₀,
        Option.bind_eq_some_iff.mpr ⟨_, hb₀, Option.bind_eq_some_iff.mpr ⟨_,
          (lines_fuel (Nat.le_succ _) ?_).trans hd₀, rfl⟩⟩⟩⟩, rfl⟩
      simp only [cursor_rest, List.length_append]
      omega
    · exact .inr ⟨ht, hgaps⟩
  · have hp' := hp.trans ((precedes_breaks hb).trans (precedes_lines hd))
    exact .inr ⟨ht, f.gaps_of_precedes h₂ hp'⟩

end Blocks

end DirectiveDocs.Yaml.Frame
