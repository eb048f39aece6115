import DirectiveDocs.Proofs.ScannerProgress

namespace DirectiveDocs.Yaml

open Cursor

theorem Gap.read_fuel {column fuel fuel' : Nat} {g : Gap} {c : Cursor} (h : c.rest.length ≤ fuel)
    (h' : c.rest.length ≤ fuel') : Gap.read column fuel g c = Gap.read column fuel' g c := by
  induction fuel generalizing fuel' g c with
  | zero =>
    have hr : c.rest = [] := List.length_eq_zero_iff.mp (by omega)
    cases fuel' <;> simp [Gap.read, hr]
  | succ fuel ih =>
    cases fuel' with
    | zero =>
      have hr : c.rest = [] := List.length_eq_zero_iff.mp (by omega)
      simp [Gap.read, hr]
    | succ fuel' =>
      cases hr : c.rest with
      | nil => simp [Gap.read, hr]
      | cons x rest =>
        have hskip : c.skip.rest.length < c.rest.length := (passes_skip (by simp [hr]) 0).lt
        simp only [Gap.read, hr]
        split
        · split
          · split
            · rfl
            · exact ih (by omega) (by omega)
          · exact ih (by omega) (by omega)
        · split
          · have hbreak := length_skipBreak_lt (c := c) (by simpa [hr])
            exact ih (by omega) (by omega)
          · rfl

theorem Plain.words_fuel {inFlow : Bool} {column fuel fuel' : Nat} {text : List Char} {gap : Gap}
    {c : Cursor} {s : ScalarText} (h : words inFlow column fuel text gap c = some s)
    (hf : c.rest.length < fuel') : words inFlow column fuel' text gap c = some s := by
  induction fuel generalizing fuel' text gap c with
  | zero => cases h
  | succ fuel ih =>
    cases fuel' with
    | zero => omega
    | succ fuel' =>
      refine words_succ_eq_some_iff.mpr ((words_succ_eq_some_iff.mp h).imp id ?_)
      rintro ⟨hend, w, rest, hw, h⟩
      refine ⟨hend, w, rest, hw, h.imp id ?_⟩
      rintro ⟨hne, h⟩
      refine ⟨hne, h.imp id ?_⟩
      rintro ⟨hmore, g, c', hg, h⟩
      refine ⟨hmore, g, c', hg, h.imp id ?_⟩
      rintro ⟨hcolumn, h⟩
      have hlen := congrArg List.length (word_eq_some hw)
      have hpos := List.length_pos_iff.mpr hne
      have hle : c'.rest.length ≤ rest.length := (Gap.precedes_read hg).length_le
      rw [List.length_append] at hlen
      exact ⟨hcolumn, ih h (by omega)⟩

/-- Where a gap starts, reading it takes a character. -/
theorem Gap.passes_read {column fuel : Nat} {g g' : Gap} {c c' : Cursor} {x : Char}
    {rest : List Char} (hr : c.rest = x :: rest) (hx : isGap x = true)
    (h : Gap.read column (fuel + 1) g c = some (g', c')) : c.Passes c' := by
  have hskip : c.Passes c.skip := passes_skip (by simp [hr]) 0
  simp only [Gap.read, hr] at h
  split at h
  · split at h
    · split at h
      · cases h
      · exact hskip.trans_precedes (Gap.precedes_read h)
    · exact hskip.trans_precedes (Gap.precedes_read h)
  · rename_i hs
    have hb : isBreak x = true := by simpa [isGap, hs] using hx
    rw [if_pos hb] at h
    have hbreak : c.Passes c.skipBreak :=
      ⟨precedes_skipBreak c, length_skipBreak_lt (by simpa [hr])⟩
    exact hbreak.trans_precedes (Gap.precedes_read h)

namespace Quoted

theorem word_fuel {double : Bool} {fuel fuel' : Nat} {cs : List Char} (h : cs.length ≤ fuel)
    (h' : cs.length ≤ fuel') : word double fuel cs = word double fuel' cs := by
  induction fuel generalizing fuel' cs with
  | zero =>
    obtain rfl : cs = [] := List.length_eq_zero_iff.mp (by omega)
    cases fuel' <;> rfl
  | succ fuel ih =>
    cases fuel' with
    | zero =>
      obtain rfl : cs = [] := List.length_eq_zero_iff.mp (by omega)
      rfl
    | succ fuel' =>
      cases cs with
      | nil => rfl
      | cons x cs =>
        rw [List.length_cons] at h h'
        have hle {cs' : List Char} (hs : cs' <:+ cs) :
            word double fuel cs' = word double fuel' cs' :=
          ih (hs.length_le.trans (by omega)) (hs.length_le.trans (by omega))
        have hrest := hle (List.suffix_refl cs)
        simp only [word, hrest]
        split
        · rfl
        · split
          · split
            · rfl
            · split
              · split
                · rfl
                · cases he : escape? cs with
                  | none => rfl
                  | some p =>
                    simp only [Option.bind_eq_bind, Option.bind_some, hle (suffix_escape he)]
              · rfl
          · split
            · split
              · rw [hle (List.suffix_cons _ _)]
              · rfl
            · rfl

/-- A word ends at a gap, at the quote, or at a backslash before a break. -/
theorem word_stop {double : Bool} {fuel : Nat} {cs w r : List Char} {x : Char}
    (hf : cs.length ≤ fuel) (h : word double fuel cs = some (w, x :: r)) :
    isGap x = true ∨ x = closing double ∨ x = '\\' ∧ r.head?.any isBreak = true := by
  induction fuel generalizing cs w with
  | zero =>
    obtain rfl : cs = [] := List.length_eq_zero_iff.mp (by omega)
    cases h
  | succ fuel ih =>
    cases cs with
    | nil => cases h
    | cons y cs =>
      rw [List.length_cons] at hf
      have hmap {z : Char} {cs' : List Char} (hs : cs' <:+ cs)
          (h : (word double fuel cs').map (fun p => (z :: p.1, p.2)) = some (w, x :: r)) :
          isGap x = true ∨ x = closing double ∨ x = '\\' ∧ r.head?.any isBreak = true := by
        obtain ⟨⟨w', r'⟩, hw, he⟩ := Option.map_eq_some_iff.mp h
        cases he
        exact ih (hs.length_le.trans (by omega)) hw
      simp only [word] at h
      split at h
      · rename_i hgap
        cases h
        exact .inl hgap
      · split at h
        · rename_i hd
          split at h
          · rename_i hy
            cases h
            exact .inr (.inl (by simp [closing, hd, hy]))
          · split at h
            · rename_i hy
              split at h
              · rename_i hb
                cases h
                exact .inr (.inr ⟨hy, hb⟩)
              · obtain ⟨⟨z, cs'⟩, he, h⟩ := Option.bind_eq_some_iff.mp h
                obtain ⟨⟨w', r'⟩, hw, h⟩ := Option.bind_eq_some_iff.mp h
                cases h
                exact ih ((suffix_escape he).length_le.trans (by omega)) hw
            · exact hmap (List.suffix_refl cs) h
        · rename_i hd
          split at h
          · rename_i hy
            split at h
            · exact hmap (List.suffix_cons _ _) h
            · cases h
              exact .inr (.inl (by simp [closing, hd, hy]))
          · exact hmap (List.suffix_refl cs) h

/-- A scalar goes on behind the gap or the hidden break that ends a word. -/
theorem passes_gap {double : Bool} {fuel : Nat} {text w rest : List Char} {gap : Gap}
    {c c' : Cursor} {s : ScalarText} (hw : word double c.rest.length c.rest = some (w, rest))
    (hclosed : (continuation (c.upTo rest)).2.rest.head? ≠ some (closing double))
    (hg : Gap.read 0 ((continuation (c.upTo rest)).2.rest.length + 1)
      { Gap.empty with broken := (continuation (c.upTo rest)).1 }
      (continuation (c.upTo rest)).2 = some (gap, c'))
    (h : words double fuel text c' = some s) : c.Passes c' := by
  have hc : c.Precedes (c.upTo rest) := precedes_upTo (suffix_word hw)
  refine hc.trans_passes ?_
  cases rest with
  | nil =>
    -- without the quote nothing is read from the end of the text
    have hc' : c'.rest = [] := List.suffix_nil.mp (Gap.precedes_read hg).rest
    cases fuel with
    | zero => cases h
    | succ fuel => simp [words, hc'] at h
  | cons x r =>
    by_cases hx : x = '\\'
    · subst hx
      have hj : continuation (c.upTo ('\\' :: r)) =
          (true, (c.upTo ('\\' :: r)).skip.skipBreak) := rfl
      rw [hj] at hg
      exact (passes_skip (List.cons_ne_nil _ _) 0).trans_precedes
        ((precedes_skipBreak _).trans (Gap.precedes_read hg))
    · have hj : continuation (c.upTo (x :: r)) = (false, c.upTo (x :: r)) := by
        unfold continuation
        split
        · rename_i he
          exact absurd (List.cons.inj he).1 hx
        · rfl
      rw [hj] at hg hclosed
      rcases word_stop (Nat.le_refl _) hw with hgap | rfl | ⟨rfl, _⟩
      · exact Gap.passes_read rfl hgap hg
      · exact absurd rfl hclosed
      · exact absurd rfl hx

theorem words_fuel {double : Bool} {fuel fuel' : Nat} {text : List Char} {c : Cursor}
    {s : ScalarText} (h : words double fuel text c = some s) (hf : c.rest.length < fuel') :
    words double fuel' text c = some s := by
  induction fuel generalizing fuel' text c with
  | zero => cases h
  | succ fuel ih =>
    cases fuel' with
    | zero => omega
    | succ fuel' =>
      obtain ⟨hstart, w, rest, hw, h⟩ := words_succ_eq_some_iff.mp h
      refine words_succ_eq_some_iff.mpr ⟨hstart, w, rest, hw, h.imp id ?_⟩
      rintro ⟨hclosed, gap, c', hg, h⟩
      have hlt := (passes_gap hw hclosed hg h).lt
      exact ⟨hclosed, gap, c', hg, ih h (by omega)⟩

end Quoted

theorem tagText_fuel {isMember : Char → Bool} {fuel fuel' : Nat} {cs : List Char}
    (h : cs.length ≤ fuel) (h' : cs.length ≤ fuel') :
    tagText isMember fuel cs = tagText isMember fuel' cs := by
  induction fuel generalizing fuel' cs with
  | zero =>
    obtain rfl : cs = [] := List.length_eq_zero_iff.mp (by omega)
    cases fuel' <;> rfl
  | succ fuel ih =>
    cases fuel' with
    | zero =>
      obtain rfl : cs = [] := List.length_eq_zero_iff.mp (by omega)
      rfl
    | succ fuel' =>
      cases cs with
      | nil => rfl
      | cons x cs =>
        rw [List.length_cons] at h h'
        have hrest : tagText isMember fuel cs = tagText isMember fuel' cs :=
          ih (by omega) (by omega)
        simp only [tagText, hrest]
        split
        · cases he : escapedChar? (x :: cs) with
          | none => rfl
          | some p =>
            have hlt := (suffix_escapedChar he).2
            rw [List.length_cons] at hlt
            have hp : tagText isMember fuel p.2 = tagText isMember fuel' p.2 :=
              ih (by omega) (by omega)
            simp only [Option.bind_eq_bind, Option.bind_some, hp]
        · rfl

namespace Block

theorem breaks_fuel {column : Option Nat} {fuel fuel' widest : Nat} {text : List Char} {c : Cursor}
    (h : c.rest.length < fuel) (h' : c.rest.length < fuel') :
    breaks column fuel widest text c = breaks column fuel' widest text c := by
  induction fuel generalizing fuel' widest text c with
  | zero => omega
  | succ fuel ih =>
    cases fuel' with
    | zero => omega
    | succ fuel' =>
      rw [breaks_succ, breaks_succ]
      dsimp only
      split
      · rfl
      · split
        · rename_i hb
          have hlt := length_skipBreak_lt hb
          have hle := (precedes_skip c (indentWidth column c)).length_le
          exact ih (by omega) (by omega)
        · rfl

/-- A line and its break take a character. -/
theorem passes_line {c : Cursor} (hne : c.rest ≠ []) :
    c.Passes (c.skip (c.rest.takeWhile (fun x => !isBreak x)).length).skipBreak := by
  cases hr : c.rest with
  | nil => exact absurd hr hne
  | cons x rest =>
    by_cases hx : isBreak x = true
    · have h0 : c.skip 0 = c := by simp [Cursor.skip]
      simp only [List.takeWhile_cons, hx, Bool.not_true, Bool.false_eq_true, if_false,
        List.length_nil, h0]
      exact ⟨precedes_skipBreak c, length_skipBreak_lt (by simpa [hr])⟩
    · simp only [List.takeWhile_cons, hx, Bool.not_false, if_true, List.length_cons]
      exact (passes_skip hne _).trans_precedes (precedes_skipBreak _)

theorem lines_fuel {isLiteral : Bool} {column fuel fuel' : Nat} {d : Draft} {c : Cursor}
    (h : c.rest.length ≤ fuel) (h' : c.rest.length ≤ fuel') :
    lines isLiteral column fuel d c = lines isLiteral column fuel' d c := by
  induction fuel generalizing fuel' d c with
  | zero =>
    have hr : c.rest = [] := List.length_eq_zero_iff.mp (by omega)
    cases fuel' <;> simp [lines, hr]
  | succ fuel ih =>
    cases fuel' with
    | zero =>
      have hr : c.rest = [] := List.length_eq_zero_iff.mp (by omega)
      simp [lines, hr]
    | succ fuel' =>
      rw [lines, lines]
      split
      · rfl
      · rename_i hgo
        have hne : c.rest ≠ [] := by
          rintro hr
          simp [hr] at hgo
        dsimp only
        split
        · rename_i hb
          have hlt := ((passes_line hne).trans_precedes (precedes_breaks hb)).lt
          exact ih (by omega) (by omega)
        · rfl

end Block

namespace Layout

/-- As many steps as there are characters pass over all blanks. -/
theorem skipBlank_fuel {inFlow : Bool} {fuel fuel' : Nat} {keyAllowed : Bool} {c : Cursor}
    (h : c.rest.length < fuel) (h' : c.rest.length < fuel') :
    skipBlank inFlow fuel keyAllowed c = skipBlank inFlow fuel' keyAllowed c := by
  induction fuel generalizing fuel' keyAllowed c with
  | zero => omega
  | succ fuel ih =>
    cases fuel' with
    | zero => omega
    | succ fuel' =>
      rw [skipBlank_succ, skipBlank_succ]
      dsimp only
      split
      · rename_i hb
        have hlt := length_skipBreak_lt hb
        have hle := (precedes_pastBlanks inFlow keyAllowed c).length_le
        exact ih (by omega) (by omega)
      · rfl

theorem cursor_dropStaleKeys {l l' : Layout} (h : l.dropStaleKeys = some l') :
    l'.cursor = l.cursor := by
  obtain ⟨pending, _, h⟩ := Option.bind_eq_some_iff.mp h
  obtain ⟨outer, _, h⟩ := Option.bind_eq_some_iff.mp h
  cases h
  rfl

def arrive (l : Layout) (p : Bool × Cursor) : Layout :=
  { l with keyAllowed := p.1, cursor := p.2 }

theorem advance_eq (l : Layout) {p : Bool × Cursor}
    (hp : skipBlank l.inFlow (l.cursor.rest.length + 1) l.keyAllowed l.cursor = p) :
    l.advance = (l.arrive p).dropStaleKeys.map (fun l => l.closeBlocks (p.2.mark.column < ·)) := by
  subst hp
  rw [advance, Option.map_eq_bind]
  rfl

theorem precedes_advance {l l' : Layout} (h : l.advance = some l') :
    l.cursor.Precedes l'.cursor := by
  have hp := precedes_skipBlank l.inFlow (l.cursor.rest.length + 1) l.keyAllowed l.cursor
  rw [advance_eq l rfl] at h
  generalize skipBlank l.inFlow (l.cursor.rest.length + 1) l.keyAllowed l.cursor = p at h hp
  obtain ⟨l₁, h₁, rfl⟩ := Option.map_eq_some_iff.mp h
  rw [cursor_closeBlocks, cursor_dropStaleKeys h₁]
  exact hp

/-- The tokens of a text do not depend on how many may be read, if those are more than the
characters. -/
theorem tokensFrom_fuel {fuel fuel' : Nat} {l l' : Layout} (h : tokensFrom fuel l = some l')
    (hf : l.cursor.rest.length < fuel') : tokensFrom fuel' l = some l' := by
  induction fuel generalizing fuel' l with
  | zero => cases h
  | succ fuel ih =>
    cases fuel' with
    | zero => omega
    | succ fuel' =>
      obtain ⟨l₁, ha, h⟩ := Option.bind_eq_some_iff.mp h
      have hle := (precedes_advance ha).length_le
      rw [tokensFrom, ha]
      simp only [Option.bind_eq_bind, Option.bind_some]
      split at h
      · rename_i he
        rwa [if_pos he]
      · rename_i he
        obtain ⟨l₂, ht, h⟩ := Option.bind_eq_some_iff.mp h
        have hlt := (passes_token ht).lt
        rw [if_neg he, ht, Option.bind_some]
        exact ih h (by omega)

end Layout

end DirectiveDocs.Yaml
