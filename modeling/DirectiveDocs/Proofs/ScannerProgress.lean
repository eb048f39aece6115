import DirectiveDocs.Yaml.Layout
import Mathlib.Data.List.TakeWhile

namespace DirectiveDocs.Yaml

/-- A place is at another one of the same text or before it. -/
structure Cursor.Precedes (c c' : Cursor) : Prop where
  rest : c'.rest <:+ c.rest
  index : c.mark.index ≤ c'.mark.index
  line : c.mark.line ≤ c'.mark.line

/-- A place is after another one, with at least one character between them. -/
structure Cursor.Passes (c c' : Cursor) : Prop extends c.Precedes c' where
  lt : c'.rest.length < c.rest.length

namespace Cursor

variable {c c' c'' : Cursor}

namespace Precedes

@[refl] theorem refl (c : Cursor) : c.Precedes c :=
  ⟨List.suffix_refl _, Nat.le_refl _, Nat.le_refl _⟩

theorem trans (h : c.Precedes c') (h' : c'.Precedes c'') : c.Precedes c'' :=
  ⟨h'.rest.trans h.rest, h.index.trans h'.index, h.line.trans h'.line⟩

theorem length_le (h : c.Precedes c') : c'.rest.length ≤ c.rest.length :=
  h.rest.length_le

theorem trans_passes (h : c.Precedes c') (h' : c'.Passes c'') : c.Passes c'' :=
  ⟨h.trans h'.toPrecedes, Nat.lt_of_lt_of_le h'.lt h.length_le⟩

end Precedes

theorem Passes.trans_precedes (h : c.Passes c') (h' : c'.Precedes c'') : c.Passes c'' :=
  ⟨h.toPrecedes.trans h', Nat.lt_of_le_of_lt h'.length_le h.lt⟩

theorem precedes_skip (c : Cursor) (n : Nat) : c.Precedes (c.skip n) :=
  ⟨List.drop_suffix n _, Nat.le_add_right _ _, Nat.le_refl _⟩

theorem passes_skip (hne : c.rest ≠ []) (n : Nat) : c.Passes (c.skip (n + 1)) := by
  have hpos := List.length_pos_iff.mpr hne
  refine ⟨precedes_skip c _, ?_⟩
  simp only [skip, List.length_drop]
  omega

theorem precedes_upTo {rest : List Char} (h : rest <:+ c.rest) : c.Precedes (c.upTo rest) :=
  ⟨h, Nat.le_add_right _ _, Nat.le_refl _⟩

theorem precedes_skipBreak (c : Cursor) : c.Precedes c.skipBreak := by
  unfold skipBreak
  split
  · rename_i h
    exact ⟨⟨['\r', '\n'], h.symm⟩, Nat.le_add_right _ _, Nat.le_succ _⟩
  · rename_i h
    split
    · exact ⟨⟨[_], h.symm⟩, Nat.le_succ _, Nat.le_succ _⟩
    · rfl
  · rfl

theorem precedes_skipWhile (p : Char → Bool) (c : Cursor) : c.Precedes (c.skipWhile p) :=
  precedes_upTo (List.dropWhile_suffix p)

theorem precedes_skipComment (c : Cursor) : c.Precedes c.skipComment := by
  unfold skipComment
  split
  · exact precedes_skipWhile _ c
  · rfl

theorem precedes_finishLine (h : c.finishLine? = some c') : c.Precedes c' := by
  rw [finishLine?] at h
  obtain ⟨_, ⟨⟩⟩ := Option.ite_none_right_eq_some.mp h
  exact (precedes_skipWhile _ c).trans
    ((precedes_skipComment _).trans (precedes_skipBreak _))

/-- A break takes a character. -/
theorem length_skipBreak_lt (h : c.rest.head?.any isBreak = true) :
    c.skipBreak.rest.length < c.rest.length := by
  unfold skipBreak
  cases hr : c.rest with
  | nil => simp [hr] at h
  | cons x rest =>
    have hx : isBreak x = true := by simpa [hr] using h
    split
    · rename_i he
      cases he
      simp only [List.length_cons]
      omega
    · rename_i he
      cases he
      simp [hx]
    · rename_i he
      cases he

end Cursor

open Cursor

theorem Gap.precedes_read {column fuel : Nat} {g g' : Gap} {c c' : Cursor}
    (h : Gap.read column fuel g c = some (g', c')) : c.Precedes c' := by
  induction fuel generalizing g c with
  | zero =>
    cases h
    rfl
  | succ fuel ih =>
    rw [Gap.read] at h
    split at h
    · split at h
      · split at h
        · split at h
          · cases h
          · exact (precedes_skip c 1).trans (ih h)
        · exact (precedes_skip c 1).trans (ih h)
      · split at h
        · exact (precedes_skipBreak c).trans (ih h)
        · cases h
          rfl
    · cases h
      rfl

namespace Plain

theorem word_eq_some {inFlow : Bool} {cs w rest : List Char}
    (h : word inFlow cs = some (w, rest)) : w ++ rest = cs := by
  induction cs generalizing w with
  | nil =>
    cases h
    rfl
  | cons x cs ih =>
    rw [word] at h
    split at h
    · cases h
      rfl
    · split at h
      · cases h
      · split at h
        · cases h
          rfl
        · obtain ⟨⟨w, rest⟩, hw, he⟩ := Option.map_eq_some_iff.mp h
          cases he
          rw [List.cons_append, ih hw]

/-- A scalar ends before a separator, a comment or an indicator, or it goes on with a word, after
which it ends at once, or after a gap at a line of less indentation, or goes on. -/
theorem words_succ_eq_some_iff {inFlow : Bool} {column fuel : Nat} {text : List Char} {gap : Gap}
    {c : Cursor} {s : ScalarText} : words inFlow column (fuel + 1) text gap c = some s ↔
      (c.isDocumentIndicator || c.rest.head? == some '#') = true ∧ s = ⟨text, c, gap.broken⟩ ∨
      (c.isDocumentIndicator || c.rest.head? == some '#') = false ∧
        ∃ w rest, word inFlow c.rest = some (w, rest) ∧
          (w = [] ∧ s = ⟨text, c.upTo rest, gap.broken⟩ ∨
          w ≠ [] ∧
            ((!wordEnds rest || rest.isEmpty) = true ∧
              s = ⟨text ++ gap.text ++ w, c.upTo rest, false⟩ ∨
            (!wordEnds rest || rest.isEmpty) = false ∧
              ∃ g c', Gap.read column (rest.length + 1) .empty (c.upTo rest) = some (g, c') ∧
                ((!inFlow && c'.mark.column < column) = true ∧
                  s = ⟨text ++ gap.text ++ w, c', g.broken⟩ ∨
                (!inFlow && c'.mark.column < column) = false ∧
                  words inFlow column fuel (text ++ gap.text ++ w) g c' = some s))) := by
  rw [words]
  cases hend : c.isDocumentIndicator || c.rest.head? == some '#' with
  | true =>
    simp only [if_true, true_and, Bool.true_eq_false, false_and, or_false, Option.some.injEq]
    exact eq_comm
  | false =>
    simp only [Bool.false_eq_true, if_false, false_and, false_or, true_and, Option.bind_eq_bind,
      Option.bind_eq_some_iff, Prod.exists]
    refine exists₂_congr (fun w rest => and_congr_right (fun _ => ?_))
    by_cases hw : w = []
    · simp only [hw, List.isEmpty_nil, if_true, true_and, ne_eq, not_true, false_and, or_false,
        Option.some.injEq]
      exact eq_comm
    · simp only [hw, List.isEmpty_iff, if_false, false_and, false_or, ne_eq, not_false_eq_true,
        true_and]
      change (if (!wordEnds rest || rest.isEmpty) = true then _ else _) = _ ↔ _
      cases !wordEnds rest || rest.isEmpty with
      | true =>
        simp only [if_true, true_and, Bool.true_eq_false, false_and, or_false, Option.some.injEq]
        exact eq_comm
      | false =>
        simp only [Bool.false_eq_true, if_false, false_and, false_or, true_and,
          Option.bind_eq_some_iff, Prod.exists]
        refine exists₂_congr (fun g c' => and_congr_right (fun _ => ?_))
        cases !inFlow && decide (c'.mark.column < column) with
        | true =>
          simp only [if_true, true_and, Bool.true_eq_false, false_and, or_false, Option.some.injEq]
          exact eq_comm
        | false =>
          simp only [Bool.false_eq_true, if_false, false_and, false_or, true_and]

theorem precedes_words {inFlow : Bool} {column fuel : Nat} {text : List Char} {gap : Gap}
    {c : Cursor} {s : ScalarText} (h : words inFlow column fuel text gap c = some s) :
    c.Precedes s.stop := by
  induction fuel generalizing text gap c with
  | zero => cases h
  | succ fuel ih =>
    rcases words_succ_eq_some_iff.mp h with ⟨_, rfl⟩ | ⟨_, w, rest, hw, h⟩
    · rfl
    · have hc : c.Precedes (c.upTo rest) := precedes_upTo ⟨w, word_eq_some hw⟩
      rcases h with ⟨_, rfl⟩ | ⟨_, ⟨_, rfl⟩ | ⟨_, g, c', hg, h⟩⟩
      · exact hc
      · exact hc
      · have hg := hc.trans (Gap.precedes_read hg)
        rcases h with ⟨_, rfl⟩ | ⟨_, h⟩
        · exact hg
        · exact hg.trans (ih h)

end Plain

namespace Quoted

theorem suffix_escape {cs rest : List Char} {y : Char} (h : escape? cs = some (y, rest)) :
    rest <:+ cs := by
  cases cs with
  | nil => cases h
  | cons x cs =>
    rw [escape?] at h
    split at h
    · cases h
      exact List.suffix_cons x _
    · rename_i n _ _
      split at h
      · cases h
      · obtain ⟨_, _, h⟩ := Option.bind_eq_some_iff.mp h
        obtain ⟨_, _, h⟩ := Option.bind_eq_some_iff.mp h
        cases h
        exact (List.drop_suffix n cs).trans (List.suffix_cons x cs)
    · cases h

theorem suffix_word {double : Bool} {fuel : Nat} {cs w rest : List Char}
    (h : word double fuel cs = some (w, rest)) : rest <:+ cs := by
  induction fuel generalizing cs w with
  | zero =>
    cases h
    exact List.suffix_refl _
  | succ fuel ih =>
    have hmap {y : Char} {cs' : List Char}
        (h : (word double fuel cs').map (fun p => (y :: p.1, p.2)) = some (w, rest)) :
        rest <:+ cs' := by
      obtain ⟨⟨w', r⟩, hw, he⟩ := Option.map_eq_some_iff.mp h
      cases he
      exact ih hw
    cases cs with
    | nil =>
      cases h
      exact List.suffix_refl _
    | cons x cs =>
      simp only [word] at h
      split at h
      · cases h
        exact List.suffix_refl _
      · split at h
        · split at h
          · cases h
            exact List.suffix_refl _
          · split at h
            · split at h
              · cases h
                exact List.suffix_refl _
              · obtain ⟨⟨y, cs'⟩, he, h⟩ := Option.bind_eq_some_iff.mp h
                obtain ⟨⟨w', r⟩, hw, h⟩ := Option.bind_eq_some_iff.mp h
                cases h
                exact ((ih hw).trans (suffix_escape he)).trans (List.suffix_cons x cs)
            · exact (hmap h).trans (List.suffix_cons x cs)
        · split at h
          · split at h
            · exact (hmap h).trans ((List.suffix_cons _ _).trans (List.suffix_cons _ _))
            · cases h
              exact List.suffix_refl _
          · exact (hmap h).trans (List.suffix_cons x cs)

def closing (double : Bool) : Char :=
  if double then '"' else '\''

/-- Whether a backslash stands here, and the place after it and the break that it hides. -/
def continuation (c : Cursor) : Bool × Cursor :=
  match c.rest with
  | '\\' :: _ => (true, c.skip.skipBreak)
  | _ => (false, c)

theorem continuation_eq (c : Cursor) :
    continuation c =
      if c.rest.head? == some '\\' then (true, c.skip.skipBreak) else (false, c) := by
  unfold continuation
  split
  · rename_i hr
    simp [hr]
  · rename_i hr
    rw [if_neg]
    intro he
    cases hc : c.rest with
    | nil => simp [hc] at he
    | cons x rest =>
      obtain rfl : x = '\\' := by simpa [hc] using he
      exact hr rest hc

theorem precedes_continuation (c : Cursor) : c.Precedes (continuation c).2 := by
  rw [continuation_eq]
  split
  · exact (precedes_skip c 1).trans (precedes_skipBreak _)
  · rfl

/-- A scalar goes on with a word, after which it ends, or with a word, a gap and more of it. -/
theorem words_succ_eq_some_iff {double : Bool} {fuel : Nat} {text : List Char} {c : Cursor}
    {s : ScalarText} : words double (fuel + 1) text c = some s ↔
      (c.isDocumentIndicator || c.rest.isEmpty) = false ∧
      ∃ w rest, word double c.rest.length c.rest = some (w, rest) ∧
        (((continuation (c.upTo rest)).2.rest.head? = some (closing double) ∧
          s = ⟨text ++ w, (continuation (c.upTo rest)).2.skip, false⟩) ∨
        ((continuation (c.upTo rest)).2.rest.head? ≠ some (closing double) ∧
          ∃ gap c', Gap.read 0 ((continuation (c.upTo rest)).2.rest.length + 1)
            { Gap.empty with broken := (continuation (c.upTo rest)).1 }
            (continuation (c.upTo rest)).2 = some (gap, c') ∧
          words double fuel (text ++ w ++ gap.text) c' = some s)) := by
  rw [words]
  split
  · rename_i h
    simp [h]
  · rename_i h
    rw [Bool.not_eq_true] at h
    simp only [h, true_and, Option.bind_eq_bind, Option.bind_eq_some_iff, Prod.exists]
    refine exists₂_congr (fun w rest => and_congr_right (fun _ => ?_))
    change (if ((continuation (c.upTo rest)).2.rest.head? == some (closing double)) = true then
        some ⟨text ++ w, (continuation (c.upTo rest)).2.skip, false⟩
      else
        (Gap.read 0 ((continuation (c.upTo rest)).2.rest.length + 1)
          { Gap.empty with broken := (continuation (c.upTo rest)).1 }
          (continuation (c.upTo rest)).2).bind
          (fun p => words double fuel (text ++ w ++ p.1.text) p.2)) = some s ↔ _
    generalize continuation (c.upTo rest) = p
    split
    · rename_i hq
      simp [eq_of_beq hq, eq_comm]
    · rename_i hq
      simp only [beq_iff_eq] at hq
      simp [hq, Option.bind_eq_some_iff]

theorem precedes_words {double : Bool} {fuel : Nat} {text : List Char} {c : Cursor} {s : ScalarText}
    (h : words double fuel text c = some s) : c.Precedes s.stop := by
  induction fuel generalizing text c with
  | zero => cases h
  | succ fuel ih =>
    obtain ⟨_, w, rest, hw, h⟩ := words_succ_eq_some_iff.mp h
    have hc := (precedes_upTo (suffix_word hw)).trans (precedes_continuation _)
    rcases h with ⟨_, rfl⟩ | ⟨_, gap, c', hg, h⟩
    · exact hc.trans (precedes_skip _ 1)
    · exact (hc.trans (Gap.precedes_read hg)).trans (ih h)

end Quoted

namespace Block

theorem precedes_chomping {c c' : Cursor} {chomping : Chomping}
    (h : chomping? c = some (chomping, c')) : c.Precedes c' := by
  unfold chomping? at h
  split at h
  · cases h
    exact precedes_skip c 1
  · cases h
    exact precedes_skip c 1
  · cases h

theorem precedes_indentation {c c' : Cursor} {n : Option Nat}
    (h : indentation c = some (n, c')) : c.Precedes c' := by
  unfold indentation at h
  split at h
  · split at h
    · cases h
    · split at h
      · cases h
        exact precedes_skip c 1
      · cases h
        rfl
  · cases h
    rfl

theorem precedes_header {c c' : Cursor} {head : Header} (h : header c = some (head, c')) :
    c.Precedes c' := by
  unfold header at h
  split at h
  · rename_i hc
    obtain ⟨⟨n, c''⟩, hn, h⟩ := Option.bind_eq_some_iff.mp h
    cases h
    exact (precedes_chomping hc).trans (precedes_indentation hn)
  · obtain ⟨⟨n, c''⟩, hn, h⟩ := Option.bind_eq_some_iff.mp h
    dsimp only at h
    split at h
    · rename_i hc
      cases h
      exact (precedes_indentation hn).trans (precedes_chomping hc)
    · cases h
      exact precedes_indentation hn

def indentWidth (column : Option Nat) (c : Cursor) : Nat :=
  let spaces := (c.rest.takeWhile (· == ' ')).length
  match column with
  | some n => min spaces (n - c.mark.column)
  | none => spaces

theorem breaks_succ (column : Option Nat) (fuel widest : Nat) (text : List Char) (c : Cursor) :
    breaks column (fuel + 1) widest text c =
      let c := c.skip (indentWidth column c)
      if column.all (fun n => c.mark.column < n) && c.rest.head? == some '\t' then none
      else if c.rest.head?.any isBreak then
        breaks column fuel (max widest c.mark.column) (text ++ c.breakText) c.skipBreak
      else some (max widest c.mark.column, text, c) :=
  rfl

theorem precedes_breaks {column : Option Nat} {fuel widest widest' : Nat} {text text' : List Char}
    {c c' : Cursor} (h : breaks column fuel widest text c = some (widest', text', c')) :
    c.Precedes c' := by
  induction fuel generalizing widest text c with
  | zero =>
    cases h
    rfl
  | succ fuel ih =>
    rw [breaks_succ] at h
    dsimp only at h
    split at h
    · cases h
    · split at h
      · exact ((precedes_skip c _).trans (precedes_skipBreak _)).trans (ih h)
      · cases h
        exact precedes_skip c _

theorem precedes_lines {isLiteral : Bool} {column fuel : Nat} {d d' : Draft} {c c' : Cursor}
    (h : lines isLiteral column fuel d c = some (d', c')) : c.Precedes c' := by
  induction fuel generalizing d c with
  | zero =>
    cases h
    rfl
  | succ fuel ih =>
    rw [lines] at h
    split at h
    · cases h
      rfl
    · dsimp only at h
      split at h
      · rename_i hb
        exact (((precedes_skip c _).trans (precedes_skipBreak _)).trans
          (precedes_breaks hb)).trans (ih h)
      · cases h

end Block

/-- After its indicator a block scalar goes on. -/
theorem precedes_blockScalar {isLiteral : Bool} {block : Option Nat} {c : Cursor} {s : ScalarText}
    (h : blockScalar isLiteral block c = some s) : c.skip.Precedes s.stop := by
  obtain ⟨⟨head, c₁⟩, hh, h⟩ := Option.bind_eq_some_iff.mp h
  obtain ⟨c₂, hl, h⟩ := Option.bind_eq_some_iff.mp h
  obtain ⟨⟨widest, empty, c₃⟩, hb, h⟩ := Option.bind_eq_some_iff.mp h
  obtain ⟨⟨d, c₄⟩, hd, h⟩ := Option.bind_eq_some_iff.mp h
  cases h
  exact ((Block.precedes_header hh).trans (precedes_finishLine hl)).trans
    ((Block.precedes_breaks hb).trans (Block.precedes_lines hd))

theorem suffix_octet {cs rest : List Char} {n : Nat} (h : octet? cs = some (n, rest)) :
    rest <:+ cs ∧ rest.length < cs.length := by
  unfold octet? at h
  split at h
  · rename_i a b rest'
    obtain ⟨_, _, he⟩ := Option.map_eq_some_iff.mp h
    cases he
    refine ⟨⟨['%', a, b], rfl⟩, ?_⟩
    simp only [List.length_cons]
    omega
  · cases h

theorem suffix_octets {k value n : Nat} {cs rest : List Char}
    (h : octets? k value cs = some (n, rest)) : rest <:+ cs := by
  induction k generalizing value cs with
  | zero =>
    cases h
    exact List.suffix_refl _
  | succ k ih =>
    obtain ⟨⟨o, cs'⟩, ho, h⟩ := Option.bind_eq_some_iff.mp h
    dsimp only at h
    split at h
    · exact (ih h).trans (suffix_octet ho).1
    · cases h

theorem suffix_escapedChar {cs rest : List Char} {x : Char}
    (h : escapedChar? cs = some (x, rest)) : rest <:+ cs ∧ rest.length < cs.length := by
  obtain ⟨⟨o, cs'⟩, ho, h⟩ := Option.bind_eq_some_iff.mp h
  obtain ⟨n, _, h⟩ := Option.bind_eq_some_iff.mp h
  obtain ⟨⟨value, cs''⟩, hs, h⟩ := Option.bind_eq_some_iff.mp h
  cases h
  have hsuffix := suffix_octets hs
  obtain ⟨ho, hlt⟩ := suffix_octet ho
  exact ⟨hsuffix.trans ho, Nat.lt_of_le_of_lt hsuffix.length_le hlt⟩

theorem suffix_tagText {isMember : Char → Bool} {fuel : Nat} {cs w rest : List Char}
    (h : tagText isMember fuel cs = some (w, rest)) : rest <:+ cs := by
  induction fuel generalizing cs w with
  | zero =>
    cases h
    exact List.suffix_refl _
  | succ fuel ih =>
    cases cs with
    | nil =>
      cases h
      exact List.suffix_refl _
    | cons x cs =>
      simp only [tagText] at h
      split at h
      · obtain ⟨⟨y, cs'⟩, he, h⟩ := Option.bind_eq_some_iff.mp h
        obtain ⟨⟨w', r⟩, hw, h⟩ := Option.bind_eq_some_iff.mp h
        cases h
        exact (ih hw).trans (suffix_escapedChar he).1
      · split at h
        · obtain ⟨⟨w', r⟩, hw, he⟩ := Option.map_eq_some_iff.mp h
          cases he
          exact (ih hw).trans (List.suffix_cons x cs)
        · cases h
          exact List.suffix_refl _

theorem precedes_tagText {isMember : Char → Bool} {c c' : Cursor} {text : String}
    (h : tagText? isMember c = some (text, c')) : c.Precedes c' := by
  unfold tagText? at h
  split at h
  · cases h
  · cases h
  · rename_i hw
    cases h
    exact precedes_upTo (suffix_tagText hw)

theorem precedes_handleText (c : Cursor) : c.Precedes (handleText c).2 := by
  unfold handleText
  split
  · rename_i rest hr
    have hd : rest.dropWhile isNameChar <:+ c.rest :=
      hr ▸ (List.dropWhile_suffix _).trans (List.suffix_cons '!' rest)
    split
    · rename_i rest' hr'
      exact precedes_upTo ((List.suffix_cons '!' rest').trans (hr' ▸ hd))
    · exact precedes_upTo hd
  · rfl

/-- A handle takes at least its exclamation mark. -/
theorem passes_handleText {c : Cursor} {rest : List Char} (hr : c.rest = '!' :: rest) :
    c.Passes (handleText c).2 := by
  refine ⟨precedes_handleText c, ?_⟩
  have hd : (rest.dropWhile isNameChar).length < ('!' :: rest).length :=
    Nat.lt_succ_of_le (List.dropWhile_suffix _).length_le
  unfold handleText
  simp only [hr]
  split
  · rename_i rest' hr'
    rw [hr'] at hd
    exact Nat.lt_of_succ_lt hd
  · exact hd

theorem passes_tagParts {c c' : Cursor} {handle suffix : String} {rest : List Char}
    (hr : c.rest = '!' :: rest) (h : tagParts c = some (handle, suffix, c')) : c.Passes c' := by
  unfold tagParts at h
  split at h
  · obtain ⟨⟨text, c''⟩, ht, h⟩ := Option.bind_eq_some_iff.mp h
    obtain ⟨_, ⟨⟩⟩ := Option.ite_none_right_eq_some.mp h
    exact (passes_skip (by simp [hr]) 1).trans_precedes
      ((precedes_tagText ht).trans (precedes_skip _ 1))
  · have hp := passes_handleText hr
    dsimp only at h
    split at h
    · obtain ⟨⟨text, c''⟩, ht, h⟩ := Option.bind_eq_some_iff.mp h
      cases h
      exact hp.trans_precedes (precedes_tagText ht)
    · obtain ⟨⟨w, rest⟩, ht, h⟩ := Option.bind_eq_some_iff.mp h
      have ht := precedes_upTo (suffix_tagText ht)
      dsimp only at h
      split at h
      all_goals
        cases h
        exact hp.trans_precedes ht

theorem passes_scanTag {inFlow : Bool} {c c' : Cursor} {kind : TokenKind} {rest : List Char}
    (hr : c.rest = '!' :: rest) (h : scanTag inFlow c = some (kind, c')) : c.Passes c' := by
  obtain ⟨⟨handle, suffix, stop⟩, hp, h⟩ := Option.bind_eq_some_iff.mp h
  obtain ⟨_, ⟨⟩⟩ := Option.ite_none_right_eq_some.mp h
  exact passes_tagParts hr hp

theorem passes_scanName {c c' : Cursor} {name : String} (h : scanName c = some (name, c')) :
    c.Passes c' := by
  unfold scanName at h
  dsimp only at h
  split at h
  · cases h
  · rename_i hne
    obtain ⟨_, ⟨⟩⟩ := Option.ite_none_right_eq_some.mp h
    refine ⟨precedes_upTo (List.drop_suffix _ _), ?_⟩
    have hpos : 0 < (c.rest.takeWhile isNameChar).length := by
      simpa [List.length_pos_iff] using hne
    have := (List.takeWhile_prefix (l := c.rest) isNameChar).length_le
    simp only [upTo, List.length_drop]
    omega

theorem precedes_versionNumber {c c' : Cursor} {n : Nat} (h : versionNumber? c = some (n, c')) :
    c.Precedes c' := by
  unfold versionNumber? at h
  dsimp only at h
  split at h
  · cases h
  · obtain ⟨_, _, he⟩ := Option.map_eq_some_iff.mp h
    cases he
    exact precedes_skip c _

/-- After its percent sign a directive goes on. -/
theorem precedes_scanDirective {c c' : Cursor} {kind : TokenKind}
    (h : scanDirective c = some (kind, c')) : c.skip.Precedes c' := by
  have hskip (n : Nat) : c.skip.Precedes (c.skip (1 + n)) := by
    refine ⟨?_, ?_, Nat.le_refl _⟩
    · simpa [Cursor.skip, List.drop_drop, Nat.add_comm] using List.drop_suffix n (c.rest.drop 1)
    · simp only [Cursor.skip]
      omega
  unfold scanDirective at h
  dsimp only at h
  split at h
  · cases h
  · refine (hskip (c.skip.rest.takeWhile isNameChar).length).trans ?_
    split at h
    · obtain ⟨⟨major, c₁⟩, h₁, h⟩ := Option.bind_eq_some_iff.mp h
      obtain ⟨_, h⟩ := Option.ite_none_right_eq_some.mp h
      obtain ⟨⟨minor, c₂⟩, h₂, h⟩ := Option.bind_eq_some_iff.mp h
      obtain ⟨c₃, h₃, h⟩ := Option.bind_eq_some_iff.mp h
      cases h
      have hp₁ := (precedes_skipWhile _ _).trans (precedes_versionNumber h₁)
      have hp₂ := (precedes_skip c₁ 1).trans (precedes_versionNumber h₂)
      exact (hp₁.trans hp₂).trans (precedes_finishLine h₃)
    · obtain ⟨_, h⟩ := Option.ite_none_right_eq_some.mp h
      split at h
      · cases h
      · split at h
        · cases h
        · obtain ⟨⟨expansion, c₁⟩, h₁, h⟩ := Option.bind_eq_some_iff.mp h
          obtain ⟨_, h⟩ := Option.ite_none_right_eq_some.mp h
          obtain ⟨c₂, h₂, h⟩ := Option.bind_eq_some_iff.mp h
          cases h
          have hp₁ := (precedes_skipWhile _ _).trans (precedes_tagText h₁)
          exact ((precedes_skipWhile _ _).trans (precedes_handleText _)).trans
            (hp₁.trans (precedes_finishLine h₂))

namespace Layout

def pastMark (c : Cursor) : Cursor :=
  if c.mark.column = 0 ∧ c.rest.head? = some '\ufeff' then c.skip else c

def pastBlanks (inFlow keyAllowed : Bool) (c : Cursor) : Cursor :=
  ((pastMark c).skipWhile
    (fun x => x == ' ' || ((inFlow || !keyAllowed) && x == '\t'))).skipComment

theorem skipBlank_succ (inFlow : Bool) (fuel : Nat) (keyAllowed : Bool) (c : Cursor) :
    skipBlank inFlow (fuel + 1) keyAllowed c =
      let c := pastBlanks inFlow keyAllowed c
      if c.rest.head?.any isBreak then skipBlank inFlow fuel (keyAllowed || !inFlow) c.skipBreak
      else (keyAllowed, c) :=
  rfl

theorem precedes_pastMark (c : Cursor) : c.Precedes (pastMark c) := by
  unfold pastMark
  split
  · exact precedes_skip c 1
  · rfl

theorem precedes_pastBlanks (inFlow keyAllowed : Bool) (c : Cursor) :
    c.Precedes (pastBlanks inFlow keyAllowed c) :=
  (precedes_pastMark c).trans ((precedes_skipWhile _ _).trans (precedes_skipComment _))

theorem precedes_skipBlank (inFlow : Bool) (fuel : Nat) (keyAllowed : Bool) (c : Cursor) :
    c.Precedes (skipBlank inFlow fuel keyAllowed c).2 := by
  induction fuel generalizing keyAllowed c with
  | zero => rfl
  | succ fuel ih =>
    have hc := precedes_pastBlanks inFlow keyAllowed c
    rw [skipBlank_succ]
    dsimp only
    split
    · exact hc.trans ((precedes_skipBreak _).trans (ih _ _))
    · exact hc

theorem dropKey_eq {l l' : Layout} (h : l.dropKey = some l') : l' = { l with pending := none } := by
  unfold dropKey at h
  split at h
  · obtain ⟨_, ⟨⟩⟩ := Option.ite_none_left_eq_some.mp h
    rfl
  · rename_i hp
    cases h
    rw [← hp]

theorem saveKey_eq {l l' : Layout} (h : l.saveKey = some l') :
    ∃ k, l' = { l with pending := k } := by
  unfold saveKey at h
  split at h
  · obtain ⟨l₁, h₁, h⟩ := Option.bind_eq_some_iff.mp h
    cases h
    rw [dropKey_eq h₁]
    exact ⟨_, rfl⟩
  · cases h
    exact ⟨l.pending, rfl⟩

theorem cursor_dropKey {l l' : Layout} (h : l.dropKey = some l') : l'.cursor = l.cursor := by
  rw [dropKey_eq h]

theorem cursor_saveKey {l l' : Layout} (h : l.saveKey = some l') : l'.cursor = l.cursor := by
  obtain ⟨k, rfl⟩ := saveKey_eq h
  rfl

theorem cursor_endBlocks (m : Mark) (columns : List Nat) (l : Layout) :
    (endBlocks m columns l).cursor = l.cursor := by
  induction columns generalizing l with
  | nil => rfl
  | cons _ columns ih => exact ih _

theorem cursor_closeBlocks (isClosed : Nat → Bool) (l : Layout) :
    (l.closeBlocks isClosed).cursor = l.cursor := by
  unfold closeBlocks
  split
  · rfl
  · exact cursor_endBlocks _ _ _

theorem cursor_leaveBlocks {l l' : Layout} (h : l.leaveBlocks = some l') :
    l'.cursor = l.cursor := by
  obtain ⟨l₁, h₁, h⟩ := Option.bind_eq_some_iff.mp h
  cases h
  exact (cursor_dropKey h₁).trans (cursor_closeBlocks _ l)

theorem cursor_openBlock (kind : TokenKind) (l : Layout) :
    (l.openBlock kind).cursor = l.cursor := by
  unfold openBlock
  dsimp only
  split <;> rfl

/-- Where a plain scalar may start, it has a word. -/
theorem word_ne_nil_of_startsPlain {inFlow : Bool} {x : Char} {cs w rest : List Char}
    (hs : startsPlain inFlow x cs = true) (h : Plain.word inFlow (x :: cs) = some (w, rest)) :
    w ≠ [] := by
  rw [Plain.word] at h
  split at h
  · rename_i hgap
    have hx : x ≠ '-' ∧ x ≠ '?' ∧ x ≠ ':' := by
      refine ⟨?_, ?_, ?_⟩ <;> rintro rfl <;> exact absurd hgap (by decide)
    simp [startsPlain, hgap, hx] at hs
  · split at h
    · cases h
    · split at h
      · rename_i hend
        rcases (Bool.or_eq_true _ _).mp hend with he | he
        · obtain ⟨hx, he⟩ := (Bool.and_eq_true _ _).mp he
          obtain rfl := eq_of_beq hx
          have hw : wordEnds cs = true := he
          have hi : isIndicator ':' = true := by decide
          simp [startsPlain, hw, hi] at hs
        · obtain ⟨hf, he⟩ := (Bool.and_eq_true _ _).mp he
          have hx : isIndicator x = true ∧ x ≠ '-' := by
            simp only [isFlowIndicator, Bool.or_eq_true, beq_iff_eq] at he
            rcases he with (((rfl | rfl) | rfl) | rfl) | rfl <;> decide
          simp [startsPlain, hf, hx] at hs
      · obtain ⟨⟨w', r⟩, _, he⟩ := Option.map_eq_some_iff.mp h
        cases he
        exact List.cons_ne_nil _ _

/-- A plain scalar takes a character at least. -/
theorem passes_plainScalar {inFlow : Bool} {column : Nat} {c : Cursor} {x : Char} {cs : List Char}
    {s : ScalarText} (hr : c.rest = x :: cs) (hs : startsPlain inFlow x cs = true)
    (hd : c.isDocumentIndicator = false) (h : plainScalar inFlow column c = some s) :
    c.Passes s.stop := by
  have hx : x ≠ '#' := by
    rintro rfl
    have hi : isIndicator '#' = true := by decide
    simp [startsPlain, hi] at hs
  have hstart : (c.isDocumentIndicator || c.rest.head? == some '#') = false := by
    simp [hd, hr, hx]
  rcases Plain.words_succ_eq_some_iff.mp h with ⟨he, _⟩ | ⟨_, w, rest, hw, h⟩
  · rw [hstart] at he
    cases he
  · have hne := word_ne_nil_of_startsPlain hs (hr ▸ hw)
    have hc : c.Passes (c.upTo rest) := by
      have hcs := Plain.word_eq_some hw
      refine ⟨precedes_upTo ⟨w, hcs⟩, ?_⟩
      have hpos := List.length_pos_iff.mpr hne
      simp only [upTo, ← hcs, List.length_append]
      omega
    rcases h with ⟨he, _⟩ | ⟨_, ⟨_, rfl⟩ | ⟨_, g, c', hg, h⟩⟩
    · exact absurd he hne
    · exact hc
    · have hg := hc.trans_precedes (Gap.precedes_read hg)
      rcases h with ⟨_, rfl⟩ | ⟨_, h⟩
      · exact hg
      · exact hg.trans_precedes (Plain.precedes_words h)

section Operations

variable {l l' : Layout} (hne : l.cursor.rest ≠ [])

include hne

theorem passes_openFlow {kind : TokenKind} (h : l.openFlow kind = some l') :
    l.cursor.Passes l'.cursor := by
  obtain ⟨l₁, h₁, h⟩ := Option.bind_eq_some_iff.mp h
  cases h
  rw [← cursor_saveKey h₁] at hne ⊢
  exact passes_skip hne 0

theorem passes_closeFlow {kind : TokenKind} (h : l.closeFlow kind = some l') :
    l.cursor.Passes l'.cursor := by
  obtain ⟨l₁, h₁, h⟩ := Option.bind_eq_some_iff.mp h
  rw [← cursor_dropKey h₁] at hne ⊢
  dsimp only at h
  split at h
  all_goals
    cases h
    exact passes_skip hne 0

theorem passes_flowEntry (h : l.flowEntry = some l') : l.cursor.Passes l'.cursor := by
  obtain ⟨l₁, h₁, h⟩ := Option.bind_eq_some_iff.mp h
  cases h
  rw [← cursor_dropKey h₁] at hne ⊢
  exact passes_skip hne 0

theorem passes_blockIndicator {block kind : TokenKind} {keyAllowed : Bool}
    (h : l.blockIndicator block kind keyAllowed = some l') : l.cursor.Passes l'.cursor := by
  obtain ⟨_, h⟩ := Option.ite_none_right_eq_some.mp h
  obtain ⟨l₁, h₁, h⟩ := Option.bind_eq_some_iff.mp h
  cases h
  rw [← cursor_openBlock block, ← cursor_dropKey h₁] at hne ⊢
  exact passes_skip hne 0

theorem passes_value (h : l.value = some l') : l.cursor.Passes l'.cursor := by
  unfold value at h
  split at h
  · dsimp only at h
    split at h
    all_goals
      cases h
      exact passes_skip hne 0
  · obtain ⟨_, h⟩ := Option.ite_none_right_eq_some.mp h
    cases h
    show l.cursor.Passes (l.openBlock _).cursor.skip
    rw [cursor_openBlock]
    exact passes_skip hne 0

theorem passes_directive (h : l.directive = some l') : l.cursor.Passes l'.cursor := by
  obtain ⟨l₁, h₁, h⟩ := Option.bind_eq_some_iff.mp h
  obtain ⟨⟨kind, stop⟩, hd, h⟩ := Option.bind_eq_some_iff.mp h
  cases h
  rw [← cursor_leaveBlocks h₁] at hne ⊢
  exact (passes_skip hne 0).trans_precedes (precedes_scanDirective hd)

theorem passes_documentLine {kind : TokenKind} (h : l.documentLine kind = some l') :
    l.cursor.Passes l'.cursor := by
  obtain ⟨l₁, h₁, h⟩ := Option.bind_eq_some_iff.mp h
  cases h
  rw [← cursor_leaveBlocks h₁] at hne ⊢
  exact passes_skip hne 2

theorem passes_block {isLiteral : Bool} (h : l.block isLiteral = some l') :
    l.cursor.Passes l'.cursor := by
  obtain ⟨l₁, h₁, h⟩ := Option.bind_eq_some_iff.mp h
  obtain ⟨s, hs, h⟩ := Option.bind_eq_some_iff.mp h
  cases h
  rw [← cursor_dropKey h₁] at hne ⊢
  exact (passes_skip hne 0).trans_precedes (precedes_blockScalar hs)

omit hne

/-- A token that may be a key takes a character when its scanner does. -/
theorem passes_keyPart {scan : Layout → Option (TokenKind × Cursor)}
    (hscan : ∀ l₁ : Layout, l₁.cursor = l.cursor → ∀ kind stop, scan l₁ = some (kind, stop) →
      l.cursor.Passes stop)
    (h : l.keyPart scan = some l') : l.cursor.Passes l'.cursor := by
  obtain ⟨l₁, h₁, h⟩ := Option.bind_eq_some_iff.mp h
  obtain ⟨⟨kind, stop⟩, h₂, h⟩ := Option.bind_eq_some_iff.mp h
  cases h
  exact hscan l₁ (cursor_saveKey h₁) kind stop h₂

end Operations

theorem passes_named {kind : String → TokenKind} {l : Layout} {k : TokenKind} {stop : Cursor}
    (hne : l.cursor.rest ≠ []) (h : named kind l = some (k, stop)) : l.cursor.Passes stop := by
  obtain ⟨⟨name, stop'⟩, hn, he⟩ := Option.map_eq_some_iff.mp h
  cases he
  exact (passes_skip hne 0).trans_precedes (passes_scanName hn).toPrecedes

theorem passes_quoted {double : Bool} {l : Layout} {k : TokenKind} {stop : Cursor}
    (hne : l.cursor.rest ≠ []) (h : quoted double l = some (k, stop)) : l.cursor.Passes stop := by
  obtain ⟨s, hs, he⟩ := Option.map_eq_some_iff.mp h
  cases he
  exact (passes_skip hne 0).trans_precedes (Quoted.precedes_words hs)

theorem passes_plain {l l' : Layout} {x : Char} {cs : List Char} (hr : l.cursor.rest = x :: cs)
    (hs : startsPlain l.inFlow x cs = true) (hd : l.cursor.isDocumentIndicator = false)
    (h : l.plain = some l') : l.cursor.Passes l'.cursor := by
  obtain ⟨l₁, h₁, h⟩ := Option.bind_eq_some_iff.mp h
  obtain ⟨s, hp, h⟩ := Option.bind_eq_some_iff.mp h
  obtain ⟨k, rfl⟩ := saveKey_eq h₁
  cases h
  exact passes_plainScalar hr hs hd hp

/-- A token takes at least one character. -/
theorem passes_token {l l' : Layout} (h : l.token = some l') : l.cursor.Passes l'.cursor := by
  unfold token at h
  split at h
  · cases h
  · rename_i x rest hr
    have hne : l.cursor.rest ≠ [] := by simp [hr]
    dsimp only at h
    rcases ite_eq_iff.mp h with ⟨_, h⟩ | ⟨_, h⟩
    · exact passes_directive hne h
    rcases ite_eq_iff.mp h with ⟨hd, h⟩ | ⟨hs, h⟩
    · exact passes_documentLine hne h
    rcases ite_eq_iff.mp h with ⟨hd, h⟩ | ⟨he, h⟩
    · exact passes_documentLine hne h
    rcases ite_eq_iff.mp h with ⟨_, h⟩ | ⟨_, h⟩
    · exact passes_openFlow hne h
    rcases ite_eq_iff.mp h with ⟨_, h⟩ | ⟨_, h⟩
    · exact passes_openFlow hne h
    rcases ite_eq_iff.mp h with ⟨_, h⟩ | ⟨_, h⟩
    · exact passes_closeFlow hne h
    rcases ite_eq_iff.mp h with ⟨_, h⟩ | ⟨_, h⟩
    · exact passes_closeFlow hne h
    rcases ite_eq_iff.mp h with ⟨_, h⟩ | ⟨_, h⟩
    · exact passes_flowEntry hne h
    rcases ite_eq_iff.mp h with ⟨_, h⟩ | ⟨_, h⟩
    · exact passes_blockIndicator hne h
    rcases ite_eq_iff.mp h with ⟨_, h⟩ | ⟨_, h⟩
    · exact passes_blockIndicator hne h
    rcases ite_eq_iff.mp h with ⟨_, h⟩ | ⟨_, h⟩
    · exact passes_value hne h
    rcases ite_eq_iff.mp h with ⟨_, h⟩ | ⟨_, h⟩
    · exact passes_keyPart (fun l₁ he kind stop hk => he ▸ passes_named (he ▸ hne) hk) h
    rcases ite_eq_iff.mp h with ⟨_, h⟩ | ⟨_, h⟩
    · exact passes_keyPart (fun l₁ he kind stop hk => he ▸ passes_named (he ▸ hne) hk) h
    rcases ite_eq_iff.mp h with ⟨hx, h⟩ | ⟨_, h⟩
    · exact passes_keyPart (fun l₁ he kind stop hk => passes_scanTag (hx ▸ hr) (he ▸ hk)) h
    rcases ite_eq_iff.mp h with ⟨_, h⟩ | ⟨_, h⟩
    · exact passes_block hne h
    rcases ite_eq_iff.mp h with ⟨_, h⟩ | ⟨_, h⟩
    · exact passes_block hne h
    rcases ite_eq_iff.mp h with ⟨_, h⟩ | ⟨_, h⟩
    · exact passes_keyPart (fun l₁ he kind stop hk => he ▸ passes_quoted (he ▸ hne) hk) h
    rcases ite_eq_iff.mp h with ⟨_, h⟩ | ⟨_, h⟩
    · exact passes_keyPart (fun l₁ he kind stop hk => he ▸ passes_quoted (he ▸ hne) hk) h
    rcases ite_eq_iff.mp h with ⟨hp, h⟩ | ⟨_, h⟩
    · have hd : l.cursor.isDocumentIndicator = false := by
        simpa [isDocumentIndicator] using And.intro hs he
      exact passes_plain hr hp hd h
    · cases h

end Layout

end DirectiveDocs.Yaml
