import DirectiveDocs.Proofs.ScannerFuel

namespace DirectiveDocs.Yaml

/-- What stands around a part of a text: how many characters and lines before it, and the blanks
after it. -/
structure Frame where
  index : Nat
  line : Nat
  trail : List Char
  blank : ∀ x ∈ trail, isGap x = true

/-- A test that fails on each kind of blank fails on all blanks. -/
theorem eq_false_of_isGap {p : Char → Bool}
    (hp : [' ', '\t', '\n', '\r', '\u0085', '\u2028', '\u2029'].any p = false) :
    ∀ x, isGap x = true → p x = false := by
  intro x hx
  refine Bool.eq_false_iff.mpr (List.any_eq_false.mp hp x ?_)
  simpa only [isGap, isSpace, isBreak, Bool.or_eq_true, beq_iff_eq, List.mem_cons, List.not_mem_nil,
    or_false, or_assoc] using hx

/-- A text with a character that is no digit is no number. -/
theorem natural?_gap {base : Nat} {cs : List Char} {x : Char} {n : Nat}
    (hx : Decimal.isDigit base x = false) (hm : x ∈ cs) : Decimal.natural? base cs ≠ some n := by
  intro h
  rw [Decimal.natural?] at h
  obtain ⟨hd, _⟩ := Option.ite_none_left_eq_some.mp h
  simp only [Bool.or_eq_true, Bool.not_eq_true', not_or, Bool.not_eq_false, List.all_eq_true] at hd
  rw [hd.2 x hm] at hx
  cases hx

/-- Characters of which the last one, if any, is no blank. -/
def Solid (cs : List Char) : Prop :=
  ∀ x, cs.getLast? = some x → isGap x = false

namespace Solid

variable {cs : List Char}

theorem of_suffix {rest : List Char} (h : Solid cs) (hs : rest <:+ cs) : Solid rest := by
  obtain ⟨before, rfl⟩ := hs
  intro x hx
  exact h x (by rw [List.getLast?_append, hx, Option.some_or])

theorem not_all_gaps (h : Solid cs) (hne : cs ≠ []) : ¬ ∀ x ∈ cs, isGap x = true := by
  intro hall
  have hl := List.getLast?_eq_some_getLast hne
  have := hall _ (List.getLast_mem hne)
  rw [h _ hl] at this
  cases this

theorem not_all (h : Solid cs) (hne : cs ≠ []) {p : Char → Bool}
    (hp : ∀ x, isGap x = false → p x = false) : ¬ ∀ x ∈ cs, p x = true := by
  intro hall
  refine h.not_all_gaps hne (fun x hx => ?_)
  cases hg : isGap x with
  | true => rfl
  | false => exact ((hp x hg).symm.trans (hall x hx))

end Solid

/-- A place from which a solid text goes on is not followed by blanks alone. -/
theorem Solid.rest_ne_nil_of_all {cs w rest : List Char} (h : Solid cs) (hne : cs ≠ [])
    (hc : w ++ rest = cs) (hw : ∀ x ∈ w, isGap x = true) : rest ≠ [] := by
  rintro rfl
  rw [List.append_nil] at hc
  exact h.not_all_gaps hne (hc ▸ hw)

theorem Cursor.skipComment_eq (c : Cursor) :
    c.skipComment = if c.rest.head? == some '#' then c.skipWhile (fun x => !isBreak x) else c := by
  unfold skipComment
  split
  · rename_i hr
    simp [hr]
  · rename_i hr
    rw [if_neg]
    intro he
    cases hc : c.rest with
    | nil => simp [hc] at he
    | cons x rest =>
      obtain rfl : x = '#' := by simpa [hc] using he
      exact hr rest hc

/-- A break is a carriage return with a line feed or one character. -/
theorem Cursor.skipBreak_cons (m : Mark) {x : Char} {rest : List Char} :
    Cursor.skipBreak ⟨m, x :: rest⟩ =
      if x = '\r' ∧ rest.head? = some '\n' then ⟨⟨m.index + 2, m.line + 1, 0⟩, rest.tail⟩
      else if isBreak x then ⟨⟨m.index + 1, m.line + 1, 0⟩, rest⟩ else ⟨m, x :: rest⟩ := by
  unfold skipBreak
  split
  · rename_i he
    cases he
    rfl
  · rename_i hne he
    cases he
    have hcr : ¬ (x = '\r' ∧ rest.head? = some '\n') := by
      rintro ⟨rfl, hh⟩
      cases rest with
      | nil => cases hh
      | cons y rest =>
        obtain rfl : y = '\n' := by simpa using hh
        exact hne rest rfl rfl
    rw [if_neg hcr]
  · rename_i he
    cases he

namespace Frame

variable (f : Frame)

/-- A place of the part as a place of the whole text. -/
def mark (m : Mark) : Mark :=
  ⟨m.index + f.index, m.line + f.line, m.column⟩

def cursor (c : Cursor) : Cursor :=
  ⟨f.mark c.mark, c.rest ++ f.trail⟩

@[simp] theorem mark_column (m : Mark) : (f.mark m).column = m.column := rfl

@[simp] theorem cursor_mark (c : Cursor) : (f.cursor c).mark = f.mark c.mark := rfl

@[simp] theorem cursor_rest (c : Cursor) : (f.cursor c).rest = c.rest ++ f.trail := rfl

section Characters

@[simp] theorem wordEnds_append (cs : List Char) : wordEnds (cs ++ f.trail) = wordEnds cs := by
  cases cs with
  | cons x cs => rfl
  | nil =>
    cases ht : f.trail with
    | nil => rfl
    | cons x t => exact f.blank x (ht ▸ List.mem_cons_self)

theorem any_head?_append {p : Char → Bool} (hp : ∀ x, isGap x = true → p x = false)
    (cs : List Char) : (cs ++ f.trail).head?.any p = cs.head?.any p := by
  cases cs with
  | cons x cs => rfl
  | nil =>
    cases ht : f.trail with
    | nil => rfl
    | cons x t => exact hp x (f.blank x (ht ▸ List.mem_cons_self))

theorem head?_append {cs : List Char} (hne : cs ≠ []) : (cs ++ f.trail).head? = cs.head? := by
  obtain ⟨x, cs, rfl⟩ := List.exists_cons_of_ne_nil hne
  rfl

theorem head?_append_beq {x : Char} (hx : isGap x = false) (cs : List Char) :
    ((cs ++ f.trail).head? == some x) = (cs.head? == some x) := by
  cases cs with
  | cons y cs => rfl
  | nil =>
    cases ht : f.trail with
    | nil => rfl
    | cons y t =>
      have hy := f.blank y (ht ▸ List.mem_cons_self)
      have hne : y ≠ x := by
        rintro rfl
        rw [hx] at hy
        cases hy
      simp [hne]

/-- Blanks do not complete a word. -/
theorem take_append_beq {w : List Char} (hw : w.any isGap = false) (cs : List Char) :
    ((cs ++ f.trail).take w.length == w) = (cs.take w.length == w) := by
  by_cases hl : w.length ≤ cs.length
  · rw [List.take_append_of_le_length hl]
  · have hshort : cs.take w.length ≠ w := by
      intro h
      have := congrArg List.length h
      rw [List.length_take] at this
      omega
    have hlong : (cs ++ f.trail).take w.length ≠ w := by
      cases ht : f.trail with
      | nil => rwa [List.append_nil]
      | cons y t =>
        intro h
        obtain ⟨k, hk⟩ : ∃ k, w.length - cs.length = k + 1 := ⟨w.length - cs.length - 1, by omega⟩
        have hy : y ∈ w := by
          rw [← h, List.take_append, hk, List.take_succ_cons]
          exact List.mem_append_right _ List.mem_cons_self
        have hgap := f.blank y (ht ▸ List.mem_cons_self)
        exact List.any_eq_false.mp hw y hy hgap
    rw [beq_eq_false_iff_ne.mpr hshort, beq_eq_false_iff_ne.mpr hlong]

variable {p : Char → Bool} (hp : ∀ x, isGap x = true → p x = false)

include hp

theorem takeWhile_trail : f.trail.takeWhile p = [] := by
  cases ht : f.trail with
  | nil => rfl
  | cons x t => simp [hp x (f.blank x (ht ▸ List.mem_cons_self))]

theorem dropWhile_trail : f.trail.dropWhile p = f.trail := by
  cases ht : f.trail with
  | nil => rfl
  | cons x t => simp [hp x (f.blank x (ht ▸ List.mem_cons_self))]

/-- A run of characters other than blanks ends where the part ends. -/
theorem takeWhile_append (cs : List Char) : (cs ++ f.trail).takeWhile p = cs.takeWhile p := by
  induction cs with
  | nil => exact f.takeWhile_trail hp
  | cons x cs ih => simp only [List.cons_append, List.takeWhile_cons, ih]

theorem dropWhile_append (cs : List Char) :
    (cs ++ f.trail).dropWhile p = cs.dropWhile p ++ f.trail := by
  induction cs with
  | nil => exact f.dropWhile_trail hp
  | cons x cs ih =>
    simp only [List.cons_append, List.dropWhile_cons, ih]
    split <;> rfl

end Characters

section Cursors

variable (c : Cursor)

theorem skip_cursor {n : Nat} (h : n ≤ c.rest.length) :
    (f.cursor c).skip n = f.cursor (c.skip n) := by
  simp only [Cursor.skip, cursor, mark, List.drop_append_of_le_length h, Nat.add_right_comm]

theorem upTo_cursor (rest : List Char) :
    (f.cursor c).upTo (rest ++ f.trail) = f.cursor (c.upTo rest) := by
  simp only [Cursor.upTo, cursor, mark, List.length_append, Nat.add_sub_add_right,
    Nat.add_right_comm]

theorem isDocumentLine_cursor {x : Char} (hx : isGap x = false) :
    (f.cursor c).isDocumentLine x = c.isDocumentLine x := by
  have htake := f.take_append_beq (w := [x, x, x]) (by simpa using hx) c.rest
  simp only [List.length_cons, List.length_nil, Nat.zero_add, Nat.reduceAdd] at htake
  simp only [Cursor.isDocumentLine, cursor_mark, mark_column, cursor_rest, htake]
  cases hd : c.rest.take 3 == [x, x, x] with
  | false => simp
  | true =>
    have hl := congrArg List.length (eq_of_beq hd)
    have hle : 3 ≤ c.rest.length := by
      simp only [List.length_take, List.length_cons, List.length_nil] at hl
      omega
    rw [List.drop_append_of_le_length hle, wordEnds_append]

theorem isDocumentIndicator_cursor :
    (f.cursor c).isDocumentIndicator = c.isDocumentIndicator := by
  rw [Cursor.isDocumentIndicator, Cursor.isDocumentIndicator, f.isDocumentLine_cursor c rfl,
    f.isDocumentLine_cursor c rfl]

/-- A solid part is not left at a break. -/
theorem skipBreak_cursor {c : Cursor} (hs : Solid c.rest) (hne : c.rest ≠ []) :
    (f.cursor c).skipBreak = f.cursor c.skipBreak ∧ c.skipBreak.rest ≠ [] := by
  obtain ⟨m, rest⟩ := c
  cases rest with
  | nil => exact absurd rfl hne
  | cons x rest =>
    rw [cursor, List.cons_append, Cursor.skipBreak_cons, Cursor.skipBreak_cons]
    by_cases hx : isBreak x = true
    · have hgap (y : Char) (hy : isBreak y = true) : isGap y = true := by simp [isGap, hy]
      have hrest : rest ≠ [] := hs.rest_ne_nil_of_all (w := [x]) hne rfl (by simpa using hgap x hx)
      obtain ⟨y, rest, rfl⟩ := List.exists_cons_of_ne_nil hrest
      simp only [List.cons_append, List.head?_cons, List.tail_cons, hx, if_true, Option.some.injEq]
      split
      · rename_i hcr
        have hw : ∀ z ∈ [x, y], isGap z = true := by
          rw [hcr.1, hcr.2]
          exact List.all_eq_true.mp rfl
        exact ⟨by simp only [cursor, mark, Nat.add_right_comm], hs.rest_ne_nil_of_all hne rfl hw⟩
      · exact ⟨by simp only [cursor, mark, Nat.add_right_comm, List.cons_append], hrest⟩
    · have hcr : x ≠ '\r' := by
        rintro rfl
        exact hx (by decide)
      simp [hx, hcr, cursor]

end Cursors

/-- Where the scanner of the whole text stands when that of the part stands at a place: at the same
place, or somewhere behind the end of the part. -/
def At (c c₀ : Cursor) : Prop :=
  c₀.rest ≠ [] ∧ c = f.cursor c₀ ∨ c₀.rest = [] ∧ (f.cursor c₀).Precedes c

/-- Somewhere behind the end of the part only blanks are left. -/
theorem gaps_of_precedes {c c₀ : Cursor} (h : c₀.rest = []) (hp : (f.cursor c₀).Precedes c) :
    ∀ x ∈ c.rest, isGap x = true := by
  intro x hx
  have hx := hp.rest.mem hx
  rw [cursor_rest, h, List.nil_append] at hx
  exact f.blank x hx

theorem at_cursor (c : Cursor) : f.At (f.cursor c) c := by
  by_cases h : c.rest = []
  · exact .inr ⟨h, .refl _⟩
  · exact .inl ⟨h, rfl⟩

namespace At

variable {f} {c c₀ : Cursor}

/-- Behind the end of the part everything is behind the end. -/
theorem behind {c' : Cursor} (h₀ : c₀.rest = []) (h : (f.cursor c₀).Precedes c)
    (hc : c.Precedes c') : f.At c' c₀ :=
  .inr ⟨h₀, h.trans hc⟩

theorem skipWhile (h : f.At c c₀) (p : Char → Bool) : f.At (c.skipWhile p) (c₀.skipWhile p) := by
  rcases h with ⟨_, rfl⟩ | ⟨h₀, hp⟩
  · have hd : (c₀.rest ++ f.trail).dropWhile p = _ := List.dropWhile_append
    split at hd
    · rename_i he
      rw [List.isEmpty_iff] at he
      refine .inr ⟨he, ?_⟩
      have hle := (List.dropWhile_suffix (l := f.trail) p).length_le
      refine ⟨?_, ?_, Nat.le_refl _⟩
      · simpa [Cursor.skipWhile, Cursor.upTo, he, hd] using List.dropWhile_suffix (l := f.trail) p
      · simp only [Cursor.skipWhile, Cursor.upTo, cursor, mark, he, hd, List.length_append,
          List.length_nil]
        omega
    · rename_i hne
      have hcursor : (f.cursor c₀).skipWhile p = f.cursor (c₀.skipWhile p) := by
        rw [Cursor.skipWhile, cursor_rest, hd, upTo_cursor]
        rfl
      rw [hcursor]
      exact f.at_cursor _
  · have hstay : c₀.skipWhile p = c₀ := by
      simp only [Cursor.skipWhile, h₀, List.dropWhile_nil, Cursor.upTo, List.length_nil,
        Nat.sub_self, Nat.add_zero]
      rw [← h₀]
    rw [hstay]
    exact behind h₀ hp (Cursor.precedes_skipWhile p c)

theorem skipComment (h : f.At c c₀) : f.At c.skipComment c₀.skipComment := by
  rcases h with ⟨hne, rfl⟩ | ⟨h₀, hp⟩
  · rw [Cursor.skipComment_eq, Cursor.skipComment_eq, cursor_rest, f.head?_append_beq rfl]
    split
    · exact (f.at_cursor c₀).skipWhile _
    · exact f.at_cursor c₀
  · have hstay : c₀.skipComment = c₀ := by
      unfold Cursor.skipComment
      rw [h₀]
    rw [hstay]
    exact behind h₀ hp (Cursor.precedes_skipComment c)

/-- A line break leaves the two scanners at places that answer to each other. -/
theorem skipBreak (h : f.At c c₀) (hs : Solid c₀.rest) : f.At c.skipBreak c₀.skipBreak := by
  rcases h with ⟨hne, rfl⟩ | ⟨h₀, hp⟩
  · rw [(f.skipBreak_cursor hs hne).1]
    exact f.at_cursor _
  · have hstay : c₀.skipBreak = c₀ := by
      unfold Cursor.skipBreak
      rw [h₀]
    rw [hstay]
    exact behind h₀ hp (Cursor.precedes_skipBreak c)

theorem lineEnds (h : f.At c c₀) (hl : lineEnds c.rest = true) : lineEnds c₀.rest = true := by
  rcases h with ⟨hne, rfl⟩ | ⟨h₀, _⟩
  · obtain ⟨x, rest, hr⟩ := List.exists_cons_of_ne_nil hne
    rw [cursor_rest, hr] at hl
    rw [hr]
    exact hl
  · rw [h₀]
    rfl

theorem finishLine {c' : Cursor} (h : f.At c c₀) (hs : Solid c₀.rest)
    (hc : c.finishLine? = some c') : ∃ c₀', c₀.finishLine? = some c₀' ∧ f.At c' c₀' := by
  have hline := (h.skipWhile isSpace).skipComment
  have hs' : Solid (c₀.skipSpaces.skipComment).rest := hs.of_suffix
    ((Cursor.precedes_skipWhile _ c₀).trans (Cursor.precedes_skipComment _)).rest
  obtain ⟨hl, ⟨⟩⟩ := Option.ite_none_right_eq_some.mp hc
  exact ⟨_, if_pos (hline.lineEnds hl), hline.skipBreak hs'⟩

end At

theorem breakText_cursor {c : Cursor} (hne : c.rest ≠ []) :
    (f.cursor c).breakText = c.breakText := by
  obtain ⟨x, rest, hr⟩ := List.exists_cons_of_ne_nil hne
  simp only [Cursor.breakText, cursor_rest, hr, List.cons_append]

/-- A gap inside a solid part is read inside it. -/
theorem read_cursor {column fuel : Nat} {g : Gap} {c : Cursor} (hs : Solid c.rest)
    (hne : c.rest ≠ []) (hf : c.rest.length ≤ fuel) :
    Gap.read column fuel g (f.cursor c) =
      (Gap.read column fuel g c).map (fun p => (p.1, f.cursor p.2)) ∧
    ∀ p, Gap.read column fuel g c = some p → p.2.rest ≠ [] := by
  induction fuel generalizing g c with
  | zero => exact absurd (List.length_eq_zero_iff.mp (by omega)) hne
  | succ fuel ih =>
    obtain ⟨x, rest, hr⟩ := List.exists_cons_of_ne_nil hne
    have hpos : 1 ≤ c.rest.length := by simp [hr]
    have hskip (hx : isGap x = true) : Solid c.skip.rest ∧ c.skip.rest ≠ [] ∧
        c.skip.rest.length ≤ fuel := by
      have hlt : c.skip.rest.length < c.rest.length := (Cursor.passes_skip hne 0).lt
      refine ⟨hs.of_suffix (Cursor.precedes_skip c 1).rest, ?_, by omega⟩
      exact hs.rest_ne_nil_of_all (w := [x]) hne (by simp [Cursor.skip, hr]) (by simpa using hx)
    have hbreak (hx : isBreak x = true) :
        Solid c.skipBreak.rest ∧ c.skipBreak.rest.length ≤ fuel := by
      have hlt := Cursor.length_skipBreak_lt (c := c) (by simpa [hr])
      exact ⟨hs.of_suffix (Cursor.precedes_skipBreak c).rest, by omega⟩
    simp only [Gap.read, cursor_rest, hr, List.cons_append]
    split
    · rename_i hx
      obtain ⟨hs', hne', hf'⟩ := hskip (by simp [isGap, hx])
      rw [f.skip_cursor c hpos]
      split
      · rw [cursor_mark, mark_column]
        by_cases ht : x = '\t' ∧ c.mark.column < column
        · rw [if_pos ht, if_pos ht]
          refine ⟨rfl, ?_⟩
          intro p h
          cases h
        · rw [if_neg ht, if_neg ht]
          exact ih hs' hne' hf'
      · exact ih hs' hne' hf'
    · split
      · rename_i hx
        obtain ⟨hs', hf'⟩ := hbreak hx
        obtain ⟨hc, hne'⟩ := f.skipBreak_cursor hs hne
        rw [hc, f.breakText_cursor hne]
        exact ih hs' hne' hf'
      · refine ⟨rfl, ?_⟩
        rintro _ ⟨⟩
        exact hne

/-- A gap between two words of the part ends in the part. -/
theorem read_cursor_eq_some {column fuel : Nat} {g g' : Gap} {c c' : Cursor} (hs : Solid c.rest)
    (hne : c.rest ≠ []) (hf : c.rest.length ≤ fuel)
    (h : Gap.read column fuel g (f.cursor c) = some (g', c')) :
    ∃ c₁, c' = f.cursor c₁ ∧ Gap.read column (c.rest.length + 1) g c = some (g', c₁) ∧
      Solid c₁.rest ∧ c₁.rest ≠ [] := by
  obtain ⟨hread, hinside⟩ := f.read_cursor hs hne hf
  rw [hread] at h
  obtain ⟨⟨g₁, c₁⟩, h₁, he⟩ := Option.map_eq_some_iff.mp h
  cases he
  have hs₁ := hs.of_suffix (Gap.precedes_read h₁).rest
  exact ⟨c₁, rfl, (Gap.read_fuel (Nat.le_succ _) hf).trans h₁, hs₁, hinside _ h₁⟩

/-- A scalar of the whole text and the one of the part: the same text, and the same ending unless
the part is left behind. -/
structure SameScalar (s s₀ : ScalarText) : Prop where
  text : s.text = s₀.text
  stop : f.At s.stop s₀.stop
  broken : s₀.stop.rest ≠ [] → s.broken = s₀.broken

theorem word_append (inFlow : Bool) (cs : List Char) :
    Plain.word inFlow (cs ++ f.trail) =
      (Plain.word inFlow cs).map (fun p => (p.1, p.2 ++ f.trail)) := by
  induction cs with
  | nil =>
    cases ht : f.trail with
    | nil => rfl
    | cons x t => simp [Plain.word, f.blank x (ht ▸ List.mem_cons_self)]
  | cons x cs ih =>
    have hflow : ∀ y, isGap y = true → (isFlowIndicator y || y == '?') = false :=
      eq_false_of_isGap (by decide)
    simp only [List.cons_append, Plain.word, f.any_head?_append hflow, f.wordEnds_append, ih]
    split
    · rfl
    · split
      · rfl
      · split
        · rfl
        · cases Plain.word inFlow cs <;> rfl

/-- Behind the end of the part a plain scalar has no further word. -/
theorem plain_words_blank {inFlow : Bool} {column fuel : Nat} {text : List Char} {gap : Gap}
    {c : Cursor} {s : ScalarText} (hb : ∀ x ∈ c.rest, isGap x = true)
    (h : Plain.words inFlow column fuel text gap c = some s) :
    s.text = text ∧ c.Precedes s.stop := by
  refine ⟨?_, Plain.precedes_words h⟩
  cases fuel with
  | zero => cases h
  | succ fuel =>
    rcases Plain.words_succ_eq_some_iff.mp h with ⟨_, rfl⟩ | ⟨_, w, rest, hw, h⟩
    · rfl
    · have hnil : w = [] := by
        cases hr : c.rest with
        | nil =>
          rw [hr] at hw
          cases hw
          rfl
        | cons x r =>
          rw [hr, Plain.word, if_pos (hb x (hr ▸ List.mem_cons_self))] at hw
          cases hw
          rfl
      rcases h with ⟨_, rfl⟩ | ⟨hne, _⟩
      · rfl
      · exact absurd hnil hne

/-- The words of a plain scalar are those of the part. -/
theorem plain_words {inFlow : Bool} {column fuel : Nat} {text : List Char} {gap : Gap}
    {c : Cursor} {s : ScalarText} (hs : Solid c.rest) (hne : c.rest ≠ [])
    (h : Plain.words inFlow column fuel text gap (f.cursor c) = some s) :
    ∃ s₀, Plain.words inFlow column fuel text gap c = some s₀ ∧ f.SameScalar s s₀ := by
  induction fuel generalizing text gap c with
  | zero => cases h
  | succ fuel ih =>
    have hend : ((f.cursor c).isDocumentIndicator || (f.cursor c).rest.head? == some '#') =
        (c.isDocumentIndicator || c.rest.head? == some '#') := by
      rw [f.isDocumentIndicator_cursor, cursor_rest, f.head?_append_beq rfl]
    rw [Plain.words_succ_eq_some_iff, hend] at h
    rcases h with ⟨hstop, rfl⟩ | ⟨hgo, w, rest, hw, h⟩
    · exact ⟨_, Plain.words_succ_eq_some_iff.mpr (.inl ⟨hstop, rfl⟩),
        rfl, f.at_cursor c, fun _ => rfl⟩
    · rw [cursor_rest, word_append] at hw
      obtain ⟨⟨w, rest⟩, hw₀, he⟩ := Option.map_eq_some_iff.mp hw
      cases he
      clear hw
      have hs' : Solid (c.upTo rest).rest := hs.of_suffix ⟨w, Plain.word_eq_some hw₀⟩
      rw [upTo_cursor] at h
      rcases h with ⟨hnil, rfl⟩ | ⟨hword, h⟩
      · exact ⟨_, Plain.words_succ_eq_some_iff.mpr (.inr ⟨hgo, w, rest, hw₀, .inl ⟨hnil, rfl⟩⟩),
          rfl, f.at_cursor _, fun _ => rfl⟩
      · by_cases hrest : rest = []
        · -- the part ends with this word
          subst hrest
          refine ⟨_, Plain.words_succ_eq_some_iff.mpr
            (.inr ⟨hgo, w, [], hw₀, .inr ⟨hword, .inl ⟨rfl, rfl⟩⟩⟩), ?_⟩
          rcases h with ⟨_, rfl⟩ | ⟨_, g, c', hg, h⟩
          · exact ⟨rfl, f.at_cursor _, fun _ => rfl⟩
          · have hp := Gap.precedes_read hg
            rcases h with ⟨_, rfl⟩ | ⟨_, h⟩
            · exact ⟨rfl, .inr ⟨rfl, hp⟩, fun hne => absurd rfl hne⟩
            · obtain ⟨htext, hstop⟩ := plain_words_blank (f.gaps_of_precedes rfl hp) h
              exact ⟨htext, .inr ⟨rfl, hp.trans hstop⟩, fun hne => absurd rfl hne⟩
        · have hends : (!wordEnds (rest ++ f.trail) || (rest ++ f.trail).isEmpty) =
              (!wordEnds rest || rest.isEmpty) := by
            rw [wordEnds_append, List.isEmpty_eq_false_iff.mpr hrest,
              List.isEmpty_eq_false_iff.mpr (List.append_ne_nil_of_left_ne_nil hrest _)]
          rw [hends] at h
          rcases h with ⟨hend, rfl⟩ | ⟨hmore, g, c', hg, h⟩
          · exact ⟨_, Plain.words_succ_eq_some_iff.mpr
              (.inr ⟨hgo, w, rest, hw₀, .inr ⟨hword, .inl ⟨hend, rfl⟩⟩⟩),
              rfl, f.at_cursor _, fun _ => rfl⟩
          · obtain ⟨c₁, rfl, hg₀, hs₁, hne₁⟩ :=
              f.read_cursor_eq_some hs' hrest
                (by simp only [Cursor.upTo, List.length_append]; omega) hg
            rcases h with ⟨hcolumn, rfl⟩ | ⟨hcolumn, h⟩
            · exact ⟨_, Plain.words_succ_eq_some_iff.mpr (.inr ⟨hgo, w, rest, hw₀, .inr ⟨hword,
                .inr ⟨hmore, g, c₁, hg₀, .inl ⟨hcolumn, rfl⟩⟩⟩⟩), rfl, f.at_cursor _, fun _ => rfl⟩
            · obtain ⟨s₀, h₀, hsame⟩ := ih hs₁ hne₁ h
              exact ⟨s₀, Plain.words_succ_eq_some_iff.mpr (.inr ⟨hgo, w, rest, hw₀, .inr ⟨hword,
                .inr ⟨hmore, g, c₁, hg₀, .inr ⟨hcolumn, h₀⟩⟩⟩⟩), hsame⟩

/-- A plain scalar of the whole text has the text of that of the part. -/
theorem plainScalar_cursor {inFlow : Bool} {column : Nat} {c : Cursor} {s : ScalarText}
    (hs : Solid c.rest) (hne : c.rest ≠ []) (h : plainScalar inFlow column (f.cursor c) = some s) :
    ∃ s₀, plainScalar inFlow column c = some s₀ ∧ f.SameScalar s s₀ := by
  obtain ⟨s₀, h₀, hsame⟩ := f.plain_words hs hne h
  exact ⟨s₀, Plain.words_fuel h₀ (Nat.lt_succ_self _), hsame⟩

end Frame

end DirectiveDocs.Yaml
