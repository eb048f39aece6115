import DirectiveDocs.Proofs.FramedText

namespace DirectiveDocs.Yaml.Frame

variable (f : Frame)

theorem octet_append (cs : List Char) :
    octet? (cs ++ f.trail) = (octet? cs).map (fun p => (p.1, p.2 ++ f.trail)) := by
  have hdigit : ∀ x, isGap x = true → Decimal.isDigit 16 x = false := eq_false_of_isGap (by decide)
  have hnone {a b : Char} (h : isGap a = true ∨ isGap b = true) :
      Decimal.natural? 16 [a, b] = none := by
    refine Option.eq_none_iff_forall_ne_some.mpr (fun n => ?_)
    rcases h with h | h
    · exact natural?_gap (hdigit a h) (by simp)
    · exact natural?_gap (hdigit b h) (by simp)
  match cs with
  | a :: b :: d :: rest =>
    by_cases ha : a = '%'
    · subst ha
      simp only [octet?, List.cons_append, Option.map_map]
      rfl
    · simp [octet?, ha]
  | [] =>
    rw [List.nil_append]
    unfold octet?
    split
    · rename_i ht
      exact absurd (f.blank '%' (ht ▸ List.mem_cons_self)) (by decide)
    · rfl
  | [a] =>
    have h₀ : octet? [a] = none := by simp [octet?]
    rw [h₀]
    unfold octet?
    split
    · rename_i b d rest ht
      have ht : f.trail = b :: d :: rest := (List.cons.inj ht).2
      rw [hnone (.inl (f.blank b (ht ▸ List.mem_cons_self)))]
      rfl
    · rfl
  | [a, b] =>
    have h₀ : octet? [a, b] = none := by simp [octet?]
    rw [h₀]
    unfold octet?
    split
    · rename_i b' d rest ht
      have ht : f.trail = d :: rest := (List.cons.inj (List.cons.inj ht).2).2
      rw [hnone (.inr (f.blank d (ht ▸ List.mem_cons_self)))]
      rfl
    · rfl

theorem octets_append (k value : Nat) (cs : List Char) :
    octets? k value (cs ++ f.trail) =
      (octets? k value cs).map (fun p => (p.1, p.2 ++ f.trail)) := by
  induction k generalizing value cs with
  | zero => rfl
  | succ k ih =>
    rw [octets?, octets?, octet_append]
    cases octet? cs with
    | none => rfl
    | some p =>
      simp only [Option.map_some, Option.bind_eq_bind, Option.bind_some]
      split
      · exact ih _ _
      · rfl

theorem escapedChar_append (cs : List Char) :
    escapedChar? (cs ++ f.trail) = (escapedChar? cs).map (fun p => (p.1, p.2 ++ f.trail)) := by
  rw [escapedChar?, escapedChar?, octet_append]
  cases octet? cs with
  | none => rfl
  | some p =>
    simp only [Option.map_some, Option.bind_eq_bind, Option.bind_some, octets_append]
    cases octetCount? p.1 with
    | none => rfl
    | some n =>
      simp only [Option.bind_some]
      cases octets? (n - 1) (if n = 1 then p.1 else p.1 % Nat.pow 2 (7 - n)) p.2 <;> rfl

theorem tagText_append {isMember : Char → Bool} (hm : ∀ x, isGap x = true → isMember x = false)
    {fuel : Nat} {cs : List Char} (hf : cs.length ≤ fuel) :
    tagText isMember fuel (cs ++ f.trail) =
      (tagText isMember fuel cs).map (fun p => (p.1, p.2 ++ f.trail)) := by
  induction fuel generalizing cs with
  | zero =>
    obtain rfl : cs = [] := List.length_eq_zero_iff.mp (by omega)
    rfl
  | succ fuel ih =>
    cases cs with
    | nil =>
      cases ht : f.trail with
      | nil => rfl
      | cons x t =>
        have hx := f.blank x (ht ▸ List.mem_cons_self)
        have hp : x ≠ '%' := by
          rintro rfl
          cases hx
        simp [tagText, hp, hm x hx]
    | cons x cs =>
      rw [List.length_cons] at hf
      have he := f.escapedChar_append (x :: cs)
      rw [List.cons_append] at he ⊢
      simp only [tagText, he, ih (Nat.le_of_succ_le_succ hf)]
      split
      · cases hesc : escapedChar? (x :: cs) with
        | none => rfl
        | some p =>
          have hlt := (suffix_escapedChar hesc).2
          rw [List.length_cons] at hlt
          have hp : p.2.length ≤ fuel := by omega
          simp only [Option.map_some, Option.bind_eq_bind, Option.bind_some, ih hp]
          cases tagText isMember fuel p.2 <;> rfl
      · split
        · cases tagText isMember fuel cs <;> rfl
        · rfl

theorem tagText_cursor {isMember : Char → Bool} (hm : ∀ x, isGap x = true → isMember x = false)
    (c : Cursor) :
    tagText? isMember (f.cursor c) = (tagText? isMember c).map (fun p => (p.1, f.cursor p.2)) := by
  have hle : c.rest.length ≤ (c.rest ++ f.trail).length := by
    rw [List.length_append]
    omega
  rw [tagText?, tagText?, cursor_rest, f.tagText_append hm hle, tagText_fuel hle (Nat.le_refl _)]
  cases tagText isMember c.rest.length c.rest with
  | none => rfl
  | some p =>
    obtain ⟨w, rest⟩ := p
    cases w with
    | nil => rfl
    | cons x w => simp only [Option.map_some, upTo_cursor]

theorem isNameChar_gap : ∀ x, isGap x = true → isNameChar x = false :=
  eq_false_of_isGap (by decide)

theorem isTagChar_gap : ∀ x, isGap x = true → isTagChar x = false :=
  eq_false_of_isGap (by decide)

theorem isOpenTagChar_gap : ∀ x, isGap x = true → isOpenTagChar x = false :=
  eq_false_of_isGap (by decide)

theorem handleText_eq (c : Cursor) :
    handleText c =
      if c.rest.head? == some '!' then
        if (c.rest.tail.dropWhile isNameChar).head? == some '!' then
          ('!' :: c.rest.tail.takeWhile isNameChar ++ ['!'],
            c.upTo (c.rest.tail.dropWhile isNameChar).tail)
        else
          ('!' :: c.rest.tail.takeWhile isNameChar, c.upTo (c.rest.tail.dropWhile isNameChar))
      else ([], c) := by
  unfold handleText
  split
  · rename_i rest hr
    simp only [hr, List.head?_cons, beq_self_eq_true, if_true, List.tail_cons]
    split
    · rename_i hd
      simp [hd]
    · rename_i hd
      rw [if_neg]
      intro he
      cases hc : rest.dropWhile isNameChar with
      | nil => simp [hc] at he
      | cons x r =>
        obtain rfl : x = '!' := by simpa [hc] using he
        exact hd r hc
  · rename_i hr
    rw [if_neg]
    intro he
    cases hc : c.rest with
    | nil => simp [hc] at he
    | cons x r =>
      obtain rfl : x = '!' := by simpa [hc] using he
      exact hr r hc

theorem tagParts_eq (c : Cursor) :
    tagParts c =
      if c.rest.take 2 == ['!', '<'] then do
        let (suffix, c) ← tagText? isOpenTagChar (c.skip 2)
        if c.rest.head? == some '>' then some ("", suffix, c.skip) else none
      else
        let (handle, c) := handleText c
        if 1 < handle.length ∧ handle.getLast? = some '!' then do
          let (suffix, c) ← tagText? isTagChar c
          some (String.ofList handle, suffix, c)
        else (do
          let (w, rest) ← tagText isTagChar c.rest.length c.rest
          let suffix := handle.drop 1 ++ w
          if suffix.isEmpty then some ("", "!", c.upTo rest)
          else some ("!", String.ofList suffix, c.upTo rest)) := by
  unfold tagParts
  split
  · rename_i hr
    simp [hr]
  · rename_i hr
    rw [if_neg]
    intro he
    have he := eq_of_beq he
    cases hc : c.rest with
    | nil => simp [hc] at he
    | cons x r =>
      cases r with
      | nil => simp [hc] at he
      | cons y r =>
        obtain ⟨rfl, rfl⟩ : x = '!' ∧ y = '<' := by simpa [hc] using he
        exact hr r hc

theorem handleText_cursor (c : Cursor) :
    handleText (f.cursor c) = ((handleText c).1, f.cursor (handleText c).2) := by
  rw [handleText_eq, handleText_eq, cursor_rest, f.head?_append_beq rfl]
  cases hr : c.rest with
  | nil => rfl
  | cons x rest =>
    simp only [List.cons_append, List.tail_cons, f.takeWhile_append isNameChar_gap,
      f.dropWhile_append isNameChar_gap, f.head?_append_beq (x := '!') rfl]
    split
    · by_cases hd : ((rest.dropWhile isNameChar).head? == some '!') = true
      · have hne : rest.dropWhile isNameChar ≠ [] := by
          intro he
          rw [he] at hd
          cases hd
        simp only [hd, if_true, List.tail_append_of_ne_nil hne, upTo_cursor]
      · simp only [hd, Bool.false_eq_true, if_false, upTo_cursor]
    · rfl

theorem tagParts_cursor (c : Cursor) :
    tagParts (f.cursor c) = (tagParts c).map (fun p => (p.1, p.2.1, f.cursor p.2.2)) := by
  have htake := f.take_append_beq (w := ['!', '<']) (by decide) c.rest
  simp only [List.length_cons, List.length_nil, Nat.zero_add, Nat.reduceAdd] at htake
  rw [tagParts_eq, tagParts_eq, cursor_rest, htake]
  split
  · rename_i hopen
    have hl := congrArg List.length (eq_of_beq hopen)
    have hle : 2 ≤ c.rest.length := by
      simp only [List.length_take, List.length_cons, List.length_nil] at hl
      omega
    rw [f.skip_cursor c hle, f.tagText_cursor isOpenTagChar_gap]
    cases tagText? isOpenTagChar (c.skip 2) with
    | none => rfl
    | some p =>
      simp only [Option.map_some, Option.bind_eq_bind, Option.bind_some, cursor_rest,
        f.head?_append_beq (x := '>') rfl]
      split
      · rename_i hclose
        have hpos : 1 ≤ p.2.rest.length := by
          cases hp : p.2.rest with
          | nil => simp [hp] at hclose
          | cons x rest => simp
        rw [f.skip_cursor p.2 hpos]
        rfl
      · rfl
  · simp only [handleText_cursor, f.tagText_cursor isTagChar_gap]
    split
    · cases tagText? isTagChar (handleText c).2 <;> rfl
    · have hle : (handleText c).2.rest.length ≤ ((handleText c).2.rest ++ f.trail).length := by
        rw [List.length_append]
        omega
      rw [cursor_rest, f.tagText_append isTagChar_gap hle, tagText_fuel hle (Nat.le_refl _)]
      cases tagText isTagChar (handleText c).2.rest.length (handleText c).2.rest with
      | none => rfl
      | some p =>
        simp only [Option.map_some, Option.bind_eq_bind, Option.bind_some, upTo_cursor]
        split <;> rfl

/-- A tag of the whole text is that of the part. -/
theorem scanTag_cursor (inFlow : Bool) (c : Cursor) :
    scanTag inFlow (f.cursor c) = (scanTag inFlow c).map (fun p => (p.1, f.cursor p.2)) := by
  have hcomma := f.head?_append_beq (x := ',') rfl
  rw [scanTag, scanTag, tagParts_cursor]
  cases tagParts c with
  | none => rfl
  | some p =>
    simp only [Option.map_some, Option.bind_eq_bind, Option.bind_some, cursor_rest, hcomma,
      wordEnds_append]
    split <;> rfl

theorem scanName_cursor (c : Cursor) :
    scanName (f.cursor c) = (scanName c).map (fun p => (p.1, f.cursor p.2)) := by
  have hend : ∀ x, isGap x = true → ("?:,]\x7d%@`".toList.contains x) = false :=
    eq_false_of_isGap (by decide)
  have hle : (c.rest.takeWhile isNameChar).length ≤ c.rest.length :=
    (List.takeWhile_prefix _).length_le
  simp only [scanName, cursor_rest, f.takeWhile_append isNameChar_gap,
    List.drop_append_of_le_length hle, wordEnds_append, f.any_head?_append hend, upTo_cursor]
  split
  · rfl
  · split <;> rfl

theorem versionNumber_cursor (c : Cursor) :
    versionNumber? (f.cursor c) = (versionNumber? c).map (fun p => (p.1, f.cursor p.2)) := by
  have hdigit : ∀ x, isGap x = true → x.isDigit = false := eq_false_of_isGap (by decide)
  have hle : (c.rest.takeWhile Char.isDigit).length ≤ c.rest.length :=
    (List.takeWhile_prefix _).length_le
  simp only [versionNumber?, cursor_rest, f.takeWhile_append hdigit, f.skip_cursor c hle]
  split
  · rfl
  · cases Decimal.natural? 10 (c.rest.takeWhile Char.isDigit) <;> rfl

/-- Before blanks there is no number. -/
theorem versionNumber_blank {c : Cursor} (hb : ∀ x ∈ c.rest, isGap x = true) :
    versionNumber? c = none := by
  have hdigits : c.rest.takeWhile Char.isDigit = [] := by
    cases hr : c.rest with
    | nil => rfl
    | cons x rest =>
      have hx : x.isDigit = false :=
        eq_false_of_isGap (by decide) x (hb x (hr ▸ List.mem_cons_self))
      simp [hx]
  simp [versionNumber?, hdigits, Decimal.natural?]

/-- Before blanks there is no text of a tag. -/
theorem tagText_blank {isMember : Char → Bool} (hm : ∀ x, isGap x = true → isMember x = false)
    {c : Cursor} (hb : ∀ x ∈ c.rest, isGap x = true) : tagText? isMember c = none := by
  cases hr : c.rest with
  | nil => simp [tagText?, hr, tagText]
  | cons x rest =>
    have hx := hb x (hr ▸ List.mem_cons_self)
    have hp : x ≠ '%' := by
      rintro rfl
      cases hx
    simp [tagText?, hr, tagText, hp, hm x hx]

section Directives

def versionDirective (c : Cursor) : Option (TokenKind × Cursor) := do
  let (major, c) ← versionNumber? c.skipSpaces
  if c.rest.head? == some '.' then
    let (minor, c) ← versionNumber? c.skip
    let c ← c.finishLine?
    some (.version major minor, c)
  else none

def handleExpansion (handle : List Char) (c : Cursor) : Option (TokenKind × Cursor) :=
  if handle.isEmpty || handle.getLast? ≠ some '!' then none
  else if !c.rest.head?.any isSpace then none
  else do
    let (expansion, c) ← tagText? isOpenTagChar c.skipSpaces
    if wordEnds c.rest then
      let c ← c.finishLine?
      some (.handle (String.ofList handle) expansion, c)
    else none

theorem scanDirective_eq (c : Cursor) :
    scanDirective c =
      let name := c.skip.rest.takeWhile isNameChar
      let c := c.skip (1 + name.length)
      if !wordEnds c.rest then none
      else if name = "YAML".toList then versionDirective c
      else if name = "TAG".toList then
        handleExpansion (handleText c.skipSpaces).1 (handleText c.skipSpaces).2
      else none :=
  rfl

theorem versionDirective_cursor {c c' : Cursor} {kind : TokenKind} (hs : Solid c.rest)
    (h : versionDirective (f.cursor c) = some (kind, c')) :
    ∃ c₀', versionDirective c = some (kind, c₀') ∧ f.At c' c₀' := by
  have hs₁ := hs.of_suffix (Cursor.precedes_skipWhile isSpace c).rest
  obtain ⟨⟨major, c₂⟩, h₂, h⟩ := Option.bind_eq_some_iff.mp h
  obtain ⟨hdot, h⟩ := Option.ite_none_right_eq_some.mp h
  obtain ⟨⟨minor, c₃⟩, h₃, h⟩ := Option.bind_eq_some_iff.mp h
  obtain ⟨c₄, h₄, h⟩ := Option.bind_eq_some_iff.mp h
  cases h
  rcases (f.at_cursor c).skipWhile isSpace with ⟨_, hin⟩ | ⟨he, hp⟩
  · rw [Cursor.skipSpaces, hin, versionNumber_cursor] at h₂
    obtain ⟨⟨major₀, c₂₀⟩, h₂₀, he⟩ := Option.map_eq_some_iff.mp h₂
    cases he
    rw [cursor_rest, f.head?_append_beq rfl] at hdot
    have hpos : 1 ≤ c₂₀.rest.length := by
      cases hr : c₂₀.rest with
      | nil => simp [hr] at hdot
      | cons x rest => simp
    rw [f.skip_cursor c₂₀ hpos, versionNumber_cursor] at h₃
    obtain ⟨⟨minor₀, c₃₀⟩, h₃₀, he⟩ := Option.map_eq_some_iff.mp h₃
    cases he
    have hp := (precedes_versionNumber h₂₀).trans
      ((Cursor.precedes_skip c₂₀ 1).trans (precedes_versionNumber h₃₀))
    obtain ⟨c₄₀, h₄₀, hat⟩ := (f.at_cursor c₃₀).finishLine (hs₁.of_suffix hp.rest) h₄
    refine ⟨c₄₀, Option.bind_eq_some_iff.mpr ⟨_, h₂₀, (if_pos hdot).trans ?_⟩, hat⟩
    exact Option.bind_eq_some_iff.mpr ⟨_, h₃₀, Option.bind_eq_some_iff.mpr ⟨_, h₄₀, rfl⟩⟩
  · rw [Cursor.skipSpaces, versionNumber_blank (f.gaps_of_precedes he hp)] at h₂
    cases h₂

theorem handleExpansion_cursor {handle : List Char} {c c' : Cursor} {kind : TokenKind}
    (hs : Solid c.rest) (h : handleExpansion handle (f.cursor c) = some (kind, c')) :
    ∃ c₀', handleExpansion handle c = some (kind, c₀') ∧ f.At c' c₀' := by
  obtain ⟨hhandle, h⟩ := Option.ite_none_left_eq_some.mp h
  obtain ⟨hspace, h⟩ := Option.ite_none_left_eq_some.mp h
  obtain ⟨⟨expansion, c₁⟩, h₁, h⟩ := Option.bind_eq_some_iff.mp h
  obtain ⟨hend, h⟩ := Option.ite_none_right_eq_some.mp h
  obtain ⟨c₂, h₂, h⟩ := Option.bind_eq_some_iff.mp h
  cases h
  have hp := Cursor.precedes_skipWhile isSpace c
  rcases (f.at_cursor c).skipWhile isSpace with ⟨hne, hin⟩ | ⟨he, hb⟩
  · rw [Cursor.skipSpaces, hin, f.tagText_cursor isOpenTagChar_gap] at h₁
    obtain ⟨⟨expansion₀, c₁₀⟩, h₁₀, he⟩ := Option.map_eq_some_iff.mp h₁
    cases he
    have hne₁ : c.rest ≠ [] := fun he => hne (List.suffix_nil.mp (he ▸ hp.rest))
    rw [cursor_rest, f.head?_append hne₁] at hspace
    rw [cursor_rest, wordEnds_append] at hend
    obtain ⟨c₂₀, h₂₀, hat⟩ := (f.at_cursor c₁₀).finishLine
      (hs.of_suffix (hp.trans (precedes_tagText h₁₀)).rest) h₂
    refine ⟨c₂₀, (if_neg hhandle).trans ((if_neg hspace).trans ?_), hat⟩
    refine Option.bind_eq_some_iff.mpr ⟨_, h₁₀, (if_pos hend).trans ?_⟩
    exact Option.bind_eq_some_iff.mpr ⟨_, h₂₀, rfl⟩
  · rw [Cursor.skipSpaces, tagText_blank isOpenTagChar_gap (f.gaps_of_precedes he hb)] at h₁
    cases h₁

/-- Before blanks there is no handle. -/
theorem handleText_blank {c : Cursor} (hb : ∀ x ∈ c.rest, isGap x = true) :
    (handleText c).1 = [] := by
  have hmark : (c.rest.head? == some '!') = false := by
    cases hr : c.rest with
    | nil => rfl
    | cons x rest =>
      have hx := hb x (hr ▸ List.mem_cons_self)
      have hne : x ≠ '!' := by
        rintro rfl
        cases hx
      simp [hne]
  rw [handleText_eq, hmark]
  rfl

/-- A directive of the whole text is that of the part, and ends in it or behind it. -/
theorem scanDirective_cursor {c c' : Cursor} {kind : TokenKind} (hs : Solid c.rest)
    (hne : c.rest ≠ []) (h : scanDirective (f.cursor c) = some (kind, c')) :
    ∃ c₀', scanDirective c = some (kind, c₀') ∧ f.At c' c₀' := by
  have hskip := f.skip_cursor c (List.length_pos_iff.mpr hne)
  have hlen : 1 + (c.skip.rest.takeWhile isNameChar).length ≤ c.rest.length := by
    have hle := (List.takeWhile_prefix (l := c.skip.rest) isNameChar).length_le
    have hlt : c.skip.rest.length < c.rest.length := (Cursor.passes_skip hne 0).lt
    omega
  have hs₁ := hs.of_suffix (Cursor.precedes_skip c
    (1 + (c.skip.rest.takeWhile isNameChar).length)).rest
  rw [scanDirective_eq] at h ⊢
  simp only [hskip, cursor_rest, f.takeWhile_append isNameChar_gap, f.skip_cursor c hlen,
    wordEnds_append] at h ⊢
  obtain ⟨hend, h⟩ := Option.ite_none_left_eq_some.mp h
  rw [if_neg hend]
  by_cases hyaml : c.skip.rest.takeWhile isNameChar = "YAML".toList
  · rw [if_pos hyaml] at h ⊢
    exact f.versionDirective_cursor hs₁ h
  · rw [if_neg hyaml] at h ⊢
    obtain ⟨htag, h⟩ := Option.ite_none_right_eq_some.mp h
    rw [if_pos htag]
    generalize c.skip (1 + (c.skip.rest.takeWhile isNameChar).length) = c₁ at h hs₁ ⊢
    have hp := Cursor.precedes_skipWhile isSpace c₁
    rcases (f.at_cursor c₁).skipWhile isSpace with ⟨_, hin⟩ | ⟨he, hb⟩
    · rw [Cursor.skipSpaces, hin, handleText_cursor] at h
      exact f.handleExpansion_cursor (hs₁.of_suffix (hp.trans (precedes_handleText _)).rest) h
    · rw [Cursor.skipSpaces, handleText_blank (f.gaps_of_precedes he hb)] at h
      cases h

end Directives

end DirectiveDocs.Yaml.Frame
