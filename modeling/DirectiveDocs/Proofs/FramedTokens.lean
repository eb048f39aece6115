import DirectiveDocs.Proofs.FramedLayout

namespace DirectiveDocs.Yaml

namespace Layout

/-- What the scanner does at the place of a token or at the end of the text. -/
def proceed (fuel : Nat) (l : Layout) : Option Layout := do
  let l ← l.dropStaleKeys
  let l := l.closeBlocks (l.cursor.mark.column < ·)
  if l.cursor.rest.isEmpty then l.finish
  else
    let l ← l.token
    tokensFrom fuel l

theorem tokensFrom_succ (fuel : Nat) (l : Layout) {p : Bool × Cursor}
    (hp : skipBlank l.inFlow (l.cursor.rest.length + 1) l.keyAllowed l.cursor = p) :
    tokensFrom (fuel + 1) l = proceed fuel (l.arrive p) := by
  rw [tokensFrom, advance_eq l hp, proceed]
  cases hd : (l.arrive p).dropStaleKeys with
  | none => rfl
  | some l₁ =>
    have hc : l₁.cursor = p.2 := cursor_dropStaleKeys hd
    simp only [Option.map_some, Option.bind_eq_bind, Option.bind_some, hc]

section Closing

def closedKinds (l : Layout) : List TokenKind :=
  (if l.inFlow then [] else List.replicate l.columns.length .blockEnd) ++ l.tokens.map Token.kind

theorem closedKinds_of_not_inFlow {l : Layout} (h : ¬l.inFlow = true) :
    l.closedKinds = List.replicate l.columns.length .blockEnd ++ l.tokens.map Token.kind := by
  rw [closedKinds, if_neg h]

theorem endBlocks_eq (m : Mark) (columns : List Nat) (l : Layout) :
    ∃ ts n, endBlocks m columns l = { l with tokens := ts ++ l.tokens, count := n } ∧
      ts.map Token.kind = List.replicate columns.length .blockEnd := by
  induction columns generalizing l with
  | nil => exact ⟨[], l.count, rfl, rfl⟩
  | cons _ columns ih =>
    obtain ⟨ts, n, he, hk⟩ := ih (l.mark .blockEnd m)
    refine ⟨ts ++ [⟨.blockEnd, m, m⟩], n, ?_, ?_⟩
    · rw [endBlocks, he, List.append_assoc]
      rfl
    · rw [List.map_append, hk, List.length_cons, List.replicate_succ']
      rfl

theorem pending_closeBlocks (isClosed : Nat → Bool) (l : Layout) :
    (l.closeBlocks isClosed).pending = l.pending := by
  unfold closeBlocks
  split
  · rfl
  · obtain ⟨ts, n, he, _⟩ := endBlocks_eq l.cursor.mark (l.columns.takeWhile isClosed)
      { l with columns := l.columns.dropWhile isClosed }
    rw [he]

/-- Blocks that end now or later end with the same tokens. -/
theorem closedKinds_closeBlocks (isClosed : Nat → Bool) (l : Layout) :
    (l.closeBlocks isClosed).closedKinds = l.closedKinds := by
  unfold closeBlocks
  split
  · rfl
  · rename_i hflow
    obtain ⟨ts, n, he, hk⟩ := endBlocks_eq l.cursor.mark (l.columns.takeWhile isClosed)
      { l with columns := l.columns.dropWhile isClosed }
    have hlength : l.columns.length =
        (l.columns.dropWhile isClosed).length + (l.columns.takeWhile isClosed).length := by
      rw [Nat.add_comm, ← List.length_append, List.takeWhile_append_dropWhile]
    rw [he, closedKinds_of_not_inFlow hflow, hlength, ← List.replicate_append_replicate,
      List.append_assoc, ← hk, ← List.map_append]
    exact closedKinds_of_not_inFlow hflow

/-- After the end of all blocks there is none to end. -/
theorem kinds_closeBlocks (l : Layout) :
    (l.closeBlocks (fun _ => true)).tokens.map Token.kind = l.closedKinds := by
  rw [← closedKinds_closeBlocks (fun _ => true)]
  unfold closeBlocks
  split
  · rename_i hflow
    rw [closedKinds, if_pos hflow, List.nil_append]
  · obtain ⟨ts, n, he, _⟩ := endBlocks_eq l.cursor.mark (l.columns.takeWhile (fun _ => true))
      { l with columns := l.columns.dropWhile (fun _ => true) }
    have hnil : l.columns.dropWhile (fun _ => true) = [] := by simp
    rw [he, closedKinds]
    simp [hnil]

/-- The end of a text adds the ends of the blocks that are open. -/
theorem kinds_finish {l l' : Layout} (h : l.finish = some l') :
    l'.tokens.map Token.kind = l.closedKinds := by
  obtain ⟨l₁, hd, h⟩ := Option.bind_eq_some_iff.mp h
  cases h
  rw [dropKey_eq hd]
  exact kinds_closeBlocks _

theorem dropKey_eq_some_iff {l l' : Layout} :
    l.dropKey = some l' ↔
      (∀ k ∈ l.pending, k.required = false) ∧ l' = { l with pending := none } := by
  constructor
  · intro h
    refine ⟨?_, dropKey_eq h⟩
    intro k hk
    rw [dropKey, Option.mem_def.mp hk] at h
    exact Bool.eq_false_iff.mpr (Option.ite_none_left_eq_some.mp h).1
  · rintro ⟨hk, rfl⟩
    unfold dropKey
    split
    · rename_i k hp
      rw [if_neg (Bool.eq_false_iff.mp (hk k hp))]
    · rename_i hp
      rw [← hp]

/-- A text can end where no key is required. -/
theorem isSome_finish {l : Layout} :
    l.finish.isSome = true ↔ ∀ k ∈ l.pending, k.required = false := by
  have hp := pending_closeBlocks (fun _ => true)
    { l with cursor := ⟨l.cursor.mark.lineStart, l.cursor.rest⟩ }
  rw [finish, leaveBlocks, Option.isSome_iff_exists]
  simp only [Option.bind_eq_bind, Option.bind_eq_some_iff, dropKey_eq_some_iff, hp]
  constructor
  · rintro ⟨_, _, ⟨hk, _⟩, _⟩
    exact hk
  · intro hk
    exact ⟨_, _, ⟨hk, rfl⟩, rfl⟩

end Closing

section Keys

variable {m : Mark}

theorem dropStaleKey_eq_some_iff {k k' : Option PendingKey} :
    dropStaleKey m k = some k' ↔
      (∀ x ∈ k, isStale m x = true → x.required = false) ∧
        k.filter (fun x => !isStale m x) = k' := by
  cases k with
  | none => simp [dropStaleKey]
  | some k =>
    cases hs : isStale m k <;> cases hr : k.required <;>
      simp [dropStaleKey, Option.filter, hs, hr]

theorem mapM_dropStaleKey_eq_some_iff {ks ks' : List (Option PendingKey)} :
    ks.mapM (dropStaleKey m) = some ks' ↔
      (∀ x, some x ∈ ks → isStale m x = true → x.required = false) ∧
        ks.map (Option.filter (fun x => !isStale m x)) = ks' := by
  induction ks generalizing ks' with
  | nil => simp [pure]
  | cons k ks ih =>
    simp only [List.mapM_cons, Option.bind_eq_bind, Option.bind_eq_some_iff,
      dropStaleKey_eq_some_iff, ih, List.map_cons, List.mem_cons]
    constructor
    · rintro ⟨_, ⟨hk, rfl⟩, _, ⟨hks, rfl⟩, ⟨⟩⟩
      refine ⟨?_, rfl⟩
      rintro x (rfl | hx)
      · exact hk x rfl
      · exact hks x hx
    · rintro ⟨hall, rfl⟩
      exact ⟨_, ⟨fun x hx => hall x (.inl (Option.mem_def.mp hx).symm), rfl⟩, _,
        ⟨fun x hx => hall x (.inr hx), rfl⟩, rfl⟩

def withoutStaleKeys (l : Layout) : Layout :=
  { l with
    pending := l.pending.filter (fun x => !isStale l.cursor.mark x)
    outer := l.outer.map (Option.filter (fun x => !isStale l.cursor.mark x)) }

/-- Keys that are too old can be given up just when none of them is required. -/
theorem dropStaleKeys_eq_some_iff {l l' : Layout} :
    l.dropStaleKeys = some l' ↔
      (∀ k ∈ l.pending, isStale l.cursor.mark k = true → k.required = false) ∧
      (∀ k, some k ∈ l.outer → isStale l.cursor.mark k = true → k.required = false) ∧
      l.withoutStaleKeys = l' := by
  simp only [dropStaleKeys, Option.bind_eq_bind, Option.bind_eq_some_iff, dropStaleKey_eq_some_iff,
    mapM_dropStaleKey_eq_some_iff]
  constructor
  · rintro ⟨_, ⟨hp, rfl⟩, _, ⟨ho, rfl⟩, ⟨⟩⟩
    exact ⟨hp, ho, rfl⟩
  · rintro ⟨hp, ho, rfl⟩
    exact ⟨_, ⟨hp, rfl⟩, _, ⟨ho, rfl⟩, rfl⟩

theorem closedKinds_withoutStaleKeys (l : Layout) :
    l.withoutStaleKeys.closedKinds = l.closedKinds := by
  have hflow : l.withoutStaleKeys.inFlow = l.inFlow := by
    simp only [inFlow, withoutStaleKeys, List.isEmpty_map]
  rw [closedKinds, closedKinds, hflow]
  rfl

/-- A key that is too far away from a place is too far away from later places. -/
theorem isStale_of_le {m' : Mark} {k : PendingKey} (hindex : m.index ≤ m'.index)
    (hline : m.line ≤ m'.line) (h : isStale m k = true) : isStale m' k = true := by
  simp only [isStale, Bool.or_eq_true, decide_eq_true_eq] at h ⊢
  omega

/-- No key has to be completed if the text ends here. -/
structure Closable (l : Layout) : Prop where
  pending : ∀ k ∈ l.pending, k.required = false
  outer : ∀ k, some k ∈ l.outer → isStale l.cursor.mark k = true → k.required = false

end Keys

section AtEnd

/-- No token starts with a blank. -/
theorem token_eq_none {l : Layout} {x : Char} {rest : List Char} (hr : l.cursor.rest = x :: rest)
    (hx : isGap x = true) : l.token = none := by
  have hne (y : Char) (hy : isGap y = false) : x ≠ y := by
    rintro rfl
    rw [hx] at hy
    cases hy
  have hline (y : Char) (hy : isGap y = false) : l.cursor.isDocumentLine y = false := by
    have htake : (l.cursor.rest.take 3 == [y, y, y]) = false := by
      rw [hr]
      exact beq_eq_false_iff_ne.mpr (fun h => hne y hy (List.cons.inj h).1)
    rw [Cursor.isDocumentLine, htake, Bool.and_false, Bool.false_and]
  have hplain (b : Bool) : startsPlain b x rest = false := by
    simp only [startsPlain, hx, Bool.true_or, Bool.not_true, beq_eq_false_iff_ne.mpr (hne '-' rfl),
      beq_eq_false_iff_ne.mpr (hne '?' rfl), beq_eq_false_iff_ne.mpr (hne ':' rfl), Bool.or_false,
      Bool.false_and, Bool.and_false]
  simp only [token, hr, hline _ (show isGap '-' = false from rfl),
    hline _ (show isGap '.' = false from rfl), hplain, hne _ (show isGap '%' = false from rfl),
    hne _ (show isGap '[' = false from rfl), hne _ (show isGap ']' = false from rfl),
    hne _ (show isGap '\x7b' = false from rfl), hne _ (show isGap '\x7d' = false from rfl),
    hne _ (show isGap ',' = false from rfl), hne _ (show isGap '-' = false from rfl),
    hne _ (show isGap '?' = false from rfl), hne _ (show isGap ':' = false from rfl),
    hne _ (show isGap '*' = false from rfl), hne _ (show isGap '&' = false from rfl),
    hne _ (show isGap '!' = false from rfl), hne _ (show isGap '|' = false from rfl),
    hne _ (show isGap '>' = false from rfl), hne _ (show isGap '\'' = false from rfl),
    hne _ (show isGap '"' = false from rfl), and_false, false_and, if_false, Bool.false_eq_true]

variable {fuel : Nat} {l l' : Layout}

/-- A blank is not where a token starts or the text ends. -/
theorem proceed_eq_none {x : Char} {rest : List Char} (hr : l.cursor.rest = x :: rest)
    (hx : isGap x = true) : proceed fuel l = none := by
  rw [Option.eq_none_iff_forall_ne_some]
  intro l' h
  obtain ⟨l₁, hd, h⟩ := Option.bind_eq_some_iff.mp h
  have hrest : (l₁.closeBlocks (l₁.cursor.mark.column < ·)).cursor.rest = x :: rest := by
    rw [cursor_closeBlocks, cursor_dropStaleKeys hd, hr]
  rcases ite_eq_iff.mp h with ⟨he, _⟩ | ⟨_, h⟩
  · rw [hrest] at he
    cases he
  · rw [token_eq_none hrest hx] at h
    cases h

/-- Where blanks alone are left, the scanner ends all blocks or fails. -/
theorem closable_of_proceed (hb : ∀ x ∈ l.cursor.rest, isGap x = true)
    (h : proceed fuel l = some l') :
    l.Closable ∧ l'.tokens.map Token.kind = l.closedKinds := by
  cases hr : l.cursor.rest with
  | cons x rest =>
    rw [proceed_eq_none hr (hb x (hr ▸ List.mem_cons_self))] at h
    cases h
  | nil =>
    obtain ⟨_, hd, h⟩ := Option.bind_eq_some_iff.mp h
    obtain ⟨hp, ho, rfl⟩ := dropStaleKeys_eq_some_iff.mp hd
    have hend : (l.withoutStaleKeys.closeBlocks
        (l.withoutStaleKeys.cursor.mark.column < ·)).cursor.rest.isEmpty = true := by
      rw [cursor_closeBlocks]
      exact List.isEmpty_iff.mpr hr
    have hf := (if_pos hend).symm.trans h
    have hkeys := isSome_finish.mp (Option.isSome_of_eq_some hf)
    rw [pending_closeBlocks] at hkeys
    refine ⟨⟨fun k hk => ?_, ho⟩, ?_⟩
    · cases hs : isStale l.cursor.mark k with
      | true => exact hp k hk hs
      | false => exact hkeys k (Option.mem_filter_iff.mpr ⟨hk, by rw [hs]; rfl⟩)
    · rw [kinds_finish hf, closedKinds_closeBlocks, closedKinds_withoutStaleKeys]

/-- A text can end where no key has to be completed. -/
theorem proceed_of_closable (fuel : Nat) (hr : l.cursor.rest = []) (hc : l.Closable) :
    ∃ l', proceed fuel l = some l' ∧ l'.tokens.map Token.kind = l.closedKinds := by
  have hd : l.dropStaleKeys = some l.withoutStaleKeys := dropStaleKeys_eq_some_iff.mpr
    ⟨fun k hk _ => hc.pending k hk, hc.outer, rfl⟩
  have hfinish :
      (l.withoutStaleKeys.closeBlocks (l.cursor.mark.column < ·)).finish.isSome = true := by
    rw [isSome_finish, pending_closeBlocks]
    exact fun k hk => hc.pending k (Option.mem_filter_iff.mp hk).1
  obtain ⟨l', hf⟩ := Option.isSome_iff_exists.mp hfinish
  refine ⟨l', Option.bind_eq_some_iff.mpr ⟨_, hd, ?_⟩, ?_⟩
  · have he : (l.withoutStaleKeys.closeBlocks
        (l.cursor.mark.column < ·)).cursor.rest.isEmpty = true := by
      rw [cursor_closeBlocks]
      exact List.isEmpty_iff.mpr hr
    exact (if_pos he).trans hf
  · rw [kinds_finish hf, closedKinds_closeBlocks, closedKinds_withoutStaleKeys]

end AtEnd

theorem skipBlank_nil {c : Cursor} (hr : c.rest = []) (inFlow : Bool) (fuel : Nat)
    (keyAllowed : Bool) : skipBlank inFlow fuel keyAllowed c = (keyAllowed, c) := by
  obtain ⟨m, rest⟩ := c
  obtain rfl : rest = [] := hr
  cases fuel with
  | zero => rfl
  | succ fuel =>
    simp [skipBlank_succ, pastBlanks, pastMark, Cursor.skipWhile, Cursor.upTo, Cursor.skipComment]

end Layout

/-- Whether the last of the tokens, latest first, besides the ends of blocks is a literal or folded
scalar. -/
def lastIsBlockScalar (kinds : List TokenKind) : Bool :=
  (kinds.dropWhile (· == .blockEnd)).head?.any TokenKind.isBlockScalar

namespace Frame

open Layout

variable (f : Frame)

section Blanks

variable {f} {c c₀ : Cursor}

theorem At.pastBlanks (hne : c₀.rest ≠ []) (inFlow keyAllowed : Bool) :
    f.At (pastBlanks inFlow keyAllowed (f.cursor c₀)) (pastBlanks inFlow keyAllowed c₀) := by
  have hmark : pastMark (f.cursor c₀) = f.cursor (pastMark c₀) := by
    simp only [pastMark, cursor_mark, mark_column, cursor_rest, f.head?_append hne]
    split
    · exact f.skip_cursor c₀ (List.length_pos_iff.mpr hne)
    · rfl
  rw [Layout.pastBlanks, hmark]
  exact ((f.at_cursor _).skipWhile _).skipComment

/-- The blanks before a token of the part are the same in the whole text. -/
theorem At.skipBlank (inFlow keyAllowed : Bool) {fuel fuel' : Nat} (h : f.At c c₀)
    (hs : Solid c₀.rest) (hf : c.rest.length < fuel) (hf' : c₀.rest.length < fuel') :
    f.At (skipBlank inFlow fuel keyAllowed c).2 (skipBlank inFlow fuel' keyAllowed c₀).2 ∧
    ((skipBlank inFlow fuel' keyAllowed c₀).2.rest ≠ [] →
      (skipBlank inFlow fuel keyAllowed c).1 = (skipBlank inFlow fuel' keyAllowed c₀).1) := by
  induction fuel' generalizing fuel keyAllowed c c₀ with
  | zero => omega
  | succ fuel' ih =>
    have hbehind {k k' : Bool} {n : Nat} {c c₁ : Cursor} (h₁ : c₁.rest = [])
        (hp : (f.cursor c₁).Precedes c) :
        f.At (Layout.skipBlank inFlow n k c).2 c₁ ∧ (c₁.rest ≠ [] →
          (Layout.skipBlank inFlow n k c).1 = k') :=
      ⟨.behind h₁ hp (precedes_skipBlank _ _ _ _), fun hne => absurd h₁ hne⟩
    rcases h with ⟨hne, rfl⟩ | ⟨h₀, hp⟩
    · cases fuel with
      | zero => omega
      | succ fuel =>
        have hle := (precedes_pastBlanks inFlow keyAllowed (f.cursor c₀)).length_le
        have hp₀ := precedes_pastBlanks inFlow keyAllowed c₀
        have hle₀ := hp₀.length_le
        rw [skipBlank_succ, skipBlank_succ]
        dsimp only
        rcases At.pastBlanks hne inFlow keyAllowed with ⟨hne₁, he⟩ | ⟨h₁, hp₁⟩
        · have hs₁ := hs.of_suffix hp₀.rest
          rw [he, cursor_rest, f.head?_append hne₁]
          split
          · rename_i hb
            have hlt := Cursor.length_skipBreak_lt hb
            have hlt' := Cursor.length_skipBreak_lt
              (c := f.cursor (Layout.pastBlanks inFlow keyAllowed c₀))
              (by rwa [cursor_rest, f.head?_append hne₁])
            rw [← he] at hlt'
            have hat := (f.at_cursor (Layout.pastBlanks inFlow keyAllowed c₀)).skipBreak hs₁
            refine ih _ hat (hs₁.of_suffix (Cursor.precedes_skipBreak _).rest) ?_ (by omega)
            rw [← he]
            omega
          · exact ⟨f.at_cursor _, fun _ => rfl⟩
        · have hend :
              ¬((Layout.pastBlanks inFlow keyAllowed c₀).rest.head?.any isBreak = true) := by
            simp [h₁]
          rw [if_neg hend]
          split
          · exact hbehind h₁ (hp₁.trans (Cursor.precedes_skipBreak _))
          · exact ⟨.inr ⟨h₁, hp₁⟩, fun _ => rfl⟩
    · rw [skipBlank_nil h₀]
      exact hbehind h₀ hp

end Blanks

section Run

variable {f} {l l₀ l' : Layout}

/-- A part that is left behind has all its tokens once the blocks end. -/
theorem Behind.closedKinds (h : f.Behind l l₀) : l.closedKinds = l₀.closedKinds := by
  have hflow : l.inFlow = l₀.inFlow := by
    rw [inFlow, inFlow, h.outer, List.isEmpty_map]
  rw [Layout.closedKinds, Layout.closedKinds, hflow, h.columns, h.kinds]

theorem Behind.arrive (h : f.Behind l l₀) {p p₀ : Bool × Cursor} (hr : p₀.2.rest = [])
    (hp : (f.cursor p₀.2).Precedes p.2) : f.Behind (l.arrive p) (l₀.arrive p₀) :=
  ⟨h.kinds, h.columns, h.pending, h.outer, hr, hp⟩

/-- A whole text that ends behind the part is one whose part ends. -/
theorem Behind.proceed (h : f.Behind l l₀) {fuel fuel' : Nat}
    (hl : Layout.proceed fuel l = some l') :
    ∃ l₀', Layout.proceed fuel' l₀ = some l₀' ∧
      l'.tokens.map Token.kind = l₀'.tokens.map Token.kind := by
  obtain ⟨hc, hk⟩ := closable_of_proceed (f.gaps_of_precedes h.rest h.cursor) hl
  have hc₀ : l₀.Closable := by
    refine ⟨fun k hm => hc.pending (f.key k) ?_, fun k hm hs => hc.outer (f.key k) ?_ ?_⟩
    · rw [h.pending, Option.mem_def.mp hm]
      rfl
    · rw [h.outer]
      exact List.mem_map_of_mem (f := Option.map f.key) hm
    · rw [← f.isStale_key] at hs
      exact isStale_of_le h.cursor.index h.cursor.line hs
  obtain ⟨l₀', hl₀, hk₀⟩ := proceed_of_closable fuel' h.rest hc₀
  exact ⟨l₀', hl₀, by rw [hk, hk₀, h.closedKinds]⟩

/-- A token of the whole text that starts inside the part is the next token of the part. -/
theorem proceed_layout {fuel : Nat} (hs : Solid l.cursor.rest) (hne : l.cursor.rest ≠ [])
    (h : Layout.proceed fuel (f.layout l) = some l') :
    ∃ l₁, tokensFrom fuel l₁ = some l' ∧
      ((∃ l₁₀, (∀ n, Layout.proceed n l = tokensFrom n l₁₀) ∧ l.cursor.Passes l₁₀.cursor ∧
        f.Follows l₁ l₁₀) ∨ f.trail ≠ [] ∧ l₁.EndsInBlockScalar) := by
  obtain ⟨_, hd, h⟩ := Option.bind_eq_some_iff.mp h
  rw [dropStaleKeys_layout] at hd
  obtain ⟨l₂, hd₂, rfl⟩ := Option.map_eq_some_iff.mp hd
  have hmark : (f.layout l₂).cursor.mark.column = l₂.cursor.mark.column := rfl
  simp only [hmark, closeBlocks_layout] at h
  have hcursor : (l₂.closeBlocks (l₂.cursor.mark.column < ·)).cursor = l.cursor := by
    rw [cursor_closeBlocks, cursor_dropStaleKeys hd₂]
  have hstep (n : Nat) : Layout.proceed n l =
      if (l₂.closeBlocks (l₂.cursor.mark.column < ·)).cursor.rest.isEmpty then
        (l₂.closeBlocks (l₂.cursor.mark.column < ·)).finish
      else (l₂.closeBlocks (l₂.cursor.mark.column < ·)).token.bind (tokensFrom n) := by
    rw [Layout.proceed, hd₂]
    rfl
  generalize l₂.closeBlocks (l₂.cursor.mark.column < ·) = l₃ at h hcursor hstep
  have hinside : l₃.cursor.rest.isEmpty = false := by
    rw [hcursor]
    exact List.isEmpty_eq_false_iff.mpr hne
  have hwhole : (f.layout l₃).cursor.rest.isEmpty = false := by
    rw [← hcursor] at hne
    exact List.isEmpty_eq_false_iff.mpr (List.append_ne_nil_of_left_ne_nil hne _)
  simp only [hwhole, Bool.false_eq_true, if_false] at h
  obtain ⟨l₁, ht, h⟩ := Option.bind_eq_some_iff.mp h
  refine ⟨l₁, h, ?_⟩
  rw [← hcursor] at hs hne
  rcases f.simulates_token hs hne l₁ ht with ⟨l₁₀, ht₀, hf⟩ | hscalar
  · refine .inl ⟨l₁₀, fun n => ?_, ?_, hf⟩
    · rw [hstep n, hinside, ht₀]
      rfl
    · rw [← hcursor]
      exact passes_token ht₀
  · exact .inr hscalar

/-- A block scalar with only blanks after it is the last of the tokens. -/
theorem lastIsBlockScalar_of_endsInBlockScalar {fuel : Nat} (hl : l.EndsInBlockScalar)
    (h : tokensFrom fuel l = some l') : lastIsBlockScalar (l'.tokens.map Token.kind) = true := by
  cases fuel with
  | zero => cases h
  | succ fuel =>
    have hp := (precedes_skipBlank l.inFlow (l.cursor.rest.length + 1) l.keyAllowed l.cursor).rest
    rw [tokensFrom_succ fuel l rfl] at h
    obtain ⟨_, hk⟩ := closable_of_proceed (fun x hx => hl.blank x (hp.mem hx)) h
    have hends : ∀ k ∈
        (if l.inFlow then [] else List.replicate l.columns.length TokenKind.blockEnd),
        (k == .blockEnd) = true := by
      intro k hk
      split at hk
      · cases hk
      · rw [List.eq_of_mem_replicate hk]
        rfl
    have hkinds : l'.tokens.map Token.kind =
        (if l.inFlow then [] else List.replicate l.columns.length .blockEnd) ++
          l.tokens.map Token.kind := hk
    have hlast := hl.last
    cases ht : l.tokens with
    | nil => simp [ht] at hlast
    | cons t ts =>
      have hscalar : t.kind.isBlockScalar = true := by simpa [ht] using hlast
      have hkind : (t.kind == .blockEnd) = false := by
        cases hb : t.kind == .blockEnd with
        | false => rfl
        | true => rw [eq_of_beq hb] at hscalar; cases hscalar
      rw [hkinds, lastIsBlockScalar, List.dropWhile_append_of_pos hends, ht, List.map_cons,
        List.dropWhile_cons_of_neg (by simp [hkind])]
      exact hscalar

/-- The whole text has the tokens of its solid part. -/
theorem Follows.tokensFrom {fuel : Nat} (hf : f.Follows l l₀) (hs : Solid l₀.cursor.rest)
    (h : tokensFrom fuel l = some l')
    (hlast : f.trail ≠ [] → lastIsBlockScalar (l'.tokens.map Token.kind) = false) :
    ∃ l₀', Layout.tokensFrom (l₀.cursor.rest.length + 1) l₀ = some l₀' ∧
      l'.tokens.map Token.kind = l₀'.tokens.map Token.kind := by
  -- one token at a time; once the part is left behind both layouts have only blocks to end
  induction fuel generalizing l l₀ with
  | zero => cases h
  | succ fuel ih =>
    rw [tokensFrom_succ fuel l rfl] at h
    rw [tokensFrom_succ _ l₀ rfl]
    rcases hf with ⟨hne, rfl⟩ | hb
    · have hblank := At.skipBlank l₀.inFlow l₀.keyAllowed (f.at_cursor l₀.cursor) hs
        (Nat.lt_succ_self _) (Nat.lt_succ_self _)
      have hflow : (f.layout l₀).inFlow = l₀.inFlow := f.inFlow_layout l₀
      have hcursor : (f.layout l₀).cursor = f.cursor l₀.cursor := rfl
      have hallowed : (f.layout l₀).keyAllowed = l₀.keyAllowed := rfl
      have hp₀ := precedes_skipBlank l₀.inFlow (l₀.cursor.rest.length + 1) l₀.keyAllowed l₀.cursor
      rw [hflow, hcursor, hallowed] at h
      generalize Layout.skipBlank l₀.inFlow ((f.cursor l₀.cursor).rest.length + 1) l₀.keyAllowed
        (f.cursor l₀.cursor) = p at h hblank
      generalize Layout.skipBlank l₀.inFlow (l₀.cursor.rest.length + 1) l₀.keyAllowed
        l₀.cursor = p₀ at hblank hp₀ ⊢
      rcases hblank with ⟨⟨hne, hp⟩ | ⟨hr, hp⟩, hkey⟩
      · have harrive : (f.layout l₀).arrive p = f.layout (l₀.arrive p₀) := by
          rw [Layout.arrive, hp, hkey hne]
          rfl
        rw [harrive] at h
        obtain ⟨l₁, h₁, ⟨l₁₀, hstep, hpass, hf₁⟩ | ⟨ht, hscalar⟩⟩ :=
          proceed_layout (hs.of_suffix hp₀.rest) hne h
        · have hlt := hpass.lt
          have hle := hp₀.length_le
          obtain ⟨l₀', hl₀, hkinds⟩ := ih hf₁ (hs.of_suffix (hp₀.trans hpass.toPrecedes).rest) h₁
          exact ⟨l₀', (hstep _).trans (tokensFrom_fuel hl₀ (Nat.lt_of_lt_of_le hlt hle)), hkinds⟩
        · have hlast := hlast ht
          rw [lastIsBlockScalar_of_endsInBlockScalar hscalar h₁] at hlast
          cases hlast
      · have hbehind : f.Behind ((f.layout l₀).arrive p) (l₀.arrive p₀) :=
          ⟨f.kinds_layout _, rfl, rfl, rfl, hr, hp⟩
        exact hbehind.proceed h
    · rw [skipBlank_nil hb.rest]
      exact (hb.arrive hb.rest (hb.cursor.trans (precedes_skipBlank _ _ _ _))).proceed h

end Run

end Frame

section Lead

structure BlankLines (cs : List Char) : Prop where
  blank : ∀ x ∈ cs, isGap x = true
  ends : ∀ x, cs.getLast? = some x → isBreak x = true

theorem BlankLines.of_append {cs rest : List Char} (h : BlankLines (cs ++ rest)) :
    BlankLines rest := by
  refine ⟨fun x hx => h.blank x (List.mem_append_right _ hx), fun x hx => h.ends x ?_⟩
  rw [List.getLast?_append, hx, Option.some_or]

theorem BlankLines.tail {x : Char} {rest : List Char} (h : BlankLines (x :: rest)) :
    BlankLines rest := by
  rw [← List.singleton_append] at h
  exact h.of_append

theorem BlankLines.exists_spaces {cs : List Char} (h : BlankLines cs) (hne : cs ≠ []) :
    ∃ spaces y rest, cs = spaces ++ y :: rest ∧ (∀ x ∈ spaces, x = ' ') ∧ y ≠ ' ' := by
  have hd : cs.dropWhile (· == ' ') ≠ [] := by
    intro he
    have hall := List.dropWhile_eq_nil_iff.mp he
    have hbreak := h.ends _ (List.getLast?_eq_some_getLast hne)
    rw [eq_of_beq (hall _ (List.getLast_mem hne))] at hbreak
    cases hbreak
  refine ⟨cs.takeWhile (· == ' '), (cs.dropWhile (· == ' ')).head hd,
    (cs.dropWhile (· == ' ')).tail, ?_, fun x hx => ?_, ?_⟩
  · rw [List.cons_head_tail hd, List.takeWhile_append_dropWhile]
  · have hspace := List.mem_takeWhile_imp hx
    exact eq_of_beq hspace
  · intro he
    have hhead := List.head_dropWhile_not (· == ' ') hd
    rw [he] at hhead
    cases hhead

/-- Before a key no tab is passed over. -/
theorem Layout.pastBlanks_spaces {spaces rest : List Char} {y : Char} (m : Mark)
    (hspaces : ∀ x ∈ spaces, x = ' ') (hy : isGap y = true) (hne : y ≠ ' ') :
    ∃ m', pastBlanks false true ⟨m, spaces ++ y :: rest⟩ = ⟨m', y :: rest⟩ := by
  have hhead : (spaces ++ y :: rest).head? ≠ some '\ufeff' := by
    cases hs : spaces with
    | nil =>
      rintro ⟨⟩
      cases hy
    | cons x spaces =>
      rintro ⟨⟩
      cases hspaces _ (hs ▸ List.mem_cons_self)
  have hmark : pastMark ⟨m, spaces ++ y :: rest⟩ = ⟨m, spaces ++ y :: rest⟩ :=
    if_neg (fun h => hhead h.2)
  have hdrop : (spaces ++ y :: rest).dropWhile
      (fun x => x == ' ' || ((false || !true) && x == '\t')) = y :: rest := by
    rw [List.dropWhile_append_of_pos (fun x hx => by rw [hspaces x hx]; rfl),
      List.dropWhile_cons_of_neg (by simp [hne])]
  have hcomment : (some y == some '#') = false := by
    refine beq_eq_false_iff_ne.mpr ?_
    rintro ⟨⟩
    cases hy
  refine ⟨(Cursor.upTo ⟨m, spaces ++ y :: rest⟩ (y :: rest)).mark, ?_⟩
  rw [pastBlanks, hmark, Cursor.skipComment_eq, Cursor.skipWhile, hdrop]
  exact if_neg (by rw [Cursor.upTo, List.head?_cons, hcomment]; exact Bool.false_ne_true)

theorem Layout.skipBlank_spaces {spaces rest : List Char} {y : Char} (m : Mark) (fuel : Nat)
    (hspaces : ∀ x ∈ spaces, x = ' ') (hy : isGap y = true) (hne : y ≠ ' ') :
    ∃ m', skipBlank false (fuel + 1) true ⟨m, spaces ++ y :: rest⟩ =
      if isBreak y = true then skipBlank false fuel true (Cursor.skipBreak ⟨m', y :: rest⟩)
      else (true, ⟨m', y :: rest⟩) := by
  obtain ⟨m', hpast⟩ := pastBlanks_spaces m hspaces hy hne
  exact ⟨m', by rw [skipBlank_succ, hpast]; rfl⟩

/-- Blank lines are passed over up to the next line, or up to a tab, where no token starts. -/
theorem Layout.skipBlank_blankLines {lead rest : List Char} (h : BlankLines lead)
    (hrest : rest.head? ≠ some '\n') {m : Mark} (hm : m.column = 0) {fuel fuel' : Nat}
    (hf : (lead ++ rest).length < fuel) (hf' : rest.length < fuel') :
    (∃ index line, skipBlank false fuel true ⟨m, lead ++ rest⟩ =
      skipBlank false fuel' true ⟨⟨index, line, 0⟩, rest⟩) ∨
    (skipBlank false fuel true ⟨m, lead ++ rest⟩).2.rest.head? = some '\t' := by
  induction fuel generalizing lead m with
  | zero => omega
  | succ fuel ih =>
    by_cases hne : lead = []
    · subst hne
      left
      obtain ⟨index, line, column⟩ := m
      obtain rfl : column = 0 := hm
      exact ⟨index, line, skipBlank_fuel hf hf'⟩
    · obtain ⟨spaces, y, lead', rfl, hspaces, hy⟩ := h.exists_spaces hne
      have hgap : isGap y = true := h.blank y (List.mem_append_right _ List.mem_cons_self)
      have hlines : BlankLines (y :: lead') := h.of_append
      have hlines' : BlankLines lead' := hlines.tail
      rw [List.append_assoc, List.cons_append] at hf ⊢
      rw [List.length_append, List.length_cons] at hf
      obtain ⟨m₁, hskip⟩ := skipBlank_spaces m fuel hspaces hgap hy
      rw [hskip]
      by_cases hb : isBreak y = true
      · rw [if_pos hb, Cursor.skipBreak_cons]
        split
        · -- a carriage return whose line feed is blank as well
          rename_i hcr
          cases hl : lead' with
          | nil =>
            rw [hl] at hcr
            exact absurd hcr.2 hrest
          | cons z lead₂ =>
            rw [hl] at hlines' hf
            simp only [List.cons_append, List.length_cons] at hf ⊢
            exact ih (hlines'.tail) rfl (by omega)
        · exact ih hlines' rfl (by omega)
      · -- the one blank that is neither a space nor a break
        right
        rw [if_neg hb]
        have htab : y = '\t' := by
          simpa [isGap, isSpace, hb, hy] using hgap
        rw [htab]
        rfl

/-- A text has the tokens of the part that is left without blank lines before it and blanks after
it, unless these stand in a literal or folded scalar. -/
theorem tokens?_framed {lead body trail : List Char} {ts : List Token} (hlead : BlankLines lead)
    (htrail : ∀ x ∈ trail, isGap x = true) (hbody : Solid body)
    (hfirst : ∀ x, body.head? = some x → isGap x = false) (hne : body ≠ [])
    (ht : tokens? (String.ofList (lead ++ (body ++ trail))) = some ts)
    (hlast : trail ≠ [] → lastIsBlockScalar (ts.reverse.map Token.kind) = false) :
    ∃ ts', tokens? (String.ofList body) = some ts' ∧ ts.map Token.kind = ts'.map Token.kind := by
  simp only [tokens?, Cursor.ofString, String.toList_ofList] at ht ⊢
  obtain ⟨hprint, ht⟩ := Option.ite_none_right_eq_some.mp ht
  obtain ⟨l, hl, rfl⟩ := Option.map_eq_some_iff.mp ht
  rw [List.reverse_reverse] at hlast
  have hprint' : body.all isPrintable = true := by
    rw [List.all_append, List.all_append, Bool.and_eq_true, Bool.and_eq_true] at hprint
    exact hprint.2.1
  have hhead : (body ++ trail).head? ≠ some '\n' := by
    obtain ⟨x, rest, rfl⟩ := List.exists_cons_of_ne_nil hne
    rintro ⟨⟩
    cases hfirst _ rfl
  rw [Layout.tokensFrom_succ _ _ rfl] at hl
  rcases Layout.skipBlank_blankLines hlead hhead (m := .first) rfl (Nat.lt_succ_self _)
    (Nat.lt_succ_self _) with ⟨index, line, hskip⟩ | htab
  · let f : Frame := ⟨index, line, trail, htrail⟩
    let part : Layout := .start ⟨.first, body⟩
    have hpart : f.layout part = .start ⟨⟨index, line, 0⟩, body ++ trail⟩ := by
      simp only [f, part, Frame.layout, Frame.cursor, Frame.mark, Layout.start, Mark.first,
        Nat.zero_add, List.map_nil, Option.map_none]
    have hrun : Layout.tokensFrom ((lead ++ (body ++ trail)).length + 1) (f.layout part) =
        some l := by
      rw [Layout.tokensFrom_succ _ _ rfl, hpart, ← hl]
      exact congrArg (fun p => Layout.proceed _ ((Layout.start _).arrive p)) hskip.symm
    obtain ⟨l₀, hl₀, hkinds⟩ := (f.follows_layout part).tokensFrom hbody hrun hlast
    refine ⟨l₀.tokens.reverse, ?_, ?_⟩
    · rw [if_pos hprint']
      exact Option.map_eq_some_iff.mpr ⟨l₀, hl₀, rfl⟩
    · rw [List.map_reverse, List.map_reverse, hkinds]
  · -- a tab in front is no text with tokens
    obtain ⟨rest, hr⟩ := List.head?_eq_some_iff.mp htab
    rw [Layout.proceed_eq_none hr rfl] at hl
    cases hl

/-- A text of blanks has no tokens. -/
theorem tokens?_blank {cs : List Char} {ts : List Token} (h : ∀ x ∈ cs, isGap x = true)
    (ht : tokens? (String.ofList cs) = some ts) : ts = [] := by
  simp only [tokens?, Cursor.ofString, String.toList_ofList] at ht
  obtain ⟨_, ht⟩ := Option.ite_none_right_eq_some.mp ht
  obtain ⟨l, hl, rfl⟩ := Option.map_eq_some_iff.mp ht
  rw [Layout.tokensFrom_succ _ _ rfl] at hl
  have hp := Layout.precedes_skipBlank false (cs.length + 1) true ⟨.first, cs⟩
  have hk := (Layout.closable_of_proceed (fun x hx => h x (hp.rest.mem hx)) hl).2
  exact List.reverse_eq_nil_iff.mpr (List.map_eq_nil_iff.mp hk)

end Lead

end DirectiveDocs.Yaml
