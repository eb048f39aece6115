import DirectiveDocs.Proofs.FramedScalars
import DirectiveDocs.Proofs.FramedTags
import Mathlib.Data.List.InsertIdx

namespace DirectiveDocs.Yaml

def TokenKind.isBlockScalar : TokenKind → Bool
  | .scalar .literal _ | .scalar .folded _ => true
  | _ => false

structure Layout.EndsInBlockScalar (l : Layout) : Prop where
  blank : ∀ x ∈ l.cursor.rest, isGap x = true
  last : (l.tokens.head?.any (fun t => t.kind.isBlockScalar)) = true

namespace Frame

variable (f : Frame)

def token (t : Token) : Token :=
  ⟨t.kind, f.mark t.start, f.mark t.stop⟩

def key (k : PendingKey) : PendingKey :=
  { k with mark := f.mark k.mark }

/-- A layout of the part as a layout of the whole text. -/
def layout (l : Layout) : Layout where
  cursor := f.cursor l.cursor
  tokens := l.tokens.map f.token
  count := l.count
  columns := l.columns
  pending := l.pending.map f.key
  outer := l.outer.map (Option.map f.key)
  keyAllowed := l.keyAllowed

/-- The layouts of the whole text and of the part where the part has been left behind. -/
structure Behind (l l₀ : Layout) : Prop where
  kinds : l.tokens.map Token.kind = l₀.tokens.map Token.kind
  columns : l.columns = l₀.columns
  pending : l.pending = l₀.pending.map f.key
  outer : l.outer = l₀.outer.map (Option.map f.key)
  rest : l₀.cursor.rest = []
  cursor : (f.cursor l₀.cursor).Precedes l.cursor

/-- The layouts of the whole text and of the part: the same inside the part, or both behind it. -/
def Follows (l l₀ : Layout) : Prop :=
  l₀.cursor.rest ≠ [] ∧ l = f.layout l₀ ∨ f.Behind l l₀

/-- A step of the scanner in the whole text leads where the step in the part leads, or behind the
part after a block scalar that may have taken some of the blanks there. -/
def Simulates (x x₀ : Option Layout) : Prop :=
  ∀ l, x = some l → (∃ l₀, x₀ = some l₀ ∧ f.Follows l l₀) ∨
    f.trail ≠ [] ∧ l.EndsInBlockScalar

theorem kinds_layout (ts : List Token) : (ts.map f.token).map Token.kind = ts.map Token.kind := by
  rw [List.map_map]
  rfl

theorem follows_layout (l : Layout) : f.Follows (f.layout l) l := by
  by_cases h : l.cursor.rest = []
  · exact .inr ⟨f.kinds_layout _, rfl, rfl, rfl, h, .refl _⟩
  · exact .inl ⟨h, rfl⟩

namespace Simulates

variable {f} {x x₀ : Option Layout}

theorem of_map (h : x = x₀.map f.layout) : f.Simulates x x₀ := by
  rintro l rfl
  obtain ⟨l₀, rfl, rfl⟩ := Option.map_eq_some_iff.mp h.symm
  exact .inl ⟨l₀, rfl, f.follows_layout l₀⟩

theorem none : f.Simulates none x₀ := by
  rintro l ⟨⟩

theorem ite {c : Prop} [Decidable c] {y y₀ : Option Layout} (h : c → f.Simulates x x₀)
    (h' : ¬c → f.Simulates y y₀) :
    f.Simulates (if c then x else y) (if c then x₀ else y₀) := by
  split
  · exact h ‹c›
  · exact h' ‹¬c›

end Simulates

section Steps

variable (l : Layout)

@[simp] theorem inFlow_layout : (f.layout l).inFlow = l.inFlow := by
  simp [Layout.inFlow, layout]

theorem insert_layout (position : Nat) (kind : TokenKind) (m : Mark) :
    (f.layout l).insert position kind (f.mark m) = f.layout (l.insert position kind m) := by
  simp only [Layout.insert, layout, List.map_insertIdx]
  rfl

theorem take_layout (kind : TokenKind) (stop : Cursor) :
    (f.layout l).take kind (f.cursor stop) = f.layout (l.take kind stop) :=
  rfl

theorem dropKey_layout : (f.layout l).dropKey = l.dropKey.map f.layout := by
  cases hp : l.pending with
  | none => simp [Layout.dropKey, layout, hp]
  | some k =>
    simp only [Layout.dropKey, layout, hp, Option.map_some, key]
    split <;> rfl

theorem saveKey_layout : (f.layout l).saveKey = l.saveKey.map f.layout := by
  have hallowed : (f.layout l).keyAllowed = l.keyAllowed := rfl
  simp only [Layout.saveKey, hallowed, inFlow_layout, dropKey_layout]
  split
  · cases l.dropKey <;> rfl
  · rfl

theorem isDeeper_layout (column : Nat) : (f.layout l).isDeeper column = l.isDeeper column := by
  rw [Layout.isDeeper, Layout.isDeeper, inFlow_layout]
  rfl

theorem openBlock_layout (kind : TokenKind) :
    (f.layout l).openBlock kind = f.layout (l.openBlock kind) := by
  have hcolumn : (f.layout l).cursor.mark.column = l.cursor.mark.column := rfl
  simp only [Layout.openBlock, hcolumn, isDeeper_layout]
  split <;> rfl

theorem endBlocks_layout (m : Mark) (columns : List Nat) :
    Layout.endBlocks (f.mark m) columns (f.layout l) =
      f.layout (Layout.endBlocks m columns l) := by
  induction columns generalizing l with
  | nil => rfl
  | cons _ columns ih => exact ih (l.mark .blockEnd m)

theorem closeBlocks_layout (isClosed : Nat → Bool) :
    (f.layout l).closeBlocks isClosed = f.layout (l.closeBlocks isClosed) := by
  simp only [Layout.closeBlocks, inFlow_layout]
  split
  · rfl
  · exact f.endBlocks_layout { l with columns := l.columns.dropWhile isClosed } _ _

theorem leaveBlocks_layout : (f.layout l).leaveBlocks = l.leaveBlocks.map f.layout := by
  simp only [Layout.leaveBlocks, closeBlocks_layout, dropKey_layout]
  cases (l.closeBlocks (fun _ => true)).dropKey <;> rfl

theorem isStale_key (m : Mark) (k : PendingKey) :
    Layout.isStale (f.mark m) (f.key k) = Layout.isStale m k := by
  have hline : (k.mark.line + f.line < m.line + f.line) = (k.mark.line < m.line) := by
    simp
  have hindex : (k.mark.index + f.index + 1024 < m.index + f.index) =
      (k.mark.index + 1024 < m.index) := by
    rw [Nat.add_right_comm]
    simp
  simp only [Layout.isStale, mark, key, hline, hindex]

theorem dropStaleKey_key (m : Mark) (k : Option PendingKey) :
    Layout.dropStaleKey (f.mark m) (k.map f.key) =
      (Layout.dropStaleKey m k).map (Option.map f.key) := by
  cases k with
  | none => rfl
  | some k =>
    have hrequired : (f.key k).required = k.required := rfl
    simp only [Option.map_some, Layout.dropStaleKey, isStale_key, hrequired]
    cases Layout.isStale m k <;> cases k.required <;> rfl

theorem mapM_dropStaleKey_key (m : Mark) (ks : List (Option PendingKey)) :
    (ks.map (Option.map f.key)).mapM (Layout.dropStaleKey (f.mark m)) =
      (ks.mapM (Layout.dropStaleKey m)).map (List.map (Option.map f.key)) := by
  induction ks with
  | nil => rfl
  | cons k ks ih =>
    rw [List.map_cons, List.mapM_cons, List.mapM_cons, dropStaleKey_key, ih]
    cases Layout.dropStaleKey m k with
    | none => rfl
    | some k' => cases ks.mapM (Layout.dropStaleKey m) <;> rfl

theorem dropStaleKeys_layout : (f.layout l).dropStaleKeys = l.dropStaleKeys.map f.layout := by
  have hpending : (f.layout l).pending = l.pending.map f.key := rfl
  have houter : (f.layout l).outer = l.outer.map (Option.map f.key) := rfl
  have hmark : (f.layout l).cursor.mark = f.mark l.cursor.mark := rfl
  simp only [Layout.dropStaleKeys, hpending, houter, hmark, dropStaleKey_key,
    mapM_dropStaleKey_key]
  cases Layout.dropStaleKey l.cursor.mark l.pending with
  | none => rfl
  | some k => cases l.outer.mapM (Layout.dropStaleKey l.cursor.mark) <;> rfl

end Steps

section Tokens

variable {l : Layout}

theorem skip_layout (hne : l.cursor.rest ≠ []) :
    (f.layout l).cursor.skip = f.cursor l.cursor.skip :=
  f.skip_cursor l.cursor (List.length_pos_iff.mpr hne)

variable (hne : l.cursor.rest ≠ [])

include hne

theorem openFlow_layout (kind : TokenKind) :
    (f.layout l).openFlow kind = (l.openFlow kind).map f.layout := by
  simp only [Layout.openFlow, saveKey_layout]
  cases hk : l.saveKey with
  | none => rfl
  | some l₁ =>
    rw [← Layout.cursor_saveKey hk] at hne
    simp only [Option.map_some, Option.bind_eq_bind, Option.bind_some, f.skip_layout hne,
      take_layout]
    rfl

theorem closeFlow_layout (kind : TokenKind) :
    (f.layout l).closeFlow kind = (l.closeFlow kind).map f.layout := by
  simp only [Layout.closeFlow, dropKey_layout]
  cases hk : l.dropKey with
  | none => rfl
  | some l₁ =>
    rw [← Layout.cursor_dropKey hk] at hne
    simp only [Option.map_some, Option.bind_eq_bind, Option.bind_some, f.skip_layout hne,
      take_layout]
    have houter : (f.layout (l₁.take kind l₁.cursor.skip)).outer =
      (l₁.take kind l₁.cursor.skip).outer.map (Option.map f.key) := rfl
    rw [houter]
    cases (l₁.take kind l₁.cursor.skip).outer <;> rfl

theorem flowEntry_layout : (f.layout l).flowEntry = l.flowEntry.map f.layout := by
  simp only [Layout.flowEntry, dropKey_layout]
  cases hk : l.dropKey with
  | none => rfl
  | some l₁ =>
    rw [← Layout.cursor_dropKey hk] at hne
    simp only [Option.map_some, Option.bind_eq_bind, Option.bind_some, f.skip_layout hne,
      take_layout]
    rfl

theorem blockIndicator_layout (block kind : TokenKind) (keyAllowed : Bool) :
    (f.layout l).blockIndicator block kind keyAllowed =
      (l.blockIndicator block kind keyAllowed).map f.layout := by
  have hallowed : (f.layout l).keyAllowed = l.keyAllowed := rfl
  simp only [Layout.blockIndicator, hallowed, inFlow_layout, openBlock_layout, dropKey_layout]
  split
  · cases hk : (l.openBlock block).dropKey with
    | none => rfl
    | some l₁ =>
      rw [← Layout.cursor_openBlock block, ← Layout.cursor_dropKey hk] at hne
      simp only [Option.map_some, Option.bind_eq_bind, Option.bind_some, f.skip_layout hne,
        take_layout]
      rfl
  · rfl

theorem takeKey_layout :
    { (f.layout l).take .value (f.layout l).cursor.skip with
      pending := none, keyAllowed := false } =
    f.layout { l.take .value l.cursor.skip with pending := none, keyAllowed := false } := by
  rw [f.skip_layout hne, take_layout]
  rfl

theorem value_layout : (f.layout l).value = l.value.map f.layout := by
  have hpending : (f.layout l).pending = l.pending.map f.key := rfl
  cases hk : l.pending with
  | none =>
    have hallowed : (f.layout l).keyAllowed = l.keyAllowed := rfl
    simp only [Layout.value, hpending, hk, Option.map_none, hallowed, inFlow_layout,
      openBlock_layout]
    split
    · rw [← Layout.cursor_openBlock .blockMappingStart] at hne
      rw [f.skip_layout hne, take_layout]
      rfl
    · rfl
  | some k =>
    have hcolumn : (f.key k).mark.column = k.mark.column := rfl
    have hposition : (f.key k).position = k.position := rfl
    have hmark : (f.key k).mark = f.mark k.mark := rfl
    simp only [Layout.value, hpending, hk, Option.map_some, hcolumn, hposition, isDeeper_layout]
    simp only [hmark, insert_layout]
    split
    · exact congrArg some (f.takeKey_layout (l := { (l.insert k.position .key k.mark).insert
        k.position .blockMappingStart k.mark with columns := k.mark.column :: l.columns }) hne)
    · exact congrArg some (f.takeKey_layout (l := l.insert k.position .key k.mark) hne)

omit hne

/-- What a step reads behind a layout of the part, up to a place that it reads to as well. -/
theorem follows_take {kind : TokenKind} {stop stop₀ : Cursor} (h : f.At stop stop₀) :
    f.Follows ((f.layout l).take kind stop) (l.take kind stop₀) := by
  rcases h with ⟨hne, rfl⟩ | ⟨he, hp⟩
  · exact .inl ⟨hne, rfl⟩
  · refine .inr ⟨?_, rfl, rfl, rfl, he, hp⟩
    exact congrArg (kind :: ·) (f.kinds_layout l.tokens)

/-- A token that may be a key is scanned in the whole text as in the part if its characters are. -/
theorem simulates_keyPart {scan scan₀ : Layout → Option (TokenKind × Cursor)}
    (hscan : ∀ l₁ : Layout, l₁.cursor = l.cursor → l₁.inFlow = l.inFlow → ∀ kind stop,
      scan (f.layout l₁) = some (kind, stop) →
        ∃ stop₀, scan₀ l₁ = some (kind, stop₀) ∧ stop = f.cursor stop₀) :
    f.Simulates ((f.layout l).keyPart scan) (l.keyPart scan₀) := by
  intro l' h
  left
  rw [Layout.keyPart, saveKey_layout] at h
  obtain ⟨l₁, hk, h⟩ := Option.bind_eq_some_iff.mp h
  obtain ⟨l₁₀, hk₀, rfl⟩ := Option.map_eq_some_iff.mp hk
  obtain ⟨⟨kind, stop⟩, hs, h⟩ := Option.bind_eq_some_iff.mp h
  cases h
  obtain ⟨k, rfl⟩ := Layout.saveKey_eq hk₀
  obtain ⟨stop₀, hs₀, rfl⟩ := hscan { l with pending := k } rfl rfl kind stop hs
  refine ⟨_, Option.bind_eq_some_iff.mpr ⟨_, hk₀, Option.bind_eq_some_iff.mpr ⟨_, hs₀, rfl⟩⟩, ?_⟩
  exact f.follows_layout _

theorem simulates_named (kind : String → TokenKind) (hne : l.cursor.rest ≠ []) :
    f.Simulates ((f.layout l).keyPart (Layout.named kind)) (l.keyPart (Layout.named kind)) := by
  refine f.simulates_keyPart (fun l₁ hc _ k stop hs => ?_)
  obtain ⟨⟨name, stop'⟩, hn, he⟩ := Option.map_eq_some_iff.mp hs
  cases he
  rw [← hc] at hne
  rw [f.skip_layout hne, scanName_cursor] at hn
  obtain ⟨⟨name₀, stop₀⟩, hn₀, he⟩ := Option.map_eq_some_iff.mp hn
  cases he
  exact ⟨stop₀, Option.map_eq_some_iff.mpr ⟨_, hn₀, rfl⟩, rfl⟩

theorem simulates_tag :
    f.Simulates ((f.layout l).keyPart (fun l => scanTag l.inFlow l.cursor))
      (l.keyPart (fun l => scanTag l.inFlow l.cursor)) := by
  refine f.simulates_keyPart (fun l₁ _ _ k stop hs => ?_)
  have hcursor : (f.layout l₁).cursor = f.cursor l₁.cursor := rfl
  rw [inFlow_layout, hcursor, scanTag_cursor] at hs
  obtain ⟨⟨k₀, stop₀⟩, hs₀, he⟩ := Option.map_eq_some_iff.mp hs
  cases he
  exact ⟨stop₀, hs₀, rfl⟩

theorem simulates_quoted (double : Bool) (hs : Solid l.cursor.rest) (hne : l.cursor.rest ≠ []) :
    f.Simulates ((f.layout l).keyPart (Layout.quoted double))
      (l.keyPart (Layout.quoted double)) := by
  refine f.simulates_keyPart (fun l₁ hc _ k stop h => ?_)
  obtain ⟨s, hq, he⟩ := Option.map_eq_some_iff.mp h
  cases he
  rw [← hc] at hs hne
  obtain ⟨s₀, hq₀, rfl⟩ := f.quotedScalar_cursor hs hne hq
  exact ⟨s₀.stop, Option.map_eq_some_iff.mpr ⟨_, hq₀, rfl⟩, rfl⟩

/-- A plain scalar may take blanks behind the part, and then the part is left behind. -/
theorem simulates_plain (hs : Solid l.cursor.rest) (hne : l.cursor.rest ≠ []) :
    f.Simulates (f.layout l).plain l.plain := by
  intro l' h
  left
  rw [Layout.plain, saveKey_layout] at h
  obtain ⟨l₁, hk, h⟩ := Option.bind_eq_some_iff.mp h
  obtain ⟨l₁₀, hk₀, rfl⟩ := Option.map_eq_some_iff.mp hk
  obtain ⟨s, hp, h⟩ := Option.bind_eq_some_iff.mp h
  cases h
  rw [← Layout.cursor_saveKey hk₀] at hs hne
  rw [inFlow_layout] at hp
  obtain ⟨s₀, hp₀, hsame⟩ := f.plainScalar_cursor hs hne hp
  refine ⟨_, Option.bind_eq_some_iff.mpr ⟨_, hk₀, Option.bind_eq_some_iff.mpr ⟨_, hp₀, rfl⟩⟩, ?_⟩
  rw [hsame.text]
  rcases f.follows_take hsame.stop with ⟨hin, he⟩ | hb
  · left
    refine ⟨hin, ?_⟩
    rw [hsame.broken hin]
    exact congrArg (fun l : Layout => { l with keyAllowed := s₀.broken }) he
  · exact .inr ⟨hb.kinds, hb.columns, hb.pending, hb.outer, hb.rest, hb.cursor⟩

/-- A block scalar of the whole text may go on where that of the part ends. -/
theorem simulates_block (isLiteral : Bool) (hs : Solid l.cursor.rest) (hne : l.cursor.rest ≠ []) :
    f.Simulates ((f.layout l).block isLiteral) (l.block isLiteral) := by
  intro l' h
  rw [Layout.block, dropKey_layout] at h
  obtain ⟨l₁, hk, h⟩ := Option.bind_eq_some_iff.mp h
  obtain ⟨l₁₀, hk₀, rfl⟩ := Option.map_eq_some_iff.mp hk
  obtain ⟨s, hb, h⟩ := Option.bind_eq_some_iff.mp h
  cases h
  rw [← Layout.cursor_dropKey hk₀] at hs hne
  rcases f.blockScalar_cursor hs hne hb with ⟨s₀, hb₀, rfl⟩ | ⟨ht, hgaps⟩
  · left
    refine ⟨_, Option.bind_eq_some_iff.mpr ⟨_, hk₀, Option.bind_eq_some_iff.mpr ⟨_, hb₀, rfl⟩⟩, ?_⟩
    exact f.follows_layout _
  · right
    refine ⟨ht, hgaps, ?_⟩
    cases isLiteral <;> rfl

theorem simulates_directive (hs : Solid l.cursor.rest) (hne : l.cursor.rest ≠ []) :
    f.Simulates (f.layout l).directive l.directive := by
  intro l' h
  left
  rw [Layout.directive, leaveBlocks_layout] at h
  obtain ⟨l₁, hk, h⟩ := Option.bind_eq_some_iff.mp h
  obtain ⟨l₁₀, hk₀, rfl⟩ := Option.map_eq_some_iff.mp hk
  obtain ⟨⟨kind, stop⟩, hd, h⟩ := Option.bind_eq_some_iff.mp h
  cases h
  rw [← Layout.cursor_leaveBlocks hk₀] at hs hne
  obtain ⟨stop₀, hd₀, hat⟩ := f.scanDirective_cursor hs hne hd
  exact ⟨_, Option.bind_eq_some_iff.mpr ⟨_, hk₀, Option.bind_eq_some_iff.mpr ⟨_, hd₀, rfl⟩⟩,
    f.follows_take hat⟩

theorem documentLine_layout (kind : TokenKind) (hl : 3 ≤ l.cursor.rest.length) :
    (f.layout l).documentLine kind = (l.documentLine kind).map f.layout := by
  simp only [Layout.documentLine, leaveBlocks_layout]
  cases hk : l.leaveBlocks with
  | none => rfl
  | some l₁ =>
    rw [← Layout.cursor_leaveBlocks hk] at hl
    have hskip : (f.layout l₁).cursor.skip 3 = f.cursor (l₁.cursor.skip 3) :=
      f.skip_cursor l₁.cursor hl
    simp only [Option.map_some, Option.bind_eq_bind, Option.bind_some, hskip, take_layout]

/-- The token that starts inside a solid part. -/
theorem simulates_token (hs : Solid l.cursor.rest) (hne : l.cursor.rest ≠ []) :
    f.Simulates (f.layout l).token l.token := by
  obtain ⟨c, rest, hr⟩ := List.exists_cons_of_ne_nil hne
  have hcursor : (f.layout l).cursor = f.cursor l.cursor := rfl
  have hthree (x : Char) (h : l.cursor.isDocumentLine x = true) : 3 ≤ l.cursor.rest.length := by
    simp only [Cursor.isDocumentLine, Bool.and_eq_true, beq_iff_eq] at h
    have hl := congrArg List.length h.1.2
    simp only [List.length_take, List.length_cons, List.length_nil] at hl
    omega
  -- a dash that ends a word has been taken for an indicator of a block before
  have hplain (h : ¬(c = '-' ∧ wordEnds rest = true)) :
      Layout.startsPlain l.inFlow c (rest ++ f.trail) = Layout.startsPlain l.inFlow c rest := by
    rw [Layout.startsPlain, Layout.startsPlain, wordEnds_append]
    cases rest with
    | cons y rest => rfl
    | nil =>
      have hdash : (c == '-') = false := beq_eq_false_iff_ne.mpr (fun hc => h ⟨hc, rfl⟩)
      rw [hdash, Bool.false_and, Bool.false_and]
  simp only [Layout.token, hcursor, cursor_rest, hr, List.cons_append, cursor_mark, mark_column,
    f.isDocumentLine_cursor l.cursor (x := '-') rfl,
    f.isDocumentLine_cursor l.cursor (x := '.') rfl, wordEnds_append, inFlow_layout]
  refine .ite (fun _ => f.simulates_directive hs hne) fun _ => ?_
  refine .ite (fun h => .of_map (f.documentLine_layout _ (hthree _ h))) fun _ => ?_
  refine .ite (fun h => .of_map (f.documentLine_layout _ (hthree _ h))) fun _ => ?_
  refine .ite (fun _ => .of_map (f.openFlow_layout hne _)) fun _ => ?_
  refine .ite (fun _ => .of_map (f.openFlow_layout hne _)) fun _ => ?_
  refine .ite (fun _ => .of_map (f.closeFlow_layout hne _)) fun _ => ?_
  refine .ite (fun _ => .of_map (f.closeFlow_layout hne _)) fun _ => ?_
  refine .ite (fun _ => .of_map (f.flowEntry_layout hne)) fun _ => ?_
  refine .ite (fun _ => .of_map (f.blockIndicator_layout hne _ _ _)) fun hentry => ?_
  refine .ite (fun _ => .of_map (f.blockIndicator_layout hne _ _ _)) fun _ => ?_
  refine .ite (fun _ => .of_map (f.value_layout hne)) fun _ => ?_
  refine .ite (fun _ => f.simulates_named _ hne) fun _ => ?_
  refine .ite (fun _ => f.simulates_named _ hne) fun _ => ?_
  refine .ite (fun _ => f.simulates_tag) fun _ => ?_
  refine .ite (fun _ => f.simulates_block _ hs hne) fun _ => ?_
  refine .ite (fun _ => f.simulates_block _ hs hne) fun _ => ?_
  refine .ite (fun _ => f.simulates_quoted _ hs hne) fun _ => ?_
  refine .ite (fun _ => f.simulates_quoted _ hs hne) fun _ => ?_
  rw [hplain hentry]
  exact .ite (fun _ => f.simulates_plain hs hne) (fun _ => .none)

end Tokens

end Frame

end DirectiveDocs.Yaml
