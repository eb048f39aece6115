import DirectiveDocs.Text.Expansion
import DirectiveDocs.Proofs.Attempts
import Mathlib.Data.List.TakeWhile

namespace DirectiveDocs.Text

variable {env : String → Option String} {cs rest out out' : List Char}

def Segment.value (env : String → Option String) : Segment → Except String (List Char)
  | plain cs => .ok cs
  | .variable name default? =>
    match ((env (String.ofList name)).map String.toList).or default? with
    | some value => .ok value
    | none => .error (String.ofList name)

/-- A text with all its variables replaced, whether it has a braced reference or not. -/
def expansion (env : String → Option String) (cs : List Char) : Except String (List Char) :=
  values env (segments cs)

theorem values_plain {ss : List Segment} (h : values env ss = .ok out) :
    values env (.plain cs :: ss) = .ok (cs ++ out) := by
  simp [values, h, bind, Except.bind]

theorem values_cons {s : Segment} {v : List Char} {ss : List Segment} (hv : s.value env = .ok v)
    (h : values env ss = .ok out) : values env (s :: ss) = .ok (v ++ out) := by
  rcases s with cs | ⟨name, default?⟩
  · cases hv
    exact values_plain h
  · cases he : env (String.ofList name) <;> cases default? <;>
      simp_all [Segment.value, values, bind, Except.bind]

theorem length_afterDollar (cs : List Char) : (afterDollar cs).2.length ≤ cs.length := by
  unfold afterDollar
  split
  · rename_i cs
    have h := (List.dropWhile_sublist (· != '\x7d') (l := cs)).length_le
    split
    · simp
      omega
    · simp
  · simp
  · dsimp only
    split
    · exact Nat.le_refl _
    · exact (List.dropWhile_sublist _).length_le

/-- The segments do not depend on how many steps are allowed, if they are enough. -/
theorem segmentsFrom_eq (fuel fuel' : Nat) (cs : List Char) (h : cs.length < fuel)
    (h' : cs.length < fuel') :
    segmentsFrom fuel cs = segmentsFrom fuel' cs := by
  induction fuel generalizing fuel' cs with
  | zero => omega
  | succ fuel ih =>
    obtain _ | fuel' := fuel'
    · omega
    · simp only [segmentsFrom]
      split
      · rename_i c rest hrest
        have hl := (List.dropWhile_sublist (· != '$') (l := cs)).length_le
        have hd := length_afterDollar rest
        rw [hrest, List.length_cons] at hl
        rw [ih fuel' (afterDollar rest).2 (by omega) (by omega)]
      · rfl

/-- A character other than a dollar sign is plain. -/
theorem expansion_char {c : Char} (hc : c ≠ '$') (h : expansion env cs = .ok out) :
    expansion env (c :: cs) = .ok (c :: out) := by
  have htake : (c :: cs).takeWhile (· != '$') = c :: cs.takeWhile (· != '$') := by
    simp [hc]
  have hdrop : (c :: cs).dropWhile (· != '$') = cs.dropWhile (· != '$') := by
    simp [hc]
  simp only [expansion, segments, segmentsFrom, htake, hdrop] at h ⊢
  cases hrest : cs.dropWhile (· != '$') with
  | nil =>
    rw [hrest] at h
    cases h
    rfl
  | cons x rest =>
    rw [hrest] at h
    have hl := (List.dropWhile_sublist (· != '$') (l := cs)).length_le
    have hd := length_afterDollar rest
    rw [hrest, List.length_cons] at hl
    dsimp only at h ⊢
    rw [segmentsFrom_eq _ cs.length (afterDollar rest).2 (by simp; omega) (by omega)]
    obtain ⟨tail, ht, he⟩ := bind_eq_ok.mp h
    cases he
    exact values_plain ht

/-- A dollar sign makes a segment with what follows it. -/
theorem expansion_dollar {s : Segment} {v : List Char} (hs : afterDollar cs = (s, rest))
    (hv : s.value env = .ok v) (h : expansion env rest = .ok out) :
    expansion env ('$' :: cs) = .ok (v ++ out) := by
  have hseg : segments ('$' :: cs) =
      .plain [] :: (afterDollar cs).1 :: segmentsFrom (cs.length + 1) (afterDollar cs).2 := rfl
  have hl : rest.length ≤ cs.length := by
    simpa [hs] using length_afterDollar cs
  rw [expansion, hseg, hs, segmentsFrom_eq _ (rest.length + 1) rest (by omega) (by omega)]
  exact values_plain (values_cons hv h)

/-- Whether a dollar sign before a character stays as it is. -/
def isLone (c : Char) : Bool :=
  c != '$' && c != '\x7b' && !isVariableChar c

/-- What a text without braced references becomes when all its variables are replaced: of two dollar
signs one is left, and a dollar sign with a name is the value of the variable. -/
inductive Becomes (env : String → Option String) : List Char → List Char → Prop where
  | nil : Becomes env [] []
  | char {c : Char} {cs out : List Char} (hc : c ≠ '$') (h : Becomes env cs out) :
    Becomes env (c :: cs) (c :: out)
  | lone {c : Char} {cs out : List Char} (hc : isLone c = true) (h : Becomes env (c :: cs) out) :
    Becomes env ('$' :: c :: cs) ('$' :: out)
  | doubled {cs out : List Char} (h : Becomes env cs out) :
    Becomes env ('$' :: '$' :: cs) ('$' :: out)
  | named {name cs out : List Char} {value : String} (hn : name ≠ [])
    (hname : ∀ c ∈ name, isVariableChar c = true)
    (hend : cs.head?.all (fun c => !isVariableChar c) = true)
    (hvalue : env (String.ofList name) = some value) (h : Becomes env cs out) :
    Becomes env ('$' :: (name ++ cs)) (value.toList ++ out)

theorem isVariableChar_dollar : isVariableChar '$' = false := by
  decide +kernel

theorem isVariableChar_brace : isVariableChar '\x7b' = false := by
  decide +kernel

theorem afterDollar_doubled (cs : List Char) : afterDollar ('$' :: cs) = (.plain ['$'], cs) :=
  rfl

theorem afterDollar_lone {c : Char} (hc : isLone c = true) (cs : List Char) :
    afterDollar (c :: cs) = (.plain ['$'], c :: cs) := by
  simp only [isLone, Bool.and_eq_true, bne_iff_ne, ne_eq, Bool.not_eq_true'] at hc
  obtain ⟨⟨hdollar, hbrace⟩, hname⟩ := hc
  unfold afterDollar
  split
  · simp_all
  · simp_all
  · simp [hname]

/-- A name ends before the first character that cannot be in a name. -/
theorem takeWhile_name {name : List Char} (hname : ∀ c ∈ name, isVariableChar c = true)
    (hend : rest.head?.all (fun c => !isVariableChar c) = true) :
    (name ++ rest).takeWhile isVariableChar = name ∧
      (name ++ rest).dropWhile isVariableChar = rest := by
  have hrest : rest.takeWhile isVariableChar = [] ∧ rest.dropWhile isVariableChar = rest := by
    cases rest with
    | nil => simp
    | cons c rest => simp_all
  rw [List.takeWhile_append_of_pos hname, List.dropWhile_append_of_pos hname, hrest.1, hrest.2]
  simp

/-- A name that ends where it seems to end is looked up. -/
theorem afterDollar_named {name : List Char} (hn : name ≠ [])
    (hname : ∀ c ∈ name, isVariableChar c = true)
    (hend : rest.head?.all (fun c => !isVariableChar c) = true) :
    afterDollar (name ++ rest) = (.variable name none, rest) := by
  obtain ⟨htake, hdrop⟩ := takeWhile_name hname hend
  obtain ⟨c, name, rfl⟩ := List.exists_cons_of_ne_nil hn
  have hc := hname c List.mem_cons_self
  have hdollar : c ≠ '$' := by
    rintro rfl
    rw [isVariableChar_dollar] at hc
    cases hc
  have hbrace : c ≠ '\x7b' := by
    rintro rfl
    rw [isVariableChar_brace] at hc
    cases hc
  rw [List.cons_append] at htake hdrop ⊢
  unfold afterDollar
  split
  · simp_all
  · simp_all
  · simp [htake, hdrop]

/-- A plain piece becomes the same whatever follows it, a reference or nothing. -/
theorem Becomes.expansion (h : Becomes env cs out) (hrest : rest.head?.all (· == '$') = true)
    (he : expansion env rest = .ok out') : expansion env (cs ++ rest) = .ok (out ++ out') := by
  have hplain : (Segment.plain ['$']).value env = .ok ['$'] := rfl
  induction h with
  | nil => exact he
  | char hc _ ih => exact expansion_char hc ih
  | lone hc _ ih =>
    have h := expansion_dollar (afterDollar_lone hc _) hplain ih
    exact h
  | doubled _ ih =>
    have h := expansion_dollar (afterDollar_doubled _) hplain ih
    exact h
  | @named name cs out value hn hname hend hvalue _ ih =>
    have hend' : (cs ++ rest).head?.all (fun c => !isVariableChar c) = true := by
      cases cs with
      | nil =>
        cases rest with
        | nil => rfl
        | cons c rest => simp_all [isVariableChar_dollar]
      | cons c cs => exact hend
    rw [List.cons_append, List.append_assoc, List.append_assoc]
    refine expansion_dollar (afterDollar_named hn hname hend') ?_ ih
    simp [Segment.value, hvalue]

/-- Whether every dollar sign of a text stays as it is, at its end or before a character. -/
def isInert : List Char → Bool
  | '$' :: c :: cs => isLone c && isInert (c :: cs)
  | _ :: cs => isInert cs
  | [] => true

theorem isInert_cons {c : Char} (hc : c ≠ '$') (cs : List Char) :
    isInert (c :: cs) = isInert cs := by
  cases cs <;> simp [isInert, hc]

theorem hasBracedReference_append {ys : List Char} (h : hasBracedReference ys = true)
    (xs : List Char) : hasBracedReference (xs ++ ys) = true := by
  induction xs with
  | nil => exact h
  | cons c xs ih =>
    rw [List.cons_append, hasBracedReference.eq_def]
    split
    · rfl
    · simp_all
    · simp_all

/-- The form of a piece of text between references: no braced reference begins in it, not even with
what follows. -/
structure IsPlain (cs : List Char) : Prop where
  unbraced : hasBracedReference cs = false
  last : cs.getLast? ≠ some '$'

theorem IsPlain.of_append {xs ys : List Char} (h : IsPlain (xs ++ ys)) : IsPlain ys := by
  refine ⟨?_, ?_⟩
  · rw [Bool.eq_false_iff]
    intro hy
    exact absurd (hasBracedReference_append hy xs) (by rw [h.unbraced]; decide)
  · intro hy
    have hl := h.last
    rw [List.getLast?_append, hy] at hl
    exact hl rfl

theorem IsPlain.tail {c : Char} (h : IsPlain (c :: cs)) : IsPlain cs :=
  IsPlain.of_append (show IsPlain ([c] ++ cs) from h)

/-- The ways in which a plain piece may start. -/
theorem IsPlain.cases (h : IsPlain cs) :
    cs = [] ∨ (∃ c rest, c ≠ '$' ∧ cs = c :: rest) ∨
    (∃ c rest, isLone c = true ∧ cs = '$' :: c :: rest) ∨ (∃ rest, cs = '$' :: '$' :: rest) ∨
    ∃ name rest, name ≠ [] ∧ (∀ c ∈ name, isVariableChar c = true) ∧
      rest.head?.all (fun c => !isVariableChar c) = true ∧ cs = '$' :: (name ++ rest) := by
  rcases cs with _ | ⟨c, cs⟩
  · exact .inl rfl
  by_cases hc : c = '$'
  · subst hc
    rcases cs with _ | ⟨x, cs⟩
    · exact absurd rfl h.last
    by_cases hx : x = '$'
    · subst hx
      exact .inr (.inr (.inr (.inl ⟨cs, rfl⟩)))
    by_cases hv : isVariableChar x = true
    · refine .inr (.inr (.inr (.inr ⟨(x :: cs).takeWhile isVariableChar,
        (x :: cs).dropWhile isVariableChar, ?_, ?_, ?_, ?_⟩)))
      · simp [hv]
      · exact fun c hc => List.mem_takeWhile_imp hc
      · cases hd : (x :: cs).dropWhile isVariableChar with
        | nil => rfl
        | cons y rest => 
          have hy := List.head_dropWhile_not isVariableChar (l := x :: cs) (by simp [hd])
          simpa [hd] using hy
      · rw [List.takeWhile_append_dropWhile]
    · have hbrace : x ≠ '\x7b' := by
        rintro rfl
        exact absurd h.unbraced (by simp [hasBracedReference])
      exact .inr (.inr (.inl ⟨x, cs, by simp [isLone, hx, hbrace, hv], rfl⟩))
  · exact .inr (.inl ⟨c, cs, hc, rfl⟩)

/-- A text in which every dollar sign stays as it is becomes itself. -/
theorem Becomes.of_inert (hi : isInert cs = true) (h : IsPlain cs) : Becomes env cs cs := by
  induction cs with
  | nil => exact .nil
  | cons c cs ih =>
    by_cases hc : c = '$'
    · subst hc
      rcases cs with _ | ⟨x, cs⟩
      · exact absurd rfl h.last
      · obtain ⟨hx, hi⟩ := (Bool.and_eq_true _ _).mp hi
        exact .lone hx (ih hi h.tail)
    · exact .char hc (ih (isInert_cons hc cs ▸ hi) h.tail)

/-- Where every variable is empty, a plain piece becomes shorter unless it is inert. -/
theorem exists_becomes (cs : List Char) (h : IsPlain cs) :
    ∃ out, Becomes (fun _ => some "") cs out ∧ out.length ≤ cs.length ∧
      (out.length = cs.length → isInert cs = true) := by
  rcases h.cases with rfl | ⟨c, rest, hc, rfl⟩ | ⟨c, rest, hc, rfl⟩ | ⟨rest, rfl⟩ |
    ⟨name, rest, hn, hname, hend, rfl⟩
  · exact ⟨[], .nil, Nat.le_refl _, fun _ => rfl⟩
  · obtain ⟨out, hout, hle, heq⟩ := exists_becomes rest h.tail
    refine ⟨_, .char hc hout, by simpa using hle, fun he => ?_⟩
    rw [isInert_cons hc]
    exact heq (by simpa using he)
  · obtain ⟨out, hout, hle, heq⟩ := exists_becomes (c :: rest) h.tail
    refine ⟨_, .lone hc hout, by simpa using hle, fun he => ?_⟩
    rw [isInert, hc, heq (by simpa using he)]
    rfl
  · obtain ⟨out, hout, hle, _⟩ := exists_becomes rest h.tail.tail
    exact ⟨_, .doubled hout, by simp; omega, fun he => by simp at he; omega⟩
  · obtain ⟨out, hout, hle, _⟩ := exists_becomes rest (IsPlain.of_append h.tail)
    have hlen := List.length_pos_iff.mpr hn
    exact ⟨_, .named hn hname hend rfl hout, by simp; omega, fun he => by simp at he; omega⟩
termination_by cs.length

/-- The name of a reference ends before the first `:-`. -/
theorem splitDefault_append {name : List Char} (h : ¬ [':', '-'] <:+: name) (value : List Char) :
    splitDefault (name ++ ':' :: '-' :: value) = (name, some value) := by
  induction name with
  | nil => rfl
  | cons c name ih =>
    have hname : ¬ [':', '-'] <:+: name := fun hi => h (hi.trans (List.suffix_cons c name).isInfix)
    rw [List.cons_append, splitDefault.eq_def]
    split
    · rename_i cs hcs
      -- a hyphen after the first colon would be in the name
      rcases name with _ | ⟨x, name⟩
      · simp at hcs
      · obtain ⟨rfl, rfl, rfl⟩ : c = ':' ∧ x = '-' ∧ name ++ ':' :: '-' :: value = cs := by
          simpa using hcs
        exact absurd ⟨[], name, rfl⟩ h
    · rename_i hcs
      obtain ⟨rfl, rfl⟩ := List.cons.inj hcs
      rw [ih hname]
    · simp_all

theorem splitDefault_none {name : List Char} (h : ¬ [':', '-'] <:+: name) :
    splitDefault name = (name, none) := by
  induction name with
  | nil => rfl
  | cons c name ih =>
    have hname : ¬ [':', '-'] <:+: name := fun hi => h (hi.trans (List.suffix_cons c name).isInfix)
    rw [splitDefault.eq_def]
    split
    · rename_i cs hcs
      exact absurd ⟨[], cs, hcs.symm⟩ h
    · rename_i hcs
      obtain ⟨rfl, rfl⟩ := List.cons.inj hcs
      rw [ih hname]
    · simp_all

inductive Piece where
  | plain (text : List Char)
  | reference (name : List Char) (default? : Option (List Char))
  deriving DecidableEq, Repr

namespace Piece

def isPlain : Piece → Bool
  | plain _ => true
  | reference .. => false

def inside (name : List Char) (default? : Option (List Char)) : List Char :=
  name ++ (default?.map (fun value => ':' :: '-' :: value)).getD []

def text : Piece → List Char
  | plain cs => cs
  | reference name default? => '$' :: '\x7b' :: (inside name default? ++ ['\x7d'])

/-- The name of a reference ends where it seems to end, and so does the reference. -/
def WellFormed : Piece → Prop
  | plain cs => IsPlain cs
  | reference name default? =>
    name ≠ [] ∧ ¬ [':', '-'] <:+: name ∧ '\x7d' ∉ name ∧ ∀ value ∈ default?, '\x7d' ∉ value

/-- A reference without a default needs a variable with a value. -/
def IsSet (env : String → Option String) : Piece → Prop
  | plain _ => True
  | reference name default? => default? = none → env (String.ofList name) ≠ none

/-- What a piece should become: a plain one stays as it is, and a reference is the value of the
variable, or else the default. -/
def value (env : String → Option String) : Piece → List Char
  | plain cs => cs
  | reference name default? =>
    (((env (String.ofList name)).map String.toList).or default?).getD []

def isInert : Piece → Bool
  | plain cs => Text.isInert cs
  | reference .. => true

/-- What a piece does become in a text with a reference. -/
def Becomes (env : String → Option String) : Piece → List Char → Prop
  | plain cs, out => Text.Becomes env cs out
  | reference name default?, out => IsSet env (reference name default?) ∧
    out = value env (reference name default?)

end Piece

def written (ps : List Piece) : List Char :=
  ps.flatMap Piece.text

/-- Pieces of which no two neighbours are plain. -/
def Separated (ps : List Piece) : Prop :=
  ps.IsChain (fun p q => p.isPlain = false ∨ q.isPlain = false)

/-- A well-formed reference is read as its name and its default. -/
theorem afterDollar_reference {name : List Char} {default? : Option (List Char)}
    (h : (Piece.reference name default?).WellFormed) (rest : List Char) :
    afterDollar ('\x7b' :: (Piece.inside name default? ++ '\x7d' :: rest)) =
      (.variable name default?, rest) := by
  obtain ⟨hn, hname, hb, hd⟩ := h
  have hinside : ∀ c ∈ Piece.inside name default?, (c != '\x7d') = true := by
    intro c hc
    rw [bne_iff_ne]
    rintro rfl
    rcases List.mem_append.mp hc with hc | hc
    · exact hb hc
    · cases default? with
      | none => cases hc
      | some value => exact hd value rfl (by simpa using hc)
  have hsplit : splitDefault (Piece.inside name default?) = (name, default?) := by
    cases default? with
    | none => simpa [Piece.inside] using splitDefault_none hname
    | some value => exact splitDefault_append hname value
  have href : reference (Piece.inside name default?) = (name, default?) := by
    rw [reference, hsplit]
    cases name with
    | nil => exact absurd rfl hn
    | cons c name => rfl
  simp [afterDollar, List.takeWhile_append_of_pos hinside,
    List.dropWhile_append_of_pos hinside, href]

/-- Pieces become what each of them becomes. -/
theorem expansion_written {ps : List Piece} {outs : List (List Char)}
    (h : List.Forall₂ (Piece.Becomes env) ps outs) (hw : ∀ p ∈ ps, p.WellFormed)
    (hs : Separated ps) : expansion env (written ps) = .ok outs.flatten := by
  induction h with
  | nil => rfl
  | @cons p out ps outs hp hps ih =>
    obtain ⟨hwp, hwps⟩ := List.forall_mem_cons.mp hw
    have ih := ih hwps (List.IsChain.of_cons hs)
    change expansion env (p.text ++ written ps) = .ok (out ++ outs.flatten)
    cases p with
    | plain cs =>
      refine Becomes.expansion hp ?_ ih
      -- a plain piece is followed by a reference, if by anything
      rcases ps with _ | ⟨q, ps⟩
      · rfl
      · rcases q with _ | ⟨name, default?⟩
        · rcases (List.isChain_cons_cons.mp hs).1 with h | h <;> cases h
        · rfl
    | reference name default? =>
      obtain ⟨hset, rfl⟩ := hp
      have hafter := afterDollar_reference hwp (written ps)
      have hvalue : (Segment.variable name default?).value env =
          .ok ((Piece.reference name default?).value env) := by
        cases he : ((env (String.ofList name)).map String.toList).or default? with
        | some value => simp [Segment.value, Piece.value, he]
        | none =>
          rw [Option.or_eq_none_iff, Option.map_eq_none_iff] at he
          exact absurd he.1 (hset he.2)
      have hexp := expansion_dollar hafter hvalue ih
      simpa [Piece.text] using hexp

theorem hasBracedReference_written {ps : List Piece} {p : Piece} (hp : p ∈ ps)
    (h : p.isPlain = false) : hasBracedReference (written ps) = true := by
  obtain ⟨before, after, rfl⟩ := List.append_of_mem hp
  cases p with
  | plain _ => cases h
  | reference name default? =>
    rw [written, List.flatMap_append]
    exact hasBracedReference_append rfl _

/-- A text without a reference is a plain piece, or nothing. -/
theorem hasBracedReference_plain {ps : List Piece} (hw : ∀ p ∈ ps, p.WellFormed) (hs : Separated ps)
    (h : ∀ p ∈ ps, p.isPlain = true) : hasBracedReference (written ps) = false := by
  rcases ps with _ | ⟨p, _ | ⟨q, ps⟩⟩
  · rfl
  · cases p with
    | plain cs =>
      have hp : IsPlain cs := hw _ (List.mem_singleton_self _)
      simpa [written, Piece.text] using hp.unbraced
    | reference name default? => cases h _ (List.mem_singleton_self _)
  · have hp := h p List.mem_cons_self
    have hq := h q (List.mem_cons_of_mem _ List.mem_cons_self)
    rcases (List.isChain_cons_cons.mp hs).1 with hn | hn
    · rw [hp] at hn
      cases hn
    · rw [hq] at hn
      cases hn

/-- Plain pieces make up the text that they should become. -/
theorem written_plain {ps : List Piece} (h : ∀ p ∈ ps, p.isPlain = true) :
    written ps = ps.flatMap (Piece.value env) := by
  apply List.flatMap_congr
  intro p hp
  cases p with
  | plain cs => rfl
  | reference name default? => cases h _ hp

/-- A text of plain pieces is left as it is. -/
theorem expand_plain {ps : List Piece} (hw : ∀ p ∈ ps, p.WellFormed) (hs : Separated ps)
    (h : ∀ p ∈ ps, p.isPlain = true) :
    expand env (String.ofList (written ps)) =
      .ok (String.ofList (ps.flatMap (Piece.value env))) := by
  rw [expand, String.toList_ofList, hasBracedReference_plain hw hs h, ← written_plain h]
  rfl

/-- With a reference among the pieces all variables of the text are replaced. -/
theorem expand_of_reference {ps : List Piece} {p : Piece} (hp : p ∈ ps) (h : p.isPlain = false) :
    expand env (String.ofList (written ps)) = (expansion env (written ps)).map String.ofList := by
  rw [expand, String.toList_ofList, if_pos (hasBracedReference_written hp h)]
  rfl

/-- Inert pieces become what they should. -/
theorem becomes_of_inert {ps : List Piece} (hw : ∀ p ∈ ps, p.WellFormed)
    (hset : ∀ p ∈ ps, p.IsSet env) (h : ∀ p ∈ ps, p.isInert = true) :
    List.Forall₂ (Piece.Becomes env) ps (ps.map (Piece.value env)) := by
  rw [List.forall₂_map_right_iff, List.forall₂_same]
  intro p hp
  cases p with
  | plain cs => exact Becomes.of_inert (h _ hp) (hw _ hp)
  | reference name default? => exact ⟨hset _ hp, rfl⟩

/-- Where every variable is empty, pieces become shorter than they should unless they are inert. -/
theorem exists_becomes_written {ps : List Piece} (hw : ∀ p ∈ ps, p.WellFormed) :
    ∃ outs, List.Forall₂ (Piece.Becomes (fun _ => some "")) ps outs ∧
      outs.flatten.length ≤ (ps.flatMap (Piece.value (fun _ => some ""))).length ∧
      (outs.flatten.length = (ps.flatMap (Piece.value (fun _ => some ""))).length →
        ∀ p ∈ ps, p.isInert = true) := by
  induction ps with
  | nil => exact ⟨[], .nil, Nat.le_refl _, fun _ _ hp => absurd hp List.not_mem_nil⟩
  | cons p ps ih =>
    obtain ⟨hwp, hwps⟩ := List.forall_mem_cons.mp hw
    obtain ⟨outs, houts, hle, heq⟩ := ih hwps
    have hp : ∃ out, p.Becomes (fun _ => some "") out ∧
        out.length ≤ (p.value (fun _ => some "")).length ∧
        (out.length = (p.value (fun _ => some "")).length → p.isInert = true) := by
      cases p with
      | plain cs => exact exists_becomes cs hwp
      | reference name default? =>
        exact ⟨_, ⟨fun _ => by simp, rfl⟩, Nat.le_refl _, fun _ => rfl⟩
    obtain ⟨out, hout, hle', heq'⟩ := hp
    refine ⟨out :: outs, .cons hout houts, ?_, fun he => ?_⟩
    · simp only [List.flatten_cons, List.flatMap_cons, List.length_append]
      omega
    · simp only [List.flatten_cons, List.flatMap_cons, List.length_append] at he
      exact List.forall_mem_cons.mpr ⟨heq' (by omega), heq (by omega)⟩

/-- In a text with a reference every piece becomes what `Becomes` says. Each reference is its value,
and each plain piece stays as it is, in all environments where the references have values, exactly
when there is no reference or no dollar sign of a plain piece stands before a name or before another
dollar sign. -/
theorem plain_pieces_kept_iff {ps : List Piece} (hw : ∀ p ∈ ps, p.WellFormed) (hs : Separated ps) :
    ((∃ p ∈ ps, p.isPlain = false) → ∀ env outs, List.Forall₂ (Piece.Becomes env) ps outs →
      expand env (String.ofList (written ps)) = .ok (String.ofList outs.flatten)) ∧
    ((∀ env, (∀ p ∈ ps, p.IsSet env) → expand env (String.ofList (written ps)) =
        .ok (String.ofList (ps.flatMap (Piece.value env)))) ↔
      (∀ p ∈ ps, p.isPlain = true) ∨ ∀ p ∈ ps, p.isInert = true) := by
  have hbecomes : (∃ p ∈ ps, p.isPlain = false) → ∀ env outs,
      List.Forall₂ (Piece.Becomes env) ps outs →
      expand env (String.ofList (written ps)) = .ok (String.ofList outs.flatten) := by
    rintro ⟨p, hp, hr⟩ env outs h
    rw [expand_of_reference hp hr, expansion_written h hw hs]
    rfl
  refine ⟨hbecomes, ?_, ?_⟩
  · intro h
    by_cases hplain : ∀ p ∈ ps, p.isPlain = true
    · exact .inl hplain
    · obtain ⟨p, hp, hr⟩ : ∃ p ∈ ps, p.isPlain = false := by simpa using hplain
      obtain ⟨outs, houts, _, heq⟩ := exists_becomes_written hw
      have hset : ∀ p ∈ ps, p.IsSet (fun _ => some "") := by
        intro p _
        cases p <;> simp [Piece.IsSet]
      have he := (hbecomes ⟨p, hp, hr⟩ _ outs houts).symm.trans (h _ hset)
      rw [Except.ok.injEq, String.ofList_inj] at he
      exact .inr (heq (congrArg List.length he))
  · rintro (hplain | hinert) env hset
    · exact expand_plain hw hs hplain
    · by_cases hplain : ∀ p ∈ ps, p.isPlain = true
      · exact expand_plain hw hs hplain
      · rw [hbecomes (by simpa using hplain) env _ (becomes_of_inert hw hset hinert)]
        rfl

def directoryPath (first : List Char) : List Piece :=
  [.plain first, .reference ['D'] none, .plain ['/', '$', '.']]

theorem wellFormed_directoryPath (first : List Char) (h : IsPlain first) :
    ∀ p ∈ directoryPath first, p.WellFormed := by
  intro p hp
  simp only [directoryPath, List.mem_cons, List.not_mem_nil, or_false] at hp
  rcases hp with rfl | rfl | rfl
  · exact h
  · exact ⟨by decide, by decide, by decide, fun _ hv => nomatch hv⟩
  · exact ⟨rfl, by decide⟩

theorem separated_directoryPath (first : List Char) : Separated (directoryPath first) := by
  simp [Separated, directoryPath, Piece.isPlain]

/-- The value of the variable holds a name, which is left as it is. -/
theorem plain_pieces_kept_path :
    expand (fun _ => some "$X") "a$/$\x7bD\x7d/$." = .ok "a$/$X/$." := by
  have hw := wellFormed_directoryPath ['a', '$', '/'] ⟨rfl, by decide⟩
  have hset : ∀ p ∈ directoryPath ['a', '$', '/'], p.IsSet (fun _ => some "$X") := by
    intro p _
    cases p <;> simp [Piece.IsSet]
  exact (plain_pieces_kept_iff hw (separated_directoryPath _)).2.mpr
    (.inr (by decide +kernel)) _ hset

/-- A name without braces is looked up as soon as a reference stands in the same text. -/
theorem plain_name_looked_up :
    ¬ ∀ (env : String → Option String) (ps : List Piece), (∀ p ∈ ps, p.WellFormed) → Separated ps →
      (∀ p ∈ ps, p.IsSet env) →
      expand env (String.ofList (written ps)) =
        .ok (String.ofList (ps.flatMap (Piece.value env))) := by
  intro h
  let env : String → Option String := fun name => if name = "D" then some "d" else none
  have hw := wellFormed_directoryPath ['$', 'N', '/'] ⟨rfl, by decide⟩
  have hset : ∀ p ∈ directoryPath ['$', 'N', '/'], p.IsSet env := by
    intro p hp
    simp only [directoryPath, List.mem_cons, List.not_mem_nil, or_false] at hp
    rcases hp with rfl | rfl | rfl
    · trivial
    · exact fun _ => by decide +kernel
    · trivial
  have he := toOption_eq_some_iff.mpr (h env _ hw (separated_directoryPath _) hset)
  have hnone : (expand env (String.ofList (written (directoryPath ['$', 'N', '/'])))).toOption =
      none := by
    decide +kernel
  rw [hnone] at he
  cases he

end DirectiveDocs.Text
