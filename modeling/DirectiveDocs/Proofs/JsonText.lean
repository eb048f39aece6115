import DirectiveDocs.Json.Printer
import DirectiveDocs.Node.Json

namespace DirectiveDocs

namespace Json

inductive Token where
  | openArray | closeArray | openObject | closeObject | comma | colon
  | letter (c : Char)
  | number (value : Decimal)
  | text (value : String)

/-- A word is a token for each of its letters. -/
def word (letters : String) : List Token :=
  letters.toList.map .letter

mutual

/-- What a text of a value consists of, apart from blanks. -/
def tokens : Json → List Token
  | null => word "null"
  | bool b => word (if b then "true" else "false")
  | number d => [.number d]
  | string s => [.text s]
  | array items => .openArray :: (itemTokens items ++ [.closeArray])
  | object members => .openObject :: (memberTokens members ++ [.closeObject])

def itemTokens : List Json → List Token
  | [] => []
  | [j] => tokens j
  | j :: rest => tokens j ++ .comma :: itemTokens rest

def memberTokens : List (String × Json) → List Token
  | [] => []
  | [(k, j)] => .text k :: .colon :: tokens j
  | (k, j) :: rest => .text k :: .colon :: (tokens j ++ .comma :: memberTokens rest)

end

namespace Token

def ofMark? : Char → Option Token
  | '[' => some openArray
  | ']' => some closeArray
  | '\x7b' => some openObject
  | '\x7d' => some closeObject
  | ',' => some comma
  | ':' => some colon
  | _ => none

end Token

def hexValue? (c : Char) : Option Nat :=
  if '0' ≤ c ∧ c ≤ '9' then some (c.toNat - '0'.toNat)
  else if 'a' ≤ c ∧ c ≤ 'f' then some (c.toNat - 'a'.toNat + 10)
  else none

def unescape? : Char → Option Char
  | '"' => some '"'
  | '\\' => some '\\'
  | '/' => some '/'
  | 'b' => some '\x08'
  | 'f' => some '\x0c'
  | 'n' => some '\n'
  | 'r' => some '\r'
  | 't' => some '\t'
  | _ => none

/-- Where a reader stands: between tokens, in a string, behind a backslash, or in the digits that give
a character. What was read of the string is kept with its last character first. -/
inductive Spot where
  | between
  | inside (done : List Char)
  | escape (done : List Char)
  | digits (done : List Char) (left value : Nat)

/-- Reads one character after another. Only blanks may stand between tokens; numbers are not read. -/
def lex : Spot → List Char → Option (List Token)
  | .between, [] => some []
  | .inside _, [] | .escape _, [] | .digits .., [] => none
  | .between, c :: cs =>
    if c.isLower then (lex .between cs).map (.letter c :: ·)
    else if c = '"' then lex (.inside []) cs
    else if c = ' ' ∨ c = '\n' ∨ c = '\t' ∨ c = '\r' then lex .between cs
    else (Token.ofMark? c).bind (fun t => (lex .between cs).map (t :: ·))
  | .inside done, c :: cs =>
    if c = '"' then (lex .between cs).map (.text (String.ofList done.reverse) :: ·)
    else if c = '\\' then lex (.escape done) cs
    else if c.toNat < 0x20 then none
    else lex (.inside (c :: done)) cs
  | .escape done, c :: cs =>
    if c = 'u' then lex (.digits done 3 0) cs
    else (unescape? c).bind (fun x => lex (.inside (x :: done)) cs)
  | .digits done left value, c :: cs =>
    (hexValue? c).bind (fun n =>
      match left with
      | 0 => lex (.inside (Char.ofNat (16 * value + n) :: done)) cs
      | left + 1 => lex (.digits done left (16 * value + n)) cs)

/-- The text has exactly the tokens of the value, with nothing but blanks between them. -/
def Spells (text : String) (j : Json) : Prop :=
  lex .between text.toList = some j.tokens

def separated {α : Type} (f : α → List Token) : List α → List Token
  | [] => []
  | x :: xs => f x ++ xs.flatMap (fun y => .comma :: f y)

theorem mem_separated {α : Type} {f : α → List Token} {xs : List α} {t : Token}
    (ht : t ≠ .comma) : t ∈ separated f xs ↔ ∃ x ∈ xs, t ∈ f x := by
  cases xs with
  | nil => simp [separated]
  | cons x xs => simp [separated, ht]

def memberToken (m : String × Json) : List Token :=
  .text m.1 :: .colon :: m.2.tokens

theorem eq_separated {α : Type} {tokensOf : List α → List Token} {f : α → List Token}
    (hnil : tokensOf [] = []) (hone : ∀ x, tokensOf [x] = f x)
    (hmore : ∀ x y rest, tokensOf (x :: y :: rest) = f x ++ .comma :: tokensOf (y :: rest))
    (xs : List α) : tokensOf xs = separated f xs := by
  induction xs with
  | nil => exact hnil
  | cons x rest ih =>
    cases rest with
    | nil => simp [hone, separated]
    | cons y rest =>
      rw [hmore, ih]
      simp [separated]

theorem itemTokens_eq (items : List Json) : itemTokens items = separated tokens items :=
  eq_separated rfl (fun _ => rfl) (fun _ _ _ => rfl) items

theorem memberTokens_eq (members : List (String × Json)) :
    memberTokens members = separated memberToken members :=
  eq_separated rfl (fun _ => rfl) (fun _ _ _ => rfl) members

theorem tokens_array (items : List Json) :
    (array items).tokens = .openArray :: (separated tokens items ++ [.closeArray]) := by
  rw [tokens, itemTokens_eq]

theorem tokens_object (members : List (String × Json)) :
    (object members).tokens = .openObject :: (separated memberToken members ++ [.closeObject]) := by
  rw [tokens, memberTokens_eq]

/-- Tokens that begin with those of a part begin with those of no other one. -/
def Determines {α : Type} (f : α → List Token) (x : α) : Prop :=
  ∀ (y : α) (ts ts' : List Token), f x ++ ts = f y ++ ts' → x = y ∧ ts = ts'

/-- Each comma begins one more part, and the bracket ends them. -/
theorem flatMap_comma_inj {α : Type} {f : α → List Token} {close : Token} (hc : close ≠ .comma)
    {xs ys : List α} {ts ts' : List Token} (hf : ∀ x ∈ xs, Determines f x)
    (h : xs.flatMap (fun x => .comma :: f x) ++ close :: ts =
      ys.flatMap (fun y => .comma :: f y) ++ close :: ts') : xs = ys ∧ ts = ts' := by
  induction xs generalizing ys with
  | nil =>
    cases ys with
    | nil => simpa using h
    | cons y ys => simp [hc] at h
  | cons x xs ih =>
    cases ys with
    | nil => simp [hc.symm] at h
    | cons y ys =>
      simp only [List.flatMap_cons, List.cons_append, List.append_assoc, List.cons.injEq,
        true_and] at h
      obtain ⟨rfl, hrest⟩ := hf x (by simp) _ _ _ h
      obtain ⟨rfl, hts⟩ := ih (fun z hz => hf z (by simp [hz])) hrest
      exact ⟨rfl, hts⟩

/-- Where a bracket follows that is neither a comma nor begins a part, the parts are known. -/
theorem separated_inj {α : Type} {f : α → List Token} {close : Token} (hc : close ≠ .comma)
    (hhead : ∀ x, ∃ t us, f x = t :: us ∧ t ≠ close) {xs ys : List α} {ts ts' : List Token}
    (hf : ∀ x ∈ xs, Determines f x)
    (h : separated f xs ++ close :: ts = separated f ys ++ close :: ts') :
    xs = ys ∧ ts = ts' := by
  cases xs with
  | nil =>
    cases ys with
    | nil => simpa [separated] using h
    | cons y ys =>
      obtain ⟨t, us, hy, hne⟩ := hhead y
      simp [separated, hy, hne.symm] at h
  | cons x xs =>
    cases ys with
    | nil =>
      obtain ⟨t, us, hx, hne⟩ := hhead x
      simp [separated, hx, hne] at h
    | cons y ys =>
      simp only [separated, List.append_assoc] at h
      obtain ⟨rfl, hrest⟩ := hf x (by simp) _ _ _ h
      obtain ⟨rfl, hts⟩ := flatMap_comma_inj hc (fun z hz => hf z (by simp [hz])) hrest
      exact ⟨rfl, hts⟩

theorem tokens_head (j : Json) : ∃ t ts, j.tokens = t :: ts ∧ t ≠ .closeArray := by
  cases j with
  | bool b => cases b <;> simp [tokens, word]
  | _ => simp [tokens, word]

mutual

/-- The tokens of a value end where the value ends. -/
theorem determines_tokens : ∀ j : Json, Determines tokens j
  | null | bool true | bool false | number _ | string _ => by
    intro j' ts ts' h
    cases j' with
    | bool b => cases b <;> simp_all [tokens, word]
    | _ => simp_all [tokens, word]
  | array items => by
    intro j' ts ts' h
    cases j' with
    | array items' =>
      simp only [tokens_array, List.cons_append, List.append_assoc, List.nil_append,
        List.cons.injEq, true_and] at h
      obtain ⟨rfl, hts⟩ := separated_inj (by simp) tokens_head (determines_items items) h
      exact ⟨rfl, hts⟩
    | bool b => cases b <;> simp [tokens, word] at h
    | _ => simp [tokens, word] at h
  | object members => by
    intro j' ts ts' h
    cases j' with
    | object members' =>
      simp only [tokens_object, List.cons_append, List.append_assoc, List.nil_append,
        List.cons.injEq, true_and] at h
      obtain ⟨rfl, hts⟩ := separated_inj (by simp) (by simp [memberToken])
        (determines_members members) h
      exact ⟨rfl, hts⟩
    | bool b => cases b <;> simp [tokens, word] at h
    | _ => simp [tokens, word] at h

theorem determines_items : ∀ items : List Json, ∀ j ∈ items, Determines tokens j
  | [], _, h => nomatch h
  | j :: rest, k, h => by
    rcases List.mem_cons.mp h with hk | hk
    · rw [hk]
      exact determines_tokens j
    · exact determines_items rest k hk

theorem determines_members : ∀ members : List (String × Json), ∀ m ∈ members,
    Determines memberToken m
  | [], _, h => nomatch h
  | (key, j) :: rest, m, h => by
    rcases List.mem_cons.mp h with hm | hm
    · rw [hm]
      intro m' ts ts' h
      simp only [memberToken, List.cons_append, List.cons.injEq, Token.text.injEq, true_and] at h
      obtain ⟨hj, hts⟩ := determines_tokens j _ _ _ h.2
      exact ⟨Prod.ext h.1 hj, hts⟩
    · exact determines_members rest m hm

end

/-- A text spells at most one value. -/
theorem Spells.unique {text : String} {j j' : Json} (h : Spells text j) (h' : Spells text j') :
    j = j' := by
  have ht : j.tokens = j'.tokens := Option.some.inj (h.symm.trans h')
  exact (determines_tokens j j' [] [] (by simpa using ht)).1

/-- Reading the text gives the tokens, whatever comes after it. -/
def Gives (text : String) (ts : List Token) : Prop :=
  ∀ rest, lex .between (text.toList ++ rest) = (lex .between rest).map (ts ++ ·)

/-- Texts one after another give their tokens one after another. -/
theorem Gives.append {text text' : String} {ts ts' : List Token} (h : Gives text ts)
    (h' : Gives text' ts') : Gives (text ++ text') (ts ++ ts') := by
  intro rest
  rw [String.toList_append, List.append_assoc, h, h', Option.map_map]
  simp [Function.comp_def]

theorem gives_intercalate {α : Type} {g : α → String} {f : α → List Token} {xs : List α}
    (h : ∀ x ∈ xs, Gives (g x) (f x)) : Gives (",".intercalate (xs.map g)) (separated f xs) := by
  induction xs with
  | nil => simp [Gives, separated]
  | cons x xs ih =>
    have hx : Gives (g x) (f x) := h x (by simp)
    have hxs := ih (fun y hy => h y (by simp [hy]))
    cases xs with
    | nil => simpa [separated] using hx
    | cons y ys =>
      have hcomma : Gives "," [.comma] := by
        intro rest
        simp [lex, Token.ofMark?]
      simpa [separated] using (hx.append hcomma).append hxs

theorem hexValue_hexDigit : ∀ n < 16, hexValue? (hexDigit n) = some n := by
  decide

/-- An escaped character is read as one character more of the string. -/
theorem lex_escapeChar (done : List Char) (c : Char) (cs : List Char) :
    lex (.inside done) (escapeChar c ++ cs) = lex (.inside (c :: done)) cs := by
  -- a case for each branch of `escapeChar`: in the last one the character cannot end the string
  unfold escapeChar
  split
  · rename_i h
    simp only [Bool.or_eq_true, decide_eq_true_eq] at h
    rcases h with rfl | rfl <;> simp [lex, unescape?]
  split
  · subst c
    simp [lex, unescape?]
  split
  · subst c
    simp [lex, unescape?]
  split
  · subst c
    simp [lex, unescape?]
  split
  · subst c
    simp [lex, unescape?]
  split
  · subst c
    simp [lex, unescape?]
  split
  · rename_i hc
    have hzero : hexValue? '0' = some 0 := by decide
    have hhigh := hexValue_hexDigit (c.toNat / 16) (by omega)
    have hlow := hexValue_hexDigit (c.toNat % 16) (by omega)
    simp [lex, hzero, hhigh, hlow, Nat.div_add_mod]
  · rename_i hquote _ _ _ _ _ hc
    simp only [Bool.or_eq_true, decide_eq_true_eq, not_or] at hquote
    simp [lex, hquote, hc]

/-- A string ends at its closing quote, with every escape read. -/
theorem lex_escaped (done s cs : List Char) :
    lex (.inside done) (s.flatMap escapeChar ++ '"' :: cs) =
      (lex .between cs).map (.text (String.ofList (done.reverse ++ s)) :: ·) := by
  induction s generalizing done with
  | nil => simp [lex]
  | cons c s ih =>
    rw [List.flatMap_cons, List.append_assoc, lex_escapeChar, ih]
    simp

theorem gives_printString (s : String) : Gives (printString s) [.text s] := by
  intro rest
  simp [printString, lex, lex_escaped]

/-- A line break and spaces are no tokens. -/
theorem gives_indent (depth : Nat) : Gives (indent depth) [] := by
  intro rest
  have hspaces : ∀ n, lex .between (List.replicate n ' ' ++ rest) = lex .between rest := by
    intro n
    induction n with
    | zero => rfl
    | succ n ih => simp [List.replicate_succ, lex, ih]
  simp [indent, lex, hspaces]

def NumberFree (j : Json) : Prop :=
  ∀ d, Token.number d ∉ j.tokens

theorem numberFree_array {items : List Json} :
    NumberFree (array items) ↔ ∀ j ∈ items, NumberFree j := by
  simp only [NumberFree, tokens_array, List.mem_cons, List.mem_append, List.not_mem_nil,
    mem_separated, ne_eq, reduceCtorEq, not_false_eq_true, false_or, or_false, not_exists, not_and]
  exact ⟨fun h j hj d => h d j hj, fun h d j hj => h j hj d⟩

theorem numberFree_object {members : List (String × Json)} :
    NumberFree (object members) ↔ ∀ m ∈ members, NumberFree m.2 := by
  simp only [NumberFree, tokens_object, List.mem_cons, List.mem_append, List.not_mem_nil,
    mem_separated, memberToken, ne_eq, reduceCtorEq, not_false_eq_true, false_or, or_false,
    not_exists, not_and]
  exact ⟨fun h j hj d => h d j hj, fun h d j hj => h j hj d⟩

theorem lex_letters {letters : List Char} (h : letters.all Char.isLower = true)
    (rest : List Char) : lex .between (letters ++ rest) =
      (lex .between rest).map (letters.map .letter ++ ·) := by
  induction letters with
  | nil => simp
  | cons c cs ih =>
    obtain ⟨hc, hcs⟩ := Bool.and_eq_true_iff.mp h
    rw [List.cons_append, lex, if_pos hc, ih hcs]
    simp [Function.comp_def]

theorem gives_scalar {j : Json} (h : NumberFree j) (ha : ∀ items, j ≠ array items)
    (ho : ∀ members, j ≠ object members) : Gives (printScalar j) j.tokens := by
  cases j with
  | null => exact lex_letters rfl
  | bool b => cases b <;> exact lex_letters rfl
  | number d => simp [NumberFree, tokens] at h
  | string s => exact gives_printString s
  | array items => exact absurd rfl (ha items)
  | object members => exact absurd rfl (ho members)

theorem gives_mark {text : String} {c : Char} {t : Token} (hc : text.toList = [c])
    (ht : Token.ofMark? c = some t) : Gives text [t] := by
  intro rest
  unfold Token.ofMark? at ht
  split at ht <;> cases ht <;> simp [hc, lex, Token.ofMark?]

mutual

/-- The text on one line can be read. -/
theorem gives_compact : ∀ j : Json, NumberFree j → Gives j.compact j.tokens
  | null, h | bool _, h | number _, h | string _, h => by
    simpa [compact] using gives_scalar h (by simp) (by simp)
  | array items, h => by
    rw [compact_array, tokens_array]
    have hitems := gives_intercalate (gives_compactItems items (numberFree_array.mp h))
    have hopen : Gives "[" [.openArray] := gives_mark rfl rfl
    have hclose : Gives "]" [.closeArray] := gives_mark rfl rfl
    exact (hopen.append hitems).append hclose
  | object members, h => by
    rw [compact_object, tokens_object]
    have hmembers := gives_intercalate (gives_compactMembers members (numberFree_object.mp h))
    have hopen : Gives "\x7b" [.openObject] := gives_mark rfl rfl
    have hclose : Gives "\x7d" [.closeObject] := gives_mark rfl rfl
    exact (hopen.append hmembers).append hclose

theorem gives_compactItems : ∀ items : List Json, (∀ j ∈ items, NumberFree j) →
    ∀ j ∈ items, Gives j.compact j.tokens
  | [], _, _, hj => nomatch hj
  | k :: rest, h, j, hj => by
    rcases List.mem_cons.mp hj with hk | hk
    · rw [hk]
      exact gives_compact k (h k (by simp))
    · exact gives_compactItems rest (fun l hl => h l (by simp [hl])) j hk

theorem gives_compactMembers : ∀ members : List (String × Json),
    (∀ m ∈ members, NumberFree m.2) →
    ∀ m ∈ members, Gives (printString m.1 ++ ":" ++ m.2.compact) (memberToken m)
  | [], _, _, hm => nomatch hm
  | (key, k) :: rest, h, m, hm => by
    rcases List.mem_cons.mp hm with hk | hk
    · rw [hk]
      have hcolon : Gives ":" [.colon] := gives_mark rfl rfl
      exact ((gives_printString key).append hcolon).append (gives_compact k (h (key, k) (by simp)))
    · exact gives_compactMembers rest (fun l hl => h l (by simp [hl])) m hk

end

mutual

/-- The text on several lines can be read. -/
theorem gives_prettyAt : ∀ (depth : Nat) (j : Json), NumberFree j →
    Gives (j.prettyAt depth) j.tokens
  | depth, null, h | depth, bool _, h | depth, number _, h | depth, string _, h => by
    simpa [prettyAt] using gives_scalar h (by simp) (by simp)
  | depth, array [], h => by
    intro rest
    simp [prettyAt, tokens, itemTokens, lex, Token.ofMark?, Function.comp_def]
  | depth, array (j :: rest), h => by
    rw [prettyAt_array (by simp), tokens_array]
    have hitems := gives_intercalate
      (gives_prettyItems (depth + 1) (j :: rest) (numberFree_array.mp h))
    have hopen : Gives "[" [.openArray] := gives_mark rfl rfl
    have hclose : Gives "]" [.closeArray] := gives_mark rfl rfl
    simpa using ((hopen.append hitems).append (gives_indent depth)).append hclose
  | depth, object [], h => by
    intro rest
    simp [prettyAt, tokens, memberTokens, lex, Token.ofMark?, Function.comp_def]
  | depth, object (m :: rest), h => by
    rw [prettyAt_object (by simp), tokens_object]
    have hmembers := gives_intercalate
      (gives_prettyMembers (depth + 1) (m :: rest) (numberFree_object.mp h))
    have hopen : Gives "\x7b" [.openObject] := gives_mark rfl rfl
    have hclose : Gives "\x7d" [.closeObject] := gives_mark rfl rfl
    simpa using ((hopen.append hmembers).append (gives_indent depth)).append hclose

theorem gives_prettyItems : ∀ (depth : Nat) (items : List Json), (∀ j ∈ items, NumberFree j) →
    ∀ j ∈ items, Gives (indent depth ++ j.prettyAt depth) j.tokens
  | _, [], _, _, hj => nomatch hj
  | depth, k :: rest, h, j, hj => by
    rcases List.mem_cons.mp hj with hk | hk
    · rw [hk]
      exact (gives_indent depth).append (gives_prettyAt depth k (h k (by simp)))
    · exact gives_prettyItems depth rest (fun l hl => h l (by simp [hl])) j hk

theorem gives_prettyMembers : ∀ (depth : Nat) (members : List (String × Json)),
    (∀ m ∈ members, NumberFree m.2) → ∀ m ∈ members,
    Gives (indent depth ++ printString m.1 ++ ": " ++ m.2.prettyAt depth) (memberToken m)
  | _, [], _, _, hm => nomatch hm
  | depth, (key, k) :: rest, h, m, hm => by
    rcases List.mem_cons.mp hm with hk | hk
    · rw [hk]
      have hkey := (gives_indent depth).append (gives_printString key)
      have hcolon : Gives ": " [.colon] := by
        intro rest
        simp [lex, Token.ofMark?]
      exact (hkey.append hcolon).append (gives_prettyAt depth k (h (key, k) (by simp)))
    · exact gives_prettyMembers depth rest (fun l hl => h l (by simp [hl])) m hk

end

theorem numberFree_string (s : String) : NumberFree (string s) := by
  simp [NumberFree, tokens]

end Json

theorem Attributes.numberFree_toJson (a : Attributes) : a.toJson.NumberFree := by
  apply Json.numberFree_object.mpr
  intro m hm
  obtain ⟨e, _, rfl⟩ := List.mem_map.mp hm
  exact Json.numberFree_string e.2

namespace Node

mutual

/-- No node has a number in its JSON. -/
theorem numberFree_toJson : ∀ n : Node, n.toJson.NumberFree
  | mk k a cs => by
    have hchildren := Json.numberFree_array.mpr (numberFree_childrenToJson cs)
    rw [toJson, Json.numberFree_object]
    split <;> simp [hchildren, a.numberFree_toJson, Json.numberFree_string]

theorem numberFree_childToJson : ∀ c : Child, (childToJson c).NumberFree
  | .node n => numberFree_toJson n
  | .text s => Json.numberFree_string s

theorem numberFree_childrenToJson : ∀ cs : List Child, ∀ j ∈ childrenToJson cs, j.NumberFree
  | [], _, hj => nomatch hj
  | c :: cs, j, hj => by
    rcases List.mem_cons.mp hj with hc | hc
    · rw [hc]
      exact numberFree_childToJson c
    · exact numberFree_childrenToJson cs j hc

end

end Node
end DirectiveDocs
