import DirectiveDocs.Proofs.LabelGrammar
import DirectiveDocs.Text.Pattern

namespace DirectiveDocs

namespace Text

theorem mem_runs_cons {p : Char → Bool} {c : Char} {cs word rest : List Char} :
    (word, rest) ∈ runs p (c :: cs) ↔
      (word = [] ∧ rest = c :: cs) ∨
        (p c = true ∧ ∃ more, word = c :: more ∧ (more, rest) ∈ runs p cs) := by
  rw [runs, List.mem_cons, Prod.mk.injEq]
  refine or_congr Iff.rfl ?_
  constructor
  · intro h
    split at h
    · rename_i hc
      obtain ⟨⟨more, r⟩, hm, he⟩ := List.mem_map.mp h
      obtain ⟨rfl, rfl⟩ := Prod.mk.inj he
      exact ⟨hc, more, rfl, hm⟩
    · cases h
  · rintro ⟨hc, more, rfl, hm⟩
    rw [if_pos hc]
    exact List.mem_map.mpr ⟨(more, rest), hm, rfl⟩

/-- A run of a class is cut off at every place up to its end. -/
theorem mem_runs {p : Char → Bool} {text word rest : List Char} :
    (word, rest) ∈ runs p text ↔ text = word ++ rest ∧ ∀ c ∈ word, p c = true := by
  induction text generalizing word with
  | nil =>
    rw [runs, List.mem_singleton, Prod.mk.injEq]
    constructor
    · rintro ⟨rfl, rfl⟩
      exact ⟨rfl, List.forall_mem_nil _⟩
    · rintro ⟨h, -⟩
      exact List.append_eq_nil_iff.mp h.symm
  | cons c cs ih =>
    rw [mem_runs_cons]
    constructor
    · rintro (⟨rfl, rfl⟩ | ⟨hc, more, rfl, hm⟩)
      · exact ⟨rfl, List.forall_mem_nil _⟩
      · obtain ⟨rfl, hw⟩ := ih.mp hm
        exact ⟨rfl, List.forall_mem_cons.mpr ⟨hc, hw⟩⟩
    · rintro ⟨h, hw⟩
      cases word with
      | nil => exact .inl ⟨rfl, h.symm⟩
      | cons d more =>
        obtain ⟨rfl, rfl⟩ := List.cons.inj h
        obtain ⟨hc, hw⟩ := List.forall_mem_cons.mp hw
        exact .inr ⟨hc, more, rfl, ih.mpr ⟨rfl, hw⟩⟩

theorem runs_eq_cons (p : Char → Bool) (text : List Char) :
    ∃ later, runs p text = ([], text) :: later := by
  cases text <;> exact ⟨_, rfl⟩

namespace Pattern

variable {x y : Place} {p : Char → Bool}

theorem mem_ways_start : y ∈ start.ways x ↔ x.before = [] ∧ y = x := by
  change y ∈ (if x.before.isEmpty then [x] else []) ↔ _
  cases x.before <;> simp

theorem mem_ways_finish : y ∈ finish.ways x ↔ x.after = [] ∧ y = x := by
  change y ∈ (if x.after.isEmpty then [x] else []) ↔ _
  cases x.after <;> simp

theorem mem_ways_one :
    y ∈ (one p).ways x ↔ ∃ c rest, x.after = c :: rest ∧ p c = true ∧ y = x.pass [c] rest := by
  rw [ways]
  cases x.after with
  | nil => simp
  | cons d more =>
    simp only [List.cons.injEq]
    constructor
    · intro h
      split at h
      · rename_i hd
        exact ⟨d, more, ⟨rfl, rfl⟩, hd, List.mem_singleton.mp h⟩
      · cases h
    · rintro ⟨c, rest, ⟨rfl, rfl⟩, hd, rfl⟩
      rw [if_pos hd]
      exact List.mem_singleton_self _

/-- Any run of the class can be taken, whichever is preferred. -/
theorem mem_ways_fewest :
    y ∈ (fewest p).ways x ↔
      ∃ word rest, x.after = word ++ rest ∧ (∀ c ∈ word, p c = true) ∧ y = x.pass word rest := by
  change y ∈ (runs p x.after).map (fun cut => x.pass cut.1 cut.2) ↔ _
  simp only [List.mem_map, Prod.exists, mem_runs, and_assoc, eq_comm]

/-- Both repetitions lead to the same places, in opposite orders. -/
theorem mem_ways_most : y ∈ (most p).ways x ↔ y ∈ (fewest p).ways x :=
  List.mem_reverse

theorem mem_ways_group {e : Pattern} :
    y ∈ (group e).ways x ↔ ∃ z ∈ e.ways x, y = x.close z := by
  change y ∈ (e.ways x).map x.close ↔ _
  simp only [List.mem_map, eq_comm]

/-- A pattern after another one goes on where that one leads. -/
theorem mem_ways_seq {first second : Pattern} :
    y ∈ (seq first second).ways x ↔ ∃ z ∈ first.ways x, y ∈ second.ways z :=
  List.mem_flatMap

/-- One of a class and then any number of it is a run that is not empty. -/
theorem mem_ways_some :
    y ∈ (seq (one p) (most p)).ways x ↔
      ∃ word rest, x.after = word ++ rest ∧ (word ≠ [] ∧ ∀ c ∈ word, p c = true) ∧
        y = x.pass word rest := by
  simp only [mem_ways_seq, mem_ways_one, mem_ways_most, mem_ways_fewest]
  constructor
  · rintro ⟨z, ⟨c, more, hx, hc, rfl⟩, word, rest, hz, hw, rfl⟩
    obtain rfl : more = word ++ rest := hz
    exact ⟨c :: word, rest, hx, ⟨List.cons_ne_nil _ _, List.forall_mem_cons.mpr ⟨hc, hw⟩⟩,
      by simp [Place.pass]⟩
  · rintro ⟨word, rest, hx, ⟨hne, hw⟩, rfl⟩
    obtain ⟨c, word, rfl⟩ := List.exists_cons_of_ne_nil hne
    obtain ⟨hc, hw⟩ := List.forall_mem_cons.mp hw
    exact ⟨_, ⟨c, word ++ rest, hx, hc, rfl⟩, word, rest, rfl, hw, by simp [Place.pass]⟩

/-- A group around a pattern that passes words of some kind holds the word. -/
theorem mem_ways_group_of {e : Pattern} {P : List Char → Prop}
    (he : ∀ {z}, z ∈ e.ways x ↔ ∃ word rest, x.after = word ++ rest ∧ P word ∧
      z = x.pass word rest) :
    y ∈ (group e).ways x ↔ ∃ word rest, x.after = word ++ rest ∧ P word ∧
      y = ⟨x.before ++ word, rest, x.groups ++ [word]⟩ := by
  have hclose : ∀ word rest, x.close (x.pass word rest) =
      ⟨x.before ++ word, rest, x.groups ++ [word]⟩ := by
    simp [Place.close, Place.pass]
  rw [mem_ways_group]
  constructor
  · rintro ⟨z, hz, rfl⟩
    obtain ⟨word, rest, hx, hw, rfl⟩ := he.mp hz
    exact ⟨word, rest, hx, hw, hclose word rest⟩
  · rintro ⟨word, rest, hx, hw, rfl⟩
    exact ⟨_, he.mpr ⟨word, rest, hx, hw, rfl⟩, (hclose word rest).symm⟩

end Pattern
end Text

namespace Reference

open Text Pattern

/-- Reading from the end finds the lead and the label of a text that ends with a label in brackets. -/
theorem ofReversed_eq_some_iff {text lead label : List Char} :
    ofReversed? text.reverse = some (lead, label) ↔
      text = lead ++ '<' :: (label ++ ['>']) ∧ label ≠ [] ∧ ∀ c ∈ label, isBracket c = false := by
  constructor
  · intro h
    obtain ⟨htext, hne, hl⟩ := eq_of_ofReversed h
    exact ⟨by simpa using congrArg List.reverse htext, hne, hl⟩
  · rintro ⟨rfl, hne, hl⟩
    have h := ofReversed_of_label lead.reverse (List.reverse_ne_nil_iff.mpr hne)
      (fun c hc => hl c (List.mem_reverse.mp hc))
    simpa using h

/-- The pattern `^(?s)(.*?)<([^<>]+)>$`: any lead, and a label in brackets at the end of the text. -/
def labelPattern : Pattern :=
  seq start <| seq (group (fewest fun _ => true)) <| seq (one (· == '<')) <|
    seq (group (seq (one fun c => !isBracket c) (most fun c => !isBracket c))) <|
    seq (one (· == '>')) finish

/-- All ways through the pattern are one way, from the start of the text to its end. -/
theorem mem_ways_labelPattern {x y : Place} :
    y ∈ labelPattern.ways x ↔ x.before = [] ∧ ∃ lead label,
      ofReversed? x.after.reverse = some (lead, label) ∧
        y = ⟨x.after, [], x.groups ++ [lead, label]⟩ := by
  simp only [labelPattern, mem_ways_seq, mem_ways_start, mem_ways_finish, mem_ways_one,
    mem_ways_group_of mem_ways_fewest, mem_ways_group_of mem_ways_some, ofReversed_eq_some_iff]
  constructor
  · rintro ⟨_, ⟨hb, rfl⟩, _, ⟨lead, opened, hlead, -, rfl⟩, _, ⟨c, inner, hopen, hc, rfl⟩, _,
      ⟨label, closed, hlabel, ⟨hne, hl⟩, rfl⟩, _, ⟨d, rest, hclose, hd, rfl⟩, hend, rfl⟩
    dsimp only [Place.pass] at hopen hlabel hclose hend
    obtain rfl := beq_iff_eq.mp hc
    obtain rfl := beq_iff_eq.mp hd
    subst hopen hlabel hclose hend
    exact ⟨hb, lead, label, ⟨hlead, hne, by simpa using hl⟩, by simp [Place.pass, hb, hlead]⟩
  · rintro ⟨hb, lead, label, ⟨hx, hne, hl⟩, rfl⟩
    exact ⟨x, ⟨hb, rfl⟩, _, ⟨lead, _, hx, fun _ _ => trivial, rfl⟩, _, ⟨'<', _, rfl, rfl, rfl⟩, _,
      ⟨label, ['>'], rfl, ⟨hne, by simpa using hl⟩, rfl⟩, _, ⟨'>', [], rfl, rfl, rfl⟩, rfl,
      by simp [Place.pass, hb, hx]⟩

/-- The pattern is found where reading from the end finds a label, with the same two groups. -/
theorem search_labelPattern (text : List Char) :
    labelPattern.search text =
      (ofReversed? text.reverse).map (fun found => ⟨text, [], [found.1, found.2]⟩) := by
  have hways : ∀ y, y ∈ labelPattern.ways ⟨[], text, []⟩ ↔ ∃ lead label,
      ofReversed? text.reverse = some (lead, label) ∧ y = ⟨text, [], [lead, label]⟩ := by
    simp [mem_ways_labelPattern]
  cases hr : ofReversed? text.reverse with
  | none =>
    rw [Option.map_none, Pattern.search, List.findSome?_eq_none_iff]
    rintro ⟨before, after⟩ hcut
    rw [List.head?_eq_none_iff, List.eq_nil_iff_forall_not_mem]
    intro y hy
    -- only the start of the text has a way, and from there the whole text would be read
    obtain ⟨hb, lead, label, hread, -⟩ := mem_ways_labelPattern.mp hy
    obtain ⟨rfl, -⟩ := mem_runs.mp hcut
    obtain rfl : before = [] := hb
    rw [List.nil_append, hread] at hr
    cases hr
  | some found =>
    obtain ⟨later, hlater⟩ := runs_eq_cons (fun _ => true) text
    rw [Pattern.search, hlater, List.findSome?_cons]
    cases hfirst : labelPattern.ways ⟨[], text, []⟩ with
    | nil =>
      have hway := (hways _).mpr ⟨found.1, found.2, hr, rfl⟩
      rw [hfirst] at hway
      cases hway
    | cons y ys =>
      obtain ⟨lead, label, hread, rfl⟩ := (hways y).mp (hfirst ▸ List.mem_cons_self)
      rw [hr] at hread
      cases hread
      rfl

/-- Reading a body is matching it against the pattern: its two groups are the lead and the label, and
a body that does not match is a label as a whole. -/
theorem parse_eq_captures (body : String) :
    parse body =
      match labelPattern.captures body with
      | some [lead, label] => labeled lead label
      | _ => verbatim body := by
  rw [parse, Pattern.captures, search_labelPattern]
  cases ofReversed? body.toList.reverse <;> rfl

/-- Bodies are read exactly. A body is read as a lead and a label just when it is the lead, then the
label in brackets, with a label that is not empty and has no bracket; it is so in one way at most, and
any other body is a label as a whole. The pattern for labels says the same. -/
theorem bodies_read_exactly (body : String) :
    (∀ lead label, parse body = .labeled lead label ↔ Bracketed body lead label) ∧
    (∀ lead label lead' label', Bracketed body lead label → Bracketed body lead' label' →
      lead = lead' ∧ label = label') ∧
    (parse body = .verbatim body ↔ ¬ ∃ lead label, Bracketed body lead label) ∧
    parse body =
      match labelPattern.captures body with
      | some [lead, label] => labeled lead label
      | _ => verbatim body := by
  refine ⟨fun _ _ => parse_labeled_iff, ?_, parse_verbatim_iff, parse_eq_captures body⟩
  intro lead label lead' label' h h'
  have hread := (parse_labeled_iff.mpr h).symm.trans (parse_labeled_iff.mpr h')
  exact Reference.labeled.inj hread

/-- The last brackets count, and the lead stays as it is, line breaks and brackets included. -/
example : parse "x <y>\n <z>" = .labeled "x <y>\n " "z" := by decide

/-- Nothing may follow the label, not even a line break. -/
example : parse "x <y>\n" = .verbatim "x <y>\n" := by decide

end Reference
end DirectiveDocs
