import DirectiveDocs.Proofs.FramedTokens
import DirectiveDocs.Proofs.UnplacedSpecs
import Mathlib.Data.List.DropRight

namespace DirectiveDocs

namespace Text

def leadingBlanks (s : String) : List Char :=
  s.toList.takeWhile isBlank

def trailingBlanks (s : String) : List Char :=
  (s.toList.dropWhile isBlank).rtakeWhile isBlank

theorem toList_trim (s : String) :
    (trim s).toList = (s.toList.dropWhile isBlank).rdropWhile isBlank := by
  rw [trim, String.toList_ofList]
  rfl

/-- A text is what is left of it between the blanks around that. -/
theorem toList_eq_trim (s : String) :
    s.toList = leadingBlanks s ++ ((trim s).toList ++ trailingBlanks s) := by
  rw [toList_trim, trailingBlanks, List.rdropWhile_append_rtakeWhile, leadingBlanks,
    List.takeWhile_append_dropWhile]

/-- The blanks of YAML are blanks. -/
theorem isBlank_of_isGap {c : Char} (h : Yaml.isGap c = true) : isBlank c = true := by
  have hall : ∀ x, Yaml.isGap x = true → (!isBlank x) = false := Yaml.eq_false_of_isGap (by decide)
  simpa using hall c h

theorem isBlank_of_head?_trim {s : String} {x : Char} (h : (trim s).toList.head? = some x) :
    isBlank x = false := by
  have hprefix : (trim s).toList <+: s.toList.dropWhile isBlank := by
    rw [toList_trim]
    exact List.rdropWhile_prefix isBlank _
  obtain ⟨rest, hr⟩ := hprefix
  obtain ⟨cs, hx⟩ := List.head?_eq_some_iff.mp h
  have hd : s.toList.dropWhile isBlank = x :: (cs ++ rest) := by
    rw [← hr, hx, List.cons_append]
  have hnot := List.head_dropWhile_not isBlank (l := s.toList) (by simp [hd])
  simpa [hd] using hnot

theorem isBlank_of_getLast?_trim {s : String} {x : Char} (h : (trim s).toList.getLast? = some x) :
    isBlank x = false := by
  rw [toList_trim] at h
  have hne : (s.toList.dropWhile isBlank).rdropWhile isBlank ≠ [] := by
    intro he
    rw [he] at h
    cases h
  rw [List.getLast?_eq_some_getLast hne, Option.some.injEq] at h
  have hnot := List.rdropWhile_last_not isBlank _ hne
  rwa [h, Bool.not_eq_true] at hnot

end Text

namespace Spec

/-- Whether the last token of a text besides the ends of blocks is a literal or folded scalar. -/
def endsInBlockScalar (text : String) : Bool :=
  (Yaml.tokens? text).any (fun ts => Yaml.lastIsBlockScalar (ts.reverse.map Yaml.Token.kind))

/-- The blanks around a text say nothing in YAML: they are blanks there, those before it are whole
lines, and those after it are not in a literal or folded scalar. -/
structure Trimmable (text : String) : Prop where
  leading : ∀ x ∈ Text.leadingBlanks text, Yaml.isGap x = true
  lines : Text.isBlankText text = false →
    ∀ x ∈ (Text.leadingBlanks text).getLast?, Yaml.isBreak x = true
  trailing : ∀ x ∈ Text.trailingBlanks text, Yaml.isGap x = true
  scalar : Text.trailingBlanks text ≠ [] → endsInBlockScalar text = false

instance (text : String) : Decidable (Trimmable text) :=
  decidable_of_iff
    ((Text.leadingBlanks text).all Yaml.isGap = true ∧
      (Text.isBlankText text = false →
        (Text.leadingBlanks text).getLast?.all Yaml.isBreak = true) ∧
      (Text.trailingBlanks text).all Yaml.isGap = true ∧
      (Text.trailingBlanks text ≠ [] → endsInBlockScalar text = false))
    (by
      simp only [List.all_eq_true, Option.all_eq_true]
      exact ⟨fun h => ⟨h.1, h.2.1, h.2.2.1, h.2.2.2⟩,
        fun h => ⟨h.leading, h.lines, h.trailing, h.scalar⟩⟩)

theorem exists_tokens_of_read {text : String} {specs : List Spec} (h : read text = .ok specs) :
    ∃ ts, Yaml.tokens? text = some ts := by
  obtain ⟨d, hd, _⟩ := read_eq_ok_iff.mp h
  obtain ⟨ts, ht, _⟩ := Option.bind_eq_some_iff.mp hd
  exact ⟨ts, ht⟩

/-- A text of blanks holds no specs. -/
theorem eq_nil_of_read_blank {text : String} {specs : List Spec}
    (hb : ∀ x ∈ text.toList, Yaml.isGap x = true) (h : read text = .ok specs) : specs = [] := by
  obtain ⟨ts, ht⟩ := exists_tokens_of_read h
  rw [← String.ofList_toList (s := text)] at ht
  obtain rfl := Yaml.tokens?_blank hb ht
  have hempty : Yaml.tokens? "" = some [] := by decide
  have hread : read "" = .ok [] := toOption_eq_some_iff.mp (by decide)
  rw [String.ofList_toList] at ht
  have hsame := read_eq_ok_of_alike ht hempty .nil h
  rw [hread] at hsame
  cases hsame
  rfl

/-- Where the blanks around a text say nothing, the text without them holds the same specs. -/
theorem read_trim {text : String} {specs : List Spec} (h : Trimmable text)
    (hb : Text.isBlankText text = false) (hread : read text = .ok specs) :
    read (Text.trim text) = .ok specs := by
  obtain ⟨ts, ht⟩ := exists_tokens_of_read hread
  have hgap {x : Char} (hx : Text.isBlank x = false) : Yaml.isGap x = false := by
    cases hg : Yaml.isGap x with
    | false => rfl
    | true => rw [Text.isBlank_of_isGap hg] at hx; cases hx
  have hne : (Text.trim text).toList ≠ [] := by
    intro hnil
    rw [← Text.isEmpty_trim, String.isEmpty_eq_false_iff] at hb
    exact hb (String.toList_eq_nil_iff.mp hnil)
  have htext : String.ofList (Text.leadingBlanks text ++
      ((Text.trim text).toList ++ Text.trailingBlanks text)) = text := by
    rw [← Text.toList_eq_trim, String.ofList_toList]
  have hlast : Text.trailingBlanks text ≠ [] →
      Yaml.lastIsBlockScalar (ts.reverse.map Yaml.Token.kind) = false := by
    intro htrail
    have hscalar := h.scalar htrail
    rwa [endsInBlockScalar, ht] at hscalar
  obtain ⟨ts', ht', hkinds⟩ := Yaml.tokens?_framed ⟨h.leading, h.lines hb⟩ h.trailing
    (fun x hx => hgap (Text.isBlank_of_getLast?_trim hx))
    (fun x hx => hgap (Text.isBlank_of_head?_trim hx)) hne (htext.symm ▸ ht) hlast
  rw [String.ofList_toList] at ht'
  have halike : List.Forall₂ Yaml.Token.Alike ts ts' := by
    rwa [← List.forall₂_eq_eq_eq, List.forall₂_map_left_iff, List.forall₂_map_right_iff] at hkinds
  exact read_eq_ok_of_alike ht ht' halike hread

/-- Where the blanks around a text say nothing, the text loads as the specs that it holds as it
stands. -/
theorem load_eq_ok_of_read {text : String} {specs : List Spec} (h : Trimmable text)
    (hread : read text = .ok specs) (hnamed : AllNamed specs) : load text = .ok specs := by
  rw [load_eq_ok_iff]
  cases hb : Text.isBlankText text with
  | true =>
    left
    have hlead : Text.leadingBlanks text = text.toList :=
      List.takeWhile_eq_self_iff.mpr (List.all_eq_true.mp hb)
    refine ⟨rfl, eq_nil_of_read_blank ?_ hread⟩
    rw [← hlead]
    exact h.leading
  | false => exact .inr ⟨rfl, read_trim h hb hread, hnamed⟩

/-- A document between blank lines. -/
theorem load_between_blank_lines :
    Trimmable "\n \n- name: a\n  doc: b\n\n" ∧
    read "\n \n- name: a\n  doc: b\n\n" = .ok [{ named "a" with doc := some "b" }] ∧
    AllNamed [{ named "a" with doc := some "b" }] ∧
    load "\n \n- name: a\n  doc: b\n\n" = .ok [{ named "a" with doc := some "b" }] := by
  have htrim : Trimmable "\n \n- name: a\n  doc: b\n\n" := by decide +kernel
  have hread : read "\n \n- name: a\n  doc: b\n\n" = .ok [{ named "a" with doc := some "b" }] :=
    toOption_eq_some_iff.mp (by decide +kernel)
  have hnamed : AllNamed [{ named "a" with doc := some "b" }] := by decide
  exact ⟨htrim, hread, hnamed, load_eq_ok_of_read htrim hread hnamed⟩

/-- A sequence that is set in as a whole loses the indentation of its first item alone. -/
theorem indented_items_lost :
    ¬ ∀ (text : String) (specs : List Spec), read text = .ok specs → AllNamed specs →
      load text = .ok specs := by
  intro h
  have hread : read "  - name: a\n  - name: b\n" = .ok [named "a", named "b"] :=
    toOption_eq_some_iff.mp (by decide +kernel)
  have hload : (load "  - name: a\n  - name: b\n").toOption = none := by
    decide +kernel
  have he := toOption_eq_some_iff.mpr (h _ _ hread (by decide))
  rw [hload] at he
  cases he

end Spec

end DirectiveDocs
