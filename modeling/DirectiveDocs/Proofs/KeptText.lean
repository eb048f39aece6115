import DirectiveDocs.Proofs.ImageText

namespace DirectiveDocs.Markup

open Node

variable {d : Dialect}

/-- A stretch of what events say: the whole text of a code group, or that of one event elsewhere. -/
inductive Stretch where
  | code (text : String)
  | event (text : String)

namespace Stretch

/-- What a forest keeps of a stretch. -/
def kept : Stretch → String
  | code s => dropNewline s
  | event s => s

/-- What a forest leaves out after it: the newline that ends the text of a code group. -/
def dropped : Stretch → String
  | code s => if s.toList.getLast? = some '\n' then "\n" else ""
  | event _ => ""

end Stretch

def Part.isText : Part d → Bool
  | .leaf (.text _) _ => true
  | _ => false

mutual

/-- Whether the code groups of a part have nothing but text events. -/
def Part.hasPlainCode : Part d → Bool
  | .group (.code _) parts => parts.all Part.isText
  | .group _ parts => havePlainCode parts
  | .leaf .. => true

def havePlainCode : List (Part d) → Bool
  | [] => true
  | p :: ps => p.hasPlainCode && havePlainCode ps

end

mutual

def Part.stretches : Part d → List Stretch
  | .group (.code _) parts => [.code (payload (partEvents parts))]
  | .group _ parts => stretches parts
  | .leaf e _ => [.event e.payload]

def stretches : List (Part d) → List Stretch
  | [] => []
  | p :: ps => p.stretches ++ stretches ps

end

/-- What is kept and what is dropped are the whole stretch. -/
theorem kept_append_dropped_code (s : String) :
    (Stretch.code s).kept ++ (Stretch.code s).dropped = s :=
  dropNewline_append s

theorem stretches_of_ne {tag : Tag d} (hc : tag.kind ≠ .code) (parts : List (Part d)) :
    (Part.group tag parts).stretches = stretches parts := by
  cases tag <;> first | rfl | exact absurd rfl hc

theorem hasPlainCode_of_ne {tag : Tag d} (hc : tag.kind ≠ .code) (parts : List (Part d)) :
    (Part.group tag parts).hasPlainCode = havePlainCode parts := by
  cases tag <;> first | rfl | exact absurd rfl hc

def joined (f : Stretch → String) (ss : List Stretch) : String :=
  String.join (ss.map f)

theorem joined_append (f : Stretch → String) (ss ss' : List Stretch) :
    joined f (ss ++ ss') = joined f ss ++ joined f ss' := by
  simp [joined]

theorem joined_singleton (f : Stretch → String) (s : Stretch) : joined f [s] = f s := by
  simp [joined]

mutual

/-- The stretches of a part are all that its events say. -/
theorem payload_stretches : ∀ p : Part d,
    payload p.events = joined (fun s => s.kept ++ s.dropped) p.stretches
  | .group tag parts => by
    rw [payload_group]
    by_cases hc : tag.kind = .code
    · cases tag with
      | code info => rw [Part.stretches, joined_singleton, kept_append_dropped_code]
      | _ => cases hc
    · rw [stretches_of_ne hc, payload_partStretches parts]
  | .leaf e _ => by
    simp [Part.events, payload, Part.stretches, joined_singleton, Stretch.kept, Stretch.dropped]

theorem payload_partStretches : ∀ ps : List (Part d),
    payload (partEvents ps) = joined (fun s => s.kept ++ s.dropped) (stretches ps)
  | [] => rfl
  | p :: ps => by
    rw [payload_parts_cons, stretches, joined_append, payload_stretches p, payload_partStretches ps]

end

theorem textOfChildren_texts {ps : List (Part d)} (h : ps.all Part.isText = true) :
    textOfChildren (partContent ps) = payload (partEvents ps) := by
  induction ps with
  | nil => rfl
  | cons p ps ih =>
    rw [List.all_cons, Bool.and_eq_true] at h
    rw [partContent, textOfChildren_append, payload_parts_cons, ih h.2]
    cases p with
    | group tag parts => cases h.1
    | leaf e _ => simp [Part.content, textOfChildren_leaf, Part.events, payload]

mutual

/-- Without images, what a part leaves in the tree is what is kept of its stretches. -/
theorem textOfChildren_stretches : ∀ p : Part d, p.hasGroup .image = false →
    p.hasPlainCode = true → textOfChildren p.content = joined Stretch.kept p.stretches
  | .group tag parts, himage, hcode => by
    obtain ⟨hi, hparts⟩ := Bool.or_eq_false_iff.mp himage
    have hi : tag.kind ≠ .image := by simpa using hi
    rw [Part.content, textOfChildren_node]
    by_cases hc : tag.kind = .code
    · cases tag with
      | code info =>
        rw [Part.stretches, joined_singleton, Stretch.kept, ← textOfChildren_texts hcode]
        simp [groupNode, Tag.kind, textContent, textOfChildren, textOfChild]
      | _ => cases hc
    · rw [hasPlainCode_of_ne hc] at hcode
      rw [textContent_groupNode hc hi, stretches_of_ne hc,
        textOfChildren_partStretches parts hparts hcode]
  | .leaf e _, _, _ => by
    rw [Part.content, textOfChildren_leaf, Part.stretches, joined_singleton, Stretch.kept]

/-- Without images, the content of a group keeps what is kept of its stretches. -/
theorem textOfChildren_partStretches : ∀ ps : List (Part d), hasGroup .image ps = false →
    havePlainCode ps = true → textOfChildren (partContent ps) = joined Stretch.kept (stretches ps)
  | [], _, _ => rfl
  | p :: ps, himage, hcode => by
    obtain ⟨hip, hips⟩ := Bool.or_eq_false_iff.mp himage
    obtain ⟨hcp, hcps⟩ := (Bool.and_eq_true _ _).mp hcode
    rw [partContent, textOfChildren_append, stretches, joined_append,
      textOfChildren_stretches p hip hcp, textOfChildren_partStretches ps hips hcps]

end

/-- A text at the root is the text of its paragraph. -/
theorem join_textContent_rootNode (cs : List Child) :
    String.join ((cs.map rootNode).map Node.textContent) = textOfChildren cs := by
  induction cs with
  | nil => rfl
  | cons c cs ih =>
    have hc : (rootNode c).textContent = textOfChild c := by
      cases c with
      | node n => rfl
      | text s => exact String.append_empty
    rw [List.map_cons, List.map_cons, String.join_cons, ih, hc]
    rfl

/-- Without images and with texts alone in code, the text of the roots is all that the events say,
stretch by stretch in their order, but for the newline at the end of a code group. -/
theorem text_kept_in_order (ps : List (Part d)) (himages : hasGroup .image ps = false)
    (hcode : havePlainCode ps = true) :
    payload (partEvents ps) = String.join ((stretches ps).map (fun s => s.kept ++ s.dropped)) ∧
    String.join ((forest (partEvents ps)).map Node.textContent) =
      String.join ((stretches ps).map Stretch.kept) := by
  refine ⟨payload_partStretches ps, ?_⟩
  rw [forest_partEvents, partForest, join_textContent_rootNode]
  exact textOfChildren_partStretches ps himages hcode

def steps : List (Part .github) :=
  [.group .paragraph [.leaf (.text "Run") rfl, .leaf .softBreak rfl, .leaf (.code "make") rfl],
    .group (.list none)
      [.group .item [.group (.code none) [.leaf (.text "make\n") rfl, .leaf (.text "test\n") rfl]]],
    .leaf (.html "<hr>\n") rfl]

/-- The newline at the end of the code is left out, and the one inside it is kept. -/
theorem text_kept_steps :
    payload (partEvents steps) = "Run\nmakemake\ntest\n<hr>\n" ∧
    hasGroup .image steps = false ∧ havePlainCode steps = true ∧
    String.join ((forest (partEvents steps)).map Node.textContent) =
      "Run\nmakemake\ntest<hr>\n" := by
  have himages : hasGroup .image steps = false := by decide
  have hcode : havePlainCode steps = true := by decide
  obtain ⟨hsaid, hkept⟩ := text_kept_in_order steps himages hcode
  refine ⟨hsaid.trans ?_, himages, hcode, hkept.trans ?_⟩
  · decide +kernel
  · decide +kernel

end DirectiveDocs.Markup
