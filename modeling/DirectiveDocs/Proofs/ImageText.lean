import DirectiveDocs.Markup.Parser
import DirectiveDocs.Proofs.Nesting
import Mathlib.Algebra.Ring.Nat
import Mathlib.Data.List.Forall2

namespace DirectiveDocs.Markup

open Node

variable {d : Dialect}

def Event.payload : Event d → String
  | .text s | .code s | .html s | .inlineHtml s => s
  | .softBreak => "\n"
  | .start _ | .stop | .hardBreak | .rule | .taskMarker .. | .footnoteReference .. | .math .. => ""

def payload : List (Event d) → String
  | [] => ""
  | e :: es => e.payload ++ payload es

mutual

def Part.hasGroup (k : Kind) : Part d → Bool
  | .group tag parts => tag.kind == k || hasGroup k parts
  | .leaf .. => false

def hasGroup (k : Kind) : List (Part d) → Bool
  | [] => false
  | p :: ps => p.hasGroup k || hasGroup k ps

end

mutual

def Part.dropImages : Part d → List (Part d)
  | .group (.image _ _) _ => []
  | .group tag parts => [.group tag (dropImages parts)]
  | .leaf e h => [.leaf e h]

def dropImages : List (Part d) → List (Part d)
  | [] => []
  | p :: ps => p.dropImages ++ dropImages ps

end

/-- The group of an image: its address and what stands between its start and its end. -/
structure ImageGroup (d : Dialect) where
  url : String
  parts : List (Part d)

mutual

/-- The images of a part that are in no other image and in no code, in document order. -/
def Part.shownImages : Part d → List (ImageGroup d)
  | .group (.image url _) parts => [⟨url, parts⟩]
  | .group (.code _) _ => []
  | .group _ parts => shownImages parts
  | .leaf .. => []

def shownImages : List (Part d) → List (ImageGroup d)
  | [] => []
  | p :: ps => p.shownImages ++ shownImages ps

end

/-- All that an image says between its start and its end. -/
def ImageGroup.text (g : ImageGroup d) : String :=
  payload (partEvents g.parts)

/-- What an image says outside the images in it. -/
def ImageGroup.ownText (g : ImageGroup d) : String :=
  payload (partEvents (dropImages g.parts))

def images (ns : List Node) : List Node :=
  (listing ns).filter (fun n => n.kind == .image)

def imagesIn (cs : List Child) : List Node :=
  (preorderOfChildren cs).filter (fun n => n.kind == .image)

theorem payload_append (es es' : List (Event d)) :
    payload (es ++ es') = payload es ++ payload es' := by
  induction es with
  | nil => simp [payload]
  | cons e es ih => simp [payload, ih, String.append_assoc]

/-- A start and an end say nothing. -/
theorem payload_group (tag : Tag d) (parts : List (Part d)) :
    payload (Part.group tag parts).events = payload (partEvents parts) := by
  simp [Part.events, payload, payload_append, Event.payload]

theorem payload_parts_cons (p : Part d) (ps : List (Part d)) :
    payload (partEvents (p :: ps)) = payload p.events ++ payload (partEvents ps) :=
  payload_append _ _

theorem preorderOfChildren_joinTexts (cs : List Child) :
    preorderOfChildren (joinTexts cs) = preorderOfChildren cs := by
  induction cs with
  | nil => rfl
  | cons c cs ih =>
    cases c with
    | node n => simp [joinTexts, preorderOfChildren, ih]
    | text s =>
      rw [preorderOfChildren, ← ih]
      simp only [joinTexts]
      rcases joinTexts cs with _ | ⟨_ | _, _⟩ <;> simp [preorderOfChildren, preorderOfChild]

/-- The forest of well-nested events is that of the parts they spell. -/
theorem forest_partEvents (ps : List (Part d)) : forest (partEvents ps) = partForest ps := by
  have h := Builder.process_roots ps []
  change ((partEvents ps).foldl Builder.process ⟨[], []⟩).finish = _
  rw [h]
  simp [Builder.finish]

theorem textOfChildren_node (n : Node) : textOfChildren [.node n] = n.textContent := by
  simp [textOfChildren, textOfChild]

theorem textOfChildren_leaf (e : Event d) : textOfChildren e.content = e.payload := by
  cases e <;> simp [Event.content, Event.payload, textOfChildren, textOfChild, textContent,
    inlineCode, withText, withChild, withChildren, Node.empty]

/-- A group that is neither code nor an image has the text of its content. -/
theorem textContent_groupNode {tag : Tag d} (hc : tag.kind ≠ .code) (hi : tag.kind ≠ .image)
    (marks : List Bool) (content : List Child) :
    (groupNode tag marks content).textContent = textOfChildren content := by
  unfold groupNode
  cases hk : tag.kind <;> first
    | exact absurd hk hc
    | exact absurd hk hi
    | simp [textContent, textOfChildren_joinTexts]

/-- An image has no text below it. -/
theorem textContent_groupNode_image {tag : Tag d} (hi : tag.kind = .image) (marks : List Bool)
    (content : List Child) : (groupNode tag marks content).textContent = "" := by
  simp [groupNode, hi, textContent, textOfChildren]

theorem dropImages_of_image {tag : Tag d} (hi : tag.kind = .image) (parts : List (Part d)) :
    (Part.group tag parts).dropImages = [] := by
  cases tag <;> first | rfl | cases hi

theorem dropImages_of_ne {tag : Tag d} (hi : tag.kind ≠ .image) (parts : List (Part d)) :
    (Part.group tag parts).dropImages = [.group tag (dropImages parts)] := by
  cases tag <;> first | rfl | exact absurd rfl hi

theorem partEvents_append_payload (ps qs : List (Part d)) :
    payload (partEvents (ps ++ qs)) = payload (partEvents ps) ++ payload (partEvents qs) := by
  rw [partEvents_append, payload_append]

mutual

/-- Without code, what a part leaves in the tree is what it says outside images. -/
theorem textOfChildren_content : ∀ p : Part d, p.hasGroup .code = false →
    textOfChildren p.content = payload (partEvents p.dropImages)
  | .group tag parts, h => by
    obtain ⟨hc, hparts⟩ := Bool.or_eq_false_iff.mp h
    have ih := textOfChildren_partContent parts hparts
    rw [Part.content, textOfChildren_node]
    by_cases hi : tag.kind = .image
    · rw [textContent_groupNode_image hi, dropImages_of_image hi]
      rfl
    · rw [textContent_groupNode (by simpa using hc) hi, dropImages_of_ne hi, ih,
        payload_parts_cons, payload_group]
      exact String.append_empty.symm
  | .leaf e _, _ => by
    rw [Part.content, textOfChildren_leaf]
    exact String.append_empty.symm

/-- The text of a group's content is what its parts say outside images. -/
theorem textOfChildren_partContent : ∀ ps : List (Part d), hasGroup .code ps = false →
    textOfChildren (partContent ps) = payload (partEvents (dropImages ps))
  | [], _ => rfl
  | p :: ps, h => by
    obtain ⟨hp, hps⟩ := Bool.or_eq_false_iff.mp h
    rw [partContent, textOfChildren_append, dropImages, partEvents_append_payload,
      textOfChildren_content p hp, textOfChildren_partContent ps hps]

end

/-- An image node that answers to a group: it has the group's address, and the group's own text as
its description. -/
structure ImageGroup.Shows (g : ImageGroup d) (n : Node) : Prop where
  url : n.attribute? "url" = some g.url
  alt : n.attribute? "alt" = some g.ownText

theorem url_groupAttributes (url title : String) (marks : List Bool) :
    (groupAttributes (.image url title : Tag d) marks).get? "url" = some url := by
  have htag :
      (Attributes.ofList (.image url title : Tag d).attributeList).get? "url" = some url := by
    change (Attributes.ofList (linkAttributes url title)).get? "url" = some url
    unfold linkAttributes
    split <;> simp [Attributes.ofList, Attributes.get_insert]
  unfold groupAttributes
  cases marks.getLast? with
  | none => exact htag
  | some checked => simpa [Attributes.get_insert] using htag

/-- The node of an image answers to the image's group. -/
theorem shows_groupNode (url title : String) (marks : List Bool) {parts : List (Part d)}
    (h : hasGroup .code parts = false) :
    ImageGroup.Shows ⟨url, parts⟩
      (groupNode (.image url title : Tag d) marks (partContent parts)) := by
  refine ⟨?_, ?_⟩
  · change Attributes.get? (Attributes.insert _ _ _) _ = _
    rw [Attributes.get_insert, if_neg (by decide), url_groupAttributes]
  · change Attributes.get? (Attributes.insert _ _ _) _ = _
    rw [Attributes.get_insert, if_pos rfl, textOfChildren_partContent parts h]
    rfl

theorem imagesIn_append (cs cs' : List Child) :
    imagesIn (cs ++ cs') = imagesIn cs ++ imagesIn cs' := by
  simp [imagesIn, preorderOfChildren_append]

theorem imagesIn_node (n : Node) :
    imagesIn [.node n] = (if n.kind = .image then [n] else []) ++ imagesIn n.children := by
  simp only [imagesIn, preorderOfChildren, preorderOfChild, List.append_nil, preorder_eq,
    List.filter_cons]
  split <;> simp_all

theorem imagesIn_leaf (e : Event d) : imagesIn e.content = [] := by
  cases e <;> rfl

/-- The images of a group that is neither code nor an image are those of its content. -/
theorem imagesIn_groupNode {tag : Tag d} (hc : tag.kind ≠ .code) (hi : tag.kind ≠ .image)
    (marks : List Bool) (content : List Child) :
    imagesIn [.node (groupNode tag marks content)] = imagesIn content := by
  have hnode : groupNode tag marks content =
      .mk tag.kind (groupAttributes tag marks) (joinTexts content) := by
    unfold groupNode
    cases hk : tag.kind <;> first
      | exact absurd hk hc
      | exact absurd hk hi
      | rfl
  rw [imagesIn_node, hnode, Node.kind, if_neg hi, Node.children, List.nil_append, imagesIn,
    preorderOfChildren_joinTexts]
  rfl

theorem shownImages_of_ne {tag : Tag d} (hc : tag.kind ≠ .code) (hi : tag.kind ≠ .image)
    (parts : List (Part d)) : (Part.group tag parts).shownImages = shownImages parts := by
  cases tag <;> first | rfl | exact absurd rfl hc | exact absurd rfl hi

mutual

/-- The images of a part's nodes answer to its shown images, in order. -/
theorem shows_content : ∀ p : Part d, (∀ g ∈ p.shownImages, hasGroup .code g.parts = false) →
    List.Forall₂ ImageGroup.Shows p.shownImages (imagesIn p.content)
  | .group tag parts, h => by
    have ih := shows_partContent parts
    rw [Part.content]
    by_cases hi : tag.kind = .image
    · cases tag with
      | image url title =>
        have hc : hasGroup .code parts = false := h _ (List.mem_singleton_self _)
        exact .cons (shows_groupNode url title _ hc) .nil
      | _ => cases hi
    · by_cases hc : tag.kind = .code
      · cases tag with
        | code info => exact .nil
        | _ => cases hc
      · rw [shownImages_of_ne hc hi] at h ⊢
        rw [imagesIn_groupNode hc hi]
        exact ih h
  | .leaf e _, _ => by
    rw [Part.content, imagesIn_leaf]
    exact .nil

/-- Below a group there is an image node for each image that is in no other one. -/
theorem shows_partContent : ∀ ps : List (Part d),
    (∀ g ∈ shownImages ps, hasGroup .code g.parts = false) →
    List.Forall₂ ImageGroup.Shows (shownImages ps) (imagesIn (partContent ps))
  | [], _ => .nil
  | p :: ps, h => by
    rw [shownImages, partContent, imagesIn_append]
    exact List.rel_append (shows_content p (fun g hg => h g (List.mem_append_left _ hg)))
      (shows_partContent ps (fun g hg => h g (List.mem_append_right _ hg)))

end

/-- Texts at the root make no images. -/
theorem images_partForest (ps : List (Part d)) :
    images (partForest ps) = imagesIn (partContent ps) := by
  rw [partForest]
  induction partContent ps with
  | nil => rfl
  | cons c cs ih =>
    have hc : images [rootNode c] = imagesIn [c] := by
      cases c with
      | node n => simp [images, imagesIn, listing, preorderOfChildren, preorderOfChild, rootNode]
      | text s => rfl
    have happend : images (rootNode c :: cs.map rootNode) =
        images [rootNode c] ++ images (cs.map rootNode) := by
      simp [images, listing]
    rw [List.map_cons, happend, hc, ih, ← imagesIn_append]
    rfl

mutual

/-- The images in a part have all that is not said outside them. -/
theorem length_payload_part : ∀ p : Part d, p.hasGroup .code = false →
    (payload p.events).length = (payload (partEvents p.dropImages)).length +
      (p.shownImages.map (fun g => g.text.length)).sum
  | .group tag parts, h => by
    obtain ⟨hc, hparts⟩ := Bool.or_eq_false_iff.mp h
    have ih := length_payload_parts parts hparts
    rw [payload_group]
    by_cases hi : tag.kind = .image
    · cases tag with
      | image url title =>
        simp [Part.dropImages, Part.shownImages, ImageGroup.text, partEvents, payload]
      | _ => cases hi
    · rw [dropImages_of_ne hi, shownImages_of_ne (by simpa using hc) hi, payload_parts_cons,
        payload_group, ih]
      simp [partEvents, payload]
  | .leaf e _, _ => by
    simp [Part.events, Part.dropImages, Part.shownImages, partEvents]

theorem length_payload_parts : ∀ ps : List (Part d), hasGroup .code ps = false →
    (payload (partEvents ps)).length = (payload (partEvents (dropImages ps))).length +
      ((shownImages ps).map (fun g => g.text.length)).sum
  | [], _ => rfl
  | p :: ps, h => by
    obtain ⟨hp, hps⟩ := Bool.or_eq_false_iff.mp h
    rw [payload_parts_cons, dropImages, partEvents_append_payload, shownImages,
      String.length_append, String.length_append, List.map_append, List.sum_append,
      length_payload_part p hp, length_payload_parts ps hps]
    omega

end

mutual

/-- Images without text can be left out. -/
theorem payload_dropImages_part : ∀ p : Part d, p.hasGroup .code = false →
    (∀ g ∈ p.shownImages, g.text = "") → payload (partEvents p.dropImages) = payload p.events
  | .group tag parts, h, hg => by
    obtain ⟨hc, hparts⟩ := Bool.or_eq_false_iff.mp h
    have ih := payload_dropImages_parts parts hparts
    rw [payload_group]
    by_cases hi : tag.kind = .image
    · cases tag with
      | image url title => exact (hg _ (List.mem_singleton_self _)).symm
      | _ => cases hi
    · rw [shownImages_of_ne (by simpa using hc) hi] at hg
      rw [dropImages_of_ne hi, payload_parts_cons, payload_group, ih hg]
      exact String.append_empty
  | .leaf e _, _, _ => by
    simp [Part.events, Part.dropImages, partEvents]

theorem payload_dropImages_parts : ∀ ps : List (Part d), hasGroup .code ps = false →
    (∀ g ∈ shownImages ps, g.text = "") →
    payload (partEvents (dropImages ps)) = payload (partEvents ps)
  | [], _, _ => rfl
  | p :: ps, h, hg => by
    obtain ⟨hp, hps⟩ := Bool.or_eq_false_iff.mp h
    rw [dropImages, partEvents_append_payload, payload_parts_cons,
      payload_dropImages_part p hp (fun g hm => hg g (List.mem_append_left _ hm)),
      payload_dropImages_parts ps hps (fun g hm => hg g (List.mem_append_right _ hm))]

end

/-- An image's own text is all of its text exactly when no image in it has a text. -/
theorem ImageGroup.ownText_eq_text_iff {g : ImageGroup d} (h : hasGroup .code g.parts = false) :
    g.ownText = g.text ↔ ∀ i ∈ shownImages g.parts, i.text = "" := by
  constructor
  · intro he i hi
    have hl := length_payload_parts g.parts h
    have hown : (payload (partEvents (dropImages g.parts))).length =
        (payload (partEvents g.parts)).length := congrArg String.length he
    have hsum : ((shownImages g.parts).map (fun i => i.text.length)).sum = 0 := by omega
    have hi : i.text.length = 0 :=
      List.sum_eq_zero_iff_forall_eq_nat.mp hsum _ (List.mem_map.mpr ⟨i, hi, rfl⟩)
    exact String.length_eq_zero_iff.mp hi
  · exact payload_dropImages_parts g.parts h

/-- The images of a forest answer one by one, in document order, to the image groups that are in no
other image and in no code. The description of each is its text outside the images in it, which is
all of its text exactly when no image in it has a text. -/
theorem descriptions_skip_inner_images (ps : List (Part d))
    (h : ∀ g ∈ shownImages ps, hasGroup .code g.parts = false) :
    List.Forall₂ (fun g n => n.attribute? "url" = some g.url ∧
        n.attribute? "alt" = some g.ownText ∧
        (n.attribute? "alt" = some g.text ↔ ∀ i ∈ shownImages g.parts, i.text = ""))
      (shownImages ps) (images (forest (partEvents ps))) := by
  rw [forest_partEvents, images_partForest]
  refine ((List.forall₂_and_left _ _).mpr ⟨h, shows_partContent ps h⟩).imp ?_
  rintro g n ⟨hc, hs⟩
  refine ⟨hs.url, hs.alt, ?_⟩
  rw [hs.alt, Option.some.injEq]
  exact ImageGroup.ownText_eq_text_iff hc

def framedPicture : List (Part .plain) :=
  [.group .paragraph
    [.group (.image "outer.png" "")
      [.leaf (.text "a ") rfl, .group .emphasis [.leaf (.text "big") rfl],
        .leaf .softBreak rfl, .group (.image "inner.png" "") [.leaf (.text "b") rfl],
        .leaf (.text " c") rfl]]]

/-- The words in emphasis are in the description, and nothing of the second picture is. -/
theorem descriptions_skip_framed :
    ∃ n, images (forest (partEvents framedPicture)) = [n] ∧ n.attribute? "url" = some "outer.png" ∧
      n.attribute? "alt" = some "a big\n c" := by
  have h := descriptions_skip_inner_images framedPicture (by decide)
  obtain ⟨n, rest, ⟨hurl, halt, _⟩, hrest, he⟩ := List.forall₂_cons_left_iff.mp h
  cases hrest
  exact ⟨n, he, hurl, halt⟩

/-- What a picture in a picture says is not in the description of the outer one. -/
theorem description_lost_in_picture :
    ¬ ∀ ps : List (Part .plain), (∀ g ∈ shownImages ps, hasGroup .code g.parts = false) →
      List.Forall₂ (fun g n => n.attribute? "alt" = some g.text)
        (shownImages ps) (images (forest (partEvents ps))) := by
  intro h
  obtain ⟨n, rest, hn, _, he⟩ := List.forall₂_cons_left_iff.mp (h framedPicture (by decide))
  have halt : (images (forest (partEvents framedPicture))).map (fun n => n.attribute? "alt") =
      [some "a big\n c"] := by
    decide +kernel
  rw [he, List.map_cons, hn] at halt
  exact absurd (List.cons.inj halt).1 (by decide +kernel)

end DirectiveDocs.Markup
