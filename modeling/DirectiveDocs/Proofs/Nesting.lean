import DirectiveDocs.Markup.Tree
import DirectiveDocs.Proofs.Preorder
import Mathlib.Data.List.Induction

namespace DirectiveDocs.Markup

variable {d : Dialect}

def Event.isSingle : Event d → Bool
  | .start _ | .stop => false
  | _ => true

/-- A group with its parts, or a single event. -/
inductive Part (d : Dialect) where
  | group (tag : Tag d) (parts : List (Part d))
  | leaf (event : Event d) (single : event.isSingle = true)

mutual

def Part.events : Part d → List (Event d)
  | .group tag parts => .start tag :: (partEvents parts ++ [.stop])
  | .leaf e _ => [e]

def partEvents : List (Part d) → List (Event d)
  | [] => []
  | p :: ps => p.events ++ partEvents ps

end

/-- The events below a number of open groups, without the ends that nothing is open for and with
the ends that are missing. -/
def balance : Nat → List (Event d) → List (Event d)
  | n, [] => List.replicate n .stop
  | n, .start tag :: es => .start tag :: balance (n + 1) es
  | 0, .stop :: es => balance 0 es
  | n + 1, .stop :: es => .stop :: balance n es
  | n, e :: es => e :: balance n es

/-- The parts before the first end that no group of the events answers to, and the parts after
each such end. A group without an end lasts as long as there are events. -/
def readParts : List (Event d) → List (Part d) × List (List (Part d))
  | [] => ([], [])
  | e :: es =>
    let (ps, outer) := readParts es
    if h : e.isSingle = true then (.leaf e h :: ps, outer)
    else
      match e, outer with
      | .start tag, after :: outer => (.group tag ps :: after, outer)
      | .start tag, [] => ([.group tag ps], [])
      | _, outer => ([], ps :: outer)

def nesting (es : List (Event d)) : List (Part d) :=
  (readParts es).1 ++ (readParts es).2.flatten

def Event.content : Event d → List Child
  | .text s | .html s => [.text s]
  | .softBreak => [.text "\n"]
  | .code s => [.node (Node.inlineCode s)]
  | .inlineHtml s => [.node ((Node.empty .html).withText s)]
  | .hardBreak => [.node (Node.empty .break)]
  | .rule => [.node (Node.empty .thematicBreak)]
  | .start _ | .stop | .taskMarker .. | .footnoteReference .. | .math .. => []

def Event.marks : Event d → List Bool
  | .taskMarker checked _ => [checked]
  | _ => []

def Part.marks : Part d → List Bool
  | .group .. => []
  | .leaf e _ => e.marks

def joinTexts : List Child → List Child
  | [] => []
  | .node n :: cs => .node n :: joinTexts cs
  | .text s :: cs =>
    match joinTexts cs with
    | .text t :: rest => .text (s ++ t) :: rest
    | rest => .text s :: rest

def checkedValue (checked : Bool) : String :=
  if checked then "true" else "false"

/-- The attributes of a group: those of its tag, and its last mark. -/
def groupAttributes (tag : Tag d) (marks : List Bool) : Attributes :=
  match marks.getLast? with
  | some checked => (Attributes.ofList tag.attributeList).insert "checked" (checkedValue checked)
  | none => .ofList tag.attributeList

/-- The node of a group with given marks and content. Code has one text, that of its content
without one newline at the end. An image has that text as its description, and no children. -/
def groupNode (tag : Tag d) (marks : List Bool) (content : List Child) : Node :=
  let attributes := groupAttributes tag marks
  match tag.kind with
  | .code => .mk .code attributes [.text (dropNewline (Node.textOfChildren content))]
  | .image => .mk .image (attributes.insert "alt" (Node.textOfChildren content)) []
  | kind => .mk kind attributes (joinTexts content)

mutual

def Part.content : Part d → List Child
  | .group tag parts => [.node (groupNode tag (parts.flatMap Part.marks) (partContent parts))]
  | .leaf e _ => e.content

def partContent : List (Part d) → List Child
  | [] => []
  | p :: ps => p.content ++ partContent ps

end

/-- What stands outside all groups. A text is a paragraph of its own. -/
def rootNode : Child → Node
  | .node n => n
  | .text s => (Node.empty .paragraph).withText s

def partForest (ps : List (Part d)) : List Node :=
  (partContent ps).map rootNode

theorem readParts_single {e : Event d} (h : e.isSingle = true) (es : List (Event d)) :
    readParts (e :: es) = (.leaf e h :: (readParts es).1, (readParts es).2) := by
  simp only [readParts, dif_pos h]

theorem readParts_start (tag : Tag d) (es : List (Event d)) :
    readParts (.start tag :: es) =
      (.group tag (readParts es).1 :: ((readParts es).2.headD []), (readParts es).2.tail) := by
  simp only [readParts, Event.isSingle]
  cases (readParts es).2 <;> rfl

theorem readParts_stop (es : List (Event d)) :
    readParts (.stop :: es) = ([], (readParts es).1 :: (readParts es).2) := by
  simp [readParts, Event.isSingle]

theorem balance_single {e : Event d} (h : e.isSingle = true) (n : Nat) (es : List (Event d)) :
    balance n (e :: es) = e :: balance n es := by
  cases e <;> first | rfl | cases h

/-- The events from the first end that answers to none of a number of open groups. -/
def outerEvents : Nat → List (List (Part d)) → List (Event d)
  | n, [] => List.replicate n .stop
  | 0, ps :: outer => partEvents ps ++ outerEvents 0 outer
  | n + 1, ps :: outer => .stop :: (partEvents ps ++ outerEvents n outer)

/-- What is read has the balanced events: induction on the events, below any number of groups. -/
theorem balance_eq_events (n : Nat) (es : List (Event d)) :
    balance n es = partEvents (readParts es).1 ++ outerEvents n (readParts es).2 := by
  induction es generalizing n with
  | nil => rfl
  | cons e es ih =>
    by_cases he : e.isSingle = true
    · rw [balance_single he, readParts_single he, ih]
      rfl
    · cases e with
      | start tag =>
        rw [balance, ih, readParts_start]
        cases (readParts es).2 <;> simp [partEvents, Part.events, outerEvents, List.replicate_succ]
      | stop =>
        rw [readParts_stop]
        cases n with
        | zero => rw [balance, ih]; rfl
        | succ n => rw [balance, ih]; rfl
      | _ => exact absurd rfl he

theorem partEvents_append (ps qs : List (Part d)) :
    partEvents (ps ++ qs) = partEvents ps ++ partEvents qs := by
  induction ps with
  | nil => rfl
  | cons p ps ih => simp [partEvents, ih]

theorem outerEvents_zero (outer : List (List (Part d))) :
    outerEvents 0 outer = partEvents outer.flatten := by
  induction outer with
  | nil => rfl
  | cons ps outer ih => simp [outerEvents, ih, partEvents_append]

theorem partEvents_nesting (es : List (Event d)) : partEvents (nesting es) = balance 0 es := by
  rw [balance_eq_events, outerEvents_zero, ← partEvents_append]
  rfl

mutual

theorem readParts_events : ∀ (p : Part d) (rest : List (Event d)),
    readParts (p.events ++ rest) = (p :: (readParts rest).1, (readParts rest).2)
  | .group tag parts, rest => by
    have h := readParts_partEvents parts (.stop :: rest)
    rw [readParts_stop] at h
    simp only [Part.events, List.cons_append, List.append_assoc, List.nil_append]
    rw [readParts_start, h]
    simp
  | .leaf e h, rest => readParts_single h rest

/-- Parts that are spelled out are read back. -/
theorem readParts_partEvents : ∀ (ps : List (Part d)) (rest : List (Event d)),
    readParts (partEvents ps ++ rest) = (ps ++ (readParts rest).1, (readParts rest).2)
  | [], _ => rfl
  | p :: ps, rest => by
    rw [partEvents, List.append_assoc, readParts_events p, readParts_partEvents ps]
    rfl

end

/-- Parts are determined by their events. -/
theorem nesting_partEvents (ps : List (Part d)) : nesting (partEvents ps) = ps := by
  have h := readParts_partEvents ps []
  rw [List.append_nil] at h
  simp [nesting, h, readParts]

def addLatest (latest : List Child) : Child → List Child
  | .node n => .node n :: latest
  | .text s =>
    match latest with
    | .text t :: rest => .text (t ++ s) :: rest
    | latest => .text s :: latest

def OpenNode.extend (o : OpenNode) (marks : List Bool) (content : List Child) : OpenNode where
  kind := o.kind
  attributes := marks.foldl (fun a m => a.insert "checked" (checkedValue m)) o.attributes
  latest := content.foldl addLatest o.latest

theorem OpenNode.extend_extend (o : OpenNode) (m m' : List Bool) (c c' : List Child) :
    (o.extend m c).extend m' c' = o.extend (m ++ m') (c ++ c') := by
  simp [extend, List.foldl_append]

theorem OpenNode.addText_eq (o : OpenNode) (s : String) : o.addText s = o.extend [] [.text s] := by
  obtain ⟨kind, attributes, latest⟩ := o
  rcases latest with _ | ⟨_ | _, _⟩ <;> rfl

theorem joinTexts_text_text (s t : String) (cs : List Child) :
    joinTexts (.text s :: .text t :: cs) = joinTexts (.text (s ++ t) :: cs) := by
  simp only [joinTexts]
  rcases joinTexts cs with _ | ⟨_ | u, rest⟩
  · rfl
  · rfl
  · simp [String.append_assoc]

/-- Only the latest child can still grow, so all before it stays as it is. -/
theorem foldl_addLatest (content : List Child) (c : Child) (rest : List Child) :
    (content.foldl addLatest (c :: rest)).reverse = rest.reverse ++ joinTexts (c :: content) := by
  induction content generalizing c rest with
  | nil => cases c <;> simp [joinTexts]
  | cons x xs ih =>
    cases c with
    | node n => cases x <;> simp [addLatest, ih, joinTexts]
    | text t =>
      cases x with
      | node n => simp [addLatest, ih, joinTexts]
      | text s => rw [joinTexts_text_text, List.foldl_cons, addLatest, ih]

/-- Children added one after another are the content with its texts joined. -/
theorem foldl_addLatest_nil (content : List Child) :
    (content.foldl addLatest []).reverse = joinTexts content := by
  cases content with
  | nil => rfl
  | cons c cs =>
    have h := foldl_addLatest cs c []
    cases c <;> exact h

/-- Joining texts keeps the text. -/
theorem textOfChildren_joinTexts (cs : List Child) :
    Node.textOfChildren (joinTexts cs) = Node.textOfChildren cs := by
  induction cs with
  | nil => rfl
  | cons c cs ih =>
    cases c with
    | node n => simp [joinTexts, Node.textOfChildren, ih]
    | text s =>
      simp only [joinTexts, Node.textOfChildren, Node.textOfChild, ← ih]
      rcases joinTexts cs with _ | ⟨_ | t, rest⟩
      · rfl
      · rfl
      · simp [Node.textOfChildren, Node.textOfChild, String.append_assoc]

/-- Of several marks the last one counts. -/
theorem foldl_marks (marks : List Bool) (a : Attributes) :
    marks.foldl (fun a m => a.insert "checked" (checkedValue m)) a =
      match marks.getLast? with
      | some m => a.insert "checked" (checkedValue m)
      | none => a := by
  induction marks using List.reverseRecOn with
  | nil => rfl
  | append_singleton ms m ih =>
    rw [List.foldl_append, ih]
    cases ms.getLast? <;> simp [Attributes.insert_insert]

/-- A group that ends becomes the node of its tag, its marks and its content. -/
theorem OpenNode.close_extend (tag : Tag d) (marks : List Bool) (content : List Child) :
    ((ofTag tag).extend marks content).close = groupNode tag marks content := by
  have ha : ((ofTag tag).extend marks content).attributes = groupAttributes tag marks := by
    simp only [extend, ofTag, foldl_marks]
    rfl
  have hl : ((ofTag tag).extend marks content).latest.reverse = joinTexts content :=
    foldl_addLatest_nil content
  rw [close, ha, hl]
  change closeGroup tag.kind _ _ = _
  cases hk : tag.kind <;> simp [closeGroup, groupNode, hk, textOfChildren_joinTexts]

namespace Builder

/-- A single event goes to the innermost open group. -/
theorem process_single {e : Event d} (h : e.isSingle = true) (o : OpenNode)
    (stack : List OpenNode) (roots : List Node) :
    process ⟨o :: stack, roots⟩ e = ⟨o.extend e.marks e.content :: stack, roots⟩ := by
  cases e with
  | start tag => cases h
  | stop => cases h
  | text s => simp only [process, addText, OpenNode.addText_eq]; rfl
  | html s => simp only [process, addText, OpenNode.addText_eq]; rfl
  | softBreak => simp only [process, addText, OpenNode.addText_eq]; rfl
  | _ => rfl

/-- A group whose parts fill its open node becomes one node. -/
theorem process_group {parts : List (Part d)}
    (h : ∀ o stack roots, (partEvents parts).foldl process ⟨o :: stack, roots⟩ =
      ⟨o.extend (parts.flatMap Part.marks) (partContent parts) :: stack, roots⟩)
    (tag : Tag d) (b : Builder) :
    (Part.group tag parts).events.foldl process b =
      b.addNode (groupNode tag (parts.flatMap Part.marks) (partContent parts)) := by
  have hstart : process b (.start tag) = ⟨.ofTag tag :: b.stack, b.roots⟩ := rfl
  rw [Part.events, List.foldl_cons, hstart, List.foldl_append, h, ← OpenNode.close_extend]
  rfl

mutual

/-- The events of a part extend the innermost open node and leave all else as it is. -/
theorem process_part : ∀ (p : Part d) (o : OpenNode) (stack : List OpenNode) (roots : List Node),
    p.events.foldl process ⟨o :: stack, roots⟩ = ⟨o.extend p.marks p.content :: stack, roots⟩
  | .group tag parts, o, stack, roots => by
    rw [process_group (fun o stack roots => process_parts parts o stack roots)]
    rfl
  | .leaf _ h, o, stack, roots => process_single h o stack roots

/-- Parts inside an open group extend it and leave everything else as it is. -/
theorem process_parts : ∀ (ps : List (Part d)) (o : OpenNode) (stack : List OpenNode)
    (roots : List Node), (partEvents ps).foldl process ⟨o :: stack, roots⟩ =
      ⟨o.extend (ps.flatMap Part.marks) (partContent ps) :: stack, roots⟩
  | [], _, _, _ => rfl
  | p :: ps, o, stack, roots => by
    rw [partEvents, List.foldl_append, process_part p, process_parts ps, OpenNode.extend_extend]
    rfl

end

/-- With nothing open, parts become roots. -/
theorem process_roots (ps : List (Part d)) (roots : List Node) :
    (partEvents ps).foldl process ⟨[], roots⟩ = ⟨[], (partForest ps).reverse ++ roots⟩ := by
  induction ps generalizing roots with
  | nil => rfl
  | cons p ps ih =>
    have hp : p.events.foldl process ⟨[], roots⟩ =
        ⟨[], (p.content.map rootNode).reverse ++ roots⟩ := by
      cases p with
      | group tag parts => exact process_group (process_parts parts) tag ⟨[], roots⟩
      | leaf e h => cases e <;> first | rfl | cases h
    rw [partEvents, List.foldl_append, hp, ih]
    simp [partForest, partContent]

/-- Ending the innermost open node is the first thing that finishing does. -/
theorem finish_close (b : Builder) : b.close.finish = b.finish := by
  obtain ⟨stack, roots⟩ := b
  rcases stack with _ | ⟨o, _ | ⟨o', stack⟩⟩ <;> rfl

/-- Ends after all other events do what finishing does anyway. -/
theorem finish_stops (n : Nat) (b : Builder) :
    ((List.replicate n (.stop : Event d)).foldl process b).finish = b.finish := by
  induction n generalizing b with
  | zero => rfl
  | succ n ih =>
    rw [List.replicate_succ, List.foldl_cons, ih]
    exact finish_close b

theorem length_addNode (b : Builder) (n : Node) :
    (b.addNode n).stack.length = b.stack.length := by
  obtain ⟨stack, roots⟩ := b
  cases stack <;> rfl

theorem length_close (b : Builder) : b.close.stack.length = b.stack.length - 1 := by
  obtain ⟨stack, roots⟩ := b
  cases stack with
  | nil => rfl
  | cons o stack => exact length_addNode _ _

theorem length_single {e : Event d} (h : e.isSingle = true) (b : Builder) :
    (b.process e).stack.length = b.stack.length := by
  obtain ⟨stack, roots⟩ := b
  cases stack with
  | nil => cases e <;> first | rfl | cases h
  | cons o stack => rw [process_single h]; rfl

/-- Balancing the events does not change what they build. -/
theorem finish_balance (es : List (Event d)) (b : Builder) :
    ((balance b.stack.length es).foldl process b).finish = (es.foldl process b).finish := by
  induction es generalizing b with
  | nil => exact finish_stops _ b
  | cons e es ih =>
    by_cases he : e.isSingle = true
    · rw [balance_single he, List.foldl_cons, List.foldl_cons, ← ih, length_single he]
    · cases e with
      | start tag => exact ih (b.process (.start tag))
      | stop =>
        have hc : b.process (.stop : Event d) = b.close := rfl
        rw [List.foldl_cons, ← ih, hc, length_close]
        cases hn : b.stack.length with
        | zero =>
          have hb : b.close = b := by
            rw [close, List.eq_nil_of_length_eq_zero hn]
          rw [balance, hb]
        | succ n =>
          rw [balance]
          rfl
      | _ => exact absurd rfl he

end Builder

end DirectiveDocs.Markup
