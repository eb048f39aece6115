import DirectiveDocs.Markup.Event
import DirectiveDocs.Node.Basic
import DirectiveDocs.Text.Blank

namespace DirectiveDocs.Markup

/-- The language of a code block: the first word of its info text. -/
def codeLanguage : Option String → List (String × String)
  | some info => if info.isEmpty then [] else [("lang", Text.firstWord info)]
  | none => []

/-- A title that says nothing is left out. -/
def linkAttributes (url title : String) : List (String × String) :=
  if title.isEmpty then [("url", url)] else [("title", title), ("url", url)]

variable {d : Dialect}

namespace Tag

def kind : Tag d → Kind
  | paragraph => .paragraph
  | heading .. => .heading
  | blockquote _ => .blockquote
  | code _ => .code
  | htmlBlock => .html
  | list _ => .list
  | item => .listItem
  | footnote .. | metadata _ => .div
  | definitionList => .definitionList
  | definitionTerm => .definitionTerm
  | definition => .definitionDescription
  | table .. => .table
  | tableHead _ | tableRow _ => .tableRow
  | tableCell _ => .tableCell
  | emphasis => .emphasis
  | strong => .strong
  | strikethrough _ => .delete
  | superscript _ => .superscript
  | subscript _ => .subscript
  | link .. => .link
  | image .. => .image

def attributeList : Tag d → List (String × String)
  | heading depth (some id) => [("depth", toString depth), ("identifier", id.1)]
  | heading depth none => [("depth", toString depth)]
  | blockquote (some alert) => [("kind", alert.1.name)]
  | code info => codeLanguage info
  | list (some start) => [("ordered", "true"), ("start", toString start)]
  | list none => [("ordered", "false")]
  | table columns _ => [("align", ",".intercalate (columns.map Alignment.name))]
  | tableHead _ => [("header", "true")]
  | link url title | image url title => linkAttributes url title
  | _ => []

end Tag

/-- A node whose group has not ended; its children stand latest first. -/
structure OpenNode where
  kind : Kind
  attributes : Attributes
  latest : List Child

namespace OpenNode

def ofTag (tag : Tag d) : OpenNode where
  kind := tag.kind
  attributes := .ofList tag.attributeList
  latest := []

def addNode (n : Node) (o : OpenNode) : OpenNode :=
  { o with latest := .node n :: o.latest }

/-- A text that follows a text continues it. -/
def addText (s : String) (o : OpenNode) : OpenNode :=
  match o.latest with
  | .text t :: rest => { o with latest := .text (t ++ s) :: rest }
  | latest => { o with latest := .text s :: latest }

def setAttribute (key value : String) (o : OpenNode) : OpenNode :=
  { o with attributes := o.attributes.insert key value }

end OpenNode

/-- A text without one newline at its end. -/
def dropNewline (s : String) : String :=
  match s.toList.reverse with
  | '\n' :: rest => String.ofList rest.reverse
  | _ => s

/-- Only one newline at the end is dropped, and nothing else. -/
theorem dropNewline_append (s : String) :
    dropNewline s ++ (if s.toList.getLast? = some '\n' then "\n" else "") = s := by
  have hlast : s.toList.getLast? = s.toList.reverse.head? := by simp
  unfold dropNewline
  split
  · rename_i rest hr
    have hs : s.toList = rest.reverse ++ ['\n'] := by
      rw [← List.reverse_reverse s.toList, hr, List.reverse_cons]
    rw [hlast, hr, List.head?_cons, if_pos rfl]
    apply String.ext
    simp [hs]
  · rename_i hr
    rw [if_neg, String.append_empty]
    rw [hlast]
    intro h
    obtain ⟨rest, hrest⟩ := List.head?_eq_some_iff.mp h
    exact hr rest hrest

/-- The node of a finished group. Code keeps its text alone, an image keeps it as a description. -/
def closeGroup (kind : Kind) (attributes : Attributes) (children : List Child) : Node :=
  match kind with
  | .code => .mk .code attributes [.text (dropNewline (Node.textOfChildren children))]
  | .image => .mk .image (attributes.insert "alt" (Node.textOfChildren children)) []
  | kind => .mk kind attributes children

def OpenNode.close (o : OpenNode) : Node :=
  closeGroup o.kind o.attributes o.latest.reverse

/-- The open nodes, innermost first, and the finished roots, latest first. -/
structure Builder where
  stack : List OpenNode
  roots : List Node

namespace Builder

def empty : Builder := ⟨[], []⟩

def addNode (b : Builder) (n : Node) : Builder :=
  match b.stack with
  | o :: rest => { b with stack := o.addNode n :: rest }
  | [] => { b with roots := n :: b.roots }

/-- A text with nothing open becomes a paragraph. -/
def addText (b : Builder) (s : String) : Builder :=
  match b.stack with
  | o :: rest => { b with stack := o.addText s :: rest }
  | [] => { b with roots := (Node.empty .paragraph).withText s :: b.roots }

/-- Ends the innermost open node. An end with nothing open is passed over. -/
def close (b : Builder) : Builder :=
  match b.stack with
  | o :: rest => { b with stack := rest }.addNode o.close
  | [] => b

def mark (b : Builder) (checked : Bool) : Builder :=
  match b.stack with
  | o :: rest =>
    { b with stack := o.setAttribute "checked" (if checked then "true" else "false") :: rest }
  | [] => b

def process (b : Builder) : Event d → Builder
  | .start tag => { b with stack := .ofTag tag :: b.stack }
  | .stop => b.close
  | .text s => b.addText s
  | .code s => b.addNode (Node.inlineCode s)
  | .html s => b.addText s
  | .inlineHtml s => b.addNode ((Node.empty .html).withText s)
  | .softBreak => b.addText "\n"
  | .hardBreak => b.addNode (Node.empty .break)
  | .rule => b.addNode (Node.empty .thematicBreak)
  | .taskMarker checked _ => b.mark checked
  | .footnoteReference .. => b
  | .math .. => b

/-- The node that holds a finished node once everything around it is ended. -/
def closeAround (n : Node) : List OpenNode → Node
  | [] => n
  | o :: rest => closeAround (o.addNode n).close rest

def finish (b : Builder) : List Node :=
  match b.stack with
  | o :: rest => (closeAround o.close rest :: b.roots).reverse
  | [] => b.roots.reverse

end Builder

/-- The forest that events describe. -/
def forest (events : List (Event d)) : List Node :=
  (events.foldl Builder.process Builder.empty).finish

end DirectiveDocs.Markup
