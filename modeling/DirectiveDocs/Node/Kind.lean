namespace DirectiveDocs

inductive Kind where
  | heading | paragraph | div | strong | emphasis | delete | superscript | subscript
  | inlineCode | code | link | image | list | listItem | blockquote | thematicBreak | «break»
  | html | definitionList | definitionTerm | definitionDescription | crossReference
  | table | tableRow | tableCell
  deriving DecidableEq, Repr

namespace Kind

def all : List Kind :=
  [heading, paragraph, div, strong, emphasis, delete, superscript, subscript,
   inlineCode, code, link, image, list, listItem, blockquote, thematicBreak, «break»,
   html, definitionList, definitionTerm, definitionDescription, crossReference,
   table, tableRow, tableCell]

/-- The tag a renderer dispatches on. -/
def tag : Kind → String
  | heading => "heading"
  | paragraph => "paragraph"
  | div => "div"
  | strong => "strong"
  | emphasis => "emphasis"
  | delete => "delete"
  | superscript => "superscript"
  | subscript => "subscript"
  | inlineCode => "inlineCode"
  | code => "code"
  | link => "link"
  | image => "image"
  | list => "list"
  | listItem => "listItem"
  | blockquote => "blockquote"
  | thematicBreak => "thematicBreak"
  | «break» => "break"
  | html => "html"
  | definitionList => "definitionList"
  | definitionTerm => "definitionTerm"
  | definitionDescription => "definitionDescription"
  | crossReference => "crossReference"
  | table => "table"
  | tableRow => "tableRow"
  | tableCell => "tableCell"

def ofTag? (s : String) : Option Kind :=
  all.find? (fun k => k.tag == s)

theorem ofTag?_tag (k : Kind) : ofTag? k.tag = some k := by
  cases k <;> rfl

end Kind
end DirectiveDocs
