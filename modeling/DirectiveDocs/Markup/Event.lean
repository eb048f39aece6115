namespace DirectiveDocs.Markup

/-- What a markup dialect may have beyond its base of block structure, emphasis, links, code, HTML
and definition lists. -/
inductive Extension where
  | github | headingIds | scripts | footnotes | math | metadata
  deriving DecidableEq, Repr

/-- A markup dialect, given by its extensions. -/
structure Dialect where
  extensions : List Extension
  deriving DecidableEq, Repr

namespace Dialect

def has (d : Dialect) (x : Extension) : Bool :=
  d.extensions.contains x

def plain : Dialect := ⟨[]⟩

/-- The base dialect with tables, strikethrough, task lists and alerts. -/
def github : Dialect := ⟨[.github]⟩

end Dialect

inductive Alignment where
  | none | left | center | right
  deriving DecidableEq, Repr

def Alignment.name : Alignment → String
  | none => "none"
  | left => "left"
  | center => "center"
  | right => "right"

inductive Alert where
  | note | tip | important | warning | caution
  deriving DecidableEq, Repr

def Alert.name : Alert → String
  | note => "note"
  | tip => "tip"
  | important => "important"
  | warning => "warning"
  | caution => "caution"

/-- What opens a group of events. A tag of an extension exists only in a dialect that has it. -/
inductive Tag (d : Dialect) where
  | paragraph
  | heading (depth : Nat) (identifier : Option { _s : String // d.has .headingIds = true })
  | blockquote (alert : Option { _a : Alert // d.has .github = true })
  | code (info : Option String)
  | htmlBlock
  | list (start : Option Nat)
  | item
  | footnote (label : String) (allowed : d.has .footnotes = true)
  | metadata (allowed : d.has .metadata = true)
  | definitionList
  | definitionTerm
  | definition
  | table (columns : List Alignment) (allowed : d.has .github = true)
  | tableHead (allowed : d.has .github = true)
  | tableRow (allowed : d.has .github = true)
  | tableCell (allowed : d.has .github = true)
  | emphasis
  | strong
  | strikethrough (allowed : d.has .github = true)
  | superscript (allowed : d.has .scripts = true)
  | subscript (allowed : d.has .scripts = true)
  | link (url title : String)
  | image (url title : String)

/-- One step through a parsed document. -/
inductive Event (d : Dialect) where
  | start (tag : Tag d)
  | stop
  | text (text : String)
  | code (code : String)
  | html (html : String)
  | inlineHtml (html : String)
  | softBreak
  | hardBreak
  | rule
  | taskMarker (checked : Bool) (allowed : d.has .github = true)
  | footnoteReference (label : String) (allowed : d.has .footnotes = true)
  | math (source : String) (allowed : d.has .math = true)

end DirectiveDocs.Markup
