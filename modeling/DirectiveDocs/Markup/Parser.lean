import DirectiveDocs.Markup.Document
import DirectiveDocs.Markup.Passage
import DirectiveDocs.Markup.Tree

namespace DirectiveDocs.Markup

variable {d : Dialect}

namespace Scope

def tag : Scope d → Tag d
  | quote alert => .blockquote alert
  | list _ mark => .list (if isBullet mark.sign then none else some mark.start)
  | item _ => .item
  | definitionList _ => .definitionList
  | definition _ => .definition

end Scope

def groupEvents (tag : Tag d) (inside : List (Event d)) : List (Event d) :=
  .start tag :: (inside ++ [.stop])

def rowEvents (text : Passage → List (Event d)) (tag : Tag d) (allowed : d.has .github = true)
    (cells : List Passage) : List (Event d) :=
  groupEvents tag (cells.flatMap (fun p => groupEvents (.tableCell allowed) (text p)))

def tableEvents (text : Passage → List (Event d)) (columns : List Alignment)
    (allowed : d.has .github = true) : List (List Passage) → List (Event d)
  | [] => groupEvents (.table columns allowed) []
  | head :: body =>
    groupEvents (.table columns allowed)
      (rowEvents text (.tableHead allowed) allowed head ++
        body.flatMap (rowEvents text (.tableRow allowed) allowed))

mutual

/-- The events of a block, given those of its inline text. -/
def Block.events (text : Passage → List (Event d)) : Block d → List (Event d)
  | .paragraph p | .candidate p => groupEvents .paragraph (text p)
  | .tight p => text p
  | .term p => groupEvents .definitionTerm (text p)
  | .heading depth p => groupEvents (.heading depth none) (text p)
  | .rule => [.rule]
  | .code info lines => groupEvents (.code info) (lines.map .text)
  | .html lines => groupEvents .htmlBlock (lines.map .html)
  | .table columns rows allowed => tableEvents text columns allowed rows
  | .taskMarker checked allowed => [.taskMarker checked allowed]
  | .group scope blocks => groupEvents scope.tag (blockEvents text blocks)

def blockEvents (text : Passage → List (Event d)) : List (Block d) → List (Event d)
  | [] => []
  | b :: rest => b.events text ++ blockEvents text rest

end

def events (d : Dialect) (text : String) : List (Event d) :=
  let s := Source.ofString text
  let (blocks, draft) := readDocument d s
  blockEvents (fun p => eventsOf (p.inlines s draft.target?)) blocks

/-- Reads markup as a forest of block nodes. No text is refused. -/
def parse (d : Dialect) (text : String) : List Node :=
  forest (events d text)

end DirectiveDocs.Markup
