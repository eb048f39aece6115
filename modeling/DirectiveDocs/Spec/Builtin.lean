import DirectiveDocs.Spec.Basic

namespace DirectiveDocs.Spec

/-- An optional option, with its documentation if it has some. -/
def plainOption (t : ValueType) (doc : Option String := none) (aliases : List String := []) :
    OptionSpec :=
  ⟨t, false, doc, aliases⟩

def requiredOption (t : ValueType) (doc : Option String := none) : OptionSpec :=
  ⟨t, true, doc, []⟩

def admonition : Spec where
  name := "admonition"
  aliases := ["attention", "caution", "danger", "error", "hint", "important", "note", "seealso",
    "tip", "warning"]
  argument := some (plainOption .parsed "The title of the admonition.")
  body := some (plainOption .parsed "The content of the admonition.")
  options := .ofList
    [("class", plainOption .string "CSS classes to add to the admonition."),
      ("icon", plainOption .boolean "Show the admonition icon."),
      ("open", plainOption .boolean "Whether a collapsible admonition starts open.")]
  doc := some "Callouts highlight information with a distinct style."

def codeBlock : Spec where
  name := "code-block"
  aliases := ["code", "sourcecode"]
  argument := some (plainOption .string "Language of the code.")
  body := some (requiredOption .string "The code to highlight.")
  options := .ofList
    [("label", plainOption .string "Identifier used to cross-reference the block." ["name"]),
      ("caption", plainOption .parsed "A caption for the code block."),
      ("linenos", plainOption .boolean "Show line numbers." ["number-lines"]),
      ("lineno-start", plainOption .number "Line number of the first line."),
      ("emphasize-lines", plainOption .string "Comma-separated line numbers to highlight.")]
  doc := some "A code block with syntax highlighting."

def figure : Spec where
  name := "figure"
  argument := some (requiredOption .string "Path or URL of the image.")
  body := some (plainOption .parsed "Caption and legend of the figure.")
  options := .ofList
    [("label", plainOption .string none ["name"]),
      ("alt", plainOption .string "Alternative text for the image."),
      ("width", plainOption .string),
      ("align", plainOption .string "One of `left`, `center`, or `right`.")]
  doc := some "A figure with an image, caption, and legend."

def math : Spec where
  name := "math"
  body := some (requiredOption .string)
  options := .ofList
    [("label", plainOption .string "Identifier used to cross-reference the equation." ["name"]),
      ("enumerated", plainOption .boolean)]
  doc := some "A display math block written in LaTeX."

def mermaid : Spec where
  name := "mermaid"
  body := some (requiredOption .string "The diagram source.")
  doc := some "A diagram rendered with [Mermaid](https://mermaid.js.org)."

def «include» : Spec where
  name := "include"
  aliases := ["literalinclude"]
  argument := some (requiredOption .string "Path of the file to include.")
  options := .ofList
    [("literal", plainOption .boolean "Include the file as a code block."),
      ("lang", plainOption .string none ["language"]),
      ("start-line", plainOption .number),
      ("end-line", plainOption .number)]
  doc := some "Include content from another file."

/-- The specs of the common directives. -/
def builtins : List Spec :=
  [admonition, codeBlock, figure, math, mermaid, «include»]

end DirectiveDocs.Spec
