import DirectiveDocs.Proofs.Loading

namespace DirectiveDocs

namespace Yaml

/-- The tokens of a text that is given by its characters. -/
def scan? (cs : List Char) : Option (List Token) :=
  if cs.all isPrintable then
    (Layout.tokensFrom (cs.length + 1) (.start ⟨.first, cs⟩)).map (fun l => l.tokens.reverse)
  else none

theorem tokens?_ofList (cs : List Char) : tokens? (String.ofList cs) = scan? cs := by
  simp only [tokens?, Cursor.ofString, String.toList_ofList, scan?]

def scanDocument? (cs : List Char) : Option Document := do
  let tokens ← scan? cs
  let (d, r) ← document (4 * tokens.length + 4) ⟨tokens, [], standardHandles⟩
  let ((), r) ← skipDocumentEnds r.tokens.length r
  if r.tokens.isEmpty then some d else none

theorem parse?_ofList (cs : List Char) : parse? (String.ofList cs) = scanDocument? cs := by
  rw [parse?, tokens?_ofList]
  rfl

end Yaml

namespace Spec

/-- A text loads as the specs that the document of its characters has. -/
theorem load_ofList_eq_ok {cs : List Char} {specs : List Spec} (hb : cs.all Text.isBlank = false)
    (hd : (Yaml.scanDocument? (Text.trimChars cs)).map decodeAll = some (.ok specs))
    (hn : AllNamed specs) : load (String.ofList cs) = .ok specs := by
  obtain ⟨d, hp, hr⟩ := Option.map_eq_some_iff.mp hd
  have htrim : Text.trim (String.ofList cs) = String.ofList (Text.trimChars cs) := by
    rw [Text.trim, String.toList_ofList]
  refine load_eq_ok_iff.mpr (Or.inr ⟨?_, read_eq_ok_iff.mpr ⟨d, ?_, hr⟩, hn⟩)
  · rw [Text.isBlankText, String.toList_ofList, hb]
  · rw [htrim, Yaml.parse?_ofList, hp]

/-- The spec file that comes with the program. -/
def builtinText : String := "- name: admonition
  alias: [attention, caution, danger, error, hint, important, note, seealso, tip, warning]
  doc: Callouts highlight information with a distinct style.
  arg:
    type: myst
    doc: The title of the admonition.
  body:
    type: myst
    doc: The content of the admonition.
  options:
    class:
      type: String
      doc: CSS classes to add to the admonition.
    icon:
      type: Boolean
      doc: Show the admonition icon.
    open:
      type: Boolean
      doc: Whether a collapsible admonition starts open.

- name: code-block
  alias: [code, sourcecode]
  doc: A code block with syntax highlighting.
  arg:
    type: String
    doc: Language of the code.
  body:
    type: String
    required: true
    doc: The code to highlight.
  options:
    label:
      type: String
      alias: [name]
      doc: Identifier used to cross-reference the block.
    caption:
      type: myst
      doc: A caption for the code block.
    linenos:
      type: Boolean
      alias: [number-lines]
      doc: Show line numbers.
    lineno-start:
      type: Number
      doc: Line number of the first line.
    emphasize-lines:
      type: String
      doc: Comma-separated line numbers to highlight.

- name: figure
  doc: A figure with an image, caption, and legend.
  arg:
    type: String
    required: true
    doc: Path or URL of the image.
  body:
    type: myst
    doc: Caption and legend of the figure.
  options:
    label:
      type: String
      alias: [name]
    alt:
      type: String
      doc: Alternative text for the image.
    width:
      type: string
    align:
      type: string
      doc: \"One of `left`, `center`, or `right`.\"

- name: math
  doc: A display math block written in LaTeX.
  body:
    type: String
    required: true
  options:
    label:
      type: String
      alias: [name]
      doc: Identifier used to cross-reference the equation.
    enumerated:
      type: boolean

- name: mermaid
  doc: A diagram rendered with [Mermaid](https://mermaid.js.org).
  body:
    type: string
    required: true
    doc: The diagram source.

- name: include
  alias: [literalinclude]
  doc: Include content from another file.
  arg:
    type: String
    required: true
    doc: Path of the file to include.
  options:
    literal:
      type: Boolean
      doc: Include the file as a code block.
    lang:
      type: String
      alias: [language]
    start-line:
      type: number
    end-line:
      type: number
"

set_option maxRecDepth 100000 in
/-- The built-in specs are what that file says. -/
theorem load_builtinText : load builtinText = .ok builtins :=
  -- the literal is `String.ofList` of its characters, so they need not be decoded from it
  load_ofList_eq_ok (by decide +kernel) (by decide +kernel) allNamed_builtins

end Spec
end DirectiveDocs
