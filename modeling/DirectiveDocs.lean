import DirectiveDocs.Plugin
import DirectiveDocs.Main
import DirectiveDocs.Proofs.Collisions
import DirectiveDocs.Proofs.Nesting
import DirectiveDocs.Proofs.Anchors
import DirectiveDocs.Proofs.LabelGrammar
import DirectiveDocs.Proofs.LabelPattern
import DirectiveDocs.Proofs.CrossReference
import DirectiveDocs.Proofs.AnchorClashes
import DirectiveDocs.Proofs.DisplayText
import DirectiveDocs.Proofs.SectionShape
import DirectiveDocs.Proofs.NodeForms
import DirectiveDocs.Proofs.Extension
import DirectiveDocs.Proofs.JsonText
import DirectiveDocs.Proofs.Batch
import DirectiveDocs.Proofs.Reordering
import DirectiveDocs.Proofs.Addressing
import DirectiveDocs.Proofs.Completion
import DirectiveDocs.Proofs.PathOrder
import DirectiveDocs.Proofs.BuiltinText
import DirectiveDocs.Proofs.Assembly
import DirectiveDocs.Proofs.Configuration
import DirectiveDocs.Proofs.PlainEntries
import DirectiveDocs.Proofs.Vocabulary
import DirectiveDocs.Proofs.ImageText
import DirectiveDocs.Proofs.BracedReferences
import DirectiveDocs.Proofs.Trimming
import DirectiveDocs.Proofs.OptionOrder
import DirectiveDocs.Proofs.DefinitionGroups
import DirectiveDocs.Proofs.NormalForm
import DirectiveDocs.Proofs.KeptText
import DirectiveDocs.Proofs.Repetition
import DirectiveDocs.Proofs.Merging
import DirectiveDocs.Proofs.Discovery
import DirectiveDocs.Proofs.Spellings
import DirectiveDocs.Proofs.DocumentOrder
