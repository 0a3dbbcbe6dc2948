import Agreement.Unicode.Character
import Agreement.Unicode.Normal
import Agreement.Text
import Agreement.SortedMap
import Agreement.Number.Text
import Agreement.Json.Printer
import Agreement.Json.Reader
import Agreement.Json.Decoder
import Agreement.Gender.Registry
import Agreement.Gender.Vocabulary
import Agreement.Template.Resolution
import Agreement.Template.BuiltIn
import Agreement.Document.Style
import Agreement.Document.ItemList
import Agreement.Document.Page
import Agreement.Document.Block
import Agreement.Document.Basic
import Agreement.Document.InPlace
import Agreement.Render.Counting
import Agreement.Render.PlainText
import Agreement.Review.Trial
import Agreement.Drafting
import Agreement.CommandLine.Run
import Agreement.Main
import Agreement.Proofs.Template.Grammar
import Agreement.Proofs.Template.LeftmostLongest
import Agreement.Proofs.Template.Stages
import Agreement.Proofs.Render.Outline
import Agreement.Proofs.Render.PlainText
import Agreement.Proofs.Render.Totals
import Agreement.Proofs.Review.LiteralNames
import Agreement.Proofs.Document.Reloading
import Agreement.Proofs.Document.Loading
import Agreement.Proofs.Document.Identifiers
import Agreement.Proofs.Document.Editing
import Agreement.Proofs.Document.Cells
import Agreement.Proofs.Template.Idempotence
import Agreement.Proofs.Template.Usability
import Agreement.Proofs.Template.LineBreaks
import Agreement.Proofs.Template.LongerWords
import Agreement.Proofs.Template.PlainTexts
import Agreement.Proofs.Gender.Registry
import Agreement.Proofs.Review.TaggedWords
import Agreement.Proofs.Review.Declarations
import Agreement.Proofs.Template.WordRuns
import Agreement.Proofs.Template.MaleForms
import Agreement.Proofs.Template.Braces
import Agreement.Proofs.Review.StrayBlanks
import Agreement.Proofs.Template.Openings
import Agreement.Proofs.Render.Skipping
import Agreement.Proofs.Render.Arithmetic
import Agreement.Proofs.Document.Drafting
import Agreement.Proofs.Gender.Neighbours
import Agreement.Proofs.Review.Saving
import Agreement.Proofs.Gender.Saving
