/- # Agreement.Render.Statistics: what a rendering contains

Counters for blocks by kind, for list items, for words and characters, and for the placeholders that
resolution left. They count up while a document is rendered. Each is a number of 32 bits and counts
modulo 2^32 here, where the program would stop instead. So what is counted means something only for
documents that have less than that of everything.
-/
import Agreement.Render.Visit

namespace Agreement

/-- Counts of a rendering, each exact as long as it is less than 2^32. -/
@[ext]
structure Statistics where
  blockCount : UInt32 := 0
  paragraphCount : UInt32 := 0
  headingCount : UInt32 := 0
  tableCount : UInt32 := 0
  listCount : UInt32 := 0
  listItemCount : UInt32 := 0
  signatureCount : UInt32 := 0
  /-- The page breaks and rules. -/
  markerCount : UInt32 := 0
  quoteCount : UInt32 := 0
  unresolvedCount : UInt32 := 0
  wordCount : UInt32 := 0
  charCount : UInt32 := 0
  deriving DecidableEq, Repr, Inhabited

namespace Statistics

/-- Counts a block of a kind, modulo 2^32. -/
def addBlock (s : Statistics) (kind : BlockKind) : Statistics :=
  let s := { s with blockCount := s.blockCount + 1 }
  match kind with
  | .paragraph => { s with paragraphCount := s.paragraphCount + 1 }
  | .heading1 | .heading2 | .heading3 | .heading4 => { s with headingCount := s.headingCount + 1 }
  | .table => { s with tableCount := s.tableCount + 1 }
  | .bulletedList | .numberedList => { s with listCount := s.listCount + 1 }
  | .signature => { s with signatureCount := s.signatureCount + 1 }
  | .pageBreak | .rule => { s with markerCount := s.markerCount + 1 }
  | .quote => { s with quoteCount := s.quoteCount + 1 }

/-- Counts an item of a list, modulo 2^32. -/
def addListItem (s : Statistics) : Statistics := { s with listItemCount := s.listItemCount + 1 }

/-- Counts placeholders that are left, modulo 2^32. -/
def addUnresolved (s : Statistics) (count : Nat) : Statistics :=
  { s with unresolvedCount := s.unresolvedCount + count.toUInt32 }

/-- The number of words of a text: of its runs without blank space. -/
def wordsIn (text : String) : Nat := (Text.words text.toList).length

/-- The number of characters of a text. Blank space is no character. -/
def charsIn (text : String) : Nat := (text.toList.filter (!Unicode.isSpace ·)).length

/-- Counts the words and characters of a text, modulo 2^32. -/
def countText (s : Statistics) (text : String) : Statistics :=
  { s with
    wordCount := s.wordCount + (wordsIn text).toUInt32
    charCount := s.charCount + (charsIn text).toUInt32 }

/-- Counts in saved data. -/
def toJson (s : Statistics) : Json :=
  .object
    [ ("block_count", .count s.blockCount.toNat),
      ("paragraph_count", .count s.paragraphCount.toNat),
      ("heading_count", .count s.headingCount.toNat),
      ("table_count", .count s.tableCount.toNat),
      ("list_count", .count s.listCount.toNat),
      ("list_item_count", .count s.listItemCount.toNat),
      ("signature_count", .count s.signatureCount.toNat),
      ("marker_count", .count s.markerCount.toNat),
      ("quote_count", .count s.quoteCount.toNat),
      ("unresolved_count", .count s.unresolvedCount.toNat),
      ("word_count", .count s.wordCount.toNat),
      ("char_count", .count s.charCount.toNat) ]

end Statistics

mutual

/-- The texts of an item and of the items below it, in the order of reading. -/
def Item.texts : Item → List String
  | .mk text children => text :: Item.textsOf children

/-- The texts of items and of those below them, in the order of reading. -/
def Item.textsOf : List Item → List String
  | [] => []
  | item :: items => item.texts ++ Item.textsOf items

end

/-- The texts of a table, row by row. -/
def Table.texts (t : Table) : List String := t.rows.flatMap fun r => r.cells.map (·.text)

/-- The texts of a block, in the order of reading. -/
def Block.texts (b : Block) : List String :=
  match b.content with
  | .text s => [s]
  | .table t => t.texts
  | .list l => Item.textsOf l.items
  | .empty => []

namespace Document

/-- The texts of the blocks of a document, in the order of reading. -/
def texts (d : Document) : List String := d.blocks.flatMap Block.texts

/-- The running texts that a rendering includes. -/
def runningTexts (d : Document) (options : RenderOptions) : List String :=
  if options.includeHeaderFooter then d.page.header.toList ++ d.page.footer.toList else []

/-- The lists of a document. -/
def lists (d : Document) : List ItemList := d.blocks.filterMap Block.list?

end Document

end Agreement
