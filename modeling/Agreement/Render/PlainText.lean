/- # Agreement.Render.PlainText: documents as plain text

A preview: blocks with a blank line between them, tables as lines with tabs, list items with their
markers. Every level of indentation is two spaces. A signature keeps its lines as they are, and a
page break is a form feed.
-/
import Agreement.Render.Html

namespace Agreement

namespace PlainText

variable (resolve : String → String)

/-- Two spaces for every level. -/
def indent (level : Nat) : List Char := List.replicate (2 * level) ' '

/-- Text with something in front of each of its lines. Without it the text stays as it is. -/
def indentLines (front : List Char) (text : List Char) : List Char :=
  if front.isEmpty then text
  else ['\n'].intercalate ((Text.lines text).map (front ++ ·))

/-- The text of a text block. -/
def textBlock (kind : BlockKind) (front : List Char) (text : List Char) : List Char :=
  match kind with
  | .quote => indentLines (front ++ indent 2) text
  | .signature => text
  | _ => indentLines front text

/-- The line of a row. -/
def rowLine (front : List Char) (r : Row) : List Char :=
  front ++ ['\t'].intercalate (r.cells.map fun c => (resolve c.text).toList)

/-- The lines of a table. -/
def tableBlock (front : List Char) (t : Table) : List Char :=
  ['\n'].intercalate (t.rows.map (rowLine resolve front))

mutual

/-- The lines of an item with a number and of the items below it. -/
def itemLines (marker : Nat → String) (front : List Char) (depth number : Nat) :
    Item → List (List Char)
  | .mk text children =>
    (front ++ indent depth ++ (marker number).toList ++ ' ' :: (resolve text).toList) ::
      itemsLines marker front (depth + 1) 1 0 children

/-- The lines of the items from an index on of a sequence. -/
def itemsLines (marker : Nat → String) (front : List Char) (depth start index : Nat) :
    List Item → List (List Char)
  | [] => []
  | item :: items =>
    itemLines marker front depth (Numbering.itemNumber start index) item ++
      itemsLines marker front depth start (index + 1) items

end

/-- The marker of an item by its number. -/
def markerOf (options : RenderOptions) (b : Block) (l : ItemList) (n : Nat) : String :=
  if b.isOrdered then (b.numbering l).marker n else String.singleton options.listMarker

/-- The lines of a list. -/
def listBlock (marker : Nat → String) (front : List Char) (l : ItemList) : List Char :=
  ['\n'].intercalate (itemsLines resolve marker front 0 l.start.toNat 0 l.items)

/-- The text of a page break or rule. -/
def markerBlock (kind : BlockKind) : List Char :=
  match kind with
  | .pageBreak => ['\x0C']
  | _ => List.replicate 10 '-'

/-- The text of a block. -/
def block (options : RenderOptions) (b : Block) : List Char :=
  let front := indent b.placement.indentLevel.toNat
  match b.content with
  | .text s => textBlock b.kind front (resolve s).toList
  | .table t => tableBlock resolve front t
  | .list l => listBlock resolve (markerOf options b l) front l
  | .empty => markerBlock b.kind

/-- The parts of a document: running texts and blocks. -/
def parts (options : RenderOptions) (d : Document) : List (List Char) :=
  let running (text : Option String) : List (List Char) :=
    if options.includeHeaderFooter then (text.map fun s => (resolve s).toList).toList else []
  running d.page.header ++ d.blocks.map (block resolve options) ++ running d.page.footer

end PlainText

/-- The plain text of a document, without blank space at its ends. -/
def Document.plainText (d : Document) (lex : Lexicon) (ctx : Context) (options : RenderOptions) :
    String :=
  String.ofList <| Text.trim <|
    ['\n', '\n'].intercalate (PlainText.parts (Template.resolve lex ctx) options d)

end Agreement
