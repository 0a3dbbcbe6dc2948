/- # Agreement.Render.Counting: markup that is counted as it is written

One pass over a document writes its markup and counts what it holds. A text is counted when it has
been resolved: one of a block with its words and characters, one of the page only for what is left
in it. A block is counted when it, or something in its place, has been written.
-/
import Agreement.Render.Html

namespace Agreement

open Markup

/-- A step that writes something and can count it. -/
abbrev Counting (α : Type) := StateM Statistics α

/-- A rendering with what was counted on the way. -/
structure Rendering where
  content : String
  metadata : Metadata
  statistics : Statistics
  deriving Repr

namespace Html.Counting

variable (resolve : String → String) (options : RenderOptions)

/-- Counts something, if counts are wanted. -/
def count (step : Statistics → Statistics) : Counting Unit :=
  if options.collectStatistics then modify step else pure ()

/-- A text as it is written, with the placeholders that are left in it counted. A text of a block
counts with its words and characters too. -/
def resolved (ofBlock : Bool) (text : String) : Counting String := do
  let s := resolve text
  count options (·.addUnresolved (Template.placeholderCount s))
  if ofBlock then count options (·.countText s)
  return s

/-- The element of a cell. -/
def cell (isHeader : Bool) (c : Cell) : Counting String := do
  let text ← resolved resolve options true c.text
  return Html.cell id options isHeader { c with text }

/-- The element of a row. -/
def row (r : Row) : Counting String := do
  let cells ← r.cells.mapM (cell resolve options r.isHeader)
  return "<tr>" ++ String.join cells ++ "</tr>\n"

/-- The element of a table. -/
def table (declarations : List String) (t : Table) : Counting String := do
  let rows ← t.rows.mapM (row resolve options)
  return "<table" ++ styleAttribute (declarations ++ ["border-collapse: collapse"]) ++ ">\n" ++
    (t.columnWidths.map columns).getD "" ++ String.join rows ++ "</table>\n"

mutual

/-- The element of an item, with the list below it. -/
def item (ordering : Ordering) : Item → Counting String
  | .mk text children => do
    count options (·.addListItem)
    let text ← resolved resolve options true text
    let below ← items ordering children
    return "<li>" ++ escaped text ++
      (if children.isEmpty then "" else "\n" ++ list ordering 1 [] below) ++ "</li>\n"

/-- The elements of items. -/
def items (ordering : Ordering) : List Item → Counting String
  | [] => return ""
  | next :: rest => do
    let first ← item ordering next
    return first ++ (← items ordering rest)

end

/-- What becomes of a block, which is counted unless it is dropped. -/
def decided (kind : BlockKind) (element : Counting String) : Action → Counting String
  | .keep => do
    let markup ← element
    count options (·.addBlock kind)
    return markup
  | .replace markup => do
    count options (·.addBlock kind)
    return markup ++ "\n"
  | .skip => return ""

/-- What a block becomes after the decision about it. The text of a text block has been resolved
before that decision. -/
def block (styles : StyleSheet) (b : Block) (a : Action) : Counting String := do
  let declarations := b.declarations options styles
  match b.content with
  | .text s =>
    let text ← resolved resolve options true s
    decided options b.kind (return textBlock b.kind declarations text) a
  | .table t => decided options b.kind (table resolve options declarations t) a
  | .list l =>
    let ordering := if b.isOrdered then some (b.numbering l) else none
    let element : Counting String := do
      let below ← items resolve options ordering l.items
      return list ordering l.start declarations below
    decided options b.kind element a
  | .empty => decided options b.kind (return marker b.kind declarations) a

/-- The element of a running text, if there is one and it is wanted. -/
def runningText (tag : String) (text : Option String) : Counting String :=
  match text with
  | some s =>
    if options.includeHeaderFooter then do
      let text ← resolved resolve options false s
      return "<" ++ tag ++ ">" ++ escaped text ++ "</" ++ tag ++ ">\n"
    else return ""
  | none => return ""

/-- The elements of a document of whose blocks this becomes. -/
def document (d : Document) (actions : List Action) : Counting String := do
  let header ← runningText resolve options "header" d.page.header
  let blocks ← (d.blocks.zip actions).mapM fun p => block resolve options d.styles p.1 p.2
  let footer ← runningText resolve options "footer" d.page.footer
  let inner := header ++ String.join blocks ++ footer
  return if options.wrapArticle then
    articleOpen d.page d.metadata.language ++ inner ++ "</article>\n"
  else inner

end Html.Counting

namespace Document

/-- The markup of a document of whose blocks this becomes, without blank space at its end, counted
as it is written. -/
def write (d : Document) (lex : Lexicon) (ctx : Context) (options : RenderOptions)
    (actions : List Action) : Counting String := do
  let markup ← Html.Counting.document (Template.resolve lex ctx) options d actions
  return String.ofList (Text.trimRight markup.toList)

/-- The rendering of a document of whose blocks this becomes. It is counted, whatever the options
say about that. -/
def render (d : Document) (lex : Lexicon) (ctx : Context) (options : RenderOptions)
    (actions : List Action) : Rendering :=
  let (content, statistics) :=
    (d.write lex ctx { options with collectStatistics := true } actions).run {}
  { content, metadata := d.metadata, statistics }

/-- The counts of a document of whose blocks this becomes. -/
def statistics (d : Document) (lex : Lexicon) (ctx : Context) (options : RenderOptions)
    (actions : List Action) : Statistics :=
  (d.render lex ctx options actions).statistics

end Document

end Agreement
