/- # Agreement.Render.Html: documents as markup

Markup runs right to left. Every text of a document goes through resolution: block texts, cells,
items and the running texts of the page. A block becomes one element on lines of its own; the
article around them carries the page layout. Whoever asks for markup gets it only if the program
gets past the indentations of the blocks, which it multiplies out in 32 bits.
-/
import Agreement.Render.Markup
import Agreement.Render.Statistics

namespace Agreement

open Markup

namespace Block

/-- The indentation of a block in pixels. -/
def indentation (options : RenderOptions) (b : Block) : Nat :=
  b.placement.indentLevel.toNat * options.indentPx.toNat

/-- Multiplies out the indentation of a block, which nothing keeps within 32 bits. -/
def checkIndentation (options : RenderOptions) (b : Block) : Except Halt Unit :=
  if b.indentation options < UInt32.size then .ok () else .error .overflow

/-- The style declarations of a block: its style over the one of its kind, then its placement. -/
def declarations (options : RenderOptions) (styles : StyleSheet) (b : Block) : List String :=
  let defaults := styles.defaultsOf b.kind
  let style := match b.style with
    | some style => style.filledFrom defaults.style
    | none => defaults.style
  let top := b.placement.marginTop.getD defaults.marginTop
  let bottom := b.placement.marginBottom.getD defaults.marginBottom
  style.declarations ++
  (if top.isPositive then ["margin-top: " ++ top.plainText ++ "pt"] else []) ++
  (if bottom.isPositive then ["margin-bottom: " ++ bottom.plainText ++ "pt"] else []) ++
  (if 0 < b.placement.indentLevel then
    ["margin-inline-start: " ++ toString (b.indentation options) ++ "px"] else []) ++
  (if b.placement.pageBreakBefore then ["break-before: page"] else []) ++
  (if b.placement.keepWithNext then ["break-after: avoid"] else [])

/-- The numbering of a list block: its own, or the one of the list. -/
def numbering (b : Block) (l : ItemList) : Numbering := b.placement.listStyle.getD l.numbering

end Block

namespace Html

variable (resolve : String → String) (options : RenderOptions)

/-- The direction attribute of a text that starts left to right. -/
def direction (text : String) : String :=
  if Unicode.startsLeftToRight text.toList then " dir=\"ltr\"" else ""

/-- How the element of a text block opens, up to its direction and style, and how it closes. -/
def textTags : BlockKind → String × String
  | .heading1 => ("<h1", "</h1>")
  | .heading2 => ("<h2", "</h2>")
  | .heading3 => ("<h3", "</h3>")
  | .heading4 => ("<h4", "</h4>")
  | .quote => ("<blockquote", "</blockquote>")
  | .signature => ("<div class=\"signature\"", "</div>")
  | _ => ("<p", "</p>")

/-- The declarations of a text block. A signature keeps its line breaks. -/
def textDeclarations (kind : BlockKind) (declarations : List String) : List String :=
  if kind = .signature then "white-space: pre-wrap" :: declarations else declarations

/-- The element of a text block. -/
def textBlock (kind : BlockKind) (declarations : List String) (text : String) : String :=
  (textTags kind).1 ++ direction text ++ styleAttribute (textDeclarations kind declarations) ++
    ">" ++ escaped text ++ (textTags kind).2 ++ "\n"

/-- The attribute of a span of more than one. -/
def spanAttribute (name : String) (span : UInt8) : String :=
  if 1 < span then " " ++ name ++ "=\"" ++ toString span.toNat ++ "\"" else ""

/-- The tag of the cells of a row. -/
def cellTag (isHeader : Bool) : String := if isHeader then "th" else "td"

/-- The declarations of a cell. In header rows the options give a background to cells that have
none. -/
def cellDeclarations (isHeader : Bool) (c : Cell) : List String :=
  -- the background of a cell itself comes first
  let background := c.background.or (if isHeader then options.headerBackground else none)
  ("vertical-align: " ++ c.verticalAlignment.name) ::
    (background.map ("background-color: " ++ ·)).toList ++
    (c.style.map TextStyle.declarations).getD []

/-- The element of a cell. -/
def cell (isHeader : Bool) (c : Cell) : String :=
  "<" ++ cellTag isHeader ++ spanAttribute "colspan" c.colspan ++
    spanAttribute "rowspan" c.rowspan ++ styleAttribute (cellDeclarations options isHeader c) ++
    ">" ++ escaped (resolve c.text) ++ "</" ++ cellTag isHeader ++ ">"

/-- The element of a row. -/
def row (r : Row) : String :=
  "<tr>" ++ String.join (r.cells.map (cell resolve options r.isHeader)) ++ "</tr>\n"

/-- The group of column widths. -/
def columns (widths : List Binary32) : String :=
  "<colgroup>" ++
    String.join (widths.map fun x => "<col style=\"width: " ++ x.plainText ++ "%\">") ++
    "</colgroup>\n"

/-- The element of a table. -/
def table (declarations : List String) (t : Table) : String :=
  "<table" ++ styleAttribute (declarations ++ ["border-collapse: collapse"]) ++ ">\n" ++
    (t.columnWidths.map columns).getD "" ++
    String.join (t.rows.map (row resolve options)) ++ "</table>\n"

/-- How a list is numbered: not at all, or in a numbering. -/
abbrev Ordering := Option Numbering

/-- The tag of a list. -/
def listTag (ordering : Ordering) : String := if ordering.isSome then "ol" else "ul"

/-- The declaration of a numbering. -/
def listDeclarations (ordering : Ordering) : List String :=
  (ordering.map fun n => "list-style-type: " ++ n.cssName).toList

/-- The attribute of the first number of an ordered list, unless that is one. -/
def startAttribute (ordering : Ordering) (start : UInt32) : String :=
  if ordering.isSome && 1 < start then " start=\"" ++ toString start.toNat ++ "\"" else ""

/-- The element of a list around its items. -/
def list (ordering : Ordering) (start : UInt32) (declarations : List String)
    (items : String) : String :=
  "<" ++ listTag ordering ++ startAttribute ordering start ++
    styleAttribute (listDeclarations ordering ++ declarations) ++ ">\n" ++ items ++
    "</" ++ listTag ordering ++ ">\n"

mutual

/-- The element of an item. The list below it starts on a line of its own, at one and without the
declarations of the block. -/
def item (ordering : Ordering) : Item → String
  | .mk text children =>
    "<li>" ++ escaped (resolve text) ++
      (if children.isEmpty then "" else "\n" ++ list ordering 1 [] (items ordering children)) ++
      "</li>\n"

/-- The elements of items. -/
def items (ordering : Ordering) : List Item → String
  | [] => ""
  | next :: rest => item ordering next ++ items ordering rest

end

/-- The element of a page break or rule. -/
def marker (kind : BlockKind) (declarations : List String) : String :=
  match kind with
  | .pageBreak =>
    "<div class=\"page-break\"" ++ styleAttribute (declarations ++ ["break-after: page"]) ++
      "></div>\n"
  | _ => "<hr" ++ styleAttribute declarations ++ ">\n"

/-- The element of a block. -/
def block (styles : StyleSheet) (b : Block) : String :=
  let declarations := b.declarations options styles
  match b.content with
  | .text s => textBlock b.kind declarations (resolve s)
  | .table t => table resolve options declarations t
  | .list l =>
    let ordering := if b.isOrdered then some (b.numbering l) else none
    list ordering l.start declarations (items resolve ordering l.items)
  | .empty => marker b.kind declarations

/-- What a block becomes after the decision about it. -/
def blockWith (styles : StyleSheet) (b : Block) : Action → String
  | .keep => block resolve options styles b
  | .replace markup => markup ++ "\n"
  | .skip => ""

/-- The element of a running text, if there is one and it is wanted. -/
def runningText (tag : String) (text : Option String) : String :=
  match text with
  | some s =>
    if options.includeHeaderFooter then
      "<" ++ tag ++ ">" ++ escaped (resolve s) ++ "</" ++ tag ++ ">\n"
    else ""
  | none => ""

/-- A length in millimetres. -/
def millimetres (x : Binary32) : String := x.plainText ++ "mm"

/-- The four margins, from the top on and to the right first. -/
def marginList (m : Margins) : String :=
  " ".intercalate ([m.top, m.right, m.bottom, m.left].map millimetres)

/-- How the article opens: direction, language and page layout. -/
def articleOpen (p : Page) (language : String) : String :=
  "<article dir=\"rtl\" lang=\"" ++ escaped language ++
    "\" data-page-size=\"" ++ p.size.name ++
    "\" data-orientation=\"" ++ p.orientation.name ++
    "\" data-page-width=\"" ++ millimetres p.dimensions.1 ++
    "\" data-page-height=\"" ++ millimetres p.dimensions.2 ++
    "\" data-margins=\"" ++ marginList p.margins ++ "\">\n"

/-- The elements of a document of whose blocks this becomes. -/
def document (d : Document) (actions : List Action) : String :=
  let inner :=
    runningText resolve options "header" d.page.header ++
      String.join ((d.blocks.zip actions).map fun p =>
        blockWith resolve options d.styles p.1 p.2) ++
      runningText resolve options "footer" d.page.footer
  if options.wrapArticle then
    articleOpen d.page d.metadata.language ++ inner ++ "</article>\n"
  else inner

end Html

namespace Document

/-- The markup of a document of whose blocks this becomes, without blank space at its end. -/
def htmlWith (d : Document) (lex : Lexicon) (ctx : Context) (options : RenderOptions)
    (actions : List Action) : String :=
  String.ofList (Text.trimRight (Html.document (Template.resolve lex ctx) options d actions).toList)

/-- The markup of a document. -/
def html (d : Document) (lex : Lexicon) (ctx : Context) (options : RenderOptions) : String :=
  d.htmlWith lex ctx options d.keepAll

/-- What the program gives of a rendering. The indentation of each block in turn is multiplied out,
before it is asked what becomes of the block, and the first one that is too great stops all. -/
def guarded {α : Type} (d : Document) (options : RenderOptions) (rendering : α) :
    Except Halt α := do
  d.blocks.forM (Block.checkIndentation options)
  return rendering

end Document

end Agreement
