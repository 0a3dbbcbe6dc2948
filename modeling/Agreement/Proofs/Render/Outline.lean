/- # Agreement.Proofs.Render.Outline: the elements of a document

The outline of markup is its elements without texts and attributes. A document prescribes its own
from the kinds of its blocks and the counts of rows, cells, columns and items, and never looks at a
string. That is the outline of what is rendered, so nothing that a text, a value, a form of the
vocabulary, a colour or the language holds adds an element, closes one or moves it.
-/
import Agreement.Proofs.Render.Html

namespace Agreement

open Markup

namespace Markup

/-- An element with the elements inside it. -/
inductive Outline
  | mk (name : String) (inside : List Outline)

mutual

/-- The outline of a node; text has none. -/
def Node.outline : Node → List Outline
  | .text _ => []
  | .element name _ children => [.mk name (outlines children)]
  | .void name _ => [.mk name []]

/-- The outlines of nodes in order. -/
def outlines : List Node → List Outline
  | [] => []
  | node :: rest => node.outline ++ outlines rest

end

theorem outlines_append (a b : List Node) : outlines (a ++ b) = outlines a ++ outlines b := by
  induction a with
  | nil => simp [outlines]
  | cons node a ih => simp [outlines, ih]

theorem outlines_textNodes (s : String) : outlines (textNodes s) = [] := by
  unfold textNodes
  split <;> rfl

theorem outlines_lines (es : List Node) : outlines (lines es) = outlines es := by
  induction es with
  | nil => rfl
  | cons e es ih =>
      have cons_eq : lines (e :: es) = e :: lineBreak :: lines es := rfl
      rw [cons_eq, outlines, outlines, ih, outlines]
      rfl

/-- An element whose children are elements on lines of their own. -/
theorem outline_of_lines (name : String) (attributes : List Attribute) (es : List Node) :
    (Node.element name attributes (lineBreak :: lines es)).outline = [.mk name (outlines es)] := by
  rw [Node.outline, outlines, outlines_lines]
  rfl

theorem outlines_intersperse (es : List Node) :
    outlines (es.intersperse lineBreak) = outlines es := by
  induction es with
  | nil => rfl
  | cons e es ih =>
      cases es with
      | nil => rfl
      | cons e' es =>
          rw [List.intersperse_cons_cons, outlines, outlines, ih, outlines]
          rfl

/-- Nodes with one element each. -/
theorem outlines_map {α : Type} {f : α → Node} {o : α → Outline} (h : ∀ x, (f x).outline = [o x])
    (l : List α) : outlines (l.map f) = l.map o := by
  induction l with
  | nil => rfl
  | cons x l ih => rw [List.map_cons, outlines, h, ih]; rfl

end Markup

/-! ## What a document prescribes -/

/-- The outline of a row. -/
def Row.outline (r : Row) : Outline :=
  .mk "tr" (r.cells.map fun _ => .mk (if r.isHeader then "th" else "td") [])

/-- The outline of a table: the group of its columns, if their widths are given, and its rows. -/
def Table.outline (t : Table) : Outline :=
  .mk "table"
    ((t.columnWidths.map fun widths => .mk "colgroup" (widths.map fun _ => .mk "col" [])).toList ++
      t.rows.map Row.outline)

mutual

/-- The outline of an item: the items below it are in a list of the same kind. -/
def Item.outline (ordered : Bool) : Item → Outline
  | .mk _ children =>
    .mk "li" (if children.isEmpty then []
      else [.mk (if ordered then "ol" else "ul") (Item.outlines ordered children)])

/-- The outlines of items in order. -/
def Item.outlines (ordered : Bool) : List Item → List Outline
  | [] => []
  | next :: rest => next.outline ordered :: Item.outlines ordered rest

end

/-- The outline of a block: one element by its kind and content. -/
def Block.outline (b : Block) : Outline :=
  match b.content with
  | .text _ => .mk (Html.textName b.kind) []
  | .table t => t.outline
  | .list l =>
    .mk (if b.isOrdered then "ol" else "ul") (Item.outlines b.isOrdered l.items)
  | .empty => .mk (if b.kind = .pageBreak then "div" else "hr") []

/-- The outline of a running text, if there is one and it is wanted. -/
def RenderOptions.runningOutline (options : RenderOptions) (name : String)
    (text : Option String) : List Outline :=
  if options.includeHeaderFooter ∧ text.isSome then [.mk name []] else []

/-- The outline of the blocks in order between the running texts. -/
def Document.bodyOutline (d : Document) (options : RenderOptions) : List Outline :=
  options.runningOutline "header" d.page.header ++ d.blocks.map Block.outline ++
    options.runningOutline "footer" d.page.footer

/-- The outline of a document, in an article if the options ask for it. -/
def Document.outline (d : Document) (options : RenderOptions) : List Outline :=
  if options.wrapArticle then [.mk "article" (d.bodyOutline options)] else d.bodyOutline options

/-! ## It is the outline of the markup -/

namespace Html

variable (resolve : String → String) (options : RenderOptions)

theorem outline_textNode (kind : BlockKind) (declarations : List String) (text : String) :
    (textNode kind declarations text).outline = [.mk (textName kind) []] := by
  rw [textNode, Node.outline, outlines_textNodes]

theorem outline_rowNode (r : Row) : (rowNode resolve options r).outline = [r.outline] := by
  have cell (c : Cell) : (cellNode resolve options r.isHeader c).outline =
      [.mk (if r.isHeader then "th" else "td") []] := by
    rw [cellNode, Node.outline, outlines_textNodes, cellTag]
  rw [rowNode, Node.outline, outlines_map cell, Row.outline]

theorem outline_tableNode (declarations : List String) (t : Table) :
    (tableNode resolve options declarations t).outline = [t.outline] := by
  have column (x : Binary32) :
      (Node.void "col" [("style", "width: " ++ x.plainText ++ "%")]).outline = [.mk "col" []] := rfl
  have group : outlines (t.columnWidths.map columnsNode).toList =
      (t.columnWidths.map fun widths =>
        Outline.mk "colgroup" (widths.map fun _ => .mk "col" [])).toList := by
    cases t.columnWidths with
    | none => rfl
    | some widths => simp [columnsNode, outlines, Node.outline, outlines_map column]
  rw [tableNode, outline_of_lines, outlines_append, group,
    outlines_map (outline_rowNode resolve options), Table.outline]

theorem outline_listNode (ordering : Ordering) (start : UInt32) (declarations : List String)
    (items : List Node) : (listNode ordering start declarations items).outline =
      [.mk (if ordering.isSome then "ol" else "ul") (outlines items)] := by
  rw [listNode, outline_of_lines, listTag]

mutual

theorem outline_itemNode (ordering : Ordering) :
    (i : Item) → (itemNode resolve ordering i).outline = [i.outline ordering.isSome]
  | .mk text children => by
    have below := outline_listNode ordering 1 [] (itemNodes resolve ordering children)
    rw [outlines_itemNodes ordering children] at below
    rw [itemNode, Item.outline, Node.outline]
    split
    · rw [outlines_textNodes]
    · rw [outlines, outlines, outlines, outlines, below]
      rfl

theorem outlines_itemNodes (ordering : Ordering) :
    (l : List Item) → outlines (itemNodes resolve ordering l) =
      Item.outlines ordering.isSome l
  | [] => by rw [itemNodes, Item.outlines, outlines]
  | next :: rest => by
    rw [itemNodes, Item.outlines, outlines, outline_itemNode ordering next,
      outlines_itemNodes ordering rest]
    rfl

end

theorem outline_blockNode (styles : StyleSheet) (b : Block) :
    (blockNode resolve options styles b).outline = [b.outline] := by
  unfold blockNode Block.outline
  cases b.content with
  | text s => exact outline_textNode _ _ _
  | table t => exact outline_tableNode resolve options _ t
  | list l =>
      -- the numbering decides the marks of the items and not the tag
      have ordered : (if b.isOrdered then some (b.numbering l) else none).isSome =
          b.isOrdered := by cases b.isOrdered <;> rfl
      dsimp only
      rw [outline_listNode, outlines_itemNodes, ordered]
  | empty =>
      dsimp only [markerNode]
      cases b.kind <;> rfl

theorem outlines_runningNodes (name : String) (text : Option String) :
    outlines (runningNodes resolve options name text) = options.runningOutline name text := by
  cases text with
  | none => simp [runningNodes, RenderOptions.runningOutline, outlines]
  | some s =>
      cases wanted : options.includeHeaderFooter <;>
        simp [runningNodes, RenderOptions.runningOutline, wanted, outlines, Node.outline,
          outlines_textNodes]

theorem outlines_bodyNodes (d : Document) :
    outlines (bodyNodes resolve options d) = d.bodyOutline options := by
  rw [bodyNodes, outlines_append, outlines_append, outlines_runningNodes, outlines_runningNodes,
    outlines_map (outline_blockNode resolve options d.styles), Document.bodyOutline]

end Html

namespace Document

theorem outlines_tree (d : Document) (lex : Lexicon) (ctx : Context) (options : RenderOptions) :
    outlines (d.tree lex ctx options) = d.outline options := by
  rw [tree, Html.documentNodes, outlines_intersperse, Html.outerNodes, outline]
  split
  · rw [outlines, outline_of_lines, Html.outlines_bodyNodes]
    rfl
  · exact Html.outlines_bodyNodes _ _ _

/-- **Markup is well formed and free of injection.** Whatever the texts, values, forms and styles
of a document hold, its markup reads back as exactly the tree that it prescribes: every text node is
the resolved text, every attribute value what the document says, and the elements are those of the
outline, which no string takes part in. -/
theorem html_reads_back (d : Document) (lex : Lexicon) (ctx : Context) (options : RenderOptions) :
    read (d.html lex ctx options).toList = some (d.tree lex ctx options) ∧
      outlines (d.tree lex ctx options) = d.outline options := by
  obtain ⟨wellFormed, apart⟩ :=
    Html.wellFormed_documentNodes (Template.resolve lex ctx) options d
  refine ⟨?_, outlines_tree d lex ctx options⟩
  rw [toList_html]
  exact read_writeAll wellFormed apart

end Document

end Agreement
