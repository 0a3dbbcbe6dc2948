/- # Agreement.Proofs.Render.Prescription: the tree that a document prescribes

A document prescribes one element for each of its blocks, in order, with the running texts around
them and an article around all. Here that tree is given without a word of how it is written: texts
and attribute values are what resolution and the document say, before any escaping. The tree is
well formed whatever they hold.
-/
import Agreement.Proofs.Render.Reader
import Agreement.Render.Html

namespace Agreement

open Markup

namespace Markup

/-- The line break between elements. -/
def lineBreak : Node := .text "\n"

/-- Elements, each with a line break after it. -/
def lines (elements : List Node) : List Node := elements.flatMap fun e => [e, lineBreak]

/-- The node of a text, if it holds anything. -/
def textNodes (s : String) : List Node := if s = "" then [] else [.text s]

end Markup

namespace Html

/-! ## Attributes -/

/-- The style attribute of declarations, if there are any. -/
def styleAttributes (declarations : List String) : List Attribute :=
  if declarations.isEmpty then [] else [("style", "; ".intercalate declarations)]

/-- The direction of a text that starts left to right. -/
def directionAttributes (text : String) : List Attribute :=
  if Unicode.startsLeftToRight text.toList then [("dir", "ltr")] else []

/-- The class of the element of a text block. -/
def classAttributes (kind : BlockKind) : List Attribute :=
  if kind = .signature then [("class", "signature")] else []

/-- A span of more than one. -/
def spanAttributes (name : String) (span : UInt8) : List Attribute :=
  if 1 < span then [(name, toString span.toNat)] else []

/-- The first number of an ordered list, unless that is one. -/
def startAttributes (ordering : Ordering) (start : UInt32) : List Attribute :=
  if ordering.isSome && 1 < start then [("start", toString start.toNat)] else []

/-- The direction, language and page layout of an article. -/
def articleAttributes (p : Page) (language : String) : List Attribute :=
  [ ("dir", "rtl"),
    ("lang", language),
    ("data-page-size", p.size.name),
    ("data-orientation", p.orientation.name),
    ("data-page-width", millimetres p.dimensions.1),
    ("data-page-height", millimetres p.dimensions.2),
    ("data-margins", marginList p.margins) ]

/-! ## Elements -/

variable (resolve : String → String) (options : RenderOptions)

/-- The name of the element of a text block. -/
def textName : BlockKind → String
  | .heading1 => "h1"
  | .heading2 => "h2"
  | .heading3 => "h3"
  | .heading4 => "h4"
  | .quote => "blockquote"
  | .signature => "div"
  | _ => "p"

/-- The element of a text block. -/
def textNode (kind : BlockKind) (declarations : List String) (text : String) : Node :=
  .element (textName kind)
    (classAttributes kind ++ directionAttributes text ++
      styleAttributes (textDeclarations kind declarations))
    (textNodes text)

/-- The element of a cell. -/
def cellNode (isHeader : Bool) (c : Cell) : Node :=
  .element (cellTag isHeader)
    (spanAttributes "colspan" c.colspan ++ spanAttributes "rowspan" c.rowspan ++
      styleAttributes (cellDeclarations options isHeader c))
    (textNodes (resolve c.text))

/-- The element of a row. -/
def rowNode (r : Row) : Node :=
  .element "tr" [] (r.cells.map (cellNode resolve options r.isHeader))

/-- The group of column widths. -/
def columnsNode (widths : List Binary32) : Node :=
  .element "colgroup" []
    (widths.map fun x => .void "col" [("style", "width: " ++ x.plainText ++ "%")])

/-- The element of a table. -/
def tableNode (declarations : List String) (t : Table) : Node :=
  .element "table" (styleAttributes (declarations ++ ["border-collapse: collapse"]))
    (lineBreak ::
      lines ((t.columnWidths.map columnsNode).toList ++ t.rows.map (rowNode resolve options)))

/-- The element of a list around the elements of its items. -/
def listNode (ordering : Ordering) (start : UInt32) (declarations : List String)
    (items : List Node) : Node :=
  .element (listTag ordering)
    (startAttributes ordering start ++ styleAttributes (listDeclarations ordering ++ declarations))
    (lineBreak :: lines items)

mutual

/-- The element of an item. A list below it starts on a line of its own. -/
def itemNode (ordering : Ordering) : Item → Node
  | .mk text children =>
    .element "li" []
      (if children.isEmpty then textNodes (resolve text)
        else [.text (resolve text ++ "\n"), listNode ordering 1 [] (itemNodes ordering children),
          lineBreak])

/-- The elements of items. -/
def itemNodes (ordering : Ordering) : List Item → List Node
  | [] => []
  | next :: rest => itemNode ordering next :: itemNodes ordering rest

end

/-- The element of a page break or rule. -/
def markerNode (kind : BlockKind) (declarations : List String) : Node :=
  match kind with
  | .pageBreak =>
    .element "div" (("class", "page-break") ::
      styleAttributes (declarations ++ ["break-after: page"])) []
  | _ => .void "hr" (styleAttributes declarations)

/-- The element of a block. -/
def blockNode (styles : StyleSheet) (b : Block) : Node :=
  let declarations := b.declarations options styles
  match b.content with
  | .text s => textNode b.kind declarations (resolve s)
  | .table t => tableNode resolve options declarations t
  | .list l =>
    let ordering := if b.isOrdered then some (b.numbering l) else none
    listNode ordering l.start declarations (itemNodes resolve ordering l.items)
  | .empty => markerNode b.kind declarations

/-- The element of a running text, if there is one and it is wanted. -/
def runningNodes (name : String) (text : Option String) : List Node :=
  match text with
  | some s => if options.includeHeaderFooter then [.element name [] (textNodes (resolve s))] else []
  | none => []

/-- The elements of the running texts and blocks of a document. -/
def bodyNodes (d : Document) : List Node :=
  runningNodes resolve options "header" d.page.header ++
    d.blocks.map (blockNode resolve options d.styles) ++
    runningNodes resolve options "footer" d.page.footer

/-- The elements on the outermost level: the article around everything, if it is wanted. -/
def outerNodes (d : Document) : List Node :=
  if options.wrapArticle then
    [.element "article" (articleAttributes d.page d.metadata.language)
      (lineBreak :: lines (bodyNodes resolve options d))]
  else bodyNodes resolve options d

/-- The tree that a document prescribes, with line breaks between elements. -/
def documentNodes (d : Document) : List Node :=
  (outerNodes resolve options d).intersperse lineBreak

end Html

/-! ## The tree is well formed -/

namespace Markup

/-- A well formed node other than text. -/
structure Node.IsElement (node : Node) : Prop where
  wellFormed : node.WellFormed
  not_text : node.isText = false

variable {es : List Node}

theorem wellFormed_lineBreak : lineBreak.WellFormed := .text (by decide)

theorem wellFormed_lines (h : ∀ e ∈ es, e.IsElement) : ∀ node ∈ lines es, node.WellFormed := by
  intro node hn
  obtain ⟨e, he, one⟩ := List.mem_flatMap.mp hn
  rcases List.mem_pair.mp one with rfl | rfl
  · exact (h _ he).wellFormed
  · exact wellFormed_lineBreak

theorem areApart_of_elements (h : ∀ e ∈ es, e.IsElement) : AreApart es := by
  induction es with
  | nil => exact .nil
  | cons e es ih =>
      obtain ⟨first, rest⟩ := List.forall_mem_cons.mp h
      -- of two neighbours the first is no text
      refine List.isChain_cons.mpr ⟨fun _ _ => ?_, ih rest⟩
      simp [first.not_text]

theorem areApart_lineBreak_lines (h : ∀ e ∈ es, e.IsElement) :
    AreApart (lineBreak :: lines es) := by
  induction es with
  | nil => exact .singleton _
  | cons e es ih =>
      obtain ⟨first, rest⟩ := List.forall_mem_cons.mp h
      exact .cons_cons (by simp [first.not_text]) (.cons_cons (by simp [first.not_text]) (ih rest))

theorem wellFormed_intersperse (h : ∀ e ∈ es, e.IsElement) :
    ∀ node ∈ es.intersperse lineBreak, node.WellFormed := by
  induction es with
  | nil => simp
  | cons e es ih =>
      obtain ⟨first, rest⟩ := List.forall_mem_cons.mp h
      cases es with
      | nil => simpa using first.wellFormed
      | cons e' es =>
          rw [List.intersperse_cons_cons, List.forall_mem_cons, List.forall_mem_cons]
          exact ⟨first.wellFormed, wellFormed_lineBreak, ih rest⟩

theorem areApart_intersperse (h : ∀ e ∈ es, e.IsElement) :
    AreApart (es.intersperse lineBreak) := by
  induction es with
  | nil => exact .nil
  | cons e es ih =>
      obtain ⟨first, rest⟩ := List.forall_mem_cons.mp h
      cases es with
      | nil => exact .singleton _
      | cons e' es =>
          have second := (h e' (by simp)).not_text
          -- a line break stands before `e'`, and `e'` is no text
          have next : ((e' :: es).intersperse lineBreak).head? = some e' := by cases es <;> rfl
          refine .cons_cons (by simp [first.not_text]) (List.isChain_cons.mpr ⟨?_, ih rest⟩)
          rw [next]
          simp [second]

theorem wellFormed_textNodes (s : String) : ∀ node ∈ textNodes s, node.WellFormed := by
  unfold textNodes
  split
  · simp
  · next nonempty => simpa using .text nonempty

theorem areApart_textNodes (s : String) : AreApart (textNodes s) := by
  unfold textNodes
  split
  · exact .nil
  · exact .singleton _

/-- Attributes are sound when their names come, in order, from a list of names without repeats. -/
theorem areAttributes_of_sublist {attributes : List Attribute} {keys : List String}
    (sub : (attributes.map (·.1)).Sublist keys) (names : keys.all isName = true)
    (distinct : keys.Nodup) : AreAttributes attributes where
  names := fun a ha => List.all_eq_true.mp names a.1 (sub.subset (List.mem_map_of_mem ha))
  distinct := distinct.sublist sub

end Markup

namespace Html

theorem styleAttributes_sublist (declarations : List String) :
    ((styleAttributes declarations).map (·.1)).Sublist ["style"] := by
  unfold styleAttributes
  split <;> simp

theorem directionAttributes_sublist (text : String) :
    ((directionAttributes text).map (·.1)).Sublist ["dir"] := by
  unfold directionAttributes
  split <;> simp

theorem classAttributes_sublist (kind : BlockKind) :
    ((classAttributes kind).map (·.1)).Sublist ["class"] := by
  unfold classAttributes
  split <;> simp

theorem spanAttributes_sublist (name : String) (span : UInt8) :
    ((spanAttributes name span).map (·.1)).Sublist [name] := by
  unfold spanAttributes
  split <;> simp

theorem startAttributes_sublist (ordering : Ordering) (start : UInt32) :
    ((startAttributes ordering start).map (·.1)).Sublist ["start"] := by
  unfold startAttributes
  split <;> simp

theorem isElement_textNode (kind : BlockKind) (declarations : List String) (text : String) :
    (textNode kind declarations text).IsElement := by
  have sub : ((classAttributes kind ++ directionAttributes text ++
      styleAttributes (textDeclarations kind declarations)).map (·.1)).Sublist
        (["class"] ++ ["dir"] ++ ["style"]) := by
    rw [List.map_append, List.map_append]
    exact ((classAttributes_sublist kind).append (directionAttributes_sublist text)).append
      (styleAttributes_sublist _)
  have attributes := areAttributes_of_sublist sub (by decide) (by decide)
  have name : isName (textName kind) = true ∧ textName kind ∉ voidNames := by cases kind <;> decide
  exact ⟨.element name.1 name.2 attributes (wellFormed_textNodes text) (areApart_textNodes text),
    rfl⟩

variable (resolve : String → String) (options : RenderOptions)

theorem isElement_cellNode (isHeader : Bool) (c : Cell) :
    (cellNode resolve options isHeader c).IsElement := by
  have sub : ((spanAttributes "colspan" c.colspan ++ spanAttributes "rowspan" c.rowspan ++
      styleAttributes (cellDeclarations options isHeader c)).map (·.1)).Sublist
        (["colspan"] ++ ["rowspan"] ++ ["style"]) := by
    rw [List.map_append, List.map_append]
    exact ((spanAttributes_sublist _ _).append (spanAttributes_sublist _ _)).append
      (styleAttributes_sublist _)
  have attributes := areAttributes_of_sublist sub (by decide) (by decide)
  have name : isName (cellTag isHeader) = true ∧ cellTag isHeader ∉ voidNames := by
    cases isHeader <;> decide
  exact ⟨.element name.1 name.2 attributes (wellFormed_textNodes _) (areApart_textNodes _), rfl⟩

theorem areAttributes_nil : AreAttributes [] := ⟨by simp, by simp⟩

theorem isElement_rowNode (r : Row) : (rowNode resolve options r).IsElement := by
  have cells : ∀ node ∈ r.cells.map (cellNode resolve options r.isHeader), node.IsElement := by
    intro node hn
    obtain ⟨c, -, rfl⟩ := List.mem_map.mp hn
    exact isElement_cellNode resolve options r.isHeader c
  exact ⟨.element (by decide) (by decide) areAttributes_nil
    (fun node hn => (cells node hn).wellFormed) (areApart_of_elements cells), rfl⟩

theorem isElement_columnsNode (widths : List Binary32) : (columnsNode widths).IsElement := by
  have columns : ∀ node ∈ widths.map fun x =>
      Node.void "col" [("style", "width: " ++ x.plainText ++ "%")], node.IsElement := by
    intro node hn
    obtain ⟨x, -, rfl⟩ := List.mem_map.mp hn
    have attributes : AreAttributes [("style", "width: " ++ x.plainText ++ "%")] :=
      @areAttributes_of_sublist _ ["style"] (.refl _) (by decide) (by decide)
    exact ⟨.void (by decide) (by decide) attributes, rfl⟩
  exact ⟨.element (by decide) (by decide) areAttributes_nil
    (fun node hn => (columns node hn).wellFormed) (areApart_of_elements columns), rfl⟩

/-- An element whose children are elements on lines of their own. -/
theorem isElement_of_lines {name : String} {attributes : List Attribute} {es : List Node}
    (valid : isName name = true) (closed : name ∉ voidNames) (sound : AreAttributes attributes)
    (h : ∀ e ∈ es, e.IsElement) :
    (Node.element name attributes (lineBreak :: lines es)).IsElement := by
  refine ⟨.element valid closed sound ?_ (areApart_lineBreak_lines h), rfl⟩
  exact List.forall_mem_cons.mpr ⟨wellFormed_lineBreak, wellFormed_lines h⟩

theorem isElement_tableNode (declarations : List String) (t : Table) :
    (tableNode resolve options declarations t).IsElement := by
  have attributes := areAttributes_of_sublist
    (styleAttributes_sublist (declarations ++ ["border-collapse: collapse"])) (by decide)
    (by decide)
  apply isElement_of_lines (by decide) (by decide) attributes
  intro node hn
  rcases List.mem_append.mp hn with columns | rows
  · obtain ⟨widths, -, rfl⟩ :
        ∃ widths, t.columnWidths = some widths ∧ columnsNode widths = node := by
      simpa using columns
    exact isElement_columnsNode widths
  · obtain ⟨r, -, rfl⟩ := List.mem_map.mp rows
    exact isElement_rowNode resolve options r

theorem isElement_listNode (ordering : Ordering) (start : UInt32) (declarations : List String)
    {items : List Node} (h : ∀ e ∈ items, e.IsElement) :
    (listNode ordering start declarations items).IsElement := by
  have sub : ((startAttributes ordering start ++
      styleAttributes (listDeclarations ordering ++ declarations)).map (·.1)).Sublist
        (["start"] ++ ["style"]) := by
    rw [List.map_append]
    exact (startAttributes_sublist _ _).append (styleAttributes_sublist _)
  have attributes := areAttributes_of_sublist sub (by decide) (by decide)
  have name : isName (listTag ordering) = true ∧ listTag ordering ∉ voidNames := by
    unfold listTag
    split <;> decide
  exact isElement_of_lines name.1 name.2 attributes h

mutual

theorem isElement_itemNode (ordering : Ordering) :
    (item : Item) → (itemNode resolve ordering item).IsElement
  | .mk text children => by
    have list := isElement_listNode ordering 1 [] (isElement_itemNodes ordering children)
    rw [itemNode]
    split
    · exact ⟨.element (by decide) (by decide) areAttributes_nil (wellFormed_textNodes _)
        (areApart_textNodes _), rfl⟩
    · have nonempty : resolve text ++ "\n" ≠ "" := by simp
      refine ⟨.element (by decide) (by decide) areAttributes_nil ?_ ?_, rfl⟩
      · simpa using ⟨.text nonempty, list.wellFormed, wellFormed_lineBreak⟩
      · exact .cons_cons (by simp [list.not_text])
          (.cons_cons (by simp [list.not_text]) (.singleton _))

theorem isElement_itemNodes (ordering : Ordering) :
    (items : List Item) → ∀ node ∈ itemNodes resolve ordering items, node.IsElement
  | [] => by simp [itemNodes]
  | next :: rest => by
    rw [itemNodes]
    exact List.forall_mem_cons.mpr
      ⟨isElement_itemNode ordering next, isElement_itemNodes ordering rest⟩

end

theorem isElement_markerNode (kind : BlockKind) (declarations : List String) :
    (markerNode kind declarations).IsElement := by
  unfold markerNode
  split
  · have sub : ((("class", "page-break") ::
        styleAttributes (declarations ++ ["break-after: page"])).map (·.1)).Sublist
          ["class", "style"] := (styleAttributes_sublist _).cons_cons _
    have attributes := areAttributes_of_sublist sub (by decide) (by decide)
    exact ⟨.element (by decide) (by decide) attributes (by simp) .nil, rfl⟩
  · have attributes := areAttributes_of_sublist (styleAttributes_sublist declarations) (by decide)
      (by decide)
    exact ⟨.void (by decide) (by decide) attributes, rfl⟩

theorem isElement_blockNode (styles : StyleSheet) (b : Block) :
    (blockNode resolve options styles b).IsElement := by
  unfold blockNode
  dsimp only
  split
  · exact isElement_textNode _ _ _
  · exact isElement_tableNode resolve options _ _
  · exact isElement_listNode _ _ _ (isElement_itemNodes resolve _ _)
  · exact isElement_markerNode _ _

theorem isElement_runningNodes {name : String} (valid : isName name = true)
    (closed : name ∉ voidNames) (text : Option String) :
    ∀ node ∈ runningNodes resolve options name text, node.IsElement := by
  intro node hn
  unfold runningNodes at hn
  split at hn
  · split at hn
    · obtain rfl := List.mem_singleton.mp hn
      exact ⟨.element valid closed areAttributes_nil (wellFormed_textNodes _)
        (areApart_textNodes _), rfl⟩
    · cases hn
  · cases hn

theorem isElement_bodyNodes (d : Document) :
    ∀ node ∈ bodyNodes resolve options d, node.IsElement := by
  intro node hn
  simp only [bodyNodes, List.mem_append, List.mem_map] at hn
  rcases hn with (header | ⟨b, -, rfl⟩) | footer
  · exact isElement_runningNodes resolve options (by decide) (by decide) _ node header
  · exact isElement_blockNode resolve options d.styles b
  · exact isElement_runningNodes resolve options (by decide) (by decide) _ node footer

theorem isElement_outerNodes (d : Document) :
    ∀ node ∈ outerNodes resolve options d, node.IsElement := by
  have body := isElement_bodyNodes resolve options d
  unfold outerNodes
  split
  · have attributes : AreAttributes (articleAttributes d.page d.metadata.language) :=
      @areAttributes_of_sublist _
        ["dir", "lang", "data-page-size", "data-orientation", "data-page-width",
          "data-page-height", "data-margins"] (.refl _) (by decide) (by decide)
    have article := @isElement_of_lines "article" _ _ (by decide) (by decide) attributes body
    simpa using article
  · exact body

/-- The tree of a document can be read back, whatever the document says. -/
theorem wellFormed_documentNodes (d : Document) :
    (∀ node ∈ documentNodes resolve options d, node.WellFormed) ∧
      AreApart (documentNodes resolve options d) := by
  have outer := isElement_outerNodes resolve options d
  exact ⟨wellFormed_intersperse outer, areApart_intersperse outer⟩

end Html

end Agreement
