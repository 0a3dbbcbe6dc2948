/- # Agreement.Proofs.Render.Html: markup is the tree that a document prescribes

Markup is put together from strings, each text and each free value through `escaped`. Every part
of it is the written form of a part of the prescribed tree, so the whole reads back as that tree.
Numbers and names go in as they are, since they hold no special character.
-/
import Agreement.Proofs.Number.Text
import Agreement.Proofs.Render.Prescription

namespace Agreement

open Markup

namespace Markup

/-! ## Writing -/

@[simp] theorem toList_escaped (s : String) : (escaped s).toList = escape s.toList := by
  simp [escaped]

theorem escape_append (a b : List Char) : escape (a ++ b) = escape a ++ escape b :=
  List.flatMap_append

/-- Text without special characters is written as it is. -/
theorem escape_of_plain {text : List Char} (h : ∀ c ∈ text, isSpecial c = false) :
    escape text = text := by
  induction text with
  | nil => rfl
  | cons c text ih =>
      obtain ⟨first, rest⟩ := List.forall_mem_cons.mp h
      have one : escapeChar c = [c] := by
        simp only [isSpecial, Bool.or_eq_false_iff, beq_eq_false_iff_ne] at first
        obtain ⟨⟨⟨⟨amp, lt⟩, gt⟩, quot⟩, apos⟩ := first
        simp [escapeChar, amp, lt, gt, quot, apos]
      rw [escape, List.flatMap_cons, one]
      exact congrArg _ (ih rest)

theorem writeAll_append (a b : List Node) : writeAll (a ++ b) = writeAll a ++ writeAll b := by
  induction a with
  | nil => simp [writeAll]
  | cons node a ih => simp [writeAll, ih]

theorem write_lineBreak : lineBreak.write = ['\n'] := rfl

theorem writeAll_textNodes (s : String) : writeAll (textNodes s) = escape s.toList := by
  unfold textNodes
  split
  · next empty => rw [empty]; rfl
  · simp [writeAll, Node.write]

theorem writeAll_lines (es : List Node) :
    writeAll (lines es) = es.flatMap fun e => e.write ++ ['\n'] := by
  induction es with
  | nil => rfl
  | cons e es ih =>
      rw [lines, List.flatMap_cons, List.flatMap_cons, writeAll_append]
      have rest := ih
      rw [lines] at rest
      rw [rest]
      simp [writeAll, write_lineBreak]

theorem writeAll_eq_flatMap (nodes : List Node) : writeAll nodes = nodes.flatMap Node.write := by
  induction nodes with
  | nil => rfl
  | cons node nodes ih => rw [writeAll, ih, List.flatMap_cons]

end Markup

/-! ## What needs no escaping -/

/-- The characters of numbers. -/
def isNumeral (c : Char) : Bool :=
  c.isDigit || ['-', '.', 'i', 'n', 'f', 'N', 'a'].contains c

theorem isSpecial_of_isNumeral {c : Char} (h : isNumeral c = true) : isSpecial c = false := by
  cases special : isSpecial c with
  | false => rfl
  | true =>
      simp only [isSpecial, Bool.or_eq_true, beq_iff_eq] at special
      obtain (((rfl | rfl) | rfl) | rfl) | rfl := special <;> exact absurd h (by decide)

theorem isNumeral_of_mem_digits {n : Nat} {c : Char} (h : c ∈ Nat.toDigits 10 n) :
    isNumeral c = true := by
  have digit := Nat.isDigit_of_mem_toDigits (by decide) (by decide) h
  simp [isNumeral, digit]

theorem isNumeral_of_mem_positional {x : Number.Decimal} {c : Char} (h : c ∈ x.positional) :
    isNumeral c = true := by
  rcases Number.isDigit_or_eq_point_of_mem_positional h with digit | rfl
  · rw [isNumeral, digit, Bool.true_or]
  · decide

/-- A measure holds no special character. -/
theorem isNumeral_of_mem_plainText {x : Binary32} {c : Char} (h : c ∈ x.plainText.toList) :
    isNumeral c = true := by
  have word {s : List Char} (known : s.all isNumeral = true) (member : c ∈ s) :
      isNumeral c = true := List.all_eq_true.mp known c member
  rw [Binary32.plainText, String.toList_ofList] at h
  split at h
  · exact word (by decide) h
  · rcases List.mem_append.mp h with sign | h
    · unfold Binary32.sign at sign
      split at sign
      · exact word (by decide) sign
      · cases sign
    · split at h
      · exact word (by decide) h
      · split at h
        · exact word (by decide) h
        · exact isNumeral_of_mem_positional h

theorem escape_plainText (x : Binary32) : escape x.plainText.toList = x.plainText.toList :=
  escape_of_plain fun _ h => isSpecial_of_isNumeral (isNumeral_of_mem_plainText h)

theorem escape_digits (n : Nat) : escape (Nat.toDigits 10 n) = Nat.toDigits 10 n :=
  escape_of_plain fun _ h => isSpecial_of_isNumeral (isNumeral_of_mem_digits h)

theorem escape_millimetres (x : Binary32) :
    escape (Html.millimetres x).toList = (Html.millimetres x).toList := by
  rw [Html.millimetres, String.toList_append, escape_append, escape_plainText]
  rfl

theorem escape_marginList (m : Margins) :
    escape (Html.marginList m).toList = (Html.marginList m).toList := by
  have space : escape " ".toList = " ".toList := rfl
  simp only [Html.marginList, List.map_cons, List.map_nil, String.toList_intercalate,
    List.intercalate_cons_cons, List.intercalate_singleton, escape_append, escape_millimetres,
    space]

theorem escape_sizeName (size : PageSize) : escape size.name.toList = size.name.toList := by
  cases size <;> (rw [PageSize.name]; rfl)

theorem escape_orientationName (o : Orientation) : escape o.name.toList = o.name.toList := by
  cases o <;> rfl

namespace Html

/-! ## Attributes -/

/-- What attributes are written as. -/
abbrev written (attributes : List Attribute) : List Char := attributes.flatMap writeAttribute

theorem toList_styleAttribute (declarations : List String) :
    (styleAttribute declarations).toList = written (styleAttributes declarations) := by
  unfold styleAttribute styleAttributes
  split
  · rfl
  · simp [writeAttribute]

theorem toList_direction (text : String) :
    (direction text).toList = written (directionAttributes text) := by
  unfold direction directionAttributes
  split <;> rfl

theorem toList_spanAttribute (name : String) (span : UInt8) :
    (spanAttribute name span).toList = written (spanAttributes name span) := by
  unfold spanAttribute spanAttributes
  split
  · simp [writeAttribute, escape_digits]
  · rfl

theorem toList_startAttribute (ordering : Ordering) (start : UInt32) :
    (startAttribute ordering start).toList = written (startAttributes ordering start) := by
  unfold startAttribute startAttributes
  split
  · simp [writeAttribute, escape_digits]
  · rfl

/-! ## Elements -/

variable (resolve : String → String) (options : RenderOptions)

theorem toList_textTags (kind : BlockKind) :
    (textTags kind).1.toList =
        '<' :: ((textName kind).toList ++ written (classAttributes kind)) ∧
      (textTags kind).2.toList = closeTag (textName kind) := by
  cases kind <;> exact ⟨rfl, rfl⟩

theorem toList_textBlock (kind : BlockKind) (declarations : List String) (text : String) :
    (textBlock kind declarations text).toList =
      (textNode kind declarations text).write ++ ['\n'] := by
  obtain ⟨opens, closes⟩ := toList_textTags kind
  simp [textBlock, textNode, Node.write, openTag, opens, closes, toList_direction,
    toList_styleAttribute, writeAll_textNodes]

theorem toList_cell (isHeader : Bool) (c : Cell) :
    (cell resolve options isHeader c).toList = (cellNode resolve options isHeader c).write := by
  simp [cell, cellNode, Node.write, openTag, closeTag, toList_spanAttribute,
    toList_styleAttribute, writeAll_textNodes]

theorem toList_row (r : Row) :
    (row resolve options r).toList = (rowNode resolve options r).write ++ ['\n'] := by
  simp [row, rowNode, Node.write, openTag, closeTag, writeAll_eq_flatMap, String.toList_join,
    List.flatMap_map, toList_cell]

theorem toList_columns (widths : List Binary32) :
    (columns widths).toList = (columnsNode widths).write ++ ['\n'] := by
  have column (x : Binary32) : ("<col style=\"width: " ++ x.plainText ++ "%\">").toList =
      (Node.void "col" [("style", "width: " ++ x.plainText ++ "%")]).write := by
    -- the width goes in as it is, so it must be its own escaped form
    have value : escape ("width: " ++ x.plainText ++ "%").toList =
        ("width: " ++ x.plainText ++ "%").toList := by
      rw [String.toList_append, String.toList_append, escape_append, escape_append,
        escape_plainText]
      rfl
    rw [Node.write, openTag, List.flatMap_singleton, writeAttribute, value]
    simp
  simp only [columns, columnsNode, Node.write, openTag, closeTag, writeAll_eq_flatMap,
    String.toList_append, String.toList_join, List.flatMap_map, column]
  simp

/-- The written form of an element whose children stand on lines of their own. -/
theorem write_of_lines (name : String) (attributes : List Attribute) (es : List Node) :
    (Node.element name attributes (lineBreak :: lines es)).write =
      openTag name attributes ++
        ('\n' :: (es.flatMap (fun e => e.write ++ ['\n']) ++ closeTag name)) := by
  simp [Node.write, writeAll, write_lineBreak, writeAll_lines]

theorem toList_table (declarations : List String) (t : Table) :
    (table resolve options declarations t).toList =
      (tableNode resolve options declarations t).write ++ ['\n'] := by
  have group : ((t.columnWidths.map columns).getD "").toList =
      (t.columnWidths.map columnsNode).toList.flatMap fun e => e.write ++ ['\n'] := by
    cases t.columnWidths with
    | none => rfl
    | some widths => simpa using toList_columns widths
  rw [tableNode, write_of_lines]
  simp [table, openTag, closeTag, toList_styleAttribute, String.toList_join, List.flatMap_map,
    toList_row, group]

theorem toList_list (ordering : Ordering) (start : UInt32) (declarations : List String)
    {items : String} {es : List Node}
    (h : items.toList = es.flatMap fun e => e.write ++ ['\n']) :
    (list ordering start declarations items).toList =
      (listNode ordering start declarations es).write ++ ['\n'] := by
  rw [listNode, write_of_lines]
  simp [list, openTag, closeTag, toList_startAttribute, toList_styleAttribute, h]

mutual

theorem toList_item (ordering : Ordering) :
    (i : Item) → (item resolve ordering i).toList = (itemNode resolve ordering i).write ++ ['\n']
  | .mk text children => by
    -- the list below is there in both cases, and written in one of them
    have below := toList_list ordering 1 [] (toList_items ordering children)
    rw [item, itemNode]
    split
    · simp [Node.write, openTag, closeTag, writeAll_textNodes]
    · have line_break : escape ['\n'] = ['\n'] := rfl
      simp [Node.write, openTag, closeTag, writeAll, write_lineBreak, escape_append, line_break,
        below]

theorem toList_items (ordering : Ordering) :
    (l : List Item) → (items resolve ordering l).toList =
      (itemNodes resolve ordering l).flatMap fun e => e.write ++ ['\n']
  | [] => by simp [items, itemNodes]
  | next :: rest => by
    rw [items, itemNodes, List.flatMap_cons, String.toList_append, toList_item ordering next,
      toList_items ordering rest]

end

theorem toList_marker (kind : BlockKind) (declarations : List String) :
    (marker kind declarations).toList = (markerNode kind declarations).write ++ ['\n'] := by
  unfold marker markerNode
  split
  · have of_class : writeAttribute ("class", "page-break") = " class=\"page-break\"".toList := rfl
    simp [Node.write, openTag, closeTag, writeAll, toList_styleAttribute, of_class]
  · simp [Node.write, openTag, toList_styleAttribute]

/-- A block is written as its element on lines of its own. -/
theorem toList_block (styles : StyleSheet) (b : Block) :
    (block resolve options styles b).toList =
      (blockNode resolve options styles b).write ++ ['\n'] := by
  unfold block blockNode
  cases b.content with
  | text s => exact toList_textBlock _ _ _
  | table t => exact toList_table resolve options _ t
  | list l => exact toList_list _ _ _ (toList_items resolve _ l.items)
  | empty => exact toList_marker _ _

theorem toList_runningText (tag : String) (text : Option String) :
    (runningText resolve options tag text).toList =
      (runningNodes resolve options tag text).flatMap fun e => e.write ++ ['\n'] := by
  unfold runningText runningNodes
  split
  · split
    · simp [Node.write, openTag, closeTag, writeAll_textNodes]
    · rfl
  · rfl

theorem toList_articleOpen (p : Page) (language : String) :
    (articleOpen p language).toList =
      openTag "article" (articleAttributes p language) ++ ['\n'] := by
  have direction : escape "rtl".toList = "rtl".toList := rfl
  unfold articleOpen articleAttributes
  simp only [openTag, writeAttribute, direction, escape_millimetres, escape_sizeName,
    escape_orientationName, escape_marginList, List.flatMap_cons, List.flatMap_nil,
    String.toList_append, toList_escaped]
  simp

/-! ## A whole document -/

/-- The elements of a document, each on lines of its own. -/
theorem toList_body (d : Document) :
    (runningText resolve options "header" d.page.header ++
        String.join ((d.blocks.zip d.keepAll).map fun p =>
          blockWith resolve options d.styles p.1 p.2) ++
        runningText resolve options "footer" d.page.footer).toList =
      (bodyNodes resolve options d).flatMap fun e => e.write ++ ['\n'] := by
  simp only [bodyNodes, String.toList_append, toList_runningText, String.toList_join,
    d.zip_keepAll, List.map_map, List.flatMap_map, List.flatMap_append, Function.comp_apply,
    blockWith, toList_block]

theorem toList_document (d : Document) :
    (document resolve options d d.keepAll).toList =
      (outerNodes resolve options d).flatMap fun e => e.write ++ ['\n'] := by
  unfold document outerNodes
  dsimp only
  split
  · rw [List.flatMap_singleton, write_of_lines, ← toList_body, String.toList_append,
      String.toList_append, toList_articleOpen]
    simp [closeTag]
  · exact toList_body resolve options d

end Html

namespace Markup

/-- An element ends with the end of a tag. -/
theorem Node.IsElement.write_eq {node : Node} (h : node.IsElement) :
    ∃ front, node.write = front ++ ['>'] := by
  obtain ⟨-, not_text⟩ := h
  cases node with
  | text s => cases not_text
  | element name attributes children =>
      exact ⟨openTag name attributes ++ (writeAll children ++ '<' :: '/' :: name.toList), by
        simp [Node.write, closeTag]⟩
  | void name attributes =>
      exact ⟨'<' :: (name.toList ++ attributes.flatMap writeAttribute), by
        simp [Node.write, openTag]⟩

/-- Trimming takes off the last line break alone. -/
theorem trimRight_line (front : List Char) :
    Text.trimRight (front ++ ['>'] ++ ['\n']) = front ++ ['>'] := by
  have blank : Unicode.isSpace '\n' = true := by decide
  have visible : Unicode.isSpace '>' = false := by decide
  simp [Text.trimRight, blank, visible]

/-- Elements on lines of their own, without the last line break. -/
theorem trimRight_lines {es : List Node} (h : ∀ e ∈ es, e.IsElement) :
    Text.trimRight (es.flatMap fun e => e.write ++ ['\n']) =
      writeAll (es.intersperse lineBreak) := by
  -- both are the same text up to the end of the last tag
  have split (nonempty : es ≠ []) : ∃ front,
      (es.flatMap fun e => e.write ++ ['\n']) = front ++ ['>'] ++ ['\n'] ∧
        writeAll (es.intersperse lineBreak) = front ++ ['>'] := by
    induction es with
    | nil => exact absurd rfl nonempty
    | cons e es ih =>
        obtain ⟨first, rest⟩ := List.forall_mem_cons.mp h
        obtain ⟨front, write_eq⟩ := first.write_eq
        cases es with
        | nil => exact ⟨front, by simp [write_eq], by simp [writeAll, write_eq]⟩
        | cons e' es =>
            obtain ⟨back, lines_eq, between_eq⟩ := ih rest (List.cons_ne_nil _ _)
            refine ⟨e.write ++ '\n' :: back, ?_, ?_⟩
            · rw [List.flatMap_cons, lines_eq]
              simp
            · rw [List.intersperse_cons_cons, writeAll, writeAll, between_eq, write_lineBreak]
              simp
  rcases List.eq_nil_or_concat es with rfl | ⟨front, last, rfl⟩
  · rfl
  · obtain ⟨front, lines_eq, between_eq⟩ := split (by simp)
    rw [lines_eq, between_eq, trimRight_line]

end Markup

namespace Document

/-- The tree that a document prescribes. -/
def tree (d : Document) (lex : Lexicon) (ctx : Context) (options : RenderOptions) : List Node :=
  Html.documentNodes (Template.resolve lex ctx) options d

/-- The markup of a document is the written form of its tree. -/
theorem toList_html (d : Document) (lex : Lexicon) (ctx : Context) (options : RenderOptions) :
    (d.html lex ctx options).toList = writeAll (d.tree lex ctx options) := by
  rw [html, htmlWith, String.toList_ofList, Html.toList_document]
  exact trimRight_lines (Html.isElement_outerNodes _ _ _)

end Document

end Agreement
