/- # Agreement.Document.Table: tables

A table has at least one row, and every cell spans at least one column and one row and no more rows
than follow. `Table.make` checks both, and an edit of a cell that breaks its span is not made.
-/
import Agreement.Document.Style
import Agreement.Error

namespace Agreement

open Json.Decoder

/-- Where text stands in a cell. -/
inductive VerticalAlignment
  | top
  | middle
  | bottom
  deriving DecidableEq, Repr, Inhabited

namespace VerticalAlignment

/-- All vertical alignments. -/
def all : List VerticalAlignment := [top, middle, bottom]

/-- The name of a vertical alignment, in saved data and in declarations. -/
def name : VerticalAlignment → String
  | top => "top"
  | middle => "middle"
  | bottom => "bottom"

/-- The vertical alignment with a name. -/
def ofName? (s : String) : Option VerticalAlignment := all.find? (·.name == s)

@[simp] theorem ofName?_name (a : VerticalAlignment) : ofName? a.name = some a := by
  cases a <;> decide

end VerticalAlignment

/-- A cell of a table. -/
structure Cell where
  text : String
  colspan : UInt8 := 1
  rowspan : UInt8 := 1
  style : Option TextStyle := none
  background : Option String := none
  verticalAlignment : VerticalAlignment := .top
  deriving DecidableEq, Repr, Inhabited

namespace Cell

/-- Whether a cell spans something and ends within the table, seen from its row. -/
def spanFits (row rowCount : Nat) (c : Cell) : Bool :=
  0 < c.colspan && 0 < c.rowspan && row + c.rowspan.toNat ≤ rowCount

/-- Whether a cell spans several columns or rows. -/
def isMerged (c : Cell) : Bool := 1 < c.rowspan || 1 < c.colspan

/-- A cell in saved data. Style and background are left out when there are none. -/
def toJson (c : Cell) : Json :=
  .object <|
    [("text", .string c.text), ("colspan", .count c.colspan.toNat),
      ("rowspan", .count c.rowspan.toNat)] ++
    Json.memberIfSome "style" TextStyle.toJson c.style ++
    Json.memberIfSome "background" .string c.background ++
    [("vertical_alignment", .string c.verticalAlignment.name)]

/-- Reads a cell from saved data. -/
def decoder {ε : Type} : Json.Decoder ε Cell :=
  record { text := "" }
    [ field "text" (fun x c => { c with text := x }) string,
      optionalField "colspan" (fun x c => { c with colspan := x }) uint8,
      optionalField "rowspan" (fun x c => { c with rowspan := x }) uint8,
      optionalField "style" (fun x c => { c with style := x }) (option TextStyle.decoder),
      optionalField "background" (fun x c => { c with background := x }) (option string),
      optionalField "vertical_alignment" (fun x c => { c with verticalAlignment := x })
        (choice VerticalAlignment.ofName?) ]

end Cell

/-- A row of a table. -/
structure Row where
  cells : List Cell
  isHeader : Bool := false
  deriving DecidableEq, Repr, Inhabited

namespace Row

/-- A row of plain cells. -/
def ofTexts (texts : List String) : Row := { cells := texts.map fun s => { text := s } }

/-- How many columns cells span side by side. -/
def spannedColumns : List Cell → Nat
  | [] => 0
  | c :: cells => c.colspan.toNat + spannedColumns cells

/-- The texts of the cells with tabs between them. -/
def plainText (r : Row) : String := "\t".intercalate (r.cells.map (·.text))

/-- A row in saved data. -/
def toJson (r : Row) : Json :=
  .object [("cells", .array (r.cells.map Cell.toJson)), ("is_header", .bool r.isHeader)]

/-- Reads a row from saved data. -/
def decoder {ε : Type} : Json.Decoder ε Row :=
  record { cells := [] }
    [ field "cells" (fun x r => { r with cells := x }) (list Cell.decoder),
      optionalField "is_header" (fun x r => { r with isHeader := x }) bool ]

end Row

/-- A table. -/
structure Table where
  rows : List Row
  /-- The widths of the columns in percent. -/
  columnWidths : Option (List Binary32) := none
  deriving DecidableEq, Repr, Inhabited

namespace Table

/-- The rows with their indices, and the cells with theirs, in the order of reading. -/
def positions (rows : List Row) : List (Nat × Nat × Cell) :=
  rows.zipIdx.flatMap fun (row, r) => row.cells.zipIdx.map fun (cell, c) => (r, c, cell)

/-- A table of rows. The first cell with a span that does not fit refuses it. -/
def make (rows : List Row) (columnWidths : Option (List Binary32)) : Except Error Table :=
  if rows.isEmpty then .error .emptyTable
  else match (positions rows).find? fun (r, _, cell) => !cell.spanFits r rows.length with
    | some (r, c, _) => .error (.invalidSpan r c)
    | none => .ok { rows, columnWidths }

/-- A table of texts under a header row. -/
def withHeader (header : List String) (body : List (List String)) : Except Error Table :=
  make ({ Row.ofTexts header with isHeader := true } :: body.map Row.ofTexts) none

/-- A cell by row and index. -/
def cell? (t : Table) (row cell : Nat) : Option Cell :=
  match t.rows[row]? with
  | some r => r.cells[cell]?
  | none => none

/-- The table with a cell replaced. -/
def setCell (t : Table) (row cell : Nat) (c : Cell) : Table :=
  { t with rows := t.rows.modify row fun r => { r with cells := r.cells.set cell c } }

/-- Edits a cell. An edit after which the span does not fit is not made. -/
def updateCell (t : Table) (row cell : Nat) (edit : Cell → Cell) : Except Error Table :=
  match t.cell? row cell with
  | none => .error (.cellOutOfRange row cell)
  | some c =>
    if (edit c).spanFits row t.rows.length then .ok (t.setCell row cell (edit c))
    else .error (.invalidSpan row cell)

/-- The columns of the widest row. -/
def columnCount (t : Table) : Nat :=
  (t.rows.map fun r => Row.spannedColumns r.cells).foldl max 0

/-- The first header row. -/
def header? (t : Table) : Option Row := t.rows.find? (·.isHeader)

/-- Whether some cell spans several columns or rows. -/
def hasMergedCells (t : Table) : Bool := t.rows.any (·.cells.any Cell.isMerged)

/-- The rows as lines, with tabs between the cells. -/
def plainText (t : Table) : String := "\n".intercalate (t.rows.map Row.plainText)

/-- A table in saved data. The widths are left out when there are none. -/
def toJson (t : Table) : Json :=
  .object <|
    ("rows", .array (t.rows.map Row.toJson)) ::
    Json.memberIfSome "column_widths" (fun l => .array (l.map .measure)) t.columnWidths

/-- Reads a table from saved data; rows and spans are checked when its object ends. -/
def decoder : Json.Decoder Error Table :=
  checked
    (record { rows := [] }
      [ field "rows" (fun x (t : Table) => { t with rows := x }) (list Row.decoder),
        optionalField "column_widths" (fun x t => { t with columnWidths := x })
          (option (list measure)) ])
    fun t => make t.rows t.columnWidths

end Table

end Agreement
