/- # Agreement.Render.Visit: a say in rendering

Options say how a document is rendered. Before a block is rendered, visitors are told about it. A
visitor may leave the block alone, put other markup in its place or drop it. Of several visitors the
first one that does not leave it alone decides, and those after it are not asked. Visitors may keep
a state of their own.
-/
import Agreement.Document.Basic
import Agreement.Template.Resolution

namespace Agreement

/-- How a document is rendered. -/
structure RenderOptions where
  /-- The step of indentation in pixels. -/
  indentPx : UInt32 := 24
  /-- Whether an article element with the page layout goes around the blocks. -/
  wrapArticle : Bool := true
  /-- Whether the running texts of the page are written. -/
  includeHeaderFooter : Bool := true
  /-- The background of cells in header rows that have none of their own. -/
  headerBackground : Option String := some "#f2f2f2"
  /-- The mark of unordered items in plain text. -/
  listMarker : Char := '•'
  /-- Whether a rendering counts what it writes. -/
  collectStatistics : Bool := false
  deriving DecidableEq, Repr

/-- What a visitor is told about a block. Texts have been resolved; tables and lists have not. -/
inductive Visit
  | heading (level : Nat) (text : String)
  /-- A paragraph, quote or signature. -/
  | text (kind : BlockKind) (text : String)
  | table (t : Table)
  | list (l : ItemList) (ordered : Bool)
  /-- A page break or rule. -/
  | marker (kind : BlockKind)
  deriving DecidableEq, Repr

/-- What becomes of a block. -/
inductive Action
  | keep
  | replace (markup : String)
  | skip
  deriving DecidableEq, Repr, Inhabited

/-- A visitor with a state. -/
abbrev Visitor (σ : Type) := Visit → StateM σ Action

namespace Visitor

/-- Asks visitors in order until one does not leave the block alone. -/
def first {σ : Type} : List (Visitor σ) → Visitor σ
  | [], _ => return .keep
  | v :: rest, visit => do
    match ← v visit with
    | .keep => first rest visit
    | action => return action

end Visitor

namespace Block

/-- Whether a block is an ordered list. -/
def isOrdered (b : Block) : Bool := b.kind == .numberedList

/-- What visitors are told about a block. -/
def visit (lex : Lexicon) (ctx : Context) (b : Block) : Visit :=
  match b.content with
  | .text s =>
    let resolved := Template.resolve lex ctx s
    match b.kind.headingLevel? with
    | some level => .heading level resolved
    | none => .text b.kind resolved
  | .table t => .table t
  | .list l => .list l b.isOrdered
  | .empty => .marker b.kind

end Block

namespace Document

/-- What a visitor decides about each block. -/
def decide {σ : Type} (d : Document) (lex : Lexicon) (ctx : Context) (v : Visitor σ) :
    StateM σ (List Action) :=
  d.blocks.mapM fun b => v (b.visit lex ctx)

/-- The decisions that leave every block alone. -/
def keepAll (d : Document) : List Action := d.blocks.map fun _ => .keep

/-- Without a visitor every block is kept. -/
theorem zip_keepAll (d : Document) :
    d.blocks.zip d.keepAll = d.blocks.map fun b => (b, .keep) :=
  List.map_prod_left_eq_zip.symm

end Document

end Agreement
