/- # Agreement.Document.Block: blocks

A document is a sequence of blocks. The kind of a block says which content it holds: text, a table,
a list or nothing. `Block.make` checks that, and so does every change of the content.
-/
import Agreement.Document.ItemList
import Agreement.Document.Table

namespace Agreement

open Json.Decoder

/-- The four kinds of content. -/
inductive ContentType
  | text
  | table
  | list
  | empty
  deriving DecidableEq, Repr, Inhabited

namespace ContentType

/-- All content types. -/
def all : List ContentType := [text, table, list, empty]

/-- The name of a content type. -/
def name : ContentType → String
  | text => "text"
  | table => "table"
  | list => "list"
  | empty => "empty"

/-- The content type with a name. -/
def ofName? (s : String) : Option ContentType := all.find? (·.name == s)

@[simp] theorem ofName?_name (t : ContentType) : ofName? t.name = some t := by cases t <;> decide

end ContentType

/-- The kind of a block. -/
inductive BlockKind
  | paragraph
  | heading1
  | heading2
  | heading3
  | heading4
  | bulletedList
  | numberedList
  | table
  /-- Text whose line breaks are kept. -/
  | signature
  | pageBreak
  | rule
  /-- Indented or quoted text. -/
  | quote
  deriving DecidableEq, Repr, Inhabited

namespace BlockKind

/-- All kinds, in the order in which style sheets list them. -/
def all : List BlockKind :=
  [paragraph, heading1, heading2, heading3, heading4, bulletedList, numberedList, table,
    signature, pageBreak, rule, quote]

/-- The place of a kind in that order. -/
def rank : BlockKind → Nat
  | paragraph => 0
  | heading1 => 1
  | heading2 => 2
  | heading3 => 3
  | heading4 => 4
  | bulletedList => 5
  | numberedList => 6
  | table => 7
  | signature => 8
  | pageBreak => 9
  | rule => 10
  | quote => 11

/-- The name of a kind. -/
def name : BlockKind → String
  | paragraph => "paragraph"
  | heading1 => "heading1"
  | heading2 => "heading2"
  | heading3 => "heading3"
  | heading4 => "heading4"
  | bulletedList => "bulleted_list"
  | numberedList => "numbered_list"
  | table => "table"
  | signature => "signature"
  | pageBreak => "page_break"
  | rule => "rule"
  | quote => "quote"

/-- The kind with a name. -/
def ofName? (s : String) : Option BlockKind := all.find? (·.name == s)

@[simp] theorem ofName?_name (k : BlockKind) : ofName? k.name = some k := by cases k <;> decide

theorem rank_injective {a b : BlockKind} (h : a.rank = b.rank) : a = b := by
  cases a <;> cases b <;> simp_all [rank]

instance : LT BlockKind := ⟨fun a b => a.rank < b.rank⟩

instance : DecidableLT BlockKind := fun a b => inferInstanceAs (Decidable (a.rank < b.rank))

instance : Trans (α := BlockKind) (· < ·) (· < ·) (· < ·) where
  trans h g := Nat.lt_trans h g

instance : Std.Trichotomous (α := BlockKind) (· < ·) where
  trichotomous _ _ h g := rank_injective (Nat.le_antisymm (Nat.not_lt.1 g) (Nat.not_lt.1 h))

/-- The heading of a level from 1 to 4. -/
def heading (level : Nat) : Except Error BlockKind :=
  match level with
  | 1 => .ok heading1
  | 2 => .ok heading2
  | 3 => .ok heading3
  | 4 => .ok heading4
  | _ => .error (.invalidHeadingLevel level)

/-- The level of a heading. -/
def headingLevel? : BlockKind → Option Nat
  | heading1 => some 1
  | heading2 => some 2
  | heading3 => some 3
  | heading4 => some 4
  | _ => none

/-- The content that a kind holds. -/
def contentType : BlockKind → ContentType
  | table => .table
  | bulletedList => .list
  | numberedList => .list
  | pageBreak => .empty
  | rule => .empty
  | _ => .text

end BlockKind

/-- The content of a block. -/
inductive Content
  /-- Text, which may hold placeholders. -/
  | text (s : String)
  | table (t : Table)
  | list (l : ItemList)
  | empty
  deriving DecidableEq, Repr, Inhabited

namespace Content

/-- The type of a content. -/
def type : Content → ContentType
  | text _ => .text
  | table _ => .table
  | list _ => .list
  | empty => .empty

/-- Content in saved data: its type, and its value unless it is empty. -/
def toJson (c : Content) : Json :=
  .object <| ("type", .string c.type.name) :: match c with
    | text s => [("value", .string s)]
    | table t => [("value", t.toJson)]
    | list l => [("value", l.toJson)]
    | empty => []

/-- Reads the value of a content of a type. -/
def valueDecoder : ContentType → Json.Decoder Error Content
  | .text => string.map text
  | .table => Table.decoder.map table
  | .list => ItemList.decoder.map list
  | .empty => nothing.map fun _ => empty

/-- Reads a content from saved data. Empty content does without a value, and may have `null`. -/
def decoder : Json.Decoder Error Content :=
  tagged "type" "value" ContentType.ofName? valueDecoder fun
    | .empty => some empty
    | _ => none

end Content

/-- How a block is placed on the page. -/
structure Placement where
  indentLevel : UInt8 := 0
  /-- The space above in points, instead of the one that the kind has. -/
  marginTop : Option Binary32 := none
  marginBottom : Option Binary32 := none
  /-- The numbering of an ordered list, instead of its own. -/
  listStyle : Option Numbering := none
  pageBreakBefore : Bool := false
  keepWithNext : Bool := false
  deriving DecidableEq, Repr, Inhabited

namespace Placement

/-- A placement in saved data. -/
def toJson (p : Placement) : Json :=
  .object
    [ ("indent_level", .count p.indentLevel.toNat),
      ("margin_top", .ofOption .measure p.marginTop),
      ("margin_bottom", .ofOption .measure p.marginBottom),
      ("list_style", .ofOption (fun s => .string s.name) p.listStyle),
      ("page_break_before", .bool p.pageBreakBefore),
      ("keep_with_next", .bool p.keepWithNext) ]

/-- Reads a placement from saved data. -/
def decoder {ε : Type} : Json.Decoder ε Placement :=
  record {}
    [ optionalField "indent_level" (fun x p => { p with indentLevel := x }) uint8,
      optionalField "margin_top" (fun x p => { p with marginTop := x }) (option measure),
      optionalField "margin_bottom" (fun x p => { p with marginBottom := x }) (option measure),
      optionalField "list_style" (fun x p => { p with listStyle := x })
        (option (choice Numbering.ofName?)),
      optionalField "page_break_before" (fun x p => { p with pageBreakBefore := x }) bool,
      optionalField "keep_with_next" (fun x p => { p with keepWithNext := x }) bool ]

end Placement

/-- A block of a document. -/
structure Block where
  /-- The identifier that the document gave; zero before that. -/
  id : UInt64 := 0
  kind : BlockKind
  content : Content
  style : Option TextStyle := none
  placement : Placement := {}
  deriving DecidableEq, Repr, Inhabited

namespace Block

/-- Whether content is what a kind holds. -/
def fits (kind : BlockKind) (content : Content) : Bool := kind.contentType == content.type

/-- Refuses content that a kind does not hold. -/
def check (kind : BlockKind) (content : Content) : Except Error Unit :=
  if fits kind content then .ok ()
  else .error (.contentMismatch kind.name content.type.name)

/-- A block of a kind with content. -/
def make (kind : BlockKind) (content : Content) : Except Error Block :=
  (check kind content).map fun _ => { kind, content }

/-- A paragraph. -/
def paragraph (text : String) : Block := { kind := .paragraph, content := .text text }

/-- A heading of a level from 1 to 4. -/
def heading (level : Nat) (text : String) : Except Error Block :=
  (BlockKind.heading level).map fun kind => { kind, content := .text text }

/-- A table. -/
def table (t : Table) : Block := { kind := .table, content := .table t }

/-- An unordered list. -/
def bulletedList (l : ItemList) : Block := { kind := .bulletedList, content := .list l }

/-- An ordered list. -/
def numberedList (l : ItemList) : Block := { kind := .numberedList, content := .list l }

/-- A signature. -/
def signature (text : String) : Block := { kind := .signature, content := .text text }

/-- A page break. -/
def pageBreak : Block := { kind := .pageBreak, content := .empty }

/-- A horizontal rule. -/
def rule : Block := { kind := .rule, content := .empty }

/-- An indented quotation. -/
def quote (text : String) : Block := { kind := .quote, content := .text text }

/-- The text of a block that holds text. -/
def text? (b : Block) : Option String :=
  match b.content with
  | .text s => some s
  | _ => none

/-- The table of a block that holds one. -/
def table? (b : Block) : Option Table :=
  match b.content with
  | .table t => some t
  | _ => none

/-- The list of a block that holds one. -/
def list? (b : Block) : Option ItemList :=
  match b.content with
  | .list l => some l
  | _ => none

/-- A change of a block in its place. Kind and identifier stay. -/
inductive Edit
  | style (s : Option TextStyle)
  | content (c : Content)
  | placement (p : Placement)
  deriving DecidableEq, Repr

/-- The block after a change, which content of the wrong type refuses. -/
def edit (b : Block) : Edit → Except Error Block
  | .style s => .ok { b with style := s }
  | .content c => (check b.kind c).map fun _ => { b with content := c }
  | .placement p => .ok { b with placement := p }

/-- A block in saved data. The style is left out when there is none. -/
def toJson (b : Block) : Json :=
  .object <|
    [("id", .count b.id.toNat), ("kind", .string b.kind.name), ("content", b.content.toJson)] ++
    Json.memberIfSome "style" TextStyle.toJson b.style ++
    [("metadata", b.placement.toJson)]

/-- Reads a block from saved data; kind and content are compared when its object ends. -/
def decoder : Json.Decoder Error Block :=
  checked
    (record { kind := .paragraph, content := .empty }
      [ optionalField "id" (fun x (b : Block) => { b with id := x }) uint64,
        field "kind" (fun x b => { b with kind := x }) (choice BlockKind.ofName?),
        field "content" (fun x b => { b with content := x }) Content.decoder,
        optionalField "style" (fun x b => { b with style := x }) (option TextStyle.decoder),
        optionalField "metadata" (fun x b => { b with placement := x }) Placement.decoder ])
    fun b => (check b.kind b.content).map fun _ => b

end Block

end Agreement
