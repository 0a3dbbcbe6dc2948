/- # Agreement.Document.Basic: documents

A document is a sequence of blocks with page layout, a style sheet and a title page of data. Every
block gets an identifier when it comes in and keeps it; identifiers are not used twice. Every
change of the sequence takes the time at which it is made.
-/
import Agreement.SortedMap
import Agreement.Document.Block
import Agreement.Document.Page
import Agreement.Document.Timestamp

namespace Agreement

open Json.Decoder

/-- What blocks of a kind look like unless they say otherwise. -/
structure Defaults where
  style : TextStyle := {}
  /-- The space above in points. -/
  marginTop : Binary32 := 0
  marginBottom : Binary32 := 0
  deriving DecidableEq, Repr, Inhabited

namespace Defaults

/-- Defaults in saved data. -/
def toJson (d : Defaults) : Json :=
  .object [("style", d.style.toJson), ("margin_top", .measure d.marginTop),
    ("margin_bottom", .measure d.marginBottom)]

/-- Reads defaults from saved data. -/
def decoder {ε : Type} : Json.Decoder ε Defaults :=
  record {}
    [ optionalField "style" (fun x d => { d with style := x }) TextStyle.decoder,
      optionalField "margin_top" (fun x d => { d with marginTop := x }) measure,
      optionalField "margin_bottom" (fun x d => { d with marginBottom := x }) measure ]

end Defaults

/-- The defaults of the kinds that have any. -/
abbrev StyleSheet := SortedMap BlockKind Defaults

namespace StyleSheet

/-- The defaults of a kind. -/
def defaultsOf (s : StyleSheet) (kind : BlockKind) : Defaults := (s.get? kind).getD {}

/-- The defaults of a heading. -/
def heading (size top bottom : Binary32) : Defaults :=
  ⟨{ bold := some true, fontSize := some size }, top, bottom⟩

/-- The style sheet that documents start with. -/
def standard : StyleSheet :=
  .ofList
    [ (.paragraph, ⟨{ alignment := some .justify }, 0, 8⟩),
      (.heading1, heading 18 18 12),
      (.heading2, heading 16 14 10),
      (.heading3, heading 14 12 8),
      (.heading4, heading 12 10 6),
      (.quote, ⟨{ italic := some true }, 6, 6⟩),
      (.signature, ⟨{}, 24, 8⟩) ]

/-- A style sheet in saved data. -/
def toJson (s : StyleSheet) : Json :=
  .object (s.entries.map fun p => (p.1.name, p.2.toJson))

/-- Reads a style sheet from saved data; of two entries for one kind the later counts. -/
def decoder {ε : Type} : Json.Decoder ε StyleSheet :=
  (bindings
    (fun name => match BlockKind.ofName? name with
      | some kind => .ok kind
      | none => .error .mismatch)
    Defaults.decoder).map SortedMap.ofList

end StyleSheet

/-- The title page of a document. -/
structure Metadata where
  title : Option String := none
  author : Option String := none
  language : String := "he"
  created : Timestamp
  modified : Timestamp
  deriving DecidableEq, Repr, Inhabited

namespace Metadata

/-- Metadata in saved data. -/
def toJson (m : Metadata) : Json :=
  .object [("title", .ofOption .string m.title), ("author", .ofOption .string m.author),
    ("language", .string m.language), ("created", m.created.toJson),
    ("modified", m.modified.toJson)]

/-- Reads metadata from saved data. Times that are missing are `now`. -/
def decoder {ε : Type} (now : Timestamp) : Json.Decoder ε Metadata :=
  record { created := now, modified := now }
    [ optionalField "title" (fun x m => { m with title := x }) (option string),
      optionalField "author" (fun x m => { m with author := x }) (option string),
      optionalField "language" (fun x m => { m with language := x }) string,
      optionalField "created" (fun x m => { m with created := x }) Timestamp.decoder,
      optionalField "modified" (fun x m => { m with modified := x }) Timestamp.decoder ]

end Metadata

theorem toNat_add_one {n : UInt64} (room : n.toNat + 1 < UInt64.size) :
    (n + 1).toNat = n.toNat + 1 := by
  rw [UInt64.toNat_add]
  exact Nat.mod_eq_of_lt room

/-- A document. -/
structure Document where
  metadata : Metadata
  page : Page := {}
  styles : StyleSheet := .standard
  blocks : List Block := []
  /-- The next identifier to give; zero when it has to be found out from the blocks. -/
  nextId : UInt64 := 0
  deriving DecidableEq

namespace Document

/-- An empty document. -/
def empty (now : Timestamp) : Document := { metadata := { created := now, modified := now } }

/-- An empty document with a title. -/
def titled (now : Timestamp) (title : String) : Document :=
  { metadata := { title := some title, created := now, modified := now } }

/-- The number of blocks. -/
def size (d : Document) : Nat := d.blocks.length

/-- The block with an identifier. -/
def find? (d : Document) (id : UInt64) : Option Block := d.blocks.find? (·.id == id)

/-- The index of the block with an identifier. -/
def position? (d : Document) (id : UInt64) : Option Nat := d.blocks.findIdx? (·.id == id)

/-- The number of blocks of a kind. -/
def countKind (d : Document) (kind : BlockKind) : Nat :=
  (d.blocks.filter (·.kind == kind)).length

/-- The greatest identifier of a list of blocks. -/
def maxId (blocks : List Block) : UInt64 := (blocks.map (·.id)).foldl max 0

/-- The identifier that the next new block gets. It is exact as long as there is room for it. -/
def freshId (d : Document) : UInt64 := if d.nextId = 0 then maxId d.blocks + 1 else d.nextId

/-- The number of the next new block, however great it is. -/
def freshNat (d : Document) : Nat :=
  if d.nextId = 0 then (maxId d.blocks).toNat + 1 else d.nextId.toNat

/-- That neither the next identifier nor the counter behind it is too great. Without room a block
that is put in stops the program: `InPlace.push` and `InPlace.insert` say how. -/
def HasRoom (d : Document) : Prop := d.freshNat + 1 < UInt64.size

instance (d : Document) : Decidable d.HasRoom := inferInstanceAs (Decidable (_ < _))

theorem toNat_freshId {d : Document} (room : d.HasRoom) : d.freshId.toNat = d.freshNat := by
  unfold HasRoom freshNat at room
  unfold freshId freshNat
  split
  · next found =>
    rw [if_pos found] at room
    exact toNat_add_one (by omega)
  · rfl

/-- The document with another sequence of blocks, changed at a time. -/
def withBlocks (d : Document) (now : Timestamp) (blocks : List Block) : Document :=
  { d with blocks, metadata := { d.metadata with modified := now } }

/-- Refuses an index that no block has. -/
def checkIndex (d : Document) (index : Nat) : Except Error Unit :=
  if index < d.blocks.length then .ok () else .error (.blockOutOfRange index d.blocks.length)

/-- Puts a block in at an index up to the number of blocks; gives its identifier. This is what
happens as long as there is room for that. -/
def insert (d : Document) (now : Timestamp) (index : Nat) (b : Block) :
    Except Error (UInt64 × Document) :=
  if index ≤ d.blocks.length then
    let id := d.freshId
    .ok (id, { d.withBlocks now (d.blocks.insertIdx index { b with id }) with nextId := id + 1 })
  else .error (.blockOutOfRange index d.blocks.length)

/-- Puts a block at the end; gives its identifier. This is what happens as long as there is room for
that. -/
def push (d : Document) (now : Timestamp) (b : Block) : UInt64 × Document :=
  let id := d.freshId
  (id, { d.withBlocks now (d.blocks ++ [{ b with id }]) with nextId := id + 1 })

/-- Takes out the block at an index. -/
def remove (d : Document) (now : Timestamp) (index : Nat) : Except Error (Block × Document) :=
  match d.blocks[index]? with
  | some old => .ok (old, d.withBlocks now (d.blocks.eraseIdx index))
  | none => .error (.blockOutOfRange index d.blocks.length)

/-- Puts a block in the place of the one at an index, whose identifier it takes; gives the old
one. -/
def replace (d : Document) (now : Timestamp) (index : Nat) (b : Block) :
    Except Error (Block × Document) :=
  match d.blocks[index]? with
  | some old => .ok (old, d.withBlocks now (d.blocks.set index { b with id := old.id }))
  | none => .error (.blockOutOfRange index d.blocks.length)

/-- Moves the block at one index so that it stands at another. -/
def moveBlock (d : Document) (now : Timestamp) (source target : Nat) : Except Error Document := do
  d.checkIndex source
  d.checkIndex target
  match d.blocks[source]? with
  | some b =>
    if source = target then return d
    else return d.withBlocks now ((d.blocks.eraseIdx source).insertIdx target b)
  | none => return d

/-- Changes the block at an index in its place, which does not count as a modification. -/
def editBlock (d : Document) (index : Nat) (e : Block.Edit) : Except Error Document :=
  match d.blocks[index]? with
  | none => .error (.blockOutOfRange index d.blocks.length)
  | some b => (b.edit e).map fun b => { d with blocks := d.blocks.set index b }

/-- A document in saved data. -/
def toJson (d : Document) : Json :=
  .object
    [ ("metadata", d.metadata.toJson),
      ("page", d.page.toJson),
      ("styles", d.styles.toJson),
      ("blocks", .array (d.blocks.map Block.toJson)),
      ("next_id", .count d.nextId.toNat) ]

/-- Reads a document from saved data. Times that are missing are `now`. -/
def decoder (now : Timestamp) : Json.Decoder Error Document :=
  record (empty now)
    [ optionalField "metadata" (fun x d => { d with metadata := x }) (Metadata.decoder now),
      optionalField "page" (fun x d => { d with page := x }) Page.decoder,
      optionalField "styles" (fun x d => { d with styles := x }) StyleSheet.decoder,
      field "blocks" (fun x d => { d with blocks := x }) (list Block.decoder),
      optionalField "next_id" (fun x d => { d with nextId := x }) uint64 ]

/-- The text of a saved document. -/
def save (layout : Json.Layout) (d : Document) : String := d.toJson.text layout

/-- The document of a saved text. Times that are missing are `now`. -/
def load (now : Timestamp) (text : String) : Except ReadFault Document :=
  Json.decode (decoder now) text

end Document

end Agreement
