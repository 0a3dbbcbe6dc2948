/- # Agreement.Proofs.Document.Saving: every part of a document reads back

Each part of a document has a decoder beside its `toJson`, and this module gives the law of each
pair, from text styles up to whole documents. Three things limit them. Measures must be finite and
read back as they are written. A table must be one that `Table.make` allows and the content of a
block must fit its kind, since the decoders check both. And items can only nest as deep as arrays
and objects may be opened, which for an item is decided exactly.
-/
import Agreement.Document.Basic
import Agreement.Proofs.Json.Decoding
import Agreement.Proofs.SortedMap

namespace Agreement

open Json Json.Decoder

/-! ## Measures of a value -/

namespace Json

mutual

/-- The measures in a value. -/
def measures : Json → List Binary32
  | measure x => [x]
  | array items => itemMeasures items
  | object members => memberMeasures members
  | _ => []

/-- The measures in the items of an array. -/
def itemMeasures : List Json → List Binary32
  | [] => []
  | item :: items => item.measures ++ itemMeasures items

/-- The measures in the members of an object. -/
def memberMeasures : List (String × Json) → List Binary32
  | [] => []
  | (_, value) :: members => value.measures ++ memberMeasures members

end

/-- A value whose measures are finite and read back as they are written. -/
def Keeps (j : Json) : Prop := ∀ x ∈ j.measures, x.isFinite = true ∧ x.ReadsBack

theorem keeps_measure {x : Binary32} : (measure x).Keeps ↔ x.isFinite = true ∧ x.ReadsBack := by
  simp [Keeps, measures]

theorem keeps_array {items : List Json} : (array items).Keeps ↔ ∀ j ∈ items, j.Keeps := by
  rw [Keeps, measures]
  induction items with
  | nil => simp [itemMeasures]
  | cons item items ih =>
      rw [itemMeasures, List.forall_mem_append, ih, List.forall_mem_cons]
      rfl

theorem keeps_object {members : List (String × Json)} :
    (object members).Keeps ↔ ∀ m ∈ members, m.2.Keeps := by
  rw [Keeps, measures]
  induction members with
  | nil => simp [memberMeasures]
  | cons member members ih =>
      rw [memberMeasures, List.forall_mem_append, ih, List.forall_mem_cons]
      rfl

end Json

namespace Json.Decoder

variable {ε : Type} {room : Nat}

theorem reads_measure_of_keeps {x : Binary32} (keeps : (Json.measure x).Keeps) :
    Reads (ε := ε) measure room x (.measure x) :=
  reads_measure room (keeps_measure.mp keeps).1 (keeps_measure.mp keeps).2

theorem reads_option_measure {o : Option Binary32} (keeps : (Json.ofOption .measure o).Keeps) :
    Reads (ε := ε) (option measure) room o (.ofOption .measure o) := by
  refine reads_ofOption fun x some => ?_
  rw [some] at keeps
  refine ⟨reads_measure_of_keeps keeps, ?_⟩
  rw [tree, if_pos (keeps_measure.mp keeps).1]
  trivial

theorem reads_option_bool (o : Option Bool) :
    Reads (ε := ε) (option bool) room o (.ofOption .bool o) :=
  reads_ofOption fun b _ => ⟨reads_bool room b, trivial⟩

theorem reads_option_string (o : Option String) :
    Reads (ε := ε) (option string) room o (.ofOption .string o) :=
  reads_ofOption fun s _ => ⟨reads_string room s, trivial⟩

theorem reads_option_choice {α : Type} {read : String → Option α} {name : α → String}
    (named : ∀ a, read (name a) = some a) (o : Option α) :
    Reads (ε := ε) (option (choice read)) room o (.ofOption (fun a => .string (name a)) o) :=
  reads_ofOption fun a _ => ⟨reads_choice room (named a), trivial⟩

end Json.Decoder

/-! ## Legible values -/

namespace Json

theorem legible_array {items : List Json} : (array items).Legible ↔ ∀ j ∈ items, j.Legible :=
  legibleItems_iff

theorem legible_object {members : List (String × Json)} :
    (object members).Legible ↔ ∀ m ∈ members, m.2.Legible :=
  legibleMembers_iff

section Parts

variable {α : Type} {write : α → Json}

theorem legible_map {l : List α} :
    (array (l.map write)).Legible ↔ ∀ a ∈ l, (write a).Legible := by
  rw [legible_array, List.forall_mem_map]

theorem legible_ofOption {o : Option α} :
    (ofOption write o).Legible ↔ ∀ a, o = some a → (write a).Legible := by
  cases o <;> simp [ofOption, Legible]

theorem legible_memberIfSome {name : String} {o : Option α} :
    (∀ m ∈ memberIfSome name write o, m.2.Legible) ↔ ∀ a, o = some a → (write a).Legible := by
  cases o <;> simp [memberIfSome]

end Parts

theorem legible_uint8 (n : UInt8) : (count n.toNat).Legible :=
  (@reads_uint8 Unit 0 n).legible

theorem legible_uint32 (n : UInt32) : (count n.toNat).Legible :=
  (@reads_uint32 Unit 0 n).legible

theorem legible_uint64 (n : UInt64) : (count n.toNat).Legible :=
  (@reads_uint64 Unit 0 n).legible

end Json

/-! ## Styles and pages -/

section Styles

variable {ε : Type}

theorem TextStyle.reads {s : TextStyle} (keeps : s.toJson.Keeps) :
    Reads (ε := ε) TextStyle.decoder 1 s s.toJson := by
  simp only [toJson, keeps_object, List.forall_mem_cons] at keeps
  obtain ⟨-, -, -, -, height, -, size, -⟩ := keeps
  exact reads_record (by simp [optionalField]) <|
    .optionalField (reads_option_bool s.bold) <|
    .optionalField (reads_option_bool s.italic) <|
    .optionalField (reads_option_bool s.underline) <|
    .optionalField (reads_option_choice Alignment.ofName?_name s.alignment) <|
    .optionalField (reads_option_measure height) <|
    .optionalField (reads_option_string s.color) <|
    .optionalField (reads_option_measure size) <|
    .nil _

theorem PageSize.reads {s : PageSize} (keeps : s.toJson.Keeps) :
    Reads (ε := ε) PageSize.decoder 2 s s.toJson := by
  cases s with
  | a4 => exact ⟨trivial, fun _ _ => rfl⟩
  | letter => exact ⟨trivial, fun _ _ => rfl⟩
  | legal => exact ⟨trivial, fun _ _ => rfl⟩
  | custom width height =>
      simp only [toJson, keeps_object, List.forall_mem_cons] at keeps
      obtain ⟨⟨width_keeps, height_keeps, -⟩, -⟩ := keeps
      have measures : Reads (ε := ε) PageSize.measuresDecoder 1 (width, height) _ :=
        reads_record (by simp [field]) <|
          .field (reads_measure_of_keeps width_keeps) <|
          .field (reads_measure_of_keeps height_keeps) <|
          .nil _
      exact reads_holding rfl (measures.map _)

theorem Margins.reads {m : Margins} (keeps : m.toJson.Keeps) :
    Reads (ε := ε) Margins.decoder 1 m m.toJson := by
  simp only [toJson, keeps_object, List.forall_mem_cons] at keeps
  obtain ⟨top, right, bottom, left, -⟩ := keeps
  exact reads_record (by simp [field]) <|
    .field (reads_measure_of_keeps top) <|
    .field (reads_measure_of_keeps right) <|
    .field (reads_measure_of_keeps bottom) <|
    .field (reads_measure_of_keeps left) <|
    .nil _

theorem Page.reads {p : Page} (keeps : p.toJson.Keeps) :
    Reads (ε := ε) Page.decoder 3 p p.toJson := by
  simp only [toJson, keeps_object, List.forall_mem_cons] at keeps
  obtain ⟨size, -, margins, -⟩ := keeps
  exact reads_record (by simp [optionalField]) <|
    .optionalField (PageSize.reads size) <|
    .optionalField (reads_choice 2 p.orientation.ofName?_name) <|
    .optionalField ((Margins.reads margins).mono (by decide)) <|
    .optionalField (reads_option_string p.header) <|
    .optionalField (reads_option_string p.footer) <|
    .nil _

theorem Defaults.reads {d : Defaults} (keeps : d.toJson.Keeps) :
    Reads (ε := ε) Defaults.decoder 2 d d.toJson := by
  simp only [toJson, keeps_object, List.forall_mem_cons] at keeps
  obtain ⟨style, top, bottom, -⟩ := keeps
  exact reads_record (by simp [optionalField]) <|
    .optionalField (TextStyle.reads style) <|
    .optionalField (reads_measure_of_keeps top) <|
    .optionalField (reads_measure_of_keeps bottom) <|
    .nil _

end Styles

/-! ## Tables -/

section Tables

variable {ε : Type}

/-- The style of a cell or a block, which is left out when there is none. -/
theorem reads_style {o : Option TextStyle}
    (keeps : ∀ m ∈ Json.memberIfSome "style" TextStyle.toJson o, m.2.Keeps) :
    ∀ s, o = some s → Reads (ε := ε) TextStyle.decoder 1 s s.toJson ∧ s.toJson.tree.IsPresent := by
  rintro s rfl
  exact ⟨TextStyle.reads (keeps ("style", s.toJson) List.mem_cons_self), trivial⟩

theorem Cell.reads {c : Cell} (keeps : c.toJson.Keeps) :
    Reads (ε := ε) Cell.decoder 2 c c.toJson := by
  simp only [toJson, keeps_object, List.forall_mem_append] at keeps
  obtain ⟨⟨⟨-, style⟩, -⟩, -⟩ := keeps
  rw [toJson, List.append_assoc, List.append_assoc]
  exact reads_record (by simp [field, optionalField]) <|
    .field (reads_string 1 c.text) <|
    .optionalField (reads_uint8 1 c.colspan) <|
    .optionalField (reads_uint8 1 c.rowspan) <|
    .ifSome (reads_style style) rfl <|
    .ifSome (fun s _ => ⟨reads_string 1 s, trivial⟩) rfl <|
    .optionalField (reads_choice 1 c.verticalAlignment.ofName?_name) <|
    .nil _

theorem Row.reads {r : Row} (keeps : r.toJson.Keeps) :
    Reads (ε := ε) Row.decoder 4 r r.toJson := by
  simp only [toJson, keeps_object, keeps_array, List.forall_mem_cons, List.forall_mem_map] at keeps
  exact reads_record (by simp [field, optionalField]) <|
    .field (reads_list fun c hc => Cell.reads (keeps.1 c hc)) <|
    .optionalField (reads_bool 3 r.isHeader) <|
    .nil _

/-- A table that `make` allows. -/
def Table.Sound (t : Table) : Prop := make t.rows t.columnWidths = .ok t

theorem Table.sound_of_make {rows : List Row} {widths : Option (List Binary32)} {t : Table}
    (made : make rows widths = .ok t) : t.Sound := by
  have kept : t = ⟨rows, widths⟩ := by
    unfold make at made
    split at made
    · cases made
    · split at made
      · cases made
      · exact (Except.ok.inj made).symm
  rw [kept] at made ⊢
  exact made

theorem Table.reads {t : Table} (sound : t.Sound) (keeps : t.toJson.Keeps) :
    Reads Table.decoder 6 t t.toJson := by
  simp only [toJson, keeps_object, keeps_array, List.forall_mem_cons, List.forall_mem_map] at keeps
  obtain ⟨rows, widths⟩ := keeps
  have each : ∀ l, t.columnWidths = some l →
      Reads (ε := Error) (list measure) 5 l (.array (l.map .measure)) ∧
        (Json.array (l.map .measure)).tree.IsPresent := by
    intro l some
    rw [some] at widths
    have kept := keeps_array.mp (widths _ List.mem_cons_self)
    rw [List.forall_mem_map] at kept
    exact ⟨reads_list fun x hx => reads_measure_of_keeps (kept x hx), trivial⟩
  refine Reads.checked ?_ sound
  rw [toJson, ← List.append_nil (Json.memberIfSome _ _ _)]
  exact reads_record (by simp [field, optionalField]) <|
    .field (reads_list fun r hr => Row.reads (rows r hr)) <|
    .ifSome each rfl <|
    .nil _

end Tables

/-! ## Lists -/

namespace Item

/-- Reads an item, with a decoder for those below it. -/
def stepDecoder {ε : Type} (item : Json.Decoder ε Item) : Json.Decoder ε Item :=
  record (mk "" [])
    [ field "text" (fun s x => mk s x.children) string,
      optionalField "children" (fun l x => mk x.text l) (list item) ]

mutual

theorem legible_toJson : (item : Item) → item.toJson.Legible
  | mk _ [] => ⟨trivial, trivial⟩
  | mk _ (child :: rest) => ⟨trivial, ⟨legible_toJson child, legible_toJsonAll rest⟩, trivial⟩

theorem legible_toJsonAll : (items : List Item) → LegibleItems (toJsonAll items)
  | [] => trivial
  | item :: items => ⟨legible_toJson item, legible_toJsonAll items⟩

end

section Nesting

variable {ε : Type}

/-- An item without items below it takes one object. -/
theorem stepDecoder_leaf (item : Json.Decoder ε Item) (src : Source) (s : String) :
    stepDecoder item src (mk s []).toJson.tree =
      if 1 ≤ src.room then .ok (mk s []) else .error (.text .malformed) := by
  obtain ⟨room, origin⟩ := src
  cases room with
  | zero => rfl
  | succ room => rw [if_pos (by simp)]; rfl

/-- An item with items below it takes an object and an array, and then what the items take. -/
theorem stepDecoder_children (item : Json.Decoder ε Item) (src : Source) (s : String)
    (child : Item) (rest : List Item) :
    stepDecoder item src (mk s (child :: rest)).toJson.tree =
      if 2 ≤ src.room then
        (items (item { src with room := src.room - 2 }) (itemTrees (toJsonAll (child :: rest)))).map
          (mk s)
      else .error (.text .malformed) := by
  obtain ⟨room, origin⟩ := src
  match room with
  | 0 => rfl
  | 1 => rfl
  | room + 2 =>
      rw [if_pos (by simp)]
      have below : (⟨room + 2, origin⟩ : Source).room - 2 = room := rfl
      rw [below]
      have written : (mk s (child :: rest)).toJson.tree =
          .object [(some "text", .string (some s)),
            (some "children", .array (itemTrees (toJsonAll (child :: rest))) none)] none := rfl
      rw [written]
      cases found : items (item ⟨room, origin⟩) (itemTrees (toJsonAll (child :: rest))) <;>
        simp [stepDecoder, record, Source.enter, fillMembers, field, optionalField, Decoder.map,
          Decoder.string, Decoder.list, bind, Except.bind, Except.map, found, passEnd, pure,
          Except.pure, Filling.finish, text]

mutual

/-- An item is read exactly if the arrays and objects in it may all be opened. -/
theorem repeated_toJson (item : Item) (n : Nat) (src : Source) (h : src.room < 2 * n) :
    repeated (ε := ε) stepDecoder n src item.toJson.tree =
      if 2 * item.depth ≤ src.room + 1 then .ok item else .error (.text .malformed) := by
  obtain ⟨k, rfl⟩ : ∃ k, n = k + 1 := ⟨n - 1, by omega⟩
  change stepDecoder (repeated stepDecoder k) src item.toJson.tree = _
  match item with
  | mk s [] =>
      rw [stepDecoder_leaf, depth, depthAll]
      simp only [Nat.add_zero]
      congr 1
      simp
  | mk s (child :: rest) =>
      have deep : 2 * (mk s (child :: rest)).depth = 2 * depthAll (child :: rest) + 2 := by
        rw [depth]
        omega
      have filled : 0 < depthAll (child :: rest) := by
        obtain ⟨t, below⟩ := child
        simp only [depthAll, depth]
        omega
      rw [stepDecoder_children, deep]
      by_cases opens : 2 ≤ src.room
      · rw [if_pos opens, items_repeated_toJsonAll (child :: rest) k _ (by simp only; omega)]
        dsimp only
        split
        · rw [if_pos (by omega)]
          rfl
        · rw [if_neg (by omega)]
          rfl
      · rw [if_neg opens, if_neg (by omega)]

theorem items_repeated_toJsonAll (items : List Item) (n : Nat) (src : Source)
    (h : src.room < 2 * n) :
    Json.Decoder.items (ε := ε) (repeated stepDecoder n src) (itemTrees (toJsonAll items)) =
      if 2 * depthAll items ≤ src.room + 1 then .ok items else .error (.text .malformed) := by
  match items with
  | [] => simp [toJsonAll, itemTrees, Json.Decoder.items, depthAll]
  | item :: items =>
    rw [toJsonAll, itemTrees, Json.Decoder.items, repeated_toJson item n src h,
      items_repeated_toJsonAll items n src h, depthAll]
    by_cases first : 2 * item.depth ≤ src.room + 1
    · by_cases others : 2 * depthAll items ≤ src.room + 1
      · rw [if_pos first, if_pos others, if_pos (by omega)]
        rfl
      · rw [if_pos first, if_neg others, if_neg (by omega)]
        rfl
    · have deeper : ¬ 2 * max item.depth (depthAll items) ≤ src.room + 1 := by omega
      rw [if_neg first, if_neg deeper]
      rfl

end

/-- **An item is read exactly if it nests no deeper than the room allows**, two levels of arrays and
objects for each level of items but the last, which takes one. -/
theorem decoder_toJson (item : Item) (src : Source) :
    Item.decoder (ε := ε) src item.toJson.tree =
      if 2 * item.depth ≤ src.room + 1 then .ok item else .error (.text .malformed) :=
  repeated_toJson item (src.room + 1) src (by omega)

theorem reads {item : Item} {room : Nat} (shallow : 2 * item.depth ≤ room + 1) :
    Reads (ε := ε) Item.decoder room item item.toJson :=
  ⟨legible_toJson item, fun src enough => by rw [decoder_toJson, if_pos (by omega)]⟩

end Nesting

theorem toJsonAll_eq_map (items : List Item) : toJsonAll items = items.map toJson := by
  induction items with
  | nil => rfl
  | cons item items ih => rw [toJsonAll, ih, List.map_cons]

theorem depthAll_le_iff {items : List Item} {n : Nat} :
    depthAll items ≤ n ↔ ∀ item ∈ items, item.depth ≤ n := by
  induction items with
  | nil => simp [depthAll]
  | cons item items ih => rw [depthAll, Nat.max_le, ih, List.forall_mem_cons]

end Item

theorem ItemList.reads {ε : Type} {l : ItemList} {n : Nat} (shallow : l.depth ≤ n + 1) :
    Reads (ε := ε) ItemList.decoder (2 * n + 3) l l.toJson := by
  have items : ∀ item ∈ l.items, Reads (ε := ε) Item.decoder (2 * n + 1) item item.toJson := by
    intro item hi
    have deep := Item.depthAll_le_iff.mp shallow item hi
    exact Item.reads (by omega)
  have written : l.toJson = .object
      [("items", .array (l.items.map Item.toJson)), ("numbering", .string l.numbering.name),
        ("start", .count l.start.toNat)] := by
    rw [toJson, Item.toJsonAll_eq_map]
  rw [written]
  exact reads_record (by simp [field, optionalField]) <|
    .field (reads_list items) <|
    .optionalField (reads_choice _ l.numbering.ofName?_name) <|
    .optionalField (reads_uint32 _ l.start) <|
    .nil _

/-! ## Blocks -/

/-- A content whose table, if it is one, is allowed. -/
def Content.Sound (c : Content) : Prop := ∀ t, c = .table t → t.Sound

/-- The list that a content is, if it is one. -/
def Content.list? : Content → Option ItemList
  | .list l => some l
  | _ => none

/-- Tables take seven arrays and objects, as lists do that nest three deep. -/
theorem Content.reads {c : Content} {n : Nat} (sound : c.Sound) (keeps : c.toJson.Keeps)
    (deep : 3 ≤ n) (shallow : ∀ l, c.list? = some l → l.depth ≤ n) :
    Reads Content.decoder (2 * n + 2) c c.toJson := by
  have apart : "value" ≠ "type" := by decide
  simp only [toJson, keeps_object, List.forall_mem_cons] at keeps
  cases c with
  | text s => exact reads_tagged apart (ContentType.ofName?_name .text) ((reads_string _ s).map _)
  | table t =>
      have table := Table.reads (sound t rfl) (keeps.2 _ List.mem_cons_self)
      exact reads_tagged apart (ContentType.ofName?_name .table)
        ((table.map _).mono (by omega))
  | list l =>
      have depth : l.depth ≤ n - 1 + 1 := (shallow l rfl).trans (by omega)
      have list : Reads (ε := Error) ItemList.decoder (2 * n + 1) l l.toJson :=
        (ItemList.reads depth).mono (by omega)
      exact reads_tagged apart (ContentType.ofName?_name .list) (list.map _)
  | empty => exact reads_tagged_alone (ContentType.ofName?_name .empty) rfl

theorem Placement.reads {ε : Type} {p : Placement} (keeps : p.toJson.Keeps) :
    Reads (ε := ε) Placement.decoder 1 p p.toJson := by
  simp only [toJson, keeps_object, List.forall_mem_cons] at keeps
  obtain ⟨-, top, bottom, -⟩ := keeps
  exact reads_record (by simp [optionalField]) <|
    .optionalField (reads_uint8 0 p.indentLevel) <|
    .optionalField (reads_option_measure top) <|
    .optionalField (reads_option_measure bottom) <|
    .optionalField (reads_option_choice Numbering.ofName?_name p.listStyle) <|
    .optionalField (reads_bool 0 p.pageBreakBefore) <|
    .optionalField (reads_bool 0 p.keepWithNext) <|
    .nil _

/-- A block whose content fits its kind, with a table that is allowed. -/
structure Block.Sound (b : Block) : Prop where
  fits : Block.fits b.kind b.content = true
  content : b.content.Sound

theorem Block.fits_of_check {kind : BlockKind} {content : Content} {u : Unit}
    (passed : check kind content = .ok u) : fits kind content = true := by
  unfold check at passed
  split at passed
  · assumption
  · cases passed

theorem Block.reads {b : Block} {n : Nat} (sound : b.Sound) (keeps : b.toJson.Keeps)
    (deep : 3 ≤ n) (shallow : ∀ l, b.list? = some l → l.depth ≤ n) :
    Reads Block.decoder (2 * n + 3) b b.toJson := by
  simp only [toJson, keeps_object, List.forall_mem_append, List.forall_mem_cons] at keeps
  obtain ⟨⟨⟨-, -, content, -⟩, style⟩, placement, -⟩ := keeps
  have passes : (check b.kind b.content).map (fun _ => b) = .ok b := by
    rw [check, if_pos sound.fits]
    rfl
  refine Reads.checked ?_ passes
  rw [toJson, List.append_assoc]
  exact reads_record (by simp [field, optionalField]) <|
    .optionalField (reads_uint64 _ b.id) <|
    .field (reads_choice _ b.kind.ofName?_name) <|
    .field (Content.reads sound.content content deep shallow) <|
    .ifSome (fun s some => ⟨(reads_style style s some).1.mono (by omega), trivial⟩) rfl <|
    .optionalField ((Placement.reads placement).mono (by omega)) <|
    .nil _

/-! ## Documents -/

instance : Std.Irrefl (α := BlockKind) (· < ·) := ⟨fun k => Nat.lt_irrefl k.rank⟩

theorem StyleSheet.reads {ε : Type} {s : StyleSheet} (keeps : s.toJson.Keeps) :
    Reads (ε := ε) StyleSheet.decoder 3 s s.toJson := by
  simp only [toJson, keeps_object, List.forall_mem_map] at keeps
  have bound : Reads (ε := ε) StyleSheet.decoder 3 (SortedMap.ofList s.entries) s.toJson :=
    (reads_bindings (fun p _ => by simp) fun p hp => Defaults.reads (keeps p hp)).map _
  rwa [SortedMap.ofList_entries] at bound

/-- The text written for a time reads back as the time. -/
def Timestamp.ReadsBack (t : Timestamp) : Prop := parse t.text.toList = some t

instance (t : Timestamp) : Decidable t.ReadsBack :=
  inferInstanceAs (Decidable (Timestamp.parse _ = _))

theorem Timestamp.ReadsBack.reads {ε : Type} {t : Timestamp} (h : t.ReadsBack) (room : Nat) :
    Reads (ε := ε) Timestamp.decoder room t t.toJson := by
  refine ⟨trivial, fun src _ => ?_⟩
  have back : parse t.text.toList = some t := h
  simp only [toJson, tree, decoder, Decoder.string, back]

theorem Metadata.reads {ε : Type} {m : Metadata} (created : m.created.ReadsBack)
    (modified : m.modified.ReadsBack) (now : Timestamp) :
    Reads (ε := ε) (Metadata.decoder now) 1 m m.toJson :=
  reads_record (by simp [optionalField]) <|
    .optionalField (reads_option_string m.title) <|
    .optionalField (reads_option_string m.author) <|
    .optionalField (reads_string 0 m.language) <|
    .optionalField (created.reads 0) <|
    .optionalField (modified.reads 0) <|
    .nil _

/-- A document whose blocks are sound. -/
def Document.Sound (d : Document) : Prop := ∀ b ∈ d.blocks, b.Sound

theorem Document.reads {d : Document} {n : Nat} (sound : d.Sound) (keeps : d.toJson.Keeps)
    (created : d.metadata.created.ReadsBack) (modified : d.metadata.modified.ReadsBack)
    (deep : 3 ≤ n) (shallow : ∀ b ∈ d.blocks, ∀ l, b.list? = some l → l.depth ≤ n)
    (now : Timestamp) : Reads (Document.decoder now) (2 * n + 5) d d.toJson := by
  simp only [toJson, keeps_object, keeps_array, List.forall_mem_cons, List.forall_mem_map] at keeps
  obtain ⟨-, page, styles, blocks, -⟩ := keeps
  exact reads_record (by simp [field, optionalField]) <|
    .optionalField ((Metadata.reads created modified now).mono (by omega)) <|
    .optionalField ((Page.reads page).mono (by omega)) <|
    .optionalField ((StyleSheet.reads styles).mono (by omega)) <|
    .field (reads_list fun b hb => Block.reads (sound b hb) (blocks b hb) deep (shallow b hb)) <|
    .optionalField (reads_uint64 _ d.nextId) <|
    .nil _

/-! ## What is written is legible -/

theorem TextStyle.legible_toJson (s : TextStyle) : s.toJson.Legible := by
  simp [toJson, Legible, LegibleMembers, legible_ofOption]

theorem PageSize.legible_toJson (s : PageSize) : s.toJson.Legible := by
  cases s <;> simp [toJson, Legible, LegibleMembers]

theorem Page.legible_toJson (p : Page) : p.toJson.Legible := by
  have size := p.size.legible_toJson
  simp [toJson, Margins.toJson, Legible, LegibleMembers, legible_ofOption, size]

theorem StyleSheet.legible_toJson (s : StyleSheet) : s.toJson.Legible := by
  refine legible_object.mpr (List.forall_mem_map.mpr fun p _ => ?_)
  exact ⟨p.2.style.legible_toJson, trivial, trivial, trivial⟩

theorem Metadata.legible_toJson (m : Metadata) : m.toJson.Legible := by
  simp [toJson, Timestamp.toJson, Legible, LegibleMembers, legible_ofOption]

theorem Cell.legible_toJson (c : Cell) : c.toJson.Legible := by
  refine legible_object.mpr ?_
  simp only [List.forall_mem_append, List.forall_mem_cons, legible_memberIfSome]
  exact ⟨⟨⟨⟨trivial, legible_uint8 _, legible_uint8 _, nofun⟩, fun s _ => s.legible_toJson⟩,
    fun _ _ => trivial⟩, trivial, nofun⟩

theorem Table.legible_toJson (t : Table) : t.toJson.Legible := by
  refine legible_object.mpr ?_
  simp only [List.forall_mem_cons, legible_memberIfSome, legible_map]
  exact ⟨fun r _ => ⟨legible_map.mpr fun c _ => c.legible_toJson, trivial, trivial⟩,
    fun _ _ _ _ => trivial⟩

theorem Content.legible_toJson (c : Content) : c.toJson.Legible := by
  cases c with
  | text s => exact ⟨trivial, trivial, trivial⟩
  | table t => exact ⟨trivial, t.legible_toJson, trivial⟩
  | list l =>
      exact ⟨trivial, ⟨Item.legible_toJsonAll l.items, trivial, legible_uint32 _, trivial⟩, trivial⟩
  | empty => exact ⟨trivial, trivial⟩

theorem Placement.legible_toJson (p : Placement) : p.toJson.Legible := by
  refine ⟨legible_uint8 _, ?_⟩
  simp [Legible, LegibleMembers, legible_ofOption]

theorem Block.legible_toJson (b : Block) : b.toJson.Legible := by
  refine legible_object.mpr ?_
  simp only [List.forall_mem_append, List.forall_mem_cons, legible_memberIfSome]
  exact ⟨⟨⟨legible_uint64 _, trivial, b.content.legible_toJson, nofun⟩,
    fun s _ => s.legible_toJson⟩, b.placement.legible_toJson, nofun⟩

/-- What is written for a document is legible, whatever is in it. -/
theorem Document.legible_toJson (d : Document) : d.toJson.Legible :=
  ⟨d.metadata.legible_toJson, d.page.legible_toJson, d.styles.legible_toJson,
    legible_map.mpr fun b _ => b.legible_toJson, legible_uint64 _, trivial⟩

/-- Loading a saved document is reading the tree of what was saved. -/
theorem Document.load_save_iff {d d' : Document} {layout : Layout} {now : Timestamp} :
    load now (save layout d) = .ok d' ↔ decoder now { room := maxRoom } d.toJson.tree = .ok d' :=
  decode_text_eq_ok layout d.legible_toJson

/-- **A sound document whose numbers and times read back is loaded as it was saved**, in either
layout, unless its lists nest too deep. -/
theorem Document.load_save {d : Document} (sound : d.Sound) (keeps : d.toJson.Keeps)
    (created : d.metadata.created.ReadsBack) (modified : d.metadata.modified.ReadsBack)
    (shallow : ∀ b ∈ d.blocks, ∀ l, b.list? = some l → l.depth ≤ 61) (layout : Layout)
    (now : Timestamp) : load now (save layout d) = .ok d := by
  have reads := d.reads sound keeps created modified (by decide) shallow now
  exact load_save_iff.mpr (reads.reads _ le_rfl)

end Agreement
