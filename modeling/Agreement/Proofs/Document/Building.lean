/- # Agreement.Proofs.Document.Building: the documents that can be had

Tables, blocks and documents are made by their constructors or loaded, and then changed by their
own operations; nothing else gets at what is inside them. For each of the three an inductive
predicate lists the ways. Every step of a document keeps that all its blocks can be had, a block
that can be had is sound, and so every document that can be had is. Operations that fail are no
steps, since they leave everything as it was.
-/
import Agreement.Proofs.Document.Loading
import Mathlib.Data.List.InsertIdx

namespace Agreement

/-! ## Tables -/

namespace Table

/-- The tables that can be had. -/
inductive Built : Table → Prop
  | make {rows : List Row} {widths : Option (List Binary32)} {t : Table}
      (made : Table.make rows widths = .ok t) : Built t
  | load {src : Json.Source} {tree : Json.Tree} {t : Table} (read : decoder src tree = .ok t) :
      Built t
  | columnWidths {t : Table} (h : Built t) (widths : Option (List Binary32)) :
      Built { t with columnWidths := widths }
  | updateCell {t t' : Table} {row cell : Nat} {edit : Cell → Cell} (h : Built t)
      (updated : t.updateCell row cell edit = .ok t') : Built t'

theorem mem_positions {rows : List Row} {r c : Nat} {cell : Cell} :
    (r, c, cell) ∈ positions rows ↔ ∃ row, rows[r]? = some row ∧ row.cells[c]? = some cell := by
  simp only [positions, List.mem_flatMap, List.mem_map, Prod.exists, Prod.mk.injEq,
    List.mem_zipIdx_iff_getElem?]
  constructor
  · rintro ⟨row, r, row_at, cell, c, cell_at, rfl, rfl, rfl⟩
    exact ⟨row, row_at, cell_at⟩
  · rintro ⟨row, row_at, cell_at⟩
    exact ⟨row, r, row_at, cell, c, cell_at, rfl, rfl, rfl⟩

/-- **A table is sound if it has a row and every cell spans something and ends within it.** -/
theorem sound_iff {t : Table} :
    t.Sound ↔ t.rows ≠ [] ∧ ∀ (r c : Nat) (row : Row) (cell : Cell), t.rows[r]? = some row →
      row.cells[c]? = some cell → cell.spanFits r t.rows.length = true := by
  have found : t.Sound ↔ t.rows ≠ [] ∧ ((positions t.rows).find? fun p =>
      !p.2.2.spanFits p.1 t.rows.length) = none := by
    unfold Sound Table.make
    split
    · next none => exact ⟨nofun, fun h => absurd (List.isEmpty_iff.mp none) h.1⟩
    · next filled =>
      split
      · next found => exact ⟨nofun, fun h => by rw [h.2] at found; cases found⟩
      · next found => exact ⟨fun _ => ⟨fun none => filled (List.isEmpty_iff.mpr none), found⟩,
          fun _ => rfl⟩
  simp only [found, List.find?_eq_none, Prod.forall, mem_positions, Bool.not_eq_true',
    Bool.not_eq_false]
  refine and_congr_right fun _ => ⟨fun h r c row cell row_at cell_at => ?_, ?_⟩
  · exact h r c cell ⟨row, row_at, cell_at⟩
  · rintro h r c cell ⟨row, row_at, cell_at⟩
    exact h r c row cell row_at cell_at

theorem sound_columnWidths {t : Table} (sound : t.Sound) (widths : Option (List Binary32)) :
    Sound { t with columnWidths := widths } :=
  sound_iff.mpr (sound_iff (t := t) |>.mp sound)

theorem getElem?_setCell {t : Table} {row cell : Nat} {c : Cell} {r k : Nat} {line : Row}
    {found : Cell} (line_at : (t.setCell row cell c).rows[r]? = some line)
    (found_at : line.cells[k]? = some found) :
    r = row ∧ found = c ∨
      ∃ old, t.rows[r]? = some old ∧ old.cells[k]? = some found := by
  rw [setCell, List.getElem?_modify] at line_at
  obtain ⟨old, old_at, rfl⟩ := Option.map_eq_some_iff.mp line_at
  split at found_at
  · next same =>
    rw [List.getElem?_set] at found_at
    split at found_at
    · split at found_at
      · exact .inl ⟨same.symm, (Option.some.inj found_at).symm⟩
      · cases found_at
    · exact .inr ⟨old, old_at, found_at⟩
  · exact .inr ⟨old, old_at, found_at⟩

/-- An edit of a cell keeps a table sound, since one that does not is not made. -/
theorem sound_updateCell {t t' : Table} {row cell : Nat} {edit : Cell → Cell} (sound : t.Sound)
    (updated : t.updateCell row cell edit = .ok t') : t'.Sound := by
  obtain ⟨filled, fit⟩ := sound_iff.mp sound
  unfold Table.updateCell at updated
  split at updated
  · cases updated
  · next c _ =>
    split at updated
    · next fits =>
      obtain rfl := Except.ok.inj updated
      have size : (t.setCell row cell (edit c)).rows.length = t.rows.length := by
        rw [setCell, List.length_modify]
      refine sound_iff.mpr ⟨List.length_pos_iff.mp (size ▸ List.length_pos_iff.mpr filled), ?_⟩
      intro r k line found line_at found_at
      rw [size]
      -- the edited cell has been checked, and every other one is as it was
      rcases getElem?_setCell line_at found_at with ⟨rfl, rfl⟩ | ⟨old, old_at, cell_at⟩
      · exact fits
      · exact fit r k old found old_at cell_at
    · cases updated

theorem Built.sound {t : Table} (h : t.Built) : t.Sound := by
  induction h with
  | make made => exact sound_of_make made
  | load read => exact yields_sound _ _ _ _ le_rfl read
  | columnWidths _ widths ih => exact sound_columnWidths ih widths
  | updateCell _ updated ih => exact sound_updateCell ih updated

end Table

/-! ## Blocks -/

/-- A content whose table, if it is one, can be had. -/
def Content.Built (c : Content) : Prop := ∀ t, c = .table t → t.Built

theorem Content.Built.sound {c : Content} (h : c.Built) : c.Sound :=
  fun t table => (h t table).sound

namespace Block

/-- A change to a content that can be had, or of something else. -/
def Edit.Built (e : Edit) : Prop := ∀ c, e = .content c → c.Built

/-- The blocks that can be had. -/
inductive Built : Block → Prop
  | make {kind : BlockKind} {content : Content} {b : Block} (h : content.Built)
      (made : Block.make kind content = .ok b) : Built b
  | paragraph (text : String) : Built (.paragraph text)
  | heading {level : Nat} {text : String} {b : Block} (made : Block.heading level text = .ok b) :
      Built b
  | table {t : Table} (h : t.Built) : Built (.table t)
  | bulletedList (l : ItemList) : Built (.bulletedList l)
  | numberedList (l : ItemList) : Built (.numberedList l)
  | signature (text : String) : Built (.signature text)
  | pageBreak : Built .pageBreak
  | rule : Built .rule
  | quote (text : String) : Built (.quote text)
  | load {src : Json.Source} {tree : Json.Tree} {b : Block} (read : decoder src tree = .ok b) :
      Built b
  | edit {b b' : Block} {e : Edit} (h : Built b) (change : e.Built) (edited : b.edit e = .ok b') :
      Built b'
  /-- Documents number the blocks that come in. -/
  | withId {b : Block} (h : Built b) (id : UInt64) : Built { b with id }

theorem sound_make {kind : BlockKind} {content : Content} {b : Block} (h : content.Sound)
    (made : Block.make kind content = .ok b) : b.Sound := by
  obtain ⟨_, passed, rfl⟩ := Except.map_eq_ok.mp made
  exact ⟨fits_of_check passed, h⟩

theorem sound_heading {level : Nat} {text : String} {b : Block}
    (made : Block.heading level text = .ok b) : b.Sound := by
  obtain ⟨kind, named, rfl⟩ := Except.map_eq_ok.mp made
  refine ⟨?_, nofun⟩
  unfold BlockKind.heading at named
  split at named <;> cases named <;> rfl

theorem sound_edit {b b' : Block} {e : Edit} (sound : b.Sound)
    (change : ∀ c, e = .content c → c.Sound) (edited : b.edit e = .ok b') : b'.Sound := by
  cases e with
  | style s =>
      obtain rfl := Except.ok.inj edited
      exact ⟨sound.fits, sound.content⟩
  | placement p =>
      obtain rfl := Except.ok.inj edited
      exact ⟨sound.fits, sound.content⟩
  | content c =>
      obtain ⟨_, passed, rfl⟩ := Except.map_eq_ok.mp edited
      exact ⟨fits_of_check passed, change c rfl⟩

theorem Built.sound {b : Block} (h : b.Built) : b.Sound := by
  induction h with
  | make h made => exact sound_make h.sound made
  | paragraph text => exact ⟨rfl, nofun⟩
  | heading made => exact sound_heading made
  | table h =>
      refine ⟨rfl, ?_⟩
      rintro _ ⟨⟩
      exact h.sound
  | bulletedList l => exact ⟨rfl, nofun⟩
  | numberedList l => exact ⟨rfl, nofun⟩
  | signature text => exact ⟨rfl, nofun⟩
  | pageBreak => exact ⟨rfl, nofun⟩
  | rule => exact ⟨rfl, nofun⟩
  | quote text => exact ⟨rfl, nofun⟩
  | @load src tree b read => exact (yields_sound src.room src tree b (by omega) read).1
  | edit _ change edited ih =>
      exact sound_edit ih (fun c content => (change c content).sound) edited
  | withId _ _ ih => exact ⟨ih.fits, ih.content⟩

end Block

/-! ## Documents -/

namespace Document

variable {d d' : Document} {now : Timestamp}

/-- What one operation makes of a document, if it does not fail. -/
inductive Step : Document → Document → Prop
  | metadata (d : Document) (metadata : Metadata) : Step d { d with metadata }
  | page (d : Document) (page : Page) : Step d { d with page }
  | styles (d : Document) (styles : StyleSheet) : Step d { d with styles }
  | push (d : Document) (now : Timestamp) {b : Block} (h : b.Built) : Step d (d.push now b).2
  | insert {d d' : Document} {now : Timestamp} {index : Nat} {b : Block} {id : UInt64}
      (h : b.Built) (done : d.insert now index b = .ok (id, d')) : Step d d'
  | remove {d d' : Document} {now : Timestamp} {index : Nat} {old : Block}
      (done : d.remove now index = .ok (old, d')) : Step d d'
  | replace {d d' : Document} {now : Timestamp} {index : Nat} {b old : Block} (h : b.Built)
      (done : d.replace now index b = .ok (old, d')) : Step d d'
  | moveBlock {d d' : Document} {now : Timestamp} {source target : Nat}
      (done : d.moveBlock now source target = .ok d') : Step d d'
  | editBlock {d d' : Document} {index : Nat} {e : Block.Edit} (h : e.Built)
      (done : d.editBlock index e = .ok d') : Step d d'

/-- The documents that can be had. -/
inductive Built : Document → Prop
  | empty (now : Timestamp) : Built (.empty now)
  | load {now : Timestamp} {text : String} {d : Document}
      (loaded : Document.load now text = .ok d) : Built d
  | step {d d' : Document} (h : Built d) (s : Step d d') : Built d'

/-! What the operations do, as far as they succeed. -/

theorem insert_eq_ok {index : Nat} {b : Block} {id : UInt64} :
    d.insert now index b = .ok (id, d') ↔ index ≤ d.blocks.length ∧ id = d.freshId ∧
      d' = { d.withBlocks now (d.blocks.insertIdx index { b with id }) with nextId := id + 1 } := by
  unfold insert
  split
  · next inside =>
    simp only [Except.ok.injEq, Prod.mk.injEq, inside, true_and]
    constructor
    · rintro ⟨rfl, rfl⟩
      exact ⟨rfl, rfl⟩
    · rintro ⟨rfl, rfl⟩
      exact ⟨rfl, rfl⟩
  · next outside => simp [outside]

theorem remove_eq_ok {index : Nat} {old : Block} :
    d.remove now index = .ok (old, d') ↔
      d.blocks[index]? = some old ∧ d' = d.withBlocks now (d.blocks.eraseIdx index) := by
  unfold remove
  split
  · next found => simp [found, eq_comm]
  · next missing => simp [missing]

theorem replace_eq_ok {index : Nat} {b old : Block} :
    d.replace now index b = .ok (old, d') ↔ d.blocks[index]? = some old ∧
      d' = d.withBlocks now (d.blocks.set index { b with id := old.id }) := by
  unfold replace
  split
  · next found =>
    simp only [Except.ok.injEq, Prod.mk.injEq, found, Option.some.injEq]
    constructor
    · rintro ⟨rfl, rfl⟩
      exact ⟨rfl, rfl⟩
    · rintro ⟨rfl, rfl⟩
      exact ⟨rfl, rfl⟩
  · next missing => simp [missing]

theorem checkIndex_eq_ok {index : Nat} {u : Unit} :
    d.checkIndex index = .ok u ↔ index < d.blocks.length := by
  unfold checkIndex
  split <;> simp [*]

theorem moveBlock_eq_ok {source target : Nat} :
    d.moveBlock now source target = .ok d' ↔
      ∃ b, d.blocks[source]? = some b ∧ target < d.blocks.length ∧
        d' = if source = target then d
          else d.withBlocks now ((d.blocks.eraseIdx source).insertIdx target b) := by
  unfold moveBlock
  simp only [Except.bind_eq_ok, checkIndex_eq_ok]
  cases found : d.blocks[source]? with
  | none =>
      have outside : ¬ source < d.blocks.length := by
        rw [List.getElem?_eq_none_iff] at found
        omega
      simp [outside]
  | some b =>
      have inside : source < d.blocks.length := (List.getElem?_eq_some_iff.mp found).1
      simp only [inside, exists_const, true_and, Option.some.injEq, exists_eq_left']
      split <;> rw [Except.pure_eq_ok, eq_comm]

theorem editBlock_eq_ok {index : Nat} {e : Block.Edit} :
    d.editBlock index e = .ok d' ↔ ∃ old b, d.blocks[index]? = some old ∧ old.edit e = .ok b ∧
      d' = { d with blocks := d.blocks.set index b } := by
  unfold editBlock
  split
  · next missing => simp [missing]
  · next old found =>
    simp only [found, Except.map_eq_ok, Option.some.injEq]
    constructor
    · rintro ⟨b, edited, rfl⟩
      exact ⟨old, b, rfl, edited, rfl⟩
    · rintro ⟨_, b, rfl, edited, rfl⟩
      exact ⟨b, edited, rfl⟩

/-- A step puts nothing in that cannot be had. -/
theorem Step.forall_built (s : Step d d') (h : ∀ b ∈ d.blocks, b.Built) :
    ∀ b ∈ d'.blocks, b.Built := by
  cases s with
  | metadata | page | styles => exact h
  | push now new =>
      rw [Document.push, Document.withBlocks, List.forall_mem_append]
      exact ⟨h, List.forall_mem_singleton.mpr (new.withId _)⟩
  | insert new done =>
      obtain ⟨-, -, rfl⟩ := insert_eq_ok.mp done
      intro b hb
      rcases List.eq_or_mem_of_mem_insertIdx hb with rfl | old
      · exact new.withId _
      · exact h b old
  | remove done =>
      obtain ⟨-, rfl⟩ := remove_eq_ok.mp done
      exact fun b hb => h b (List.mem_of_mem_eraseIdx hb)
  | replace new done =>
      obtain ⟨-, rfl⟩ := replace_eq_ok.mp done
      intro b hb
      rcases List.mem_or_eq_of_mem_set hb with old | rfl
      · exact h b old
      · exact new.withId _
  | moveBlock done =>
      obtain ⟨moved, found, -, rfl⟩ := moveBlock_eq_ok.mp done
      split
      · exact h
      · intro b hb
        rcases List.eq_or_mem_of_mem_insertIdx hb with rfl | old
        · exact h b (List.mem_of_getElem? found)
        · exact h b (List.mem_of_mem_eraseIdx old)
  | editBlock change done =>
      obtain ⟨old, edited, found, made, rfl⟩ := editBlock_eq_ok.mp done
      intro b hb
      rcases List.mem_or_eq_of_mem_set hb with same | rfl
      · exact h b same
      · exact (h old (List.mem_of_getElem? found)).edit change made

/-- Every block of a document that can be had can be had. -/
theorem Built.forall_built (h : d.Built) : ∀ b ∈ d.blocks, b.Built := by
  induction h with
  | empty now => exact fun b hb => absurd hb List.not_mem_nil
  | load loaded => exact forall_of_load (fun _ _ _ _ read => .load read) loaded
  | step _ s ih => exact s.forall_built ih

/-- **Every document that can be had is sound.** -/
theorem Built.sound (h : d.Built) : d.Sound := fun b hb => (h.forall_built b hb).sound

/-- **In every document that can be had the content of each block is of the type that its kind
holds, and each table has a row and cells that span something and end within it.** -/
theorem Built.wellFormed (h : d.Built) :
    ∀ b ∈ d.blocks, b.kind.contentType = b.content.type ∧
      ∀ t, b.content = .table t → t.rows ≠ [] ∧
        ∀ (r c : Nat) (row : Row) (cell : Cell), t.rows[r]? = some row → row.cells[c]? = some cell →
          1 ≤ cell.colspan.toNat ∧ 1 ≤ cell.rowspan.toNat ∧
            r + cell.rowspan.toNat ≤ t.rows.length := by
  intro b hb
  obtain ⟨fits, content⟩ := h.sound b hb
  refine ⟨eq_of_beq fits, fun t table => ?_⟩
  obtain ⟨filled, spans⟩ := Table.sound_iff.mp (content t table)
  refine ⟨filled, fun r c row cell row_at cell_at => ?_⟩
  have fit := spans r c row cell row_at cell_at
  simp only [Cell.spanFits, Bool.and_eq_true, decide_eq_true_eq] at fit
  obtain ⟨⟨columns, rows⟩, within⟩ := fit
  exact ⟨UInt8.lt_iff_toNat_lt.mp columns, UInt8.lt_iff_toNat_lt.mp rows, within⟩

/-- A table is loaded, a cell of it is widened, and the table is put back; a second one is then
put in front of it. -/
theorem wellFormed_widened :
    let text := "\x7b\"blocks\":[\x7b\"kind\":\"table\",\"content\":\x7b\"type\":\"table\"," ++
      "\"value\":\x7b\"rows\":[\x7b\"cells\":[\x7b\"text\":\"א\",\"rowspan\":2\x7d]\x7d," ++
      "\x7b\"cells\":[\x7b\"text\":\"ב\"\x7d]\x7d]\x7d\x7d\x7d]\x7d"
    let table (colspan : UInt8) : Table :=
      { rows := [{ cells := [{ text := "א", rowspan := 2 }] },
          { cells := [{ text := "ב", colspan }] }] }
    let d := { empty .epoch with blocks := [.table (table 1)] }
    let d' := { d with blocks := [.table (table 3)] }
    (load .epoch text = .ok d ∧ d.editBlock 0 (.content (.table (table 3))) = .ok d' ∧
      d'.blocks.head?.bind Block.table? = some (table 3)) ∧
    ∀ b ∈ (d'.push .epoch (.table (table 1))).2.blocks, b.kind.contentType = b.content.type ∧
      ∀ t, b.content = .table t → t.rows ≠ [] ∧
        ∀ (r c : Nat) (row : Row) (cell : Cell), t.rows[r]? = some row → row.cells[c]? = some cell →
          1 ≤ cell.colspan.toNat ∧ 1 ≤ cell.rowspan.toNat ∧
            r + cell.rowspan.toNat ≤ t.rows.length := by
  intro text table d d'
  have loaded : load .epoch text = .ok d := by decide +kernel
  have narrow : (table 1).Built :=
    .make (show Table.make (table 1).rows none = .ok (table 1) by decide)
  have widened : (table 1).updateCell 1 0 (fun c => { c with colspan := 3 }) = .ok (table 3) := by
    decide
  have wide : (table 3).Built := .updateCell narrow widened
  have change : Block.Edit.Built (.content (.table (table 3))) := by
    rintro _ ⟨⟩ _ ⟨⟩
    exact wide
  have edited : d.editBlock 0 (.content (.table (table 3))) = .ok d' := by decide +kernel
  have built : (d'.push .epoch (.table (table 1))).2.Built :=
    .step (.step (.load loaded) (.editBlock change edited)) (.push _ _ (.table narrow))
  exact ⟨⟨loaded, edited, rfl⟩, built.wellFormed⟩

end Document

end Agreement
