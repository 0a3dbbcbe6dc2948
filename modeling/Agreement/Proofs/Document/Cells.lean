/- # Agreement.Proofs.Document.Cells: the first cell that does not fit, and edits of one cell

A table is refused for its first cell in reading order that spans nothing or goes on below the last
row. An edit of a cell can do anything to it, and it is judged when it has been made. One that does
not fit is taken back, and then the table is what it was, whatever the edit did. So after any run of
edits the table is one that would not be refused, and its rows and columns are those it had.
-/
import Agreement.Proofs.Document.Editing

namespace Agreement

/-- A cell that spans no column or no row, or more rows than there are from its own on. -/
def Cell.Misfits (r rowCount : Nat) (c : Cell) : Prop :=
  c.colspan = 0 ∨ c.rowspan = 0 ∨ rowCount < r + c.rowspan.toNat

instance (r rowCount : Nat) (c : Cell) : Decidable (c.Misfits r rowCount) :=
  inferInstanceAs (Decidable (_ ∨ _ ∨ _))

namespace Table

variable {rows : List Row} {t t' : Table} {row cell r k : Nat} {c old : Cell}

/-! ## The first cell that does not fit -/

/-- There is a cell at a place that does not fit there. -/
def IsMisfit (rows : List Row) (r k : Nat) : Prop :=
  ∃ row cell, rows[r]? = some row ∧ row.cells[k]? = some cell ∧ cell.Misfits r rows.length

/-- The first such cell: any other is in a row below, or behind it in its row. -/
structure IsFirstMisfit (rows : List Row) (r k : Nat) : Prop where
  misfit : IsMisfit rows r k
  first : ∀ r' k', IsMisfit rows r' k' → r < r' ∨ r = r' ∧ k ≤ k'

theorem spanFits_eq_false_iff {rowCount : Nat} :
    c.spanFits r rowCount = false ↔ c.Misfits r rowCount := by
  simp only [Cell.Misfits, Cell.spanFits, Bool.and_eq_false_iff, decide_eq_false_iff_not,
    Nat.not_le, UInt8.not_lt, UInt8.le_zero_iff, or_assoc]

theorem isMisfit_iff :
    IsMisfit rows r k ↔
      ∃ cell, (r, k, cell) ∈ positions rows ∧ cell.spanFits r rows.length = false := by
  simp only [mem_positions, spanFits_eq_false_iff]
  constructor
  · rintro ⟨row, cell, row_at, cell_at, misfit⟩
    exact ⟨cell, ⟨row, row_at, cell_at⟩, misfit⟩
  · rintro ⟨cell, ⟨row, row_at, cell_at⟩, misfit⟩
    exact ⟨row, cell, row_at, cell_at, misfit⟩

theorem pairwise_zipIdx {α : Type} (l : List α) : l.zipIdx.Pairwise (·.2 < ·.2) := by
  rw [← List.pairwise_map, List.zipIdx_map_snd]
  exact List.pairwise_lt_range' _

/-- The cells are gone over in the order of reading. -/
theorem pairwise_positions (rows : List Row) :
    (positions rows).Pairwise fun p q => p.1 < q.1 ∨ p.1 = q.1 ∧ p.2.1 < q.2.1 := by
  rw [positions, List.pairwise_flatMap]
  constructor
  · rintro ⟨row, r⟩ -
    rw [List.pairwise_map]
    exact (pairwise_zipIdx _).imp fun h => .inr ⟨rfl, h⟩
  · refine (pairwise_zipIdx rows).imp fun {a b} h p hp q hq => ?_
    obtain ⟨_, -, rfl⟩ := List.mem_map.mp hp
    obtain ⟨_, -, rfl⟩ := List.mem_map.mp hq
    exact .inl h

/-- What the search for a cell that does not fit finds is the first one. -/
theorem isFirstMisfit_of_find?
    (found : ((positions rows).find? fun p => !p.2.2.spanFits p.1 rows.length) = some (r, k, c)) :
    IsFirstMisfit rows r k := by
  obtain ⟨misfit, before, behind, split, fit⟩ := List.find?_eq_some_iff_append.mp found
  have listed : (r, k, c) ∈ positions rows := by simp [split]
  refine ⟨isMisfit_iff.mpr ⟨c, listed, by simpa using misfit⟩, fun r' k' other => ?_⟩
  obtain ⟨c', member, misfit'⟩ := isMisfit_iff.mp other
  rw [split, List.mem_append, List.mem_cons] at member
  rcases member with earlier | same | later
  · -- everything in front of it fits
    have fits := fit _ earlier
    simp [misfit'] at fits
  · cases same
    exact .inr ⟨rfl, Nat.le_refl _⟩
  · have ordered := pairwise_positions rows
    rw [split, List.pairwise_append, List.pairwise_cons] at ordered
    rcases ordered.2.1.1 _ later with below | ⟨same, behind⟩
    · exact .inl below
    · exact .inr ⟨same, Nat.le_of_lt behind⟩

/-- A table of rows is refused without rows, and else for its first cell that does not fit. -/
theorem make_cases (rows : List Row) (widths : Option (List Binary32)) :
    rows = [] ∧ make rows widths = .error .emptyTable ∨
    rows ≠ [] ∧ (∃ r k, IsFirstMisfit rows r k ∧ make rows widths = .error (.invalidSpan r k)) ∨
    rows ≠ [] ∧ (∀ r k, ¬ IsMisfit rows r k) ∧ make rows widths = .ok ⟨rows, widths⟩ := by
  unfold make
  by_cases none : rows = []
  · exact .inl ⟨none, by rw [none]; rfl⟩
  · rw [if_neg (by simpa using none)]
    cases found : (positions rows).find? fun p => !p.2.2.spanFits p.1 rows.length with
    | some p => exact .inr (.inl ⟨none, p.1, p.2.1, isFirstMisfit_of_find? found, rfl⟩)
    | none =>
        refine .inr (.inr ⟨none, fun r k misfit => ?_, rfl⟩)
        obtain ⟨c, member, misfit⟩ := isMisfit_iff.mp misfit
        have fits := List.find?_eq_none.mp found _ member
        simp [misfit] at fits

/-! ## Putting a cell in the place of another -/

theorem cell?_eq_some_iff :
    t.cell? r k = some c ↔ ∃ line, t.rows[r]? = some line ∧ line.cells[k]? = some c := by
  unfold cell?
  split
  · next line found => simp [found]
  · next missing => simp [missing]

theorem setCell_setCell (t : Table) (row cell : Nat) (a b : Cell) :
    (t.setCell row cell a).setCell row cell b = t.setCell row cell b := by
  simp only [setCell, List.modify_modify_eq, Function.comp_def, List.set_set]

/-- Putting a cell where it is changes nothing. -/
theorem setCell_self (found : t.cell? row cell = some old) : t.setCell row cell old = t := by
  obtain ⟨line, line_at, cell_at⟩ := cell?_eq_some_iff.mp found
  obtain ⟨inside, rfl⟩ := List.getElem?_eq_some_iff.mp cell_at
  have same : (t.setCell row cell line.cells[cell]).rows = t.rows := by
    rw [setCell]
    apply List.ext_getElem?
    intro j
    rw [List.getElem?_modify]
    by_cases here : row = j
    · subst here
      simp [line_at]
    · simp [here]
  show { t with rows := (t.setCell row cell line.cells[cell]).rows } = t
  rw [same]

theorem cell?_setCell_self (found : t.cell? row cell = some old) (c : Cell) :
    (t.setCell row cell c).cell? row cell = some c := by
  obtain ⟨line, line_at, cell_at⟩ := cell?_eq_some_iff.mp found
  apply cell?_eq_some_iff.mpr
  refine ⟨{ line with cells := line.cells.set cell c }, ?_, ?_⟩
  · simp [setCell, line_at]
  · have inside := (List.getElem?_eq_some_iff.mp cell_at).1
    exact List.getElem?_set_self inside

theorem cell?_setCell_of_ne (other : ¬ (r = row ∧ k = cell)) (c : Cell) :
    (t.setCell row cell c).cell? r k = t.cell? r k := by
  unfold cell? setCell
  rw [List.getElem?_modify]
  by_cases same : row = r
  · have apart : cell ≠ k := fun h => other ⟨same.symm, h.symm⟩
    cases t.rows[r]? with
    | none => rfl
    | some line => simp [same, List.getElem?_set_ne apart]
  · simp [same]

/-- Two tables with the same rows and columns: as many rows, with as many cells in each, the same
rows as headers and the same widths. -/
structure SameShape (t t' : Table) : Prop where
  cells : t'.rows.map (·.cells.length) = t.rows.map (·.cells.length)
  headers : t'.rows.map (·.isHeader) = t.rows.map (·.isHeader)
  widths : t'.columnWidths = t.columnWidths

theorem SameShape.refl (t : Table) : SameShape t t := ⟨rfl, rfl, rfl⟩

theorem SameShape.trans {t t' t'' : Table} (h : SameShape t t') (h' : SameShape t' t'') :
    SameShape t t'' :=
  ⟨h'.cells.trans h.cells, h'.headers.trans h.headers, h'.widths.trans h.widths⟩

theorem SameShape.length_eq (h : SameShape t t') : t'.rows.length = t.rows.length := by
  have lengths := congrArg List.length h.cells
  rwa [List.length_map, List.length_map] at lengths

/-- A column of data that an edit of a row leaves is the same for all rows after it. -/
theorem map_modify_of_forall {α β : Type} {f : α → α} {g : α → β} (h : ∀ a, g (f a) = g a)
    (l : List α) (i : Nat) : (l.modify i f).map g = l.map g := by
  apply List.ext_getElem?
  intro j
  rw [List.getElem?_map, List.getElem?_map, List.getElem?_modify]
  by_cases here : i = j
  · cases l[j]? <;> simp [here, h]
  · simp [here]

theorem sameShape_setCell (t : Table) (row cell : Nat) (c : Cell) :
    SameShape t (t.setCell row cell c) := by
  let put : Row → Row := fun r => { r with cells := r.cells.set cell c }
  refine ⟨?_, ?_, rfl⟩
  · exact map_modify_of_forall (f := put) (g := (·.cells.length)) (fun _ => List.length_set) _ _
  · exact map_modify_of_forall (f := put) (g := (·.isHeader)) (fun _ => rfl) _ _

/-- A table with another cell in one place. -/
structure Replaces (row cell : Nat) (c : Cell) (before after : Table) : Prop where
  here : after.cell? row cell = some c
  elsewhere : ∀ r k, ¬ (r = row ∧ k = cell) → after.cell? r k = before.cell? r k
  shape : SameShape before after

theorem replaces_setCell (found : t.cell? row cell = some old) (c : Cell) :
    Replaces row cell c t (t.setCell row cell c) :=
  ⟨cell?_setCell_self found c, fun _ _ other => cell?_setCell_of_ne other c,
    sameShape_setCell t row cell c⟩

/-! ## Edits -/

namespace InPlace

/-- An edit in its place is the edit of the same name: what it did to the cell before it was judged
is taken back with the cell. -/
theorem run_updateCell (t : Table) (row cell : Nat) (edit : Cell → Cell) :
    (updateCell row cell edit).run t =
      Change.settled t ((t.updateCell row cell edit).map ((), ·)) := by
  simp only [updateCell, Table.updateCell, EStateM.run_bind, EStateM.run_get]
  cases found : t.cell? row cell with
  | none => rfl
  | some before =>
      have count := (sameShape_setCell t row cell (edit before)).length_eq
      simp only [EStateM.run_bind, EStateM.run_modify, EStateM.run_get, count]
      cases (edit before).spanFits row t.rows.length with
      | true => rfl
      | false =>
          simp only [Bool.false_eq_true, if_false, EStateM.run_bind, EStateM.run_modify,
            setCell_setCell, setCell_self found]
          rfl

end InPlace

/-- An edit of one cell: where it is, and what is done to it. -/
structure CellEdit where
  row : Nat
  cell : Nat
  edit : Cell → Cell

namespace CellEdit

/-- The edit as a change of a table. -/
def change (e : CellEdit) : Change Error Table Unit := InPlace.updateCell e.row e.cell e.edit

/-- What an edit does to a table. Where there is no cell, or the new one does not fit, it fails and
the table is what it was; else the new cell stands in the place of the old one. -/
theorem run_change (e : CellEdit) (t : Table) :
    (t.cell? e.row e.cell = none ∧ e.change.run t = .error (.cellOutOfRange e.row e.cell) t) ∨
    ∃ old, t.cell? e.row e.cell = some old ∧
      ((e.edit old).Misfits e.row t.rows.length ∧
          e.change.run t = .error (.invalidSpan e.row e.cell) t ∨
        ¬ (e.edit old).Misfits e.row t.rows.length ∧
          ∃ t', e.change.run t = .ok () t' ∧ Replaces e.row e.cell (e.edit old) t t') := by
  rw [change, InPlace.run_updateCell, Table.updateCell]
  cases found : t.cell? e.row e.cell with
  | none => exact .inl ⟨rfl, rfl⟩
  | some old =>
      refine .inr ⟨old, rfl, ?_⟩
      simp only [← spanFits_eq_false_iff]
      cases (e.edit old).spanFits e.row t.rows.length with
      | false => exact .inl ⟨rfl, rfl⟩
      | true => exact .inr ⟨nofun, _, rfl, replaces_setCell found (e.edit old)⟩

/-- One edit, made or failed, keeps a table sound and its rows and columns as they are. -/
theorem left_change (e : CellEdit) (t : Table) :
    (t.Sound → (Change.left (e.change.run t)).Sound) ∧
      SameShape t (Change.left (e.change.run t)) := by
  have unchanged {error : Error} (failed : e.change.run t = .error error t) :
      (t.Sound → (Change.left (e.change.run t)).Sound) ∧
        SameShape t (Change.left (e.change.run t)) := by
    rw [failed]
    exact ⟨id, .refl t⟩
  rcases run_change e t with ⟨-, failed⟩ | ⟨old, -, ⟨-, failed⟩ | ⟨-, t', made, replaces⟩⟩
  · exact unchanged failed
  · exact unchanged failed
  · refine ⟨fun sound => ?_, by rw [made]; exact replaces.shape⟩
    rw [change, InPlace.run_updateCell] at made ⊢
    cases updated : t.updateCell e.row e.cell e.edit with
    | error error => rw [updated] at made; cases made
    | ok after => exact sound_updateCell sound updated

end CellEdit

/-- The table after a run of edits, whether each of them was made or failed. -/
def edited (t : Table) (edits : List CellEdit) : Table :=
  edits.foldl (fun t e => Change.left (e.change.run t)) t

theorem edited_cons (t : Table) (e : CellEdit) (edits : List CellEdit) :
    t.edited (e :: edits) = (Change.left (e.change.run t)).edited edits := rfl

/-- A run of edits keeps a table sound and its rows and columns as they are. -/
theorem edited_keeps (t : Table) (edits : List CellEdit) :
    (t.Sound → (t.edited edits).Sound) ∧ SameShape t (t.edited edits) := by
  induction edits generalizing t with
  | nil => exact ⟨id, .refl t⟩
  | cons e edits ih =>
      obtain ⟨sound, shape⟩ := e.left_change t
      obtain ⟨sound', shape'⟩ := ih (Change.left (e.change.run t))
      rw [edited_cons]
      exact ⟨fun h => sound' (sound h), shape.trans shape'⟩

/-- **A table is refused for its first cell that does not fit, and edits that do not fit are taken
back.** Rows make a table unless there is none or some cell spans nothing or goes on below the last
row, and the error names the first such cell in the order of reading. In a table that was made, any
run of edits has left a table that would be made just so, with the same rows and columns, and for
the next edit there are three cases. Without a cell in its place it fails, and the table is what it
was. If the cell that comes out does not fit, it fails as well, and the table is what it was,
whatever the edit did to the cell. Else it succeeds, and only that cell is another. -/
theorem edits_fit_or_fail (rows : List Row) :
    (rows = [] ∧ make rows none = .error .emptyTable ∨
      rows ≠ [] ∧ (∃ r k, IsFirstMisfit rows r k ∧ make rows none = .error (.invalidSpan r k)) ∨
      rows ≠ [] ∧ (∀ r k, ¬ IsMisfit rows r k) ∧ make rows none = .ok { rows }) ∧
    ∀ widths t, make rows widths = .ok t → ∀ edits : List CellEdit,
      let now := t.edited edits
      make now.rows now.columnWidths = .ok now ∧ now.rows.length = rows.length ∧
      SameShape ⟨rows, widths⟩ now ∧
      ∀ e : CellEdit,
        (now.cell? e.row e.cell = none ∧
          e.change.run now = .error (.cellOutOfRange e.row e.cell) now) ∨
        ∃ old, now.cell? e.row e.cell = some old ∧
          ((e.edit old).Misfits e.row now.rows.length ∧
              e.change.run now = .error (.invalidSpan e.row e.cell) now ∨
            ¬ (e.edit old).Misfits e.row now.rows.length ∧
              ∃ next, e.change.run now = .ok () next ∧
                Replaces e.row e.cell (e.edit old) now next) := by
  refine ⟨make_cases rows none, fun widths t made edits => ?_⟩
  have kept : t = ⟨rows, widths⟩ := by
    rcases make_cases rows widths with ⟨-, failed⟩ | ⟨-, _, _, -, failed⟩ | ⟨-, -, made'⟩
    · rw [failed] at made
      cases made
    · rw [failed] at made
      cases made
    · exact Except.ok.inj (made.symm.trans made')
  obtain ⟨sound, shape⟩ := t.edited_keeps edits
  have rows_kept : t.rows = rows := congrArg Table.rows kept
  refine ⟨sound (sound_of_make made), ?_, kept ▸ shape, fun e => e.run_change _⟩
  rw [shape.length_eq, rows_kept]

/-- In a table of two rows a cell is made to span both, and then a row more than there is. The
second edit is taken back, with the text that it has put in. -/
theorem edits_fit_or_fail_two_rows :
    let rows := [Row.ofTexts ["א", "ב"], Row.ofTexts ["ג"]]
    let span (n : UInt8) : CellEdit := ⟨0, 1, fun c => { c with rowspan := n, text := "ד" }⟩
    let t : Table := { rows }
    make rows none = .ok t ∧
    ∃ next, (span 2).change.run t = .ok () next ∧
      next.cell? 0 1 = some { text := "ד", rowspan := 2 } ∧ next.cell? 1 0 = t.cell? 1 0 ∧
      (span 3).change.run next = .error (.invalidSpan 0 1) next := by
  intro rows span t
  have made : make rows none = .ok t := by decide
  obtain ⟨-, steps⟩ := edits_fit_or_fail rows
  obtain ⟨-, -, -, first⟩ := steps none t made []
  rcases first (span 2) with ⟨outside, -⟩ | ⟨old, found, ⟨misfit, -⟩ | ⟨-, next, run, replaces⟩⟩
  · cases outside
  · obtain rfl := Option.some.inj found
    exact absurd misfit (by decide)
  · obtain rfl := Option.some.inj found
    obtain ⟨-, -, -, second⟩ := steps none t made [span 2]
    have there : t.edited [span 2] = next := congrArg Change.left run
    rw [there] at second
    refine ⟨made, next, run, replaces.here, replaces.elsewhere 1 0 (by decide), ?_⟩
    rcases second (span 3) with ⟨outside, -⟩ | ⟨old, found, ⟨-, failed⟩ | ⟨fits, -⟩⟩
    · exact absurd (replaces.here.symm.trans outside) (by simp)
    · exact failed
    · obtain rfl := Option.some.inj (replaces.here.symm.trans found)
      rw [replaces.shape.length_eq] at fits
      exact absurd (by decide) fits

end Table

end Agreement
