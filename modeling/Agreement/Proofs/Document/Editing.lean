/- # Agreement.Proofs.Document.Editing: edits are exact, and all or nothing while identifiers last

An edit in its place is a row of steps, and the first of them refuse what cannot be done. This
module runs each step once. An edit whose index no block has stops before anything has changed, so
it leaves the document as it was; every other edit does what the operation on documents gives as a
result. What that is, is said by what stands in the sequence of the blocks.

One thing comes between. A new block takes an identifier, and the counter moves past it; a counter
that cannot stops the program, though nothing was wrong with the edit. If the counter had to be
found out first, it has been by then.

A block is moved by taking it out and putting it in again. In between the indices behind it are one
lower, whichever way it goes, and what is left when it is taken out of its new place is what was
left when it was taken out of the old one. So moving it back needs no account of shifted indices.
-/
import Agreement.Document.InPlace
import Agreement.Proofs.Document.Building
import Mathlib.Data.List.Perm.Subperm

namespace Agreement

/-- An operation that gives something new, as a change: it does all, or it fails and nothing has
changed. -/
def Change.settled {ε σ α : Type} (s : σ) : Except ε (α × σ) → EStateM.Result ε σ α
  | .ok (a, s') => .ok a s'
  | .error e => .error e s

namespace Document

namespace InPlace

variable {now : Timestamp} {d : Document} {index : Nat} {b : Block}

/-! ## The steps -/

section Counter

variable {n : UInt64}

theorem run_countPast (d : Document) (room : n.toNat + 1 < UInt64.size) :
    (countPast n).run d = .ok () { d with nextId := n + 1 } := by
  rw [countPast, if_pos room]
  rfl

theorem run_countPast_of_full (d : Document) (full : ¬ n.toNat + 1 < UInt64.size) :
    (countPast n).run d = .error .overflow d := by
  rw [countPast, if_neg full]
  rfl

/-- Behind the greatest number a counter would begin again. -/
theorem add_one_eq_zero (full : ¬ n.toNat + 1 < UInt64.size) : n + 1 = 0 := by
  have bound : n.toNat < UInt64.size := n.toNat_lt
  have last : n.toNat + 1 = UInt64.size := by omega
  apply UInt64.toNat_inj.mp
  rw [UInt64.toNat_add]
  exact last ▸ Nat.mod_self _

end Counter

theorem run_takeNext (d : Document) :
    takeNext.run d =
      if d.nextId.toNat + 1 < UInt64.size then .ok d.nextId { d with nextId := d.nextId + 1 }
      else .error .overflow d := by
  simp only [takeNext, EStateM.run_bind, EStateM.run_get]
  by_cases room : d.nextId.toNat + 1 < UInt64.size
  · simp only [run_countPast d room, if_pos room, EStateM.run_pure]
  · simp only [run_countPast_of_full d room, if_neg room]

/-- An identifier is taken if there is room for it. If there is none the counter has been found out,
but if that could not be done either it is still zero. -/
theorem run_takeId (d : Document) :
    takeId.run d =
      if d.HasRoom then .ok d.freshId { d with nextId := d.freshId + 1 }
      else .error .overflow { d with nextId := d.freshId } := by
  simp only [takeId, freshId, HasRoom, freshNat, EStateM.run_bind, EStateM.run_get]
  by_cases unset : d.nextId = 0
  · simp only [unset, if_true, EStateM.run_bind]
    by_cases found : (maxId d.blocks).toNat + 1 < UInt64.size
    · simp only [run_countPast d found, run_takeNext, toNat_add_one found]
    · have full : ¬ (maxId d.blocks).toNat + 1 + 1 < UInt64.size := by omega
      simp only [run_countPast_of_full d found, if_neg full, add_one_eq_zero found, ← unset]
  · simp only [unset, if_false, run_takeNext]

theorem run_check (d : Document) (index : Nat) :
    (check index).run d =
      if index < d.blocks.length then .ok () d
      else .error (.refused (.blockOutOfRange index d.blocks.length)) d := by
  simp only [check, EStateM.run_bind, EStateM.run_get, checkIndex]
  by_cases inside : index < d.blocks.length
  · simp only [if_pos inside]
    rfl
  · simp only [if_neg inside]
    rfl

theorem run_blockAt (found : d.blocks[index]? = some b) : (blockAt index).run d = .ok b d := by
  simp only [blockAt, EStateM.run_bind, EStateM.run_get, found, EStateM.run_pure]

theorem run_takeOut (found : d.blocks[index]? = some b) :
    (takeOut index).run d = .ok b { d with blocks := d.blocks.eraseIdx index } := by
  simp only [takeOut, EStateM.run_bind, run_blockAt found, EStateM.run_modify, EStateM.run_pure]

theorem run_putIn (d : Document) (index : Nat) (b : Block) :
    (putIn index b).run d = .ok () { d with blocks := d.blocks.insertIdx index b } := rfl

theorem run_touch (d : Document) (now : Timestamp) :
    (touch now).run d = .ok () { d with metadata := { d.metadata with modified := now } } := rfl

/-! ## The edits

Each edit in its place is the operation on documents of the same name, as long as there is room for
a new block. -/

theorem run_push (d : Document) (now : Timestamp) (b : Block) :
    (push now b).run d =
      if d.HasRoom then .ok (d.push now b).1 (d.push now b).2
      else .error .overflow { d with nextId := d.freshId } := by
  simp only [push, EStateM.run_bind, run_takeId]
  by_cases room : d.HasRoom
  · simp only [if_pos room, EStateM.run_modify, run_touch, EStateM.run_pure]
    rfl
  · simp only [if_neg room]

theorem run_insert (d : Document) (now : Timestamp) (index : Nat) (b : Block) :
    (insert now index b).run d =
      if index ≤ d.blocks.length ∧ ¬ d.HasRoom then .error .overflow { d with nextId := d.freshId }
      else Change.settled d ((d.insert now index b).mapError .refused) := by
  simp only [insert, Document.insert, EStateM.run_bind, EStateM.run_get]
  by_cases inside : index ≤ d.blocks.length
  · simp only [Nat.not_lt.mpr inside, inside, true_and, if_false, if_true, EStateM.run_bind,
      EStateM.run_pure, run_takeId, run_putIn, run_touch]
    by_cases room : d.HasRoom
    · simp only [room, not_true_eq_false, if_true, if_false]
      rfl
    · simp only [room, not_false_eq_true, if_true, if_false]
  · simp only [Nat.not_le.mp inside, inside, false_and, if_true, if_false, EStateM.run_bind]
    rfl

theorem run_remove (d : Document) (now : Timestamp) (index : Nat) :
    (remove now index).run d = Change.settled d ((d.remove now index).mapError .refused) := by
  simp only [remove, Document.remove, EStateM.run_bind, run_check]
  cases found : d.blocks[index]? with
  | none =>
      have outside := List.getElem?_eq_none_iff.mp found
      simp only [Nat.not_lt.mpr outside, if_false]
      rfl
  | some old =>
      have inside := (List.getElem?_eq_some_iff.mp found).1
      simp only [inside, if_true, run_takeOut found, run_touch, EStateM.run_pure]
      rfl

theorem run_replace (d : Document) (now : Timestamp) (index : Nat) (b : Block) :
    (replace now index b).run d =
      Change.settled d ((d.replace now index b).mapError .refused) := by
  simp only [replace, Document.replace, EStateM.run_bind, run_check]
  cases found : d.blocks[index]? with
  | none =>
      have outside := List.getElem?_eq_none_iff.mp found
      simp only [Nat.not_lt.mpr outside, if_false]
      rfl
  | some old =>
      have inside := (List.getElem?_eq_some_iff.mp found).1
      simp only [inside, if_true, run_blockAt found, EStateM.run_modify, run_touch,
        EStateM.run_pure]
      rfl

/-- The first index that no block has is refused. -/
theorem moveBlock_of_outside {source target : Nat}
    (outside : ¬ (source < d.blocks.length ∧ target < d.blocks.length)) :
    d.moveBlock now source target = .error
      (.blockOutOfRange (if source < d.blocks.length then target else source) d.blocks.length) := by
  by_cases first : source < d.blocks.length
  · have second : ¬ target < d.blocks.length := fun inside => outside ⟨first, inside⟩
    simp only [Document.moveBlock, checkIndex, if_pos first, if_neg second]
    rfl
  · simp only [Document.moveBlock, checkIndex, if_neg first]
    rfl

theorem run_moveBlock (d : Document) (now : Timestamp) (source target : Nat) :
    (moveBlock now source target).run d =
      Change.settled d (((d.moveBlock now source target).map ((), ·)).mapError .refused) := by
  by_cases inside : source < d.blocks.length ∧ target < d.blocks.length
  · obtain ⟨b, found⟩ : ∃ b, d.blocks[source]? = some b := ⟨_, List.getElem?_eq_getElem inside.1⟩
    simp only [moveBlock, EStateM.run_bind, run_check, if_pos inside.1, if_pos inside.2,
      moveBlock_eq_ok.mpr ⟨b, found, inside.2, rfl⟩]
    by_cases stays : source = target
    · simp only [stays, ne_eq, not_true_eq_false, if_false, if_true, EStateM.run_pure]
      rfl
    · simp only [stays, ne_eq, not_false_eq_true, if_false, if_true, EStateM.run_bind,
        run_takeOut found, run_putIn, run_touch]
      rfl
  · rw [moveBlock_of_outside inside]
    by_cases first : source < d.blocks.length
    · have second : ¬ target < d.blocks.length := fun second => inside ⟨first, second⟩
      simp only [moveBlock, EStateM.run_bind, run_check, if_pos first, if_neg second]
      rfl
    · simp only [moveBlock, EStateM.run_bind, run_check, if_neg first]
      rfl

end InPlace

/-! ## What an edit makes of the blocks -/

section Blocks

variable {α : Type} {l : List α} {a : α} {index source target : Nat}

/-- Something in the place of the members that start at an index, as many as are told. Those before
and behind them stay as they are. -/
def spliced (index count : Nat) (new l : List α) : List α :=
  l.take index ++ new ++ l.drop (index + count)

theorem insertIdx_eq_spliced (inside : index ≤ l.length) (a : α) :
    l.insertIdx index a = spliced index 0 [a] l := by
  induction index generalizing l with
  | zero => rfl
  | succ index ih =>
      cases l with
      | nil => exact absurd inside (Nat.not_succ_le_zero index)
      | cons first l =>
          rw [List.insertIdx_succ_cons, ih (Nat.le_of_succ_le_succ inside)]
          rfl

theorem eraseIdx_eq_spliced (index : Nat) (l : List α) :
    l.eraseIdx index = spliced index 1 [] l := by
  rw [spliced, List.append_nil, List.eraseIdx_eq_take_drop_succ]

theorem set_eq_spliced (inside : index < l.length) (a : α) :
    l.set index a = spliced index 1 [a] l := by
  rw [spliced, List.set_eq_take_append_cons_drop, if_pos inside, List.append_assoc]
  rfl

/-- One sequence comes from another by moving a member: it stands in its new place, all others are
in the order in which they were, and none is lost or there twice. -/
structure Moves (source target : Nat) (before after : List α) : Prop where
  arrives : after[target]? = before[source]?
  others : after.eraseIdx target = before.eraseIdx source
  perm : after.Perm before

theorem length_eraseIdx_of_found (found : l[source]? = some a) :
    (l.eraseIdx source).length + 1 = l.length := by
  have start := (List.getElem?_eq_some_iff.mp found).1
  rw [List.length_eraseIdx_of_lt start]
  omega

theorem moves_insertIdx (found : l[source]? = some a) (inside : target < l.length) :
    Moves source target l ((l.eraseIdx source).insertIdx target a) := by
  have room : target ≤ (l.eraseIdx source).length := by
    have := length_eraseIdx_of_found found
    omega
  refine ⟨?_, List.eraseIdx_insertIdx_self a, ?_⟩
  · rw [found, List.getElem?_insertIdx_self, if_pos room]
  · obtain ⟨start, rfl⟩ := List.getElem?_eq_some_iff.mp found
    exact (List.perm_insertIdx _ _ room).trans (List.getElem_cons_eraseIdx_perm start)

/-- What is left without the moved member is the same before and after, so putting it back gives the
sequence that there was. -/
theorem Moves.back {before after : List α} (h : Moves source target before after)
    (found : before[source]? = some a) : (after.eraseIdx target).insertIdx source a = before := by
  obtain ⟨start, rfl⟩ := List.getElem?_eq_some_iff.mp found
  rw [h.others, List.insertIdx_eraseIdx_getElem start]

end Blocks

@[simp] theorem blocks_withBlocks (d : Document) (now : Timestamp) (blocks : List Block) :
    (d.withBlocks now blocks).blocks = blocks := rfl

@[simp] theorem withBlocks_withBlocks (d : Document) (now later : Timestamp)
    (before after : List Block) :
    (d.withBlocks now before).withBlocks later after = d.withBlocks later after := rfl

/-- To put a block at the end is to put it in behind the last one. -/
theorem insert_length (d : Document) (now : Timestamp) (b : Block) :
    d.insert now d.blocks.length b = .ok (d.push now b) := by
  simp only [insert, le_refl, if_true, List.insertIdx_length_self]
  rfl

theorem run_moveBlock_of_found {d : Document} {b : Block} {source target : Nat}
    (found : d.blocks[source]? = some b) (inside : target < d.blocks.length) (now : Timestamp) :
    (InPlace.moveBlock now source target).run d =
      .ok () (if source = target then d
        else d.withBlocks now ((d.blocks.eraseIdx source).insertIdx target b)) := by
  rw [InPlace.run_moveBlock, moveBlock_eq_ok.mpr ⟨b, found, inside, rfl⟩]
  rfl

/-- A block that is moved there and back again leaves nothing but the time of the change. -/
theorem run_moveBlock_back (d : Document) (now : Timestamp) {source target : Nat}
    (start : source < d.blocks.length) (inside : target < d.blocks.length) :
    ∃ d', (InPlace.moveBlock now source target).run d = .ok () d' ∧
      Moves source target d.blocks d'.blocks ∧
      d' = (if source = target then d else d.withBlocks now d'.blocks) ∧
      ∀ later, (InPlace.moveBlock later target source).run d' =
        .ok () (if source = target then d else d.withBlocks later d.blocks) := by
  have found : d.blocks[source]? = some d.blocks[source] := List.getElem?_eq_getElem start
  have there := run_moveBlock_of_found found inside
  by_cases stays : source = target
  · subst stays
    simp only [if_true] at there ⊢
    exact ⟨d, there now, ⟨rfl, rfl, .refl _⟩, rfl, there⟩
  · simp only [if_neg stays] at there ⊢
    have moves := moves_insertIdx found inside
    refine ⟨_, there now, moves, rfl, fun later => ?_⟩
    have room : source < ((d.blocks.eraseIdx source).insertIdx target d.blocks[source]).length := by
      rwa [moves.perm.length_eq]
    rw [run_moveBlock_of_found (moves.arrives.trans found) room, if_neg (Ne.symm stays)]
    rw [withBlocks_withBlocks, blocks_withBlocks, moves.back found]

/-- **Edits are exact, and all or nothing while identifiers last.** For every document and every
index, an edit in its place either is refused with the first index that no block has and the number
of blocks, and leaves the document as it was, or it does just this. Inserting puts the block in at
the index, and pushing at the end, with an identifier of which the number and the next one have no
more than 64 bits, and the counter moves to the next one; removing takes the block there out: only
the blocks behind move, by one place. Replacing puts the block there with the identifier of the old
one, and gives the old one. Moving puts a block in another place and keeps all others in their
order; moving it back leaves nothing but the time of the change. To move a block to its own place
changes nothing at all.

A block that could be put in, but for whose identifier or for the next one 64 bits are too few, is
neither put in nor refused: the program stops. Of the document only the counter has been found out,
if it was zero. -/
theorem edits_exact (d : Document) (now : Timestamp) :
    let count := d.blocks.length
    (∀ index b, (InPlace.insert now index b).run d =
      if index ≤ count then
        if d.HasRoom then
          .ok d.freshId
            { d.withBlocks now (spliced index 0 [{ b with id := d.freshId }] d.blocks) with
              nextId := d.freshId + 1 }
        else .error .overflow { d with nextId := d.freshId }
      else .error (.refused (.blockOutOfRange index count)) d) ∧
    (∀ b, (InPlace.push now b).run d = (InPlace.insert now count b).run d) ∧
    (d.HasRoom → d.freshId.toNat = d.freshNat ∧ (d.freshId + 1).toNat = d.freshNat + 1) ∧
    (∀ index, (InPlace.remove now index).run d =
      if inside : index < count then
        .ok d.blocks[index] (d.withBlocks now (spliced index 1 [] d.blocks))
      else .error (.refused (.blockOutOfRange index count)) d) ∧
    (∀ index b, (InPlace.replace now index b).run d =
      if inside : index < count then
        .ok d.blocks[index]
          (d.withBlocks now (spliced index 1 [{ b with id := d.blocks[index].id }] d.blocks))
      else .error (.refused (.blockOutOfRange index count)) d) ∧
    (∀ source target, ¬ (source < count ∧ target < count) →
      (InPlace.moveBlock now source target).run d =
        .error (.refused (.blockOutOfRange (if source < count then target else source) count)) d) ∧
    ∀ source target, source < count → target < count →
      ∃ d', (InPlace.moveBlock now source target).run d = .ok () d' ∧
        Moves source target d.blocks d'.blocks ∧
        d' = (if source = target then d else d.withBlocks now d'.blocks) ∧
        ∀ later, (InPlace.moveBlock later target source).run d' =
          .ok () (if source = target then d else d.withBlocks later d.blocks) := by
  intro count
  refine ⟨fun index b => ?_, fun b => ?_, fun room => ?_, fun index => ?_, fun index b => ?_,
    fun source target outside => ?_, fun source target => run_moveBlock_back d now⟩
  · rw [InPlace.run_insert, insert]
    by_cases inside : index ≤ d.blocks.length
    · by_cases room : d.HasRoom
      · rw [if_neg (by simp [room]), if_pos inside, if_pos inside, if_pos room,
          ← insertIdx_eq_spliced inside]
        rfl
      · rw [if_pos ⟨inside, room⟩, if_pos inside, if_neg room]
    · rw [if_neg (by simp [inside]), if_neg inside, if_neg inside]
      rfl
  · rw [InPlace.run_push, InPlace.run_insert, insert_length]
    by_cases room : d.HasRoom
    · rw [if_pos room, if_neg (by simp [room])]
      rfl
    · rw [if_neg room, if_pos ⟨le_rfl, room⟩]
  · have fresh := toNat_freshId room
    exact ⟨fresh, fresh ▸ toNat_add_one (by rwa [fresh])⟩
  · rw [InPlace.run_remove, remove]
    by_cases inside : index < d.blocks.length
    · rw [dif_pos inside, List.getElem?_eq_getElem inside, eraseIdx_eq_spliced]
      rfl
    · rw [dif_neg inside, List.getElem?_eq_none (Nat.le_of_not_lt inside)]
      rfl
  · rw [InPlace.run_replace, replace]
    by_cases inside : index < d.blocks.length
    · rw [dif_pos inside, List.getElem?_eq_getElem inside, ← set_eq_spliced inside]
      rfl
    · rw [dif_neg inside, List.getElem?_eq_none (Nat.le_of_not_lt inside)]
      rfl
  · rw [InPlace.run_moveBlock, InPlace.moveBlock_of_outside outside]
    rfl

/-- Of three blocks the first is moved behind the others and back. There is no fourth place, but one
to put a fourth block in. -/
theorem edits_exact_three_blocks :
    let d : Document := { empty .epoch with
      blocks := [{ Block.paragraph "א" with id := 1 }, { Block.rule with id := 2 },
        { Block.quote "ג" with id := 3 }]
      nextId := 4 }
    let now : Timestamp := ⟨60, 0⟩
    (0 < d.blocks.length ∧ 2 < d.blocks.length ∧
      ¬ (0 < d.blocks.length ∧ 3 < d.blocks.length) ∧ d.HasRoom) ∧
    (∃ d', (InPlace.moveBlock now 0 2).run d = .ok () d' ∧ d'.blocks.map (·.id) = [2, 3, 1] ∧
      ∀ later, (InPlace.moveBlock later 2 0).run d' = .ok () (d.withBlocks later d.blocks)) ∧
    (InPlace.moveBlock now 0 3).run d = .error (.refused (.blockOutOfRange 3 3)) d ∧
    ∃ d', (InPlace.insert now 3 .pageBreak).run d = .ok 4 d' ∧
      d'.blocks.map (·.id) = [1, 2, 3, 4] := by
  intro d now
  have start : 0 < d.blocks.length := by decide
  have inside : 2 < d.blocks.length := by decide
  have outside : ¬ (0 < d.blocks.length ∧ 3 < d.blocks.length) := by decide
  have room : d.HasRoom := by decide
  obtain ⟨inserted, -, -, -, -, refused, moved⟩ := edits_exact d now
  obtain ⟨d', run, -, changed, back⟩ := moved 0 2 start inside
  have moved_at : d' = d.withBlocks now ((d.blocks.eraseIdx 0).insertIdx 2 d.blocks[0]) :=
    (EStateM.Result.ok.inj run).2.symm
  have put := inserted 3 .pageBreak
  rw [if_pos (by decide), if_pos room] at put
  exact ⟨⟨start, inside, outside, room⟩, ⟨d', run, by rw [moved_at]; rfl, back⟩,
    refused 0 3 outside, _, put, rfl⟩

/-- A text whose counter is the greatest number, and one without a counter in which a block has the
number before that. A block can be put in neither, and in the second the counter is not what it
was. -/
theorem insert_overflows :
    let text := "\x7b\"blocks\":[],\"next_id\":18446744073709551615\x7d"
    let d := { empty .epoch with nextId := 18446744073709551615 }
    let text' := "\x7b\"blocks\":[\x7b\"id\":18446744073709551614,\"kind\":\"rule\"," ++
      "\"content\":\x7b\"type\":\"empty\"\x7d\x7d]\x7d"
    let d' := { empty .epoch with blocks := [{ Block.rule with id := 18446744073709551614 }] }
    (load .epoch text = .ok d ∧ (InPlace.insert .epoch 0 .rule).run d = .error .overflow d) ∧
    load .epoch text' = .ok d' ∧ (InPlace.insert .epoch 0 .rule).run d' =
      .error .overflow { d' with nextId := 18446744073709551615 } := by
  intro text d text' d'
  have full : ¬ d.HasRoom := by decide
  have full' : ¬ d'.HasRoom := by decide
  refine ⟨⟨by decide +kernel, ?_⟩, by decide +kernel, ?_⟩
  · rw [InPlace.run_insert, if_pos ⟨Nat.zero_le _, full⟩]
    rfl
  · rw [InPlace.run_insert, if_pos ⟨Nat.zero_le _, full'⟩]
    rfl

end Document

end Agreement
