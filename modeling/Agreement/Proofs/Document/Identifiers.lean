/- # Agreement.Proofs.Document.Identifiers: identifiers stay and are not used twice

A document gives identifiers from a counter. While it is edited, saved and loaded again nothing but
a new block moves the counter, so a document that starts empty gives `1`, `2`, `3` and so on, and
an identifier whose block is gone does not come back.

A document that is loaded has whatever identifiers and whatever counter its text has. The counter
is only found out from the blocks when it is zero. One that is not, but is no greater than some
identifier, gets there in the end, and then a new block gets an identifier that another one has.
-/
import Agreement.Proofs.Document.Reloading
import Mathlib.Data.List.Forall2
import Mathlib.Data.List.Nodup
import Mathlib.Data.List.Perm.Subperm

namespace Agreement

open Json Json.Decoder

/-! ## Identifiers in saved data -/

/-- The number that is written for a word is only read as that word. -/
theorem uint64_eq_ok {ε : Type} {src : Source} {n m : UInt64}
    (read : uint64 (ε := ε) src (Json.count n.toNat).tree = .ok m) : m = n := by
  have same := (reads_uint64 (ε := ε) 0 n).reads src (Nat.zero_le _)
  exact Except.ok.inj (read.symm.trans same)

/-- A block that is read from what was written for another one has its identifier. -/
theorem Block.id_of_decoder {b b' : Block} {src : Source}
    (read : decoder src b.toJson.tree = .ok b') : b'.id = b.id := by
  obtain ⟨raw, filled, passed⟩ := checked_eq_ok.mp read
  obtain ⟨_, -, rfl⟩ := Except.map_eq_ok.mp passed
  refine uint64_eq_ok (record_sets rfl (sets_field fun _ _ => rfl) ?_ List.mem_cons_self filled)
  simp only [List.forall_mem_cons]
  exact ⟨fun other => absurd rfl other, fun _ => leaves_field fun _ _ => rfl,
    fun _ => leaves_field fun _ _ => rfl, fun _ => leaves_field fun _ _ => rfl,
    fun _ => leaves_field fun _ _ => rfl, nofun⟩

namespace Document

/-- The identifiers of the blocks, in their order. -/
def ids (d : Document) : List UInt64 := d.blocks.map (·.id)

/-- Loading a saved document changes neither the identifiers nor the counter, whatever else is lost
on the way. -/
theorem ids_of_load_save {d d' : Document} {layout : Layout} {now : Timestamp}
    (loaded : load now (save layout d) = .ok d') : d'.ids = d.ids ∧ d'.nextId = d.nextId := by
  have read := load_save_iff.mp loaded
  constructor
  · have blocks : list Block.decoder (Source.inside { room := maxRoom })
        (Json.array (d.blocks.map Block.toJson)).tree = .ok d'.blocks := by
      refine record_sets rfl (sets_field fun _ _ => rfl) ?_
        (.tail _ (.tail _ (.tail _ (.head _)))) read
      simp only [List.forall_mem_cons]
      exact ⟨fun _ => leaves_field fun _ _ => rfl, fun _ => leaves_field fun _ _ => rfl,
        fun _ => leaves_field fun _ _ => rfl, fun other => absurd rfl other,
        fun _ => leaves_field fun _ _ => rfl, nofun⟩
    rw [tree, itemTrees_eq_map, List.map_map] at blocks
    have each := List.forall₂_map_left_iff.mp (forall₂_of_list blocks)
    have same : List.Forall₂ (· = ·) (d'.blocks.map (·.id)) (d.blocks.map (·.id)) := by
      rw [List.forall₂_map_left_iff, List.forall₂_map_right_iff]
      exact (each.imp fun b b' read => Block.id_of_decoder read).flip
    rwa [List.forall₂_eq_eq_eq] at same
  · refine uint64_eq_ok (record_sets rfl (sets_field fun _ _ => rfl) ?_
      (.tail _ (.tail _ (.tail _ (.tail _ (.head _))))) read)
    simp only [List.forall_mem_cons]
    exact ⟨fun _ => leaves_field fun _ _ => rfl, fun _ => leaves_field fun _ _ => rfl,
      fun _ => leaves_field fun _ _ => rfl, fun _ => leaves_field fun _ _ => rfl,
      fun other => absurd rfl other, nofun⟩

variable {d d' : Document} {now : Timestamp}

/-! ## Identifiers and single operations -/

theorem ids_remove {index : Nat} {old : Block} (done : d.remove now index = .ok (old, d')) :
    d'.ids.Sublist d.ids ∧ d'.nextId = d.nextId := by
  obtain ⟨-, rfl⟩ := remove_eq_ok.mp done
  exact ⟨(List.eraseIdx_sublist _ _).map _, rfl⟩

theorem map_id_set {blocks : List Block} {index : Nat} {old b : Block}
    (found : blocks[index]? = some old) (same : b.id = old.id) :
    (blocks.set index b).map (·.id) = blocks.map (·.id) := by
  obtain ⟨inside, rfl⟩ := List.getElem?_eq_some_iff.mp found
  have listed : index < (blocks.map (·.id)).length := by rwa [List.length_map]
  have place : b.id = (blocks.map (·.id))[index] := by rw [same, List.getElem_map]
  rw [List.map_set, place, List.set_getElem_self]

/-- The new block takes the identifier of the old one. -/
theorem ids_replace {index : Nat} {b old : Block} (done : d.replace now index b = .ok (old, d')) :
    d'.ids = d.ids ∧ d'.nextId = d.nextId := by
  obtain ⟨found, rfl⟩ := replace_eq_ok.mp done
  exact ⟨map_id_set found rfl, rfl⟩

/-- A block that is moved is the same block in another place. -/
theorem blocks_moveBlock {source target : Nat} (done : d.moveBlock now source target = .ok d') :
    d'.blocks.Perm d.blocks ∧ d'.nextId = d.nextId := by
  obtain ⟨b, found, inside, rfl⟩ := moveBlock_eq_ok.mp done
  split
  · exact ⟨.refl _, rfl⟩
  · refine ⟨?_, rfl⟩
    obtain ⟨start, rfl⟩ := List.getElem?_eq_some_iff.mp found
    have room : target ≤ (d.blocks.eraseIdx source).length := by
      rw [List.length_eraseIdx_of_lt start]
      omega
    exact (List.perm_insertIdx _ _ room).trans (List.getElem_cons_eraseIdx_perm start)

/-- A change of a block in its place leaves its identifier. -/
theorem ids_editBlock {index : Nat} {e : Block.Edit} (done : d.editBlock index e = .ok d') :
    d'.ids = d.ids ∧ d'.nextId = d.nextId := by
  obtain ⟨old, b, found, edited, rfl⟩ := editBlock_eq_ok.mp done
  have same : b.id = old.id := by
    cases e with
    | style | placement => rw [← Except.ok.inj edited]
    | content =>
        obtain ⟨_, -, rfl⟩ := Except.map_eq_ok.mp edited
        rfl
  exact ⟨map_id_set found same, rfl⟩

theorem ids_insert {index : Nat} {b : Block} {id : UInt64}
    (done : d.insert now index b = .ok (id, d')) :
    id = d.freshId ∧ d'.nextId = d.freshId + 1 ∧ d'.ids.Perm (d.freshId :: d.ids) := by
  obtain ⟨inside, rfl, rfl⟩ := insert_eq_ok.mp done
  refine ⟨rfl, rfl, ?_⟩
  rw [ids, withBlocks, List.map_insertIdx]
  exact List.perm_insertIdx _ _ (by simpa using inside)

theorem ids_push (d : Document) (now : Timestamp) (b : Block) :
    (d.push now b).2.ids.Perm (d.freshId :: d.ids) := by
  rw [ids, push, withBlocks, List.map_append]
  exact List.perm_append_singleton _ _

/-! ## Runs -/

/-- A call that may change a document. -/
inductive Call
  | push (now : Timestamp) (b : Block)
  | insert (now : Timestamp) (index : Nat) (b : Block)
  | remove (now : Timestamp) (index : Nat)
  | replace (now : Timestamp) (index : Nat) (b : Block)
  | moveBlock (now : Timestamp) (source target : Nat)
  | editBlock (index : Nat) (e : Block.Edit)
  | setMetadata (metadata : Metadata)
  | setPage (page : Page)
  | setStyles (styles : StyleSheet)
  /-- The document is saved, and loaded again from the text. -/
  | reload (layout : Layout) (now : Timestamp)

/-- What is left after an operation that leaves a document as it is when it fails. -/
def after {ε : Type} (d : Document) : Except ε Document → Document
  | .ok d' => d'
  | .error _ => d

/-- Makes a call: the identifier that it gives, if it gives one, and the document after it. -/
def perform (d : Document) : Call → Option UInt64 × Document
  | .push now b => (some (d.push now b).1, (d.push now b).2)
  | .insert now index b =>
    match d.insert now index b with
    | .ok (id, d') => (some id, d')
    | .error _ => (none, d)
  | .remove now index => (none, d.after ((d.remove now index).map (·.2)))
  | .replace now index b => (none, d.after ((d.replace now index b).map (·.2)))
  | .moveBlock now source target => (none, d.after (d.moveBlock now source target))
  | .editBlock index e => (none, d.after (d.editBlock index e))
  | .setMetadata metadata => (none, { d with metadata })
  | .setPage page => (none, { d with page })
  | .setStyles styles => (none, { d with styles })
  | .reload layout now => (none, d.after (load now (save layout d)))

/-- Makes calls one after the other: the identifiers that they give, and the document at the
end. -/
def run (d : Document) : List Call → List UInt64 × Document
  | [] => ([], d)
  | c :: cs => ((d.perform c).1.toList ++ ((d.perform c).2.run cs).1, ((d.perform c).2.run cs).2)

/-- **A call gives the next identifier to a block that it puts in, or it puts none in and leaves the
counter.** -/
theorem perform_cases (d : Document) (c : Call) :
    ((d.perform c).1 = some d.freshId ∧ (d.perform c).2.nextId = d.freshId + 1 ∧
        (d.perform c).2.ids.Perm (d.freshId :: d.ids)) ∨
      ((d.perform c).1 = none ∧ (d.perform c).2.nextId = d.nextId ∧
        (d.perform c).2.ids.Subperm d.ids) := by
  have stays {ε : Type} (r : Except ε Document)
      (h : ∀ d', r = .ok d' → d'.ids.Subperm d.ids ∧ d'.nextId = d.nextId) :
      (d.after r).nextId = d.nextId ∧ (d.after r).ids.Subperm d.ids := by
    cases r with
    | error e => exact ⟨rfl, .refl _⟩
    | ok d' => exact ⟨(h d' rfl).2, (h d' rfl).1⟩
  cases c with
  | push now b => exact .inl ⟨rfl, rfl, d.ids_push now b⟩
  | insert now index b =>
      rw [perform]
      cases made : d.insert now index b with
      | error e => exact .inr ⟨rfl, rfl, .refl _⟩
      | ok answer =>
          obtain ⟨given, counter, perm⟩ := ids_insert made
          exact .inl ⟨congrArg some given, counter, perm⟩
  | remove now index =>
      refine .inr ⟨rfl, stays _ fun d' done => ?_⟩
      obtain ⟨_, removed, rfl⟩ := Except.map_eq_ok.mp done
      exact ⟨(ids_remove removed).1.subperm, (ids_remove removed).2⟩
  | replace now index b =>
      refine .inr ⟨rfl, stays _ fun d' done => ?_⟩
      obtain ⟨_, replaced, rfl⟩ := Except.map_eq_ok.mp done
      exact ⟨(ids_replace replaced).1 ▸ .refl _, (ids_replace replaced).2⟩
  | moveBlock now source target =>
      refine .inr ⟨rfl, stays _ fun d' done => ?_⟩
      exact ⟨((blocks_moveBlock done).1.map _).subperm, (blocks_moveBlock done).2⟩
  | editBlock index e =>
      refine .inr ⟨rfl, stays _ fun d' done => ?_⟩
      exact ⟨(ids_editBlock done).1 ▸ .refl _, (ids_editBlock done).2⟩
  | setMetadata | setPage | setStyles => exact .inr ⟨rfl, rfl, .refl _⟩
  | reload layout now =>
      have kept := stays (load now (save layout d)) fun d' done =>
        ⟨(ids_of_load_save done).1 ▸ .refl _, (ids_of_load_save done).2⟩
      rw [perform]
      generalize load now (save layout d) = reloaded at kept ⊢
      exact .inr ⟨rfl, kept⟩

theorem perform_reload {layout : Layout} (loaded : load now (save layout d) = .ok d') :
    d.perform (.reload layout now) = (none, d') := by
  rw [perform, loaded, Document.after]

/-! ## From an empty document -/

/-- A document that has given the identifiers up to a number, in their order: its blocks have some
of them, and the counter is behind them unless nothing has been given. -/
structure Numbered (count : Nat) (d : Document) : Prop where
  counter : d.nextId.toNat = if count = 0 then 0 else count + 1
  distinct : d.ids.Nodup
  given : ∀ id ∈ d.ids, 1 ≤ id.toNat ∧ id.toNat ≤ count

theorem numbered_empty (now : Timestamp) : Numbered 0 (empty now) := ⟨rfl, .nil, nofun⟩

theorem Numbered.freshId {count : Nat} (h : Numbered count d) :
    d.freshId.toNat = count + 1 := by
  have counter := h.counter
  by_cases first : count = 0
  · -- nothing has been given, so there are no blocks
    have none : d.ids = [] := by
      refine List.eq_nil_iff_forall_not_mem.mpr fun id hid => ?_
      have := h.given id hid
      omega
    have no_blocks : d.blocks = [] := List.map_eq_nil_iff.mp none
    rw [if_pos first] at counter
    rw [Document.freshId, if_pos (UInt64.toNat_inj.mp counter), no_blocks, first]
    rfl
  · rw [if_neg first] at counter
    have given : d.nextId ≠ 0 := by
      intro zero
      rw [zero] at counter
      simp at counter
    rw [Document.freshId, if_neg given, counter]

/-- A call that gives an identifier gives the next number. -/
theorem Numbered.perform {count : Nat} (h : Numbered count d) (c : Call)
    (room : count + (d.perform c).1.toList.length + 1 < UInt64.size) :
    (d.perform c).1.toList.map UInt64.toNat =
        List.range' (count + 1) (d.perform c).1.toList.length ∧
      Numbered (count + (d.perform c).1.toList.length) (d.perform c).2 := by
  rcases d.perform_cases c with ⟨gives, counter, perm⟩ | ⟨gives, counter, sub⟩
  · rw [gives] at room ⊢
    simp only [Option.toList_some, List.length_singleton] at room ⊢
    have fresh := h.freshId
    have new : d.freshId ∉ d.ids := by
      intro old
      have := h.given _ old
      omega
    refine ⟨by simp [fresh], ?_, ?_, ?_⟩
    · rw [counter, toNat_add_one (by omega), fresh, if_neg (by omega)]
    · exact perm.nodup_iff.mpr (List.nodup_cons.mpr ⟨new, h.distinct⟩)
    · intro id hid
      rcases List.mem_cons.mp (perm.subset hid) with rfl | old
      · omega
      · have := h.given id old
        omega
  · rw [gives]
    refine ⟨rfl, counter ▸ h.counter, ?_, fun id hid => h.given id (sub.subset hid)⟩
    obtain ⟨l, perm, sublist⟩ := sub
    exact perm.nodup_iff.mp (h.distinct.sublist sublist)

/-- **The identifiers of a run are consecutive numbers**, as long as there are enough of them. -/
theorem Numbered.run {count : Nat} (h : Numbered count d) (cs : List Call)
    (room : count + (d.run cs).1.length + 1 < UInt64.size) :
    (d.run cs).1.map UInt64.toNat = List.range' (count + 1) (d.run cs).1.length ∧
      Numbered (count + (d.run cs).1.length) (d.run cs).2 := by
  induction cs generalizing count d with
  | nil => exact ⟨rfl, h⟩
  | cons c cs ih =>
      simp only [Document.run, List.length_append] at room ⊢
      obtain ⟨first, numbered⟩ := h.perform c (by omega)
      obtain ⟨rest, last⟩ := ih numbered (by omega)
      refine ⟨?_, by rwa [← Nat.add_assoc]⟩
      have place : count + (d.perform c).1.toList.length + 1 =
          count + 1 + (d.perform c).1.toList.length := by omega
      rw [List.map_append, first, rest, place, List.range'_append_1]

theorem run_append (d : Document) (before after : List Call) :
    d.run (before ++ after) = ((d.run before).1 ++ ((d.run before).2.run after).1,
      ((d.run before).2.run after).2) := by
  induction before generalizing d with
  | nil => rfl
  | cons c cs ih => rw [List.cons_append, run, ih, run, List.append_assoc]

/-- The blocks at the end of a run were there before it or have been numbered by it. -/
theorem ids_run_subset (d : Document) (cs : List Call) :
    (d.run cs).2.ids ⊆ (d.run cs).1 ++ d.ids := by
  induction cs generalizing d with
  | nil => exact List.Subset.refl _
  | cons c cs ih =>
      intro id hid
      rw [run, List.append_assoc, List.mem_append, List.mem_append]
      rcases List.mem_append.mp (ih _ hid) with later | now
      · exact .inr (.inl later)
      · rcases d.perform_cases c with ⟨gives, -, perm⟩ | ⟨-, -, sub⟩
        · rcases List.mem_cons.mp (perm.subset now) with rfl | old
          · exact .inl (by rw [gives]; exact List.mem_singleton.mpr rfl)
          · exact .inr (.inr old)
        · exact .inr (.inr (sub.subset now))

theorem find?_of_mem {b : Block} (distinct : d.ids.Nodup) (hb : b ∈ d.blocks) :
    d.find? b.id = some b := by
  rw [find?]
  cases found : d.blocks.find? (·.id == b.id) with
  | none => exact absurd (beq_self_eq_true b.id) (List.find?_eq_none.mp found b hb)
  | some c =>
      have same : c.id = b.id := by simpa using List.find?_some found
      rw [List.inj_on_of_nodup_map distinct (List.mem_of_find?_eq_some found) hb same]

/-- That the identifiers of a document, and those that have been given before, are in order. -/
structure IdsStable (given : List UInt64) (d : Document) : Prop where
  distinct : d.ids.Nodup
  within : ∀ id ∈ d.ids, 1 ≤ id ∧ id < d.nextId
  increasing : given.Pairwise (· < ·)
  known : ∀ id ∈ d.ids, id ∈ given
  /-- A block that replaces another one takes its identifier. -/
  replaced : ∀ now index b old d', d.replace now index b = .ok (old, d') →
    d.blocks[index]? = some old ∧ d'.blocks[index]? = some { b with id := old.id } ∧ d'.ids = d.ids
  /-- A block that is moved stays the block that it is, and so do the others. -/
  moved : ∀ now source target d', d.moveBlock now source target = .ok d' → d'.blocks.Perm d.blocks
  edited : ∀ index e d', d.editBlock index e = .ok d' → d'.ids = d.ids
  reloaded : ∀ layout now d', load now (save layout d) = .ok d' →
    d'.ids = d.ids ∧ d'.nextId = d.nextId
  found : ∀ b ∈ d.blocks, d.find? b.id = some b
  positioned : ∀ id, d.find? id = (d.position? id).bind (d.blocks[·]?)

/-- **Identifiers stay and are not used twice.** Whatever calls a document goes through that starts
empty, as long as the counter does not overflow, its identifiers are in order, and one whose block
is gone at some time does not come back. -/
theorem idsStable_run (now : Timestamp) (cs : List Call)
    (few : ((empty now).run cs).1.length < UInt64.size - 1) :
    IdsStable ((empty now).run cs).1 ((empty now).run cs).2 ∧
      ∀ before after, cs = before ++ after → ∀ id ∈ ((empty now).run before).1,
        id ∉ ((empty now).run before).2.ids → id ∉ ((empty now).run cs).2.ids := by
  obtain ⟨numbers, numbered⟩ := (numbered_empty now).run cs (by omega)
  rw [Nat.zero_add] at numbers numbered
  generalize made : (empty now).run cs = result at numbers numbered
  obtain ⟨given, d⟩ := result
  dsimp only at numbers numbered ⊢
  have increasing : given.Pairwise (· < ·) := by
    have ordered : (given.map UInt64.toNat).Pairwise (· < ·) := by
      rw [numbers]
      exact List.pairwise_lt_range'
    exact (List.pairwise_map.mp ordered).imp fun less => UInt64.lt_iff_toNat_lt.mpr less
  refine ⟨⟨numbered.distinct, fun id hid => ?_, increasing, fun id hid => ?_, ?_, ?_, ?_, ?_, ?_,
    ?_⟩, ?_⟩
  · obtain ⟨positive, bound⟩ := numbered.given id hid
    have counter := numbered.counter
    rw [if_neg (by omega)] at counter
    exact ⟨UInt64.le_iff_toNat_le.mpr positive, UInt64.lt_iff_toNat_lt.mpr (by omega)⟩
  · obtain ⟨positive, bound⟩ := numbered.given id hid
    have listed : id.toNat ∈ given.map UInt64.toNat := by
      rw [numbers, List.mem_range'_1]
      omega
    obtain ⟨id', member, same⟩ := List.mem_map.mp listed
    rwa [← UInt64.toNat_inj.mp same]
  · intro now index b old d' done
    obtain ⟨found, rfl⟩ := replace_eq_ok.mp done
    have inside := (List.getElem?_eq_some_iff.mp found).1
    exact ⟨found, List.getElem?_set_self inside, (ids_replace done).1⟩
  · exact fun now source target d' done => (blocks_moveBlock done).1
  · exact fun index e d' done => (ids_editBlock done).1
  · exact fun layout now d' loaded => ids_of_load_save loaded
  · exact fun b hb => find?_of_mem numbered.distinct hb
  · exact fun id => List.find?_eq_bind_findIdx?_getElem?
  · rintro before after rfl id was gone back
    rw [run_append, Prod.mk.injEq] at made
    obtain ⟨rfl, rfl⟩ := made
    -- an identifier that came back would have been given twice
    rcases List.mem_append.mp (ids_run_subset _ after back) with again | stayed
    · have less := (List.pairwise_append.mp increasing).2.2 id was id again
      exact absurd less (UInt64.lt_irrefl id)
    · exact gone stayed

/-- A block is taken out and its identifier `2` does not come back, neither for a block that is put
in nor after a reload; one call has no room for its block, and another refuses its content. -/
theorem idsStable_sample :
    let before : List Call := [.setStyles (.ofList []), .push .epoch .rule,
      .push .epoch (.paragraph "א"), .remove .epoch 1, .insert .epoch 5 .rule,
      .insert .epoch 0 (.quote "ב"), .moveBlock .epoch 0 1, .replace .epoch 0 .pageBreak,
      .editBlock 1 (.content .empty)]
    let after : List Call := [.reload .compact .epoch, .push .epoch .rule]
    let (given, d) := (empty .epoch).run (before ++ after)
    (given = [1, 2, 3, 4] ∧ d.ids = [1, 3, 4] ∧ given.length < UInt64.size - 1) ∧
      IdsStable given d ∧ 2 ∉ d.ids := by
  intro before after
  have first : (empty .epoch).run before = ([1, 2, 3],
      { empty .epoch with
        styles := .ofList [],
        blocks := [{ Block.pageBreak with id := 1 }, { Block.quote "ב" with id := 3 }],
        nextId := 4 }) := by decide +kernel
  have second (d : Document) (reloaded : load .epoch (save .compact d) = .ok d) :
      d.run after = ([d.freshId], (d.push .epoch .rule).2) := by
    rw [run, perform_reload reloaded]
    rfl
  have all := run_append (empty .epoch) before after
  rw [first, second _ (load_save_eq_ok.mpr (by decide +kernel))] at all
  have few : ((empty .epoch).run (before ++ after)).1.length < UInt64.size - 1 := by
    rw [all]
    decide
  have stable := idsStable_run .epoch (before ++ after) few
  have gone : 2 ∉ ((empty .epoch).run (before ++ after)).2.ids :=
    stable.2 before after rfl 2 (by rw [first]; decide) (by rw [first]; decide)
  rw [all] at few gone stable ⊢
  exact ⟨⟨rfl, by decide, few⟩, stable.1, gone⟩

/-! ## From any document -/

/-- That no call of a run makes the counter overflow. -/
def Fits (d : Document) : List Call → Prop
  | [] => True
  | c :: cs => ((d.perform c).1.isSome → d.HasRoom) ∧ (d.perform c).2.Fits cs

/-- That no identifier that a run gives belongs to a block of the document at that time. -/
def GivesFresh (d : Document) : List Call → Prop
  | [] => True
  | c :: cs => (∀ id ∈ (d.perform c).1, id ∉ d.ids) ∧ (d.perform c).2.GivesFresh cs

/-- That the counter is to be found out, or is behind all identifiers but the greatest number. -/
def Ahead (d : Document) : Prop :=
  d.nextId = 0 ∨ ∀ id ∈ d.ids, id < d.nextId ∨ id.toNat + 1 = UInt64.size

theorem le_foldl_max (l : List UInt64) (a : UInt64) :
    a ≤ l.foldl max a ∧ ∀ id ∈ l, id ≤ l.foldl max a := by
  induction l generalizing a with
  | nil => exact ⟨UInt64.le_refl a, nofun⟩
  | cons b l ih =>
      obtain ⟨start, others⟩ := ih (max a b)
      have bounds : a ≤ max a b ∧ b ≤ max a b := by
        have chosen : max a b = if a ≤ b then b else a := rfl
        rw [chosen]
        split
        · next le => exact ⟨le, UInt64.le_refl b⟩
        · next gt => exact ⟨UInt64.le_refl a, UInt64.le_of_lt (UInt64.not_le.mp gt)⟩
      exact ⟨UInt64.le_trans bounds.1 start,
        List.forall_mem_cons.mpr ⟨UInt64.le_trans bounds.2 start, others⟩⟩

theorem le_maxId {id : UInt64} (h : id ∈ d.ids) : id ≤ maxId d.blocks :=
  (le_foldl_max d.ids 0).2 id h

/-- A counter that is ahead gives no identifier that a block has. -/
theorem Ahead.freshId_notMem (h : d.Ahead) (room : d.HasRoom) : d.freshId ∉ d.ids := by
  intro old
  have fresh := toNat_freshId room
  unfold HasRoom at room
  unfold freshNat at fresh room
  split at fresh
  · next found =>
    have := UInt64.le_iff_toNat_le.mp (le_maxId old)
    omega
  · next known =>
    rw [if_neg known] at room
    rcases h.resolve_left known _ old with less | greatest
    · have := UInt64.lt_iff_toNat_lt.mp less
      omega
    · omega

/-- A counter that is ahead stays ahead. -/
theorem Ahead.perform (h : d.Ahead) (c : Call) (room : (d.perform c).1.isSome → d.HasRoom) :
    (d.perform c).2.Ahead := by
  rcases d.perform_cases c with ⟨gives, counter, perm⟩ | ⟨-, counter, sub⟩
  · have room := room (by rw [gives]; rfl)
    have fresh := toNat_freshId room
    refine .inr fun id hid => ?_
    have next : (d.perform c).2.nextId.toNat = d.freshNat + 1 := by
      rw [counter, toNat_add_one (by rwa [fresh]), fresh]
    rw [UInt64.lt_iff_toNat_lt, next]
    rcases List.mem_cons.mp (perm.subset hid) with rfl | old
    · exact .inl (by omega)
    · unfold freshNat
      split
      · have := UInt64.le_iff_toNat_le.mp (le_maxId old)
        exact .inl (by omega)
      · next known =>
        refine (h.resolve_left known id old).imp (fun less => ?_) fun greatest => greatest
        have := UInt64.lt_iff_toNat_lt.mp less
        omega
  · rw [Ahead, counter]
    exact h.imp_right fun behind id hid => behind id (sub.subset hid)

theorem Ahead.givesFresh (h : d.Ahead) (cs : List Call) (fits : d.Fits cs) : d.GivesFresh cs := by
  induction cs generalizing d with
  | nil => trivial
  | cons c cs ih =>
      refine ⟨fun id given => ?_, ih (h.perform c fits.1) fits.2⟩
      rcases d.perform_cases c with ⟨gives, -, -⟩ | ⟨gives, -, -⟩
      · have room := fits.1 (by rw [gives]; rfl)
        rw [gives] at given
        rw [← Option.some.inj given]
        exact h.freshId_notMem room
      · rw [gives] at given
        cases given

/-- Where a block has an identifier that the counter has not reached, so many new blocks take the
counter there. -/
theorem not_givesFresh_replicate {id : UInt64} {n : Nat} (old : id ∈ d.ids) (known : d.nextId ≠ 0)
    (reach : d.nextId.toNat + n = id.toNat) (room : id.toNat + 1 < UInt64.size) :
    d.Fits (List.replicate (n + 1) (.push .epoch .rule)) ∧
      ¬ d.GivesFresh (List.replicate (n + 1) (.push .epoch .rule)) := by
  have fresh : d.freshId = d.nextId := if_neg known
  have opens : d.HasRoom := by
    rw [HasRoom, freshNat, if_neg known]
    omega
  induction n generalizing d with
  | zero =>
      refine ⟨⟨fun _ => opens, trivial⟩, fun gives => gives.1 d.freshId rfl ?_⟩
      rwa [fresh, UInt64.toNat_inj.mp reach]
  | succ n ih =>
      have counter : (d.push .epoch .rule).2.nextId.toNat = d.nextId.toNat + 1 := by
        change (d.freshId + 1).toNat = _
        rw [fresh]
        exact toNat_add_one (by omega)
      have later : (d.push .epoch .rule).2.nextId ≠ 0 := by
        intro zero
        rw [zero] at counter
        simp at counter
      obtain ⟨fits, gives⟩ := ih ((d.ids_push .epoch .rule).symm.subset (.tail _ old)) later
        (by omega) (if_neg later) (by rw [HasRoom, freshNat, if_neg later]; omega)
      exact ⟨⟨fun _ => opens, fits⟩, fun h => gives h.2⟩

/-- **Every identifier that a document gives from now on is new**, whatever happens to it as long as
the counter does not overflow, **if and only if its counter is zero or behind all its identifiers.**
The greatest number does not count, since it is never given. -/
theorem givesFresh_iff (d : Document) :
    (∀ cs, d.Fits cs → d.GivesFresh cs) ↔
      d.nextId = 0 ∨ ∀ id ∈ d.ids, id < d.nextId ∨ id.toNat + 1 = UInt64.size := by
  refine ⟨fun fresh => ?_, fun (ahead : d.Ahead) cs fits => ahead.givesFresh cs fits⟩
  by_contra behind
  simp only [not_or, not_forall] at behind
  obtain ⟨known, id, old, reached, less⟩ := behind
  have le := UInt64.le_iff_toNat_le.mp (UInt64.not_lt.mp reached)
  have bound := id.toNat_lt
  obtain ⟨fits, gives⟩ := not_givesFresh_replicate (n := id.toNat - d.nextId.toNat) old known
    (by omega) (by simp only [UInt64.size] at less ⊢; omega)
  exact gives (fresh _ fits)

/-- A text whose counter is the identifier of a block: the next block gets it as well. -/
theorem push_gives_used_id :
    let text := "\x7b\"blocks\":[\x7b\"id\":1,\"kind\":\"rule\"," ++
      "\"content\":\x7b\"type\":\"empty\"\x7d\x7d],\"next_id\":1\x7d"
    let d := { empty .epoch with blocks := [{ Block.rule with id := 1 }], nextId := 1 }
    load .epoch text = .ok d ∧ d.Fits [.push .epoch .rule] ∧
      (d.push .epoch .rule).1 = 1 ∧ (d.push .epoch .rule).2.ids = [1, 1] := by
  intro text d
  have loaded : load .epoch text = .ok d := by decide +kernel
  have room : d.HasRoom := by
    have next : d.freshNat = 1 := by decide
    rw [HasRoom, next]
    decide
  exact ⟨loaded, ⟨fun _ => room, trivial⟩, by decide, by decide⟩

end Document

end Agreement
