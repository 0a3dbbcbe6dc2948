/- # Agreement.Proofs.Document.Drafting: composed documents show their clauses

There are two ways to the text of a clause. It is resolved as it stands in the library, or a
document is composed with it, block by block, and the plain text of the document is taken. They
agree: nothing is indented in a document that is composed, so a body of several lines stays as it
is, and each block shows the text that is resolved from the library.
-/
import Agreement.Drafting
import Agreement.Proofs.Document.Identifiers
import Agreement.Proofs.Render.PlainText

namespace Agreement

namespace Document

/-! ## Blocks one after the other -/

/-- The counter goes up by one with every block, also from the greatest number. -/
theorem freshId_push (d : Document) (now : Timestamp) (b : Block) :
    (d.push now b).2.freshId = d.freshId + 1 := by
  have counter : (d.push now b).2.nextId = d.freshId + 1 := rfl
  rw [freshId, counter]
  split
  · next overflow =>
    -- the block that was put in has the greatest number there is
    have listed : d.freshId ∈ (d.push now b).2.ids :=
      (d.ids_push now b).symm.subset List.mem_cons_self
    have bound := UInt64.le_iff_toNat_le.mp (le_maxId listed)
    have greatest := congrArg UInt64.toNat overflow
    have limit := (maxId (d.push now b).2.blocks).toNat_lt
    have small := d.freshId.toNat_lt
    apply UInt64.toNat_inj.mp
    simp only [UInt64.toNat_add, UInt64.toNat_one, UInt64.toNat_zero] at greatest ⊢
    omega
  · rfl

/-- The document with blocks at its end. -/
def pushAll (d : Document) (now : Timestamp) (blocks : List Block) : Document :=
  blocks.foldl (fun doc b => (doc.push now b).2) d

theorem ids_pushAll (d : Document) (now : Timestamp) (blocks : List Block) :
    (d.pushAll now blocks).ids =
      d.ids ++ (List.range blocks.length).map fun i => d.freshId + UInt64.ofNat i := by
  induction blocks generalizing d with
  | nil => simp [pushAll]
  | cons b blocks ih =>
      have first : (d.push now b).2.ids = d.ids ++ [d.freshId] := by
        rw [ids, push, withBlocks, List.map_append]
        rfl
      rw [pushAll, List.foldl_cons, ← pushAll, ih, first, freshId_push, List.length_cons,
        List.range_succ_eq_map, List.map_cons, List.map_map, List.append_assoc]
      have later (i : Nat) :
          d.freshId + 1 + UInt64.ofNat i = d.freshId + UInt64.ofNat (i + 1) := by
        rw [UInt64.ofNat_add, UInt64.add_assoc, UInt64.add_comm 1]
        rfl
      simp [later]

/-- The identifier of a block makes no difference to what it shows. -/
theorem map_block_pushAll (resolve : String → String) (options : RenderOptions) (d : Document)
    (now : Timestamp) (blocks : List Block) :
    (d.pushAll now blocks).blocks.map (PlainText.block resolve options) =
      (d.blocks ++ blocks).map (PlainText.block resolve options) := by
  induction blocks generalizing d with
  | nil => rw [pushAll, List.foldl_nil, List.append_nil]
  | cons b blocks ih =>
      have same : PlainText.block resolve options { b with id := d.freshId } =
        PlainText.block resolve options b := rfl
      rw [pushAll, List.foldl_cons, ← pushAll, ih, List.append_cons]
      simp only [push, withBlocks, List.map_append, List.map_singleton, same]

theorem page_pushAll (d : Document) (now : Timestamp) (blocks : List Block) :
    (d.pushAll now blocks).page = d.page := by
  induction blocks generalizing d with
  | nil => rfl
  | cons b blocks ih => exact ih _

end Document

/-! ## What the blocks of a clause show -/

/-- A text without indentation is shown as it stands, however many lines it has. -/
theorem PlainText.block_of_text {resolve : String → String} {options : RenderOptions} {b : Block}
    {s : String} (content : b.content = .text s) (level : b.placement.indentLevel = 0)
    (kind : b.kind ≠ .quote) : block resolve options b = (resolve s).toList := by
  have front : indent b.placement.indentLevel.toNat = [] := by rw [level]; rfl
  unfold block
  rw [content, front]
  cases shown : b.kind with
  | quote => exact absurd shown kind
  | _ => rfl

namespace Library

variable {lib : Library} {id : String}

theorem require_of_get? {c : Clause} (found : lib.get? id = some c) : lib.require id = .ok c := by
  rw [require, found]

theorem require_of_none (missing : lib.get? id = none) :
    lib.require id = .error (.templateNotFound id) := by
  rw [require, missing]

end Library

namespace Drafting

variable {d : Drafting} {now : Timestamp} {title : String} {ids : List String}

/-! ## Documents of clauses -/

/-- The blocks that a clause adds to a document. -/
def blocksOf (c : Clause) : List Block :=
  [{ kind := .heading2, content := .text c.title }, .paragraph c.body]

/-- The heading of a document. -/
def heading (title : String) : Block := { kind := .heading1, content := .text title }

theorem clauseBlocks_of_get? {id : String} {c : Clause} (found : d.library.get? id = some c) :
    d.clauseBlocks id = .ok (blocksOf c) := by
  rw [clauseBlocks, Library.require_of_get? found]
  rfl

theorem clauseBlocks_of_none {id : String} (missing : d.library.get? id = none) :
    d.clauseBlocks id = .error (.templateNotFound id) := by
  rw [clauseBlocks, Library.require_of_none missing]
  rfl

/-- A document is composed of the blocks of its clauses. -/
theorem compose_eq_ok {clauses : List Clause}
    (known : List.Forall₂ (fun id c => d.library.get? id = some c) ids clauses) :
    d.compose now title ids = .ok ((Document.titled now title).pushAll now
      (heading title :: clauses.flatMap blocksOf)) := by
  have blocks : ids.mapM d.clauseBlocks = .ok (clauses.map blocksOf) := by
    apply Except.mapM_eq_ok
    apply List.forall₂_map_right_iff.mpr
    exact known.imp fun id c found => clauseBlocks_of_get? found
  rw [compose, blocks, List.flatMap_def]
  rfl

/-- A document is refused with the first clause that is missing. -/
theorem compose_eq_error {id : String} {front back : List String}
    (known : ∀ id ∈ front, (d.library.get? id).isSome) (missing : d.library.get? id = none) :
    d.compose now title (front ++ id :: back) = .error (.templateNotFound id) := by
  have refused : (front ++ id :: back).mapM d.clauseBlocks = .error (.templateNotFound id) := by
    apply Except.mapM_eq_error _ (clauseBlocks_of_none missing)
    intro id hid
    obtain ⟨c, found⟩ := Option.isSome_iff_exists.mp (known id hid)
    exact ⟨blocksOf c, clauseBlocks_of_get? found⟩
  rw [compose, refused]
  rfl

/-- The texts that a clause shows. -/
def textsOf (d : Drafting) (c : Clause) : List String := [d.resolve c.title, d.resolve c.body]

theorem map_block_blocksOf (d : Drafting) (c : Clause) :
    (blocksOf c).map (PlainText.block d.resolve d.rendering) =
      (d.textsOf c).map String.toList := by
  have title : PlainText.block d.resolve d.rendering
      { kind := .heading2, content := .text c.title } = (d.resolve c.title).toList :=
    PlainText.block_of_text rfl rfl nofun
  have body : PlainText.block d.resolve d.rendering (.paragraph c.body) =
      (d.resolve c.body).toList :=
    PlainText.block_of_text rfl rfl nofun
  rw [blocksOf, List.map_cons, List.map_singleton, title, body]
  rfl

/-- **Plain text of clauses under a title is the resolved texts**, with blank lines between them. -/
theorem plainText_pushAll (d : Drafting) (now : Timestamp) (title : String)
    (clauses : List Clause) :
    d.plainText ((Document.titled now title).pushAll now
        (heading title :: clauses.flatMap blocksOf)) =
      String.ofList (Text.trim (['\n', '\n'].intercalate
        ((d.resolve title :: clauses.flatMap d.textsOf).map String.toList))) := by
  let blocks := heading title :: clauses.flatMap blocksOf
  have page := Document.page_pushAll (Document.titled now title) now blocks
  have parts : PlainText.parts d.resolve d.rendering
      ((Document.titled now title).pushAll now blocks) =
        (d.resolve title :: clauses.flatMap d.textsOf).map String.toList := by
    have first : PlainText.block d.resolve d.rendering (heading title) =
        (d.resolve title).toList :=
      PlainText.block_of_text rfl rfl nofun
    have no_blocks : (Document.titled now title).blocks = [] := rfl
    rw [Document.parts_of_no_running_text (congrArg Page.header page) (congrArg Page.footer page),
      Document.map_block_pushAll, no_blocks, List.nil_append]
    simp only [blocks, List.map_cons, List.map_flatMap, map_block_blocksOf, first]
  rw [← parts]
  rfl

theorem length_flatMap_blocksOf (clauses : List Clause) :
    (clauses.flatMap blocksOf).length = 2 * clauses.length := by
  have two (c : Clause) : (blocksOf c).length = 2 := rfl
  rw [List.length_flatMap]
  simp [two, Nat.mul_comm]

/-- Blocks that are put in an empty document are numbered from one. -/
theorem ids_pushAll_titled (now : Timestamp) (title : String) (blocks : List Block) :
    ((Document.titled now title).pushAll now blocks).ids =
      (List.range' 1 blocks.length).map UInt64.ofNat := by
  have empty : (Document.titled now title).ids = [] := rfl
  have fresh : (Document.titled now title).freshId = 1 := rfl
  rw [Document.ids_pushAll, empty, fresh, List.nil_append, List.range'_eq_map_range, List.map_map]
  apply List.map_congr_left
  intro i _
  exact (UInt64.ofNat_add 1 i).symm

/-- The clauses of a library that identities stand for. -/
theorem exists_clauses (all : ids.find? (fun id => (d.library.get? id).isNone) = none) :
    ∃ clauses, List.Forall₂ (fun id c => d.library.get? id = some c) ids clauses := by
  refine ⟨ids.map fun id => (d.library.get? id).getD default, ?_⟩
  apply List.forall₂_map_right_iff.mpr
  apply List.forall₂_same.mpr
  intro id hid
  have known := List.find?_eq_none.mp all id hid
  obtain ⟨c, found⟩ : ∃ c, d.library.get? id = some c := by
    simpa [Option.ne_none_iff_exists'] using known
  rw [found, Option.getD_some]

/-- **Composing agrees with resolving the clauses.** The first clause that is not in the library
refuses the document. Otherwise the document has its title and two blocks for each clause, numbered
from one, and its plain text is the resolved title and for each clause the resolved title and the
text of the clause, with blank lines between them and no blank space at the ends. -/
theorem compose_agrees (d : Drafting) (now : Timestamp) (title : String) (ids : List String) :
    (∀ id, ids.find? (fun id => (d.library.get? id).isNone) = some id →
      d.compose now title ids = .error (.templateNotFound id)) ∧
    (ids.find? (fun id => (d.library.get? id).isNone) = none →
      ∃ doc texts, d.compose now title ids = .ok doc ∧ doc.size = 1 + 2 * ids.length ∧
        doc.ids = (List.range' 1 (1 + 2 * ids.length)).map UInt64.ofNat ∧
        List.Forall₂ (fun id shown => ∃ c body, d.library.get? id = some c ∧
          d.resolveClause id = .ok body ∧ shown = [d.resolve c.title, body]) ids texts ∧
        d.plainText doc = String.ofList (Text.trim (['\n', '\n'].intercalate
          ((d.resolve title :: texts.flatten).map String.toList)))) := by
  constructor
  · intro id first
    obtain ⟨missing, front, back, rfl, before⟩ := List.find?_eq_some_iff_append.mp first
    exact compose_eq_error (by simpa using before) (by simpa using missing)
  · intro all
    obtain ⟨clauses, known⟩ := exists_clauses all
    have numbered := ids_pushAll_titled now title (heading title :: clauses.flatMap blocksOf)
    rw [List.length_cons, length_flatMap_blocksOf, ← known.length_eq, Nat.add_comm] at numbered
    refine ⟨_, clauses.map d.textsOf, compose_eq_ok known, ?_, numbered, ?_, ?_⟩
    · have size := congrArg List.length numbered
      simpa [Document.ids, Document.size] using size
    · apply List.forall₂_map_right_iff.mpr
      apply known.imp
      intro id c found
      refine ⟨c, d.resolve c.body, found, ?_, rfl⟩
      rw [resolveClause, Library.require_of_get? found]
      rfl
    · rw [← List.flatMap_def]
      exact plainText_pushAll d now title clauses

/-- A body of two lines keeps the blanks before the second one. -/
theorem compose_agrees_two_lines :
    let c : Clause := { id := "a", title := "b", category := "", body := "c\n  d \n" }
    let d : Drafting := { registry := ⟨.empty⟩, library := ⟨[c]⟩ }
    d.compose .epoch " t" ["a", "x", "y"] = .error (.templateNotFound "x") ∧
      ∃ doc, d.compose .epoch " t" ["a"] = .ok doc ∧ doc.size = 3 ∧ doc.ids = [1, 2, 3] ∧
        d.plainText doc = "t\n\nb\n\nc\n  d" := by
  intro c d
  obtain ⟨refused, -⟩ := compose_agrees d .epoch " t" ["a", "x", "y"]
  obtain ⟨-, composed⟩ := compose_agrees d .epoch " t" ["a"]
  obtain ⟨doc, texts, made, size, ids, shown, text⟩ := composed (by decide +kernel)
  refine ⟨refused "x" (by decide +kernel), doc, made, size, ids, ?_⟩
  obtain _ | ⟨⟨c', body, found, resolved, rfl⟩, _ | _⟩ := shown
  obtain rfl : c' = c := Option.some.inj (found.symm.trans (by decide +kernel))
  obtain rfl : body = "c\n  d \n" := Except.ok.inj (resolved.symm.trans (by decide +kernel))
  rw [text]
  decide +kernel

end Drafting

end Agreement
