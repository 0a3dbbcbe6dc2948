/- # Agreement.Proofs.Render.Counting: a pass that counts writes the same markup

A rendering counts at many places: at every text that it resolves, at every item and after every
block. Each of its steps writes what the step without counts writes, and adds something to the
counters that depends on neither of the two. So the steps can be taken one after another, and what
they add is summed up, whatever becomes of the blocks.
-/
import Agreement.Render.Counting
import Mathlib.Algebra.BigOperators.Group.List.Basic

namespace Agreement

/-- What the first of a list gives, if anything, stands before what the others give. -/
theorem filterMap_cons_toList {α β : Type} (f : α → Option β) (a : α) (l : List α) :
    (a :: l).filterMap f = (f a).toList ++ l.filterMap f := by
  rw [List.filterMap_cons]
  cases f a <;> rfl

/-! ## Sums of counts -/

namespace Statistics

@[simps]
instance : Zero Statistics where
  zero := {}

@[simps]
instance : Add Statistics where
  add a b :=
    { blockCount := a.blockCount + b.blockCount
      paragraphCount := a.paragraphCount + b.paragraphCount
      headingCount := a.headingCount + b.headingCount
      tableCount := a.tableCount + b.tableCount
      listCount := a.listCount + b.listCount
      listItemCount := a.listItemCount + b.listItemCount
      signatureCount := a.signatureCount + b.signatureCount
      markerCount := a.markerCount + b.markerCount
      quoteCount := a.quoteCount + b.quoteCount
      unresolvedCount := a.unresolvedCount + b.unresolvedCount
      wordCount := a.wordCount + b.wordCount
      charCount := a.charCount + b.charCount }

instance : AddCommMonoid Statistics where
  add_assoc _ _ _ := by apply Statistics.ext <;> apply UInt32.add_assoc
  zero_add _ := by apply Statistics.ext <;> apply UInt32.zero_add
  add_zero _ := by apply Statistics.ext <;> apply UInt32.add_zero
  add_comm _ _ := by apply Statistics.ext <;> apply UInt32.add_comm
  nsmul := nsmulRec

/-- A block of a kind. -/
def ofKind (kind : BlockKind) : Statistics := addBlock 0 kind

/-- Items of lists. -/
def ofItems (n : Nat) : Statistics := { listItemCount := n.toUInt32 }

/-- A resolved text of the page. -/
def ofRunningText (s : String) : Statistics := addUnresolved 0 (Template.placeholderCount s)

/-- A resolved text of a block. -/
def ofText (s : String) : Statistics := countText (ofRunningText s) s

theorem addBlock_eq (s : Statistics) (kind : BlockKind) : s.addBlock kind = s + ofKind kind := by
  cases kind <;> apply Statistics.ext <;> simp [addBlock, ofKind]

theorem addListItem_eq (s : Statistics) : s.addListItem = s + ofItems 1 := by
  apply Statistics.ext <;> simp [addListItem, ofItems]

theorem addUnresolved_eq (s : Statistics) (n : Nat) :
    s.addUnresolved n = s + addUnresolved 0 n := by
  apply Statistics.ext <;> simp [addUnresolved]

theorem countText_eq (s : Statistics) (text : String) :
    s.countText text = s + countText 0 text := by
  apply Statistics.ext <;> simp [countText]

@[simp] theorem ofItems_zero : ofItems 0 = 0 := rfl

theorem ofItems_add (m n : Nat) : ofItems (m + n) = ofItems m + ofItems n := by
  apply Statistics.ext <;> simp [ofItems]

/-- The texts of blocks, as they are resolved. -/
def ofTexts (resolve : String → String) (texts : List String) : Statistics :=
  (texts.map fun s => ofText (resolve s)).sum

section Texts

variable (resolve : String → String)

@[simp] theorem ofTexts_nil : ofTexts resolve [] = 0 := rfl

theorem ofTexts_singleton (s : String) : ofTexts resolve [s] = ofText (resolve s) :=
  add_zero _

theorem ofTexts_append (texts more : List String) :
    ofTexts resolve (texts ++ more) = ofTexts resolve texts + ofTexts resolve more := by
  rw [ofTexts, List.map_append, List.sum_append]
  rfl

theorem ofTexts_flatMap {α : Type} (l : List α) (texts : α → List String) :
    ofTexts resolve (l.flatMap texts) = (l.map fun a => ofTexts resolve (texts a)).sum := by
  induction l with
  | nil => rfl
  | cons a l ih => rw [List.flatMap_cons, ofTexts_append, ih, List.map_cons, List.sum_cons]

end Texts

end Statistics

/-! ## Steps that count -/

/-- A step writes this and adds that to the counts if they are wanted, whatever they are. -/
def Counting.Writes {α : Type} (collect : Bool) (x : Counting α) (a : α) (u : Statistics) : Prop :=
  ∀ s, x.run s = (a, if collect then s + u else s)

namespace Counting.Writes

variable {α β : Type} {collect : Bool} {x : Counting α} {f : α → Counting β} {a : α} {b : β}
  {u v : Statistics}

theorem pure (a : α) : Writes collect (Pure.pure a) a 0 := by
  intro s
  cases collect with
  | true => exact congrArg (a, ·) (add_zero s).symm
  | false => rfl

theorem bind (first : Writes collect x a u) (second : Writes collect (f a) b v) :
    Writes collect (x >>= f) b (u + v) := by
  intro s
  rw [StateT.run_bind, first s]
  show (f a).run _ = _
  rw [second]
  cases collect with
  | true => exact congrArg (b, ·) (add_assoc s u v)
  | false => rfl

/-- A step after which something else is written than it gave, and nothing more is counted. -/
theorem map (first : Writes collect x a u) (g : α → β) :
    Writes collect (x >>= fun a => Pure.pure (g a)) (g a) u := by
  have both := first.bind (f := fun a => Pure.pure (g a)) (pure (g a))
  rwa [add_zero] at both

theorem mapM {l : List α} {f : α → Counting β} {g : α → β} {u : α → Statistics}
    (each : ∀ a, Writes collect (f a) (g a) (u a)) :
    Writes collect (l.mapM f) (l.map g) (l.map u).sum := by
  induction l with
  | nil => exact pure []
  | cons a l ih =>
      rw [List.mapM_cons]
      exact (each a).bind (ih.map (g a :: ·))

end Counting.Writes

namespace Html.Counting

open Agreement.Counting Statistics

variable (resolve : String → String) (options : RenderOptions)

theorem writes_count {step : Statistics → Statistics} {u : Statistics}
    (adds : ∀ s, step s = s + u) :
    Writes options.collectStatistics (count options step) () u := by
  intro s
  unfold count
  cases options.collectStatistics with
  | true => exact congrArg ((), ·) (adds s)
  | false => rfl

theorem writes_resolved_true (s : String) :
    Writes options.collectStatistics (resolved resolve options true s) (resolve s)
      (ofText (resolve s)) := by
  have left := writes_count options (addUnresolved_eq · (Template.placeholderCount (resolve s)))
  have counted := writes_count options (countText_eq · (resolve s))
  rw [ofText, countText_eq]
  exact left.bind (counted.map fun _ => resolve s)

theorem writes_resolved_false (s : String) :
    Writes options.collectStatistics (resolved resolve options false s) (resolve s)
      (ofRunningText (resolve s)) :=
  (writes_count options (addUnresolved_eq · _)).map fun _ => resolve s

theorem writes_cell (isHeader : Bool) (c : Cell) :
    Writes options.collectStatistics (cell resolve options isHeader c)
      (Html.cell resolve options isHeader c) (ofText (resolve c.text)) :=
  (writes_resolved_true resolve options c.text).map _

theorem writes_row (r : Row) :
    Writes options.collectStatistics (row resolve options r) (Html.row resolve options r)
      (ofTexts resolve (r.cells.map (·.text))) := by
  have cells := Writes.mapM (l := r.cells) (writes_cell resolve options r.isHeader)
  rw [ofTexts, List.map_map]
  exact cells.map _

theorem writes_table (declarations : List String) (t : Table) :
    Writes options.collectStatistics (table resolve options declarations t)
      (Html.table resolve options declarations t) (ofTexts resolve t.texts) := by
  have rows := Writes.mapM (l := t.rows) (writes_row resolve options)
  rw [Table.texts, ofTexts_flatMap]
  exact rows.map _

mutual

theorem writes_item (ordering : Ordering) : (i : Item) →
    Writes options.collectStatistics (item resolve options ordering i)
      (Html.item resolve ordering i) (ofTexts resolve i.texts + ofItems i.count)
  | .mk text children => by
    have one := writes_count options addListItem_eq
    have here := writes_resolved_true resolve options text
    have below := writes_items ordering children
    have counts : ofTexts resolve (text :: Item.textsOf children) +
          ofItems (1 + Item.countAll children) =
        ofItems 1 + (ofText (resolve text) +
          (ofTexts resolve (Item.textsOf children) + ofItems (Item.countAll children))) := by
      rw [← List.singleton_append, ofTexts_append, ofTexts_singleton, ofItems_add]
      ac_rfl
    rw [item, Html.item, Item.texts, Item.count, counts]
    exact one.bind (here.bind (below.map _))

theorem writes_items (ordering : Ordering) : (is : List Item) →
    Writes options.collectStatistics (items resolve options ordering is)
      (Html.items resolve ordering is)
      (ofTexts resolve (Item.textsOf is) + ofItems (Item.countAll is))
  | [] => by
    rw [items, Html.items, Item.countAll]
    exact .pure ""
  | next :: rest => by
    have first := writes_item ordering next
    have others := writes_items ordering rest
    have counts : ofTexts resolve (next.texts ++ Item.textsOf rest) +
          ofItems (next.count + Item.countAll rest) =
        (ofTexts resolve next.texts + ofItems next.count) +
          (ofTexts resolve (Item.textsOf rest) + ofItems (Item.countAll rest)) := by
      rw [ofTexts_append, ofItems_add]
      ac_rfl
    rw [items, Html.items, Item.textsOf, Item.countAll, counts]
    exact first.bind (others.map _)

end

end Html.Counting

/-! ## Blocks and documents -/

namespace Action

/-- What is written for a block whose element this is. -/
def written (element : String) : Action → String
  | .keep => element
  | .replace markup => markup ++ "\n"
  | .skip => ""

/-- What is counted for a block of a kind whose element counts for this. -/
def counts (kind : BlockKind) (element : Statistics) : Action → Statistics
  | .keep => element + .ofKind kind
  | .replace _ => .ofKind kind
  | .skip => 0

end Action

namespace Block

/-- What the element of a block counts for, as far as it is written after the decision about the
block. The text of a text block has been resolved and counted before that. -/
def elementCounts (resolve : String → String) (b : Block) : Statistics :=
  match b.content with
  | .table t => .ofTexts resolve t.texts
  | .list l => .ofTexts resolve (Item.textsOf l.items) + .ofItems l.itemCount
  | _ => 0

/-- What a block counts for that becomes this. -/
def counts (resolve : String → String) (b : Block) (a : Action) : Statistics :=
  .ofTexts resolve b.text?.toList + a.counts b.kind (b.elementCounts resolve)

end Block

theorem Document.runningTexts_eq (d : Document) (options : RenderOptions) :
    d.runningTexts options =
      (if options.includeHeaderFooter then d.page.header.toList else []) ++
        if options.includeHeaderFooter then d.page.footer.toList else [] := by
  unfold runningTexts
  cases options.includeHeaderFooter <;> rfl

/-- What a document counts for whose blocks become this. -/
def Document.counts (resolve : String → String) (options : RenderOptions) (d : Document)
    (actions : List Action) : Statistics :=
  ((d.runningTexts options).map fun s => .ofRunningText (resolve s)).sum +
    ((d.blocks.zip actions).map fun p => p.1.counts resolve p.2).sum

namespace Html.Counting

open Agreement.Counting Statistics

variable (resolve : String → String) (options : RenderOptions)

theorem writes_decided {element : Counting String} {markup : String} {u : Statistics}
    (writes : Writes options.collectStatistics element markup u) (kind : BlockKind) (a : Action) :
    Writes options.collectStatistics (decided options kind element a) (a.written markup)
      (a.counts kind u) := by
  have counted := writes_count options (addBlock_eq · kind)
  cases a with
  | keep => exact writes.bind (counted.map fun _ => markup)
  | replace other => exact counted.map fun _ => other ++ "\n"
  | skip => exact .pure ""

theorem blockWith_eq_written (styles : StyleSheet) (b : Block) (a : Action) :
    blockWith resolve options styles b a = a.written (Html.block resolve options styles b) := by
  cases a <;> rfl

theorem writes_block (styles : StyleSheet) (b : Block) (a : Action) :
    Writes options.collectStatistics (block resolve options styles b a)
      (blockWith resolve options styles b a) (b.counts resolve a) := by
  let declarations := b.declarations options styles
  rw [blockWith_eq_written, block, Html.block, Block.counts, Block.text?, Block.elementCounts]
  cases b.content with
  | text s =>
      have text := writes_resolved_true resolve options s
      rw [← ofTexts_singleton] at text
      exact text.bind (writes_decided options (.pure _) b.kind a)
  | table t =>
      have element := writes_table resolve options declarations t
      rw [Option.toList, ofTexts_nil, zero_add]
      exact writes_decided options element b.kind a
  | list l =>
      have below := writes_items resolve options
        (if b.isOrdered then some (b.numbering l) else none) l.items
      rw [Option.toList, ofTexts_nil, zero_add]
      exact writes_decided options (below.map _) b.kind a
  | empty =>
      rw [Option.toList, ofTexts_nil, zero_add]
      exact writes_decided options (.pure _) b.kind a

theorem writes_runningText (tag : String) (text : Option String) :
    Writes options.collectStatistics (runningText resolve options tag text)
      (Html.runningText resolve options tag text)
      ((if options.includeHeaderFooter then text.toList else []).map
        fun s => ofRunningText (resolve s)).sum := by
  cases text with
  | none =>
      rw [Option.toList, ite_self]
      exact .pure ""
  | some s =>
      rw [runningText, Html.runningText]
      cases options.includeHeaderFooter with
      | true =>
          have text := writes_resolved_false resolve options s
          simp only [if_true, Option.toList, List.map_cons, List.map_nil, List.sum_cons,
            List.sum_nil, add_zero]
          exact text.map _
      | false => exact .pure ""

theorem writes_document (d : Document) (actions : List Action) :
    Writes options.collectStatistics (document resolve options d actions)
      (Html.document resolve options d actions) (d.counts resolve options actions) := by
  have header := writes_runningText resolve options "header" d.page.header
  have blocks := Writes.mapM (l := d.blocks.zip actions) fun p =>
    writes_block resolve options d.styles p.1 p.2
  have footer := writes_runningText resolve options "footer" d.page.footer
  rw [Document.counts, Document.runningTexts_eq, List.map_append, List.sum_append, add_right_comm,
    add_assoc]
  exact header.bind (blocks.bind (footer.map _))

end Html.Counting

namespace Document

variable (d : Document) (lex : Lexicon) (ctx : Context) (options : RenderOptions)

/-- A document is written as it is without counts, and its counts are added. -/
theorem writes_write (actions : List Action) :
    Counting.Writes options.collectStatistics (d.write lex ctx options actions)
      (d.htmlWith lex ctx options actions)
      (d.counts (Template.resolve lex ctx) options actions) :=
  (Html.Counting.writes_document (Template.resolve lex ctx) options d actions).map _

theorem render_eq (actions : List Action) :
    d.render lex ctx options actions =
      { content := d.htmlWith lex ctx options actions
        metadata := d.metadata
        statistics := d.counts (Template.resolve lex ctx) options actions } := by
  have written := d.writes_write lex ctx { options with collectStatistics := true } actions {}
  simp only [if_true] at written
  unfold render
  rw [written]
  exact congrArg _ (zero_add _)

end Document

end Agreement
