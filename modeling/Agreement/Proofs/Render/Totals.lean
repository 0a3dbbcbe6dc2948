/- # Agreement.Proofs.Render.Totals: counts are exact

What a document adds to the counters is put in order: the texts of the page, the texts of the
blocks, the items and the blocks. Each counter counts these in weights of its own, so what it holds
at the end is a weighted sum, as far as it can count. For the counters of blocks the weights say
which kinds count, and for the others what there is in a text.
-/
import Agreement.Proofs.Render.Counting
import Mathlib.Algebra.GroupWithZero.Nat

namespace Agreement

/-! ## What is counted of documents -/

namespace Block

variable (resolve : String → String)

/-- A block that is kept counts with all its texts and items. -/
theorem counts_keep (b : Block) :
    b.counts resolve .keep =
      .ofTexts resolve b.texts + .ofItems (b.list?.toList.map ItemList.itemCount).sum +
        .ofKind b.kind := by
  unfold counts Action.counts elementCounts text? texts list?
  cases b.content <;> simp [add_assoc]

theorem sum_counts_keep (bs : List Block) :
    (bs.map (counts resolve · .keep)).sum =
      .ofTexts resolve (bs.flatMap texts) +
        .ofItems ((bs.filterMap list?).map ItemList.itemCount).sum +
        (bs.map fun b => Statistics.ofKind b.kind).sum := by
  induction bs with
  | nil => rfl
  | cons b bs ih =>
      rw [List.map_cons, List.sum_cons, ih, counts_keep, List.flatMap_cons, filterMap_cons_toList,
        List.map_append, List.sum_append, Statistics.ofTexts_append, Statistics.ofItems_add,
        List.map_cons, List.sum_cons]
      ac_rfl

end Block

namespace Document

theorem counts_keepAll (resolve : String → String) (options : RenderOptions) (d : Document) :
    d.counts resolve options d.keepAll =
      ((d.runningTexts options).map fun s => .ofRunningText (resolve s)).sum +
        (.ofTexts resolve d.texts + .ofItems (d.lists.map ItemList.itemCount).sum +
          (d.blocks.map fun b => Statistics.ofKind b.kind).sum) := by
  rw [counts, zip_keepAll, List.map_map]
  exact congrArg (_ + ·) (Block.sum_counts_keep resolve d.blocks)

/-- The number of blocks of some kinds. -/
def countKinds (d : Document) (kinds : List BlockKind) : Nat := d.blocks.countP (·.kind ∈ kinds)

/-- Every block is of one of seven sorts. -/
theorem size_eq_sum_countKinds (d : Document) :
    d.size =
      d.countKinds [.paragraph] + d.countKinds [.heading1, .heading2, .heading3, .heading4] +
        d.countKinds [.table] + d.countKinds [.bulletedList, .numberedList] +
        d.countKinds [.signature] + d.countKinds [.pageBreak, .rule] + d.countKinds [.quote] := by
  unfold size countKinds
  induction d.blocks with
  | nil => rfl
  | cons b blocks ih =>
      rw [List.length_cons, ih]
      simp only [List.countP_cons]
      cases b.kind <;> simp <;> omega

end Document

/-! ## Counters and their weights -/

/-- What a counter counts, for every text of the page, text of a block, item and block. -/
structure Weights where
  running : String → Nat := fun _ => 0
  text : String → Nat := fun _ => 0
  item : Nat := 0
  kind : BlockKind → Nat := fun _ => 0

/-- What a document comes to in these weights. -/
def Weights.total (w : Weights) (resolve : String → String) (options : RenderOptions)
    (d : Document) : Nat :=
  ((d.runningTexts options).map fun s => w.running (resolve s)).sum +
    ((d.texts.map fun s => w.text (resolve s)).sum +
      (d.lists.map ItemList.itemCount).sum * w.item + (d.blocks.map fun b => w.kind b.kind).sum)

/-- A counter among the counts that counts in these weights. -/
structure Statistics.Weighs (f : Statistics → UInt32) (w : Weights) : Prop where
  zero : f 0 = 0
  add : ∀ a b, f (a + b) = f a + f b
  running : ∀ s, f (ofRunningText s) = (w.running s).toUInt32
  text : ∀ s, f (ofText s) = (w.text s).toUInt32
  items : ∀ n, f (ofItems n) = (n * w.item).toUInt32
  kind : ∀ k, f (ofKind k) = (w.kind k).toUInt32

namespace Statistics.Weighs

variable {f : Statistics → UInt32} {w : Weights}

theorem sum_eq {α : Type} (weighs : Weighs f w) {g : α → Statistics} {n : α → Nat}
    (each : ∀ a, f (g a) = (n a).toUInt32) (l : List α) :
    f (l.map g).sum = (l.map n).sum.toUInt32 := by
  induction l with
  | nil => exact weighs.zero
  | cons a l ih =>
      rw [List.map_cons, List.sum_cons, weighs.add, each, ih, List.map_cons, List.sum_cons]
      exact (UInt32.ofNat_add _ _).symm

/-- A counter of 32 bits holds what a document comes to, as far as it can count. -/
theorem counts_keepAll (weighs : Weighs f w) (resolve : String → String) (options : RenderOptions)
    (d : Document) :
    f (d.counts resolve options d.keepAll) = (w.total resolve options d).toUInt32 := by
  have running := weighs.sum_eq (fun s => weighs.running (resolve s)) (d.runningTexts options)
  have texts := weighs.sum_eq (fun s => weighs.text (resolve s)) d.texts
  have kinds := weighs.sum_eq (fun b : Block => weighs.kind b.kind) d.blocks
  rw [d.counts_keepAll, weighs.add, weighs.add, weighs.add, running, kinds, weighs.items, ofTexts,
    texts, Weights.total]
  simp only [Nat.toUInt32_eq, UInt32.ofNat_add]

theorem toNat_counts_keepAll (weighs : Weighs f w) {resolve : String → String}
    {options : RenderOptions} {d : Document} {n : Nat} (total : w.total resolve options d = n)
    (small : n < 2 ^ 32) : (f (d.counts resolve options d.keepAll)).toNat = n := by
  rw [weighs.counts_keepAll, total]
  exact UInt32.toNat_ofNat_of_lt' small

end Statistics.Weighs

namespace Document

variable {f : Statistics → UInt32} {resolve : String → String} {options : RenderOptions}
  {d : Document}

theorem sum_kinds (d : Document) (kinds : List BlockKind) :
    (d.blocks.map fun b => if b.kind ∈ kinds then 1 else 0).sum = d.countKinds kinds := by
  unfold countKinds
  induction d.blocks with
  | nil => rfl
  | cons b blocks ih =>
      rw [List.map_cons, List.sum_cons, ih, List.countP_cons, Nat.add_comm]
      simp only [decide_eq_true_eq]

/-- A counter that counts the blocks of some kinds, and nothing else, holds their number. -/
theorem toNat_kindCounter {kinds : List BlockKind} (add : ∀ a b, f (a + b) = f a + f b)
    (kind : ∀ k, f (.ofKind k) = (if k ∈ kinds then 1 else 0 : Nat).toUInt32)
    (others : ∀ items left words chars, f
      { listItemCount := items, unresolvedCount := left, wordCount := words,
        charCount := chars } = 0)
    (small : d.size < 2 ^ 32) :
    (f (d.counts resolve options d.keepAll)).toNat = d.countKinds kinds := by
  have weighs : Statistics.Weighs f { kind := fun k => if k ∈ kinds then 1 else 0 } :=
    { zero := others 0 0 0 0
      add := add
      running := fun s => others ..
      text := fun s => others ..
      items := fun n => others ..
      kind := kind }
  have total : Weights.total { kind := fun k => if k ∈ kinds then 1 else 0 } resolve options d =
      d.countKinds kinds := by
    simp [Weights.total, sum_kinds]
  have bound : d.countKinds kinds ≤ d.size := List.countP_le_length
  exact weighs.toNat_counts_keepAll total (Nat.lt_of_le_of_lt bound small)

end Document

theorem weighs_listItemCount : Statistics.Weighs (·.listItemCount) { item := 1 } where
  zero := rfl
  add _ _ := rfl
  running _ := rfl
  text _ := rfl
  items n := by rw [Nat.mul_one]; rfl
  kind k := by cases k <;> rfl

theorem weighs_wordCount : Statistics.Weighs (·.wordCount) { text := Statistics.wordsIn } where
  zero := rfl
  add _ _ := rfl
  running _ := rfl
  text _ := UInt32.zero_add _
  items n := rfl
  kind k := by cases k <;> rfl

theorem weighs_charCount : Statistics.Weighs (·.charCount) { text := Statistics.charsIn } where
  zero := rfl
  add _ _ := rfl
  running _ := rfl
  text _ := UInt32.zero_add _
  items n := rfl
  kind k := by cases k <;> rfl

theorem weighs_unresolvedCount :
    Statistics.Weighs (·.unresolvedCount)
      { running := Template.placeholderCount, text := Template.placeholderCount } where
  zero := rfl
  add _ _ := rfl
  running _ := UInt32.zero_add _
  text _ := UInt32.zero_add _
  items n := rfl
  kind k := by cases k <;> rfl

namespace Document

/-- The counters of blocks hold the numbers of blocks, of all and of each of the seven sorts. -/
theorem kind_counters (d : Document) (resolve : String → String) (options : RenderOptions)
    (small : d.size < 2 ^ 32) :
    let s := d.counts resolve options d.keepAll
    s.blockCount.toNat = d.size ∧
    s.paragraphCount.toNat = d.countKinds [.paragraph] ∧
    s.headingCount.toNat = d.countKinds [.heading1, .heading2, .heading3, .heading4] ∧
    s.tableCount.toNat = d.countKinds [.table] ∧
    s.listCount.toNat = d.countKinds [.bulletedList, .numberedList] ∧
    s.signatureCount.toNat = d.countKinds [.signature] ∧
    s.markerCount.toNat = d.countKinds [.pageBreak, .rule] ∧
    s.quoteCount.toNat = d.countKinds [.quote] := by
  have every : d.countKinds BlockKind.all = d.size :=
    List.countP_eq_length.mpr fun b _ => by cases b.kind <;> rfl
  rw [← every]
  refine ⟨?_, ?_, ?_, ?_, ?_, ?_, ?_, ?_⟩ <;>
    apply toNat_kindCounter (fun _ _ => rfl) (fun k => by cases k <;> rfl) (fun _ _ _ _ => rfl)
      small

/-- **Counts are exact, and leave the markup alone.** For every document, context, lexicon and
options, without a visitor, a rendering with counts gives the markup of the document, and so does
every pass over it, whether it counts or not and whatever has been counted before. Each counter
holds its number, if that has no more than 32 bits. The blocks are counted one by one, and each of
them in one of the seven sorts; the items of all lists at every depth; the words and characters of
what resolution makes of the texts of text blocks, cells and items; and the placeholders that it
leaves in these and, if they are included, in the texts of the page. -/
theorem render_counts (d : Document) (lex : Lexicon) (ctx : Context) (options : RenderOptions) :
    let rendering := d.render lex ctx options d.keepAll
    let s := rendering.statistics
    let texts := d.texts.map (Template.resolve lex ctx)
    let running := (d.runningTexts options).map (Template.resolve lex ctx)
    let items := (d.lists.map ItemList.itemCount).sum
    let words := (texts.map Statistics.wordsIn).sum
    let chars := (texts.map Statistics.charsIn).sum
    let unresolved := ((texts ++ running).map Template.placeholderCount).sum
    rendering.content = d.html lex ctx options ∧ rendering.metadata = d.metadata ∧
    (∀ s, ((d.write lex ctx options d.keepAll).run s).1 = d.html lex ctx options) ∧
    (d.size < 2 ^ 32 →
      s.blockCount.toNat = d.size ∧
      s.blockCount.toNat =
        s.paragraphCount.toNat + s.headingCount.toNat + s.tableCount.toNat + s.listCount.toNat +
          s.signatureCount.toNat + s.markerCount.toNat + s.quoteCount.toNat ∧
      s.paragraphCount.toNat = d.countKinds [.paragraph] ∧
      s.headingCount.toNat = d.countKinds [.heading1, .heading2, .heading3, .heading4] ∧
      s.tableCount.toNat = d.countKinds [.table] ∧
      s.listCount.toNat = d.countKinds [.bulletedList, .numberedList] ∧
      s.signatureCount.toNat = d.countKinds [.signature] ∧
      s.markerCount.toNat = d.countKinds [.pageBreak, .rule] ∧
      s.quoteCount.toNat = d.countKinds [.quote]) ∧
    (items < 2 ^ 32 → s.listItemCount.toNat = items) ∧
    (words < 2 ^ 32 → s.wordCount.toNat = words) ∧
    (chars < 2 ^ 32 → s.charCount.toNat = chars) ∧
    (unresolved < 2 ^ 32 → s.unresolvedCount.toNat = unresolved) := by
  intro rendering s texts running items words chars unresolved
  have rendered := d.render_eq lex ctx options d.keepAll
  have counts : s = d.counts (Template.resolve lex ctx) options d.keepAll :=
    congrArg Rendering.statistics rendered
  rw [counts]
  refine ⟨congrArg Rendering.content rendered, congrArg Rendering.metadata rendered,
    fun s => congrArg Prod.fst (d.writes_write lex ctx options d.keepAll s), fun small => ?_,
    fun small => ?_, fun small => ?_, fun small => ?_, fun small => ?_⟩
  · obtain ⟨blocks, paragraphs, headings, tables, lists, signatures, markers, quotes⟩ :=
      d.kind_counters (Template.resolve lex ctx) options small
    refine ⟨blocks, ?_, paragraphs, headings, tables, lists, signatures, markers, quotes⟩
    rw [blocks, paragraphs, headings, tables, lists, signatures, markers, quotes]
    exact d.size_eq_sum_countKinds
  · refine weighs_listItemCount.toNat_counts_keepAll ?_ small
    simp [Weights.total, items]
  · refine weighs_wordCount.toNat_counts_keepAll ?_ small
    simp [Weights.total, words, texts, Function.comp_def]
  · refine weighs_charCount.toNat_counts_keepAll ?_ small
    simp [Weights.total, chars, texts, Function.comp_def]
  · refine weighs_unresolvedCount.toNat_counts_keepAll ?_ small
    simp [Weights.total, unresolved, texts, running, Function.comp_def, add_comm]

/-- Three blocks under a text of the page. No value is known, and two placeholders are left. -/
theorem render_counts_three_blocks :
    let d : Document := { empty .epoch with
      page := { header := some "\x7b\x7bא\x7d\x7d" }
      blocks := [.paragraph "ב \x7b\x7bג\x7d\x7d",
        .bulletedList { items := [.mk "ד" [.mk "ה ו" []]] }, .rule] }
    let s := (d.render .empty {} {} d.keepAll).statistics
    (d.size < 2 ^ 32 ∧ s.blockCount.toNat = 3 ∧ s.listCount.toNat = 1) ∧
    ((d.lists.map ItemList.itemCount).sum < 2 ^ 32 ∧ s.listItemCount.toNat = 2) ∧
    s.wordCount.toNat = 5 ∧ s.charCount.toNat = 9 ∧ s.unresolvedCount.toNat = 2 := by
  intro d s
  obtain ⟨-, -, -, blocks, items, words, chars, left⟩ := d.render_counts .empty {} {}
  have small : d.size < 2 ^ 32 := by decide
  have few : (d.lists.map ItemList.itemCount).sum < 2 ^ 32 := by decide
  obtain ⟨count, -, -, -, -, lists, -⟩ := blocks small
  refine ⟨⟨small, count, lists⟩, ⟨few, items few⟩, ?_, ?_, ?_⟩
  · exact (words (by decide +kernel)).trans (by decide +kernel)
  · exact (chars (by decide +kernel)).trans (by decide +kernel)
  · exact (left (by decide +kernel)).trans (by decide +kernel)

end Document

end Agreement
