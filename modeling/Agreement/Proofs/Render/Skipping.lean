/- # Agreement.Proofs.Render.Skipping: dropping blocks and not having them

A visitor can drop the blocks of some kinds. What is written is then what is written without these
blocks, and most counts are the counts without them. A text block is different from the others in
one way: its text is resolved and counted before the visitor is asked, so words, characters and
open placeholders of a dropped text stay in the counts.
-/
import Agreement.Proofs.Document.Building
import Agreement.Proofs.Render.Totals
import Agreement.Proofs.Template.PlainTexts
import Agreement.Proofs.Text.Words

namespace Agreement

/-! ## What a visit tells -/

/-- The kind of the block that a visit is about. -/
def Visit.kind? : Visit → Option BlockKind
  | .heading level _ => (BlockKind.heading level).toOption
  | .text kind _ => some kind
  | .table _ => some .table
  | .list _ ordered => some (if ordered then .numberedList else .bulletedList)
  | .marker kind => some kind

/-- A visit tells the kind of a block whose content is what that kind holds. -/
theorem Block.kind?_visit {b : Block} (fits : b.kind.contentType = b.content.type) (lex : Lexicon)
    (ctx : Context) : (b.visit lex ctx).kind? = some b.kind := by
  unfold visit isOrdered
  cases content : b.content <;> cases kind : b.kind <;> rw [content, kind] at fits <;>
    first | rfl | cases fits

/-! ## Steps with a state -/

theorem StateT.fst_run_bind {σ α β : Type} (x : StateM σ α) (f : α → StateM σ β) (s : σ) :
    ((x >>= f).run s).1 = ((f (x.run s).1).run (x.run s).2).1 := rfl

/-- Steps whose results do not depend on the state give these results one after another. -/
theorem StateT.fst_run_mapM {σ α β : Type} {f : α → StateM σ β} {g : α → β} {l : List α}
    (each : ∀ a ∈ l, ∀ s, ((f a).run s).1 = g a) (s : σ) : ((l.mapM f).run s).1 = l.map g := by
  induction l generalizing s with
  | nil => rfl
  | cons a l ih =>
      obtain ⟨here, there⟩ := List.forall_mem_cons.mp each
      rw [List.mapM_cons, fst_run_bind, here, fst_run_bind, ih there]
      rfl

/-! ## Visitors that drop -/

/-- The decision that drops the blocks of some kinds and leaves all others alone. -/
def Action.dropping (kinds : List BlockKind) (kind : BlockKind) : Action :=
  if kind ∈ kinds then .skip else .keep

theorem Action.dropping_of_mem {kinds : List BlockKind} {kind : BlockKind} (h : kind ∈ kinds) :
    dropping kinds kind = .skip :=
  if_pos h

theorem Action.dropping_of_not_mem {kinds : List BlockKind} {kind : BlockKind} (h : kind ∉ kinds) :
    dropping kinds kind = .keep :=
  if_neg h

namespace Visitor

variable {σ : Type}

/-- A visitor that drops the blocks of some kinds and leaves all others alone, whatever its
state. -/
def Drops (v : Visitor σ) (kinds : List BlockKind) : Prop :=
  ∀ visit kind, visit.kind? = some kind → ∀ s, ((v visit).run s).1 = Action.dropping kinds kind

/-- Of several such visitors each drops its share. -/
theorem Drops.first {visitors : List (Visitor σ)} {kinds : List (List BlockKind)}
    (drop : List.Forall₂ Drops visitors kinds) : (first visitors).Drops kinds.flatten := by
  intro visit kind told
  induction drop with
  | nil => exact fun _ => rfl
  | @cons v ks visitors kinds one _ ih =>
      intro s
      have rest := ih ((v visit).run s).2
      unfold Action.dropping at rest ⊢
      rw [Visitor.first, StateT.fst_run_bind, one visit kind told s, Action.dropping]
      -- the first visitor decides alone, or leaves it to the others
      by_cases member : kind ∈ ks
      · rw [if_pos member, if_pos (by simp [member])]
        rfl
      · have others : kind ∈ (ks :: kinds).flatten ↔ kind ∈ kinds.flatten := by simp [member]
        rw [if_neg member]
        simp only [others]
        exact rest

end Visitor

namespace Block

variable (resolve : String → String) (options : RenderOptions) (kinds : List BlockKind)

/-- Blocks that are dropped write nothing. -/
theorem join_dropping (styles : StyleSheet) (bs : List Block) :
    String.join (bs.map fun b => Html.blockWith resolve options styles b (.dropping kinds b.kind)) =
      String.join ((bs.filter (·.kind ∉ kinds)).map fun b =>
        Html.blockWith resolve options styles b .keep) := by
  induction bs with
  | nil => rfl
  | cons b bs ih =>
      rw [List.map_cons, String.join_cons, ih]
      by_cases member : b.kind ∈ kinds
      · rw [List.filter_cons_of_neg (by simpa using member), Action.dropping_of_mem member]
        exact String.empty_append
      · rw [List.filter_cons_of_pos (by simpa using member), List.map_cons, String.join_cons,
          Action.dropping_of_not_mem member]

/-- Of a block that is dropped only the text counts, if it is a text block. -/
theorem counts_skip (b : Block) : b.counts resolve .skip = .ofTexts resolve b.text?.toList :=
  add_zero _

theorem sum_counts_dropping (bs : List Block) :
    (bs.map fun b => b.counts resolve (.dropping kinds b.kind)).sum =
      ((bs.filter (·.kind ∉ kinds)).map fun b => b.counts resolve .keep).sum +
        .ofTexts resolve ((bs.filter (·.kind ∈ kinds)).filterMap text?) := by
  induction bs with
  | nil => rfl
  | cons b bs ih =>
      rw [List.map_cons, List.sum_cons, ih]
      by_cases member : b.kind ∈ kinds
      · rw [List.filter_cons_of_neg (by simpa using member),
          List.filter_cons_of_pos (by simpa using member), filterMap_cons_toList,
          Statistics.ofTexts_append, Action.dropping_of_mem member, counts_skip]
        ac_rfl
      · rw [List.filter_cons_of_pos (by simpa using member),
          List.filter_cons_of_neg (by simpa using member), List.map_cons, List.sum_cons,
          Action.dropping_of_not_mem member, add_assoc]

end Block

namespace Document

/-- One document is another without the blocks of some kinds. When they were taken out, and what is
on the title page but the language, does not matter. -/
structure IsWithout (rest d : Document) (kinds : List BlockKind) : Prop where
  blocks : rest.blocks = d.blocks.filter (·.kind ∉ kinds)
  page : rest.page = d.page
  styles : rest.styles = d.styles
  language : rest.metadata.language = d.metadata.language

/-- The texts of the text blocks of some kinds. -/
def textsOfKinds (d : Document) (kinds : List BlockKind) : List String :=
  (d.blocks.filter (·.kind ∈ kinds)).filterMap Block.text?

variable {d rest : Document} {kinds : List BlockKind}

/-- What becomes of the blocks of a document that can be had. -/
theorem fst_run_decide {σ : Type} {v : Visitor σ} (built : d.Built) (drop : v.Drops kinds)
    (lex : Lexicon) (ctx : Context) (s : σ) :
    ((d.decide lex ctx v).run s).1 = d.blocks.map fun b => Action.dropping kinds b.kind := by
  apply StateT.fst_run_mapM
  intro b hb s
  exact drop _ _ (Block.kind?_visit (built.wellFormed b hb).1 lex ctx) s

section Dropping

variable (without : rest.IsWithout d kinds) (resolve : String → String) (options : RenderOptions)

include without in
/-- What is written of a document is what is written without the blocks that are dropped. -/
theorem document_dropping :
    Html.document resolve options d (d.blocks.map fun b => .dropping kinds b.kind) =
      Html.document resolve options rest rest.keepAll := by
  have blocks := Block.join_dropping resolve options kinds d.styles d.blocks
  rw [Html.document, Html.document, zip_keepAll, ← List.map_prod_left_eq_zip, List.map_map,
    List.map_map, Function.comp_def, Function.comp_def, without.blocks, without.page,
    without.styles, without.language, blocks]

include without in
/-- The counts of a document are the counts without the blocks that are dropped and the counts of
the texts of those among them that are text blocks. -/
theorem counts_dropping :
    d.counts resolve options (d.blocks.map fun b => .dropping kinds b.kind) =
      rest.counts resolve options rest.keepAll + .ofTexts resolve (d.textsOfKinds kinds) := by
  have blocks := Block.sum_counts_dropping resolve kinds d.blocks
  rw [counts, counts, zip_keepAll, ← List.map_prod_left_eq_zip, List.map_map, List.map_map,
    Function.comp_def, Function.comp_def, without.blocks, runningTexts, runningTexts, without.page,
    blocks, add_assoc, textsOfKinds]

include without in
/-- A counter holds what the document without these blocks and the texts among them come to, if that
has no more than 32 bits. -/
theorem toNat_counts_dropping {f : Statistics → UInt32} {w : Weights}
    (weighs : Statistics.Weighs f w) {n : Nat}
    (total : w.total resolve options rest +
      ((d.textsOfKinds kinds).map fun s => w.text (resolve s)).sum = n) (small : n < 2 ^ 32) :
    (f (d.counts resolve options (d.blocks.map fun b => .dropping kinds b.kind))).toNat = n := by
  have texts := weighs.sum_eq (fun s => weighs.text (resolve s)) (d.textsOfKinds kinds)
  rw [counts_dropping without, weighs.add, weighs.counts_keepAll, Statistics.ofTexts, texts,
    Nat.toUInt32_eq, Nat.toUInt32_eq, ← UInt32.ofNat_add, total]
  exact UInt32.toNat_ofNat_of_lt' small

end Dropping

end Document

/-! ## Texts that count for nothing -/

namespace Statistics

instance : IsLeftCancelAdd Statistics where
  add_left_cancel s u v h := by
    rw [Statistics.ext_iff] at h ⊢
    simpa using h

variable {s : String}

theorem charsIn_eq_zero_iff : charsIn s = 0 ↔ Text.isBlank s.toList = true := by
  rw [charsIn, List.length_eq_zero_iff, List.filter_eq_nil_iff, Text.isBlank, List.all_eq_true]
  simp only [Bool.not_eq_true', Bool.not_eq_false]

/-- A text of blank space alone has no words and no placeholders. -/
theorem ofText_of_isBlank (blank : Text.isBlank s.toList = true) : ofText s = 0 := by
  have chars : charsIn s = 0 := charsIn_eq_zero_iff.mpr blank
  have words : wordsIn s = 0 := by
    refine List.length_eq_zero_iff.mpr (List.eq_nil_iff_forall_not_mem.mpr fun w hw => ?_)
    have invisible := Text.isVisible_iff.mp (Text.isVisible_of_mem_words hw)
    rw [blank] at invisible
    cases invisible
  have left : Template.placeholderCount s = 0 := by
    refine Template.placeholderCount_of_not_mem fun brace => ?_
    have space := List.all_eq_true.mp blank _ brace
    exact absurd space (by decide)
  rw [ofText, ofRunningText, countText, addUnresolved, chars, words, left]
  rfl

section Texts

variable {resolve : String → String} {texts : List String}

theorem ofTexts_eq : ofTexts resolve texts =
    { unresolvedCount := (texts.map fun s => Template.placeholderCount (resolve s)).sum.toUInt32
      wordCount := (texts.map fun s => wordsIn (resolve s)).sum.toUInt32
      charCount := (texts.map fun s => charsIn (resolve s)).sum.toUInt32 } := by
  induction texts with
  | nil => rfl
  | cons s texts ih =>
      rw [← List.singleton_append, ofTexts_append, ofTexts_singleton, ih]
      apply Statistics.ext <;>
        simp [ofText, ofRunningText, countText, addUnresolved, UInt32.ofNat_add]

/-- The characters of texts say whether they count for anything. -/
theorem ofTexts_eq_zero_iff (small : (texts.map fun s => charsIn (resolve s)).sum < 2 ^ 32) :
    ofTexts resolve texts = 0 ↔ ∀ s ∈ texts, Text.isBlank (resolve s).toList = true := by
  constructor
  · intro zero
    have chars := congrArg (UInt32.toNat ·.charCount) zero
    rw [ofTexts_eq] at chars
    change (UInt32.ofNat _).toNat = 0 at chars
    rw [UInt32.toNat_ofNat_of_lt' small, List.sum_eq_zero_iff_forall_eq_nat] at chars
    intro s hs
    exact charsIn_eq_zero_iff.mp (chars _ (List.mem_map_of_mem hs))
  · intro blank
    rw [ofTexts, List.sum_eq_zero]
    intro u hu
    obtain ⟨s, hs, rfl⟩ := List.mem_map.mp hu
    exact ofText_of_isBlank (blank s hs)

end Texts

end Statistics

namespace Document

/-- A visitor that drops the blocks of some kinds and counts how often it is asked. -/
def askedAndDropping (kinds : List BlockKind) : Visitor Nat := fun visit => do
  modify (· + 1)
  return (visit.kind?.map (.dropping kinds)).getD .keep

theorem drops_askedAndDropping (kinds : List BlockKind) : (askedAndDropping kinds).Drops kinds := by
  intro visit kind told s
  rw [askedAndDropping, told]
  rfl

/-- A quote and a paragraph. -/
def quoteAndParagraph : Document :=
  (((empty .epoch).push .epoch (.quote "א ב")).2.push .epoch (.paragraph "ג")).2

theorem built_quoteAndParagraph : quoteAndParagraph.Built :=
  .step (.step (.empty .epoch) (.push _ _ (.quote _))) (.push _ _ (.paragraph _))

end Document

end Agreement
