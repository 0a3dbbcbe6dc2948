/- # Agreement.Proofs.Render.Arithmetic: which integers fit

A rendering as markup counts up in integers of 32 bits, one step after another, and multiplies the
level of an indented block by a step of so many pixels. Plain text numbers the items of lists and
counts how deep they are. Each of these is compared with what it comes to without a limit. The
steps of counting fit, at every point of a rendering, if the totals of the document do; numbers
stop at the greatest one; the depth of a loaded document is small. Margins alone can pass 32 bits,
and a document with such a margin stops the program.
-/
import Agreement.Proofs.Document.Labels
import Agreement.Proofs.Document.Loading
import Agreement.Proofs.Outcome
import Agreement.Proofs.Render.Lists
import Agreement.Proofs.Render.Totals
import Agreement.Proofs.Unicode.Tables
import Mathlib.Algebra.Order.BigOperators.Group.List
import Mathlib.Algebra.Order.Ring.Nat

namespace Agreement

/-! ## Steps of counting -/

/-- A step that changes the counts of a rendering. -/
inductive CountingStep
  /-- The placeholders that are left in a resolved text. -/
  | left (text : String)
  /-- The words and characters of a resolved text of a block. -/
  | text (text : String)
  | item
  | block (kind : BlockKind)

/-- A counter of a rendering. -/
inductive Counter
  | left
  | words
  | chars
  | items
  | blocks
  /-- The counter that blocks of a kind share with those of the same sort. -/
  | sort (kind : BlockKind)

/-- What a step does to the counts. -/
def CountingStep.perform (s : Statistics) : CountingStep → Statistics
  | left t => s.addUnresolved (Template.placeholderCount t)
  | text t => s.countText t
  | item => s.addListItem
  | block kind => s.addBlock kind

namespace Counter

/-- What a counter holds. -/
def value (s : Statistics) : Counter → UInt32
  | left => s.unresolvedCount
  | words => s.wordCount
  | chars => s.charCount
  | items => s.listItemCount
  | blocks => s.blockCount
  | sort .paragraph => s.paragraphCount
  | sort .heading1 | sort .heading2 | sort .heading3 | sort .heading4 => s.headingCount
  | sort .table => s.tableCount
  | sort .bulletedList | sort .numberedList => s.listCount
  | sort .signature => s.signatureCount
  | sort .pageBreak | sort .rule => s.markerCount
  | sort .quote => s.quoteCount

/-- What a step adds to a counter. -/
def amount : Counter → CountingStep → Nat
  | left, .left t => Template.placeholderCount t
  | words, .text t => Statistics.wordsIn t
  | chars, .text t => Statistics.charsIn t
  | items, .item => 1
  | blocks, .block _ => 1
  -- blocks of the same sort are the ones that count here
  | sort kind, .block other => ((sort kind).value (.ofKind other)).toNat
  | _, _ => 0

end Counter

/-- No counter passes 32 bits in a step. -/
def CountingStep.Fits (s : Statistics) (step : CountingStep) : Prop :=
  ∀ c : Counter, (c.value s).toNat + c.amount step < 2 ^ 32

namespace CountingStep

/-- A step adds what it adds to empty counts. -/
theorem perform_eq (s : Statistics) (step : CountingStep) :
    step.perform s = s + step.perform 0 := by
  cases step with
  | left t => exact Statistics.addUnresolved_eq s _
  | text t => exact Statistics.countText_eq s t
  | item => exact Statistics.addListItem_eq s
  | block kind => exact Statistics.addBlock_eq s kind

theorem foldl_perform (steps : List CountingStep) (s : Statistics) :
    steps.foldl perform s = s + (steps.map (perform 0)).sum := by
  induction steps generalizing s with
  | nil => exact (add_zero s).symm
  | cons step steps ih =>
      rw [List.foldl_cons, ih, perform_eq, List.map_cons, List.sum_cons, add_assoc]

end CountingStep

namespace Counter

variable (c : Counter)

theorem value_add (a b : Statistics) : c.value (a + b) = c.value a + c.value b := by
  cases c with
  | sort kind => cases kind <;> rfl
  | _ => rfl

theorem value_zero : c.value 0 = 0 := by
  cases c with
  | sort kind => cases kind <;> rfl
  | _ => rfl

theorem value_perform_zero (step : CountingStep) :
    c.value (step.perform 0) = (c.amount step).toUInt32 := by
  cases step with
  | block kind =>
      cases c with
      | sort other => exact UInt32.ofNat_toNat.symm
      | _ => cases kind <;> rfl
  | left t =>
      cases c with
      | sort kind => cases kind <;> rfl
      | left => exact UInt32.zero_add _
      | _ => rfl
  | text t =>
      cases c with
      | sort kind => cases kind <;> rfl
      | words => exact UInt32.zero_add _
      | chars => exact UInt32.zero_add _
      | _ => rfl
  | item =>
      cases c with
      | sort kind => cases kind <;> rfl
      | _ => rfl

/-- What a counter holds after steps, as far as it can count. -/
theorem value_foldl_perform (steps : List CountingStep) :
    c.value (steps.foldl CountingStep.perform 0) = (steps.map c.amount).sum.toUInt32 := by
  rw [CountingStep.foldl_perform, zero_add]
  induction steps with
  | nil => exact c.value_zero
  | cons step steps ih =>
      rw [List.map_cons, List.sum_cons, value_add, ih, value_perform_zero, List.map_cons,
        List.sum_cons]
      exact (UInt32.ofNat_add _ _).symm

end Counter

/-- If no counter passes 32 bits in all, then none does in any step on the way. -/
theorem CountingStep.fits_of_sum_lt {steps done rest : List CountingStep} {step : CountingStep}
    (split : steps = done ++ step :: rest)
    (small : ∀ c : Counter, (steps.map c.amount).sum < 2 ^ 32) :
    step.Fits (done.foldl perform 0) := by
  intro c
  have total := small c
  rw [split, List.map_append, List.sum_append, List.map_cons, List.sum_cons] at total
  have held : (c.value (done.foldl perform 0)).toNat = (done.map c.amount).sum := by
    rw [c.value_foldl_perform]
    exact UInt32.toNat_ofNat_of_lt' (by omega : (done.map c.amount).sum < 2 ^ 32)
  omega

/-! ## The steps of a document -/

section Steps

variable (resolve : String → String)

/-- The steps for a text of a block. -/
def stepsOfText (text : String) : List CountingStep := [.left (resolve text), .text (resolve text)]

mutual

/-- The steps for an item and the items below it. -/
def Item.steps : Item → List CountingStep
  | mk text children => .item :: stepsOfText resolve text ++ Item.stepsOf children

/-- The steps for items and those below them. -/
def Item.stepsOf : List Item → List CountingStep
  | [] => []
  | item :: items => item.steps ++ Item.stepsOf items

end

namespace Block

/-- The steps for what is written of a block after the decision about it. -/
def elementSteps (b : Block) : List CountingStep :=
  match b.content with
  | .table t => t.texts.flatMap (stepsOfText resolve)
  | .list l => Item.stepsOf resolve l.items
  | _ => []

/-- The steps for a block that becomes this. -/
def steps (b : Block) (a : Action) : List CountingStep :=
  b.text?.toList.flatMap (stepsOfText resolve) ++
    match a with
    | .keep => b.elementSteps resolve ++ [.block b.kind]
    | .replace _ => [.block b.kind]
    | .skip => []

end Block

namespace Document

/-- The steps for a running text. -/
def runningSteps (options : RenderOptions) (text : Option String) : List CountingStep :=
  if options.includeHeaderFooter then text.toList.map fun s => .left (resolve s) else []

/-- The steps for a document of whose blocks this becomes, in the order in which they are taken. -/
def steps (options : RenderOptions) (d : Document) (actions : List Action) : List CountingStep :=
  runningSteps resolve options d.page.header ++
    (d.blocks.zip actions).flatMap (fun p => p.1.steps resolve p.2) ++
    runningSteps resolve options d.page.footer

end Document

end Steps

/-! ## Sums over steps -/

section Sums

variable {M : Type} [AddCommMonoid M] (g : CountingStep → M) (resolve : String → String)

/-- What the steps for a text of a block come to. -/
def sumOfText (text : String) : M := g (.left (resolve text)) + g (.text (resolve text))

theorem sum_stepsOfText (text : String) :
    ((stepsOfText resolve text).map g).sum = sumOfText g resolve text := by
  simp [stepsOfText, sumOfText]

theorem sum_flatMap_stepsOfText (texts : List String) :
    ((texts.flatMap (stepsOfText resolve)).map g).sum = (texts.map (sumOfText g resolve)).sum := by
  induction texts with
  | nil => rfl
  | cons text texts ih =>
      rw [List.flatMap_cons, List.map_append, List.sum_append, ih, sum_stepsOfText, List.map_cons,
        List.sum_cons]

mutual

theorem Item.sum_steps : (item : Item) → ((item.steps resolve).map g).sum =
    (item.texts.map (sumOfText g resolve)).sum + item.count • g .item
  | .mk text children => by
    rw [Item.steps, List.cons_append, List.map_cons, List.sum_cons, List.map_append,
      List.sum_append, sum_stepsOfText, Item.sum_stepsOf children, Item.texts, List.map_cons,
      List.sum_cons, Item.count, add_nsmul, one_nsmul]
    ac_rfl

theorem Item.sum_stepsOf : (items : List Item) → ((Item.stepsOf resolve items).map g).sum =
    ((Item.textsOf items).map (sumOfText g resolve)).sum + Item.countAll items • g .item
  | [] => by simp [Item.stepsOf, Item.textsOf, Item.countAll]
  | item :: items => by
    rw [Item.stepsOf, List.map_append, List.sum_append, Item.sum_steps item,
      Item.sum_stepsOf items, Item.textsOf, List.map_append, List.sum_append, Item.countAll,
      add_nsmul]
    ac_rfl

end

/-- What the steps for a block that is kept come to. -/
theorem Block.sum_steps_keep (b : Block) : ((b.steps resolve .keep).map g).sum =
    (b.texts.map (sumOfText g resolve)).sum +
      (b.list?.toList.map ItemList.itemCount).sum • g .item + g (.block b.kind) := by
  unfold steps text? elementSteps texts list?
  cases b.content with
  | text s => simp [sum_stepsOfText]
  | table t => simp [sum_flatMap_stepsOfText]
  | list l => simp [Item.sum_stepsOf, ItemList.itemCount]
  | empty => simp

/-- What the steps for a running text come to. -/
theorem Document.sum_runningSteps (options : RenderOptions) (text : Option String) :
    ((runningSteps resolve options text).map g).sum =
      ((if options.includeHeaderFooter then text.toList else []).map fun s =>
        g (.left (resolve s))).sum := by
  unfold runningSteps
  cases options.includeHeaderFooter with
  | true => rw [if_pos rfl, if_pos rfl, List.map_map]; rfl
  | false => rfl

end Sums

/-! ## What is counted in these steps -/

namespace Statistics

variable (resolve : String → String)

theorem sumOfText_perform (text : String) :
    sumOfText (CountingStep.perform 0) resolve text = ofText (resolve text) := by
  rw [ofText, countText_eq]
  rfl

theorem nsmul_item (n : Nat) : n • CountingStep.perform 0 .item = ofItems n := by
  induction n with
  | zero => exact zero_nsmul _
  | succ n ih =>
      rw [succ_nsmul, ih, ofItems_add]
      rfl

theorem sum_map_sumOfText (texts : List String) :
    (texts.map (sumOfText (CountingStep.perform 0) resolve)).sum = ofTexts resolve texts :=
  congrArg List.sum (List.map_congr_left fun _ _ => sumOfText_perform resolve _)

end Statistics

namespace Block

variable (resolve : String → String) (b : Block)

theorem sum_elementSteps : ((b.elementSteps resolve).map (CountingStep.perform 0)).sum =
    b.elementCounts resolve := by
  rw [elementSteps, elementCounts]
  cases b.content with
  | table t => exact (sum_flatMap_stepsOfText _ _ _).trans (Statistics.sum_map_sumOfText _ _)
  | list l =>
      refine (Item.sum_stepsOf _ resolve l.items).trans ?_
      rw [Statistics.sum_map_sumOfText, Statistics.nsmul_item]
      rfl
  | _ => rfl

/-- What is counted for a block is counted in its steps. -/
theorem sum_steps (a : Action) : ((b.steps resolve a).map (CountingStep.perform 0)).sum =
    b.counts resolve a := by
  unfold steps counts
  rw [List.map_append, List.sum_append, sum_flatMap_stepsOfText, Statistics.sum_map_sumOfText]
  cases a with
  | keep =>
      rw [List.map_append, List.sum_append, sum_elementSteps, List.map_singleton,
        List.sum_singleton]
      rfl
  | replace markup =>
      rw [List.map_singleton, List.sum_singleton]
      rfl
  | skip => rfl

end Block

namespace Document

variable (resolve : String → String) (options : RenderOptions) (d : Document)

/-- What is counted for a document is counted in its steps. -/
theorem sum_steps (actions : List Action) :
    ((d.steps resolve options actions).map (CountingStep.perform 0)).sum =
      d.counts resolve options actions := by
  have blocks (l : List (Block × Action)) :
      ((l.flatMap fun p => p.1.steps resolve p.2).map (CountingStep.perform 0)).sum =
        (l.map fun p => p.1.counts resolve p.2).sum := by
    induction l with
    | nil => rfl
    | cons p l ih =>
        rw [List.flatMap_cons, List.map_append, List.sum_append, ih, Block.sum_steps, List.map_cons,
          List.sum_cons]
  rw [steps, counts, runningTexts_eq, List.map_append, List.map_append, List.sum_append,
    List.sum_append, List.map_append, List.sum_append, sum_runningSteps, sum_runningSteps, blocks]
  exact add_right_comm ..

/-- To take the steps of a document is to count it. -/
theorem foldl_steps (actions : List Action) (s : Statistics) :
    (d.steps resolve options actions).foldl CountingStep.perform s =
      s + d.counts resolve options actions := by
  rw [CountingStep.foldl_perform, d.sum_steps]

end Document

/-! ## What these steps come to without a limit -/

/-- The weights in which a counter counts. -/
def Counter.weights (c : Counter) : Weights where
  running s := c.amount (.left s)
  text s := c.amount (.left s) + c.amount (.text s)
  item := c.amount .item
  kind k := c.amount (.block k)

section Totals

variable (c : Counter) (resolve : String → String) (options : RenderOptions)

theorem Block.sum_amounts (bs : List Block) :
    ((bs.flatMap (steps resolve · .keep)).map c.amount).sum =
      ((bs.flatMap texts).map fun s => c.weights.text (resolve s)).sum +
        ((bs.filterMap list?).map ItemList.itemCount).sum * c.weights.item +
        (bs.map fun b => c.weights.kind b.kind).sum := by
  induction bs with
  | nil => simp
  | cons b bs ih =>
      have kept : ((b.steps resolve .keep).map c.amount).sum =
          (b.texts.map fun s => c.weights.text (resolve s)).sum +
            (b.list?.toList.map ItemList.itemCount).sum * c.weights.item +
            c.weights.kind b.kind := b.sum_steps_keep c.amount resolve
      rw [List.flatMap_cons, List.map_append, List.sum_append, ih, kept, List.flatMap_cons,
        filterMap_cons_toList, List.map_append, List.map_append, List.sum_append, List.sum_append,
        List.map_cons, List.sum_cons, Nat.add_mul]
      ac_rfl

theorem Block.steps_sublist (b : Block) (a : Action) :
    (b.steps resolve a).Sublist (b.steps resolve .keep) := by
  refine (List.Sublist.refl _).append ?_
  cases a with
  | keep => exact .refl _
  | replace markup => exact List.sublist_append_right ..
  | skip => exact List.nil_sublist _

namespace Document

variable (d : Document)

/-- Whatever becomes of the blocks, there are no other steps than those for blocks that are kept. -/
theorem steps_sublist (actions : List Action) :
    (d.steps resolve options actions).Sublist (d.steps resolve options d.keepAll) := by
  have blocks (bs : List Block) (actions : List Action) :
      ((bs.zip actions).flatMap fun p => p.1.steps resolve p.2).Sublist
        (bs.flatMap (Block.steps resolve · .keep)) := by
    induction bs generalizing actions with
    | nil => exact List.nil_sublist _
    | cons b bs ih =>
        cases actions with
        | nil => exact List.nil_sublist _
        | cons a actions => exact (b.steps_sublist resolve a).append (ih actions)
  rw [steps, steps, zip_keepAll, List.flatMap_map]
  exact ((List.Sublist.refl _).append (blocks d.blocks actions)).append (.refl _)

/-- A counter comes to no more than its total, whatever becomes of the blocks. -/
theorem sum_amounts_le (actions : List Action) :
    ((d.steps resolve options actions).map c.amount).sum ≤ c.weights.total resolve options d := by
  have kept : ((d.steps resolve options d.keepAll).map c.amount).sum =
      c.weights.total resolve options d := by
    have blocks := Block.sum_amounts c resolve d.blocks
    rw [steps, zip_keepAll, List.flatMap_map, List.map_append, List.map_append, List.sum_append,
      List.sum_append, sum_runningSteps, sum_runningSteps, blocks, Weights.total, runningTexts_eq,
      List.map_append, List.sum_append]
    exact Nat.add_right_comm ..
  rw [← kept]
  exact ((d.steps_sublist resolve options actions).map _).sum_le_sum fun _ _ => Nat.zero_le _

end Document

end Totals

namespace Document

variable (d : Document) (resolve : String → String) (options : RenderOptions)

/-- The totals of a document have no more than 32 bits. -/
structure TotalsFit : Prop where
  blocks : d.size < 2 ^ 32
  items : (d.lists.map ItemList.itemCount).sum < 2 ^ 32
  words : ((d.texts.map resolve).map Statistics.wordsIn).sum < 2 ^ 32
  chars : ((d.texts.map resolve).map Statistics.charsIn).sum < 2 ^ 32
  unresolved :
    (((d.texts ++ d.runningTexts options).map resolve).map Template.placeholderCount).sum < 2 ^ 32

variable {d resolve options}

/-- Then each counter can hold its total. -/
theorem TotalsFit.total_lt (fit : d.TotalsFit resolve options) (c : Counter) :
    c.weights.total resolve options d < 2 ^ 32 := by
  cases c with
  | left =>
      refine lt_of_eq_of_lt ?_ fit.unresolved
      simp [Weights.total, Counter.weights, Counter.amount, Nat.add_comm, Function.comp_def]
  | words =>
      refine lt_of_eq_of_lt ?_ fit.words
      simp [Weights.total, Counter.weights, Counter.amount, Function.comp_def]
  | chars =>
      refine lt_of_eq_of_lt ?_ fit.chars
      simp [Weights.total, Counter.weights, Counter.amount, Function.comp_def]
  | items =>
      refine lt_of_eq_of_lt ?_ fit.items
      simp [Weights.total, Counter.weights, Counter.amount]
  | blocks =>
      refine lt_of_eq_of_lt ?_ fit.blocks
      simp [Weights.total, Counter.weights, Counter.amount, size]
  | sort kind =>
      refine Nat.lt_of_le_of_lt ?_ fit.blocks
      have one (other : BlockKind) : ((Counter.sort kind).value (.ofKind other)).toNat ≤ 1 := by
        cases kind <;> cases other <;> decide
      have each := List.sum_le_card_nsmul
        (d.blocks.map fun b => ((Counter.sort kind).value (.ofKind b.kind)).toNat) 1
        (by simpa using fun (b : Block) _ => one b.kind)
      simpa [Weights.total, Counter.weights, Counter.amount, size] using each

end Document

/-! ## Margins -/

namespace Block

/-- The property that indents a block. -/
def indentationName : String := "margin-inline-start: "

/-- Whether a style declaration indents a block. -/
def isIndentation (declaration : String) : Bool :=
  indentationName.toList.isPrefixOf declaration.toList

/-- A declaration of another property indents nothing, whatever its value. -/
theorem isIndentation_append (name value : String)
    (other : ¬ indentationName.toList <+: name.toList ∧
      ¬ name.toList <+: indentationName.toList) : isIndentation (name ++ value) = false := by
  refine Bool.eq_false_iff.mpr fun indents => ?_
  have longer : indentationName.toList <+: name.toList ++ value.toList := by
    rw [← String.toList_append]
    exact List.isPrefixOf_iff_prefix.mp indents
  exact (List.prefix_or_prefix_of_prefix longer (List.prefix_append _ _)).elim other.1 other.2

theorem filter_ite_nil {c : Prop} [Decidable c] {declaration : String}
    (other : isIndentation declaration = false) :
    (if c then [declaration] else []).filter isIndentation = [] := by
  split <;> simp [other]

theorem filter_map_nil {α : Type} (o : Option α) {f : α → String}
    (other : ∀ a, isIndentation (f a) = false) : (o.map f).toList.filter isIndentation = [] := by
  cases o <;> simp [other]

/-- A text style indents nothing. -/
theorem filter_style (s : TextStyle) : s.declarations.filter isIndentation = [] := by
  have align (a : Alignment) := isIndentation_append "text-align: " a.name (by decide)
  have height (x : Binary32) := isIndentation_append "line-height: " x.plainText (by decide)
  have color (c : String) := isIndentation_append "color: " c (by decide)
  have size (x : Binary32) := isIndentation_append "font-size: " (x.plainText ++ "pt") (by decide)
  simp only [← String.append_assoc] at size
  simp only [TextStyle.declarations, List.filter_append, List.append_eq_nil_iff]
  exact ⟨⟨⟨⟨⟨⟨filter_ite_nil (by decide), filter_ite_nil (by decide)⟩, filter_ite_nil (by decide)⟩,
    filter_map_nil _ align⟩, filter_map_nil _ height⟩, filter_map_nil _ color⟩,
    filter_map_nil _ size⟩

variable (options : RenderOptions) (styles : StyleSheet) (b : Block)

/-- The only declaration that indents a block gives the product of its level and the step. -/
theorem filter_isIndentation : (b.declarations options styles).filter isIndentation =
    if 0 < b.placement.indentLevel then
      [indentationName ++ toString (b.indentation options) ++ "px"] else [] := by
  have margin (x : Binary32) :
      isIndentation ("margin-top: " ++ x.plainText ++ "pt") = false ∧
        isIndentation ("margin-bottom: " ++ x.plainText ++ "pt") = false := by
    rw [String.append_assoc, String.append_assoc]
    exact ⟨isIndentation_append _ _ (by decide), isIndentation_append _ _ (by decide)⟩
  have indents : isIndentation
      (indentationName ++ toString (b.indentation options) ++ "px") = true := by
    rw [isIndentation, String.append_assoc, String.toList_append]
    exact List.isPrefixOf_iff_prefix.mpr (List.prefix_append _ _)
  have breaks : isIndentation "break-before: page" = false ∧
      isIndentation "break-after: avoid" = false := by decide
  simp only [declarations, List.filter_append, filter_style, filter_ite_nil (margin _).1,
    filter_ite_nil (margin _).2, filter_ite_nil breaks.1, filter_ite_nil breaks.2, List.nil_append,
    List.append_nil]
  split
  · exact List.filter_cons_of_pos indents
  · rfl

/-- A step of at most 16843009 pixels indents no block by more than 32 bits. -/
theorem indentation_lt (small : options.indentPx ≤ 16843009) : b.indentation options < 2 ^ 32 := by
  have level := b.placement.indentLevel.toNat_lt
  have step : options.indentPx.toNat ≤ 16843009 := UInt32.le_iff_toNat_le.mp small
  calc b.indentation options ≤ 255 * 16843009 := Nat.mul_le_mul (by omega) step
    _ < 2 ^ 32 := by decide

end Block

/-- The program gives a rendering if the indentations of all blocks have no more than 32 bits. -/
theorem Document.guarded_eq {α : Type} (d : Document) (options : RenderOptions) (rendering : α) :
    d.guarded options rendering =
      if ∀ b ∈ d.blocks, b.indentation options < 2 ^ 32 then .ok rendering
      else .error .overflow := by
  have checked := Except.forM_check (p := fun b : Block => b.indentation options < 2 ^ 32)
    (e := Halt.overflow) d.blocks
  rw [guarded, show d.blocks.forM (Block.checkIndentation options) = _ from checked]
  split <;> rfl

/-! ## Lists in plain text -/

/-- The number of an item is exact, if it is no greater than the greatest. -/
theorem PlacedItem.number_eq (i : PlacedItem) (start : Nat) :
    let exact := (if i.level = 0 then max start 1 else 1) + i.index
    i.number start = if exact < 2 ^ 32 then exact else 2 ^ 32 - 1 := by
  intro exact
  have greatest : Numbering.maxNumber = 2 ^ 32 - 1 := rfl
  have capped : i.number start = min exact Numbering.maxNumber := by
    unfold number Numbering.itemNumber
    simp only [exact]
    split <;> simp
  rw [capped, greatest]
  split <;> omega

/-- The letters of an alphabetic label are at most the twenty-sixth from the first one on. -/
theorem Numbering.toNat_of_mem_alphabetic {first : Char} (valid : first.toNat + 26 ≤ 0xD800)
    {n : Nat} {c : Char} (h : c ∈ alphabetic first n) : ∃ k < 26, c.toNat = first.toNat + k := by
  induction n using Nat.strongRecOn with
  | _ n ih =>
      cases n with
      | zero =>
          rw [alphabetic] at h
          cases h
      | succ n =>
          rw [alphabetic_succ] at h
          rcases List.mem_append.mp h with before | last
          · exact ih (n / 26) (by omega) before
          · obtain rfl := List.mem_singleton.mp last
            have small := Nat.mod_lt n (show 26 > 0 by decide)
            exact ⟨n % 26, small, Unicode.toNat_ofNat (.inl (by omega))⟩

/-- The items of a list of a loaded document. -/
theorem Document.placed_of_load {now : Timestamp} {text : String} {d : Document}
    (loaded : load now text = .ok d) {resolve : String → String} {options : RenderOptions}
    (fit : d.TotalsFit resolve options) {l : ItemList} (list : l ∈ d.lists) {i : PlacedItem}
    (item : i ∈ l.placed) : i.level < 61 ∧ i.index < 2 ^ 32 := by
  obtain ⟨b, member, found⟩ := List.mem_filterMap.mp list
  have shallow := (soundWithin_of_load loaded b member).2 l found
  have counted : l.itemCount ≤ (d.lists.map ItemList.itemCount).sum :=
    List.single_le_sum (fun _ _ => Nat.zero_le _) _ (List.mem_map_of_mem list)
  exact ⟨(ItemList.level_lt_depth item).trans_le shallow,
    (ItemList.index_lt_itemCount item).trans_le (counted.trans fit.items.le)⟩

namespace Document

/-- **The integers of a rendering fit, or the program stops.** Take any document that has been
loaded and any options, with totals of no more than 32 bits, and let any of its blocks be kept,
dropped or replaced. To count is to take the steps of the document in order, and no counter passes
32 bits in any of them. In plain text no item is deeper than sixty levels, its index fits, and its
number is the exact one or the greatest; an alphabetic label is made of bytes. The margin written
for an indented block is exactly the product of its level and the step. It is the one number that
can be too great: if the product has more than 32 bits for a block, the program stops there, and if
not, it gives the markup with its counts. A step of at most 16843009 is never too great. -/
theorem rendering_integers {now : Timestamp} {text : String} {d : Document}
    (loaded : load now text = .ok d) (lex : Lexicon) (ctx : Context) (options : RenderOptions)
    (fit : d.TotalsFit (Template.resolve lex ctx) options) (actions : List Action) :
    let resolve := Template.resolve lex ctx
    let steps := d.steps resolve options actions
    -- the counts of markup
    ((∀ s, (d.write lex ctx options actions).run s =
        (d.htmlWith lex ctx options actions,
          if options.collectStatistics then steps.foldl CountingStep.perform s else s)) ∧
      ∀ done step rest, steps = done ++ step :: rest →
        step.Fits (done.foldl CountingStep.perform {})) ∧
    -- the items of lists in plain text
    (∀ l ∈ d.lists,
      (∀ marker front, PlainText.listBlock resolve marker front l =
        ['\n'].intercalate (l.placed.map (PlainText.entry resolve marker front l.start.toNat))) ∧
      ∀ i ∈ l.placed,
        let exact := (if i.level = 0 then max l.start.toNat 1 else 1) + i.index
        i.level < 61 ∧ i.index < 2 ^ 32 ∧
        i.number l.start.toNat = (if exact < 2 ^ 32 then exact else 2 ^ 32 - 1) ∧
        ∀ first ∈ ['a', 'A'], ∀ c ∈ Numbering.alphabetic first (i.number l.start.toNat),
          c.toNat < 2 ^ 8) ∧
    -- the margins of blocks
    (∀ b ∈ d.blocks, (b.declarations options d.styles).filter Block.isIndentation =
      if 0 < b.placement.indentLevel then
        ["margin-inline-start: " ++
          toString (b.placement.indentLevel.toNat * options.indentPx.toNat) ++ "px"]
      else []) ∧
    d.guarded options (d.render lex ctx options actions) =
      (if ∀ b ∈ d.blocks, b.placement.indentLevel.toNat * options.indentPx.toNat < 2 ^ 32 then
        .ok {
          content := d.htmlWith lex ctx options actions
          metadata := d.metadata
          statistics := steps.foldl CountingStep.perform {} }
      else .error .overflow) ∧
    (options.indentPx ≤ 16843009 →
      ∀ b ∈ d.blocks, b.placement.indentLevel.toNat * options.indentPx.toNat < 2 ^ 32) := by
  intro resolve steps
  refine ⟨⟨fun s => ?_, fun done step rest split => ?_⟩, fun l list => ?_, fun b _ => ?_, ?_,
    fun small b _ => b.indentation_lt options small⟩
  · rw [d.foldl_steps]
    exact d.writes_write lex ctx options actions s
  · exact CountingStep.fits_of_sum_lt split fun c =>
      (d.sum_amounts_le c resolve options actions).trans_lt (fit.total_lt c)
  · refine ⟨fun marker front => PlainText.listBlock_eq resolve marker front l, fun i item => ?_⟩
    obtain ⟨level, index⟩ := placed_of_load loaded fit list item
    refine ⟨level, index, i.number_eq l.start.toNat, fun first latin c member => ?_⟩
    have byte : first.toNat + 26 ≤ 2 ^ 8 := by
      rcases List.mem_pair.mp latin with rfl | rfl <;> decide
    obtain ⟨k, less, eq⟩ := Numbering.toNat_of_mem_alphabetic (by omega) member
    omega
  · exact b.filter_isIndentation options d.styles
  · have counted : steps.foldl CountingStep.perform {} = d.counts resolve options actions :=
      (d.foldl_steps resolve options actions 0).trans (zero_add _)
    rw [guarded_eq, render_eq, counted]
    rfl

/-- An ordered list that starts with the greatest number, in a block with the greatest margin. -/
theorem rendering_integers_greatest :
    let text := "\x7b\"blocks\":[\x7b\"kind\":\"numbered_list\"," ++
      "\"content\":\x7b\"type\":\"list\",\"value\":\x7b\"start\":4294967295," ++
      "\"items\":[\x7b\"text\":\"a\"\x7d,\x7b\"text\":\"b\"\x7d]\x7d\x7d," ++
      "\"metadata\":\x7b\"indent_level\":255\x7d\x7d]\x7d"
    let l : ItemList := { items := [.mk "a" [], .mk "b" []], start := 4294967295 }
    let b : Block := { Block.numberedList l with placement := { indentLevel := 255 } }
    let d := { empty .epoch with blocks := [b] }
    let options : RenderOptions := { indentPx := 16843009 }
    (load .epoch text = .ok d ∧ d.TotalsFit (Template.resolve .empty {}) options) ∧
      (∀ i ∈ l.placed, i.number l.start.toNat = 4294967295) ∧
      (b.declarations options d.styles).filter Block.isIndentation =
        ["margin-inline-start: 4294967295px"] ∧
      ∃ r, d.guarded options (d.render .empty {} options d.keepAll) = .ok r ∧
        r.content = d.html .empty {} options := by
  intro text l b d options
  have loaded : load .epoch text = .ok d := by decide +kernel
  have fit : d.TotalsFit (Template.resolve .empty {}) options :=
    ⟨by decide, by decide, by decide +kernel, by decide +kernel, by decide +kernel⟩
  obtain ⟨-, lists, margins, given, small⟩ :=
    rendering_integers loaded .empty {} options fit d.keepAll
  have flat : ∀ i ∈ l.placed, i.level = 0 := by decide
  refine ⟨⟨loaded, fit⟩, fun i item => ?_, (margins b List.mem_cons_self).trans (by decide),
    _, given.trans (if_pos (small (by decide))), rfl⟩
  obtain ⟨-, -, number, -⟩ := (lists l List.mem_cons_self).2 i item
  rw [number, if_pos (flat i item)]
  change (if 4294967295 + i.index < 2 ^ 32 then 4294967295 + i.index else 2 ^ 32 - 1) = 4294967295
  split <;> omega

/-- A step of 2^31 pixels: for a paragraph on the second level the program stops. -/
theorem margin_overflows :
    let text := "\x7b\"blocks\":[\x7b\"kind\":\"paragraph\"," ++
      "\"content\":\x7b\"type\":\"text\",\"value\":\"a\"\x7d," ++
      "\"metadata\":\x7b\"indent_level\":2\x7d\x7d]\x7d"
    let b : Block := { Block.paragraph "a" with placement := { indentLevel := 2 } }
    let d := { empty .epoch with blocks := [b] }
    let options : RenderOptions := { indentPx := 2147483648 }
    load .epoch text = .ok d ∧ d.TotalsFit (Template.resolve .empty {}) options ∧
      b.placement.indentLevel.toNat * options.indentPx.toNat = 4294967296 ∧
      d.guarded options (d.render .empty {} options d.keepAll) = .error .overflow := by
  intro text b d options
  have wide : b.indentation options = 4294967296 := by decide
  have tooGreat : ¬ ∀ b ∈ d.blocks, b.indentation options < 2 ^ 32 := fun small =>
    absurd (small b List.mem_cons_self) (by rw [wide]; decide)
  refine ⟨by decide +kernel, ⟨by decide, by decide, by decide +kernel, by decide +kernel,
    by decide +kernel⟩, wide, ?_⟩
  rw [guarded_eq, if_neg tooGreat]

end Document

end Agreement
