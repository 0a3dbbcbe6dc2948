/- # Agreement.Proofs.Template.Openings: braces that open in a resolved text

Single braces may stand in the text of a template. Resolution could put two of them side by side
where it leaves nothing between them, so every seam counts: around a phrase that is rewritten and
around a value. A form and a value that hold something, but no brace that opens, keep the braces
around them apart.

Agreement cuts a text at its braces. So a text in agreement has the same braces, and something
between two of them if the text has.
-/
import Agreement.Proofs.Gender.MaleForms
import Agreement.Proofs.Template.Braces
import Agreement.Proofs.Template.Grammar

namespace Agreement

open Text

/-! ## Texts without pairs -/

namespace Text

variable {c : Char} {a b text : List Char}

/-- A character never stands twice in a row. -/
def Unpaired (c : Char) (text : List Char) : Prop := text.IsChain fun x y => ¬ (x = c ∧ y = c)

theorem unpaired_iff : Unpaired c text ↔ ¬ [c, c] <:+: text := by
  rw [Unpaired, List.isChain_iff_forall_rel_of_append_cons_cons]
  constructor
  · rintro apart ⟨before, after, rfl⟩
    exact apart (List.append_assoc before [c, c] after) ⟨rfl, rfl⟩
  · rintro none_stands x y before after rfl ⟨rfl, rfl⟩
    exact none_stands ⟨before, after, List.append_assoc _ _ _⟩

theorem unpaired_of_not_mem (absent : c ∉ text) : Unpaired c text :=
  unpaired_iff.mpr fun pair => absent (pair.subset List.mem_cons_self)

theorem unpaired_append : Unpaired c (a ++ b) ↔
    Unpaired c a ∧ Unpaired c b ∧ ¬ (a.getLast? = some c ∧ b.head? = some c) := by
  rw [Unpaired, List.isChain_append]
  refine and_congr_right fun _ => and_congr_right fun _ => ?_
  constructor
  · rintro apart ⟨last, first⟩
    exact apart c last c first ⟨rfl, rfl⟩
  · rintro apart x last y first ⟨rfl, rfl⟩
    exact apart ⟨last, first⟩

theorem unpaired_cons : Unpaired c (c :: text) ↔ text.head? ≠ some c ∧ Unpaired c text := by
  rw [Unpaired, List.isChain_cons]
  refine and_congr_left fun _ => ?_
  constructor
  · rintro apart first
    exact apart c first ⟨rfl, rfl⟩
  · rintro other y first ⟨-, rfl⟩
    exact other first

end Text

/-! ## Text in agreement -/

namespace Lexicon

variable {lex : Lexicon}

/-- Every form of a vocabulary holds something. -/
def FormsFilled (lex : Lexicon) : Prop :=
  ∀ k e, lex.entries.get? k = some e → ∀ g, e.form g ≠ ""

theorem FormsFilled.form_ne_nil (filled : lex.FormsFilled) {key : List Char} {hit : Hit}
    (found : lex.find? key = some hit) (g : Gender) : hit.form g ≠ [] := by
  obtain ⟨k, entry⟩ := get?_of_find? found
  intro empty
  refine filled k _ entry g (String.toList_eq_nil_iff.mp ?_)
  exact (List.append_eq_nil_iff.mp empty).2

/-- Agreement leaves something of every text that holds something. -/
theorem FormsFilled.inAgreement_eq_nil (filled : lex.FormsFilled) {g : Gender} {seams : Seams}
    {text : List Char} (h : lex.inAgreement g seams text = []) : text = [] := by
  rw [← lex.flatMap_source_pieces seams text, List.flatMap_eq_nil_iff]
  rw [inAgreement, List.flatMap_eq_nil_iff] at h
  intro piece member
  rcases mem_pieces member with ⟨t, -, rfl⟩ | ⟨run, key, hit, rfl, found⟩
  · exact h _ member
  · exact absurd (h _ member) (filled.form_ne_nil found g)

section Braces

variable (filled : lex.FormsFilled) (lacks : lex.FormsLack '\x7b')
include filled lacks

/-- A text in agreement starts with a brace that opens only if the text does. -/
theorem head?_inAgreement {text : List Char} (other : text.head? ≠ some '\x7b') (g : Gender)
    (seams : Seams) : (lex.inAgreement g seams text).head? ≠ some '\x7b' := by
  intro first
  by_cases inside : '\x7b' ∈ text
  · obtain ⟨u, v, rfl, absent⟩ := List.eq_append_cons_of_mem inside
    rw [lex.inAgreement_append_cons g seams isCut_opening, List.head?_append] at first
    cases start : (lex.inAgreement g ⟨seams.before, false⟩ u).head? with
    | none =>
        obtain rfl := filled.inAgreement_eq_nil (List.head?_eq_none_iff.mp start)
        exact other rfl
    | some d =>
        rw [start] at first
        cases first
        exact lacks.not_mem_inAgreement (by decide) absent g _ (List.mem_of_mem_head? start)
  · exact lacks.not_mem_inAgreement (by decide) inside g seams (List.mem_of_mem_head? first)

/-- **Agreement puts no two braces side by side that open.** -/
theorem unpaired_inAgreement {text : List Char} (h : Unpaired '\x7b' text) (g : Gender)
    (seams : Seams) : Unpaired '\x7b' (lex.inAgreement g seams text) := by
  induction n : text.length using Nat.strongRecOn generalizing text seams with
  | _ n ih =>
  subst n
  by_cases inside : '\x7b' ∈ text
  · obtain ⟨u, v, rfl, absent⟩ := List.eq_append_cons_of_mem inside
    obtain ⟨-, behind, -⟩ := unpaired_append.mp h
    obtain ⟨other, later⟩ := unpaired_cons.mp behind
    have absent' := lacks.not_mem_inAgreement (by decide) absent g ⟨seams.before, false⟩
    rw [lex.inAgreement_append_cons g seams isCut_opening]
    refine unpaired_append.mpr ⟨unpaired_of_not_mem absent', unpaired_cons.mpr ⟨?_, ?_⟩, ?_⟩
    · exact lex.head?_inAgreement filled lacks other g _
    · refine ih _ ?_ later _ rfl
      rw [List.length_append, List.length_cons]
      omega
    · rintro ⟨last, -⟩
      exact absent' (List.mem_of_mem_getLast? last)
  · exact unpaired_of_not_mem (lacks.not_mem_inAgreement (by decide) inside g seams)

end Braces

end Lexicon

/-! ## Resolved templates -/

namespace Template

variable {lex : Lexicon} {ctx : Context}

/-- Texts without pairs and between two of them something without the character have no pair when
they are put together. -/
theorem unpaired_flatMap_withSeams {c : Char} {f : Seams × Segment → List Char} {l : List Segment}
    (alternating : Alternating l)
    (on_text : ∀ seams s, .text s ∈ l → Unpaired c (f (seams, .text s)))
    (on_placeholder : ∀ seams p source, .placeholder p source ∈ l →
      f (seams, .placeholder p source) ≠ [] ∧ c ∉ f (seams, .placeholder p source))
    (first : Bool) : Unpaired c ((withSeams first l).flatMap f) := by
  induction l generalizing first with
  | nil => exact .nil
  | cons s rest ih =>
      have later := ih alternating.tail
        (fun seams t ht => on_text seams t (List.mem_cons_of_mem s ht))
        (fun seams p source hp => on_placeholder seams p source (List.mem_cons_of_mem s hp))
      rw [withSeams, List.flatMap_cons, unpaired_append]
      cases s with
      | placeholder p source =>
          have lacks := (on_placeholder ⟨first, rest.head?.any Segment.isPlaceholder⟩ p source
            List.mem_cons_self).2
          refine ⟨unpaired_of_not_mem lacks, later _, ?_⟩
          rintro ⟨last, -⟩
          exact lacks (List.mem_of_mem_getLast? last)
      | text s =>
          refine ⟨on_text _ s List.mem_cons_self, later _, ?_⟩
          rintro ⟨-, start⟩
          -- behind a text stands a placeholder, which leaves something without the character
          cases alternating with
          | singleton => cases start
          | @cons_cons _ t rest one chain =>
              cases t with
              | text t => simp [Segment.isPlaceholder] at one
              | placeholder p source =>
                  rw [withSeams, List.flatMap_cons] at start
                  obtain ⟨filled, lacks⟩ := on_placeholder
                    ⟨Segment.isPlaceholder (.text s), rest.head?.any Segment.isPlaceholder⟩ p source
                    (List.mem_cons_of_mem _ List.mem_cons_self)
                  rw [List.head?_append_of_ne_nil _ filled] at start
                  exact lacks (List.mem_of_mem_head? start)

/-- **Complete values leave no braces that open.** Where every placeholder is a variable with a
value, no two braces open in a text, and the forms and values all hold something but no brace that
opens, no two braces open in the resolved text. -/
theorem resolve_opens_nothing (lex : Lexicon) (ctx : Context) (template : String)
    (filled : lex.FormsFilled) (lacks : lex.FormsLack '\x7b')
    (simple : ∀ p source, .placeholder p source ∈ segments template.toList →
      ∃ name, p = .variable name)
    (unopened : ∀ s ∈ texts template.toList, ¬ ['\x7b', '\x7b'] <:+: s)
    (complete : ∀ name ∈ variableNames template, ∃ v, ctx.values.get? name = some v ∧ v ≠ "" ∧
      '\x7b' ∉ v.toList) :
    ¬ ['\x7b', '\x7b'] <:+: (resolve lex ctx template).toList := by
  rw [← unpaired_iff, resolve, String.toList_ofList, seamedSegments]
  refine unpaired_flatMap_withSeams (alternating_segments _) ?_ ?_ false
  · intro seams s hs
    have apart := unopened s (mem_texts.mpr hs)
    exact lex.unpaired_inAgreement filled lacks (unpaired_iff.mpr apart) ctx.gender seams
  · intro seams p source hp
    obtain ⟨name, rfl⟩ := simple p source hp
    obtain ⟨v, found, some_value, absent⟩ := complete name (mem_variableNames.mpr ⟨source, hp⟩)
    have value :
        resolveSegment lex ctx (seams, .placeholder (.variable name) source) = v.toList := by
      rw [resolveSegment, found]
      rfl
    rw [value]
    exact ⟨fun empty => some_value (String.toList_eq_nil_iff.mp empty), absent⟩

/-- Single braces around a word that changes, and on both sides of a value. -/
theorem resolve_opens_nothing_between_braces :
    let template := "\x7bהוא\x7b \x7b\x7b first \x7d\x7d\x7b\x7b\x7blast\x7d\x7d\x7d"
    let ctx : Context :=
      { gender := .female, values := .ofList [("first", "הוא"), ("last", "\x7d")] }
    (Lexicon.small.FormsFilled ∧ Lexicon.small.FormsLack '\x7b' ∧
      (∀ p source, .placeholder p source ∈ segments template.toList →
        ∃ name, p = .variable name) ∧
      (∀ s ∈ texts template.toList, ¬ ['\x7b', '\x7b'] <:+: s) ∧
      ∀ name ∈ variableNames template, ∃ v, ctx.values.get? name = some v ∧ v ≠ "" ∧
        '\x7b' ∉ v.toList) ∧
    resolve .small ctx template = "\x7bהיא\x7b הוא\x7b\x7d\x7d" ∧
    ¬ ['\x7b', '\x7b'] <:+: (resolve .small ctx template).toList := by
  intro template ctx
  have filled : Lexicon.small.FormsFilled := Lexicon.forall_form_small (P := (· ≠ "")) (by decide)
  have read : segments template.toList =
      [.text "\x7bהוא\x7b ".toList,
        .placeholder (.variable "first") (Placeholder.source " first ".toList), .text ['\x7b'],
        .placeholder (.variable "last") (Placeholder.source "last".toList), .text ['\x7d']] := by
    decide +kernel
  have simple : ∀ p source, .placeholder p source ∈ segments template.toList →
      ∃ name, p = .variable name := by
    intro p source h
    rw [read] at h
    simp only [List.mem_cons, List.not_mem_nil, reduceCtorEq, or_false, false_or,
      Segment.placeholder.injEq] at h
    rcases h with ⟨rfl, -⟩ | ⟨rfl, -⟩ <;> exact ⟨_, rfl⟩
  have unopened : ∀ s ∈ texts template.toList, ¬ ['\x7b', '\x7b'] <:+: s := by
    rw [texts, read]
    decide
  have named : variableNames template = ["first", "last"] := by decide +kernel
  have complete : ∀ name ∈ variableNames template, ∃ v, ctx.values.get? name = some v ∧ v ≠ "" ∧
      '\x7b' ∉ v.toList := by
    intro name listed
    rw [named] at listed
    rcases List.mem_pair.mp listed with rfl | rfl
    · exact ⟨"הוא", by decide +kernel⟩
    · exact ⟨"\x7d", by decide +kernel⟩
  exact ⟨⟨filled, Lexicon.formsLack_small, simple, unopened, complete⟩, by decide +kernel,
    resolve_opens_nothing .small ctx template filled Lexicon.formsLack_small simple unopened
      complete⟩

end Template

end Agreement
