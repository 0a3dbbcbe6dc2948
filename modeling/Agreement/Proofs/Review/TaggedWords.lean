/- # Agreement.Proofs.Review.TaggedWords: words that agree with a tag

A review tries a clause out with every tag of its body standing for somebody, and warns of the words
that the vocabulary does not have. The warning looks each word up once, for one gender. This module
shows that this says what happens in every trial: whether a word is found does not depend on the
gender, and a tag stands for the subject of the trial even if it names a gender itself.

A placeholder stays in a trial only if it is a variable without a value or a word that is not found.
So a review without the two warnings means that no trial leaves a placeholder.
-/
import Agreement.Proofs.Review.OpenVariables
import Agreement.Proofs.SortedMap

namespace Agreement

/-- Whether a word is found does not depend on the gender. -/
theorem Lexicon.inflect_eq_none_iff {lex : Lexicon} {word : String} {g : Gender} :
    lex.inflect word g = none ↔ lex.find? (normalizeKey word.toList) = none :=
  Option.map_eq_none_iff

namespace Template

theorem forall_seamedSegments {template : String} {P : Segment → Prop} :
    (∀ p ∈ seamedSegments template, P p.2) ↔ ∀ s ∈ segments template.toList, P s := by
  rw [← map_snd_withSeams false (segments template.toList), List.forall_mem_map]
  rfl

/-- What resolution puts in place of a placeholder, if it puts anything. -/
def replacement? (lex : Lexicon) (ctx : Context) (s : Segment) : Option String :=
  (chosenForm? ctx.gender s).or ((inflected? lex ctx.overrides s).or (value? ctx.values s))

theorem resolveSegment_placeholder (lex : Lexicon) (ctx : Context) (seams : Seams)
    (p : Placeholder) (source : List Char) :
    resolveSegment lex ctx (seams, .placeholder p source) =
      orSource source (replacement? lex ctx (.placeholder p source)) := by
  rcases p with name | f | ⟨tag, word⟩
  · rfl
  · rfl
  · cases found : inflectFor lex ctx.overrides tag word <;>
      simp [resolveSegment, replacement?, chosenForm?, inflected?, value?, found]

/-- Forms are always chosen, so what is not replaced is a word or a variable. -/
theorem replacement?_eq_none_iff {lex : Lexicon} {ctx : Context} {p : Placeholder}
    {source : List Char} :
    replacement? lex ctx (.placeholder p source) = none ↔
      (∃ tag word, p = .agreeing tag word ∧ inflectFor lex ctx.overrides tag word = none) ∨
      ∃ name, p = .variable name ∧ ctx.values.get? name = none := by
  rcases p with name | f | ⟨tag, word⟩ <;>
    simp [replacement?, chosenForm?, inflected?, value?]

end Template

namespace Clause

open Template

variable {lex : Lexicon} {options : ReviewOptions} {c : Clause} {g : Gender} {tag word : String}

/-- The words with a tag are those of the agreeing segments. -/
theorem mem_taggedWords :
    (tag, word) ∈ c.taggedWords ↔
      ∃ source, .placeholder (.agreeing tag word) source ∈ segments c.body.toList := by
  rw [taggedWords, mem_firstOccurrences, List.mem_filterMap]
  constructor
  · rintro ⟨s, member, tagged⟩
    unfold Segment.agreeing? at tagged
    split at tagged
    · next source =>
        cases tagged
        exact ⟨source, member⟩
    · cases tagged
  · rintro ⟨source, member⟩
    exact ⟨_, member, rfl⟩

/-! ## A trial -/

/-- The tags of the body stand for the subject of the trial. -/
theorem overrides_trialContext (used : (tag, word) ∈ c.taggedWords) :
    (c.trialContext options g).overrides.get? tag = some g := by
  have listed : tag ∈ (c.trialContext options g).overrides.keys := by
    rw [trialContext, SortedMap.mem_keys_ofList, List.map_map]
    exact List.mem_map.mpr ⟨_, used, rfl⟩
  obtain ⟨g', bound⟩ := Option.isSome_iff_exists.mp (SortedMap.mem_keys.mp listed)
  obtain ⟨p, -, same⟩ := List.mem_map.mp (SortedMap.mem_of_get?_ofList bound)
  rw [bound, (Prod.mk.inj same).2]

theorem overrides_trialContext_of_forall (unused : ∀ word, (tag, word) ∉ c.taggedWords) :
    (c.trialContext options g).overrides.get? tag = none := by
  rw [← Option.not_isSome_iff_eq_none, ← SortedMap.mem_keys, trialContext,
    SortedMap.mem_keys_ofList, List.map_map]
  intro listed
  obtain ⟨⟨_, word⟩, member, rfl⟩ := List.mem_map.mp listed
  exact unused word member

/-- In a trial a word of the body is inflected for the subject. -/
theorem inflectFor_trialContext (used : (tag, word) ∈ c.taggedWords) :
    inflectFor lex (c.trialContext options g).overrides tag word = lex.inflect word g := by
  rw [inflectFor, overrides_trialContext used]

/-- What one trial does not find, no trial finds. -/
theorem inflectFor_trialContext_eq_none_iff (g g' : Gender) :
    inflectFor lex (c.trialContext options g).overrides tag word = none ↔
      inflectFor lex (c.trialContext options g').overrides tag word = none := by
  by_cases used : ∃ word', (tag, word') ∈ c.taggedWords
  · obtain ⟨word', used⟩ := used
    rw [inflectFor, overrides_trialContext used, inflectFor, overrides_trialContext used]
    exact Lexicon.inflect_eq_none_iff.trans Lexicon.inflect_eq_none_iff.symm
  · -- a tag that is not in the body stands for nobody, or for the gender that it names
    have unused := not_exists.mp used
    rw [inflectFor, overrides_trialContext_of_forall unused, inflectFor,
      overrides_trialContext_of_forall unused]

/-- Without a value map, the variables with a value are those that are declared. -/
theorem values_trialContext_eq_none_iff (sampled : options.values = none) {name : String} :
    (c.trialContext options g).values.get? name = none ↔ name ∉ c.declaredVariables := by
  rw [trialContext, sampled, Option.getD_none, sampleValues, ← Option.not_isSome_iff_eq_none,
    ← SortedMap.mem_keys, SortedMap.mem_keys_ofList, List.map_map]
  exact not_congr (by simp)

/-! ## What the review reports -/

/-- The findings about words are one for each word that the vocabulary does not have. -/
theorem filter_unknownWord_findings (lex : Lexicon) (options : ReviewOptions) (c : Clause) :
    (c.review lex options).findings.filter (·.kind == .unknownWord) = c.wordFindings lex := by
  have words : (c.wordFindings lex).filter (·.kind == .unknownWord) = c.wordFindings lex :=
    List.filter_eq_self.mpr fun f hf => beq_iff_eq.mpr (kind_of_mem_wordFindings hf)
  have declarations : c.declarationFindings.filter (·.kind == .unknownWord) = [] :=
    filter_kind_eq_nil fun f hf => by
      rcases kind_of_mem_declarationFindings hf with kind | kind <;> simp [kind]
  have trials : (options.genders.flatMap (c.trialFindings lex options)).filter
      (·.kind == .unknownWord) = [] :=
    filter_kind_eq_nil fun f hf => by
      obtain ⟨g, -, hf⟩ := List.mem_flatMap.mp hf
      simp [kind_of_mem_trialFindings hf]
  have bypass : (c.bypassFindings options).filter (·.kind == .unknownWord) = [] :=
    filter_kind_eq_nil fun f hf => by
      rcases kind_of_mem_bypassFindings hf with kind | kind <;> simp [kind]
  simp only [review, ClauseReport.ofFindings, List.filter_append, declarations, words, trials,
    bypass, List.nil_append, List.append_nil]

/-- A word with a tag is reported once, if the vocabulary does not have it. -/
theorem count_unknownWord (lex : Lexicon) (options : ReviewOptions) (c : Clause)
    (tag word : String) :
    (c.review lex options).findings.count (.unknownWord tag word) =
      if (tag, word) ∈ c.taggedWords ∧ lex.find? (normalizeKey word.toList) = none
      then 1 else 0 := by
  have injective : Function.Injective fun p : String × String => Finding.unknownWord p.1 p.2 := by
    rintro ⟨t, w⟩ ⟨t', w'⟩ same
    cases same
    rfl
  have once : (c.taggedWords.filter fun p => (lex.inflect p.2 .male).isNone).Nodup :=
    (nodup_firstOccurrences _).filter _
  have counted := List.count_map_of_injective
    (c.taggedWords.filter fun p => (lex.inflect p.2 .male).isNone) _ injective (tag, word)
  rw [← List.count_filter (p := (·.kind == .unknownWord)) rfl, filter_unknownWord_findings,
    wordFindings, counted, once.count]
  simp [Lexicon.inflect_eq_none_iff]

/-- A variable of the body is reported if it is not declared. -/
theorem mem_findings_undeclared {name : String} :
    .undeclared name ∈ (c.review lex options).findings ↔
      name ∈ c.usedVariables ∧ name ∉ c.declaredVariables := by
  constructor
  · intro member
    simp only [review, ClauseReport.ofFindings, List.mem_append, List.mem_flatMap] at member
    rcases member with ((declaration | word) | ⟨g, -, trial⟩) | bypass
    · simpa [declarationFindings] using declaration
    · cases kind_of_mem_wordFindings word
    · cases kind_of_mem_trialFindings trial
    · rcases kind_of_mem_bypassFindings bypass with kind | kind <;> cases kind
  · rintro ⟨used, undeclared⟩
    simp [review, ClauseReport.ofFindings, declarationFindings, used, undeclared]

/-- A review without the two warnings has every word with a tag, and a declaration for every
variable. -/
theorem forall_findings_iff :
    (∀ f ∈ (c.review lex options).findings, f.kind ≠ .unknownWord ∧ f.kind ≠ .undeclared) ↔
      (∀ tag word, (tag, word) ∈ c.taggedWords →
        lex.find? (normalizeKey word.toList) ≠ none) ∧
      ∀ name ∈ c.usedVariables, name ∈ c.declaredVariables := by
  constructor
  · intro quiet
    constructor
    · intro tag word used unknown
      have reported : .unknownWord tag word ∈ (c.review lex options).findings := by
        rw [← List.count_pos_iff, count_unknownWord, if_pos ⟨used, unknown⟩]
        exact Nat.one_pos
      exact (quiet _ reported).1 rfl
    · intro name used
      by_contra undeclared
      exact (quiet _ (mem_findings_undeclared.mpr ⟨used, undeclared⟩)).2 rfl
  · rintro ⟨known, declared⟩ f member
    constructor
    · intro kind
      match f, kind with
      | .unknownWord tag word, _ =>
        rw [← List.count_pos_iff, count_unknownWord] at member
        split at member
        · next reported => exact known tag word reported.1 reported.2
        · exact absurd member (lt_irrefl 0)
    · intro kind
      match f, kind with
      | .undeclared name, _ =>
        obtain ⟨used, undeclared⟩ := mem_findings_undeclared.mp member
        exact undeclared (declared name used)

/-- A trial replaces every placeholder if the vocabulary has the words with a tag and the variables
are declared. -/
theorem forall_replaced_iff (sampled : options.values = none) (g : Gender) :
    (∀ p ∈ seamedSegments c.body, p.2.isPlaceholder = true →
      replacement? lex (c.trialContext options g) p.2 ≠ none) ↔
      (∀ tag word, (tag, word) ∈ c.taggedWords →
        lex.find? (normalizeKey word.toList) ≠ none) ∧
      ∀ name ∈ c.usedVariables, name ∈ c.declaredVariables := by
  rw [forall_seamedSegments (P := fun s => s.isPlaceholder = true →
    replacement? lex (c.trialContext options g) s ≠ none)]
  constructor
  · intro replaced
    constructor
    · intro tag word used unknown
      obtain ⟨source, member⟩ := mem_taggedWords.mp used
      refine replaced _ member rfl (replacement?_eq_none_iff.mpr (.inl ⟨tag, word, rfl, ?_⟩))
      rw [inflectFor_trialContext used]
      exact Lexicon.inflect_eq_none_iff.mpr unknown
    · intro name used
      by_contra undeclared
      obtain ⟨source, member⟩ := mem_variableNames.mp used
      have lost := (values_trialContext_eq_none_iff (g := g) sampled).mpr undeclared
      exact replaced _ member rfl (replacement?_eq_none_iff.mpr (.inr ⟨name, rfl, lost⟩))
  · rintro ⟨known, declared⟩ s member placeholder stays
    cases s with
    | text s => cases placeholder
    | placeholder p source =>
        rcases replacement?_eq_none_iff.mp stays with ⟨tag, word, rfl, lost⟩ | ⟨name, rfl, lost⟩
        · have used := mem_taggedWords.mpr ⟨source, member⟩
          rw [inflectFor_trialContext used] at lost
          exact known tag word used (Lexicon.inflect_eq_none_iff.mp lost)
        · have used := mem_variableNames.mpr ⟨source, member⟩
          exact (values_trialContext_eq_none_iff sampled).mp lost (declared name used)

/-- A tag and its word stand in the body, and a trial does not find the word. -/
def IsLost (lex : Lexicon) (options : ReviewOptions) (c : Clause) (tag word : String) : Prop :=
  (∃ source, .placeholder (.agreeing tag word) source ∈ segments c.body.toList) ∧
    ∃ g ∈ options.genders, inflectFor lex (c.trialContext options g).overrides tag word = none

theorem isLost_iff (checked : options.genders ≠ []) :
    IsLost lex options c tag word ↔
      (tag, word) ∈ c.taggedWords ∧ lex.find? (normalizeKey word.toList) = none := by
  rw [IsLost, ← mem_taggedWords]
  refine and_congr_right fun used => ?_
  simp only [inflectFor_trialContext used, Lexicon.inflect_eq_none_iff]
  obtain ⟨g, member⟩ := List.exists_mem_of_ne_nil _ checked
  exact ⟨fun ⟨_, _, unknown⟩ => unknown, fun unknown => ⟨g, member, unknown⟩⟩

/-- **A review warns of exactly the words that no trial finds.** With some gender to resolve for and
without a value map, a tag and its word are reported once if they stand in the body and a trial does
not find the word, and otherwise not at all. A trial for one gender finds a word if and only if the
trial for any other does. And a review warns neither of an unknown word nor of an undeclared
variable if and only if the trial for a gender, whichever it is, puts something in place of every
placeholder. -/
theorem review_finds_unknown_words (lex : Lexicon) (options : ReviewOptions) (c : Clause)
    (checked : options.genders ≠ []) (sampled : options.values = none) :
    let report := c.review lex options
    let trial := c.trialContext options
    (∀ tag word,
      (IsLost lex options c tag word → report.findings.count (.unknownWord tag word) = 1) ∧
      (¬ IsLost lex options c tag word → report.findings.count (.unknownWord tag word) = 0)) ∧
    (∀ tag word g g', inflectFor lex (trial g).overrides tag word = none ↔
      inflectFor lex (trial g').overrides tag word = none) ∧
    ∀ g, (∀ f ∈ report.findings, f.kind ≠ .unknownWord ∧ f.kind ≠ .undeclared) ↔
      ∀ p ∈ seamedSegments c.body, p.2.isPlaceholder = true →
        ∃ s, replacement? lex (trial g) p.2 = some s ∧
          resolveSegment lex (trial g) p = s.toList := by
  intro report trial
  refine ⟨fun tag word => ?_, fun tag word => inflectFor_trialContext_eq_none_iff, fun g => ?_⟩
  · rw [isLost_iff checked, count_unknownWord]
    exact ⟨fun h => if_pos h, fun h => if_neg h⟩
  · rw [forall_findings_iff, ← forall_replaced_iff sampled g]
    refine forall_congr' fun ⟨seams, s⟩ => forall_congr' fun _ => ?_
    cases s with
    | text s => simp [Segment.isPlaceholder]
    | placeholder p source =>
        rw [resolveSegment_placeholder, Option.ne_none_iff_exists']
        refine imp_congr_right fun _ => exists_congr fun s => ?_
        exact ⟨fun same => ⟨same, by rw [same]; rfl⟩, And.left⟩

/-- A tag that names a gender stands for the subject all the same. The word that the vocabulary does
not have is used twice and reported once. In the second clause nothing is missing. -/
theorem review_finds_unknown_table :
    let c : Clause :=
      { id := "", title := "", category := "",
        body := "\x7b\x7b@heir:שולחן\x7d\x7d \x7b\x7b@male:הוא\x7d\x7d " ++
          "\x7b\x7b@heir:שולחן\x7d\x7d \x7b\x7bname\x7d\x7d",
        declaredVariables := ["name"] }
    let d : Clause :=
      { id := "", title := "", category := "",
        body := "\x7b\x7b@male:החתום מטה\x7d\x7d \x7b\x7bname\x7d\x7d",
        declaredVariables := ["name"] }
    let options : ReviewOptions := { genders := [.female] }
    (options.genders ≠ [] ∧ options.values = none) ∧
    (IsLost .small options c "heir" "שולחן" ∧
      (c.review .small options).findings.count (.unknownWord "heir" "שולחן") = 1) ∧
    (¬ IsLost .small options c "male" "הוא" ∧
      (c.review .small options).findings.count (.unknownWord "male" "הוא") = 0) ∧
    ((∀ f ∈ (d.review .small options).findings, f.kind ≠ .unknownWord ∧ f.kind ≠ .undeclared) ∧
      (∀ g, ∀ p ∈ seamedSegments d.body, p.2.isPlaceholder = true →
        ∃ s, replacement? .small (d.trialContext options g) p.2 = some s ∧
          resolveSegment .small (d.trialContext options g) p = s.toList) ∧
      resolve .small (d.trialContext options .female) d.body = "החתומה מטה [name]") := by
  intro c d options
  have checked : options.genders ≠ [] := by decide
  have sampled : options.values = none := rfl
  have lost : IsLost .small options c "heir" "שולחן" :=
    (isLost_iff checked).mpr (by decide +kernel)
  have found : ¬ IsLost .small options c "male" "הוא" :=
    fun h => absurd ((isLost_iff checked).mp h) (by decide +kernel)
  have quiet : ∀ f ∈ (d.review .small options).findings,
      f.kind ≠ .unknownWord ∧ f.kind ≠ .undeclared := by decide +kernel
  obtain ⟨counts, -, -⟩ := review_finds_unknown_words .small options c checked sampled
  obtain ⟨-, -, replaced⟩ := review_finds_unknown_words .small options d checked sampled
  exact ⟨⟨checked, sampled⟩, ⟨lost, (counts _ _).1 lost⟩, ⟨found, (counts _ _).2 found⟩,
    quiet, fun g => (replaced g).mp quiet, by decide +kernel⟩

end Clause

end Agreement
