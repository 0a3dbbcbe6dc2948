/- # Agreement.Proofs.Review.OpenVariables: what a review says is left open

A review resolves a clause for each gender and reads the result again, so what it reports depends
on everything that stands around an open placeholder by then. This module shows that nothing there
can hide the placeholder, and that nothing can look like one when neither the text, nor the
vocabulary, nor the values have a brace that opens.

A declared name that is no identifier never becomes a placeholder. The review looks for it as it is
written, in double braces without blank space, after agreement went over the text. It is found when
agreement leaves it alone.
-/
import Agreement.Proofs.Gender.Cuts
import Agreement.Proofs.Template.Bodies
import Agreement.Proofs.Template.Grammar
import Agreement.Proofs.Template.Stages
import Agreement.Proofs.Text.Occurrences
import Agreement.Review.Trial
import Mathlib.Data.List.Count

namespace Agreement

open Text

namespace Template

open Placeholder

variable {text : List Char} {name : String}

/-! ## Placeholders in a text -/

theorem mem_of_mem_placed {start i : Nat} {s : Segment} {l : List Segment}
    (h : (i, s) ∈ placed start l) : s ∈ l := by
  induction l generalizing start with
  | nil => cases h
  | cons t rest ih =>
      rcases List.mem_cons.mp h with same | later
      · rw [(Prod.mk.inj same).2]
        exact List.mem_cons_self
      · exact List.mem_cons_of_mem _ (ih later)

/-- A placeholder that opens somewhere in a text is one of its segments, whatever stands before and
after it. -/
theorem placeholder_mem_segments {before body after : List Char} {p : Placeholder}
    (opens : Opens (source body ++ after) p body after) :
    .placeholder p (source body) ∈ segments (before ++ (source body ++ after)) := by
  apply @mem_of_mem_placed 0 before.length
  rw [mem_placed_segments_iff, List.drop_left]
  exact ⟨after, opens⟩

/-- Where an identifier stands in double braces, the text has its variable. -/
theorem mem_variableNames_of_isInfix (identifier : isIdentifier name.toList = true)
    (stands : source name.toList <:+: text) : name ∈ variableNames (String.ofList text) := by
  obtain ⟨before, after, rfl⟩ := stands
  have chars {c : Char} (hc : c ∈ name.toList) :=
    ne_of_identifierChar (identifierChar_of_mem identifier hc)
  have opens := opens_of_parseBody (parseBody_of_isIdentifier identifier)
    (fun brace => (chars brace).1 rfl) (fun brace => (chars brace).2.1 rfl) after
  rw [String.ofList_toList] at opens
  rw [mem_variableNames, String.toList_ofList, List.append_assoc]
  exact ⟨_, placeholder_mem_segments opens⟩

/-! ## What resolution leaves open -/

section Resolving

variable {lex : Lexicon} {ctx : Context} {template : String}

/-- What a segment resolves to stands in the resolved text. -/
theorem resolveSegment_isInfix (lex : Lexicon) (ctx : Context) {p : Seams × Segment}
    (h : p ∈ seamedSegments template) :
    resolveSegment lex ctx p <:+: (resolve lex ctx template).toList := by
  obtain ⟨before, after, split⟩ := List.append_of_mem h
  rw [resolve, String.toList_ofList, split, List.flatMap_append, List.flatMap_cons]
  exact ⟨_, _, List.append_assoc _ _ _⟩

/-- A variable without a value stays, whatever the rest of the text becomes. -/
theorem mem_variableNames_resolve (used : name ∈ variableNames template)
    (no_value : ctx.values.get? name = none) :
    name ∈ variableNames (resolve lex ctx template) := by
  obtain ⟨src, member⟩ := mem_variableNames.mp used
  obtain ⟨body, rfl, opens⟩ := isClean_of_mem_segments member
  rw [← map_snd_withSeams false (segments template.toList)] at member
  obtain ⟨⟨seams, s⟩, seamed, rfl⟩ := List.mem_map.mp member
  obtain ⟨before, after, split⟩ := resolveSegment_isInfix lex ctx seamed
  have kept : resolveSegment lex ctx (seams, .placeholder (.variable name) (source body)) =
      source body := by
    simp [resolveSegment, no_value, orSource]
  rw [kept, List.append_assoc] at split
  rw [mem_variableNames, ← split]
  exact ⟨_, placeholder_mem_segments (opens after)⟩

/-- A segment as resolution leaves it: text, or a placeholder that stays. -/
def settled (lex : Lexicon) (ctx : Context) (p : Seams × Segment) : Segment :=
  (((agreed lex ctx.gender p).replaceBy (chosenForm? ctx.gender)).replaceBy
    (inflected? lex ctx.overrides)).replaceBy (value? ctx.values)

theorem resolve_eq_flatMap_settled (lex : Lexicon) (ctx : Context) (template : String) :
    resolve lex ctx template =
      String.ofList (((seamedSegments template).map (settled lex ctx)).flatMap Segment.source) := by
  rw [resolve, List.flatMap_map]
  congr 2
  funext p
  exact (source_stages lex ctx p).1.symm

/-- Of the variables only those without a value stay, and nothing else becomes one. -/
theorem variableName?_settled (lex : Lexicon) (ctx : Context) (p : Seams × Segment) :
    (settled lex ctx p).variableName? =
      p.2.variableName?.filter fun name => (ctx.values.get? name).isNone := by
  obtain ⟨seams, s | ⟨name | f | ⟨tag, word⟩, source⟩⟩ := p
  · rfl
  · cases found : ctx.values.get? name <;>
      simp [settled, Segment.replaceBy, agreed, chosenForm?, inflected?, value?,
        Segment.variableName?, Option.filter, found]
  · rfl
  · cases found : inflectFor lex ctx.overrides tag word <;>
      simp [settled, Segment.replaceBy, agreed, chosenForm?, inflected?, value?,
        Segment.variableName?, found]

theorem not_mem_value {values : SortedMap String String} {s : Segment} {v : String}
    (lacks : ∀ n v, values.get? n = some v → '\x7b' ∉ v.toList) (h : value? values s = some v) :
    '\x7b' ∉ v.toList := by
  unfold value? at h
  split at h
  · exact lacks _ v h
  · cases h

/-- Without braces in the text, the forms and the values, resolution leaves every segment clean. -/
theorem isClean_settled (lacks : lex.FormsLack '\x7b')
    (absent : ∀ s ∈ texts template.toList, '\x7b' ∉ s)
    (plain : ∀ n v, ctx.values.get? n = some v → '\x7b' ∉ v.toList) :
    ∀ s ∈ (seamedSegments template).map (settled lex ctx), s.IsClean := by
  have clean := isClean_agreed lacks absent ctx.gender
  have chosen := isClean_map_replaceBy clean fun s v => not_mem_chosenForm (g := ctx.gender)
  have inflected := isClean_map_replaceBy chosen fun s v _ =>
    @not_mem_inflected lex lacks ctx.overrides s v
  have settled := isClean_map_replaceBy inflected fun s v _ => not_mem_value (s := s) plain
  rwa [List.map_map, List.map_map, List.map_map] at settled

/-- **The variables of a resolved text are those without a value**, in the order of the template,
when there are no braces in the text, the forms and the values. -/
theorem variableNames_resolve (lacks : lex.FormsLack '\x7b')
    (absent : ∀ s ∈ texts template.toList, '\x7b' ∉ s)
    (plain : ∀ n v, ctx.values.get? n = some v → '\x7b' ∉ v.toList) :
    variableNames (resolve lex ctx template) =
      (variableNames template).filter fun name => (ctx.values.get? name).isNone := by
  have additive : IsAdditive fun s : Segment => s.variableName?.toList := fun _ _ => rfl
  rw [resolve_eq_flatMap_settled, variableNames, String.toList_ofList,
    List.filterMap_eq_flatMap_toList,
    flatMap_segments_flatMap_source additive (isClean_settled lacks absent plain),
    ← List.filterMap_eq_flatMap_toList, List.filterMap_map, variableNames,
    filter_firstOccurrences, ← map_snd_withSeams false (segments template.toList),
    List.filterMap_map, List.filter_filterMap]
  congr 2
  funext p
  exact variableName?_settled lex ctx p

end Resolving

end Template

/-! ## What the review reports -/

namespace Clause

variable {lex : Lexicon} {options : ReviewOptions} {c : Clause} {g : Gender} {name : String}

/-! ### The kinds of its parts -/

theorem kind_of_mem_declarationFindings {f : Finding} (h : f ∈ c.declarationFindings) :
    f.kind = .unused ∨ f.kind = .undeclared := by
  rcases List.mem_append.mp h with unused | undeclared
  · obtain ⟨n, -, rfl⟩ := List.mem_map.mp unused
    exact .inl rfl
  · obtain ⟨n, -, rfl⟩ := List.mem_map.mp undeclared
    exact .inr rfl

theorem kind_of_mem_wordFindings {f : Finding} (h : f ∈ c.wordFindings lex) :
    f.kind = .unknownWord := by
  obtain ⟨p, -, rfl⟩ := List.mem_map.mp h
  rfl

theorem kind_of_mem_trialFindings {f : Finding} (h : f ∈ c.trialFindings lex options g) :
    f.kind = .unresolved := by
  obtain ⟨n, -, rfl⟩ := List.mem_map.mp h
  rfl

theorem kind_of_mem_bypassFindings {f : Finding} (h : f ∈ c.bypassFindings options) :
    f.kind = .handwritten ∨ f.kind = .stray := by
  simp only [bypassFindings, List.mem_append, List.mem_ite_nil_right, List.mem_map] at h
  rcases h with ⟨-, text, -, rfl⟩ | ⟨-, text, -, rfl⟩
  · exact .inl rfl
  · exact .inr rfl

theorem filter_kind_eq_nil {l : List Finding} {k : FindingKind} (h : ∀ f ∈ l, f.kind ≠ k) :
    l.filter (·.kind == k) = [] := by
  rw [List.filter_eq_nil_iff]
  intro f hf same
  exact h f hf (beq_iff_eq.mp same)

/-! ### Open variables -/

/-- The values that a review resolves a clause with. -/
def trialValues (options : ReviewOptions) (c : Clause) : SortedMap String String :=
  options.values.getD c.sampleValues

/-- The declared variables that the trial for a gender leaves open. -/
def leftOpen (lex : Lexicon) (options : ReviewOptions) (c : Clause) (g : Gender) : List String :=
  c.openVariables (Template.resolve lex (c.trialContext options g) c.body)

theorem nodup_leftOpen (lex : Lexicon) (options : ReviewOptions) (c : Clause) (g : Gender) :
    (c.leftOpen lex options g).Nodup :=
  nodup_firstOccurrences _

/-- A declared variable is open in a text if it is a variable there, or stands there in double
braces. -/
theorem mem_openVariables {resolved : String} :
    name ∈ c.openVariables resolved ↔
      name ∈ c.declaredVariables ∧
        (name ∈ Template.variableNames resolved ∨
          Placeholder.source name.toList <:+: resolved.toList) := by
  simp only [openVariables, mem_firstOccurrences, List.mem_append, List.mem_filter,
    List.contains_iff_mem, occursIn_iff]
  tauto

/-- If all declared names are identifiers, the search for names in double braces adds nothing. -/
theorem openVariables_eq
    (identifiers : ∀ n ∈ c.declaredVariables, Placeholder.isIdentifier n.toList)
    (resolved : String) :
    c.openVariables resolved =
      (Template.variableNames resolved).filter c.declaredVariables.contains := by
  rw [openVariables, firstOccurrences_append_of_subset, firstOccurrences_of_nodup]
  · exact (nodup_firstOccurrences _).filter _
  · intro n hn
    obtain ⟨declared, stands⟩ := List.mem_filter.mp hn
    have read := Template.mem_variableNames_of_isInfix (identifiers n declared)
      (occursIn_iff.mp stands)
    rw [String.ofList_toList] at read
    exact List.mem_filter.mpr ⟨read, List.contains_iff_mem.mpr declared⟩

/-- The findings about open variables are those of the trials, gender by gender. -/
theorem filter_unresolved_findings (lex : Lexicon) (options : ReviewOptions) (c : Clause) :
    (c.review lex options).findings.filter (·.kind == .unresolved) =
      options.genders.flatMap fun g => (c.leftOpen lex options g).map (.unresolved g) := by
  have trials : (options.genders.flatMap (c.trialFindings lex options)).filter
      (·.kind == .unresolved) = options.genders.flatMap (c.trialFindings lex options) := by
    rw [List.filter_eq_self]
    intro f hf
    obtain ⟨g, -, hf⟩ := List.mem_flatMap.mp hf
    exact beq_iff_eq.mpr (kind_of_mem_trialFindings hf)
  have declarations : c.declarationFindings.filter (·.kind == .unresolved) = [] :=
    filter_kind_eq_nil fun f hf => by
      rcases kind_of_mem_declarationFindings hf with kind | kind <;> simp [kind]
  have words : (c.wordFindings lex).filter (·.kind == .unresolved) = [] :=
    filter_kind_eq_nil fun f hf => by simp [kind_of_mem_wordFindings hf]
  have bypass : (c.bypassFindings options).filter (·.kind == .unresolved) = [] :=
    filter_kind_eq_nil fun f hf => by
      rcases kind_of_mem_bypassFindings hf with kind | kind <;> simp [kind]
  simp only [review, ClauseReport.ofFindings, List.filter_append, declarations, words, trials,
    bypass, List.nil_append, List.append_nil]
  rfl

/-- An open variable is reported once for each entry of its gender in the list. -/
theorem count_unresolved (lex : Lexicon) (options : ReviewOptions) (c : Clause) (g : Gender)
    (name : String) :
    (c.review lex options).findings.count (.unresolved g name) =
      if name ∈ c.leftOpen lex options g then options.genders.count g else 0 := by
  -- one trial reports a name at most once, since its open variables are listed once
  have trial (g' : Gender) :
      ((c.leftOpen lex options g').map (Finding.unresolved g')).count (.unresolved g name) =
        if g' = g ∧ name ∈ c.leftOpen lex options g then 1 else 0 := by
    by_cases same : g' = g
    · subst same
      rw [List.count_map_of_injective _ _ fun a b h => (Finding.unresolved.inj h).2,
        (c.nodup_leftOpen lex options g').count]
      simp
    · rw [List.count_eq_zero.mpr]
      · simp [same]
      · simp [same]
  rw [← List.count_filter (p := (·.kind == .unresolved)) rfl, filter_unresolved_findings]
  induction options.genders with
  | nil => simp
  | cons g' genders ih =>
      rw [List.flatMap_cons, List.count_append, ih, trial, List.count_cons]
      grind

/-- A clause with an open variable fails. -/
theorem passed_eq_false (h : .unresolved g name ∈ (c.review lex options).findings) :
    (c.review lex options).passed = false := by
  simp only [review, ClauseReport.ofFindings, Bool.not_eq_false'] at h ⊢
  exact List.any_eq_true.mpr ⟨_, h, rfl⟩

/-- A declared variable without a value is left open for every gender, whatever stands around
it. -/
theorem mem_leftOpen (declared : name ∈ c.declaredVariables) (used : name ∈ c.usedVariables)
    (no_value : (c.trialValues options).get? name = none) (lex : Lexicon) (g : Gender) :
    name ∈ c.leftOpen lex options g :=
  mem_openVariables.mpr ⟨declared, .inl (Template.mem_variableNames_resolve used no_value)⟩

/-- Without braces around placeholders nothing else is left open. -/
theorem leftOpen_eq (identifiers : ∀ n ∈ c.declaredVariables, Placeholder.isIdentifier n.toList)
    (absent : ∀ s ∈ Template.texts c.body.toList, '\x7b' ∉ s) (lacks : lex.FormsLack '\x7b')
    (plain : ∀ n v, (c.trialValues options).get? n = some v → '\x7b' ∉ v.toList) (g : Gender) :
    c.leftOpen lex options g = c.usedVariables.filter fun n =>
      c.declaredVariables.contains n && ((c.trialValues options).get? n).isNone := by
  have left : Template.variableNames (Template.resolve lex (c.trialContext options g) c.body) =
      c.usedVariables.filter fun n => ((c.trialValues options).get? n).isNone :=
    Template.variableNames_resolve lacks absent plain
  rw [leftOpen, openVariables_eq identifiers, left, List.filter_filter]

/-- **A review finds exactly the variables that stay open.** A variable that the body uses and the
clause declares, and that has no value, is reported once for each entry of the gender list; if there
is one, the clause fails. No brace in the text, the forms or the other values changes that. When all
declared names are identifiers and neither the text outside placeholders, nor the forms, nor the
values have a brace that opens, these are all the open variables that are reported, gender by gender
in the order of their first use. -/
theorem review_finds_open_variables (lex : Lexicon) (options : ReviewOptions) (c : Clause) :
    let report := c.review lex options
    let values := c.trialValues options
    (∀ n ∈ c.declaredVariables, n ∈ c.usedVariables → values.get? n = none →
      (∀ g, report.findings.count (.unresolved g n) = options.genders.count g) ∧
      (options.genders ≠ [] → report.passed = false)) ∧
    ((∀ n ∈ c.declaredVariables, Placeholder.isIdentifier n.toList) →
      (∀ s ∈ Template.texts c.body.toList, '\x7b' ∉ s) → lex.FormsLack '\x7b' →
      (∀ n v, values.get? n = some v → '\x7b' ∉ v.toList) →
      report.findings.filter (·.kind == .unresolved) =
        options.genders.flatMap fun g =>
          (c.usedVariables.filter fun n =>
            c.declaredVariables.contains n && (values.get? n).isNone).map (.unresolved g)) := by
  intro report values
  constructor
  · intro n declared used no_value
    have counted (g : Gender) :
        report.findings.count (.unresolved g n) = options.genders.count g := by
      rw [count_unresolved, if_pos (mem_leftOpen declared used no_value lex g)]
    refine ⟨counted, fun checked => ?_⟩
    obtain ⟨g, member⟩ := List.exists_mem_of_ne_nil _ checked
    have found : .unresolved g n ∈ report.findings := by
      rw [← List.count_pos_iff, counted, List.count_pos_iff]
      exact member
    exact passed_eq_false found
  · intro identifiers absent lacks plain
    rw [filter_unresolved_findings]
    simp only [leftOpen_eq identifiers absent lacks plain]
    rfl

/-- A value that ends in a brace stands in front of an open variable and does not hide it. In the
second clause the open variable is used twice, one variable has a value, one is not declared, and
one is declared and not used. -/
theorem review_finds_open_variables_behind_brace :
    let c : Clause :=
      { id := "", title := "", category := "", body := "\x7b\x7ba\x7d\x7d\x7b\x7bb\x7d\x7d\x7d",
        declaredVariables := ["a", "b"] }
    let options : ReviewOptions :=
      { genders := [.female, .male], values := some (.ofList [("a", "הוא\x7b")]) }
    let d : Clause :=
      { id := "", title := "", category := "",
        body := "הוא \x7b\x7bb\x7d\x7d \x7b\x7ba\x7d\x7d \x7b\x7bx\x7d\x7d \x7b\x7bb\x7d\x7d",
        declaredVariables := ["a", "b", "c"] }
    let plain : ReviewOptions :=
      { genders := [.female, .male], values := some (.ofList [("a", "הוא")]) }
    (("b" ∈ c.declaredVariables ∧ "b" ∈ c.usedVariables ∧
        (c.trialValues options).get? "b" = none ∧ options.genders ≠ []) ∧
      (c.review .small options).findings.count (.unresolved .male "b") = 1 ∧
      (c.review .small options).passed = false) ∧
    ((∀ n ∈ d.declaredVariables, Placeholder.isIdentifier n.toList) ∧
      (∀ s ∈ Template.texts d.body.toList, '\x7b' ∉ s) ∧ Lexicon.small.FormsLack '\x7b' ∧
      (∀ n v, (d.trialValues plain).get? n = some v → '\x7b' ∉ v.toList)) ∧
    (d.review .small plain).findings.filter (·.kind == .unresolved) =
      [.unresolved .female "b", .unresolved .male "b"] := by
  intro c options d plain
  have declared : "b" ∈ c.declaredVariables := by decide
  have used : "b" ∈ c.usedVariables := by decide +kernel
  have no_value : (c.trialValues options).get? "b" = none := by decide +kernel
  have checked : options.genders ≠ [] := by decide
  have identifiers : ∀ n ∈ d.declaredVariables, Placeholder.isIdentifier n.toList := by
    decide +kernel
  have absent : ∀ s ∈ Template.texts d.body.toList, '\x7b' ∉ s := by decide +kernel
  have values_plain : ∀ n v, (d.trialValues plain).get? n = some v → '\x7b' ∉ v.toList := by
    intro n v found
    have bound : v = "הוא" := by
      rw [show d.trialValues plain = SortedMap.empty.insert "a" "הוא" from rfl,
        SortedMap.get?_insert] at found
      simp at found
      exact found.2.symm
    rw [bound]
    decide
  have open_in_c := (review_finds_open_variables .small options c).1 "b" declared used no_value
  refine ⟨⟨⟨declared, used, no_value, checked⟩, open_in_c.1 .male, open_in_c.2 checked⟩,
    ⟨identifiers, absent, Lexicon.formsLack_small, values_plain⟩, ?_⟩
  rw [(review_finds_open_variables .small plain d).2 identifiers absent Lexicon.formsLack_small
    values_plain]
  decide +kernel

/-- A review that resolves for no gender leaves nothing open, so the clause passes. -/
theorem review_passes_without_genders :
    let c : Clause :=
      { id := "t", title := "T", category := "c", body := "\x7b\x7bx\x7d\x7d",
        declaredVariables := ["x"] }
    let options : ReviewOptions := { genders := [], values := some .empty }
    Placeholder.isIdentifier "x".toList = true ∧ "x" ∈ c.declaredVariables ∧
      "x" ∈ c.usedVariables ∧ (c.trialValues options).get? "x" = none ∧
      (c.review .small options).passed = true := by
  decide +kernel

end Clause

end Agreement
