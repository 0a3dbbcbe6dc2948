/- # Agreement.Proofs.Review.Declarations: what a clause declares and what its body uses

A review compares two lists of names. The names that the body uses come from the reader, which
lists each of them once. The names that a clause declares are listed by its author, who may repeat
one, and a review goes over that list as it stands. So a name that is used and not declared is
reported once, while a name that is declared and not used is reported as often as it is declared.
-/
import Agreement.Proofs.Review.OpenVariables
import Mathlib.Data.List.Nodup

namespace Agreement.Clause

variable {lex : Lexicon} {options : ReviewOptions} {c : Clause} {name : String}

/-- Whether a name is a variable placeholder of the body. -/
def Uses (c : Clause) (name : String) : Prop :=
  ∃ source, Segment.placeholder (.variable name) source ∈ Template.segments c.body.toList

theorem uses_iff : c.Uses name ↔ name ∈ c.usedVariables := Template.mem_variableNames.symm

instance (c : Clause) (name : String) : Decidable (c.Uses name) := decidable_of_iff' _ uses_iff

/-! ## Only one part of a review is about declarations -/

/-- A finding about a declaration comes from the comparison of the names, whatever the vocabulary,
the trials and the scans find. -/
theorem count_findings_of_declaration {f : Finding}
    (kind : f.kind = .unused ∨ f.kind = .undeclared) :
    (c.review lex options).findings.count f = c.declarationFindings.count f := by
  have words : (c.wordFindings lex).count f = 0 := by
    refine List.count_eq_zero.mpr fun member => ?_
    rw [kind_of_mem_wordFindings member] at kind
    simp at kind
  have trials : (options.genders.flatMap (c.trialFindings lex options)).count f = 0 := by
    refine List.count_eq_zero.mpr fun member => ?_
    obtain ⟨g, -, member⟩ := List.mem_flatMap.mp member
    rw [kind_of_mem_trialFindings member] at kind
    simp at kind
  have bypass : (c.bypassFindings options).count f = 0 := by
    refine List.count_eq_zero.mpr fun member => ?_
    rcases kind_of_mem_bypassFindings member with same | same <;> simp [same] at kind
  simp only [review, ClauseReport.ofFindings, List.count_append, words, trials, bypass,
    Nat.add_zero]

/-! ## The comparison of the names -/

theorem unused_injective : Function.Injective Finding.unused :=
  fun _ _ same => Finding.unused.inj same

theorem undeclared_injective : Function.Injective Finding.undeclared :=
  fun _ _ same => Finding.undeclared.inj same

/-- A name that the body does not use is listed as often as it is declared. -/
theorem count_unused_declarationFindings (c : Clause) (name : String) :
    c.declarationFindings.count (.unused name) =
      if c.Uses name then 0 else c.declaredVariables.count name := by
  have other : ((c.usedVariables.filter (!c.declaredVariables.contains ·)).map
      Finding.undeclared).count (.unused name) = 0 := List.count_eq_zero.mpr (by simp)
  rw [declarationFindings, List.count_append, other, Nat.add_zero,
    List.count_map_of_injective _ _ unused_injective]
  by_cases used : c.Uses name
  · rw [if_pos used, List.count_eq_zero]
    simp [uses_iff.mp used]
  · rw [if_neg used, List.count_filter]
    simpa [uses_iff] using used

/-- A name that is used and not declared is listed once, because the reader lists it once. -/
theorem count_undeclared_declarationFindings (c : Clause) (name : String) :
    c.declarationFindings.count (.undeclared name) =
      if c.Uses name ∧ name ∉ c.declaredVariables then 1 else 0 := by
  have other : ((c.declaredVariables.filter (!c.usedVariables.contains ·)).map
      Finding.unused).count (.undeclared name) = 0 := List.count_eq_zero.mpr (by simp)
  have once : (c.usedVariables.filter (!c.declaredVariables.contains ·)).Nodup :=
    (nodup_firstOccurrences _).filter _
  rw [declarationFindings, List.count_append, other, Nat.zero_add,
    List.count_map_of_injective _ _ undeclared_injective, once.count]
  simp [uses_iff]

/-- **A review compares what is declared with what is used.** For every vocabulary and all options,
a name that is no variable of the body is reported as unused as often as the clause declares it, and
one that the body uses never is. A variable of the body that is not declared is reported once, and
no other name is reported as undeclared. So each name that is declared and not used is reported
exactly once if and only if the clause declares none of them twice. -/
theorem review_compares_declarations (lex : Lexicon) (options : ReviewOptions) (c : Clause) :
    let report := c.review lex options
    (∀ name, report.findings.count (.unused name) =
      if c.Uses name then 0 else c.declaredVariables.count name) ∧
    (∀ name, report.findings.count (.undeclared name) =
      if c.Uses name ∧ name ∉ c.declaredVariables then 1 else 0) ∧
    ((∀ name ∈ c.declaredVariables, ¬ c.Uses name → report.findings.count (.unused name) = 1) ↔
      (c.declaredVariables.filter (¬ c.Uses ·)).Nodup) := by
  intro report
  have unused (name : String) : report.findings.count (.unused name) =
      if c.Uses name then 0 else c.declaredVariables.count name :=
    (count_findings_of_declaration (.inl rfl)).trans (c.count_unused_declarationFindings name)
  have undeclared (name : String) : report.findings.count (.undeclared name) =
      if c.Uses name ∧ name ∉ c.declaredVariables then 1 else 0 :=
    (count_findings_of_declaration (.inr rfl)).trans (c.count_undeclared_declarationFindings name)
  refine ⟨unused, undeclared, ?_⟩
  rw [List.nodup_iff_count_eq_one]
  simp only [List.mem_filter, decide_eq_true_eq, and_imp]
  refine forall_congr' fun name => forall_congr' fun _ => forall_congr' fun free => ?_
  rw [unused, if_neg free, List.count_filter (p := (¬ c.Uses ·)) (decide_eq_true free)]

/-- A name that is declared twice and not used is reported twice. -/
theorem review_repeats_unused :
    let c : Clause :=
      { id := "t", title := "T", category := "c", body := "x", declaredVariables := ["a", "a"] }
    "a" ∈ c.declaredVariables ∧ ¬ c.Uses "a" ∧
      (c.review .small {}).findings.count (.unused "a") = 2 := by
  intro c
  have unused : ¬ c.Uses "a" := by decide +kernel
  refine ⟨by decide, unused, ?_⟩
  rw [count_findings_of_declaration (.inl rfl), count_unused_declarationFindings, if_neg unused]
  rfl

end Agreement.Clause
