/- # Agreement.Proofs.Outcome: when a chain of readers succeeds

A chain of operations that can fail has a result exactly if each of them has one, and one that goes
over a list fails with the first of them that does. A list is checked by checking its members.
-/
import Mathlib.Data.List.Forall2

namespace Except

variable {ε ε' α β : Type}

/-- Two operations one after the other succeed if both do. -/
theorem bind_eq_ok {x : Except ε α} {f : α → Except ε β} {b : β} :
    x >>= f = .ok b ↔ ∃ a, x = .ok a ∧ f a = .ok b := by
  cases x with
  | error e => exact ⟨nofun, fun ⟨_, h, _⟩ => nomatch h⟩
  | ok a => exact ⟨fun h => ⟨a, rfl, h⟩, fun ⟨_, rfl, h⟩ => h⟩

theorem map_eq_ok {x : Except ε α} {f : α → β} {b : β} :
    x.map f = .ok b ↔ ∃ a, x = .ok a ∧ f a = b := by
  cases x with
  | error e => exact ⟨nofun, fun ⟨_, h, _⟩ => nomatch h⟩
  | ok a => exact ⟨fun h => ⟨a, rfl, Except.ok.inj h⟩, fun ⟨_, rfl, h⟩ => congrArg _ h⟩

theorem pure_eq_ok {a b : α} : (pure a : Except ε α) = .ok b ↔ a = b :=
  ⟨Except.ok.inj, congrArg _⟩

theorem mapError_eq_ok {x : Except ε α} {f : ε → ε'} {a : α} :
    x.mapError f = .ok a ↔ x = .ok a := by
  cases x with
  | error e => exact ⟨nofun, nofun⟩
  | ok b => exact ⟨fun h => congrArg _ (Except.ok.inj h), fun h => congrArg _ (Except.ok.inj h)⟩

/-- An operation that succeeds for every member of a list succeeds for the list. -/
theorem mapM_eq_ok {f : α → Except ε β} {l : List α} {ys : List β}
    (each : List.Forall₂ (fun a b => f a = .ok b) l ys) : l.mapM f = .ok ys := by
  induction each with
  | nil => rfl
  | cons first _ ih =>
      rw [List.mapM_cons, first, ih]
      rfl

/-- An operation over a list fails with the first member for which it does. -/
theorem mapM_eq_error {f : α → Except ε β} {front back : List α} {a : α} {e : ε}
    (passed : ∀ x ∈ front, ∃ y, f x = .ok y) (failed : f a = .error e) :
    (front ++ a :: back).mapM f = .error e := by
  induction front with
  | nil =>
      rw [List.nil_append, List.mapM_cons, failed]
      rfl
  | cons x front ih =>
      obtain ⟨y, first⟩ := passed x List.mem_cons_self
      have later := ih fun x hx => passed x (List.mem_cons_of_mem _ hx)
      rw [List.cons_append, List.mapM_cons, first, later]
      rfl

/-- A check of the members of a list in turn passes if all of them have the property. -/
theorem forM_check {p : α → Prop} [DecidablePred p] {e : ε} (l : List α) :
    (l.forM fun a => if p a then Except.ok () else .error e) =
      if ∀ a ∈ l, p a then .ok () else .error e := by
  induction l with
  | nil => rfl
  | cons a l ih =>
      have both := List.forall_mem_cons (p := p) (a := a) (l := l)
      rw [List.forM, ih]
      by_cases first : p a
      · rw [if_pos first]
        simp only [both, first, true_and]
        rfl
      · rw [if_neg first, if_neg fun all => first (both.mp all).1]
        rfl

end Except
