/- # Agreement.Proofs.Text.Rephrasing: texts that differ in Hebrew words

Where one text has Hebrew letters the other may have other ones, and where one has blank space the
other may have another length or kind of it. Everything else is the same and in the same order. So
two such texts agree in every property that does not tell one letter from another, they are cut
alike at any other character, and trimmed alike.
-/
import Agreement.Proofs.Unicode.Hebrew

namespace Agreement.Text

open Unicode

/-- A text with Hebrew words put in the place of Hebrew words and blank space in the place of blank
space. -/
inductive Rephrases : List Char → List Char → Prop
  | nil : Rephrases [] []
  | same (c : Char) {u v : List Char} : Rephrases u v → Rephrases (c :: u) (c :: v)
  | run {p : Char → Bool} {w w' u v : List Char} (sort : p = isHebrew ∨ p = isSpace) :
      IsRunOf p w → IsRunOf p w' → Rephrases u v → Rephrases (w ++ u) (w' ++ v)

namespace Rephrases

variable {u v : List Char}

theorem refl (u : List Char) : Rephrases u u := by
  induction u with
  | nil => exact .nil
  | cons c u ih => exact .same c ih

theorem symm (h : Rephrases u v) : Rephrases v u := by
  induction h with
  | nil => exact .nil
  | same c _ ih => exact .same c ih
  | run sort old new _ ih => exact .run sort new old ih

theorem of_run {p : Char → Bool} {w w' : List Char} (sort : p = isHebrew ∨ p = isSpace)
    (old : IsRunOf p w) (new : IsRunOf p w') : Rephrases w w' := by
  simpa using Rephrases.run sort old new .nil

theorem append {u' v' : List Char} (h : Rephrases u v) (h' : Rephrases u' v') :
    Rephrases (u ++ u') (v ++ v') := by
  induction h with
  | nil => exact h'
  | same c _ ih => exact .same c ih
  | run sort old new _ ih =>
      rw [List.append_assoc, List.append_assoc]
      exact .run sort old new ih

theorem reverse (h : Rephrases u v) : Rephrases u.reverse v.reverse := by
  induction h with
  | nil => exact .nil
  | same c _ ih =>
      rw [List.reverse_cons, List.reverse_cons]
      exact ih.append (refl [c])
  | run sort old new _ ih =>
      rw [List.reverse_append, List.reverse_append]
      exact ih.append (of_run sort old.reverse new.reverse)

/-! ## What both texts have in common -/

section Common

variable {q : Char → Bool} (hebrew : ∀ c, isHebrew c = true → q c = true)
  (blank : ∀ c, isSpace c = true → q c = false)
include hebrew blank

/-- What Hebrew letters have and blank space lacks, holds of the whole of a run or of nothing in
it. -/
theorem exists_forall_of_sort {p : Char → Bool} (sort : p = isHebrew ∨ p = isSpace) :
    ∃ k, ∀ c, p c = true → q c = k := by
  rcases sort with rfl | rfl
  · exact ⟨true, hebrew⟩
  · exact ⟨false, blank⟩

theorem all_eq (h : Rephrases u v) : v.all q = u.all q := by
  induction h with
  | nil => rfl
  | same c _ ih => rw [List.all_cons, List.all_cons, ih]
  | @run p w w' u v sort old new _ ih =>
      obtain ⟨k, const⟩ := exists_forall_of_sort hebrew blank sort
      have run {w : List Char} (h : IsRunOf p w) : w.all q = k := by
        obtain ⟨c, w, rfl⟩ := List.exists_cons_of_ne_nil h.1
        rw [Bool.eq_iff_iff, List.all_eq_true]
        constructor
        · intro every
          rw [← const c (h.2 c List.mem_cons_self)]
          exact every c List.mem_cons_self
        · intro true_k d hd
          rw [const d (h.2 d hd), true_k]
      rw [List.all_append, List.all_append, run old, run new, ih]

theorem any_head?_eq (h : Rephrases u v) : v.head?.any q = u.head?.any q := by
  cases h with
  | nil => rfl
  | same c _ => rfl
  | run sort old new _ =>
      obtain ⟨k, const⟩ := exists_forall_of_sort hebrew blank sort
      obtain ⟨c, w, rfl⟩ := List.exists_cons_of_ne_nil old.1
      obtain ⟨d, w', rfl⟩ := List.exists_cons_of_ne_nil new.1
      have first := const c (old.2 c List.mem_cons_self)
      have second := const d (new.2 d List.mem_cons_self)
      simp [first, second]

end Common

theorem eq_nil_iff (h : Rephrases u v) : v = [] ↔ u = [] := by
  cases h with
  | nil => rfl
  | same c _ => simp
  | run _ old new _ => simp [old.1, new.1]

theorem dropWhile_isSpace (h : Rephrases u v) :
    Rephrases (u.dropWhile isSpace) (v.dropWhile isSpace) := by
  induction h with
  | nil => exact .nil
  | same c later ih =>
      rw [List.dropWhile_cons, List.dropWhile_cons]
      split
      · exact ih
      · exact .same c later
  | run sort old new later ih =>
      rcases sort with rfl | rfl
      · have stays {w : List Char} (run : IsRunOf isHebrew w) (u : List Char) :
            (w ++ u).dropWhile isSpace = w ++ u := by
          obtain ⟨c, w, rfl⟩ := List.exists_cons_of_ne_nil run.1
          have visible := isSpace_of_isHebrew (run.2 c List.mem_cons_self)
          rw [List.cons_append, List.dropWhile_cons_of_neg (by simp [visible])]
        rw [stays old, stays new]
        exact .run (.inl rfl) old new later
      · rw [List.dropWhile_append_of_pos old.2, List.dropWhile_append_of_pos new.2]
        exact ih

theorem trim (h : Rephrases u v) : Rephrases (Text.trim u) (Text.trim v) :=
  h.dropWhile_isSpace.reverse.dropWhile_isSpace.reverse

/-! ## Cuts at other characters -/

section Cuts

variable {c : Char} (other : isBare c = false)
include other

theorem not_mem_run {p : Char → Bool} (sort : p = isHebrew ∨ p = isSpace) {w : List Char}
    (run : IsRunOf p w) : c ∉ w := by
  intro inside
  obtain ⟨letter, visible⟩ := Bool.or_eq_false_iff.mp other
  have member := run.2 c inside
  rcases sort with rfl | rfl
  · rw [letter] at member
    cases member
  · rw [visible] at member
    cases member

/-- The two texts are cut alike. -/
theorem exists_cut {x y : List Char} (h : Rephrases (x ++ c :: y) v) :
    ∃ x' y', v = x' ++ c :: y' ∧ Rephrases x x' ∧ Rephrases y y' := by
  generalize eq : x ++ c :: y = u at h
  induction h generalizing x with
  | nil => simp at eq
  | same d later ih =>
      cases x with
      | nil =>
          obtain ⟨rfl, rfl⟩ := List.cons.inj eq
          exact ⟨[], _, rfl, .nil, later⟩
      | cons e x =>
          obtain ⟨rfl, rest⟩ := List.cons.inj eq
          obtain ⟨x', y', rfl, before, after⟩ := ih rest
          exact ⟨e :: x', y', rfl, .same e before, after⟩
  | @run p w w' u v sort old new later ih =>
      have outside : c ∉ w := not_mem_run other sort old
      rcases List.append_eq_append_iff.mp eq with ⟨front, rfl, rest⟩ | ⟨x, rfl, rest⟩
      · cases front with
        | nil =>
            obtain ⟨x', y', rfl, before, after⟩ := ih (x := []) rest
            obtain rfl := before.eq_nil_iff.mpr rfl
            rw [List.append_nil] at old
            exact ⟨w', y', rfl, of_run sort old new, after⟩
        | cons d front =>
            obtain ⟨rfl, -⟩ := List.cons.inj rest
            exact absurd (List.mem_append_right _ List.mem_cons_self) outside
      · obtain ⟨x', y', rfl, before, after⟩ := ih rest.symm
        exact ⟨w' ++ x', y', (List.append_assoc _ _ _).symm, .run sort old new before, after⟩

theorem exists_tail {y : List Char} (h : Rephrases (c :: y) v) :
    ∃ y', v = c :: y' ∧ Rephrases y y' := by
  obtain ⟨x', y', rfl, before, after⟩ := exists_cut other (x := []) h
  obtain rfl := before.eq_nil_iff.mpr rfl
  exact ⟨y', rfl, after⟩

theorem mem (h : Rephrases u v) (hc : c ∈ u) : c ∈ v := by
  obtain ⟨x, y, rfl⟩ := List.append_of_mem hc
  obtain ⟨x', y', rfl, -, -⟩ := exists_cut other h
  simp

theorem count_eq (h : Rephrases u v) : v.count c = u.count c := by
  induction h with
  | nil => rfl
  | same d _ ih => rw [List.count_cons, List.count_cons, ih]
  | run sort old new _ ih =>
      rw [List.count_append, List.count_append, List.count_eq_zero.mpr (not_mem_run other sort old),
        List.count_eq_zero.mpr (not_mem_run other sort new), ih]

end Cuts

end Rephrases

end Agreement.Text
