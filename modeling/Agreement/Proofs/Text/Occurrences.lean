/- # Agreement.Proofs.Text.Occurrences: what occurs, and what occurs first

A pattern occurs in a text exactly if the text has it as a piece. A text is cut once at the first
occurrence of a character, or at each of them. The first occurrences of a list
are its members, each once, in the order in which they come up, so filtering goes through and what
has been seen adds nothing.
-/
import Agreement.Template.Placeholder
import Mathlib.Data.List.Infix
import Mathlib.Data.List.TakeWhile

namespace Agreement

/-! ## Patterns -/

namespace Text

theorem isSome_startingAt?_iff {pattern text : List Char} :
    (startingAt? pattern text).isSome = true ↔ pattern <:+: text := by
  induction text with
  | nil =>
      rw [startingAt?, List.infix_nil]
      cases pattern <;> simp
  | cons c rest ih =>
      rw [startingAt?, List.infix_cons_iff]
      by_cases start : pattern <+: c :: rest
      · simp [List.isPrefixOf_iff_prefix.mpr start, start]
      · rw [if_neg (by rwa [List.isPrefixOf_iff_prefix]), ih]
        simp [start]

/-- A pattern occurs in a text exactly if it is a piece of it. -/
theorem occursIn_iff {pattern text : List Char} :
    occursIn pattern text = true ↔ pattern <:+: text :=
  isSome_startingAt?_iff

/-- A cut is made at the first occurrence. -/
theorem splitOnce_eq_some_iff {c : Char} {text before after : List Char} :
    splitOnce c text = some (before, after) ↔ text = before ++ c :: after ∧ c ∉ before := by
  unfold splitOnce
  constructor
  · intro h
    split at h
    · cases h
    · next d rest dropped =>
        cases h
        obtain rfl : d = c := by
          have first := List.head?_dropWhile_not (· != c) text
          simpa [dropped] using first
        refine ⟨?_, fun inside => by simpa using List.mem_takeWhile_imp inside⟩
        rw [← dropped, List.takeWhile_append_dropWhile]
  · rintro ⟨rfl, absent⟩
    have others : ∀ d ∈ before, (d != c) = true := by
      intro d hd
      exact bne_iff_ne.mpr fun same => absent (same ▸ hd)
    rw [List.dropWhile_append_of_pos others, List.takeWhile_append_of_pos others]
    simp

/-- A text is cut into one piece more than it has cuts. -/
theorem length_splitOn (c : Char) (text : List Char) :
    (text.splitOn c).length = text.count c + 1 := by
  rw [List.splitOn]
  induction text with
  | nil => rfl
  | cons d text ih =>
      rw [List.splitOnP_cons_eq_if_modifyHead, List.count_cons]
      split <;> simp [ih]

end Text

/-! ## First occurrences -/

section FirstOccurrences

variable {α : Type} [DecidableEq α] {l : List α} {x : α}

theorem firstOccurrences_append_singleton (l : List α) (x : α) :
    firstOccurrences (l ++ [x]) =
      if x ∈ firstOccurrences l then firstOccurrences l else firstOccurrences l ++ [x] := by
  rw [firstOccurrences, List.foldl_append]
  simp [firstOccurrences]

/-- The first occurrences are the members. -/
@[simp] theorem mem_firstOccurrences : x ∈ firstOccurrences l ↔ x ∈ l := by
  induction l using List.reverseRecOn with
  | nil => rfl
  | append_singleton l y ih =>
      rw [firstOccurrences_append_singleton]
      split
      · next seen =>
          rw [ih, List.mem_append, List.mem_singleton]
          constructor
          · exact .inl
          · rintro (before | rfl)
            · exact before
            · exact ih.mp seen
      · rw [List.mem_append, List.mem_append, ih]

/-- Each member comes once. -/
theorem nodup_firstOccurrences (l : List α) : (firstOccurrences l).Nodup := by
  induction l using List.reverseRecOn with
  | nil => exact List.nodup_nil
  | append_singleton l y ih =>
      rw [firstOccurrences_append_singleton]
      split
      · exact ih
      · next unseen =>
          rw [List.nodup_append]
          refine ⟨ih, by simp, ?_⟩
          rintro a ha b hb rfl
          exact unseen (List.mem_singleton.mp hb ▸ ha)

/-- A filter may come before or after. -/
theorem filter_firstOccurrences (p : α → Bool) (l : List α) :
    (firstOccurrences l).filter p = firstOccurrences (l.filter p) := by
  induction l using List.reverseRecOn with
  | nil => rfl
  | append_singleton l y ih =>
      rw [firstOccurrences_append_singleton, List.filter_append]
      cases kept : p y with
      | false =>
          rw [List.filter_singleton, kept, Bool.cond_false, List.append_nil, ← ih]
          split <;> simp [List.filter_append, kept]
      | true =>
          rw [List.filter_singleton, kept, Bool.cond_true, firstOccurrences_append_singleton, ← ih]
          simp only [List.mem_filter, kept, and_true]
          split <;> simp [List.filter_append, kept]

/-- What has been seen before adds nothing. -/
theorem firstOccurrences_append_of_subset {seen : List α} (h : ∀ x ∈ seen, x ∈ l) :
    firstOccurrences (l ++ seen) = firstOccurrences l := by
  induction seen using List.reverseRecOn with
  | nil => rw [List.append_nil]
  | append_singleton seen y ih =>
      have before : firstOccurrences (l ++ seen) = firstOccurrences l :=
        ih fun x hx => h x (List.mem_append_left _ hx)
      rw [← List.append_assoc, firstOccurrences_append_singleton, before]
      exact if_pos (mem_firstOccurrences.mpr (h y (by simp)))

/-- A list without repetitions stays. -/
theorem firstOccurrences_of_nodup (h : l.Nodup) : firstOccurrences l = l := by
  induction l using List.reverseRecOn with
  | nil => rfl
  | append_singleton l y ih =>
      obtain ⟨nodup, -, apart⟩ := List.nodup_append.mp h
      rw [firstOccurrences_append_singleton, ih nodup]
      exact if_neg fun member => apart y member y (List.mem_singleton_self y) rfl

end FirstOccurrences

end Agreement
