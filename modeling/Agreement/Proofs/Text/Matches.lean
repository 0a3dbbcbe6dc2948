/- # Agreement.Proofs.Text.Matches: what a scan for a pattern finds

A scan tries its pattern at each place of a text, from left to right, and goes on behind a match. So
what it finds stands in the text. It misses a match only where one that starts before reaches into
it: where none does, the scan goes on as if nothing had been before.
-/
import Agreement.Text
import Mathlib.Data.List.Infix

namespace Agreement.Text

variable {pattern : List Char → Option Nat} {filler text before rest m : List Char} {skip : Nat}

/-! ## What is found -/

/-- What a scan finds is what the pattern takes at some place. -/
theorem exists_of_mem_matchesFrom (h : m ∈ matchesFrom pattern skip text) :
    ∃ rest n, rest <:+ text ∧ pattern rest = some n ∧ m = rest.take n := by
  induction text generalizing skip with
  | nil => cases skip <;> cases h
  | cons c rest ih =>
      have later {k : Nat} (h : m ∈ matchesFrom pattern k rest) :
          ∃ s n, s <:+ c :: rest ∧ pattern s = some n ∧ m = s.take n := by
        obtain ⟨s, n, behind, found, eq⟩ := ih h
        exact ⟨s, n, behind.trans (List.suffix_cons c rest), found, eq⟩
      cases skip with
      | succ skip => exact later h
      | zero =>
          rw [matchesFrom] at h
          split at h
          · next n found =>
              rcases List.mem_cons.mp h with rfl | h
              · exact ⟨c :: rest, n, List.suffix_rfl, found, rfl⟩
              · exact later h
          · exact later h

/-- What a scan finds stands in the text. -/
theorem infix_of_mem_matchesFrom (h : m ∈ matchesFrom pattern skip text) : m <:+: text := by
  obtain ⟨rest, n, behind, -, rfl⟩ := exists_of_mem_matchesFrom h
  exact (List.take_prefix n rest).isInfix.trans behind.isInfix

/-- A scan that finds nothing replaces nothing. -/
theorem replaceFrom_eq_self (h : matchesFrom pattern 0 text = []) (filler : List Char) :
    replaceFrom pattern filler 0 text = text := by
  induction text with
  | nil => rfl
  | cons c rest ih =>
      rw [matchesFrom] at h
      rw [replaceFrom]
      split at h
      · cases h
      · rw [ih h]

/-! ## Where a scan goes on -/

theorem replaceFrom_skip (pattern : List Char → Option Nat) (filler : List Char) (skip : Nat)
    (text : List Char) :
    replaceFrom pattern filler skip text = replaceFrom pattern filler 0 (text.drop skip) := by
  induction text generalizing skip with
  | nil => cases skip <;> rfl
  | cons c rest ih =>
      cases skip with
      | zero => rfl
      | succ skip => rw [replaceFrom, ih, List.drop_succ_cons]

/-- No match that starts in a text reaches into what follows it. -/
def StopsBefore (pattern : List Char → Option Nat) (before rest : List Char) : Prop :=
  ∀ u, u <:+ before → u ≠ [] → ∀ n, pattern (u ++ rest) = some n → n ≤ u.length

/-- There a scan goes on as if nothing had been before. -/
theorem StopsBefore.exists_append (stops : StopsBefore pattern before rest)
    (filler : List Char) (within : skip ≤ before.length) :
    (∃ found, matchesFrom pattern skip (before ++ rest) = found ++ matchesFrom pattern 0 rest) ∧
      ∃ front, replaceFrom pattern filler skip (before ++ rest) =
        front ++ replaceFrom pattern filler 0 rest := by
  induction before generalizing skip with
  | nil =>
      obtain rfl := Nat.le_zero.mp within
      exact ⟨⟨[], rfl⟩, ⟨[], rfl⟩⟩
  | cons c before ih =>
      have later : StopsBefore pattern before rest :=
        fun u hu => stops u (hu.trans (List.suffix_cons c before))
      cases skip with
      | succ skip => exact ih later (Nat.le_of_succ_le_succ within)
      | zero =>
          rw [List.cons_append, matchesFrom, replaceFrom]
          split
          · next n found =>
              have short := stops (c :: before) List.suffix_rfl (List.cons_ne_nil c before) n found
              rw [List.length_cons] at short
              obtain ⟨⟨matched, eq⟩, front, eq'⟩ := ih later (by omega : n - 1 ≤ before.length)
              rw [eq, eq']
              exact ⟨⟨_ :: matched, rfl⟩, filler ++ front, (List.append_assoc _ _ _).symm⟩
          · obtain ⟨⟨matched, eq⟩, front, eq'⟩ := ih later (Nat.zero_le _)
            rw [eq, eq']
            exact ⟨⟨matched, rfl⟩, c :: front, rfl⟩

/-- A match that none before it reaches into is found. -/
theorem StopsBefore.mem_matchesFrom (stops : StopsBefore pattern before rest) {n : Nat}
    (found : pattern rest = some n) (nonempty : rest ≠ []) :
    rest.take n ∈ matchesFrom pattern 0 (before ++ rest) := by
  obtain ⟨⟨matched, eq⟩, -⟩ := stops.exists_append [] (Nat.zero_le _)
  obtain ⟨c, tail, rfl⟩ := List.exists_cons_of_ne_nil nonempty
  rw [eq, matchesFrom, found]
  exact List.mem_append_right _ List.mem_cons_self

end Agreement.Text
