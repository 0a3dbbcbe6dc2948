/- # Agreement.Proofs.Number.Text: the characters of written numbers

Numbers are written with digits, a point, a sign and the letter of an exponent. So they hold no
blank space, and nothing that means something to the texts that they stand in.
-/
import Agreement.Number.Text
import Mathlib.Data.List.Basic

namespace Agreement

namespace Number

/-! ## Digits -/

theorem isDigit_of_mem_digitsOf {n : Nat} {c : Char} (h : c ∈ digitsOf n) : c.isDigit = true :=
  Nat.isDigit_of_mem_toDigits (by decide) (by decide) h

theorem digitsOf_ne_nil (n : Nat) : digitsOf n ≠ [] := Nat.toDigits_ne_nil

theorem digitsOf_of_lt {n : Nat} (h : n < 10) : digitsOf n = [n.digitChar] :=
  Nat.toDigits_of_lt_base h

theorem digitsOf_of_le {n : Nat} (h : 10 ≤ n) :
    digitsOf n = digitsOf (n / 10) ++ [(n % 10).digitChar] :=
  Nat.toDigits_of_base_le (by decide) h

/-- Only zero is written with a zero in front. -/
theorem head?_digitsOf_ne_zero {n : Nat} (positive : 0 < n) : (digitsOf n).head? ≠ some '0' := by
  induction n using Nat.strongRecOn with
  | _ n ih =>
      rcases Nat.lt_or_ge n 10 with small | large
      · rw [digitsOf_of_lt small, List.head?_cons]
        have apart : ∀ m < 10, 0 < m → some m.digitChar ≠ some '0' := by decide
        exact apart n small positive
      · rw [digitsOf_of_le large, List.head?_append_of_ne_nil _ (digitsOf_ne_nil _)]
        exact ih (n / 10) (by omega) (by omega)

/-! ## Decimals -/

/-- Positional notation has digits, and a point at most. -/
theorem isDigit_or_eq_point_of_mem_positional {x : Decimal} {c : Char} (h : c ∈ x.positional) :
    c.isDigit = true ∨ c = '.' := by
  have zero {n : Nat} (zeros : c ∈ List.replicate n '0') : c.isDigit = true := by
    rw [List.eq_of_mem_replicate zeros]
    decide
  unfold Decimal.positional at h
  dsimp only at h
  split at h
  · rcases List.mem_append.mp h with front | zeros
    · exact .inl (isDigit_of_mem_digitsOf front)
    · exact .inl (zero zeros)
  · split at h
    · rcases List.mem_append.mp h with front | rest
      · exact .inl (isDigit_of_mem_digitsOf (List.mem_of_mem_take front))
      · rcases List.mem_cons.mp rest with point | back
        · exact .inr point
        · exact .inl (isDigit_of_mem_digitsOf (List.mem_of_mem_drop back))
    · simp only [List.cons_append, List.mem_cons, List.mem_append] at h
      rcases h with rfl | point | zeros | back
      · exact .inl (by decide)
      · exact .inr point
      · exact .inl (zero zeros)
      · exact .inl (isDigit_of_mem_digitsOf back)

/-- The characters of saved measures. -/
def isNumberChar (c : Char) : Bool := c.isDigit || ['-', '+', '.', 'e'].contains c

theorem isNumberChar_of_mem_digitsOf {n : Nat} {c : Char} (h : c ∈ digitsOf n) :
    isNumberChar c = true := by
  rw [isNumberChar, isDigit_of_mem_digitsOf h, Bool.true_or]

theorem isNumberChar_of_mem_positional {x : Decimal} {c : Char} (h : c ∈ x.positional) :
    isNumberChar c = true := by
  rcases isDigit_or_eq_point_of_mem_positional h with digit | rfl
  · rw [isNumberChar, digit, Bool.true_or]
  · decide

theorem isNumberChar_of_mem_scientific {x : Decimal} {c : Char} (h : c ∈ x.scientific) :
    isNumberChar c = true := by
  unfold Decimal.scientific at h
  dsimp only at h
  rcases List.mem_append.mp h with front | exponent
  · rcases List.mem_append.mp front with first | fraction
    · exact isNumberChar_of_mem_digitsOf (List.mem_of_mem_take first)
    · split at fraction
      · cases fraction
      · rcases List.mem_cons.mp fraction with rfl | digits
        · decide
        · exact isNumberChar_of_mem_digitsOf (List.mem_of_mem_drop digits)
  · simp only [List.mem_cons] at exponent
    rcases exponent with rfl | rfl | digits
    · decide
    · split <;> decide
    · exact isNumberChar_of_mem_digitsOf digits

end Number

namespace Binary32

open Number

theorem isNumberChar_of_mem_savedText {x : Binary32} {c : Char} (h : c ∈ x.savedText) :
    isNumberChar c = true := by
  have word {s : List Char} (known : s.all isNumberChar = true) (member : c ∈ s) :
      isNumberChar c = true := List.all_eq_true.mp known c member
  rw [savedText] at h
  rcases List.mem_append.mp h with sign | h
  · unfold Binary32.sign at sign
    split at sign
    · exact word (by decide) sign
    · cases sign
  · dsimp only at h
    split at h
    · exact word (by decide) h
    · split at h
      · exact isNumberChar_of_mem_scientific h
      · split at h
        · rcases List.mem_append.mp h with digits | zero
          · exact isNumberChar_of_mem_positional digits
          · exact word (by decide) zero
        · exact isNumberChar_of_mem_positional h

end Binary32

end Agreement
