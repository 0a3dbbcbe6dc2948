/- # Agreement.Proofs.Json.Measures: every measure is written as one number

What is written for a measure is a number as JSON has them: integer digits with no zero in front,
and a point with digits or an exponent after them. So the text of a measure always reads as one
number, with nothing left over. Whether that number is the measure again is another question, and
is not asked here.
-/
import Agreement.Proofs.Json.Tokens

namespace Agreement

open Json Number

/-! ## Shortest decimals -/

namespace Number

/-- An interval above zero holds no zero. -/
theorem Interval.digits_ne_zero_of_holds {i : Interval} {x : Decimal} (low : i.low ≠ 0)
    (holds : i.holds x = true) : x.digits ≠ 0 := by
  intro zero
  have scale : tenTo (-x.exponent).toNat ≠ 0 := (Nat.pow_pos (by decide)).ne'
  have above : 0 < i.low * tenTo (-x.exponent).toNat :=
    Nat.pos_of_ne_zero (Nat.mul_ne_zero low scale)
  simp only [Interval.holds, zero, Nat.zero_mul] at holds
  split at holds <;> simp only [Bool.and_eq_true, decide_eq_true_eq] at holds <;> omega

theorem Interval.holds_of_onGrid {i : Interval} {tie : Tie} {e : Int} {x : Decimal}
    (found : i.onGrid tie e = some x) : i.holds x = true := by
  unfold onGrid at found
  dsimp only at found
  split at found
  · cases found
  · next below _ =>
      rw [← Option.some.inj found]
      exact below
  · next above =>
      rw [← Option.some.inj found]
      exact above
  · next below above =>
      have either : ∀ y, x = y → i.holds y = true → i.holds x = true := fun y same h => same ▸ h
      split at found
      · exact either _ (Option.some.inj found).symm below
      · split at found
        · exact either _ (Option.some.inj found).symm above
        · cases tie with
          | up => exact either _ (Option.some.inj found).symm above
          | toEven =>
              dsimp only at found
              split at found
              · exact either _ (Option.some.inj found).symm below
              · exact either _ (Option.some.inj found).symm above

theorem Decimal.digits_reduced_ne_zero {x : Decimal} (h : x.digits ≠ 0) :
    x.reduced.digits ≠ 0 := by
  induction x using Decimal.reduced.induct with
  | case1 x more ih =>
      rw [reduced, if_pos more]
      exact ih (by simp only; omega)
  | case2 x done =>
      rw [reduced, if_neg done]
      exact h

/-- The shortest decimal of a positive magnitude has digits. If no grid had one, it would be zero
without an exponent. -/
theorem shortest_digits (tie : Tie) {s : Scaled} (positive : s.significand ≠ 0) :
    (shortest tie s).digits ≠ 0 ∨ shortest tie s = ⟨0, 0⟩ := by
  have low : (intervalOf s).low ≠ 0 := by
    rw [intervalOf, ne_eq, Nat.shiftLeft_eq_zero_iff]
    split <;> omega
  unfold shortest
  dsimp only
  generalize searched : List.findSome? _ _ = found
  rcases found with - | x
  · exact .inr (by rw [Option.getD_none, Decimal.reduced]; rfl)
  · obtain ⟨n, -, grid⟩ := List.exists_of_findSome?_eq_some searched
    refine .inl (Decimal.digits_reduced_ne_zero ?_)
    exact Interval.digits_ne_zero_of_holds low (Interval.holds_of_onGrid grid)

end Number

theorem Binary32.significand_scaled_ne_zero {x : Binary32} (h : x.magnitude ≠ 0) :
    x.scaled.significand ≠ 0 := by
  unfold scaled
  dsimp only
  split <;> simp only <;> omega

/-! ## The parts of a number -/

namespace Json

section Parts

variable {digits fraction after : List Char}

/-- Digits as they stand in front of a point: no zero comes first, unless it stands alone. -/
structure IsInteger (digits : List Char) : Prop where
  all : ∀ c ∈ digits, c.isDigit = true
  filled : digits ≠ []
  start : digits.head? = some '0' → digits = ['0']

/-- Nothing, or an exponent with its sign. -/
def IsExponent (after : List Char) : Prop :=
  after = [] ∨ ∃ sign n, after = 'e' :: sign :: digitsOf n ∧ (sign = '-' ∨ sign = '+')

theorem span_digits (all : ∀ c ∈ digits, c.isDigit = true)
    (ends : ∀ c ∈ after.head?, c.isDigit = false) :
    (digits ++ after).takeWhile Char.isDigit = digits ∧
      (digits ++ after).dropWhile Char.isDigit = after := by
  have stops : after.takeWhile Char.isDigit = [] ∧ after.dropWhile Char.isDigit = after := by
    rcases after with - | ⟨c, after⟩
    · exact ⟨rfl, rfl⟩
    · have other : ¬ c.isDigit = true := by simp [ends c rfl]
      exact ⟨List.takeWhile_cons_of_neg other, List.dropWhile_cons_of_neg other⟩
  rw [List.takeWhile_append_of_pos all, List.dropWhile_append_of_pos all, stops.1, stops.2,
    List.append_nil]
  exact ⟨rfl, rfl⟩

theorem readInteger_append_of_isInteger (integer : IsInteger digits)
    (ends : ∀ c ∈ after.head?, c.isDigit = false) :
    readInteger (digits ++ after) = .ok (digits, after) := by
  obtain ⟨taken, left⟩ := span_digits integer.all ends
  rw [readInteger, taken, left]
  split
  · exact absurd rfl integer.filled
  · rfl
  · next zero => exact absurd (integer.start rfl) (by simpa using zero)
  · rfl

theorem isDigit_head?_of_isExponent (h : IsExponent after) :
    ∀ c ∈ after.head?, c.isDigit = false ∧ c ≠ '.' := by
  rcases h with rfl | ⟨sign, n, rfl, -⟩
  · nofun
  · rintro _ ⟨⟩
    decide

theorem readExponent_of_isExponent (h : IsExponent after) :
    ∃ exponent, readExponent after = .ok (exponent, []) := by
  rcases h with rfl | ⟨sign, n, rfl, signed⟩
  · exact ⟨none, rfl⟩
  · have body : (exponentSign (sign :: digitsOf n)).2 = digitsOf n := by
      rcases signed with rfl | rfl <;> rfl
    obtain ⟨taken, left⟩ := @span_digits (digitsOf n) [] (fun _ => isDigit_of_mem_digitsOf) nofun
    rw [List.append_nil] at taken left
    rw [readExponent_of_mark (.inl rfl)]
    simp only [body, taken, left, List.isEmpty_iff, digitsOf_ne_nil n, if_false]
    exact ⟨_, rfl⟩

/-- Integer digits with a fraction or an exponent are read to their end. -/
theorem exists_readMagnitude (negative : Bool) (integer : IsInteger digits)
    (all : ∀ c ∈ fraction, c.isDigit = true) (exponent : IsExponent after) :
    ∃ n, readMagnitude negative
      (digits ++ ((if fraction.isEmpty then [] else '.' :: fraction) ++ after)) = .ok (n, []) := by
  have follows := isDigit_head?_of_isExponent exponent
  obtain ⟨power, mark⟩ := readExponent_of_isExponent exponent
  rcases fraction with - | ⟨c, fraction⟩
  · have no_point : readFraction after = .ok (none, after) := by
      rw [readFraction]
      rintro body rfl
      exact (follows '.' rfl).2 rfl
    exact ⟨_, readMagnitude_eq_ok.mpr ⟨digits, after, none, after, power,
      readInteger_append_of_isInteger integer fun c hc => (follows c hc).1, no_point, mark, rfl⟩⟩
  · obtain ⟨taken, left⟩ := span_digits all fun c hc => (follows c hc).1
    have point : readFraction ('.' :: (c :: fraction) ++ after) =
        .ok (some (c :: fraction), after) := by
      rw [List.cons_append, readFraction, taken, left]
      rfl
    refine ⟨_, readMagnitude_eq_ok.mpr ⟨digits, _, some (c :: fraction), after, power,
      readInteger_append_of_isInteger integer ?_, point, mark, rfl⟩⟩
    rintro _ ⟨⟩
    decide

/-- A number without its sign starts with a digit. -/
theorem isDigit_of_readMagnitude {negative : Bool} {c : Char} {n : Option Numeral}
    (read : readMagnitude negative (c :: digits) = .ok (n, after)) : c.isDigit = true := by
  obtain ⟨_, _, _, _, _, integer, -⟩ := readMagnitude_eq_ok.mp read
  by_contra other
  rw [readInteger, List.takeWhile_cons_of_neg other] at integer
  cases integer

end Parts

/-! ## Decimals as numbers -/

theorem isInteger_append_digitsOf {n : Nat} (positive : 0 < n) {zeros : List Char}
    (all : ∀ c ∈ zeros, c.isDigit = true) : IsInteger (digitsOf n ++ zeros) where
  all c hc := (List.mem_append.mp hc).elim isDigit_of_mem_digitsOf (all c)
  filled := by simp [digitsOf_ne_nil]
  start zero := by
    rw [List.head?_append_of_ne_nil _ (digitsOf_ne_nil n)] at zero
    exact absurd zero (head?_digitsOf_ne_zero positive)

theorem isInteger_take_digitsOf {n k : Nat} (positive : 0 < n) (some : 0 < k) :
    IsInteger ((digitsOf n).take k) where
  all c hc := isDigit_of_mem_digitsOf (List.mem_of_mem_take hc)
  filled := by simp [digitsOf_ne_nil, some.ne']
  start zero := by
    rw [List.head?_take, if_neg some.ne'] at zero
    exact absurd zero (head?_digitsOf_ne_zero positive)

theorem isDigit_zero : ∀ c ∈ ['0'], c.isDigit = true := List.forall_mem_singleton.mpr (by decide)

theorem isInteger_zero : IsInteger ['0'] := ⟨isDigit_zero, by decide, fun _ => rfl⟩

variable (negative : Bool) {x : Decimal}

theorem exists_readMagnitude_scientific :
    ∃ n, readMagnitude negative x.scientific = .ok (n, []) := by
  have first : IsInteger ((digitsOf x.digits).take 1) := by
    rcases Nat.eq_zero_or_pos x.digits with zero | positive
    · rw [zero]
      exact isInteger_zero
    · exact isInteger_take_digitsOf positive Nat.one_pos
  rw [Decimal.scientific, List.append_assoc]
  refine exists_readMagnitude negative first
    (fun c hc => isDigit_of_mem_digitsOf (List.mem_of_mem_drop hc)) (.inr ⟨_, _, rfl, ?_⟩)
  split
  · exact .inl rfl
  · exact .inr rfl

theorem isDigit_of_mem_zeros {n : Nat} : ∀ c ∈ List.replicate n '0', c.isDigit = true := by
  intro c hc
  rw [List.eq_of_mem_replicate hc]
  decide

/-- Without a fraction a decimal is written with one fraction digit behind it. -/
theorem exists_readMagnitude_positional_point (whole : 0 ≤ x.exponent)
    (h : x.digits ≠ 0 ∨ x = ⟨0, 0⟩) :
    ∃ n, readMagnitude negative (x.positional ++ ['.', '0']) = .ok (n, []) := by
  have integer : IsInteger x.positional := by
    rcases h with digits | rfl
    · rw [Decimal.positional, if_pos whole]
      exact isInteger_append_digitsOf (Nat.pos_of_ne_zero digits) isDigit_of_mem_zeros
    · exact isInteger_zero
  exact exists_readMagnitude negative integer isDigit_zero (.inl rfl)

theorem exists_readMagnitude_positional (fractional : ¬ 0 ≤ x.exponent)
    (h : x.digits ≠ 0 ∨ x = ⟨0, 0⟩) :
    ∃ n, readMagnitude negative x.positional = .ok (n, []) := by
  have digits : x.digits ≠ 0 := h.resolve_right (by rintro rfl; exact fractional (Int.le_refl 0))
  have positive := Nat.pos_of_ne_zero digits
  have filled := List.length_pos_iff.mpr (digitsOf_ne_nil x.digits)
  have without {integer fraction : List Char} (first : IsInteger integer)
      (more : fraction ≠ []) (all : ∀ c ∈ fraction, c.isDigit = true) :
      ∃ n, readMagnitude negative (integer ++ '.' :: fraction) = .ok (n, []) := by
    have read := exists_readMagnitude negative first all (.inl rfl)
    rwa [List.append_nil, if_neg (by simpa using more)] at read
  rw [Decimal.positional, if_neg fractional]
  split
  · -- the point stands between two digits
    next inside =>
      refine without (isInteger_take_digitsOf positive (by omega)) ?_
        fun c hc => isDigit_of_mem_digitsOf (List.mem_of_mem_drop hc)
      rw [ne_eq, List.drop_eq_nil_iff]
      omega
  · refine @without ['0'] (_ ++ _) isInteger_zero (by simp [digitsOf_ne_nil]) fun c hc => ?_
    exact (List.mem_append.mp hc).elim (isDigit_of_mem_zeros c) isDigit_of_mem_digitsOf

end Json

/-! ## Measures as numbers -/

/-- **The text of a measure is one number**, with nothing left over. -/
theorem Binary32.exists_readScalar (x : Binary32) : ∃ c text n,
    x.savedText = c :: text ∧ readScalar c text = (.number n, some []) := by
  -- after its sign the text is a number, whichever of the notations it is written in
  have unsigned (negative : Bool) : ∃ text n,
      x.savedText = x.sign ++ text ∧ readMagnitude negative text = .ok (n, []) := by
    unfold savedText
    split
    · obtain ⟨n, read⟩ := exists_readMagnitude negative isInteger_zero isDigit_zero (.inl rfl)
      exact ⟨_, n, rfl, read⟩
    · next positive =>
        have digits := shortest_digits .toEven (significand_scaled_ne_zero positive)
        dsimp only
        split
        · obtain ⟨n, read⟩ := exists_readMagnitude_scientific negative
          exact ⟨_, n, rfl, read⟩
        · split
          · next whole =>
              obtain ⟨n, read⟩ := exists_readMagnitude_positional_point negative whole digits
              exact ⟨_, n, rfl, read⟩
          · next fractional =>
              obtain ⟨n, read⟩ := exists_readMagnitude_positional negative fractional digits
              exact ⟨_, n, rfl, read⟩
  cases signed : x.isNegative with
  | true =>
      obtain ⟨text, n, same, read⟩ := unsigned true
      rw [sign, if_pos signed] at same
      exact ⟨'-', text, n, same, readScalar_eq_number.mpr (.inl ⟨rfl, read⟩)⟩
  | false =>
      obtain ⟨text, n, same, read⟩ := unsigned false
      rw [sign, if_neg (by simp [signed])] at same
      rcases text with - | ⟨c, text⟩
      · cases read
      · exact ⟨c, text, n, same,
          readScalar_eq_number.mpr (.inr ⟨isDigit_of_readMagnitude read, read⟩)⟩

end Agreement
