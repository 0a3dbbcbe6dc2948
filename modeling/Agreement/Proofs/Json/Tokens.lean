/- # Agreement.Proofs.Json.Tokens: strings and numbers read back

The reader of a string undoes every escape of the printer, so any text comes back whatever follows
its closing quote. The reader of a number stops at the first character that cannot go on with it,
so a number reads the same alone and in front of anything that starts with another character.
-/
import Agreement.Json.Printer
import Agreement.Json.Reader
import Agreement.Proofs.Number.Text
import Agreement.Proofs.Outcome
import Mathlib.Data.List.TakeWhile

namespace Agreement.Json

open Number

/-! ## Strings -/

section Strings

variable {s rest : List Char} {c : Char} {units : List StringUnit} {last : Except Flaw (List Char)}

theorem hexUnit_hexDigit : ∀ n < 0x20,
    hexUnit '0' '0' (hexDigit (n / 16)) (hexDigit (n % 16)) = some n := by
  decide

theorem readUnits_cons_raw (quote : c ≠ '"') (backslash : c ≠ '\\') (printable : 0x20 ≤ c.toNat)
    (h : readUnits rest = (units, last)) : readUnits (c :: rest) = (.char c :: units, last) := by
  rw [readUnits]
  · rw [if_neg (by omega), h]
  all_goals simp_all

theorem readUnits_cons_short {letter : Char} (short : shortEscape letter = some c)
    (h : readUnits rest = (units, last)) :
    readUnits ('\\' :: letter :: rest) = (.char c :: units, last) := by
  have no_code : letter ≠ 'u' := by
    rintro rfl
    have none : shortEscape 'u' = none := by decide
    rw [none] at short
    cases short
  rw [readUnits]
  · rw [short, h]
  all_goals simp_all

/-- What the reader of pieces makes of a character in its escaped form makes that character. -/
def Restores (c : Char) (unit : StringUnit) : Prop :=
  (∀ rest units last, readUnits rest = (units, last) →
    readUnits (escape c ++ rest) = (unit :: units, last)) ∧
  ∀ units, assemble (unit :: units) = (assemble units).map (c :: ·)

theorem restores_short {letter : Char} (written : escape c = ['\\', letter])
    (short : shortEscape letter = some c) : Restores c (.char c) :=
  ⟨fun _ _ _ h => written ▸ readUnits_cons_short short h, fun _ => rfl⟩

theorem restores_code (control : c.toNat < 0x20)
    (written : escape c = ['\\', 'u', '0', '0', hexDigit (c.toNat / 16), hexDigit (c.toNat % 16)]) :
    Restores c (.code c.toNat) := by
  constructor
  · intro rest units last h
    rw [written]
    change readUnits ('\\' :: 'u' :: '0' :: '0' :: _ :: _ :: rest) = _
    rw [readUnits, hexUnit_hexDigit c.toNat control, h]
  · intro units
    have not_trailing : isTrailing c.toNat = false := by simp [isTrailing]; omega
    have not_leading : isLeading c.toNat = false := by simp [isLeading]; omega
    conv_lhs => unfold assemble
    simp [not_trailing, not_leading]

theorem restores_raw (written : escape c = [c]) (quote : c ≠ '"') (backslash : c ≠ '\\')
    (printable : 0x20 ≤ c.toNat) : Restores c (.char c) :=
  ⟨fun _ _ _ h => written ▸ readUnits_cons_raw quote backslash printable h, fun _ => rfl⟩

/-- The characters with an escape of one letter. -/
def shortForms : List (Char × Char) :=
  [('"', '"'), ('\\', '\\'), ('\x08', 'b'), ('\x0C', 'f'), ('\n', 'n'), ('\r', 'r'), ('\t', 't')]

theorem escape_of_mem_shortForms : ∀ p ∈ shortForms,
    escape p.1 = ['\\', p.2] ∧ shortEscape p.2 = some p.1 := by
  decide

/-- Every character comes back from its escaped form. -/
theorem exists_restores (c : Char) : ∃ unit, Restores c unit := by
  by_cases short : ∃ p ∈ shortForms, p.1 = c
  · obtain ⟨p, member, rfl⟩ := short
    obtain ⟨written, back⟩ := escape_of_mem_shortForms p member
    exact ⟨_, restores_short written back⟩
  · simp only [shortForms, List.mem_cons, List.not_mem_nil, or_false, exists_eq_or_imp,
      exists_eq_left, not_or] at short
    obtain ⟨quote, backslash, backspace, feed, line, carriage, tab⟩ := short
    by_cases control : c.toNat < 0x20
    · refine ⟨_, restores_code control ?_⟩
      simp [escape, Ne.symm quote, Ne.symm backslash, Ne.symm backspace, Ne.symm feed,
        Ne.symm line, Ne.symm carriage, Ne.symm tab, control]
    · refine ⟨_, restores_raw ?_ (Ne.symm quote) (Ne.symm backslash) (Nat.not_lt.mp control)⟩
      simp [escape, Ne.symm quote, Ne.symm backslash, Ne.symm backspace, Ne.symm feed,
        Ne.symm line, Ne.symm carriage, Ne.symm tab, control]

/-- The pieces of a text in quotes make the text. -/
theorem exists_readUnits_quote (s rest : List Char) : ∃ units,
    readUnits (s.flatMap escape ++ '"' :: rest) = (units, .ok rest) ∧ assemble units = some s := by
  induction s with
  | nil => exact ⟨[], by rw [List.flatMap_nil, List.nil_append, readUnits], rfl⟩
  | cons c s ih =>
      obtain ⟨units, read, made⟩ := ih
      obtain ⟨unit, restores, makes⟩ := exists_restores c
      refine ⟨unit :: units, ?_, ?_⟩
      · rw [List.flatMap_cons, List.append_assoc]
        exact restores _ _ _ read
      · rw [makes, made]
        rfl

/-- **A text in quotes reads back**, whatever follows it. -/
theorem readString_quote (s rest : List Char) :
    readString (s.flatMap escape ++ '"' :: rest) = .ok (some s, rest) := by
  obtain ⟨units, read, made⟩ := exists_readUnits_quote s rest
  rw [readString, read]
  simp only [made]

end Strings

/-! ## What can follow a number -/

/-- A text that cannot go on with a number in front of it. -/
def EndsNumber (rest : List Char) : Prop := ∀ c ∈ rest.head?, isNumberChar c = false ∧ c ≠ 'E'

theorem EndsNumber.not_isDigit {rest : List Char} (h : EndsNumber rest) :
    ∀ c ∈ rest.head?, c.isDigit = false := by
  intro c hc
  have other := (h c hc).1
  rw [isNumberChar, Bool.or_eq_false_iff] at other
  exact other.1

section Append

variable {text rest after digits : List Char}

/-- The digits at the start of a text are the same with such a text behind it. -/
theorem takeWhile_isDigit_append (text : List Char) (h : EndsNumber rest) :
    (text ++ rest).takeWhile Char.isDigit = text.takeWhile Char.isDigit ∧
      (text ++ rest).dropWhile Char.isDigit = text.dropWhile Char.isDigit ++ rest := by
  induction text with
  | nil =>
      cases rest with
      | nil => exact ⟨rfl, rfl⟩
      | cons c rest =>
          have other : c.isDigit = false := h.not_isDigit c rfl
          simp [other]
  | cons c text ih =>
      rw [List.cons_append]
      cases digit : c.isDigit with
      | true => simp [digit, ih.1, ih.2]
      | false => simp [digit]

theorem readInteger_append (h : EndsNumber rest) (read : readInteger text = .ok (digits, after)) :
    readInteger (text ++ rest) = .ok (digits, after ++ rest) := by
  obtain ⟨same, left⟩ := takeWhile_isDigit_append text h
  unfold readInteger at read ⊢
  rw [same, left]
  dsimp only at read ⊢
  split at read <;> cases read <;> rfl

theorem readFraction_append {fraction : Option (List Char)} (h : EndsNumber rest)
    (read : readFraction text = .ok (fraction, after)) :
    readFraction (text ++ rest) = .ok (fraction, after ++ rest) := by
  have no_point (l : List Char) (h : l.head? ≠ some '.') : readFraction l = .ok (none, l) := by
    rw [readFraction]
    rintro body rfl
    exact h rfl
  rcases text with - | ⟨c, body⟩
  · rw [no_point [] (by simp)] at read
    cases read
    apply no_point
    intro point
    exact absurd (h '.' point).1 (by decide)
  · by_cases point : c = '.'
    · subst point
      obtain ⟨same, left⟩ := takeWhile_isDigit_append body h
      rw [List.cons_append]
      unfold readFraction at read ⊢
      simp only [same, left] at read ⊢
      split at read
      · cases read
      · next filled =>
          cases read
          rw [if_neg filled]
    · rw [no_point _ (by simpa using point)] at read
      cases read
      exact no_point _ (by simpa using point)

/-- The sign of an exponent, and the text after it. -/
def exponentSign : List Char → Bool × List Char
  | '-' :: body => (true, body)
  | '+' :: body => (false, body)
  | body => (false, body)

theorem exponentSign_append (filled : text ≠ []) (rest : List Char) :
    exponentSign (text ++ rest) = ((exponentSign text).1, (exponentSign text).2 ++ rest) := by
  rcases text with - | ⟨c, body⟩
  · exact absurd rfl filled
  · by_cases minus : c = '-'
    · rw [minus]; rfl
    · by_cases plus : c = '+'
      · rw [plus]; rfl
      · rw [exponentSign, exponentSign] <;> simp_all

theorem readExponent_of_not_mark (h : ∀ c ∈ text.head?, c ≠ 'e' ∧ c ≠ 'E') :
    readExponent text = .ok (none, text) := by
  rcases text with - | ⟨c, body⟩
  · rfl
  · obtain ⟨small, capital⟩ := h c rfl
    simp [readExponent, small, capital]

theorem readExponent_of_mark {c : Char} (mark : c = 'e' ∨ c = 'E') (body : List Char) :
    readExponent (c :: body) =
      let digits := (exponentSign body).2.takeWhile Char.isDigit
      let after := (exponentSign body).2.dropWhile Char.isDigit
      if digits.isEmpty then .error (digitBreak after)
      else
        let n : Int := digitsValue digits
        .ok (some (if (exponentSign body).1 then -n else n), after) := by
  conv_lhs => unfold readExponent
  dsimp only
  rw [if_pos mark]
  split
  · rfl
  · rfl
  · next minus plus =>
      have unsigned : exponentSign body = (false, body) := by
        rw [exponentSign] <;> assumption
      rw [unsigned]

theorem readExponent_append {exponent : Option Int} (h : EndsNumber rest)
    (read : readExponent text = .ok (exponent, after)) :
    readExponent (text ++ rest) = .ok (exponent, after ++ rest) := by
  by_cases mark : ∃ c body, text = c :: body ∧ (c = 'e' ∨ c = 'E')
  · obtain ⟨c, body, rfl, mark⟩ := mark
    rw [readExponent_of_mark mark] at read
    rw [List.cons_append, readExponent_of_mark mark]
    have filled : body ≠ [] := by
      -- a mark with nothing behind it has no digits
      rintro rfl
      simp [exponentSign] at read
    obtain ⟨same, left⟩ := takeWhile_isDigit_append (exponentSign body).2 h
    rw [exponentSign_append filled]
    dsimp only at read ⊢
    rw [same, left]
    split at read
    · cases read
    · next digits =>
        cases read
        rw [if_neg digits]
  · have unmarked : ∀ c ∈ text.head?, c ≠ 'e' ∧ c ≠ 'E' := by
      intro c hc
      obtain ⟨body, rfl⟩ := List.head?_eq_some_iff.mp hc
      constructor
      · exact fun small => mark ⟨c, body, rfl, .inl small⟩
      · exact fun capital => mark ⟨c, body, rfl, .inr capital⟩
    rw [readExponent_of_not_mark unmarked] at read
    cases read
    apply readExponent_of_not_mark
    intro c hc
    rcases text with - | ⟨d, body⟩
    · obtain ⟨other, capital⟩ := h c hc
      refine ⟨?_, capital⟩
      rintro rfl
      exact absurd other (by decide)
    · exact unmarked c hc

/-- The number that the parts of a numeral make. -/
def numeralOf (negative : Bool) (digits : List Char) (fraction : Option (List Char))
    (exponent : Option Int) : Option Numeral :=
  match fraction, exponent with
  | none, none => wholeNumeral negative digits
  | _, _ => realNumeral negative digits (fraction.getD []) (exponent.getD 0)

/-- A number is read part by part. -/
theorem readMagnitude_eq_ok {negative : Bool} {n : Option Numeral} :
    readMagnitude negative text = .ok (n, after) ↔ ∃ digits text₁ fraction text₂ exponent,
      readInteger text = .ok (digits, text₁) ∧ readFraction text₁ = .ok (fraction, text₂) ∧
      readExponent text₂ = .ok (exponent, after) ∧
      n = numeralOf negative digits fraction exponent := by
  have made (digits : List Char) (fraction : Option (List Char)) (exponent : Option Int)
      (left : List Char) :
      (match fraction, exponent with
        | none, none => (pure (wholeNumeral negative digits, left) : Except Break _)
        | _, _ => pure (realNumeral negative digits (fraction.getD []) (exponent.getD 0), left)) =
        .ok (numeralOf negative digits fraction exponent, left) := by
    cases fraction <;> cases exponent <;> rfl
  simp only [readMagnitude, Except.bind_eq_ok, Prod.exists]
  constructor
  · rintro ⟨digits, text₁, integer, fraction, text₂, point, exponent, text₃, mark, same⟩
    cases (made digits fraction exponent text₃).symm.trans same
    exact ⟨digits, text₁, fraction, text₂, exponent, integer, point, mark, rfl⟩
  · rintro ⟨digits, text₁, fraction, text₂, exponent, integer, point, mark, rfl⟩
    exact ⟨digits, text₁, integer, fraction, text₂, point, exponent, after, mark,
      made digits fraction exponent after⟩

theorem readMagnitude_append {negative : Bool} {n : Option Numeral} (h : EndsNumber rest)
    (read : readMagnitude negative text = .ok (n, after)) :
    readMagnitude negative (text ++ rest) = .ok (n, after ++ rest) := by
  obtain ⟨digits, text₁, fraction, text₂, exponent, integer, point, mark, rfl⟩ :=
    readMagnitude_eq_ok.mp read
  exact readMagnitude_eq_ok.mpr ⟨digits, text₁ ++ rest, fraction, text₂ ++ rest, exponent,
    readInteger_append h integer, readFraction_append h point, readExponent_append h mark, rfl⟩

theorem leaf_number_eq {read : Reading (Option Numeral)} {n : Option Numeral} :
    leaf Tree.number read = (.number n, some after) ↔ read = .ok (n, after) := by
  rcases read with b | ⟨m, left⟩
  · exact ⟨nofun, nofun⟩
  · simp [leaf]

/-- Only what starts with a digit or a minus sign is a number. -/
theorem readScalar_eq_number {c : Char} {n : Option Numeral} :
    readScalar c text = (.number n, some after) ↔
      (c = '-' ∧ readMagnitude true text = .ok (n, after)) ∨
        (c.isDigit = true ∧ readMagnitude false (c :: text) = .ok (n, after)) := by
  have no_word {value : Tree} {null : Bool} {word text : List Char}
      (other : ∀ n, value ≠ .number n) :
      readWord value null word text ≠ (.number n, some after) := by
    induction word generalizing text with
    | nil =>
        intro same
        cases same
        exact other _ rfl
    | cons w word ih =>
        cases text with
        | nil => simp [readWord]
        | cons d text =>
            rw [readWord]
            split
            · exact ih
            · simp
  have no_digit {c : Char} (not_digit : c.isDigit = false) (not_minus : c ≠ '-') :
      ¬ ((c = '-' ∧ readMagnitude true text = .ok (n, after)) ∨
        (c.isDigit = true ∧ readMagnitude false (c :: text) = .ok (n, after))) := by
    simp [not_digit, not_minus]
  unfold readScalar
  split
  · refine iff_of_false ?_ (no_digit (by decide) (by decide))
    rcases readString text with b | ⟨s, left⟩ <;> simp [leaf]
  · exact iff_of_false (no_word nofun) (no_digit (by decide) (by decide))
  · exact iff_of_false (no_word nofun) (no_digit (by decide) (by decide))
  · exact iff_of_false (no_word nofun) (no_digit (by decide) (by decide))
  · rw [leaf_number_eq]
    simp
  · next not_minus =>
      have apart : c ≠ '-' := not_minus
      split
      · next digit =>
          rw [leaf_number_eq]
          simp [digit, apart]
      · next other =>
          exact iff_of_false (by simp) (no_digit (by simpa using other) apart)

/-- A number that a text starts with is the same with such a text behind it. -/
theorem readScalar_append {c : Char} {n : Option Numeral} (h : EndsNumber rest)
    (read : readScalar c text = (.number n, some after)) :
    readScalar c (text ++ rest) = (.number n, some (after ++ rest)) := by
  rw [readScalar_eq_number] at read ⊢
  rcases read with ⟨minus, magnitude⟩ | ⟨digit, magnitude⟩
  · exact .inl ⟨minus, readMagnitude_append h magnitude⟩
  · exact .inr ⟨digit, readMagnitude_append h magnitude⟩

end Append

/-! ## Counts -/

theorem digitValue_digitChar : ∀ d < 10, digitValue d.digitChar = d := by decide

/-- The digits of a count that fits make up its significand. -/
theorem significandOf_digitsOf {n : Nat} (fits : n ≤ maxWord) :
    significandOf (digitsOf n) = (n, 0) := by
  induction n using Nat.strongRecOn with
  | _ n ih =>
      rcases Nat.lt_or_ge n 10 with small | large
      · rw [digitsOf_of_lt small]
        simp [significandOf, digitValue_digitChar n small, fits]
      · have before := ih (n / 10) (by omega) (by omega)
        have last := digitValue_digitChar (n % 10) (by omega)
        have value : n / 10 * 10 + n % 10 = n := by omega
        rw [significandOf] at before ⊢
        rw [digitsOf_of_le large, List.foldl_append, before, List.foldl_cons, List.foldl_nil]
        simp [last, value, fits]

/-- **A count reads back.** -/
theorem readMagnitude_digitsOf {n : Nat} (fits : n ≤ maxWord) :
    readMagnitude false (digitsOf n) = .ok (some (.whole n), []) := by
  have digits : (digitsOf n).takeWhile Char.isDigit = digitsOf n ∧
      (digitsOf n).dropWhile Char.isDigit = [] := by
    constructor
    · exact List.takeWhile_eq_self_iff.mpr fun c hc => isDigit_of_mem_digitsOf hc
    · exact List.dropWhile_eq_nil_iff.mpr fun c hc => isDigit_of_mem_digitsOf hc
  have whole : readInteger (digitsOf n) = .ok (digitsOf n, []) := by
    rw [readInteger, digits.1, digits.2]
    rcases Nat.eq_zero_or_pos n with rfl | positive
    · rfl
    · have head := head?_digitsOf_ne_zero positive
      have filled := digitsOf_ne_nil n
      split
      · contradiction
      · simp_all
      · simp_all
      · rfl
  have numeral : wholeNumeral false (digitsOf n) = some (.whole n) := by
    rw [wholeNumeral, significandOf_digitsOf fits]
    rfl
  rw [readMagnitude, whole]
  simp [bind, Except.bind, readFraction, readExponent, numeral, pure, Except.pure]

end Agreement.Json
