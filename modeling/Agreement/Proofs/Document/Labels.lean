/- # Agreement.Proofs.Document.Labels: labels say their numbers

Every numbering writes its numbers in a system that can be read without knowing how labels are
made: decimal digits, letters as digits without a zero, Roman signs that are taken off in front of
a greater one, Hebrew letters that are added up under the mark of a numeral. A label read in the
system of its numbering gives the number back. The Roman and the Hebrew system end at a limit, and
what is written above it is decimal; since no text can be read in two systems, different numbers
have different labels there too.
-/
import Agreement.Document.Numbering
import Agreement.Proofs.Number.Text
import Mathlib.Algebra.BigOperators.Group.List.Basic
import Mathlib.Algebra.GroupWithZero.Nat

namespace Agreement

namespace Numbering

/-! ## Systems of numerals -/

/-- The Roman signs by their values. -/
def capitals : List (Char × Nat) :=
  [('I', 1), ('V', 5), ('X', 10), ('L', 50), ('C', 100), ('D', 500), ('M', 1000)]

/-- The Roman signs in small letters. -/
def smallCapitals : List (Char × Nat) := capitals.map fun sign => (sign.1.toLower, sign.2)

/-- The Hebrew letters by their values. -/
def hebrewLetters : List (Char × Nat) :=
  [('א', 1), ('ב', 2), ('ג', 3), ('ד', 4), ('ה', 5), ('ו', 6), ('ז', 7), ('ח', 8), ('ט', 9),
    ('י', 10), ('כ', 20), ('ל', 30), ('מ', 40), ('נ', 50), ('ס', 60), ('ע', 70), ('פ', 80),
    ('צ', 90), ('ק', 100), ('ר', 200), ('ש', 300), ('ת', 400)]

/-- The letters of the alphabet from `first` on by their places. -/
def alphabet (first : Char) : List (Char × Nat) :=
  (List.range 26).map fun i => (Char.ofNat (first.toNat + i), i + 1)

/-- The values of signs, if there are any and all of them are known. -/
def valuesOf? (signs : List (Char × Nat)) (s : List Char) : Option (List Nat) :=
  if s = [] then none else s.mapM (List.lookup · signs)

/-- Values are added up, but one before a greater one is taken off. -/
def signedSum : List Nat → Int
  | [] => 0
  | value :: rest => (if rest.head?.any (value < ·) then -(value : Int) else value) + signedSum rest

/-- Values as digits of a system of base 26. -/
def base26 (values : List Nat) : Nat := values.foldl (26 * · + ·) 0

/-- The letters of a Hebrew numeral, which is marked by one geresh after a single letter or by one
gershayim before the last of several. -/
def unmarked? (s : List Char) : Option (List Char) :=
  match s.reverse with
  | ['׳', c] => some [c]
  | c :: '״' :: c' :: front => some (c :: c' :: front).reverse
  | _ => none

/-- A system in which numbers are written. -/
inductive System
  | decimal
  | gematria
  | roman (signs : List (Char × Nat))
  | alphabetic (first : Char)

/-- The number that a text says in a system. -/
def System.read : System → List Char → Option Nat
  | decimal, s => if s ≠ [] ∧ s.all Char.isDigit then some (Nat.ofDigitChars 10 s 0) else none
  | gematria, s => (unmarked? s).bind fun letters =>
      (valuesOf? hebrewLetters letters).map List.sum
  | roman signs, s => (valuesOf? signs s).map fun values => (signedSum values).toNat
  | alphabetic first, s => (valuesOf? (alphabet first) s).map base26

/-- The system of a numbering, which may not reach all numbers. -/
def system : Numbering → System
  | decimal => .decimal
  | hebrew => .gematria
  | lowerRoman => .roman smallCapitals
  | upperRoman => .roman capitals
  | lowerAlpha => .alphabetic 'a'
  | upperAlpha => .alphabetic 'A'

/-- Whether the system of a numbering reaches a number. -/
def Reaches : Numbering → Nat → Prop
  | hebrew, n => n ≤ 999
  | lowerRoman, n | upperRoman, n => n ≤ 3999
  | _, _ => True

/-! ## Values of signs -/

/-- The value of a sign, zero of anything else. -/
def valueOf (signs : List (Char × Nat)) (c : Char) : Nat := (List.lookup c signs).getD 0

section Values

variable {signs : List (Char × Nat)} {s : List Char}

theorem mapM_lookup (known : ∀ c ∈ s, (List.lookup c signs).isSome) :
    s.mapM (List.lookup · signs) = some (s.map (valueOf signs)) := by
  induction s with
  | nil => rfl
  | cons c s ih =>
      obtain ⟨first, rest⟩ := List.forall_mem_cons.mp known
      obtain ⟨value, eq⟩ := Option.isSome_iff_exists.mp first
      rw [List.mapM_cons, ih rest, List.map_cons, valueOf, eq]
      rfl

theorem valuesOf?_eq (nonempty : s ≠ []) (known : ∀ c ∈ s, (List.lookup c signs).isSome) :
    valuesOf? signs s = some (s.map (valueOf signs)) := by
  rw [valuesOf?, if_neg nonempty, mapM_lookup known]

/-- A text with a character that is no sign has no values. -/
theorem valuesOf?_eq_none {c : Char} (member : c ∈ s) (unknown : List.lookup c signs = none) :
    valuesOf? signs s = none := by
  rw [valuesOf?, if_neg (List.ne_nil_of_mem member)]
  induction s with
  | nil => cases member
  | cons d s ih =>
      rw [List.mapM_cons]
      rcases List.mem_cons.mp member with rfl | later
      · rw [unknown]
        rfl
      · rw [ih later]
        cases List.lookup d signs <;> rfl

end Values

/-! ## Decimal digits -/

theorem read_digitsOf (n : Nat) : System.decimal.read (Number.digitsOf n) = some n := by
  have digits : (Number.digitsOf n).all Char.isDigit = true :=
    List.all_eq_true.mpr fun _ => Number.isDigit_of_mem_digitsOf
  rw [System.read, if_pos ⟨Number.digitsOf_ne_nil n, digits⟩]
  exact congrArg some Nat.ofDigitChars_ten_toDigits

/-! ## Letters as digits -/

theorem base26_append (values : List Nat) (value : Nat) :
    base26 (values ++ [value]) = 26 * base26 values + value := by
  rw [base26, List.foldl_append]
  rfl

section Alphabetic

variable {first : Char}

theorem alphabetic_succ (first : Char) (n : Nat) :
    alphabetic first (n + 1) =
      alphabetic first (n / 26) ++ [Char.ofNat (first.toNat + n % 26)] := by
  rw [alphabetic]

/-- The letters of a number are letters, and it is what they say as digits. -/
theorem letters_alphabetic (letters : ∀ i < 26,
      List.lookup (Char.ofNat (first.toNat + i)) (alphabet first) = some (i + 1)) (n : Nat) :
    (∀ c ∈ alphabetic first n, (List.lookup c (alphabet first)).isSome) ∧
      base26 ((alphabetic first n).map (valueOf (alphabet first))) = n := by
  induction n using Nat.strongRecOn with
  | _ n ih =>
      cases n with
      | zero =>
          rw [alphabetic]
          exact ⟨by simp, rfl⟩
      | succ n =>
          obtain ⟨known, value⟩ := ih (n / 26) (by omega)
          have last := letters (n % 26) (Nat.mod_lt _ (by decide))
          rw [alphabetic_succ]
          constructor
          · rw [List.forall_mem_append, List.forall_mem_singleton, last]
            exact ⟨known, rfl⟩
          · rw [List.map_append, List.map_singleton, base26_append, value, valueOf, last]
            show 26 * (n / 26) + (n % 26 + 1) = n + 1
            omega

theorem read_alphabetic (letters : ∀ i < 26,
      List.lookup (Char.ofNat (first.toNat + i)) (alphabet first) = some (i + 1)) {n : Nat}
    (positive : 0 < n) : (System.alphabetic first).read (alphabetic first n) = some n := by
  obtain ⟨known, value⟩ := letters_alphabetic letters n
  have nonempty : alphabetic first n ≠ [] := by
    obtain ⟨n, rfl⟩ := Nat.exists_eq_succ_of_ne_zero (Nat.ne_of_gt positive)
    simp [alphabetic_succ]
  rw [System.read, valuesOf?_eq nonempty known, Option.map_some, value]

end Alphabetic

/-! ## Roman signs -/

/-- The first of the later values is not greater than the last of the earlier ones. -/
def Falls (earlier later : List Nat) : Prop := ∀ v ∈ earlier.getLast?, ∀ w ∈ later.head?, w ≤ v

instance (earlier later : List Nat) : Decidable (Falls earlier later) :=
  inferInstanceAs (Decidable (∀ v ∈ earlier.getLast?, ∀ w ∈ later.head?, w ≤ v))

theorem signedSum_append {values more : List Nat} (falls : Falls values more) :
    signedSum (values ++ more) = signedSum values + signedSum more := by
  induction values with
  | nil => exact (Int.zero_add _).symm
  | cons v values ih =>
      cases values with
      | nil =>
          have kept : more.head?.any (v < ·) = false := by
            cases first : more.head? with
            | none => rfl
            | some w => exact decide_eq_false (Nat.not_lt.mpr (falls v rfl w first))
          rw [List.singleton_append, signedSum, kept, signedSum, signedSum]
          simp
      | cons v' values =>
          -- `v'` is what decides about `v` on both sides
          show _ + signedSum (v' :: values ++ more) = _ + signedSum (v' :: values) + signedSum more
          rw [ih falls, Int.add_assoc]
          rfl

section Roman

variable {signs : List (Char × Nat)}

/-- The values of the letters of a sign. -/
def letterValues (signs : List (Char × Nat)) (sign : Nat × String) : List Nat :=
  sign.2.toList.map (valueOf signs)

/-- Signs of one or more letters that can be read: their letters are known and say their values,
and no letter of a sign is taken off in front of the same sign or of a later one. -/
structure Readable (signs : List (Char × Nat)) (table : List (Nat × String)) : Prop where
  known : ∀ sign ∈ table, sign.2.toList.all fun c => (List.lookup c signs).isSome
  nonempty : ∀ sign ∈ table, sign.2.toList ≠ []
  value : ∀ sign ∈ table, signedSum (letterValues signs sign) = sign.1
  itself : ∀ sign ∈ table, Falls (letterValues signs sign) (letterValues signs sign)
  falls : table.Pairwise fun a b => Falls (letterValues signs a) (letterValues signs b)

theorem readable_romanSigns : Readable capitals romanSigns where
  known := by decide
  nonempty := by decide
  value := by decide
  itself := by decide
  falls := by decide

/-- What is left of a number after all signs have been taken from it. -/
def leftOf : List (Nat × String) → Nat → Nat
  | [], n => n
  | (value, _) :: rest, n => leftOf rest (n % value)

variable {table : List (Nat × String)} {sign : Nat × String}

/-- The values of a sign written several times. -/
abbrev repeated (signs : List (Char × Nat)) (sign : Nat × String) (count : Nat) : List Nat :=
  (List.replicate count sign.2.toList).flatten.map (valueOf signs)

theorem repeated_succ (count : Nat) :
    repeated signs sign (count + 1) = letterValues signs sign ++ repeated signs sign count := by
  rw [repeated, List.replicate_succ, List.flatten_cons, List.map_append]
  rfl

theorem head?_repeated (nonempty : sign.2.toList ≠ []) {count w : Nat}
    (h : w ∈ (repeated signs sign count).head?) : w ∈ (letterValues signs sign).head? := by
  cases count with
  | zero => cases h
  | succ count =>
      have some_letter : letterValues signs sign ≠ [] := by simpa [letterValues] using nonempty
      rwa [repeated_succ, List.head?_append_of_ne_nil _ some_letter] at h

theorem getLast?_repeated {count v : Nat} (h : v ∈ (repeated signs sign count).getLast?) :
    v ∈ (letterValues signs sign).getLast? := by
  induction count with
  | zero => cases h
  | succ count ih =>
      rw [repeated_succ, List.getLast?_append] at h
      rcases Option.or_eq_some_iff.mp h with later | ⟨-, here⟩
      · exact ih later
      · exact here

theorem signedSum_repeated (nonempty : sign.2.toList ≠ [])
    (falls : Falls (letterValues signs sign) (letterValues signs sign)) (count : Nat) :
    signedSum (repeated signs sign count) = count * signedSum (letterValues signs sign) := by
  induction count with
  | zero => exact (Int.zero_mul _).symm
  | succ count ih =>
      have again : Falls (letterValues signs sign) (repeated signs sign count) :=
        fun v hv w hw => falls v hv w (head?_repeated nonempty hw)
      rw [repeated_succ, signedSum_append again, ih, Int.natCast_add, Int.add_mul, Int.add_comm]
      simp

/-- A numeral begins with a sign of its table. -/
theorem head?_withSigns (nonempty : ∀ sign ∈ table, sign.2.toList ≠ []) {n w : Nat}
    (h : w ∈ ((withSigns table n).map (valueOf signs)).head?) :
    ∃ sign ∈ table, w ∈ (letterValues signs sign).head? := by
  induction table generalizing n with
  | nil => cases h
  | cons sign rest ih =>
      obtain ⟨first, others⟩ := List.forall_mem_cons.mp nonempty
      rw [withSigns, List.map_append, List.head?_append] at h
      rcases Option.or_eq_some_iff.mp h with here | ⟨-, later⟩
      · exact ⟨sign, List.mem_cons_self, head?_repeated first here⟩
      · obtain ⟨other, member, starts⟩ := ih others later
        exact ⟨other, List.mem_cons_of_mem _ member, starts⟩

theorem Readable.tail {sign : Nat × String} (h : Readable signs (sign :: table)) :
    Readable signs table where
  known := (List.forall_mem_cons.mp h.known).2
  nonempty := (List.forall_mem_cons.mp h.nonempty).2
  value := (List.forall_mem_cons.mp h.value).2
  itself := (List.forall_mem_cons.mp h.itself).2
  falls := (List.pairwise_cons.mp h.falls).2

/-- A numeral of signs that can be read says its number, but for what is left in the end. -/
theorem Readable.signedSum_withSigns (h : Readable signs table) (n : Nat) :
    signedSum ((withSigns table n).map (valueOf signs)) + leftOf table n = n := by
  induction table generalizing n with
  | nil => exact Int.zero_add _
  | cons sign rest ih =>
      obtain ⟨value, text⟩ := sign
      have nonempty := h.nonempty _ List.mem_cons_self
      have itself := h.itself _ List.mem_cons_self
      have count : signedSum (repeated signs (value, text) (n / value)) =
          (n / value : Nat) * value := by
        rw [signedSum_repeated nonempty itself, h.value _ List.mem_cons_self]
      have falls : Falls (repeated signs (value, text) (n / value))
          ((withSigns rest (n % value)).map (valueOf signs)) := by
        intro v hv w hw
        obtain ⟨other, member, starts⟩ := head?_withSigns h.tail.nonempty hw
        have apart := (List.pairwise_cons.mp h.falls).1 other member
        exact apart v (getLast?_repeated hv) w starts
      have later := ih h.tail (n % value)
      rw [withSigns, List.map_append, signedSum_append falls, count, leftOf, Int.add_assoc, later]
      exact_mod_cast Nat.div_add_mod' n value

theorem Readable.known_withSigns (h : Readable signs table) {n : Nat} :
    ∀ c ∈ withSigns table n, (List.lookup c signs).isSome := by
  induction table generalizing n with
  | nil => exact fun c hc => by cases hc
  | cons sign rest ih =>
      intro c hc
      rw [withSigns, List.mem_append, List.mem_flatten] at hc
      rcases hc with ⟨copy, hcopy, hc⟩ | hc
      · rw [List.eq_of_mem_replicate hcopy] at hc
        exact List.all_eq_true.mp (h.known _ List.mem_cons_self) c hc
      · exact ih h.tail c hc

/-- The last of the Roman signs is worth one, so nothing is left. -/
theorem leftOf_romanSigns (n : Nat) : leftOf romanSigns n = 0 := Nat.mod_one _

theorem withSigns_romanSigns_ne_nil {n : Nat} (positive : 0 < n) :
    withSigns romanSigns n ≠ [] := by
  intro empty
  have zero := readable_romanSigns.signedSum_withSigns n
  rw [empty, leftOf_romanSigns] at zero
  exact absurd zero (by simp [signedSum]; omega)

theorem read_roman {n : Nat} (positive : 0 < n) (small : n ≤ 3999) :
    (System.roman capitals).read (roman n) = some n := by
  have value := readable_romanSigns.signedSum_withSigns n
  rw [leftOf_romanSigns, Int.natCast_zero, Int.add_zero] at value
  rw [roman, if_neg (by omega), System.read,
    valuesOf?_eq (withSigns_romanSigns_ne_nil positive) readable_romanSigns.known_withSigns,
    Option.map_some, value, Int.toNat_natCast]

/-- A sign in small letters has the value that it has in capitals. -/
theorem lookup_toLower {c : Char} (known : (List.lookup c capitals).isSome) :
    List.lookup c.toLower smallCapitals = List.lookup c capitals := by
  obtain ⟨sign, member, same⟩ := List.lookup_isSome_iff.mp known
  obtain rfl := eq_of_beq same
  have each : ∀ sign ∈ capitals,
      List.lookup sign.1.toLower smallCapitals = List.lookup sign.1 capitals := by decide
  exact each sign member

theorem valuesOf?_map_toLower {s : List Char}
    (known : ∀ c ∈ s, (List.lookup c capitals).isSome) :
    valuesOf? smallCapitals (s.map Char.toLower) = valuesOf? capitals s := by
  by_cases empty : s = []
  · rw [empty]
    rfl
  · have known' : ∀ c ∈ s.map Char.toLower, (List.lookup c smallCapitals).isSome := by
      rw [List.forall_mem_map]
      intro c hc
      rw [lookup_toLower (known c hc)]
      exact known c hc
    rw [valuesOf?_eq (by simpa using empty) known', valuesOf?_eq empty known, List.map_map]
    refine congrArg some (List.map_congr_left fun c hc => ?_)
    exact congrArg (·.getD 0) (lookup_toLower (known c hc))

theorem read_small_roman {n : Nat} (positive : 0 < n) (small : n ≤ 3999) :
    (System.roman smallCapitals).read ((roman n).map Char.toLower) = some n := by
  have capital := read_roman positive small
  have signs : roman n = withSigns romanSigns n := if_neg (by omega)
  rw [System.read, signs] at capital ⊢
  rwa [valuesOf?_map_toLower readable_romanSigns.known_withSigns]

end Roman

/-! ## Hebrew letters -/

/-- Hebrew letters that add up to a number. -/
def AddUp (s : List Char) (n : Nat) : Prop :=
  (∀ c ∈ s, (List.lookup c hebrewLetters).isSome) ∧ (s.map (valueOf hebrewLetters)).sum = n

instance (s : List Char) (n : Nat) : Decidable (AddUp s n) :=
  @instDecidableAnd _ _ (List.decidableBAll _ s) _

theorem AddUp.append {a b : List Char} {m n : Nat} (front : AddUp a m) (back : AddUp b n) :
    AddUp (a ++ b) (m + n) := by
  refine ⟨List.forall_mem_append.mpr ⟨front.1, back.1⟩, ?_⟩
  rw [List.map_append, List.sum_append, front.2, back.2]

theorem addUp_hundreds : ∀ d < 10, AddUp (letters hundreds d) (100 * d) := by decide

theorem addUp_tens : ∀ d < 10, AddUp (letters tens d) (10 * d) := by decide

theorem addUp_ones : ∀ d < 10, AddUp (letters ones d) d := by decide

/-- The letters of a number below 1000 add up to it. -/
theorem addUp_gematria {n : Nat} (small : n < 1000) : AddUp (gematria n) n := by
  have hundreds := addUp_hundreds (n / 100) (by omega)
  have split : n = 100 * (n / 100) + n % 100 := (Nat.div_add_mod n 100).symm
  rw [gematria]
  conv => rhs; rw [split]
  apply hundreds.append
  split
  · next fifteen =>
    rw [fifteen]
    decide
  · split
    · next sixteen =>
      rw [sixteen]
      decide
    · have both := (addUp_tens (n % 100 / 10) (by omega)).append (addUp_ones (n % 10) (by omega))
      have rest : 10 * (n % 100 / 10) + n % 10 = n % 100 := by omega
      rwa [rest] at both

theorem gematria_ne_nil {n : Nat} (positive : 0 < n) (small : n < 1000) : gematria n ≠ [] := by
  intro empty
  have zero := (addUp_gematria small).2
  rw [empty] at zero
  exact absurd zero (Nat.ne_of_lt positive)

/-- Letters with the mark of a numeral. -/
theorem markNumeral_append (front : List Char) (last : Char) :
    markNumeral (front ++ [last]) =
      if front = [] then [last, '׳'] else front ++ ['״', last] := by
  cases front with
  | nil => rfl
  | cons c front =>
      obtain ⟨d, rest, several⟩ := List.exists_cons_of_ne_nil (List.concat_ne_nil last front)
      have marked : markNumeral (c :: d :: rest) =
          (c :: d :: rest).dropLast ++
            '״' :: (c :: d :: rest).drop ((c :: d :: rest).length - 1) := rfl
      rw [List.cons_append, several, marked, ← several, ← List.cons_append,
        List.dropLast_concat]
      simp

/-- A numeral without its mark is its letters. -/
theorem unmarked?_markNumeral {s : List Char} (nonempty : s ≠ []) :
    unmarked? (markNumeral s) = some s := by
  obtain ⟨front, last, rfl⟩ := (List.eq_nil_or_concat' s).resolve_left nonempty
  rw [markNumeral_append]
  rcases List.eq_nil_or_concat' front with rfl | ⟨front, c, rfl⟩
  · rfl
  · rw [if_neg (by simp), unmarked?]
    simp

theorem read_hebrewNumeral {n : Nat} (positive : 0 < n) (small : n ≤ 999) :
    System.gematria.read (hebrewNumeral n) = some n := by
  have nonempty := gematria_ne_nil positive (by omega)
  obtain ⟨known, sum⟩ := addUp_gematria (show n < 1000 by omega)
  rw [hebrewNumeral, if_neg (by omega), System.read, unmarked?_markNumeral nonempty,
    Option.bind_some, valuesOf?_eq nonempty known, Option.map_some, sum]

/-! ## Labels -/

/-- The least capital comes after all digits. -/
theorem toLower_of_isDigit {c : Char} (digit : c.isDigit = true) : c.toLower = c := by
  have no_capital : ¬ (c.val ≥ 'A'.val ∧ c.val ≤ 'Z'.val) := by
    simp only [Char.isDigit, Bool.and_eq_true, decide_eq_true_eq] at digit
    exact fun capital => absurd (UInt32.le_trans capital.1 digit.2) (by decide)
  exact dif_neg no_capital

theorem map_toLower_digitsOf (n : Nat) :
    (Number.digitsOf n).map Char.toLower = Number.digitsOf n := by
  conv => rhs; rw [← List.map_id (Number.digitsOf n)]
  exact List.map_congr_left fun c hc => toLower_of_isDigit (Number.isDigit_of_mem_digitsOf hc)

/-- A label says its number in the system of its numbering. -/
theorem read_label {style : Numbering} {n : Nat} (positive : 0 < n) (reaches : style.Reaches n) :
    style.system.read (style.label n).toList = some n := by
  have letters (first : Char) (latin : first = 'a' ∨ first = 'A') : ∀ i < 26,
      List.lookup (Char.ofNat (first.toNat + i)) (alphabet first) = some (i + 1) := by
    rcases latin with rfl | rfl <;> decide
  cases style <;> rw [label, String.toList_ofList]
  case decimal => exact read_digitsOf n
  case hebrew => exact read_hebrewNumeral positive reaches
  case lowerRoman => exact read_small_roman positive reaches
  case upperRoman => exact read_roman positive reaches
  case lowerAlpha => exact read_alphabetic (letters 'a' (.inl rfl)) positive
  case upperAlpha => exact read_alphabetic (letters 'A' (.inr rfl)) positive

/-- Where the system of a numbering does not reach, labels are decimal. -/
theorem label_of_not_reaches {style : Numbering} {n : Nat} (beyond : ¬ style.Reaches n) :
    (style.label n).toList = Number.digitsOf n := by
  cases style <;> rw [label, String.toList_ofList]
  case hebrew => exact if_pos (.inr (Nat.not_le.mp beyond))
  case lowerRoman =>
    have decimal : roman n = Number.digitsOf n := if_pos (.inr (Nat.not_le.mp beyond))
    rw [decimal, map_toLower_digitsOf]
  case upperRoman => exact if_pos (.inr (Nat.not_le.mp beyond))
  all_goals exact absurd trivial beyond

/-- A text of digits has no values of signs that are no digits. -/
theorem valuesOf?_digitsOf {signs : List (Char × Nat)}
    (no_digits : ∀ sign ∈ signs, sign.1.isDigit = false) (n : Nat) :
    valuesOf? signs (Number.digitsOf n) = none := by
  obtain ⟨c, rest, digits⟩ := List.exists_cons_of_ne_nil (Number.digitsOf_ne_nil n)
  have member : c ∈ Number.digitsOf n := by simp [digits]
  refine valuesOf?_eq_none member (List.lookup_eq_none_iff.mpr fun sign hsign => ?_)
  have digit := Number.isDigit_of_mem_digitsOf member
  have apart : c ≠ sign.1 := by
    rintro rfl
    rw [no_digits sign hsign] at digit
    cases digit
  simpa using apart

/-- Digits carry no mark of a numeral. -/
theorem unmarked?_digitsOf (n : Nat) : unmarked? (Number.digitsOf n) = none := by
  have no_mark {mark : Char} (other : mark.isDigit = false) :
      mark ∉ (Number.digitsOf n).reverse := by
    intro member
    have digit := Number.isDigit_of_mem_digitsOf (List.mem_reverse.mp member)
    rw [other] at digit
    cases digit
  unfold unmarked?
  split
  · next geresh => exact absurd (by simp [geresh]) (no_mark (by decide : '׳'.isDigit = false))
  · next gershayim => exact absurd (by simp [gershayim]) (no_mark (by decide : '״'.isDigit = false))
  · rfl

/-- No digit is a sign of another system, so a decimal number says nothing in one. -/
theorem read_digitsOf_of_not_reaches {style : Numbering} {n : Nat} (beyond : ¬ style.Reaches n) :
    style.system.read (Number.digitsOf n) = none := by
  cases style <;> rw [system, System.read]
  case hebrew => rw [unmarked?_digitsOf, Option.bind_none]
  case lowerRoman => rw [valuesOf?_digitsOf (by decide), Option.map_none]
  case upperRoman => rw [valuesOf?_digitsOf (by decide), Option.map_none]
  all_goals exact absurd trivial beyond

/-- The number that a label of a numbering says, in its system or else in decimal digits. -/
def read (style : Numbering) (s : List Char) : Option Nat :=
  (style.system.read s).or (System.decimal.read s)

theorem read_toList_label (style : Numbering) {n : Nat} (positive : 0 < n) :
    style.read (style.label n).toList = some n := by
  rw [read]
  by_cases reaches : style.Reaches n
  · rw [read_label positive reaches, Option.some_or]
  · rw [label_of_not_reaches reaches, read_digitsOf_of_not_reaches reaches, Option.none_or,
      read_digitsOf]

theorem label_injective {style : Numbering} {m n : Nat} (hm : 0 < m) (hn : 0 < n)
    (same : style.label m = style.label n) : m = n := by
  have read := read_toList_label style hm
  rw [same, read_toList_label style hn] at read
  exact (Option.some.inj read).symm

/-- A marker is its label, or its label and a point. -/
theorem label_eq_of_marker_eq {style : Numbering} {m n : Nat}
    (same : style.marker m = style.marker n) : style.label m = style.label n := by
  have without_point (a b : String) (h : a ++ "." = b ++ ".") : a = b := by
    have chars := congrArg String.toList h
    rw [String.toList_append, String.toList_append] at chars
    exact String.toList_inj.mp (List.append_cancel_right chars)
  cases style
  case hebrew => exact same
  all_goals exact without_point _ _ same

/-- Fifteen and sixteen are written as nine and six, nine and seven. -/
theorem suffix_gematria {n : Nat} :
    (n % 100 = 15 → ['ט', 'ו'] <:+ gematria n) ∧ (n % 100 = 16 → ['ט', 'ז'] <:+ gematria n) := by
  rw [gematria]
  constructor
  · intro fifteen
    rw [if_pos fifteen]
    exact List.suffix_append _ _
  · intro sixteen
    rw [if_neg (by omega), if_pos sixteen]
    exact List.suffix_append _ _

/-- **Labels say their numbers.** Read in the system of its numbering, or in decimal digits where
that does not reach, the label of a number gives it back; a Hebrew numeral is made of letters that
add up to it, with a geresh after a single one and gershayim before the last of several, and ends
with nine and six or nine and seven in place of fifteen and sixteen. So no two numbers have the same
marker in a numbering. -/
theorem label_says_number (style : Numbering) {n : Nat} (positive : 0 < n) :
    (style.Reaches n → style.system.read (style.label n).toList = some n) ∧
    (¬ style.Reaches n → System.decimal.read (style.label n).toList = some n) ∧
    (n ≤ 999 → ∃ front last, AddUp (front ++ [last]) n ∧
      (hebrew.label n).toList = (if front = [] then [last, '׳'] else front ++ ['״', last]) ∧
      (n % 100 = 15 → ['ט', 'ו'] <:+ front ++ [last]) ∧
      (n % 100 = 16 → ['ט', 'ז'] <:+ front ++ [last])) ∧
    ∀ m, 0 < m → style.marker m = style.marker n → m = n := by
  refine ⟨read_label positive, fun beyond => ?_, fun small => ?_, fun m hm same => ?_⟩
  · rw [label_of_not_reaches beyond, read_digitsOf]
  · have nonempty := gematria_ne_nil positive (show n < 1000 by omega)
    obtain ⟨front, last, letters⟩ := (List.eq_nil_or_concat' _).resolve_left nonempty
    have written : (hebrew.label n).toList = markNumeral (gematria n) := by
      rw [label, String.toList_ofList, hebrewNumeral, if_neg (by omega)]
    rw [written, letters]
    refine ⟨front, last, ?_, markNumeral_append front last, ?_⟩ <;> rw [← letters]
    · exact addUp_gematria (by omega)
    · exact suffix_gematria
  · exact label_injective hm positive (label_eq_of_marker_eq same)

/-- A hundred and fifteen in Hebrew letters. -/
theorem label_says_hundred_and_fifteen :
    0 < 115 ∧ hebrew.Reaches 115 ∧ hebrew.label 115 = "קט״ו" ∧
      hebrew.system.read "קט״ו".toList = some 115 ∧
      ∀ m, 0 < m → hebrew.marker m = "קט״ו" → m = 115 := by
  have positive : 0 < 115 := by decide
  have reaches : hebrew.Reaches 115 := show 115 ≤ 999 by decide
  have written : hebrew.label 115 = "קט״ו" := by decide
  obtain ⟨read, -, -, apart⟩ := label_says_number hebrew positive
  rw [written] at read
  refine ⟨positive, reaches, written, read reaches, fun m hm same => apart m hm ?_⟩
  exact same.trans written.symm

end Numbering

end Agreement
