/- # Agreement.Proofs.Unicode.Tables: what the tables of normal forms say

The tables of decompositions and compositions are checked once, row by row. A row of the one and a
row of the other belong together: what two characters compose to decomposes into the parts of the
first and the second. And what a character decomposes into decomposes no further.

A row is looked up in a tree, and whether a code point has a row at all is read from the bits of
one number, since to go through a table for every row of another takes long.
-/
import Agreement.Unicode.Normal
import Mathlib.Data.List.Basic

namespace Agreement.Unicode

/-! ## Looking up -/

section Rows

variable {α : Type} {table : List (Nat × α)} {c : Nat} {value : α}

theorem mem_of_rowIn (h : rowIn table c = some value) : (c, value) ∈ table := by
  induction table with
  | nil => cases h
  | cons row rest ih =>
      obtain ⟨key, v⟩ := row
      rw [rowIn] at h
      split at h
      · cases h
      · split at h
        · next same =>
            subst same
            cases h
            exact List.mem_cons_self
        · exact List.mem_cons_of_mem _ (ih h)

theorem rowIn_of_mem (sorted : table.Pairwise (·.1 < ·.1)) (h : (c, value) ∈ table) :
    rowIn table c = some value := by
  induction table with
  | nil => cases h
  | cons row rest ih =>
      obtain ⟨first, later⟩ := List.pairwise_cons.mp sorted
      rw [rowIn]
      rcases List.mem_cons.mp h with rfl | member
      · rw [if_neg (Nat.lt_irrefl c), if_pos rfl]
      · have behind : row.1 < c := first _ member
        rw [if_neg (by omega), if_neg (by omega), ih later member]

end Rows

theorem mem_of_compositeIn {table : List (Nat × Nat × Nat)} {a b c : Nat}
    (h : compositeIn table a b = some c) : (a, b, c) ∈ table := by
  induction table with
  | nil => cases h
  | cons row rest ih =>
      obtain ⟨first, second, composite⟩ := row
      rw [compositeIn] at h
      split at h
      · cases h
      · split at h
        · next same =>
            obtain ⟨rfl, rfl⟩ := same
            cases h
            exact List.mem_cons_self
        · exact List.mem_cons_of_mem _ (ih h)

/-- A set of numbers as the bits of one number. -/
def bitsOf (codes : List Nat) : Nat := codes.foldr (fun n bits => 1 <<< n ||| bits) 0

theorem testBit_bitsOf {codes : List Nat} {n : Nat} (h : n ∈ codes) :
    (bitsOf codes).testBit n = true := by
  induction codes with
  | nil => cases h
  | cons m codes ih =>
      have step : bitsOf (m :: codes) = 1 <<< m ||| bitsOf codes := rfl
      rw [step, Nat.testBit_or]
      rcases List.mem_cons.mp h with rfl | later
      · simp
      · rw [ih later, Bool.or_true]

/-- The code points that have a decomposition in the table. -/
def decomposing : Nat := bitsOf (decompositions.map (·.1))

theorem rowIn_eq_none {c : Nat} (h : decomposing.testBit c = false) :
    rowIn decompositions c = none := by
  cases found : rowIn decompositions c with
  | none => rfl
  | some parts =>
      have key : c ∈ decompositions.map (·.1) := List.mem_map_of_mem (mem_of_rowIn found)
      rw [decomposing, testBit_bitsOf key] at h
      cases h

/-! ## Search trees -/

/-- A sorted table as a tree. -/
inductive SearchTree
  | leaf
  | node (left : SearchTree) (row : Nat × List Nat) (right : SearchTree)

namespace SearchTree

/-- The tree of a table that has fewer than `2 ^ depth` rows. -/
def ofList : (depth : Nat) → List (Nat × List Nat) → SearchTree
  | 0, _ => leaf
  | depth + 1, table =>
    match table.drop (Nat.pow 2 depth - 1) with
    | [] => ofList depth table
    | row :: later =>
      node (ofList depth (table.take (Nat.pow 2 depth - 1))) row (ofList depth later)

/-- The parts in the row of a code point. -/
def find? : SearchTree → Nat → Option (List Nat)
  | leaf, _ => none
  | node left row right, c =>
    bif c.blt row.1 then left.find? c else bif c.beq row.1 then some row.2 else right.find? c

theorem mem_of_find? {depth : Nat} {table : List (Nat × List Nat)} {c : Nat} {parts : List Nat}
    (h : (ofList depth table).find? c = some parts) : (c, parts) ∈ table := by
  induction depth generalizing table with
  | zero => cases h
  | succ depth ih =>
      rw [ofList] at h
      split at h
      · exact ih h
      · next row later behind =>
          have inside : row :: later ⊆ table := by
            rw [← behind]
            exact List.drop_subset _ _
          rw [find?] at h
          cases before : c.blt row.1 with
          | true =>
              rw [before] at h
              exact List.mem_of_mem_take (ih h)
          | false =>
              cases here : c.beq row.1 with
              | true =>
                  rw [before, here] at h
                  cases h
                  rw [Nat.eq_of_beq_eq_true here]
                  exact inside List.mem_cons_self
              | false =>
                  rw [before, here] at h
                  exact inside (List.mem_cons_of_mem row (ih h))

end SearchTree

/-- The decompositions as a tree. -/
def decompositionTree : SearchTree := .ofList 12 decompositions

theorem rowIn_of_find? (sorted : decompositions.Pairwise (·.1 < ·.1)) {c : Nat} {parts : List Nat}
    (h : decompositionTree.find? c = some parts) : rowIn decompositions c = some parts :=
  rowIn_of_mem sorted (@SearchTree.mem_of_find? 12 decompositions c parts h)

/-! ## The tables checked -/

/-- Whether the keys of a table ascend from a number on. -/
def ascends {α : Type} : (bound : Nat) → List (Nat × α) → Bool
  | _, [] => true
  | bound, row :: rest => bound.blt row.1 && ascends row.1 rest

theorem pairwise_of_ascends {α : Type} {bound : Nat} {table : List (Nat × α)}
    (h : ascends bound table = true) : table.Pairwise (·.1 < ·.1) := by
  suffices both : (∀ row ∈ table, bound < row.1) ∧ table.Pairwise (·.1 < ·.1) from both.2
  induction table generalizing bound with
  | nil => simp
  | cons row rest ih =>
      rw [ascends, Bool.and_eq_true, Nat.blt_eq] at h
      obtain ⟨above, sorted⟩ := ih h.2
      refine ⟨List.forall_mem_cons.mpr ⟨h.1, ?_⟩, List.pairwise_cons.mpr ⟨above, sorted⟩⟩
      intro later member
      exact Nat.lt_trans h.1 (above later member)

theorem decompositions_sorted : decompositions.Pairwise (·.1 < ·.1) := by
  have ascending : ascends 0 decompositions = true := by decide +kernel
  exact pairwise_of_ascends ascending

/-- Whether a number is a code point and no Hangul syllable. -/
def isTabled (n : Nat) : Bool :=
  n.blt 0xAC00 || (Nat.blt 0xD7A3 n && n.blt 0xD800) || (Nat.blt 0xDFFF n && n.blt 0x110000)

/-- Nothing that a character decomposes into decomposes any further. -/
theorem decompositions_checked : ∀ row ∈ decompositions, ∀ part ∈ row.2,
    isTabled part = true ∧ decomposing.testBit part = false := by
  decide +kernel

/-- The parts that the table gives a code point. One without a decomposition is its only part. -/
def partsOf (c : Nat) : Option (List Nat) :=
  bif decomposing.testBit c then decompositionTree.find? c else some [c]

/-- Whether what a row composes to decomposes into the parts of the first character and the
second. -/
def isRejoined (row : Nat × Nat × Nat) : Bool :=
  match partsOf row.1, decompositionTree.find? row.2.2 with
  | some front, some parts => front ++ [row.2.1] == parts
  | _, _ => false

theorem compositions_checked : ∀ row ∈ compositions,
    isTabled row.1 = true ∧ isTabled row.2.2 = true ∧ isRejoined row = true := by
  decide +kernel

/-! ## Characters -/

theorem toNat_ofNat {n : Nat} (h : n.isValidChar) : (Char.ofNat n).toNat = n := by
  have made : Char.ofNat n = Char.ofNatAux n h := dif_pos h
  rw [made]
  rfl

theorem isTabled_iff {n : Nat} :
    isTabled n = true ↔ n.isValidChar ∧ ¬ (0xAC00 ≤ n ∧ n ≤ 0xD7A3) := by
  simp only [isTabled, Bool.or_eq_true, Bool.and_eq_true, Nat.blt_eq, Nat.isValidChar]
  omega

/-- The decomposition of a character of the tables. -/
theorem decompose_ofNat {n : Nat} (tabled : isTabled n = true) :
    decompose (Char.ofNat n) = ((rowIn decompositions n).getD [n]).map Char.ofNat := by
  obtain ⟨valid, no_syllable⟩ := isTabled_iff.mp tabled
  rw [decompose, toNat_ofNat valid, if_neg no_syllable]
  cases rowIn decompositions n with
  | none => rfl
  | some parts => rfl

/-- Jamo have no decomposition. -/
theorem jamo_checked : ∀ k < 256, decomposing.testBit (0x1100 + k) = false := by
  decide +kernel

theorem decompose_jamo {n : Nat} (h : 0x1100 ≤ n ∧ n < 0x1200) :
    decompose (Char.ofNat n) = [Char.ofNat n] := by
  have tabled : isTabled n = true :=
    isTabled_iff.mpr ⟨.inl (by omega), by omega⟩
  have no_row : decomposing.testBit n = false := by
    have checked := jamo_checked (n - 0x1100) (by omega)
    rwa [Nat.add_sub_cancel' h.1] at checked
  rw [decompose_ofNat tabled, rowIn_eq_none no_row]
  rfl

theorem jamo_of_mem_hangulParts {k n : Nat} (h : k < 11172) (part : n ∈ hangulParts k) :
    0x1100 ≤ n ∧ n < 0x1200 := by
  simp only [hangulParts] at part
  split at part <;> simp only [List.mem_cons, List.not_mem_nil, or_false] at part <;> omega

/-- The decomposition of a Hangul syllable. -/
theorem decompose_syllable {k : Nat} (h : k < 11172) :
    decompose (Char.ofNat (0xAC00 + k)) = (hangulParts k).map Char.ofNat := by
  have value : (Char.ofNat (0xAC00 + k)).toNat = 0xAC00 + k := toNat_ofNat (.inl (by omega))
  rw [decompose, value, if_pos (by omega), Nat.add_sub_cancel_left]

/-- **What a character decomposes into decomposes no further.** -/
theorem decompose_of_mem_decompose {c d : Char} (h : d ∈ decompose c) : decompose d = [d] := by
  have unfolded := h
  unfold decompose at unfolded
  split at unfolded
  · next syllable =>
      obtain ⟨n, part, rfl⟩ := List.mem_map.mp unfolded
      exact decompose_jamo (jamo_of_mem_hangulParts (by omega) part)
  · next no_syllable =>
      cases found : rowIn decompositions c.toNat with
      | some parts =>
          rw [found] at unfolded
          obtain ⟨n, part, rfl⟩ := List.mem_map.mp unfolded
          obtain ⟨tabled, no_row⟩ := decompositions_checked _ (mem_of_rowIn found) n part
          rw [decompose_ofNat tabled, rowIn_eq_none no_row]
          rfl
      | none =>
          rw [found] at unfolded
          obtain rfl : d = c := by simpa using unfolded
          rw [decompose, if_neg no_syllable, found]

/-- The parts of a code point are what its character decomposes into. -/
theorem decompose_of_partsOf {n : Nat} {parts : List Nat} (tabled : isTabled n = true)
    (h : partsOf n = some parts) : decompose (Char.ofNat n) = parts.map Char.ofNat := by
  rw [decompose_ofNat tabled]
  cases has_row : decomposing.testBit n with
  | false =>
      rw [partsOf, has_row] at h
      cases h
      rw [rowIn_eq_none has_row]
      rfl
  | true =>
      rw [partsOf, has_row, cond_true] at h
      rw [rowIn_of_find? decompositions_sorted h, Option.getD_some]

/-- A syllable that two code points make decomposes into the parts of the first and the second. -/
theorem decompose_hangulComposite {a b n : Nat} (h : hangulComposite a b = some n) :
    decompose (Char.ofNat n) = decompose (Char.ofNat a) ++ [Char.ofNat b] := by
  unfold hangulComposite at h
  split at h
  · -- a leading consonant and a vowel make an open syllable
    next open_syllable =>
      obtain rfl := Option.some.inj h
      have parts : hangulParts ((a - 0x1100) * 588 + (b - 0x1161) * 28) = [a, b] := by
        unfold hangulParts
        rw [if_pos (by omega)]
        congr 1
        · omega
        · congr 1
          omega
      rw [Nat.add_assoc, decompose_syllable (by omega), parts, decompose_jamo (by omega)]
      rfl
  · split at h
    · -- an open syllable takes a trailing consonant
      next closes =>
        obtain rfl := Option.some.inj h
        obtain ⟨k, rfl⟩ : ∃ k, a = 0xAC00 + k := Nat.exists_eq_add_of_le closes.1
        have parts : hangulParts (k + (b - 0x11A7)) = hangulParts k ++ [b] := by
          unfold hangulParts
          rw [if_neg (by omega), if_pos (by omega)]
          simp only [List.cons_append, List.nil_append, List.cons.injEq, and_true]
          omega
        rw [Nat.add_assoc, decompose_syllable (by omega), decompose_syllable (by omega), parts,
          List.map_append]
        rfl
    · cases h

/-- **What two characters compose to decomposes into the parts of the first and the second.** -/
theorem decompose_of_composite {a b c : Char} (h : composite a b = some c) :
    decompose c = decompose a ++ [b] := by
  unfold composite at h
  obtain ⟨n, found, rfl⟩ := Option.map_eq_some_iff.mp h
  have first : Char.ofNat a.toNat = a := Char.ofNat_toNat a
  have second : Char.ofNat b.toNat = b := Char.ofNat_toNat b
  rcases Option.or_eq_some_iff.mp found with hangul | ⟨-, row⟩
  · rw [decompose_hangulComposite hangul, first, second]
  · obtain ⟨tabled, tabled', rejoined⟩ := compositions_checked _ (mem_of_compositeIn row)
    unfold isRejoined at rejoined
    split at rejoined
    · next front parts of_first of_composite =>
        have split_parts : front ++ [b.toNat] = parts := by simpa using rejoined
        have decomposed := decompose_of_partsOf tabled of_first
        rw [decompose_ofNat tabled', rowIn_of_find? decompositions_sorted of_composite,
          Option.getD_some,
          ← split_parts, List.map_append, ← decomposed, first, List.map_singleton, second]
    · cases rejoined

end Agreement.Unicode
