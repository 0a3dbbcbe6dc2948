/- # Agreement.Proofs.Review.Enclosed: text between marks

Three scans look for text between an opening and a closing mark without a bracket of that kind in
it. No such text reaches into another one, since the brackets that open the other one would stand in
it. So a scan finds every one that stands in a text, and nothing else.

A template has nothing that looks like a placeholder exactly if no text outside its placeholders has
two braces that open, or a name between double brackets, or one between single braces.
-/
import Agreement.Proofs.Text.Matches
import Agreement.Proofs.Text.Occurrences
import Agreement.Review.Bypass

namespace Agreement

namespace Bypass

open Text

/-! ## Marks -/

/-- A text without brackets. -/
def IsFlat (isBracket : Char → Bool) (body : List Char) : Prop := ∀ c ∈ body, isBracket c = false

instance (isBracket : Char → Bool) (body : List Char) : Decidable (IsFlat isBracket body) :=
  inferInstanceAs (Decidable (∀ c ∈ body, isBracket c = false))

/-- Two marks: one opens with a bracket, once or several times over, and the other closes with
another one. -/
structure IsPair (opening closing : List Char) (isBracket : Char → Bool) : Prop where
  opens : ∃ c k, opening = List.replicate (k + 1) c ∧ isBracket c = true ∧ c ∉ closing
  closes : ∃ d rest, closing = d :: rest ∧ isBracket d = true

theorem isPair_doubleBraces : IsPair opening ['\x7d', '\x7d'] isBrace :=
  ⟨⟨'\x7b', 1, rfl, by decide, by decide⟩, '\x7d', ['\x7d'], rfl, by decide⟩

theorem isPair_braces : IsPair ['\x7b'] ['\x7d'] isBrace :=
  ⟨⟨'\x7b', 0, rfl, by decide, by decide⟩, '\x7d', [], rfl, by decide⟩

theorem isPair_doubleBrackets : IsPair ['[', '['] [']', ']'] isSquareBracket :=
  ⟨⟨'[', 1, rfl, by decide, by decide⟩, ']', [']'], rfl, by decide⟩

section Enclosed

variable {opening closing text : List Char} {isBracket : Char → Bool}

/-- The pattern takes the marks at the start of a text, and what is between them. -/
theorem enclosed_eq_some_iff (pair : IsPair opening closing isBracket) {n : Nat} :
    enclosed opening closing isBracket text = some n ↔
      ∃ body after, text = opening ++ (body ++ closing) ++ after ∧ IsFlat isBracket body ∧
        n = (opening ++ (body ++ closing)).length := by
  obtain ⟨d, more, rfl, bracket⟩ := pair.closes
  unfold enclosed
  constructor
  · intro h
    split at h
    · cases h
    · next rest start =>
        split at h
        · next stop =>
            obtain ⟨after, ends⟩ := List.isPrefixOf_iff_prefix.mp stop
            refine ⟨rest.takeWhile (!isBracket ·), after, ?_, ?_, ?_⟩
            · rw [List.append_assoc, List.append_assoc, ends, List.takeWhile_append_dropWhile]
              exact (List.isPrefixOf?_eq_some_iff_append_eq.mp start).symm
            · intro c hc
              simpa using List.mem_takeWhile_imp hc
            · rw [← Option.some.inj h]
              simp only [List.length_append, Nat.add_assoc]
        · cases h
  · rintro ⟨body, after, rfl, flat, rfl⟩
    have start : opening.isPrefixOf? (opening ++ (body ++ d :: more) ++ after) =
        some (body ++ (d :: (more ++ after))) := by
      rw [List.isPrefixOf?_eq_some_iff_append_eq]
      simp
    have inside : ∀ c ∈ body, (!isBracket c) = true := by
      intro c hc
      rw [flat c hc]
      rfl
    have past : (d :: (more ++ after)).dropWhile (!isBracket ·) = d :: (more ++ after) :=
      List.dropWhile_cons_of_neg (by simp [bracket])
    have none_taken : (d :: (more ++ after)).takeWhile (!isBracket ·) = [] :=
      List.takeWhile_cons_of_neg (by simp [bracket])
    have stop : (d :: more).isPrefixOf (d :: (more ++ after)) = true :=
      List.isPrefixOf_iff_prefix.mpr ⟨after, rfl⟩
    rw [start]
    dsimp only
    rw [List.dropWhile_append_of_pos inside, List.takeWhile_append_of_pos inside, past, none_taken,
      if_pos stop]
    simp [Nat.add_assoc]

/-- A match that reaches a bracket of its opening mark has it in that mark. -/
theorem length_lt_of_reaches (pair : IsPair opening closing isBracket) {c : Char}
    (opener : c ∈ opening) {u tail : List Char} {n : Nat}
    (found : enclosed opening closing isBracket (u ++ c :: tail) = some n)
    (reaches : u.length < n) : u.length < opening.length := by
  obtain ⟨c', k, eq, bracket, other⟩ := pair.opens
  obtain rfl : c = c' := by
    rw [eq] at opener
    exact List.eq_of_mem_replicate opener
  obtain ⟨body, after, split, flat, rfl⟩ := (enclosed_eq_some_iff pair).mp found
  by_contra behind
  -- the bracket would stand between the marks or in the closing one
  have there : (opening ++ (body ++ closing))[u.length]? = some c := by
    rw [← List.getElem?_append_left reaches, ← split,
      List.getElem?_append_right (Nat.le_refl _), Nat.sub_self]
    rfl
  rw [List.getElem?_append_right (Nat.le_of_not_lt behind)] at there
  rcases List.mem_append.mp (List.mem_of_getElem? there) with inside | closed
  · rw [flat c inside] at bracket
    cases bracket
  · exact other closed

/-- No match reaches into a place where the opening mark stands. -/
theorem stopsBefore_opening (pair : IsPair opening closing isBracket) (before tail : List Char) :
    StopsBefore (enclosed opening closing isBracket) before (opening ++ tail) := by
  intro u _ nonempty n found
  obtain ⟨c, k, eq, -, -⟩ := pair.opens
  obtain ⟨d, more, closing_eq, -⟩ := pair.closes
  have positive := List.length_pos_iff.mpr nonempty
  by_contra reaches
  have long : opening.length < n := by
    obtain ⟨body, after, -, -, rfl⟩ := (enclosed_eq_some_iff pair).mp found
    simp only [List.length_append, closing_eq, List.length_cons]
    omega
  -- both marks cover the place behind the first one, where no bracket of either opens
  obtain ⟨i, j, size, past⟩ : ∃ i j, k + 1 = i + (j + 1) ∧ u.length + i = max u.length (k + 1) :=
    ⟨k + 1 - u.length, k - (k + 1 - u.length), by omega, by omega⟩
  have split : u ++ (opening ++ tail) =
      u ++ List.replicate i c ++ c :: (List.replicate j c ++ tail) := by
    rw [eq, size, ← List.replicate_append_replicate, List.replicate_succ]
    simp
  have length_eq : opening.length = k + 1 := by rw [eq, List.length_replicate]
  rw [split] at found
  have inside := length_lt_of_reaches pair (by rw [eq]; simp) found (by
    rw [List.length_append, List.length_replicate]
    omega)
  rw [List.length_append, List.length_replicate] at inside
  omega

/-- **A scan finds what stands between marks in a text, and nothing else.** -/
theorem mem_matchesFrom_enclosed_iff (pair : IsPair opening closing isBracket) {m : List Char} :
    m ∈ matchesFrom (enclosed opening closing isBracket) 0 text ↔
      ∃ body, m = opening ++ (body ++ closing) ∧ IsFlat isBracket body ∧ m <:+: text := by
  constructor
  · intro h
    have inside := infix_of_mem_matchesFrom h
    obtain ⟨rest, n, -, found, rfl⟩ := exists_of_mem_matchesFrom h
    obtain ⟨body, after, rfl, flat, rfl⟩ := (enclosed_eq_some_iff pair).mp found
    rw [List.take_left] at inside ⊢
    exact ⟨body, rfl, flat, inside⟩
  · rintro ⟨body, rfl, flat, before, after, rfl⟩
    have found : enclosed opening closing isBracket (opening ++ (body ++ closing) ++ after) =
        some (opening ++ (body ++ closing)).length :=
      (enclosed_eq_some_iff pair).mpr ⟨body, after, rfl, flat, rfl⟩
    have stops := stopsBefore_opening pair before (body ++ closing ++ after)
    rw [← List.append_assoc] at stops
    have nonempty : opening ++ (body ++ closing) ++ after ≠ [] := by
      obtain ⟨d, more, rfl, -⟩ := pair.closes
      simp
    have member := stops.mem_matchesFrom found nonempty
    rwa [List.take_left, ← List.append_assoc] at member

/-- A scan finds nothing exactly if nothing stands between marks. -/
theorem matchesFrom_enclosed_eq_nil_iff (pair : IsPair opening closing isBracket) :
    matchesFrom (enclosed opening closing isBracket) 0 text = [] ↔
      ∀ body, IsFlat isBracket body → ¬ opening ++ (body ++ closing) <:+: text := by
  rw [List.eq_nil_iff_forall_not_mem]
  simp only [mem_matchesFrom_enclosed_iff pair]
  constructor
  · intro none_found body flat inside
    exact none_found _ ⟨body, rfl, flat, inside⟩
  · rintro none_stands _ ⟨body, rfl, flat, inside⟩
    exact none_stands body flat inside

end Enclosed

/-! ## Texts without blanks -/

theorem isFlat_or_iff {a b : Char} {body : List Char} :
    IsFlat (fun c => c == a || c == b) body ↔ a ∉ body ∧ b ∉ body := by
  simp only [IsFlat, Bool.or_eq_false_iff, beq_eq_false_iff_ne, forall_and]
  constructor
  · rintro ⟨first, second⟩
    exact ⟨fun h => first _ h rfl, fun h => second _ h rfl⟩
  · rintro ⟨first, second⟩
    exact ⟨fun c hc same => first (same ▸ hc), fun c hc same => second (same ▸ hc)⟩

theorem isFlat_isBrace_iff {body : List Char} :
    IsFlat isBrace body ↔ '\x7b' ∉ body ∧ '\x7d' ∉ body :=
  isFlat_or_iff

theorem isFlat_isSquareBracket_iff {body : List Char} :
    IsFlat isSquareBracket body ↔ '[' ∉ body ∧ ']' ∉ body :=
  isFlat_or_iff

/-- A text has no blanks exactly if no two braces open in it, and nothing stands between double
brackets or single braces. -/
theorem blanksIn_eq_nil_iff {text : List Char} :
    blanksIn text = [] ↔ ¬ opening <:+: text ∧
      (∀ name, IsFlat isSquareBracket name → ¬ ['[', '['] ++ (name ++ [']', ']']) <:+: text) ∧
      ∀ name, IsFlat isBrace name → ¬ ['\x7b'] ++ (name ++ ['\x7d']) <:+: text := by
  have brackets := @matchesFrom_enclosed_eq_nil_iff _ _ text _ isPair_doubleBrackets
  have braces := @matchesFrom_enclosed_eq_nil_iff _ _ text _ isPair_braces
  rw [← brackets, ← braces, blanksIn]
  constructor
  · intro nothing
    obtain ⟨before, last⟩ := List.append_eq_nil_iff.mp nothing
    obtain ⟨no_doubles, no_brackets⟩ := List.append_eq_nil_iff.mp before
    -- so nothing was taken out, and the other scans went over the text itself
    rw [replaceFrom_eq_self no_doubles] at no_brackets last
    cases starts : startingAt? opening text with
    | some tail =>
        rw [starts] at last
        cases last
    | none =>
        rw [starts] at last
        refine ⟨?_, no_brackets, last⟩
        rw [← isSome_startingAt?_iff, starts]
        exact Bool.false_ne_true
  · rintro ⟨unopened, no_brackets, no_braces⟩
    have no_doubles : matchesFrom inDoubleBraces 0 text = [] := by
      refine (matchesFrom_enclosed_eq_nil_iff isPair_doubleBraces).mpr fun body _ inside => ?_
      exact unopened ((List.prefix_append opening _).isInfix.trans inside)
    have starts : startingAt? opening text = none := by
      rw [← Option.not_isSome_iff_eq_none, isSome_startingAt?_iff]
      exact unopened
    rw [no_doubles, replaceFrom_eq_self no_doubles, starts]
    dsimp only
    rw [inDoubleBrackets, no_brackets, inBraces, no_braces]
    rfl

end Bypass

namespace Template

open Bypass

/-- **A template has nothing that looks like a placeholder exactly if its texts have none.** No two
braces open in them, no name without square brackets stands between two that open and two that
close, and none without braces between one that opens and one that closes. -/
theorem strayBlanks_eq_nil_iff (template : String) :
    strayBlanks template = [] ↔ ∀ text ∈ texts template.toList,
      ¬ ['\x7b', '\x7b'] <:+: text ∧
      (∀ name, '[' ∉ name → ']' ∉ name → ¬ ['[', '['] ++ (name ++ [']', ']']) <:+: text) ∧
      ∀ name, '\x7b' ∉ name → '\x7d' ∉ name → ¬ ['\x7b'] ++ (name ++ ['\x7d']) <:+: text := by
  have flat (text : List Char) := @blanksIn_eq_nil_iff text
  simp only [isFlat_isBrace_iff, isFlat_isSquareBracket_iff, and_imp] at flat
  rw [strayBlanks, findOutside, List.flatMap_eq_nil_iff]
  refine forall₂_congr fun text _ => ?_
  rw [List.map_eq_nil_iff]
  exact flat text

end Template

end Agreement
