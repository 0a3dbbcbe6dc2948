/- # Agreement.Proofs.Gender.Seams: words that touch a placeholder

A word that touches a placeholder is a part of a longer one, so the search leaves it out. The
search takes such words off the ends of a text. Here they are said by place: the tokens that are
left are exactly the free ones.
-/
import Agreement.Proofs.Gender.Phrases

namespace Agreement

/-- The token at a place of a text, unless it is a word that touches a placeholder. -/
def Seams.freeToken? (seams : Seams) (tokens : List Token) (i : Nat) : Option Token :=
  (tokenAt? tokens i).filter fun t =>
    !(t.isWord && (seams.before && i == 0 || seams.after && i + 1 == tokens.length))

namespace Seams

variable {seams : Seams} {tokens : List Token} {t : Token} {i : Nat}

theorem freeToken?_eq_some : seams.freeToken? tokens i = some t ↔ tokenAt? tokens i = some t ∧
    ¬ (t.isWord = true ∧
      (seams.before = true ∧ i = 0 ∨ seams.after = true ∧ i + 1 = tokens.length)) := by
  rw [freeToken?, Option.filter_eq_some_iff]
  cases t.isWord <;> cases seams.before <;> cases seams.after <;> simp

/-- A first word that touches a placeholder is taken off, and nothing else. -/
theorem exists_takeFirst (seams : Seams) (tokens : List Token) :
    ∃ first rest, seams.takeFirst tokens = (first, rest) ∧ tokens = first ++ rest ∧
      first.length ≤ 1 ∧ (∀ t ∈ first, seams.before = true ∧ t.isWord = true) ∧
      (first = [] → ∀ t ∈ rest.head?, ¬ (seams.before = true ∧ t.isWord = true)) := by
  cases tokens with
  | nil => exact ⟨[], [], rfl, rfl, by simp⟩
  | cons t rest =>
      by_cases touches : seams.before = true ∧ t.isWord = true
      · exact ⟨[t], rest, by simp [takeFirst, touches], rfl, by simp [touches]⟩
      · exact ⟨[], t :: rest, by simpa [takeFirst] using touches, rfl, by simpa using touches⟩

/-- A last word that touches a placeholder is taken off, and nothing else. -/
theorem exists_takeLast (seams : Seams) (tokens : List Token) :
    ∃ middle last, seams.takeLast tokens = (middle, last) ∧ tokens = middle ++ last ∧
      last.length ≤ 1 ∧ (∀ t ∈ last, seams.after = true ∧ t.isWord = true) ∧
      (last = [] → ∀ t ∈ middle.getLast?, ¬ (seams.after = true ∧ t.isWord = true)) := by
  induction tokens using List.reverseRecOn with
  | nil => exact ⟨[], [], by simp [takeLast], rfl, by simp⟩
  | append_singleton middle t =>
      by_cases touches : seams.after = true ∧ t.isWord = true
      · exact ⟨middle, [t], by simp [takeLast, touches], rfl, by simp [touches]⟩
      · exact ⟨middle ++ [t], [], by simpa [takeLast] using touches, by simp,
          by simpa using touches⟩

/-- Other tokens behind the word that is taken off leave it there, if they start with the same
kind. -/
theorem takeFirst_congr {first rest rest' : List Token}
    (takes : seams.takeFirst (first ++ rest) = (first, rest))
    (same : rest'.map Token.kind = rest.map Token.kind) :
    seams.takeFirst (first ++ rest') = (first, rest') := by
  match first, rest, rest' with
  | [], [], [] => exact takes
  | [], t :: rest, t' :: rest' =>
      have kind_eq : t'.kind = t.kind := (List.cons.inj same).1
      have word_eq : t'.isWord = t.isWord := by rw [Token.isWord, kind_eq, Token.isWord]
      rw [List.nil_append, takeFirst] at takes ⊢
      rw [word_eq]
      split at takes
      · cases takes
      · next free => rw [if_neg free]
  | t :: first, rest, rest' =>
      rw [List.cons_append, takeFirst] at takes ⊢
      split at takes
      · next touches =>
          obtain rfl : first = [] := by simpa using congrArg (fun p => p.1.length) takes
          rw [if_pos touches]
          rfl
      · cases takes

/-- Other tokens before the word that is taken off leave it there, if they end with the same
kind. -/
theorem takeLast_congr {middle middle' last : List Token}
    (takes : seams.takeLast (middle ++ last) = (middle, last))
    (same : middle'.map Token.kind = middle.map Token.kind) :
    seams.takeLast (middle' ++ last) = (middle', last) := by
  have ends (tokens : List Token) : tokens.getLast?.any Token.isWord =
      (tokens.map Token.kind).getLast?.any (· == .word) := by
    rw [List.getLast?_map, Option.any_map]
    rfl
  cases last using List.reverseRecOn with
  | nil =>
      simp only [List.append_nil, takeLast, ends, same] at takes ⊢
      split at takes
      · next touches =>
          -- nothing is left over only where there was nothing
          have none_left : middle.length - (middle.length - 1) = 0 := by
            simpa using congrArg (fun p => p.2.length) takes
          obtain rfl : middle = [] := List.length_eq_zero_iff.mp (by omega)
          simp at touches
      · next free => rw [if_neg free]
  | append_singleton last t =>
      rw [takeLast, ← List.append_assoc, List.getLast?_concat] at takes
      split at takes
      · next touches =>
          rw [List.dropLast_concat] at takes
          obtain rfl : last = [] := by simpa using (Prod.mk.inj takes).1
          rw [takeLast, List.nil_append, List.getLast?_concat, if_pos touches,
            List.dropLast_concat]
          simp
      · simp at takes

/-- What is between the words that are taken off is a part of the tokens. -/
theorem isInfix_middle {first middle last : List Token}
    (split : tokens = first ++ (middle ++ last)) : middle <:+: tokens :=
  ⟨first, last, by rw [split, List.append_assoc]⟩

/-- The tokens between the words that are taken off are the free ones. -/
theorem exists_middle (seams : Seams) (tokens : List Token) :
    ∃ first middle last, seams.takeFirst tokens = (first, middle ++ last) ∧
      seams.takeLast (middle ++ last) = (middle, last) ∧ tokens = first ++ (middle ++ last) ∧
      (∀ i < first.length, seams.freeToken? tokens i = none) ∧
      ∀ j, seams.freeToken? tokens (first.length + j) = tokenAt? middle j := by
  obtain ⟨first, rest, takes, rfl, short, touching, free⟩ := seams.exists_takeFirst tokens
  obtain ⟨middle, last, takes', rfl, short', touching', free'⟩ := seams.exists_takeLast rest
  refine ⟨first, middle, last, takes, takes', rfl, ?_, ?_⟩
  · intro i inside
    apply Option.eq_none_iff_forall_ne_some.mpr
    intro t some_t
    obtain ⟨at_place, unbound⟩ := freeToken?_eq_some.mp some_t
    rw [tokenAt?, List.getElem?_append_left inside] at at_place
    obtain ⟨before, word⟩ := touching t (List.mem_of_getElem? at_place)
    exact unbound ⟨word, .inl ⟨before, by omega⟩⟩
  · intro j
    apply Option.ext
    intro t
    rw [freeToken?_eq_some, tokenAt?, tokenAt?, List.getElem?_append_right (Nat.le_add_right _ _),
      Nat.add_sub_cancel_left]
    constructor
    · rintro ⟨at_place, unbound⟩
      -- behind the middle there is at most the word that was taken off, which touches
      rcases Nat.lt_or_ge j middle.length with inside | behind
      · rwa [List.getElem?_append_left inside] at at_place
      · rw [List.getElem?_append_right behind] at at_place
        obtain ⟨after, word⟩ := touching' t (List.mem_of_getElem? at_place)
        have within := (List.getElem?_eq_some_iff.mp at_place).1
        refine absurd ⟨word, .inr ⟨after, ?_⟩⟩ unbound
        rw [List.length_append, List.length_append]
        omega
    · intro at_place
      have within := (List.getElem?_eq_some_iff.mp at_place).1
      refine ⟨by rw [List.getElem?_append_left within, at_place], ?_⟩
      -- a word of the middle at either end would have been taken off
      rintro ⟨word, ⟨before, start⟩ | ⟨after, stop⟩⟩
      · obtain rfl : first = [] := List.length_eq_zero_iff.mp (by omega)
        obtain rfl : j = 0 := by simpa using start
        refine free rfl t ?_ ⟨before, word⟩
        rw [List.head?_append, List.head?_eq_getElem?, at_place]
        rfl
      · rw [List.length_append, List.length_append] at stop
        obtain rfl : last = [] := List.length_eq_zero_iff.mp (by omega)
        rw [List.length_nil] at stop
        obtain rfl : j = middle.length - 1 := by omega
        refine free' rfl t ?_ ⟨after, word⟩
        rw [List.getLast?_eq_getElem?, at_place]
        rfl

end Seams

/-- The words that touch placeholders are kept, and what is between them is searched. -/
theorem Lexicon.pieces_eq (lex : Lexicon) {seams : Seams} {source : List Char}
    {first middle last : List Token}
    (takes_first : seams.takeFirst (Token.scan source) = (first, middle ++ last))
    (takes_last : seams.takeLast (middle ++ last) = (middle, last)) :
    lex.pieces seams source = first.map .kept ++
      lex.piecesFrom (max 1 lex.maxWords) 0 middle ++ last.map .kept := by
  rw [pieces, takes_first]
  dsimp only
  rw [takes_last]

end Agreement
