/- # Agreement.Proofs.Gender.Phrases: phrases at a place and what a vocabulary has for them

A phrase is a run of words with nothing but blank space between them. This module says so of the
tokens around a place, shows that the search at one place goes through exactly the phrases there,
and that no phrase which a vocabulary has is longer than the search goes.
-/
import Agreement.Gender.Matching
import Agreement.Proofs.Gender.Keys
import Agreement.Proofs.Gender.Tokens

namespace Agreement

open Unicode Text

/-! ## What a vocabulary has for a key -/

/-- The vocabulary has a key: an entry of the key itself, or else, behind a leading article, one
that takes the article. -/
inductive Lexicon.Has (lex : Lexicon) : List Char → Hit → Prop
  | direct {key : List Char} {e : Entry} :
      lex.entries.get? (String.ofList key) = some e → lex.Has key ⟨e, false⟩
  | article {key : List Char} {e : Entry} :
      lex.entries.get? (String.ofList (article :: key)) = none →
      lex.entries.get? (String.ofList key) = some e → e.takesArticle = true →
      lex.Has (article :: key) ⟨e, true⟩

namespace Lexicon

variable {lex : Lexicon} {key : List Char} {hit : Hit}

/-- A key of a vocabulary starts with a visible character. -/
theorem WellKeyed.key_eq_cons (h : lex.WellKeyed) {e : Entry}
    (found : lex.entries.get? (String.ofList key) = some e) :
    ∃ c rest, key = c :: rest ∧ isSpace c = false := by
  obtain ⟨⟨word, visible, eq⟩, -⟩ := h _ e found
  have key_eq : key = normalizeKey word.toList := by
    rw [← toList_key, ← eq, String.toList_ofList]
  rw [key_eq]
  exact normalizeKey_eq_cons (words_normalize_ne_nil visible)

theorem has_of_find? (found : lex.find? key = some hit) : lex.Has key hit := by
  unfold Lexicon.find? at found
  cases direct : lex.entries.get? (String.ofList key) with
  | some e =>
      rw [direct] at found
      cases found
      exact .direct direct
  | none =>
      rw [direct] at found
      cases key with
      | nil => cases found
      | cons c stripped =>
          simp only at found
          split at found
          · next starts =>
              obtain ⟨rfl, -, -⟩ := starts
              split at found
              · next e entry =>
                  split at found
                  · next takes =>
                      cases found
                      exact .article direct entry takes
                  · cases found
              · cases found
          · cases found

theorem find?_eq_some_iff (h : lex.WellKeyed) : lex.find? key = some hit ↔ lex.Has key hit := by
  refine ⟨has_of_find?, ?_⟩
  intro has
  unfold Lexicon.find?
  cases has with
  | direct found => rw [found]
  | @article stripped e none_direct entry takes =>
      -- the rest of the key is a key itself, so it starts with a word
      obtain ⟨c, rest, rfl, visible⟩ := h.key_eq_cons entry
      have no_space : c ≠ ' ' := by
        rintro rfl
        exact absurd visible (by decide)
      rw [none_direct]
      dsimp only
      rw [if_pos ⟨rfl, List.cons_ne_nil c rest, by simpa using no_space⟩, entry]
      exact if_pos takes

/-- What a vocabulary has, has no more words than it says. -/
theorem Has.count_lt (h : lex.WellKeyed) (has : lex.Has key hit) :
    key.count ' ' + 1 ≤ lex.maxWords := by
  cases has with
  | direct found =>
      have bound := (h _ _ found).2
      rwa [wordCount, String.toList_ofList] at bound
  | @article stripped e _ found _ =>
      have bound := (h _ _ found).2
      rw [wordCount, String.toList_ofList] at bound
      rw [List.count_cons_of_ne (by decide)]
      exact bound

theorem Has.unique {hit' : Hit} (h : lex.Has key hit) (h' : lex.Has key hit') : hit = hit' := by
  cases h with
  | direct found =>
      cases h' with
      | direct found' => rw [found] at found'; cases found'; rfl
      | article none' => rw [found] at none'; cases none'
  | article none_direct found =>
      cases h' with
      | direct found' => rw [none_direct] at found'; cases found'
      | article _ found' => rw [found] at found'; cases found'; rfl

end Lexicon

/-! ## Phrases around a place -/

/-- In a view of tokens by place, a phrase of `n` words starts at `i`: there is a word at every
other place, and nothing but blank space between two of them. -/
structure IsPhrase (view : Nat → Option Token) (i n : Nat) : Prop where
  positive : 0 < n
  word : ∀ j < n, ∃ t, view (i + 2 * j) = some t ∧ t.isWord = true
  space : ∀ j, j + 1 < n → ∃ t, view (i + 2 * j + 1) = some t ∧ t.isSpace = true

/-- The words of a phrase. -/
def phraseWords (view : Nat → Option Token) (i n : Nat) : List (List Char) :=
  (List.range n).map fun j => ((view (i + 2 * j)).map Token.text).getD []

/-- The key of a phrase: its words joined by single spaces, in normal form. -/
def phraseKey (view : Nat → Option Token) (i n : Nat) : List Char :=
  normalizeKey ([' '].intercalate (phraseWords view i n))

section View

variable {view : Nat → Option Token} {i n : Nat}

theorem length_phraseWords (view : Nat → Option Token) (i n : Nat) :
    (phraseWords view i n).length = n := by
  rw [phraseWords, List.length_map, List.length_range]

theorem phraseWords_succ (view : Nat → Option Token) (i n : Nat) :
    phraseWords view i (n + 1) =
      ((view i).map Token.text).getD [] :: phraseWords view (i + 2) n := by
  rw [phraseWords, List.range_succ_eq_map, List.map_cons, List.map_map, phraseWords]
  congr 1
  apply List.map_congr_left
  intro j _
  rw [Function.comp_apply, Nat.mul_succ, Nat.add_right_comm, Nat.add_assoc]

theorem isPhrase_one : IsPhrase view i 1 ↔ ∃ t, view i = some t ∧ t.isWord = true := by
  constructor
  · intro h
    exact h.word 0 Nat.one_pos
  · intro h
    refine ⟨Nat.one_pos, ?_, ?_⟩
    · intro j hj
      rwa [show i + 2 * j = i by omega]
    · intro j hj
      omega

/-- A longer phrase is a word, blank space and a phrase. -/
theorem isPhrase_succ (positive : 0 < n) : IsPhrase view i (n + 1) ↔
    (∃ t, view i = some t ∧ t.isWord = true) ∧
      (∃ t, view (i + 1) = some t ∧ t.isSpace = true) ∧ IsPhrase view (i + 2) n := by
  constructor
  · intro h
    refine ⟨h.word 0 (by omega), h.space 0 (by omega), positive, ?_, ?_⟩
    · intro j hj
      rw [show i + 2 + 2 * j = i + 2 * (j + 1) by omega]
      exact h.word (j + 1) (by omega)
    · intro j hj
      rw [show i + 2 + 2 * j + 1 = i + 2 * (j + 1) + 1 by omega]
      exact h.space (j + 1) (by omega)
  · rintro ⟨word, space, h⟩
    refine ⟨by omega, ?_, ?_⟩
    · intro j hj
      cases j with
      | zero => exact word
      | succ j =>
          rw [show i + 2 * (j + 1) = i + 2 + 2 * j by omega]
          exact h.word j (by omega)
    · intro j hj
      cases j with
      | zero => exact space
      | succ j =>
          rw [show i + 2 * (j + 1) + 1 = i + 2 + 2 * j + 1 by omega]
          exact h.space j (by omega)

/-- A view from another place sees the same phrases. -/
theorem isPhrase_shift {view' : Nat → Option Token} {k : Nat}
    (same : ∀ j, view' (k + j) = view j) : IsPhrase view' (k + i) n ↔ IsPhrase view i n := by
  constructor
  · intro h
    refine ⟨h.positive, ?_, ?_⟩
    · intro j hj
      rw [← same, ← Nat.add_assoc]
      exact h.word j hj
    · intro j hj
      rw [← same, ← Nat.add_assoc, ← Nat.add_assoc]
      exact h.space j hj
  · intro h
    refine ⟨h.positive, ?_, ?_⟩
    · intro j hj
      rw [Nat.add_assoc, same]
      exact h.word j hj
    · intro j hj
      rw [Nat.add_assoc, Nat.add_assoc, same, ← Nat.add_assoc]
      exact h.space j hj

theorem phraseWords_shift {view' : Nat → Option Token} {k : Nat}
    (same : ∀ j, view' (k + j) = view j) :
    phraseWords view' (k + i) n = phraseWords view i n := by
  simp only [phraseWords, Nat.add_assoc, same]

theorem phraseKey_shift {view' : Nat → Option Token} {k : Nat}
    (same : ∀ j, view' (k + j) = view j) : phraseKey view' (k + i) n = phraseKey view i n := by
  rw [phraseKey, phraseWords_shift same, phraseKey]

/-- A view that has the same tokens at the places of a phrase has the phrase. -/
theorem IsPhrase.congr {view' : Nat → Option Token}
    (same : ∀ j < 2 * n - 1, view' (i + j) = view (i + j)) (h : IsPhrase view i n) :
    IsPhrase view' i n := by
  refine ⟨h.positive, ?_, ?_⟩
  · intro j hj
    rw [same (2 * j) (by omega)]
    exact h.word j hj
  · intro j hj
    rw [Nat.add_assoc, same (2 * j + 1) (by omega)]
    exact h.space j hj

/-- There is a token at every place of a phrase. -/
theorem IsPhrase.exists_token {j : Nat} (h : IsPhrase view i n) (inside : j < 2 * n - 1) :
    ∃ t, view (i + j) = some t := by
  obtain ⟨half, rfl | rfl⟩ : ∃ half, j = 2 * half ∨ j = 2 * half + 1 := ⟨j / 2, by omega⟩
  · obtain ⟨t, at_place, -⟩ := h.word half (by omega)
    exact ⟨t, at_place⟩
  · obtain ⟨t, at_place, -⟩ := h.space half (by omega)
    exact ⟨t, at_place⟩

theorem phraseWords_congr {view' : Nat → Option Token}
    (same : ∀ j < 2 * n - 1, view' (i + j) = view (i + j)) :
    phraseWords view' i n = phraseWords view i n := by
  apply List.map_congr_left
  intro j hj
  have inside := List.mem_range.mp hj
  rw [same (2 * j) (by omega)]

/-- No phrase that a vocabulary has is longer than its longest key. -/
theorem IsPhrase.le_maxWords {lex : Lexicon} {hit : Hit} (well : lex.WellKeyed)
    (visible : ∀ j t, view j = some t → t.isWord = true → IsVisible t.text)
    (h : IsPhrase view i n) (has : lex.Has (phraseKey view i n) hit) : n ≤ lex.maxWords := by
  -- a normal form keeps the words apart, so the key has one space less than the phrase has words
  have all_visible : ∀ w ∈ phraseWords view i n, IsVisible w := by
    intro w hw
    obtain ⟨j, hj, rfl⟩ := List.mem_map.mp hw
    obtain ⟨t, at_place, word⟩ := h.word j (List.mem_range.mp hj)
    rw [at_place]
    exact visible _ t at_place word
  have many := length_le_length_words_normalize all_visible
  rw [length_phraseWords] at many
  have some_word : words (normalize ([' '].intercalate (phraseWords view i n))) ≠ [] := by
    intro empty
    rw [empty] at many
    exact absurd h.positive (by simpa using many)
  calc n ≤ (words (normalize ([' '].intercalate (phraseWords view i n)))).length := many
    _ = (phraseKey view i n).count ' ' + 1 := (Lexicon.count_normalizeKey some_word).symm
    _ ≤ lex.maxWords := has.count_lt well

end View

/-! ## The search at one place -/

/-- The tokens of a list by place. -/
def tokenAt? (tokens : List Token) (i : Nat) : Option Token := tokens[i]?

@[simp] theorem tokenAt?_drop (tokens : List Token) (i j : Nat) :
    tokenAt? (tokens.drop i) j = tokenAt? tokens (i + j) := List.getElem?_drop

theorem tokenAt?_two_add (word space : Token) (rest : List Token) (j : Nat) :
    tokenAt? (word :: space :: rest) (2 + j) = tokenAt? rest j := by
  rw [Nat.add_comm]
  rfl

/-- A list that starts with a phrase starts with a word. -/
theorem IsPhrase.exists_cons {tokens : List Token} {n : Nat}
    (h : IsPhrase (tokenAt? tokens) 0 n) :
    ∃ word rest, tokens = word :: rest ∧ word.isWord = true := by
  obtain ⟨word, at_start, is_word⟩ := h.word 0 h.positive
  cases tokens with
  | nil => cases at_start
  | cons first rest =>
      cases at_start
      exact ⟨word, rest, rfl, is_word⟩

/-- A longer phrase at the start of a list is a word, blank space and a phrase at the start of the
rest. -/
theorem isPhrase_cons {word : Token} {rest : List Token} {n : Nat} (positive : 0 < n) :
    IsPhrase (tokenAt? (word :: rest)) 0 (n + 1) ↔ word.isWord = true ∧
      ∃ space rest', rest = space :: rest' ∧ space.isSpace = true ∧
        IsPhrase (tokenAt? rest') 0 n := by
  rw [isPhrase_succ positive]
  constructor
  · rintro ⟨⟨_, at_start, is_word⟩, ⟨space, next, is_space⟩, phrase⟩
    cases at_start
    obtain ⟨rest', rfl⟩ : ∃ rest', rest = space :: rest' := by
      cases rest with
      | nil => cases next
      | cons _ rest' => cases next; exact ⟨rest', rfl⟩
    have later := tokenAt?_two_add word space rest'
    exact ⟨is_word, space, rest', rfl, is_space, (isPhrase_shift later).mp phrase⟩
  · rintro ⟨is_word, space, rest', rfl, is_space, phrase⟩
    have later := tokenAt?_two_add word space rest'
    exact ⟨⟨word, rfl, is_word⟩, ⟨space, rfl, is_space⟩, (isPhrase_shift later).mpr phrase⟩

/-- The phrase of `n` words at the start of a list of tokens. -/
def phraseAt (tokens : List Token) (n : Nat) : Phrase :=
  ⟨phraseWords (tokenAt? tokens) 0 n, 2 * n - 1⟩

theorem phraseWords_cons_cons (word space : Token) (rest : List Token) (n : Nat) :
    phraseWords (tokenAt? (word :: space :: rest)) 0 (n + 1) =
      word.text :: phraseWords (tokenAt? rest) 0 n := by
  rw [phraseWords_succ]
  exact congrArg _ (phraseWords_shift (i := 0) (tokenAt?_two_add word space rest))

theorem phraseAt_cons_cons (word space : Token) (rest : List Token) {n : Nat} (positive : 0 < n) :
    phraseAt (word :: space :: rest) (n + 1) =
      ⟨word.text :: (phraseAt rest n).words, (phraseAt rest n).length + 2⟩ := by
  have length_eq : 2 * (n + 1) - 1 = 2 * n - 1 + 2 := by omega
  rw [phraseAt, phraseWords_cons_cons, length_eq]
  rfl

/-- A phrase that the search meets is one word, or a word and blank space before another one. -/
theorem mem_phrases_cons {limit : Nat} {word : Token} {rest : List Token} {p : Phrase} :
    p ∈ phrases (limit + 1) (word :: rest) ↔ word.isWord = true ∧ (p = ⟨[word.text], 1⟩ ∨
      ∃ space rest', rest = space :: rest' ∧ space.isSpace = true ∧
        ∃ q ∈ phrases limit rest', p = ⟨word.text :: q.words, q.length + 2⟩) := by
  cases rest with
  | nil => simp [phrases]
  | cons space rest' =>
      have met : (∃ q ∈ phrases limit rest', ⟨word.text :: q.words, q.length + 2⟩ = p) ↔
          ∃ q ∈ phrases limit rest', p = ⟨word.text :: q.words, q.length + 2⟩ :=
        exists_congr fun q => and_congr_right fun _ => eq_comm
      cases is_word : word.isWord <;> cases is_space : space.isSpace <;>
        simp [phrases, is_word, is_space, met]

/-- The search goes through the phrases at the start of a list of tokens, up to its limit. -/
theorem mem_phrases {limit : Nat} {tokens : List Token} {p : Phrase} :
    p ∈ phrases limit tokens ↔
      ∃ n ≤ limit, IsPhrase (tokenAt? tokens) 0 n ∧ p = phraseAt tokens n := by
  -- behind the first word and blank space the search is one with a lower limit
  induction limit generalizing tokens p with
  | zero =>
      constructor
      · intro h
        simp [phrases] at h
      · rintro ⟨n, bound, phrase, -⟩
        exact absurd phrase.positive (by omega)
  | succ limit ih =>
      cases tokens with
      | nil =>
          constructor
          · intro h
            simp [phrases] at h
          · rintro ⟨n, -, phrase, -⟩
            obtain ⟨t, at_start, -⟩ := phrase.word 0 phrase.positive
            cases at_start
      | cons word rest =>
          rw [mem_phrases_cons]
          constructor
          · rintro ⟨is_word, rfl | ⟨space, rest', rfl, is_space, q, member, rfl⟩⟩
            · exact ⟨1, by omega, isPhrase_one.mpr ⟨word, rfl, is_word⟩, rfl⟩
            · obtain ⟨n, bound, phrase, rfl⟩ := ih.mp member
              have positive := phrase.positive
              refine ⟨n + 1, by omega, (isPhrase_cons positive).mpr ?_, ?_⟩
              · exact ⟨is_word, space, rest', rfl, is_space, phrase⟩
              · exact (phraseAt_cons_cons word space rest' positive).symm
          · rintro ⟨n, bound, phrase, rfl⟩
            match n with
            | 0 => exact absurd phrase.positive (by omega)
            | 1 =>
                obtain ⟨_, at_start, is_word⟩ := isPhrase_one.mp phrase
                cases at_start
                exact ⟨is_word, .inl rfl⟩
            | n + 2 =>
                obtain ⟨is_word, space, rest', rfl, is_space, phrase⟩ :=
                  (isPhrase_cons (Nat.succ_pos n)).mp phrase
                have shorter := ih.mpr ⟨n + 1, by omega, phrase, rfl⟩
                refine ⟨is_word, .inr ⟨space, rest', rfl, is_space, _, shorter, ?_⟩⟩
                exact phraseAt_cons_cons word space rest' (Nat.succ_pos n)

/-- The search meets shorter phrases first. -/
theorem pairwise_phrases (limit : Nat) (tokens : List Token) :
    (phrases limit tokens).Pairwise (·.length < ·.length) := by
  induction limit generalizing tokens with
  | zero => simp [phrases]
  | succ limit ih =>
      match tokens with
      | [] => simp [phrases]
      | [word] => cases is_word : word.isWord <;> simp [phrases, is_word]
      | word :: space :: rest =>
          cases is_word : word.isWord with
          | false => simp [phrases, is_word]
          | true =>
              cases is_space : space.isSpace with
              | false => simp [phrases, is_word, is_space]
              | true =>
                  simp only [phrases, is_word, is_space, if_true, List.pairwise_cons,
                    List.pairwise_map]
                  constructor
                  · intro p hp
                    obtain ⟨q, -, rfl⟩ := List.mem_map.mp hp
                    dsimp only
                    omega
                  · apply (ih rest).imp
                    intro p q shorter
                    omega

namespace Lexicon

variable {lex : Lexicon} {limit : Nat} {tokens : List Token}

/-- What the search finds at a place is a phrase that the vocabulary has, and no longer one is. -/
theorem longest_eq_some {hit : Hit} {m : Nat} (h : lex.longest limit tokens = some (hit, m)) :
    ∃ n ≤ limit, m = 2 * n - 1 ∧ IsPhrase (tokenAt? tokens) 0 n ∧
      lex.find? (phraseKey (tokenAt? tokens) 0 n) = some hit ∧
      ∀ k ≤ limit, n < k → IsPhrase (tokenAt? tokens) 0 k →
        lex.find? (phraseKey (tokenAt? tokens) 0 k) = none := by
  -- longer phrases come first, so the ones before `p` are those that were missed
  obtain ⟨longer, p, shorter, split, found, missed⟩ := List.findSome?_eq_some_iff.mp h
  have member : p ∈ phrases limit tokens := by
    rw [← List.mem_reverse, split]
    exact List.mem_append_right _ List.mem_cons_self
  obtain ⟨n, bound, phrase, rfl⟩ := mem_phrases.mp member
  obtain ⟨hit', key, same⟩ := Option.map_eq_some_iff.mp found
  cases same
  refine ⟨n, bound, rfl, phrase, key, ?_⟩
  intro k within longer_k phrase_k
  have member_k := List.mem_reverse.mpr (mem_phrases.mpr ⟨k, within, phrase_k, rfl⟩)
  rw [split, List.mem_append, List.mem_cons] at member_k
  have sorted := pairwise_phrases limit tokens
  rw [← List.reverse_reverse (phrases limit tokens), List.pairwise_reverse, split,
    List.pairwise_append, List.pairwise_cons] at sorted
  obtain before | same | after := member_k
  · have missed_k := missed _ before
    exact Option.map_eq_none_iff.mp missed_k
  · have lengths : 2 * k - 1 = 2 * n - 1 := congrArg Phrase.length same
    omega
  · have lengths : 2 * k - 1 < 2 * n - 1 := sorted.2.1.1 _ after
    omega

theorem longest_eq_none (h : lex.longest limit tokens = none) :
    ∀ n ≤ limit, IsPhrase (tokenAt? tokens) 0 n →
      lex.find? (phraseKey (tokenAt? tokens) 0 n) = none := by
  intro n within phrase
  have member := List.mem_reverse.mpr (mem_phrases.mpr ⟨n, within, phrase, rfl⟩)
  have missed := List.findSome?_eq_none_iff.mp h _ member
  exact Option.map_eq_none_iff.mp missed

end Lexicon

end Agreement
