/- # Agreement.Proofs.Gender.Selection: the leftmost longest phrases of a text

Which phrases of a text are put in agreement is said here without a search: a set of spans is
selected when each is the longest one at its start, no two share a token, and no token outside them
starts one. There is exactly one such set, and the search from left to right writes the text in
which its members are replaced.
-/
import Mathlib.Data.Set.Basic
import Agreement.Proofs.Gender.Phrases

namespace Agreement

/-- Words of a text with nothing but blank space between them: the place of the first, how many
they are, and what a vocabulary has for them. -/
structure Span where
  start : Nat
  count : Nat
  hit : Hit

/-- The place after the last token of a span. -/
def Span.stop (s : Span) : Nat := s.start + (2 * s.count - 1)

/-- The token at a place belongs to a span. -/
def Span.Covers (s : Span) (i : Nat) : Prop := s.start ≤ i ∧ i < s.stop

namespace Lexicon

/-- The vocabulary has the phrase of a span. -/
structure Finds (lex : Lexicon) (view : Nat → Option Token) (s : Span) : Prop where
  phrase : IsPhrase view s.start s.count
  has : lex.Has (phraseKey view s.start s.count) s.hit

/-- The vocabulary has the phrase of a span and no longer one at its start. -/
def IsLongest (lex : Lexicon) (view : Nat → Option Token) (s : Span) : Prop :=
  lex.Finds view s ∧ ∀ t, lex.Finds view t → t.start = s.start → t.count ≤ s.count

/-- A set of spans is the selection of a text: its members are the longest at their starts and
share no token, and no token outside them starts a span. -/
structure Selects (lex : Lexicon) (view : Nat → Option Token) (S : Set Span) : Prop where
  longest : ∀ s ∈ S, lex.IsLongest view s
  disjoint : ∀ s ∈ S, ∀ t ∈ S, ∀ i, s.Covers i → t.Covers i → s = t
  complete : ∀ t, lex.Finds view t → ∃ s ∈ S, s.Covers t.start

variable {lex : Lexicon} {view : Nat → Option Token}

/-! ## Longest spans -/

theorem Finds.start_lt_stop {s : Span} (h : lex.Finds view s) : s.start < s.stop := by
  have positive := h.phrase.positive
  unfold Span.stop
  omega

theorem Finds.covers_start {s : Span} (h : lex.Finds view s) : s.Covers s.start :=
  ⟨Nat.le_refl _, h.start_lt_stop⟩

/-- There is a token at every place of a span. -/
theorem Finds.exists_token {s : Span} {i : Nat} (h : lex.Finds view s) (covers : s.Covers i) :
    ∃ t, view i = some t := by
  obtain ⟨from_start, to_stop⟩ := covers
  unfold Span.stop at to_stop
  obtain ⟨j, rfl⟩ := Nat.exists_eq_add_of_le from_start
  exact h.phrase.exists_token (by omega)

theorem IsLongest.unique {s t : Span} (hs : lex.IsLongest view s) (ht : lex.IsLongest view t)
    (same_start : s.start = t.start) : s = t := by
  obtain ⟨i, n, hit⟩ := s
  obtain ⟨j, m, hit'⟩ := t
  obtain rfl : i = j := same_start
  obtain rfl : n = m := Nat.le_antisymm (ht.2 _ hs.1 rfl) (hs.2 _ ht.1 rfl)
  obtain rfl : hit = hit' := hs.1.has.unique ht.1.has
  rfl

/-- When phrases are bounded in length, a place where one starts has a longest one. -/
theorem exists_isLongest {bound : Nat} (bounded : ∀ s, lex.Finds view s → s.count ≤ bound)
    {s : Span} (h : lex.Finds view s) : ∃ t, lex.IsLongest view t ∧ t.start = s.start := by
  -- a longer phrase leaves less room under the bound
  induction room : bound - s.count using Nat.strong_induction_on generalizing s with
  | _ d ih =>
      by_cases longest : ∀ t, lex.Finds view t → t.start = s.start → t.count ≤ s.count
      · exact ⟨s, ⟨h, longest⟩, rfl⟩
      · push Not at longest
        obtain ⟨t, ht, same_start, longer⟩ := longest
        have within := bounded t ht
        obtain ⟨u, hu, start⟩ := ih (bound - t.count) (by omega) ht rfl
        exact ⟨u, hu, start.trans same_start⟩

/-! ## A reading from left to right -/

/-- The places that a reading from left to right comes to: it goes to the next token where no span
starts, and to the end of the longest span where one does. -/
inductive Reaches (lex : Lexicon) (view : Nat → Option Token) : Nat → Prop
  | first : Reaches lex view 0
  | next {i : Nat} :
      Reaches lex view i → (∀ s, lex.Finds view s → s.start ≠ i) → Reaches lex view (i + 1)
  | jump {s : Span} : Reaches lex view s.start → lex.IsLongest view s → Reaches lex view s.stop

/-- The spans at which a reading from left to right jumps. -/
def selection (lex : Lexicon) (view : Nat → Option Token) : Set Span :=
  {s | lex.Reaches view s.start ∧ lex.IsLongest view s}

/-- A reading comes to every place or jumps over it. -/
theorem reaches_or_jumps {bound : Nat} (bounded : ∀ s, lex.Finds view s → s.count ≤ bound)
    (i : Nat) : lex.Reaches view i ∨ ∃ s ∈ lex.selection view, s.start < i ∧ i < s.stop := by
  induction i with
  | zero => exact .inl .first
  | succ i ih =>
      have onward {s : Span} (hs : s ∈ lex.selection view) (covers : s.Covers i) :
          lex.Reaches view (i + 1) ∨
            ∃ s ∈ lex.selection view, s.start < i + 1 ∧ i + 1 < s.stop := by
        obtain ⟨from_start, to_stop⟩ := covers
        rcases Nat.lt_or_ge (i + 1) s.stop with inside | ends
        · exact .inr ⟨s, hs, by omega, inside⟩
        · have stop_eq : i + 1 = s.stop := by omega
          rw [stop_eq]
          exact .inl (.jump hs.1 hs.2)
      rcases ih with reached | ⟨s, hs, after, before⟩
      · by_cases starts : ∃ s, lex.Finds view s ∧ s.start = i
        · obtain ⟨s, hs, rfl⟩ := starts
          obtain ⟨t, ht, start⟩ := exists_isLongest bounded hs
          rw [← start] at reached onward ⊢
          exact onward ⟨reached, ht⟩ ht.1.covers_start
        · push Not at starts
          exact .inl (.next reached starts)
      · exact onward hs ⟨Nat.le_of_lt after, before⟩

/-- A reading comes to no place inside a span at which it jumps. -/
theorem Reaches.stop_le {j : Nat} (hj : lex.Reaches view j) {s : Span}
    (hs : s ∈ lex.selection view) (after : s.start < j) : s.stop ≤ j := by
  induction j using Nat.strong_induction_on generalizing s with
  | _ j ih =>
      cases hj with
      | first => exact absurd after (Nat.not_lt_zero _)
      | @next i hi no_span =>
          rcases Nat.lt_or_ge s.start i with before | at_place
          · exact Nat.le_succ_of_le (ih i (Nat.lt_succ_self i) hi hs before)
          · exact absurd (show s.start = i by omega) (no_span s hs.2.1)
      | @jump t ht longest =>
          have grows := longest.1.start_lt_stop
          rcases Nat.lt_trichotomy s.start t.start with before | same | later
          · exact Nat.le_trans (ih t.start grows ht hs before) (Nat.le_of_lt grows)
          · rw [hs.2.unique longest same]
          · -- the reading that comes to `s` would come to a place inside `t`
            have behind := ih s.start after hs.1 ⟨ht, longest⟩ later
            omega

theorem selects_selection {bound : Nat} (bounded : ∀ s, lex.Finds view s → s.count ≤ bound) :
    lex.Selects view (lex.selection view) where
  longest := fun s hs => hs.2
  disjoint := by
    intro s hs t ht i hsi hti
    rcases Nat.lt_trichotomy s.start t.start with before | same | after
    · have apart := ht.1.stop_le hs before
      unfold Span.Covers at hsi hti
      omega
    · exact hs.2.unique ht.2 same
    · have apart := hs.1.stop_le ht after
      unfold Span.Covers at hsi hti
      omega
  complete := by
    intro t ht
    rcases reaches_or_jumps bounded t.start with reached | ⟨s, hs, after, before⟩
    · obtain ⟨s, longest, start⟩ := exists_isLongest bounded ht
      rw [← start] at reached ⊢
      exact ⟨s, ⟨reached, longest⟩, longest.1.covers_start⟩
    · exact ⟨s, hs, Nat.le_of_lt after, before⟩

/-- Of two selections each holds what the other holds: a first span in one alone would start
inside a span that both hold. -/
theorem Selects.mem_of_mem {S T : Set Span} (hS : lex.Selects view S) (hT : lex.Selects view T)
    {s : Span} (hs : s ∈ S) : s ∈ T := by
  -- by the start of the span, with the roles of the two selections free to change
  induction start : s.start using Nat.strong_induction_on generalizing s S T with
  | _ i ih =>
      obtain ⟨t, ht, from_start, to_stop⟩ := hT.complete s (hS.longest s hs).1
      rcases Nat.lt_or_eq_of_le from_start with before | same
      · have ht' : t ∈ S := ih t.start (start ▸ before) hT hS ht rfl
        have eq : s = t := hS.disjoint s hs t ht' s.start (hS.longest s hs).1.covers_start
          ⟨from_start, to_stop⟩
        exact eq ▸ ht
      · rwa [← (hT.longest t ht).unique (hS.longest s hs) same]

/-- **A text has exactly one selection.** -/
theorem existsUnique_selects {bound : Nat} (bounded : ∀ s, lex.Finds view s → s.count ≤ bound) :
    ∃! S, lex.Selects view S := by
  have selects := selects_selection bounded
  refine ⟨lex.selection view, selects, ?_⟩
  intro T hT
  apply Set.ext
  intro s
  exact ⟨hT.mem_of_mem selects, selects.mem_of_mem hT⟩

end Lexicon

/-! ## The text with a selection replaced -/

open Classical in
/-- What the token at a place becomes: the form of the span that starts there, nothing inside a
span, and itself elsewhere. -/
noncomputable def replaceToken (S : Set Span) (g : Gender) (i : Nat) (t : Token) : List Char :=
  if h : ∃ s ∈ S, s.start = i then h.choose.hit.form g
  else if ∃ s ∈ S, s.Covers i then []
  else t.text

/-- Tokens, the first of them at place `i`, with every span replaced by its form. -/
noncomputable def replaceSpans (S : Set Span) (g : Gender) : (i : Nat) → List Token → List Char
  | _, [] => []
  | i, t :: rest => replaceToken S g i t ++ replaceSpans S g (i + 1) rest

section Replacing

variable {S : Set Span} {g : Gender} {i : Nat} {t : Token}

theorem replaceSpans_append (a b : List Token) :
    replaceSpans S g i (a ++ b) = replaceSpans S g i a ++ replaceSpans S g (i + a.length) b := by
  induction a generalizing i with
  | nil => rfl
  | cons t a ih =>
      rw [List.cons_append, replaceSpans, replaceSpans, ih, List.append_assoc, List.length_cons,
        Nat.add_assoc, Nat.add_comm 1]

theorem replaceToken_of_not_covers (outside : ∀ s ∈ S, ¬ s.Covers i)
    (nonempty : ∀ s ∈ S, s.Covers s.start) : replaceToken S g i t = t.text := by
  have no_start : ¬ ∃ s ∈ S, s.start = i := by
    rintro ⟨s, hs, rfl⟩
    exact outside s hs (nonempty s hs)
  have no_span : ¬ ∃ s ∈ S, s.Covers i := by
    rintro ⟨s, hs, covers⟩
    exact outside s hs covers
  rw [replaceToken, dif_neg no_start, if_neg no_span]

/-- Tokens outside every span stay. -/
theorem replaceSpans_of_not_covers {tokens : List Token} (nonempty : ∀ s ∈ S, s.Covers s.start)
    (outside : ∀ j < tokens.length, ∀ s ∈ S, ¬ s.Covers (i + j)) :
    replaceSpans S g i tokens = tokens.flatMap (·.text) := by
  induction tokens generalizing i with
  | nil => rfl
  | cons t tokens ih =>
      have here : ∀ s ∈ S, ¬ s.Covers i := outside 0 (by simp)
      rw [replaceSpans, replaceToken_of_not_covers here nonempty, List.flatMap_cons, ih]
      intro j hj
      have there := outside (j + 1) (by simpa using hj)
      rwa [← Nat.add_assoc, Nat.add_right_comm] at there

end Replacing

namespace Lexicon

variable {lex : Lexicon} {view : Nat → Option Token} {S : Set Span} {g : Gender}

theorem Selects.replaceToken_start (h : lex.Selects view S) {s : Span} (hs : s ∈ S) (t : Token) :
    replaceToken S g s.start t = s.hit.form g := by
  have starts : ∃ s' ∈ S, s'.start = s.start := ⟨s, hs, rfl⟩
  obtain ⟨member, same⟩ := starts.choose_spec
  rw [replaceToken, dif_pos starts, (h.longest _ member).unique (h.longest s hs) same]

/-- The tokens of a span after its first leave nothing. -/
theorem Selects.replaceSpans_inside (h : lex.Selects view S) {s : Span} (hs : s ∈ S)
    {i : Nat} {tokens : List Token} (after : s.start < i) (before : i + tokens.length ≤ s.stop) :
    replaceSpans S g i tokens = [] := by
  induction tokens generalizing i with
  | nil => rfl
  | cons t tokens ih =>
      rw [List.length_cons] at before
      have covers : s.Covers i := ⟨Nat.le_of_lt after, by omega⟩
      -- a span that starts here would share the token with `s`
      have no_start : ¬ ∃ s' ∈ S, s'.start = i := by
        rintro ⟨s', hs', rfl⟩
        have same := h.disjoint s hs s' hs' s'.start covers (h.longest s' hs').1.covers_start
        rw [same] at after
        exact Nat.lt_irrefl _ after
      rw [replaceSpans, replaceToken, dif_neg no_start, if_pos ⟨s, hs, covers⟩, List.nil_append]
      exact ih (Nat.lt_succ_of_lt after) (by omega)

/-- The tokens of a span become its form. -/
theorem Selects.replaceSpans_span (h : lex.Selects view S) {s : Span} (hs : s ∈ S)
    {tokens : List Token} (length : s.start + tokens.length = s.stop) :
    replaceSpans S g s.start tokens = s.hit.form g := by
  cases tokens with
  | nil => exact absurd length (Nat.ne_of_lt (h.longest s hs).1.start_lt_stop)
  | cons t tokens =>
      rw [List.length_cons] at length
      rw [replaceSpans, h.replaceToken_start hs,
        h.replaceSpans_inside hs (Nat.lt_succ_self _) (by omega), List.append_nil]

/-! ## The search of a whole text -/

variable {limit : Nat}

theorem piecesFrom_eq_drop (lex : Lexicon) (limit skip : Nat) (tokens : List Token) :
    lex.piecesFrom limit skip tokens = lex.piecesFrom limit 0 (tokens.drop skip) := by
  induction tokens generalizing skip with
  | nil => cases skip <;> rfl
  | cons t tokens ih =>
      cases skip with
      | zero => rfl
      | succ skip => exact ih skip

theorem piecesFrom_cons_of_none {t : Token} {rest : List Token}
    (missed : lex.longest limit (t :: rest) = none) :
    lex.piecesFrom limit 0 (t :: rest) = .kept t :: lex.piecesFrom limit 0 rest := by
  rw [piecesFrom, missed]

theorem piecesFrom_of_some {t : Token} {rest : List Token} {hit : Hit} {m : Nat}
    (found : lex.longest limit (t :: rest) = some (hit, m + 1)) :
    lex.piecesFrom limit 0 (t :: rest) =
      .phrase (t :: rest.take m) hit :: lex.piecesFrom limit 0 (rest.drop m) := by
  rw [piecesFrom, found]
  exact congrArg _ (piecesFrom_eq_drop lex limit m rest)

section Place

variable {tokens : List Token} {i : Nat}

/-- The spans at a place are what the search meets in the tokens from there on. -/
theorem finds_iff (well : lex.WellKeyed) (same : ∀ j, view (i + j) = tokenAt? tokens j)
    {n : Nat} {hit : Hit} : lex.Finds view ⟨i, n, hit⟩ ↔
      IsPhrase (tokenAt? tokens) 0 n ∧ lex.find? (phraseKey (tokenAt? tokens) 0 n) = some hit := by
  rw [← isPhrase_shift same, ← phraseKey_shift same, find?_eq_some_iff well]
  exact ⟨fun h => ⟨h.phrase, h.has⟩, fun h => ⟨h.1, h.2⟩⟩

theorem isLongest_of_longest (well : lex.WellKeyed)
    (same : ∀ j, view (i + j) = tokenAt? tokens j)
    (bounded : ∀ s, lex.Finds view s → s.count ≤ limit) {hit : Hit} {m : Nat}
    (found : lex.longest limit tokens = some (hit, m)) :
    ∃ n, lex.IsLongest view ⟨i, n, hit⟩ ∧ m = 2 * n - 1 := by
  obtain ⟨n, -, length, phrase, key, longer⟩ := longest_eq_some found
  refine ⟨n, ⟨(finds_iff well same).mpr ⟨phrase, key⟩, ?_⟩, length⟩
  rintro ⟨_, k, hit'⟩ ht rfl
  by_contra more
  obtain ⟨phrase_k, key_k⟩ := (finds_iff well same).mp ht
  rw [longer k (bounded _ ht) (by simpa using more) phrase_k] at key_k
  cases key_k

theorem not_finds_of_longest (well : lex.WellKeyed)
    (same : ∀ j, view (i + j) = tokenAt? tokens j)
    (bounded : ∀ s, lex.Finds view s → s.count ≤ limit)
    (missed : lex.longest limit tokens = none) (s : Span) (hs : lex.Finds view s) :
    s.start ≠ i := by
  obtain ⟨_, n, hit⟩ := s
  rintro rfl
  obtain ⟨phrase, key⟩ := (finds_iff well same).mp hs
  rw [longest_eq_none missed n (bounded _ hs) phrase] at key
  cases key

end Place

/-! A reading never stands inside a span of the selection. -/

/-- No span of a set goes over the border before a place. -/
def IsBorder (S : Set Span) (i : Nat) : Prop := ∀ s ∈ S, s.start < i → s.stop ≤ i

/-- The longest span at a border is selected. -/
theorem Selects.mem_of_isLongest (h : lex.Selects view S) {s : Span}
    (hs : lex.IsLongest view s) (border : IsBorder S s.start) : s ∈ S := by
  obtain ⟨t, ht, from_start, to_stop⟩ := h.complete s hs.1
  rcases Nat.lt_or_eq_of_le from_start with before | start
  · exact absurd (border t ht before) (Nat.not_le_of_lt to_stop)
  · rwa [← (h.longest t ht).unique hs start]

theorem Selects.not_covers (h : lex.Selects view S) {i : Nat} (border : IsBorder S i)
    (no_span : ∀ s, lex.Finds view s → s.start ≠ i) : ∀ s ∈ S, ¬ s.Covers i := by
  intro s hs ⟨from_start, to_stop⟩
  have starts := no_span s (h.longest s hs).1
  have stops := border s hs (by omega)
  omega

theorem Selects.isBorder_succ (h : lex.Selects view S) {i : Nat} (border : IsBorder S i)
    (no_span : ∀ s, lex.Finds view s → s.start ≠ i) : IsBorder S (i + 1) := by
  intro s hs before
  have starts := no_span s (h.longest s hs).1
  have stops := border s hs (by omega)
  omega

theorem Selects.isBorder_stop (h : lex.Selects view S) {s : Span} (hs : s ∈ S) :
    IsBorder S s.stop := by
  intro t ht before
  by_contra beyond
  have grows := (h.longest s hs).1.start_lt_stop
  -- both spans would hold the last token of `s`, or the first of `t`
  have same : s = t := by
    rcases Nat.lt_or_ge s.start t.start with inside | behind
    · exact h.disjoint s hs t ht t.start ⟨Nat.le_of_lt inside, before⟩
        (h.longest t ht).1.covers_start
    · exact h.disjoint s hs t ht s.start (h.longest s hs).1.covers_start ⟨behind, by omega⟩
  exact beyond (same ▸ Nat.le_refl _)

theorem Selects.covers_start (h : lex.Selects view S) : ∀ s ∈ S, s.Covers s.start :=
  fun s hs => (h.longest s hs).1.covers_start

/-- A phrase that the search finds at a border is a selected span, and the tokens reach to its
end. -/
theorem Selects.exists_span (h : lex.Selects view S) (well : lex.WellKeyed)
    (bounded : ∀ s, lex.Finds view s → s.count ≤ limit) {t : Token} {rest : List Token} {i : Nat}
    (same : ∀ j, view (i + j) = tokenAt? (t :: rest) j) (border : IsBorder S i)
    {hit : Hit} {m : Nat} (found : lex.longest limit (t :: rest) = some (hit, m)) :
    ∃ s ∈ S, ∃ k, s.start = i ∧ s.hit = hit ∧ m = k + 1 ∧ s.stop = i + 1 + k ∧
      k ≤ rest.length := by
  obtain ⟨n, longest, rfl⟩ := isLongest_of_longest well same bounded found
  have positive : 0 < n := longest.1.phrase.positive
  have stop : (⟨i, n, hit⟩ : Span).stop = i + 1 + (2 * n - 2) := by
    change i + (2 * n - 1) = i + 1 + (2 * n - 2)
    omega
  refine ⟨⟨i, n, hit⟩, h.mem_of_isLongest longest border, 2 * n - 2, rfl, rfl, by omega, stop, ?_⟩
  -- the last token of the span is one of the tokens
  have covers : (⟨i, n, hit⟩ : Span).Covers (i + (2 * n - 2)) :=
    ⟨Nat.le_add_right _ _, by omega⟩
  obtain ⟨t', last⟩ := longest.1.exists_token covers
  rw [same, tokenAt?, List.getElem?_eq_some_iff] at last
  obtain ⟨inside, -⟩ := last
  rwa [List.length_cons, Nat.lt_succ_iff] at inside

/-- **From a border on, the search writes the tokens with every selected span replaced by its
form.** -/
theorem Selects.flatMap_form_piecesFrom (h : lex.Selects view S) (well : lex.WellKeyed)
    (bounded : ∀ s, lex.Finds view s → s.count ≤ limit) {tokens : List Token} {i : Nat}
    (same : ∀ j, view (i + j) = tokenAt? tokens j) (border : IsBorder S i) :
    (lex.piecesFrom limit 0 tokens).flatMap (·.form g) = replaceSpans S g i tokens := by
  -- by the number of tokens left: a kept token leaves one fewer, a phrase as many as it takes
  induction size : tokens.length using Nat.strong_induction_on generalizing tokens i with
  | _ d ih =>
      cases tokens with
      | nil => rfl
      | cons t rest =>
          rw [List.length_cons] at size
          have after (k : Nat) : ∀ j, view (i + 1 + k + j) = tokenAt? (rest.drop k) j := by
            intro j
            rw [tokenAt?_drop, Nat.add_assoc, Nat.add_assoc, same, Nat.add_comm 1]
            rfl
          cases found : lex.longest limit (t :: rest) with
          | none =>
              have no_span := not_finds_of_longest well same bounded found
              have later : (lex.piecesFrom limit 0 rest).flatMap (·.form g) =
                  replaceSpans S g (i + 1) rest :=
                ih rest.length (by omega) (after 0) (h.isBorder_succ border no_span) rfl
              rw [piecesFrom_cons_of_none found, List.flatMap_cons, replaceSpans,
                replaceToken_of_not_covers (h.not_covers border no_span) h.covers_start, later]
              rfl
          | some p =>
              obtain ⟨hit, m⟩ := p
              obtain ⟨s, hs, k, start, same_hit, rfl, stop, enough⟩ :=
                h.exists_span well bounded same border found
              have taken : i + (t :: rest.take k).length = i + 1 + k := by
                rw [List.length_cons, List.length_take, Nat.min_eq_left enough]
                omega
              have span : replaceSpans S g i (t :: rest.take k) = hit.form g := by
                rw [← start, ← same_hit]
                exact h.replaceSpans_span hs (by rw [start, taken, stop])
              have split : t :: rest = (t :: rest.take k) ++ rest.drop k := by simp
              have fewer : (rest.drop k).length < d := by
                rw [List.length_drop]
                omega
              rw [piecesFrom_of_some found, List.flatMap_cons, split, replaceSpans_append, span,
                taken, ih _ fewer (after k) (stop ▸ h.isBorder_stop hs) rfl]
              rfl

end Lexicon

end Agreement
