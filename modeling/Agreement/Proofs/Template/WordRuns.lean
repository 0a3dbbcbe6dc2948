/- # Agreement.Proofs.Template.WordRuns: the words that a template can be searched for

Agreement looks up runs of words: words of one text between placeholders, with nothing but blank
space between them. What a vocabulary has for anything else makes no difference. So a vocabulary
with one entry more selects the same phrases of every template that has no run with the key of the
entry, with the article or without. The search may then go further than before, but since the
selection is said without the limit of the search, nothing has to be said of how far.
-/
import Agreement.Proofs.Gender.Lookups
import Agreement.Proofs.Template.LeftmostLongest
import Agreement.Proofs.Template.Usability

namespace Agreement

open Unicode Text Token

/-! ## Runs of words -/

namespace Template

/-- The template has a run of words: they stand in one text outside the placeholders, with nothing
but blank space between them. -/
def HasRun (template : List Char) (words : List (List Char)) : Prop :=
  ∃ s, .text s ∈ segments template ∧ ∃ i n, IsPhrase (tokenAt? (Token.scan s)) i n ∧
    phraseWords (tokenAt? (Token.scan s)) i n = words

section Runs

variable {template s : List Char} {limit : Nat}

/-- What a search meets in a part of a text is a run. -/
theorem hasRun_of_mem_phrases {T : List Token} {p : Phrase} (hs : .text s ∈ segments template)
    (hT : T <:+: Token.scan s) (hp : p ∈ phrases limit T) : HasRun template p.words := by
  obtain ⟨A, B, cut⟩ := hT
  obtain ⟨n, -, phrase, rfl⟩ := mem_phrases.mp hp
  -- behind `A` the text has the tokens of the part, as far as the phrase goes
  have behind (j : Nat) :
      tokenAt? (Token.scan s) (A.length + j) = tokenAt? (T ++ B) j := by
    rw [← tokenAt?_drop, ← cut, List.append_assoc, List.drop_left]
  have same : ∀ j < 2 * n - 1, tokenAt? (T ++ B) (0 + j) = tokenAt? T (0 + j) := by
    intro j hj
    obtain ⟨t, at_place⟩ := phrase.exists_token hj
    obtain ⟨inside, -⟩ := List.getElem?_eq_some_iff.mp at_place
    exact List.getElem?_append_left inside
  refine ⟨s, hs, A.length + 0, n, (isPhrase_shift behind).mpr (phrase.congr same), ?_⟩
  rw [phraseWords_shift behind, phraseWords_congr same]
  rfl

/-- A phrase of free tokens is a run. -/
theorem hasRun_of_isPhrase {k i n : Nat}
    (phrase : IsPhrase (freeToken? (segments template) k) i n) :
    HasRun template (phraseWords (freeToken? (segments template) k) i n) := by
  have same : ∀ j < 2 * n - 1, tokenAt? (segmentTokens (segments template) k) (i + j) =
      freeToken? (segments template) k (i + j) := by
    intro j hj
    obtain ⟨t, free⟩ := phrase.exists_token hj
    rw [free, (Seams.freeToken?_eq_some.mp free).1]
  have there := phrase.congr same
  have words := phraseWords_congr same
  rcases segmentTokens_eq (segments template) k with no_tokens | ⟨s, hs, tokens⟩
  · rw [no_tokens] at there
    obtain ⟨t, at_start, -⟩ := there.word 0 there.positive
    cases at_start
  · rw [tokens] at there words
    exact ⟨s, hs, i, n, there, words⟩

/-- What holds of all that a search can meet in a text holds of its runs. -/
theorem forall_hasRun {P : List (List Char) → Prop}
    (h : ∀ s ∈ texts template, ∀ T ∈ (Token.scan s).tails,
      ∀ p ∈ phrases (Token.scan s).length T, P p.words) :
    ∀ words, HasRun template words → P words := by
  rintro words ⟨s, hs, i, n, phrase, rfl⟩
  have listed : s ∈ texts template := mem_texts.mpr hs
  have here (j : Nat) : tokenAt? (Token.scan s) (i + j) = tokenAt? ((Token.scan s).drop i) j :=
    (tokenAt?_drop _ _ _).symm
  have start : IsPhrase (tokenAt? ((Token.scan s).drop i)) 0 n := (isPhrase_shift here).mp phrase
  -- the last word of the run is one of the tokens
  have within : n ≤ (Token.scan s).length := by
    have positive := phrase.positive
    obtain ⟨t, last, -⟩ := phrase.word (n - 1) (by omega)
    obtain ⟨inside, -⟩ := List.getElem?_eq_some_iff.mp last
    omega
  have met : phraseAt ((Token.scan s).drop i) n ∈
      phrases (Token.scan s).length ((Token.scan s).drop i) :=
    mem_phrases.mpr ⟨n, within, start, rfl⟩
  have held := h s listed _ ((List.mem_tails _ _).mpr (List.drop_suffix i _)) _ met
  have words : phraseWords (tokenAt? (Token.scan s)) (i + 0) n =
      phraseWords (tokenAt? ((Token.scan s).drop i)) 0 n := phraseWords_shift here
  rw [Nat.add_zero] at words
  rw [words]
  exact held

end Runs

end Template

/-! ## One entry more -/

namespace Lexicon

variable {lex next : Lexicon} {view : Nat → Option Token} {S : Set Span}

/-- Vocabularies that have the same phrases of a text select the same. -/
theorem Selects.congr (same : ∀ s, lex.Finds view s ↔ next.Finds view s)
    (h : lex.Selects view S) : next.Selects view S where
  longest := by
    intro s hs
    obtain ⟨found, longest⟩ := h.longest s hs
    exact ⟨(same s).mp found, fun t ht => longest t ((same t).mpr ht)⟩
  disjoint := h.disjoint
  complete := by
    intro t ht
    exact h.complete t ((same t).mpr ht)

/-- A vocabulary with one entry more has the same for every key but that of the entry. -/
theorem has_add_iff {word : String} {e : Entry} {key : List Char} {hit : Hit} (h : lex.Reachable)
    (added : lex.add word e = .ok next) (apart : key ≠ normalizeKey word.toList)
    (apart' : key ≠ article :: normalizeKey word.toList) : lex.Has key hit ↔ next.Has key hit := by
  have well : next.WellKeyed := (Reachable.extend h added).wellKeyed
  obtain ⟨-, rfl⟩ := add_eq_ok_iff.mp added
  have found : Lexicon.find? { lex.bind word e with version := lex.version + 1 } key =
      lex.find? key := find?_bind apart apart'
  rw [← find?_eq_some_iff h.wellKeyed, ← find?_eq_some_iff well, found]

end Lexicon

namespace Template

/-- No run of a template has the key of a word, with the article or without. -/
def IsUnrelated (template : String) (word : String) : Prop :=
  ∀ words, HasRun template.toList words →
    normalizeKey ([' '].intercalate words) ≠ normalizeKey word.toList ∧
      normalizeKey ([' '].intercalate words) ≠ article :: normalizeKey word.toList

/-- **A new entry leaves unrelated templates alone.** Every valid entry is accepted, and a template
of which no run has the key of its word, with the article or without, is put in agreement as
before: also when the word has more words than any before, and when the entry takes the place of
another one. -/
theorem agree_add_of_isUnrelated {lex : Lexicon} (h : lex.Reachable) {word : String} {e : Entry}
    (valid : e.isValid word = true) {template : String} (unrelated : IsUnrelated template word)
    (g : Gender) :
    ∃ next, lex.add word e = .ok next ∧ agree next g template = agree lex g template := by
  have added : lex.add word e = .ok { lex.bind word e with version := lex.version + 1 } :=
    Lexicon.add_eq_ok_iff.mpr ⟨valid, rfl⟩
  refine ⟨_, added, ?_⟩
  have reachable : Lexicon.Reachable _ := .extend h added
  obtain ⟨S, selects, -⟩ := existsUnique_selects h (segments template.toList)
  have same (k : Nat) (s : Span) :
      lex.Finds (freeToken? (segments template.toList) k) s ↔
        Lexicon.Finds { lex.bind word e with version := lex.version + 1 }
          (freeToken? (segments template.toList) k) s := by
    have apart (phrase : IsPhrase (freeToken? (segments template.toList) k) s.start s.count) :=
      unrelated _ (hasRun_of_isPhrase phrase)
    constructor
    · rintro ⟨phrase, has⟩
      exact ⟨phrase, (Lexicon.has_add_iff h added (apart phrase).1 (apart phrase).2).mp has⟩
    · rintro ⟨phrase, has⟩
      exact ⟨phrase, (Lexicon.has_add_iff h added (apart phrase).1 (apart phrase).2).mpr has⟩
  have selects' : Selects { lex.bind word e with version := lex.version + 1 }
      (segments template.toList) S := fun k => (selects k).congr (same k)
  apply String.toList_injective
  rw [agree_eq reachable selects' g, agree_eq h selects g]

/-- A phrase with more words than any before, and a template that has all of them in order, but with
a comma between two. -/
theorem agree_add_of_isUnrelated_comma :
    let word := "חתום  מטה כאן"
    let e : Entry := ⟨⟨"חתום מטה כאן", "חתומה מטה כאן", "חתומים מטה כאן", none⟩, true⟩
    let template := "הוא החתום מטה, כאן \x7b\x7bname\x7d\x7d"
    (Lexicon.small.Reachable ∧ e.isValid word = true ∧ IsUnrelated template word) ∧
      ∃ next, Lexicon.small.add word e = .ok next ∧
        agree next .female template = "היא החתומה מטה, כאן \x7b\x7bname\x7d\x7d" := by
  intro word e template
  have valid : e.isValid word = true := by decide
  have unrelated : IsUnrelated template word := forall_hasRun (by decide +kernel)
  obtain ⟨next, added, same⟩ := agree_add_of_isUnrelated .small valid unrelated .female
  refine ⟨⟨.small, valid, unrelated⟩, next, added, ?_⟩
  rw [same]
  decide +kernel

end Template

end Agreement
