/- # Agreement.Proofs.Gender.Keys: the keys of a vocabulary

However a vocabulary was built, each of its keys is the key of a visible word, and none has more
words than the vocabulary says. A step of building keeps both, so every run of them does.
-/
import Agreement.Gender.Vocabulary
import Agreement.Proofs.Unicode.Composing

namespace Agreement

open Unicode Text

namespace Lexicon

/-! ## Keys of visible words -/

@[simp] theorem toList_key (word : String) : (key word).toList = normalizeKey word.toList := by
  simp [key]

theorem words_normalize_ne_nil {text : List Char} (h : IsVisible text) :
    words (normalize text) ≠ [] :=
  (isVisible_normalize h).words_ne_nil

/-- The number of words of a key is the number of words of the normal form. -/
theorem count_normalizeKey {text : List Char} (h : words (normalize text) ≠ []) :
    (normalizeKey text).count ' ' + 1 = (words (normalize text)).length := by
  apply count_intercalate h
  intro w hw space
  have visible := isSpace_of_mem_words hw space
  exact absurd visible (by decide)

/-- A key starts with a character of a word. -/
theorem normalizeKey_eq_cons {text : List Char} (h : words (normalize text) ≠ []) :
    ∃ c rest, normalizeKey text = c :: rest ∧ isSpace c = false := by
  obtain ⟨w, more, eq⟩ := List.exists_cons_of_ne_nil h
  have member : w ∈ words (normalize text) := by rw [eq]; exact List.mem_cons_self
  obtain ⟨c, rest, rfl⟩ := List.exists_cons_of_ne_nil (ne_nil_of_mem_words member)
  have visible := isSpace_of_mem_words member List.mem_cons_self
  cases more with
  | nil => exact ⟨c, rest, by rw [normalizeKey, eq, List.intercalate_singleton], visible⟩
  | cons next more =>
      refine ⟨c, rest ++ ' ' :: [' '].intercalate (next :: more), ?_, visible⟩
      rw [normalizeKey, eq, List.intercalate_cons_cons]
      simp

/-! ## Building -/

/-- The vocabularies that can be built: without entries, built in, by adding a batch of entries, or
from saved data. -/
inductive Reachable : Lexicon → Prop
  | empty : Reachable empty
  | hebrew : Reachable hebrew
  | extend {lex next : Lexicon} {batch : List (String × Entry)} :
      Reachable lex → lex.extend batch = .ok next → Reachable next
  | ofJson {text : String} {next : Lexicon} : Lexicon.ofJson text = .ok next → Reachable next

/-- An entry of a vocabulary was there before, or is one of those that were bound. -/
theorem mem_of_get?_bindAll {lex : Lexicon} {batch : List (String × Entry)} {k : String} {e : Entry}
    (h : (lex.bindAll batch).entries.get? k = some e) :
    lex.entries.get? k = some e ∨ ∃ p ∈ batch, key p.1 = k ∧ p.2 = e := by
  induction batch generalizing lex with
  | nil => exact .inl h
  | cons p batch ih =>
      rcases ih h with before | ⟨q, hq, bound⟩
      · change (lex.bind p.1 p.2).entries.get? k = some e at before
        rw [Lexicon.bind, SortedMap.get?_insert] at before
        split at before
        · next same =>
            cases before
            exact .inr ⟨p, List.mem_cons_self, same.symm, rfl⟩
        · exact .inl before
      · exact .inr ⟨q, List.mem_cons_of_mem p hq, bound⟩

/-- Each key is the key of a visible word and has at most `maxWords` words. -/
def WellKeyed (lex : Lexicon) : Prop :=
  ∀ k e, lex.entries.get? k = some e →
    (∃ word : String, IsVisible word.toList ∧ k = key word) ∧ wordCount k ≤ lex.maxWords

theorem wellKeyed_empty : empty.WellKeyed := by
  intro k e h
  simp [empty] at h

/-- Binding a visible word keeps the keys well. -/
theorem WellKeyed.bind {lex : Lexicon} (h : lex.WellKeyed) {word : String} (e : Entry)
    (visible : IsVisible word.toList) : (lex.bind word e).WellKeyed := by
  intro k e' found
  rw [Lexicon.bind, SortedMap.get?_insert] at found
  split at found
  · next same =>
      subst same
      exact ⟨⟨word, visible, rfl⟩, Nat.le_max_right _ _⟩
  · obtain ⟨word_of_key, bound⟩ := h k e' found
    exact ⟨word_of_key, Nat.le_trans bound (Nat.le_max_left _ _)⟩

theorem WellKeyed.bindAll {lex : Lexicon} (h : lex.WellKeyed) {batch : List (String × Entry)}
    (visible : ∀ p ∈ batch, IsVisible p.1.toList) : (lex.bindAll batch).WellKeyed := by
  induction batch generalizing lex with
  | nil => exact h
  | cons p batch ih =>
      refine ih (h.bind p.2 (visible p List.mem_cons_self)) ?_
      intro q hq
      exact visible q (List.mem_cons_of_mem p hq)

theorem WellKeyed.withVersion {lex : Lexicon} (h : lex.WellKeyed) (version : Nat) :
    ({ lex with version := version } : Lexicon).WellKeyed := h

theorem isVisible_of_isValid {word : String} {e : Entry} (h : e.isValid word = true) :
    IsVisible word.toList := by
  rw [isVisible_iff]
  simp only [Entry.isValid, List.any_cons, Bool.not_eq_true', Bool.or_eq_false_iff] at h
  exact h.1

/-- A batch that is accepted keeps the keys well. -/
theorem WellKeyed.extend {lex next : Lexicon} {batch : List (String × Entry)} (h : lex.WellKeyed)
    (added : lex.extend batch = .ok next) : next.WellKeyed := by
  unfold Lexicon.extend at added
  split at added
  · cases added
  · next valid =>
      cases added
      apply WellKeyed.withVersion
      apply h.bindAll
      intro p hp
      have accepted := List.find?_eq_none.mp valid p hp
      exact isVisible_of_isValid (by simpa using accepted)

theorem hebrew_rows_visible :
    ∀ p ∈ Vocabulary.rows.map Vocabulary.Row.entry, isBlank p.1.toList = false := by
  decide

/-- **The keys of every vocabulary that can be built are well.** -/
theorem Reachable.wellKeyed {lex : Lexicon} (h : lex.Reachable) : lex.WellKeyed := by
  -- every way of building binds visible words on top of what was there
  induction h with
  | empty => exact wellKeyed_empty
  | hebrew =>
      apply WellKeyed.withVersion
      apply wellKeyed_empty.bindAll
      intro p hp
      exact isVisible_iff.mpr (hebrew_rows_visible p hp)
  | extend _ added ih => exact ih.extend added
  | @ofJson text next loaded =>
      unfold Lexicon.ofJson at loaded
      split at loaded
      · cases loaded
      · next m _ =>
          cases added : ofEntries m.entries with
          | error cause => rw [added] at loaded; cases loaded
          | ok lex =>
              rw [added] at loaded
              cases loaded
              exact wellKeyed_empty.extend added

/-! ## A small vocabulary -/

/-- A pronoun, and a phrase of two words that takes the article. -/
def smallBatch : List (String × Entry) :=
  [("הוא", ⟨⟨"הוא", "היא", "הם", none⟩, false⟩),
    ("חתום מטה", ⟨⟨"חתום מטה", "חתומה מטה", "חתומים מטה", none⟩, true⟩)]

/-- The vocabulary of the small batch. -/
def small : Lexicon := { empty.bindAll smallBatch with version := 1 }

theorem Reachable.small : small.Reachable := by
  refine @Reachable.extend Lexicon.empty _ smallBatch .empty ?_
  have valid : smallBatch.find? (fun p => !p.2.isValid p.1) = none := by decide
  rw [Lexicon.extend, valid]
  rfl

theorem mem_smallBatch_of_get? {k : String} {e : Entry} (found : small.entries.get? k = some e) :
    ∃ p ∈ smallBatch, key p.1 = k ∧ p.2 = e := by
  rcases mem_of_get?_bindAll found with before | bound
  · simp [empty] at before
  · exact bound

end Lexicon

end Agreement
