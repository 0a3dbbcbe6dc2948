/- # Agreement.Proofs.Template.Usability: which words of a vocabulary are found

A vocabulary takes every word that is visible, but a text is searched word by word, so not every
word that it takes is ever found. It is found when its key is read as the words of the key, and
then agreement with the key gives exactly the form that was bound to it. Otherwise no phrase of the
key is looked up by the key, so what was bound to it makes no difference.
-/
import Agreement.Proofs.Template.PlainTexts
import Agreement.Proofs.Template.Stages

namespace Agreement

open Unicode Text Token

/-! ## Keys that are not read as words -/

namespace Template

theorem agree_congr {lex lex' : Lexicon} {template : String} (words : lex.maxWords = lex'.maxWords)
    (same : ∀ s, .text s ∈ segments template.toList → ∀ T, T <:+: Token.scan s →
      ∀ p ∈ phrases (max 1 lex.maxWords) T, lex.find? p.key = lex'.find? p.key) (g : Gender) :
    agree lex g template = agree lex' g template := by
  rw [agree, agree, List.flatMap_def, List.flatMap_def]
  congr 2
  apply List.map_congr_left
  rintro ⟨seams, s⟩ hs
  cases s with
  | text s => exact Lexicon.inAgreement_congr words (same s (mem_of_mem_withSeams hs)) g seams
  | placeholder p source => rfl

section Phrases

variable {text s : List Char} {limit : Nat} {T : List Token} {p : Phrase}

/-- A phrase in the text of a key that decomposes into as many characters as the key is all of it,
and the key is read as the words of the phrase. -/
theorem scan_eq_spaced_of_size_le (hs : .text s ∈ segments (normalizeKey text))
    (hT : T <:+: Token.scan s) (hp : p ∈ phrases limit T)
    (size : decomposedLength (normalizeKey text) ≤ decomposedLength ([' '].intercalate p.words)) :
    Token.scan (normalizeKey text) = spaced p.words := by
  obtain ⟨A, B, cut⟩ := id hT
  obtain ⟨before, after, split⟩ := List.append_of_mem hs
  have sound := isSound_of_part hT
  obtain ⟨below, tight⟩ :=
    decomposedLength_le_of_mem_phrases hp fun t ht => (sound t ht).nonempty
  -- what stands around the phrase in the key has no room
  have key_eq := flatMap_source_segments (normalizeKey text)
  rw [split, List.flatMap_append, List.flatMap_cons, Segment.source, ← flatMap_text_scan s, ← cut,
    ← List.take_append_drop p.length T] at key_eq
  simp only [List.flatMap_append, List.append_assoc] at key_eq
  have room : decomposedLength (normalizeKey text) ≤
      decomposedLength ((T.take p.length).flatMap Token.text) := Nat.le_trans size below
  rw [← key_eq, ← List.append_assoc, ← List.append_assoc] at room
  obtain ⟨no_front, no_back⟩ := eq_nil_of_decomposedLength_le room
  simp only [List.append_eq_nil_iff] at no_front no_back
  obtain ⟨no_before, empty_first⟩ := no_front
  obtain ⟨empty_rest, empty_last, no_after⟩ := no_back
  have within (t : Token) (ht : t ∈ A ++ T ++ B) : t ∈ Token.scan s := cut ▸ ht
  obtain rfl : A = [] := eq_nil_of_flatMap_text
    (fun t ht => within t (List.mem_append_left _ (List.mem_append_left _ ht))) empty_first
  obtain rfl : B = [] := eq_nil_of_flatMap_text
    (fun t ht => within t (List.mem_append_right _ ht)) empty_last
  have all_taken : T.take p.length = T := by
    have no_rest : T.drop p.length = [] :=
      eq_nil_of_flatMap_text (fun t ht => hT.subset (List.mem_of_mem_drop ht)) empty_rest
    rw [← List.append_nil (T.take _), ← no_rest, List.take_append_drop]
  have whole : s = normalizeKey text := by
    rw [← flatMap_source_segments (normalizeKey text), split, List.flatMap_append,
      List.flatMap_cons, no_before, no_after, List.nil_append, List.append_nil, Segment.source]
  subst whole
  rw [List.nil_append, List.append_nil] at cut
  have spaces : ∀ t ∈ T, ∀ c ∈ t.text, Unicode.isSpace c = true → c = ' ' := by
    intro t ht c hc blank
    refine @eq_space_of_mem_normalizeKey text c ?_ blank
    rw [← flatMap_text_scan (normalizeKey text)]
    exact List.mem_flatMap.mpr ⟨t, hT.subset ht, hc⟩
  have no_room : decomposedLength ((T.take p.length).flatMap Token.text) ≤
      decomposedLength ([' '].intercalate p.words) := by
    rwa [all_taken, cut, flatMap_text_scan]
  rw [← cut, ← tight no_room spaces, all_taken]

/-- Where a key is not read as its words, no phrase of it is looked up by the key, with or without
the article. -/
theorem key_ne_of_not_whole (apart : ¬ ∀ w ∈ words (normalizeKey text), IsWholeWord w)
    (hs : .text s ∈ segments (normalizeKey text)) (hT : T <:+: Token.scan s)
    (hp : p ∈ phrases limit T) :
    p.key ≠ normalizeKey text ∧ p.key ≠ article :: normalizeKey text := by
  have runs := isRunOf_of_mem_phrase hT hp
  have shorter : decomposedLength p.key < decomposedLength (normalizeKey text) := by
    rw [Phrase.key, decomposedLength_normalizeKey runs]
    by_contra fits
    have read := scan_eq_spaced_of_size_le hs hT hp (Nat.not_lt.mp fits)
    have spelled : [' '].intercalate p.words = normalizeKey text := intercalate_of_scan read
    apply apart
    rw [← spelled, words_intercalate runs]
    apply scan_intercalate_iff.mp
    rw [spelled, read]
  constructor
  · intro same
    rw [same] at shorter
    exact Nat.lt_irrefl _ shorter
  · intro same
    rw [same, ← List.singleton_append, decomposedLength_append] at shorter
    omega

end Phrases

end Template

/-! ## Keys that are read as words -/

namespace Lexicon

/-- An entry that is accepted is bound to its word. -/
theorem add_eq_ok_iff {lex next : Lexicon} {word : String} {e : Entry} :
    lex.add word e = .ok next ↔
      e.isValid word = true ∧ next = { lex.bind word e with version := lex.version + 1 } := by
  cases valid : e.isValid word with
  | true =>
      simp [add, extend, valid, bindAll]
      exact eq_comm
  | false => simp [add, extend, valid]

end Lexicon

namespace Template

open Lexicon

variable {lex next next' : Lexicon} {word : String} {e e' : Entry}

/-- Where a key is not read as its words, agreement with it does not depend on what was bound to
it. -/
theorem agree_key_eq_of_not_whole (apart : ¬ ∀ w ∈ words (normalizeKey word.toList), IsWholeWord w)
    (added : lex.add word e = .ok next) (added' : lex.add word e' = .ok next') (g : Gender) :
    agree next g (Lexicon.key word) = agree next' g (Lexicon.key word) := by
  obtain ⟨-, rfl⟩ := add_eq_ok_iff.mp added
  obtain ⟨-, rfl⟩ := add_eq_ok_iff.mp added'
  have same_words : ({ lex.bind word e with version := lex.version + 1 } : Lexicon).maxWords =
      ({ lex.bind word e' with version := lex.version + 1 } : Lexicon).maxWords := rfl
  refine agree_congr same_words ?_ g
  intro s hs T hT p hp
  rw [toList_key] at hs
  obtain ⟨other, other'⟩ := key_ne_of_not_whole apart hs hT hp
  exact (find?_bind other other').trans (find?_bind other other').symm

/-- Where a key is read as its words, agreement with it gives the form that was bound to it. -/
theorem agree_key_of_whole (whole : ∀ w ∈ words (normalizeKey word.toList), IsWholeWord w)
    (added : lex.add word e = .ok next) (g : Gender) :
    agree next g (Lexicon.key word) = e.form g := by
  obtain ⟨valid, rfl⟩ := add_eq_ok_iff.mp added
  rw [words_normalizeKey] at whole
  have nonempty := words_normalize_ne_nil (isVisible_of_isValid valid)
  have read : Token.scan (normalizeKey word.toList) = spaced (words (normalize word.toList)) :=
    scan_intercalate_iff.mpr whole
  have within : (words (normalize word.toList)).length ≤
      max lex.maxWords (wordCount (Lexicon.key word)) := by
    rw [wordCount, toList_key, count_normalizeKey nonempty]
    exact Nat.le_max_right _ _
  have has : Lexicon.find? { lex.bind word e with version := lex.version + 1 }
      (normalizeKey (normalizeKey word.toList)) = some ⟨e, false⟩ := by
    have bound : (lex.entries.insert (Lexicon.key word) e).get?
        (String.ofList (normalizeKey word.toList)) = some e := by
      rw [SortedMap.get?_insert]
      exact if_pos rfl
    rw [normalizeKey_normalizeKey]
    unfold find? Lexicon.bind
    dsimp only
    rw [bound]
  rw [← toList_key] at read has
  rw [agree_of_scan_eq_spaced read nonempty within has g]
  simp [Hit.form]

/-- **A word of a vocabulary is usable exactly when its key is read as words.** Whatever is bound
to a word, agreement with its key gives the form that was bound to it, if each word of the key is
one word of a text; otherwise that fails for some entry that the vocabulary accepts. -/
theorem add_usable_iff (lex : Lexicon) (word : String) :
    (∀ e next, lex.add word e = .ok next → ∀ g,
        agree next g (Lexicon.key word) = e.form g) ↔
      ∀ w ∈ words (normalizeKey word.toList), IsWholeWord w := by
  constructor
  · intro usable
    by_contra apart
    have visible : isBlank word.toList = false := by
      obtain ⟨w, hw, -⟩ : ∃ w ∈ words (normalizeKey word.toList), ¬ IsWholeWord w := by
        simpa using apart
      exact isVisible_iff.mp (isVisible_of_mem_words_normalizeKey hw)
    have accepted (form : String) (some_form : isBlank form.toList = false) :
        lex.add word ⟨⟨form, form, form, none⟩, false⟩ = .ok _ :=
      add_eq_ok_iff.mpr ⟨by simp [Entry.isValid, visible, some_form], rfl⟩
    -- two forms that differ would have to be the same text
    have one := accepted "א" (by decide)
    have other := accepted "ב" (by decide)
    have same := agree_key_eq_of_not_whole apart one other .male
    rw [usable _ _ one, usable _ _ other] at same
    exact absurd same (by decide)
  · intro whole e next added g
    exact agree_key_of_whole whole added g

/-- A phrase with an abbreviation in it is usable. -/
theorem add_usable_lawyer : ∀ e next, Lexicon.small.add "עו\"ד  ראשי" e = .ok next → ∀ g,
    agree next g (Lexicon.key "עו\"ד  ראשי") = e.form g :=
  (add_usable_iff .small "עו\"ד  ראשי").mpr (by decide +kernel)

/-- A word with a hyphen is accepted and never found: agreement leaves its key as it is. -/
theorem add_not_usable : ¬ ∀ (lex : Lexicon) (word : String) (e : Entry) (next : Lexicon),
    lex.add word e = .ok next → ∀ g, agree next g (Lexicon.key word) = e.form g := by
  intro usable
  have added : Lexicon.empty.add "בעל-דין" ⟨⟨"בעל-דין", "בעלת-דין", "בעלי-דין", none⟩, true⟩ =
      .ok _ := add_eq_ok_iff.mpr ⟨by decide +kernel, rfl⟩
  have found := usable _ _ _ _ added .female
  exact absurd found (by decide +kernel)

end Template

end Agreement
