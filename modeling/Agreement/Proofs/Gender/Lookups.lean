/- # Agreement.Proofs.Gender.Lookups: what a search looks up

A search in a text looks up the keys of its phrases and nothing else, so two vocabularies that have
the same for all of them find the same. A phrase decomposes into at least as many characters as its
key, and into no more only if single spaces stand between its words. A text that is read as the
words of a key is found as a whole.
-/
import Agreement.Proofs.Gender.Seams
import Agreement.Proofs.Gender.Settled
import Agreement.Proofs.Gender.Spelling

namespace Agreement

open Unicode Text Token

/-! ## Phrases -/

section Phrases

variable {s : List Char} {limit : Nat} {T : List Token} {p : Phrase}

theorem isRunOf_of_mem_phrase (hT : T <:+: Token.scan s) (hp : p ∈ phrases limit T) :
    ∀ w ∈ p.words, IsRunOf (!Unicode.isSpace ·) w := by
  obtain ⟨n, -, phrase, rfl⟩ := mem_phrases.mp hp
  exact isRunOf_of_mem_phraseWords (isSound_of_part hT) phrase

end Phrases

theorem words_ne_nil_of_mem_phrases {limit : Nat} {tokens : List Token} {p : Phrase}
    (hp : p ∈ phrases limit tokens) : p.words ≠ [] := by
  obtain ⟨n, -, phrase, rfl⟩ := mem_phrases.mp hp
  have count : (phraseAt tokens n).words.length = n := length_phraseWords _ _ _
  have positive := phrase.positive
  rw [← List.length_pos_iff, count]
  exact positive

/-- A phrase decomposes into at least as many characters as its words with single spaces between
them. Where there are no more, its tokens are just those, if spaces are its only blank space. -/
theorem decomposedLength_le_of_mem_phrases {limit : Nat} {tokens : List Token} {p : Phrase}
    (hp : p ∈ phrases limit tokens) (nonempty : ∀ t ∈ tokens, t.text ≠ []) :
    decomposedLength ([' '].intercalate p.words) ≤
        decomposedLength ((tokens.take p.length).flatMap text) ∧
      (decomposedLength ((tokens.take p.length).flatMap text) ≤
          decomposedLength ([' '].intercalate p.words) →
        (∀ t ∈ tokens, ∀ c ∈ t.text, Unicode.isSpace c = true → c = ' ') →
          tokens.take p.length = spaced p.words) := by
  induction limit generalizing tokens p with
  | zero => simp [phrases] at hp
  | succ limit ih =>
      cases tokens with
      | nil => simp [phrases] at hp
      | cons word rest =>
          obtain ⟨is_word, rfl | ⟨blank, rest, rfl, is_space, q, hq, rfl⟩⟩ :=
            mem_phrases_cons.mp hp
          · obtain ⟨kind, w⟩ := word
            obtain rfl : kind = .word := by simpa [isWord] using is_word
            simp [spaced]
          · obtain ⟨kind, w⟩ := word
            obtain rfl : kind = .word := by simpa [isWord] using is_word
            simp only [List.forall_mem_cons] at nonempty
            obtain ⟨-, some_blank, later⟩ := nonempty
            obtain ⟨below, exact_fit⟩ := ih hq later
            obtain ⟨next, more, eq⟩ :=
              List.exists_cons_of_ne_nil (words_ne_nil_of_mem_phrases hq)
            have gap := length_le_decomposedLength blank.text
            have some_gap := List.length_pos_iff.mpr some_blank
            simp only [eq, List.take_succ_cons, List.flatMap_cons, decomposedLength_append,
              List.intercalate_cons_cons, decomposedLength_space] at below exact_fit ⊢
            refine ⟨by omega, fun tight spaces => ?_⟩
            simp only [List.forall_mem_cons] at spaces
            obtain ⟨-, blank_spaces, later_spaces⟩ := spaces
            -- the blank space is one character, and that is a space
            obtain ⟨c, single⟩ := List.length_eq_one_iff.mp (show blank.text.length = 1 by omega)
            obtain ⟨kind, text⟩ := blank
            dsimp only at single blank_spaces
            simp only [Token.isSpace, isBlank, Bool.and_eq_true, beq_iff_eq, List.all_eq_true]
              at is_space
            obtain ⟨rfl, all_blank⟩ := is_space
            have member : c ∈ text := by rw [single]; exact List.mem_singleton_self c
            obtain rfl : c = ' ' := blank_spaces c member (all_blank c member)
            rw [exact_fit (by omega) later_spaces]
            subst single
            rfl

/-! ## Vocabularies that have the same for all phrases of a text -/

namespace Lexicon

variable {lex lex' : Lexicon} {limit : Nat} {tokens : List Token}

theorem longest_congr (same : ∀ p ∈ phrases limit tokens, lex.find? p.key = lex'.find? p.key) :
    lex.longest limit tokens = lex'.longest limit tokens := by
  rw [longest, longest, ← List.head?_filterMap, ← List.head?_filterMap]
  congr 1
  apply List.filterMap_congr
  intro p hp
  rw [same p (List.mem_reverse.mp hp)]

/-- The search depends only on what a vocabulary has for the phrases that it meets. -/
theorem piecesFrom_congr {skip : Nat}
    (same : ∀ T, T <:+ tokens → ∀ p ∈ phrases limit T, lex.find? p.key = lex'.find? p.key) :
    lex.piecesFrom limit skip tokens = lex'.piecesFrom limit skip tokens := by
  induction tokens generalizing skip with
  | nil => cases skip <;> rfl
  | cons t rest ih =>
      have later : ∀ T, T <:+ rest → ∀ p ∈ phrases limit T, lex.find? p.key = lex'.find? p.key :=
        fun T hT => same T (hT.trans (List.suffix_cons t rest))
      cases skip with
      | succ skip => exact ih later
      | zero =>
          have here := longest_congr (same (t :: rest) (List.suffix_refl _))
          rw [piecesFrom, piecesFrom, here]
          split
          · rw [ih later]
          · rw [ih later]

theorem inAgreement_congr {text : List Char} (words : lex.maxWords = lex'.maxWords)
    (same : ∀ T, T <:+: scan text → ∀ p ∈ phrases (max 1 lex.maxWords) T,
      lex.find? p.key = lex'.find? p.key) (g : Gender) (seams : Seams) :
    lex.inAgreement g seams text = lex'.inAgreement g seams text := by
  obtain ⟨first, middle, last, takes_first, takes_last, split, -⟩ := seams.exists_middle (scan text)
  have same_pieces : lex.piecesFrom (max 1 lex.maxWords) 0 middle =
      lex'.piecesFrom (max 1 lex.maxWords) 0 middle := by
    apply piecesFrom_congr
    intro T hT
    exact same T (hT.isInfix.trans (Seams.isInfix_middle split))
  rw [inAgreement, inAgreement, lex.pieces_eq takes_first takes_last,
    lex'.pieces_eq takes_first takes_last, ← words, same_pieces]

theorem piecesFrom_of_unknown
    (unknown : ∀ T, T <:+ tokens → ∀ p ∈ phrases limit T, lex.find? p.key = none) :
    lex.piecesFrom limit 0 tokens = tokens.map .kept := by
  induction tokens with
  | nil => rfl
  | cons t rest ih =>
      have missed : lex.longest limit (t :: rest) = none := by
        apply List.findSome?_eq_none_iff.mpr
        intro p hp
        rw [unknown _ List.suffix_rfl p (List.mem_reverse.mp hp)]
        rfl
      have later := ih fun T hT => unknown T (hT.trans (List.suffix_cons t rest))
      rw [piecesFrom_cons_of_none missed, later, List.map_cons]

/-- A text of which the vocabulary has no phrase stays as it is. -/
theorem inAgreement_of_unknown {text : List Char}
    (unknown : ∀ T, T <:+: scan text → ∀ p ∈ phrases (max 1 lex.maxWords) T,
      lex.find? p.key = none) (g : Gender) (seams : Seams) :
    lex.inAgreement g seams text = text := by
  obtain ⟨first, middle, last, takes_first, takes_last, split, -⟩ := seams.exists_middle (scan text)
  have all_kept : lex.piecesFrom (max 1 lex.maxWords) 0 middle = middle.map .kept := by
    apply piecesFrom_of_unknown
    intro T hT
    exact unknown T (hT.isInfix.trans (Seams.isInfix_middle split))
  have whole : lex.pieces seams text = (scan text).map .kept := by
    rw [lex.pieces_eq takes_first takes_last, all_kept, split, List.map_append, List.map_append,
      List.append_assoc]
  conv_rhs => rw [← flatMap_text_scan text]
  rw [inAgreement, whole, List.flatMap_map]
  rfl

/-- What is bound to a word makes a difference for its key alone, with or without the article. -/
theorem find?_bind {word : String} {e : Entry} {key : List Char}
    (apart : key ≠ normalizeKey word.toList)
    (apart' : key ≠ article :: normalizeKey word.toList) :
    (lex.bind word e).find? key = lex.find? key := by
  have other {k : List Char} (differ : k ≠ normalizeKey word.toList) :
      (lex.bind word e).entries.get? (String.ofList k) = lex.entries.get? (String.ofList k) := by
    have differ' : String.ofList k ≠ Lexicon.key word := by
      intro eq
      apply differ
      rw [← toList_key, ← eq, String.toList_ofList]
    rw [bind, SortedMap.get?_insert, if_neg differ']
  unfold find?
  rw [other apart]
  cases key with
  | nil => rfl
  | cons c stripped =>
      by_cases starts : c = article
      · have differ : stripped ≠ normalizeKey word.toList := by
          rintro rfl
          apply apart'
          rw [starts]
        simp only [other differ]
      · simp [starts]

end Lexicon

/-! ## Texts that are read as the words of a key -/

namespace Token

theorem isPhrase_spaced {ws : List (List Char)} (nonempty : ws ≠ []) :
    IsPhrase (tokenAt? (spaced ws)) 0 ws.length := by
  induction ws with
  | nil => exact absurd rfl nonempty
  | cons w rest ih =>
      cases rest with
      | nil => exact isPhrase_one.mpr ⟨⟨.word, w⟩, rfl, rfl⟩
      | cons next rest =>
          have later := ih (List.cons_ne_nil next rest)
          exact (isPhrase_cons later.positive).mpr ⟨rfl, space, _, rfl, by decide, later⟩

theorem phraseWords_spaced (ws : List (List Char)) :
    phraseWords (tokenAt? (spaced ws)) 0 ws.length = ws := by
  have first := take_phraseWords_spaced_append ws [] ws.length
  rwa [List.append_nil, List.take_length,
    List.take_of_length_le (Nat.le_of_eq (length_phraseWords _ _ _))] at first

/-- A text that is read as words is those words with single spaces between them. -/
theorem intercalate_of_scan {text : List Char} {ws : List (List Char)}
    (read : scan text = spaced ws) : [' '].intercalate ws = text := by
  rw [← flatMap_text_spaced, ← read, flatMap_text_scan]

theorem length_spaced (ws : List (List Char)) : (spaced ws).length = 2 * ws.length - 1 := by
  induction ws with
  | nil => rfl
  | cons w rest ih =>
      cases rest with
      | nil => rfl
      | cons next rest =>
          rw [spaced, List.length_cons, List.length_cons, ih]
          simp only [List.length_cons]
          omega

end Token

namespace Lexicon

variable {lex : Lexicon} {ws : List (List Char)} {hit : Hit}

/-- Words that are a key are found as a whole. -/
theorem longest_spaced {limit : Nat} (nonempty : ws ≠ []) (within : ws.length ≤ limit)
    (has : lex.find? (normalizeKey ([' '].intercalate ws)) = some hit) :
    lex.longest limit (spaced ws) = some (hit, 2 * ws.length - 1) := by
  have phrase := isPhrase_spaced nonempty
  have has_key : lex.find? (phraseKey (tokenAt? (spaced ws)) 0 ws.length) = some hit := by
    rw [phraseKey, phraseWords_spaced, has]
  cases found : lex.longest limit (spaced ws) with
  | none =>
      rw [longest_eq_none found _ within phrase] at has_key
      cases has_key
  | some p =>
      obtain ⟨hit', m⟩ := p
      obtain ⟨n, -, rfl, phrase', has', longer⟩ := longest_eq_some found
      have short := le_length_of_longest found
      rw [length_spaced] at short
      have positive := phrase'.positive
      have long : ws.length ≤ n := by
        by_contra beyond
        rw [longer _ within (Nat.not_le.mp beyond) phrase] at has_key
        cases has_key
      obtain rfl : n = ws.length := by omega
      rw [has'] at has_key
      rw [Option.some.inj has_key]

/-- A text that touches no placeholder is searched from end to end. -/
theorem inAgreement_alone (lex : Lexicon) (g : Gender) (text : List Char) :
    lex.inAgreement g {} text =
      (lex.piecesFrom (max 1 lex.maxWords) 0 (Token.scan text)).flatMap (·.form g) := by
  have takes_first : Seams.takeFirst {} (scan text) = ([], scan text ++ []) := by
    rw [List.append_nil]
    cases scan text <;> rfl
  have takes_last : Seams.takeLast {} (scan text ++ []) = (scan text, []) := by
    rw [List.append_nil]
    rfl
  rw [inAgreement, lex.pieces_eq takes_first takes_last]
  simp

/-- A text that is a key becomes the form of what is bound to it. -/
theorem inAgreement_of_scan_eq_spaced {text : List Char} (read : Token.scan text = spaced ws)
    (nonempty : ws ≠ []) (within : ws.length ≤ lex.maxWords)
    (has : lex.find? (normalizeKey text) = some hit) (g : Gender) :
    lex.inAgreement g {} text = hit.form g := by
  rw [← intercalate_of_scan read] at has
  have found := longest_spaced nonempty (Nat.le_trans within (Nat.le_max_right 1 _)) has
  have length := length_spaced ws
  have some_words := List.length_pos_iff.mpr nonempty
  obtain ⟨rest, eq⟩ := exists_spaced_eq_cons nonempty
  obtain ⟨m, size⟩ : ∃ m, 2 * ws.length - 1 = m + 1 := ⟨2 * ws.length - 2, by omega⟩
  rw [eq, size] at found
  rw [eq, size, List.length_cons] at length
  -- nothing is left behind the phrase
  rw [inAgreement_alone, read, eq, piecesFrom_of_some found, List.drop_of_length_le (by omega)]
  simp [piecesFrom, Piece.form]

/-- A text that is one word and no key stays as it is. -/
theorem inAgreement_of_find?_eq_none {text w : List Char} (read : Token.scan text = spaced [w])
    (unknown : lex.find? (normalizeKey text) = none) (g : Gender) :
    lex.inAgreement g {} text = text := by
  obtain rfl : w = text := by simpa using intercalate_of_scan read
  obtain ⟨limit, eq⟩ : ∃ limit, max 1 lex.maxWords = limit + 1 :=
    ⟨max 1 lex.maxWords - 1, by omega⟩
  have missed : lex.longest (limit + 1) [⟨.word, w⟩] = none := by
    simp [longest, phrases, isWord, Phrase.key, unknown]
  rw [inAgreement_alone, read, eq, spaced, piecesFrom_cons_of_none missed]
  simp [piecesFrom, Piece.form]

end Lexicon

end Agreement
