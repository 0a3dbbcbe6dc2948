/- # Agreement.Proofs.Gender.MaleForms: vocabularies that list words by their male forms

Where every entry stands under its male form, agreement with a man writes the words that it finds.
All that changes is the blank space inside a phrase: it becomes a single space. A search does not
tell blank space from blank space, so in what was written it finds the same phrases at the same
places, and writes them as they are.

Phrases are looked up in normal form. So this is said of texts whose phrases are in normal form
already when single spaces stand between their words.
-/
import Agreement.Proofs.Gender.Settled
import Agreement.Proofs.Gender.Spelling

namespace Agreement

open Unicode Text Token

/-! ## Single spaces -/

namespace Token

/-- A token with a single space in the place of blank space. -/
def respaced (t : Token) : Token := if t.isSpace then space else t

/-- A token is the other one, or a single space in the place of blank space. -/
inductive Respaces : Token → Token → Prop
  | same {t : Token} : Respaces t t
  | single {t : Token} : t.isSpace = true → Respaces t space

section Respaces

variable {t t' : Token} {tokens tokens' : List Token}

theorem respaces_respaced (t : Token) : Respaces t t.respaced := by
  unfold respaced
  split
  · next blank => exact .single blank
  · exact .same

theorem Respaces.isWord_eq (h : Respaces t t') : t'.isWord = t.isWord := by
  cases h with
  | same => rfl
  | single blank => rw [isWord_of_isSpace blank]; rfl

theorem Respaces.isSpace_eq (h : Respaces t t') : t'.isSpace = t.isSpace := by
  cases h with
  | same => rfl
  | single blank => rw [blank]; rfl

theorem Respaces.eq_of_isWord (h : Respaces t t') (word : t.isWord = true) : t' = t := by
  cases h with
  | same => rfl
  | single blank =>
      rw [isWord_of_isSpace blank] at word
      cases word

theorem Respaces.rewords (h : Respaces t t') (nonempty : t.text ≠ []) : Rewords t t' := by
  cases h with
  | same => exact .same nonempty
  | single blank => exact .of_isSpace nonempty blank (by decide)

theorem rewords_of_respaces (h : List.Forall₂ Respaces tokens tokens')
    (nonempty : ∀ t ∈ tokens, t.text ≠ []) : List.Forall₂ Rewords tokens tokens' := by
  induction h with
  | nil => exact .nil
  | cons first _ ih =>
      obtain ⟨some_text, later⟩ := List.forall_mem_cons.mp nonempty
      exact .cons (first.rewords some_text) (ih later)

/-- The search sees of a token whether it is a word or blank space, and the texts of words alone. -/
theorem phrases_eq_of_respaces (h : List.Forall₂ Respaces tokens tokens') (limit : Nat) :
    phrases limit tokens' = phrases limit tokens := by
  induction limit generalizing tokens tokens' with
  | zero => rw [phrases, phrases]
  | succ limit ih =>
      cases h with
      | nil => rfl
      | @cons word word' _ _ first later =>
          by_cases is_word : word.isWord = true
          · obtain rfl := first.eq_of_isWord is_word
            cases later with
            | nil => rfl
            | cons blank later => rw [phrases, phrases, blank.isSpace_eq, ih later]
          · rw [Bool.not_eq_true] at is_word
            rw [phrases_cons_of_not_word _ _ (first.isWord_eq.trans is_word),
              phrases_cons_of_not_word _ _ is_word]

end Respaces

/-- A phrase with single spaces is its words with single spaces between them. -/
theorem map_respaced_take {tokens : List Token} {n : Nat}
    (phrase : IsPhrase (tokenAt? tokens) 0 n) :
    (tokens.take (2 * n - 1)).map respaced = spaced (phraseWords (tokenAt? tokens) 0 n) := by
  have word_respaced {t : Token} (word : t.isWord = true) : t.respaced = ⟨.word, t.text⟩ := by
    obtain ⟨kind, text⟩ := t
    obtain rfl : kind = .word := by simpa [isWord] using word
    rfl
  induction n generalizing tokens with
  | zero => exact absurd phrase.positive (Nat.lt_irrefl 0)
  | succ n ih =>
      cases n with
      | zero =>
          obtain ⟨t, rest, rfl, word⟩ := phrase.exists_cons
          show [t.respaced] = _
          rw [word_respaced word]
          rfl
      | succ n =>
          obtain ⟨t, rest, rfl, -⟩ := phrase.exists_cons
          obtain ⟨word, blank, rest, rfl, is_space, later⟩ :=
            (isPhrase_cons (Nat.succ_pos n)).mp phrase
          have size : 2 * (n + 1 + 1) - 1 = 2 * (n + 1) - 1 + 2 := by omega
          have single : blank.respaced = space := if_pos is_space
          have words := phraseWords_cons_cons t blank rest (n + 1)
          have more := phraseWords_succ (tokenAt? rest) 0 n
          rw [size, List.take_succ_cons, List.take_succ_cons, List.map_cons, List.map_cons, ih later,
            word_respaced word, single, words, more]
          rfl

end Token

/-- A text whose phrases are in normal form once single spaces stand between their words. -/
def IsComposed (source : List Char) : Prop :=
  ∀ T, T <:+: scan source → ∀ n, IsPhrase (tokenAt? T) 0 n →
    normalize ([' '].intercalate (phraseWords (tokenAt? T) 0 n)) =
      [' '].intercalate (phraseWords (tokenAt? T) 0 n)

/-! ## The pieces of a text -/

namespace Piece

/-- The text of a piece with single spaces in the place of the blank space of a phrase. -/
def singleSpaced : Piece → List Char
  | kept token => token.text
  | phrase tokens _ => tokens.flatMap (·.respaced.text)

end Piece

namespace Lexicon

variable {lex : Lexicon} {limit : Nat} {tokens : List Token}

/-- What the search goes on with behind a phrase is a part of the same text. -/
theorem isInfix_behind {t : Token} {rest whole : List Token} (part : t :: rest <:+: whole)
    (m : Nat) : rest.drop m <:+: whole :=
  ((List.drop_suffix m rest).trans (List.suffix_cons t rest)).isInfix.trans part

/-- The search loses nothing of what it reads. -/
theorem flatMap_source_piecesFrom (lex : Lexicon) (limit : Nat) (tokens : List Token) :
    (lex.piecesFrom limit 0 tokens).flatMap Piece.source = tokens.flatMap text := by
  induction tokens using lex.search_induction limit with
  | nil => rfl
  | kept t rest missed ih =>
      rw [piecesFrom_cons_of_none missed, List.flatMap_cons, ih]
      rfl
  | phrase t rest hit m found ih =>
      have split : t :: rest = (t :: rest).take (m + 1) ++ rest.drop m := by simp
      rw [piecesFrom_of_some found, List.flatMap_cons, ih]
      conv_rhs => rw [split, List.flatMap_append]
      rfl

theorem flatMap_source_pieces (lex : Lexicon) (seams : Seams) (source : List Char) :
    (lex.pieces seams source).flatMap Piece.source = source := by
  obtain ⟨first, middle, last, takes_first, takes_last, split, -, -⟩ :=
    seams.exists_middle (scan source)
  have kept (tokens : List Token) :
      (tokens.map Piece.kept).flatMap Piece.source = tokens.flatMap text := by
    rw [List.flatMap_map]
    rfl
  conv_rhs => rw [← flatMap_text_scan source, split]
  rw [lex.pieces_eq takes_first takes_last, List.flatMap_append, List.flatMap_append, kept, kept,
    flatMap_source_piecesFrom, List.flatMap_append, List.flatMap_append, List.append_assoc]

/-! ## Entries that stand under their male forms -/

/-- Every entry stands under its male form. -/
def ListedByMale (lex : Lexicon) : Prop :=
  ∀ k e, lex.entries.get? k = some e → e.form .male = k

/-- The male form of what is found is what it was found by. -/
theorem ListedByMale.form_eq (listed : lex.ListedByMale) {key : List Char} {hit : Hit}
    (found : lex.find? key = some hit) : hit.form .male = key := by
  cases has_of_find? found with
  | @direct _ e entry =>
      show (e.form .male).toList = key
      rw [listed _ _ entry, String.toList_ofList]
  | @article stripped e _ entry _ =>
      show article :: (e.form .male).toList = article :: stripped
      rw [listed _ _ entry, String.toList_ofList]

namespace ListedByMale

variable {source : List Char} (listed : lex.ListedByMale) (composed : IsComposed source)
include listed composed

/-- What is written for a phrase is the phrase with single spaces. -/
theorem spaced_form (part : tokens <:+: scan source) {hit : Hit} {m : Nat}
    (found : lex.longest limit tokens = some (hit, m)) :
    spaced ((hit.form .male).splitOn ' ') = (tokens.take m).map respaced := by
  obtain ⟨n, -, rfl, phrase, has, -⟩ := longest_eq_some found
  have visible := isRunOf_of_mem_phraseWords (isSound_of_part part) phrase
  have form : hit.form .male = [' '].intercalate (phraseWords (tokenAt? tokens) 0 n) := by
    rw [listed.form_eq has, phraseKey, normalizeKey_intercalate visible,
      composed tokens part n phrase]
  have no_space : ∀ w ∈ phraseWords (tokenAt? tokens) 0 n, ' ' ∉ w := by
    intro w hw inside
    have blank := (visible w hw).2 ' ' inside
    exact absurd blank (by decide)
  have some_word : phraseWords (tokenAt? tokens) 0 n ≠ [] := by
    apply List.ne_nil_of_length_pos
    rw [length_phraseWords]
    exact phrase.positive
  rw [form, List.splitOn_intercalate _ no_space some_word, map_respaced_take phrase]

/-- **The search writes what it reads, with single spaces for blank space.** -/
theorem respaces_agreedFrom (limit : Nat) (part : tokens <:+: scan source) :
    List.Forall₂ Respaces tokens (lex.agreedFrom .male limit tokens) := by
  induction tokens using lex.search_induction limit with
  | nil => exact .nil
  | kept t rest missed ih =>
      have later : rest <:+: scan source := isInfix_behind part 0
      rw [agreedFrom_of_none missed]
      exact .cons .same (ih later)
  | phrase t rest hit m found ih =>
      have later := isInfix_behind part m
      have run (l : List Token) : List.Forall₂ Respaces l (l.map respaced) := by
        rw [List.forall₂_map_right_iff, List.forall₂_same]
        intro u _
        exact respaces_respaced u
      have split : t :: rest = (t :: rest).take (m + 1) ++ rest.drop m := by simp
      rw [agreedFrom_of_some found, listed.spaced_form composed part found]
      conv_lhs => rw [split]
      exact List.rel_append (run _) (ih later)

/-- In what it wrote the search finds the same. -/
theorem longest_agreedFrom (limit : Nat) (part : tokens <:+: scan source) :
    lex.longest limit (lex.agreedFrom .male limit tokens) = lex.longest limit tokens := by
  have same := phrases_eq_of_respaces (listed.respaces_agreedFrom composed limit part) limit
  rw [longest, longest, same]

/-- What the search wrote it writes again as it is. -/
theorem agreedFrom_agreedFrom (limit : Nat) (part : tokens <:+: scan source) :
    lex.agreedFrom .male limit (lex.agreedFrom .male limit tokens) =
      lex.agreedFrom .male limit tokens := by
  induction tokens using lex.search_induction limit with
  | nil => rfl
  | kept t rest missed ih =>
      have later : rest <:+: scan source := isInfix_behind part 0
      have again := listed.longest_agreedFrom composed limit part
      rw [missed, agreedFrom_of_none missed] at again
      rw [agreedFrom_of_none missed, agreedFrom_of_none again, ih later]
  | phrase t rest hit m found ih =>
      have later := isInfix_behind part m
      have again := listed.longest_agreedFrom composed limit part
      -- for the tokens of the phrase as many are written, and the search passes over them
      have written : spaced ((hit.form .male).splitOn ' ') =
          t.respaced :: (rest.take m).map respaced := listed.spaced_form composed part found
      have size : ((rest.take m).map respaced).length = m := by
        have short := le_length_of_longest found
        rw [List.length_cons] at short
        rw [List.length_map, List.length_take]
        omega
      rw [found, agreedFrom_of_some found, written, List.cons_append] at again
      rw [agreedFrom_of_some found, written, List.cons_append, agreedFrom_of_some again, written,
        List.drop_left' size, ih later, List.cons_append]

/-- **A vocabulary listed by male forms changes a composed text once.** -/
theorem agreesOnce : lex.AgreesOnce .male source where
  rewords := by
    intro T hT
    apply rewords_of_respaces (listed.respaces_agreedFrom composed _ hT)
    intro t ht
    exact (isSound_of_part hT t ht).nonempty
  again := by
    intro T hT
    rw [listed.agreedFrom_agreedFrom composed _ hT]

theorem flatMap_form_piecesFrom (limit : Nat) (part : tokens <:+: scan source) :
    (lex.piecesFrom limit 0 tokens).flatMap (·.form .male) =
      (lex.piecesFrom limit 0 tokens).flatMap Piece.singleSpaced := by
  induction tokens using lex.search_induction limit with
  | nil => rfl
  | kept t rest missed ih =>
      have later : rest <:+: scan source := isInfix_behind part 0
      rw [piecesFrom_cons_of_none missed, List.flatMap_cons, List.flatMap_cons, ih later]
      rfl
  | phrase t rest hit m found ih =>
      have later := isInfix_behind part m
      have form : hit.form .male = ((t :: rest).take (m + 1)).flatMap (·.respaced.text) := by
        have written := congrArg (List.flatMap text) (listed.spaced_form composed part found)
        rwa [flatMap_text_spaced, List.intercalate_splitOn, List.flatMap_map] at written
      rw [piecesFrom_of_some found, List.flatMap_cons, List.flatMap_cons, ih later]
      exact congrArg (· ++ _) form

/-- Agreement with a man writes the pieces of a text with single spaces. -/
theorem flatMap_form_pieces (seams : Seams) :
    (lex.pieces seams source).flatMap (·.form .male) =
      (lex.pieces seams source).flatMap Piece.singleSpaced := by
  obtain ⟨first, middle, last, takes_first, takes_last, split, -, -⟩ :=
    seams.exists_middle (scan source)
  have part := Seams.isInfix_middle split
  have kept (tokens : List Token) : (tokens.map Piece.kept).flatMap (·.form .male) =
      (tokens.map Piece.kept).flatMap Piece.singleSpaced := by
    rw [List.flatMap_map, List.flatMap_map]
    rfl
  rw [lex.pieces_eq takes_first takes_last, List.flatMap_append, List.flatMap_append, kept, kept,
    listed.flatMap_form_piecesFrom composed _ part, List.flatMap_append, List.flatMap_append]

end ListedByMale

end Lexicon

end Agreement
