/- # Agreement.Proofs.Gender.Settled: vocabularies that change a text once

What agreement writes could be looked for again: a form could be another word of the vocabulary, or
make up a phrase together with its neighbours. In a settled vocabulary neither happens. Its forms
are Hebrew words, as many as the key has; none starts or ends where another key goes on; and a key
inside a form stands for itself.

What a text needs to stay as it is in agreement is less, and a vocabulary may offer it to some texts
only: what is written for a part of the text may stand in the place of the part, and is written
again as it is. Such a text is changed once.
-/
import Agreement.Proofs.Gender.Rewording
import Agreement.Proofs.Gender.Seams
import Agreement.Proofs.Gender.Selection

namespace Agreement

open Unicode Text

/-- Hebrew words with single spaces between them. -/
def IsHebrewPhrase (text : List Char) : Prop := ∀ w ∈ text.splitOn ' ', IsRunOf isHebrew w

instance (text : List Char) : Decidable (IsHebrewPhrase text) :=
  inferInstanceAs (Decidable (∀ w ∈ text.splitOn ' ', IsRunOf isHebrew w))

/-- A vocabulary whose forms for a gender are neither found again nor part of what is found. -/
structure Lexicon.Settled (lex : Lexicon) (g : Gender) : Prop where
  key : ∀ {k h}, lex.find? k = some h → IsHebrewPhrase k
  form : ∀ {k h}, lex.find? k = some h → IsHebrewPhrase (h.form g)
  /-- A form has as many words as its key. -/
  count : ∀ {k h}, lex.find? k = some h →
    ((h.form g).splitOn ' ').length = (k.splitOn ' ').length
  /-- No key goes on with the first word of a form. -/
  start : ∀ {k h k' h'}, lex.find? k = some h → lex.find? k' = some h' →
    ((h.form g).splitOn ' ').headD [] ∉ (k'.splitOn ' ').tail
  /-- No key has the last word of a form and goes on behind it. -/
  stop : ∀ {k h k' h'}, lex.find? k = some h → lex.find? k' = some h' →
    ((h.form g).splitOn ' ').getLastD [] ∉ (k'.splitOn ' ').dropLast
  /-- A key inside a form is its own form. -/
  again : ∀ {k h k' h'}, lex.find? k = some h → lex.find? k' = some h' →
    k'.splitOn ' ' <:+: (h.form g).splitOn ' ' → h'.form g = k'

/-! ## Tokens of words -/

namespace Token

/-- A single space. -/
def space : Token := ⟨.separator, [' ']⟩

/-- The tokens of words with single spaces between them. -/
def spaced : List (List Char) → List Token
  | [] => []
  | [w] => [⟨.word, w⟩]
  | w :: next :: rest => ⟨.word, w⟩ :: space :: spaced (next :: rest)

theorem flatMap_text_spaced (ws : List (List Char)) :
    (spaced ws).flatMap text = [' '].intercalate ws := by
  induction ws with
  | nil => rfl
  | cons w rest ih =>
      cases rest with
      | nil => simp [spaced]
      | cons next rest =>
          rw [spaced, List.flatMap_cons, List.flatMap_cons, ih, List.intercalate_cons_cons,
            List.append_assoc]
          rfl

theorem exists_spaced_eq_cons {ws : List (List Char)} (nonempty : ws ≠ []) :
    ∃ rest, spaced ws = ⟨.word, ws.headD []⟩ :: rest := by
  match ws with
  | [w] => exact ⟨[], rfl⟩
  | w :: next :: rest => exact ⟨_, rfl⟩

theorem isWord_of_isSpace {t : Token} (h : t.isSpace = true) : t.isWord = false := by
  obtain ⟨kind, text⟩ := t
  cases kind
  · cases h
  · rfl

/-- The first words of a phrase that starts with such tokens. -/
theorem take_phraseWords_spaced_append (ws : List (List Char)) (D : List Token) (n : Nat) :
    (phraseWords (tokenAt? (spaced ws ++ D)) 0 n).take ws.length = ws.take n := by
  induction ws generalizing n with
  | nil => simp
  | cons w rest ih =>
      cases n with
      | zero => rfl
      | succ n =>
          cases rest with
          | nil => simp [spaced, phraseWords_succ, tokenAt?]
          | cons next rest =>
              have words := phraseWords_cons_cons ⟨.word, w⟩ space (spaced (next :: rest) ++ D) n
              rw [spaced, List.cons_append, List.cons_append, words, List.length_cons,
                List.take_succ_cons, ih, List.take_succ_cons]

theorem take_spaced_append {ws : List (List Char)} (D : List Token) {n : Nat} (positive : 0 < n)
    (within : n ≤ ws.length) : (spaced ws ++ D).take (2 * n - 1) = spaced (ws.take n) := by
  induction ws generalizing n with
  | nil => exact absurd within (Nat.not_le_of_lt positive)
  | cons w rest ih =>
      match n, rest with
      | 1, [] | 1, _ :: _ => rfl
      | n + 2, next :: rest =>
          have size : 2 * (n + 2) - 1 = 2 * (n + 1) - 1 + 2 := by omega
          have later := ih (Nat.succ_pos n) (by simpa using within)
          rw [spaced, List.cons_append, List.cons_append, size, List.take_succ_cons,
            List.take_succ_cons, later]
          rfl

/-- A word or separator as texts have them: it holds something, and a word no blank space. -/
structure IsSound (t : Token) : Prop where
  nonempty : t.text ≠ []
  visible : t.isWord = true → ∀ c ∈ t.text, Unicode.isSpace c = false

theorem isSound_of_mem_scan {source : List Char} {t : Token} (ht : t ∈ scan source) : t.IsSound :=
  ⟨text_ne_nil_of_mem_scan ht, fun word _ => isSpace_of_mem_word ht word⟩

theorem isSound_of_part {source : List Char} {T : List Token} (hT : T <:+: scan source) :
    ∀ t ∈ T, t.IsSound :=
  fun _ ht => isSound_of_mem_scan (hT.subset ht)

/-- What may stand in the place of a sound token is sound. -/
theorem Rewords.isSound {t t' : Token} (h : Rewords t t') (sound : t.IsSound) : t'.IsSound := by
  refine ⟨h.text_ne_nil, ?_⟩
  cases h with
  | same _ => exact sound.visible
  | word _ new =>
      intro _ c hc
      exact isSpace_of_isHebrew (new.2 c hc)
  | space _ _ =>
      intro word
      cases word

theorem isSound_of_rewords {tokens tokens' : List Token}
    (h : List.Forall₂ Rewords tokens tokens') (sound : ∀ t ∈ tokens, t.IsSound) :
    ∀ t ∈ tokens', t.IsSound := by
  induction h with
  | nil => exact sound
  | cons first _ ih =>
      obtain ⟨sound_first, sound_later⟩ := List.forall_mem_cons.mp sound
      exact List.forall_mem_cons.mpr ⟨first.isSound sound_first, ih sound_later⟩

/-- The words of a phrase are visible. -/
theorem isRunOf_of_mem_phraseWords {tokens : List Token} (sound : ∀ t ∈ tokens, t.IsSound) {n : Nat}
    (phrase : IsPhrase (tokenAt? tokens) 0 n) :
    ∀ w ∈ phraseWords (tokenAt? tokens) 0 n, IsRunOf (!Unicode.isSpace ·) w := by
  intro w hw
  obtain ⟨j, hj, rfl⟩ := List.mem_map.mp hw
  obtain ⟨t, at_place, word⟩ := phrase.word j (List.mem_range.mp hj)
  have sound_t := sound t (List.mem_of_getElem? at_place)
  rw [at_place]
  exact ⟨sound_t.nonempty, fun c hc => by simp [sound_t.visible word c hc]⟩

/-- The tokens of a Hebrew phrase may be replaced by those of as many Hebrew words. -/
theorem rewords_take_spaced {tokens : List Token} (sound : ∀ t ∈ tokens, t.IsSound) {n : Nat}
    (phrase : IsPhrase (tokenAt? tokens) 0 n)
    (old : ∀ w ∈ phraseWords (tokenAt? tokens) 0 n, IsRunOf isHebrew w) {ws : List (List Char)}
    (new : ∀ w ∈ ws, IsRunOf isHebrew w) (count : ws.length = n) :
    List.Forall₂ Rewords (tokens.take (2 * n - 1)) (spaced ws) := by
  -- behind the first word and blank space there is a phrase with one word less
  induction n generalizing tokens ws with
  | zero => exact absurd phrase.positive (Nat.lt_irrefl 0)
  | succ n ih =>
      obtain ⟨w, ws, rfl⟩ := List.exists_cons_of_length_eq_add_one count
      obtain ⟨new_first, new_later⟩ := List.forall_mem_cons.mp new
      obtain ⟨t, rest, rfl, is_word⟩ := phrase.exists_cons
      cases n with
      | zero =>
          obtain rfl : ws = [] := by simpa using count
          have old_first := old t.text (by simp [phraseWords, tokenAt?])
          exact .cons (.of_isWord is_word old_first new_first) .nil
      | succ n =>
          obtain ⟨next, ws, rfl⟩ :=
            List.exists_cons_of_length_eq_add_one (Nat.succ.inj count)
          obtain ⟨-, blank, rest, rfl, is_space, phrase⟩ :=
            (isPhrase_cons (Nat.succ_pos n)).mp phrase
          rw [phraseWords_cons_cons] at old
          obtain ⟨old_first, old_later⟩ := List.forall_mem_cons.mp old
          simp only [List.forall_mem_cons] at sound
          obtain ⟨-, sound_blank, sound_later⟩ := sound
          have size : 2 * (n + 1 + 1) - 1 = 2 * (n + 1) - 1 + 2 := by omega
          rw [size, List.take_succ_cons, List.take_succ_cons, spaced]
          exact .cons (.of_isWord is_word old_first new_first) <|
            .cons (.of_isSpace sound_blank.nonempty is_space (by decide)) <|
              ih sound_later phrase old_later new_later (Nat.succ.inj count)

end Token

open Token

/-- The tokens of a piece for a gender. -/
def Piece.written (g : Gender) : Piece → List Token
  | kept token => [token]
  | phrase _ hit => spaced ((hit.form g).splitOn ' ')

theorem Piece.flatMap_text_written (g : Gender) (p : Piece) :
    (p.written g).flatMap text = p.form g := by
  cases p with
  | kept token => simp [written, form]
  | phrase tokens hit =>
      rw [written, flatMap_text_spaced, List.intercalate_splitOn]
      rfl

namespace Lexicon

variable {lex : Lexicon} {g : Gender} {limit : Nat} {tokens : List Token}

/-- Induction along the search: a token is kept, or a phrase found and passed over. -/
theorem search_induction (lex : Lexicon) (limit : Nat) {motive : List Token → Prop}
    (nil : motive [])
    (kept : ∀ t rest, lex.longest limit (t :: rest) = none → motive rest → motive (t :: rest))
    (phrase : ∀ t rest hit m, lex.longest limit (t :: rest) = some (hit, m + 1) →
      motive (rest.drop m) → motive (t :: rest))
    (tokens : List Token) : motive tokens := by
  induction size : tokens.length using Nat.strong_induction_on generalizing tokens with
  | _ d ih =>
      cases tokens with
      | nil => exact nil
      | cons t rest =>
          rw [List.length_cons] at size
          cases found : lex.longest limit (t :: rest) with
          | none => exact kept t rest found (ih _ (by omega) rest rfl)
          | some p =>
              obtain ⟨hit, m⟩ := p
              obtain ⟨n, -, rfl, is_phrase, -⟩ := longest_eq_some found
              obtain ⟨m, eq⟩ : ∃ m, 2 * n - 1 = m + 1 :=
                ⟨2 * n - 2, by have := is_phrase.positive; omega⟩
              rw [eq] at found
              refine phrase t rest hit m found (ih _ ?_ _ rfl)
              rw [List.length_drop]
              omega

/-- The tokens that the search writes. -/
def agreedFrom (lex : Lexicon) (g : Gender) (limit : Nat) (tokens : List Token) : List Token :=
  (lex.piecesFrom limit 0 tokens).flatMap (·.written g)

theorem agreedFrom_of_none {t : Token} {rest : List Token}
    (missed : lex.longest limit (t :: rest) = none) :
    lex.agreedFrom g limit (t :: rest) = t :: lex.agreedFrom g limit rest := by
  rw [agreedFrom, piecesFrom_cons_of_none missed]
  rfl

theorem agreedFrom_of_some {t : Token} {rest : List Token} {hit : Hit} {m : Nat}
    (found : lex.longest limit (t :: rest) = some (hit, m + 1)) :
    lex.agreedFrom g limit (t :: rest) =
      spaced ((hit.form g).splitOn ' ') ++ lex.agreedFrom g limit (rest.drop m) := by
  rw [agreedFrom, piecesFrom_of_some found]
  rfl

namespace Settled

variable (settled : lex.Settled g)
include settled

/-- A phrase that is found has the words of its key. -/
theorem phraseWords_eq (sound : ∀ t ∈ tokens, t.IsSound) {n : Nat} {hit : Hit}
    (phrase : IsPhrase (tokenAt? tokens) 0 n)
    (found : lex.find? (phraseKey (tokenAt? tokens) 0 n) = some hit) :
    phraseWords (tokenAt? tokens) 0 n = (phraseKey (tokenAt? tokens) 0 n).splitOn ' ' := by
  refine eq_of_normalizeKey (isRunOf_of_mem_phraseWords sound phrase) (settled.key found) ?_
  rw [List.intercalate_splitOn]
  rfl

/-- What the search writes may stand in the place of what it reads. -/
theorem rewords_agreedFrom (limit : Nat) (sound : ∀ t ∈ tokens, t.IsSound) :
    List.Forall₂ Rewords tokens (lex.agreedFrom g limit tokens) := by
  induction tokens using lex.search_induction limit with
  | nil => exact .nil
  | kept t rest missed ih =>
      obtain ⟨first, later⟩ := List.forall_mem_cons.mp sound
      rw [agreedFrom_of_none missed]
      exact .cons (.same first.nonempty) (ih later)
  | phrase t rest hit m found ih =>
      obtain ⟨n, -, size, phrase, has, -⟩ := longest_eq_some found
      have words := settled.phraseWords_eq sound phrase has
      have count : ((hit.form g).splitOn ' ').length = n := by
        rw [settled.count has, ← words, length_phraseWords]
      have run := rewords_take_spaced sound phrase (words ▸ settled.key has) (settled.form has) count
      rw [← size, List.take_succ_cons] at run
      have later := ih fun u hu => sound u (List.mem_cons_of_mem t (List.mem_of_mem_drop hu))
      have split : t :: rest = (t :: rest.take m) ++ rest.drop m := by simp
      rw [agreedFrom_of_some found, split]
      exact List.rel_append run later

omit settled in
/-- Where no form starts, the search writes what it reads. -/
theorem take_agreedFrom {n : Nat}
    (fresh : ∀ i < n, ∀ u, (lex.agreedFrom g limit tokens)[i]? = some u → u.isWord = true →
      ∀ k h, lex.find? k = some h → ((h.form g).splitOn ' ').headD [] ≠ u.text) :
    (lex.agreedFrom g limit tokens).take n = tokens.take n := by
  induction tokens using lex.search_induction limit generalizing n with
  | nil => rfl
  | kept t rest missed ih =>
      rw [agreedFrom_of_none missed] at fresh ⊢
      cases n with
      | zero => rfl
      | succ n =>
          rw [List.take_succ_cons, List.take_succ_cons, ih]
          intro i hi u at_place
          exact fresh (i + 1) (Nat.succ_lt_succ hi) u at_place
  | phrase t rest hit m found ih =>
      rw [agreedFrom_of_some found] at fresh ⊢
      cases n with
      | zero => rfl
      | succ n =>
          -- the first token would be the first word of a form
          obtain ⟨_, -, -, -, has, -⟩ := longest_eq_some found
          obtain ⟨more, eq⟩ := exists_spaced_eq_cons (List.splitOn_ne_nil ' ' (hit.form g))
          rw [eq] at fresh
          exact absurd rfl (fresh 0 (Nat.succ_pos n) _ rfl rfl _ _ has)

/-- Where a token was kept, nothing is found in what the search wrote. -/
theorem longest_agreedFrom_eq_none {t : Token} {rest : List Token}
    (sound : ∀ u ∈ t :: lex.agreedFrom g limit rest, u.IsSound)
    (missed : lex.longest limit (t :: rest) = none) :
    lex.longest limit (t :: lex.agreedFrom g limit rest) = none := by
  cases found : lex.longest limit (t :: lex.agreedFrom g limit rest) with
  | none => rfl
  | some p =>
      obtain ⟨hit, m⟩ := p
      obtain ⟨n, within, -, phrase, has, -⟩ := longest_eq_some found
      have words := settled.phraseWords_eq sound phrase has
      -- the words of the phrase behind the first one go on with a key, so no form starts there
      have same_rest : (lex.agreedFrom g limit rest).take (2 * n - 2) = rest.take (2 * n - 2) := by
        apply take_agreedFrom
        intro i hi u at_place word k h has' eq
        obtain ⟨j, rfl | rfl⟩ : ∃ j, i = 2 * j ∨ i = 2 * j + 1 := ⟨i / 2, by omega⟩
        · obtain ⟨u', at_place', blank⟩ := phrase.space j (by omega)
          rw [Nat.zero_add, tokenAt?, List.getElem?_cons_succ, at_place] at at_place'
          cases at_place'
          rw [isWord_of_isSpace blank] at word
          cases word
        · refine settled.start has' has ?_
          rw [eq, ← words]
          apply List.mem_of_getElem? (i := j)
          rw [List.getElem?_tail, phraseWords, List.getElem?_map,
            List.getElem?_range (by omega)]
          simp [tokenAt?, Nat.mul_succ, at_place]
      have same : ∀ j < 2 * n - 1, tokenAt? (t :: rest) (0 + j) =
          tokenAt? (t :: lex.agreedFrom g limit rest) (0 + j) := by
        intro j hj
        rw [Nat.zero_add, tokenAt?, tokenAt?]
        cases j with
        | zero => rfl
        | succ j =>
            rw [List.getElem?_cons_succ, List.getElem?_cons_succ,
              ← List.getElem?_take_of_lt (show j < 2 * n - 2 by omega), ← same_rest,
              List.getElem?_take_of_lt (by omega)]
      have none_there := longest_eq_none missed n within (phrase.congr same)
      rw [phraseKey, phraseWords_congr same] at none_there
      rw [phraseKey, none_there] at has
      cases has

end Settled

/-- What is found in tokens, one after the other, stands there in its form already. -/
def Steady (lex : Lexicon) (g : Gender) (limit : Nat) : List Token → Prop
  | [] => True
  | t :: rest =>
    (∀ hit m, lex.longest limit (t :: rest) = some (hit, m) →
      hit.form g = ((t :: rest).take m).flatMap text) ∧ lex.Steady g limit rest

theorem Steady.drop (h : lex.Steady g limit tokens) (n : Nat) :
    lex.Steady g limit (tokens.drop n) := by
  induction tokens generalizing n with
  | nil => simpa using h
  | cons t rest ih =>
      cases n with
      | zero => exact h
      | succ n => exact ih h.2 n

/-- The search writes steady tokens as they are. -/
theorem Steady.flatMap_text_agreedFrom (h : lex.Steady g limit tokens) :
    (lex.agreedFrom g limit tokens).flatMap text = tokens.flatMap text := by
  induction tokens using lex.search_induction limit with
  | nil => rfl
  | kept t rest missed ih =>
      rw [agreedFrom_of_none missed, List.flatMap_cons, List.flatMap_cons, ih h.2]
  | phrase t rest hit m found ih =>
      have split : t :: rest = (t :: rest).take (m + 1) ++ rest.drop m := by simp
      rw [agreedFrom_of_some found, List.flatMap_append, flatMap_text_spaced,
        List.intercalate_splitOn, h.1 hit _ found, ih (h.2.drop m), ← List.flatMap_append, ← split]

namespace Settled

variable (settled : lex.Settled g)
include settled

/-- What is found at a word of a form is a part of the form, and in its form already. -/
theorem form_eq_of_longest {k : List Char} {h : Hit} (has : lex.find? k = some h)
    {D : List Token} {ws : List (List Char)} (nonempty : ws ≠ [])
    (last : ws <:+ (h.form g).splitOn ' ') (sound : ∀ u ∈ spaced ws ++ D, u.IsSound) {hit : Hit}
    {m : Nat} (found : lex.longest limit (spaced ws ++ D) = some (hit, m)) :
    hit.form g = ((spaced ws ++ D).take m).flatMap text := by
  obtain ⟨n, -, rfl, phrase, has', -⟩ := longest_eq_some found
  have words := settled.phraseWords_eq sound phrase has'
  have first := take_phraseWords_spaced_append ws D n
  have count := length_phraseWords (tokenAt? (spaced ws ++ D)) 0 n
  rw [words] at first count
  rcases Nat.lt_or_ge ws.length n with beyond | within
  · -- the key would go on behind the last word of the form
    exfalso
    rw [List.take_of_length_le (Nat.le_of_lt beyond)] at first
    obtain ⟨front, eq⟩ := last
    apply settled.stop has has'
    rw [← eq, List.getLastD_eq_getLast?, List.getLast?_append_of_ne_nil front nonempty,
      List.getLast?_eq_some_getLast nonempty, Option.getD_some, List.dropLast_eq_take, count,
      ← List.take_append_drop ws.length (List.take _ _), List.take_take,
      Nat.min_eq_left (by omega), first]
    exact List.mem_append_left _ (List.getLast_mem nonempty)
  · rw [List.take_of_length_le (by omega)] at first
    rw [take_spaced_append D phrase.positive within, flatMap_text_spaced, ← first,
      List.intercalate_splitOn]
    apply settled.again has has'
    rw [first]
    exact (List.take_prefix n ws).isInfix.trans last.isInfix

/-- The words of a form are steady in front of steady tokens. -/
theorem steady_spaced_append {k : List Char} {h : Hit} (has : lex.find? k = some h)
    {D : List Token} (steady : lex.Steady g limit D) {ws : List (List Char)}
    (last : ws <:+ (h.form g).splitOn ' ') (sound : ∀ u ∈ spaced ws ++ D, u.IsSound) :
    lex.Steady g limit (spaced ws ++ D) := by
  induction ws with
  | nil => exact steady
  | cons w rest ih =>
      have here := @form_eq_of_longest lex g limit settled k h has D (w :: rest)
        (List.cons_ne_nil w rest) last sound
      have last' := (List.suffix_cons w rest).trans last
      cases rest with
      | nil => exact ⟨@here, steady⟩
      | cons next rest =>
          simp only [spaced, List.cons_append, List.forall_mem_cons] at sound
          refine ⟨@here, ?_, ih last' sound.2.2⟩
          intro hit m found
          rw [longest_cons_of_not_word lex limit _ rfl] at found
          cases found

/-- **What the search writes is steady.** -/
theorem steady_agreedFrom (limit : Nat) (sound : ∀ u ∈ lex.agreedFrom g limit tokens, u.IsSound) :
    lex.Steady g limit (lex.agreedFrom g limit tokens) := by
  induction tokens using lex.search_induction limit with
  | nil => trivial
  | kept t rest missed ih =>
      rw [agreedFrom_of_none missed] at sound ⊢
      refine ⟨?_, ih fun u hu => sound u (List.mem_cons_of_mem t hu)⟩
      intro hit m found
      rw [settled.longest_agreedFrom_eq_none sound missed] at found
      cases found
  | phrase t rest hit m found ih =>
      rw [agreedFrom_of_some found] at sound ⊢
      obtain ⟨_, -, -, -, has, -⟩ := longest_eq_some found
      exact settled.steady_spaced_append has
        (ih fun u hu => sound u (List.mem_append_right _ hu)) List.suffix_rfl sound

end Settled

/-! ## A text in agreement -/

/-- The tokens of a text in agreement, the words that touch a placeholder among them. -/
def agreedScan (lex : Lexicon) (g : Gender) (seams : Seams) (source : List Char) : List Token :=
  (lex.pieces seams source).flatMap (·.written g)

theorem inAgreement_eq_flatMap (lex : Lexicon) (g : Gender) (seams : Seams) (source : List Char) :
    lex.inAgreement g seams source = (lex.agreedScan g seams source).flatMap text := by
  rw [agreedScan, List.flatMap_assoc]
  simp only [Piece.flatMap_text_written]
  rfl

theorem agreedScan_eq {seams : Seams} {source : List Char} {first middle last : List Token}
    (takes_first : seams.takeFirst (scan source) = (first, middle ++ last))
    (takes_last : seams.takeLast (middle ++ last) = (middle, last)) :
    lex.agreedScan g seams source =
      first ++ (lex.agreedFrom g (max 1 lex.maxWords) middle ++ last) := by
  have kept (tokens : List Token) : (tokens.map Piece.kept).flatMap (·.written g) = tokens := by
    rw [List.flatMap_map]
    exact List.flatMap_singleton' tokens
  rw [agreedScan, lex.pieces_eq takes_first takes_last, List.flatMap_append, List.flatMap_append,
    kept, kept, List.append_assoc]
  rfl

/-- A text that agreement changes once: what the search writes for a part of it may stand in the
place of the part, and is written again as it is. -/
structure AgreesOnce (lex : Lexicon) (g : Gender) (source : List Char) : Prop where
  rewords : ∀ T, T <:+: scan source →
    List.Forall₂ Rewords T (lex.agreedFrom g (max 1 lex.maxWords) T)
  again : ∀ T, T <:+: scan source →
    (lex.agreedFrom g (max 1 lex.maxWords) (lex.agreedFrom g (max 1 lex.maxWords) T)).flatMap text =
      (lex.agreedFrom g (max 1 lex.maxWords) T).flatMap text

/-- A settled vocabulary changes every text once. -/
theorem Settled.agreesOnce (settled : lex.Settled g) (source : List Char) :
    lex.AgreesOnce g source where
  rewords := by
    intro T hT
    exact settled.rewords_agreedFrom _ (isSound_of_part hT)
  again := by
    intro T hT
    have sound := isSound_of_part hT
    have rewords := settled.rewords_agreedFrom (max 1 lex.maxWords) sound
    exact (settled.steady_agreedFrom _ (isSound_of_rewords rewords sound)).flatMap_text_agreedFrom

namespace AgreesOnce

variable {source : List Char} (once : lex.AgreesOnce g source)
include once

/-- A text in agreement falls into tokens that may stand in the place of the text's own. -/
theorem rewords_agreedScan (seams : Seams) :
    List.Forall₂ Rewords (scan source) (lex.agreedScan g seams source) := by
  obtain ⟨first, middle, last, takes_first, takes_last, split, -, -⟩ :=
    seams.exists_middle (scan source)
  have part := Seams.isInfix_middle split
  have same {tokens : List Token} (part : ∀ t ∈ tokens, t ∈ scan source) :
      List.Forall₂ Rewords tokens tokens :=
    List.forall₂_same.mpr fun t ht => .same (text_ne_nil_of_mem_scan (part t ht))
  have middle_rewords := once.rewords middle part
  rw [agreedScan_eq takes_first takes_last]
  rw [split] at same ⊢
  refine List.rel_append (same fun t ht => ?_) (List.rel_append middle_rewords (same fun t ht => ?_))
  · exact List.mem_append_left _ ht
  · exact List.mem_append_right _ (List.mem_append_right _ ht)

/-- The tokens of a text in agreement are those that were written. -/
theorem scan_inAgreement (seams : Seams) :
    scan (lex.inAgreement g seams source) = lex.agreedScan g seams source := by
  rw [inAgreement_eq_flatMap]
  exact scan_flatMap_of_rewords (once.rewords_agreedScan seams)

/-- **A text in agreement stays as it is.** -/
theorem inAgreement_inAgreement (seams : Seams) :
    lex.inAgreement g seams (lex.inAgreement g seams source) =
      lex.inAgreement g seams source := by
  obtain ⟨first, middle, last, takes_first, takes_last, split, -, -⟩ :=
    seams.exists_middle (scan source)
  have part := Seams.isInfix_middle split
  have kinds := map_kind_of_rewords (once.rewords middle part)
  have scanned := once.scan_inAgreement seams
  rw [agreedScan_eq takes_first takes_last] at scanned
  -- the same words are taken off again, since the kinds are the same
  have takes_first' : seams.takeFirst (scan (lex.inAgreement g seams source)) =
      (first, lex.agreedFrom g (max 1 lex.maxWords) middle ++ last) := by
    rw [split] at takes_first
    rw [scanned]
    exact Seams.takeFirst_congr takes_first (by simp [kinds])
  have takes_last' := Seams.takeLast_congr takes_last kinds
  rw [inAgreement_eq_flatMap, agreedScan_eq takes_first' takes_last', List.flatMap_append,
    List.flatMap_append, once.again middle part, inAgreement_eq_flatMap,
    agreedScan_eq takes_first takes_last, List.flatMap_append, List.flatMap_append]

end AgreesOnce

end Lexicon

end Agreement
