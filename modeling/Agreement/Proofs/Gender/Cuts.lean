/- # Agreement.Proofs.Gender.Cuts: where a text falls apart

A run of characters that belong to no word separates the words on both sides of it. If one of them
is not blank, no phrase of a vocabulary reaches across the run, so the text before it and the text
after it are put in agreement each on its own. A single visible one, such as a brace, cuts a text.
What stands between two such characters is therefore put in agreement as if it were a text by
itself.
-/
import Agreement.Proofs.Gender.Phrases
import Agreement.Proofs.Gender.Tokens

namespace Agreement

open Unicode

/-! ## Phrases end before a separator -/

section Phrases

variable {limit : Nat} {A B : List Token} {separator : Token}

theorem phrases_cons_of_not_word (limit : Nat) (B : List Token)
    (no_word : separator.isWord = false) : phrases limit (separator :: B) = [] := by
  cases limit with
  | zero => rfl
  | succ limit => simp [phrases, no_word]

/-- No phrase reaches across a separator that holds more than blank space, or takes in one at the
end. -/
theorem phrases_append (limit : Nat) (A : List Token) (no_word : separator.isWord = false)
    (apart : separator.isSpace = false ∨ B = []) :
    phrases limit (A ++ separator :: B) = phrases limit A := by
  induction limit generalizing A with
  | zero => simp [phrases]
  | succ limit ih =>
      cases A with
      | nil => exact phrases_cons_of_not_word _ B no_word
      | cons word A =>
          cases A with
          | nil =>
              rcases apart with visible | rfl
              · simp [phrases, visible]
              · cases limit <;> simp [phrases]
          | cons space A => simp [phrases, ih A]

theorem length_le_of_mem_phrases {p : Phrase} (h : p ∈ phrases limit A) : p.length ≤ A.length := by
  obtain ⟨n, -, phrase, rfl⟩ := mem_phrases.mp h
  have positive := phrase.positive
  -- the last word of the phrase is one of the tokens
  obtain ⟨t, at_place, -⟩ := phrase.word (n - 1) (by omega)
  obtain ⟨inside, -⟩ := List.getElem?_eq_some_iff.mp at_place
  have length : (phraseAt A n).length = 2 * n - 1 := rfl
  omega

end Phrases

/-! ## Seams -/

namespace Seams

variable {separator : Token}

theorem takeFirst_append_separator (seams : Seams) (A B : List Token)
    (no_word : separator.isWord = false) :
    seams.takeFirst (A ++ separator :: B) =
      ((seams.takeFirst A).1, (seams.takeFirst A).2 ++ separator :: B) := by
  cases A with
  | nil => simp [takeFirst, no_word]
  | cons t A =>
      rw [List.cons_append, takeFirst, takeFirst]
      split <;> rfl

theorem takeLast_append_separator (seams : Seams) (A B : List Token)
    (no_word : separator.isWord = false) :
    seams.takeLast (A ++ separator :: B) =
      (A ++ separator :: (seams.takeLast B).1, (seams.takeLast B).2) := by
  cases B using List.reverseRecOn with
  | nil => simp [takeLast, no_word]
  | append_singleton B t =>
      have split : A ++ separator :: (B ++ [t]) = (A ++ separator :: B) ++ [t] := by simp
      rw [split, takeLast, List.getLast?_concat, List.dropLast_concat, takeLast,
        List.getLast?_concat, List.dropLast_concat]
      by_cases touches : seams.after = true ∧ t.isWord = true
      · simp [touches]
      · simp [touches]

end Seams

/-! ## The search on both sides of a separator -/

namespace Lexicon

variable {lex : Lexicon} {limit : Nat} {A B : List Token} {separator : Token}

theorem longest_append (lex : Lexicon) (limit : Nat) (A : List Token)
    (no_word : separator.isWord = false) (apart : separator.isSpace = false ∨ B = []) :
    lex.longest limit (A ++ separator :: B) = lex.longest limit A := by
  rw [longest, phrases_append limit A no_word apart, longest]

theorem le_length_of_longest {hit : Hit} {n : Nat} (h : lex.longest limit A = some (hit, n)) :
    n ≤ A.length := by
  obtain ⟨p, member, found⟩ := List.exists_of_findSome?_eq_some h
  obtain ⟨hit', -, same⟩ := Option.map_eq_some_iff.mp found
  cases same
  exact length_le_of_mem_phrases (List.mem_reverse.mp member)

theorem longest_cons_of_not_word (lex : Lexicon) (limit : Nat) (B : List Token)
    (no_word : separator.isWord = false) : lex.longest limit (separator :: B) = none := by
  rw [longest, phrases_cons_of_not_word limit B no_word]
  rfl

theorem piecesFrom_cons_of_not_word (lex : Lexicon) (limit : Nat) (B : List Token)
    (no_word : separator.isWord = false) :
    lex.piecesFrom limit 0 (separator :: B) = .kept separator :: lex.piecesFrom limit 0 B := by
  rw [piecesFrom, longest_cons_of_not_word lex limit B no_word]

/-- The search goes on behind a separator as if nothing had been before it. -/
theorem piecesFrom_append_separator {skip : Nat} (within : skip ≤ A.length)
    (no_word : separator.isWord = false)
    (apart : A = [] ∨ separator.isSpace = false ∨ B = []) :
    lex.piecesFrom limit skip (A ++ separator :: B) =
      lex.piecesFrom limit skip A ++ .kept separator :: lex.piecesFrom limit 0 B := by
  induction A generalizing skip with
  | nil =>
      obtain rfl := Nat.le_zero.mp within
      exact lex.piecesFrom_cons_of_not_word limit B no_word
  | cons t A ih =>
      have apart : separator.isSpace = false ∨ B = [] := by simpa using apart
      cases skip with
      | succ skip =>
          rw [List.cons_append, piecesFrom, piecesFrom]
          exact ih (Nat.le_of_succ_le_succ within) (.inr apart)
      | zero =>
          have same := lex.longest_append limit (t :: A) no_word apart
          rw [List.cons_append] at same
          rw [List.cons_append, piecesFrom, same, piecesFrom]
          split
          · next hit n found =>
              have short := le_length_of_longest found
              have same_run : (t :: (A ++ separator :: B)).take n = (t :: A).take n := by
                rw [← List.cons_append, List.take_append_of_le_length short]
              rw [List.length_cons] at short
              rw [ih (by omega) (.inr apart), same_run, List.cons_append]
          · rw [ih (Nat.zero_le _) (.inr apart)]
            rfl

/-- The tokens of a text in agreement. -/
def agreedTokens (lex : Lexicon) (g : Gender) (seams : Seams) (tokens : List Token) : List Char :=
  let (first, rest) := seams.takeFirst tokens
  let (middle, last) := seams.takeLast rest
  (first.map Piece.kept ++ lex.piecesFrom (max 1 lex.maxWords) 0 middle ++
    last.map Piece.kept).flatMap (·.form g)

theorem inAgreement_eq_agreedTokens (lex : Lexicon) (g : Gender) (seams : Seams)
    (text : List Char) :
    lex.inAgreement g seams text = lex.agreedTokens g seams (Token.scan text) :=
  rfl

@[simp] theorem agreedTokens_nil (lex : Lexicon) (g : Gender) (seams : Seams) :
    lex.agreedTokens g seams [] = [] := by
  obtain ⟨before, after⟩ := seams
  cases after <;> rfl

/-- A separator that no phrase takes in cuts the tokens of a text. -/
theorem agreedTokens_append_separator (lex : Lexicon) (g : Gender) (seams : Seams)
    (A B : List Token) (no_word : separator.isWord = false)
    (apart : A = [] ∨ separator.isSpace = false ∨ B = []) :
    lex.agreedTokens g seams (A ++ separator :: B) =
      lex.agreedTokens g ⟨seams.before, false⟩ A ++ separator.text ++
        lex.agreedTokens g ⟨false, seams.after⟩ B := by
  have first := seams.takeFirst_append_separator A B no_word
  have last := seams.takeLast_append_separator (seams.takeFirst A).2 B no_word
  -- what is left on either side is empty if the side was
  have apart' : (seams.takeFirst A).2 = [] ∨ separator.isSpace = false ∨
      (seams.takeLast B).1 = [] := by
    rcases apart with rfl | visible | rfl
    · exact .inl rfl
    · exact .inr (.inl visible)
    · exact .inr (.inr (by simp [Seams.takeLast]))
  have left : Seams.takeFirst ⟨seams.before, false⟩ A = seams.takeFirst A := by cases A <;> rfl
  have right : Seams.takeFirst ⟨false, seams.after⟩ B = ([], B) := by cases B <;> rfl
  have right_last : Seams.takeLast ⟨false, seams.after⟩ B = seams.takeLast B := rfl
  rw [agreedTokens, agreedTokens, agreedTokens, first, left, right]
  dsimp only
  rw [last, right_last]
  dsimp only
  rw [piecesFrom_append_separator (Nat.zero_le _) no_word apart']
  simp [Seams.takeLast, Piece.form]

end Lexicon

/-! ## Characters that separate and characters that cut -/

/-- A character that belongs to no word, whatever stands beside it. -/
structure IsBreak (c : Char) : Prop where
  not_word : isWordChar c = false
  not_joiner : isJoiner c = false

instance (c : Char) : Decidable (IsBreak c) :=
  decidable_of_iff (isWordChar c = false ∧ isJoiner c = false)
    ⟨fun h => ⟨h.1, h.2⟩, fun h => ⟨h.not_word, h.not_joiner⟩⟩

/-- A character that is neither a part of words nor blank. -/
structure IsCut (c : Char) : Prop where
  not_word : isWordChar c = false
  not_joiner : isJoiner c = false
  visible : isSpace c = false

theorem IsCut.isBreak {c : Char} (h : IsCut c) : IsBreak c := ⟨h.not_word, h.not_joiner⟩

namespace Token

/-- The kinds behind a break do not depend on what is before it, nor the other way round. -/
theorem kinds_append_cons {c : Char} (h : IsBreak c) (inWord : Bool) (u v : List Char) :
    kinds inWord (u ++ c :: v) = kinds inWord u ++ (c, .separator) :: kinds false v := by
  induction u generalizing inWord with
  | nil => simp [kinds, joinsWord, h.not_word, h.not_joiner]
  | cons d u ih =>
      -- a joiner before the break finds no word behind it, as at the end of a text
      have same : joinsWord inWord d (u ++ c :: v) = joinsWord inWord d u := by
        cases u with
        | nil => simp [joinsWord, h.not_word]
        | cons e u => rfl
      rw [List.cons_append, kinds, same, ih, kinds, List.cons_append]

/-- The tokens that characters with their kinds make. -/
def ofKinds (l : List (Char × TokenKind)) : List Token := (l.splitBy (·.2 == ·.2)).map ofRun

/-- The characters of a token with their kind. -/
def tagged (t : Token) : List (Char × TokenKind) := t.text.map (·, t.kind)

/-- The separator of a text, if it holds anything. -/
def separatorOf (text : List Char) : List Token :=
  if text.isEmpty then [] else [⟨.separator, text⟩]

/-- The characters of a separator with their kind. -/
def separating (text : List Char) : List (Char × TokenKind) := text.map (·, .separator)

/-- The kinds on both sides of a run of breaks are those of the two texts alone. -/
theorem kinds_append_breaks {s : List Char} (nonempty : s ≠ []) (breaks : ∀ c ∈ s, IsBreak c)
    (inWord : Bool) (u v : List Char) :
    kinds inWord (u ++ (s ++ v)) = kinds inWord u ++ (separating s ++ kinds false v) := by
  induction s generalizing inWord u with
  | nil => exact absurd rfl nonempty
  | cons c s ih =>
      obtain ⟨first, later⟩ := List.forall_mem_cons.mp breaks
      have behind : kinds false (s ++ v) = separating s ++ kinds false v := by
        cases s with
        | nil => rfl
        | cons d s => exact ih (List.cons_ne_nil d s) later false []
      rw [List.cons_append, kinds_append_cons first, behind]
      rfl

theorem ofKinds_append {l m : List (Char × TokenKind)}
    (turns : ∀ x ∈ l.getLast?, ∀ y ∈ m.head?, x.2 ≠ y.2) :
    ofKinds (l ++ m) = ofKinds l ++ ofKinds m := by
  rw [ofKinds, List.splitBy_append, List.map_append]
  · rfl
  · intro x hx y hy
    simpa using turns x hx y hy

theorem ofKinds_tagged {t : Token} (nonempty : t.text ≠ []) : ofKinds t.tagged = [t] := by
  obtain ⟨kind, text⟩ := t
  obtain ⟨c, text, rfl⟩ := List.exists_cons_of_ne_nil nonempty
  have chain : (tagged ⟨kind, c :: text⟩).IsChain fun x y => (x.2 == y.2) = true := by
    rw [tagged, List.isChain_map]
    exact (List.pairwise_of_forall fun _ _ => beq_self_eq_true kind).isChain
  rw [ofKinds, List.splitBy_of_isChain (by simp [tagged]) chain]
  simp [ofRun, tagged, Function.comp_def]

theorem ofKinds_separating (text : List Char) : ofKinds (separating text) = separatorOf text := by
  cases text with
  | nil => rfl
  | cons c text => exact @ofKinds_tagged ⟨.separator, c :: text⟩ (List.cons_ne_nil c text)

/-- Characters with kinds end with a separator behind a word. -/
theorem exists_separator_at_end (l : List (Char × TokenKind)) :
    ∃ front a, l = front ++ separating a ∧ ∀ x ∈ front.getLast?, x.2 = .word := by
  induction l using List.reverseRecOn with
  | nil => exact ⟨[], [], rfl, by simp⟩
  | append_singleton l x ih =>
      obtain ⟨c, kind⟩ := x
      cases kind with
      | word => exact ⟨l ++ [(c, .word)], [], by simp [separating], by simp⟩
      | separator =>
          obtain ⟨front, a, rfl, last⟩ := ih
          exact ⟨front, a ++ [c], by simp [separating], last⟩

/-- Characters with kinds start with a separator before a word. -/
theorem exists_separator_at_start (l : List (Char × TokenKind)) :
    ∃ b back, l = separating b ++ back ∧ ∀ x ∈ back.head?, x.2 = .word := by
  induction l with
  | nil => exact ⟨[], [], rfl, by simp⟩
  | cons x l ih =>
      obtain ⟨c, kind⟩ := x
      cases kind with
      | word => exact ⟨[], (c, .word) :: l, rfl, by simp⟩
      | separator =>
          obtain ⟨b, back, rfl, first⟩ := ih
          exact ⟨c :: b, back, rfl, first⟩

theorem kind_of_mem_separating {text : List Char} {x : Char × TokenKind}
    (h : x ∈ separating text) : x.2 = .separator := by
  obtain ⟨c, -, rfl⟩ := List.mem_map.mp h
  rfl

/-- A run of breaks joins the separators on both sides of it and changes no other token. -/
theorem exists_scan_append_breaks {s : List Char} (nonempty : s ≠ [])
    (breaks : ∀ c ∈ s, IsBreak c) (u v : List Char) :
    ∃ A a b B, scan u = A ++ separatorOf a ∧ scan v = separatorOf b ++ B ∧
      scan (u ++ (s ++ v)) = A ++ ⟨.separator, a ++ (s ++ b)⟩ :: B := by
  obtain ⟨front, a, eq_u, last⟩ := exists_separator_at_end (kinds false u)
  obtain ⟨b, back, eq_v, first⟩ := exists_separator_at_start (kinds false v)
  have behind (x : List Char) : ofKinds (front ++ separating x) =
      ofKinds front ++ separatorOf x := by
    rw [ofKinds_append, ofKinds_separating]
    intro p hp q hq
    rw [last p hp, kind_of_mem_separating (List.mem_of_mem_head? hq)]
    decide
  have before (x : List Char) : ofKinds (separating x ++ back) =
      separatorOf x ++ ofKinds back := by
    rw [ofKinds_append, ofKinds_separating]
    intro p hp q hq
    rw [first q hq, kind_of_mem_separating (List.mem_of_mem_getLast? hp)]
    decide
  refine ⟨ofKinds front, a, b, ofKinds back, ?_, ?_, ?_⟩
  · rw [scan, eq_u]
    exact behind a
  · rw [scan, eq_v]
    exact before b
  · -- the separators and the breaks are one run, which ends where the words behind it start
    have run : kinds false (u ++ (s ++ v)) = front ++ separating (a ++ (s ++ b)) ++ back := by
      rw [kinds_append_breaks nonempty breaks, eq_u, eq_v]
      simp [separating]
    have turns : ∀ x ∈ (front ++ separating (a ++ (s ++ b))).getLast?, ∀ y ∈ back.head?,
        x.2 ≠ y.2 := by
      intro p hp q hq
      rw [List.getLast?_append_of_ne_nil _ (by simp [separating, nonempty])] at hp
      rw [first q hq, kind_of_mem_separating (List.mem_of_mem_getLast? hp)]
      decide
    have joined := ofKinds_append turns
    rw [behind, separatorOf, if_neg (by simp [nonempty])] at joined
    rw [scan, run]
    refine joined.trans ?_
    simp

end Token

namespace Lexicon

/-- A separator at the end is kept. -/
theorem agreedTokens_append_separatorOf (lex : Lexicon) (g : Gender) (before : Bool)
    (A : List Token) (a : List Char) :
    lex.agreedTokens g ⟨before, false⟩ (A ++ Token.separatorOf a) =
      lex.agreedTokens g ⟨before, false⟩ A ++ a := by
  cases a with
  | nil => simp [Token.separatorOf]
  | cons d a =>
      rw [Token.separatorOf, if_neg (by simp),
        agreedTokens_append_separator lex g _ A [] rfl (.inr (.inr rfl))]
      simp

/-- A separator at the start is kept. -/
theorem agreedTokens_separatorOf_append (lex : Lexicon) (g : Gender) (after : Bool)
    (b : List Char) (B : List Token) :
    lex.agreedTokens g ⟨false, after⟩ (Token.separatorOf b ++ B) =
      b ++ lex.agreedTokens g ⟨false, after⟩ B := by
  cases b with
  | nil => rfl
  | cons d b =>
      have no_word : Token.isWord ⟨.separator, d :: b⟩ = false := rfl
      have cut := agreedTokens_append_separator lex g ⟨false, after⟩ [] B no_word (.inl rfl)
      simpa [Token.separatorOf] using cut

/-- **A text falls apart at a run of breaks of which one is visible.** The text before it and the
text after it are put in agreement each on its own. -/
theorem inAgreement_append_breaks (lex : Lexicon) (g : Gender) (seams : Seams) {s : List Char}
    (breaks : ∀ c ∈ s, IsBreak c) (some_visible : Text.isBlank s = false) (u v : List Char) :
    lex.inAgreement g seams (u ++ (s ++ v)) =
      lex.inAgreement g ⟨seams.before, false⟩ u ++
        (s ++ lex.inAgreement g ⟨false, seams.after⟩ v) := by
  have nonempty : s ≠ [] := by
    rintro rfl
    cases some_visible
  obtain ⟨A, a, b, B, eq_u, eq_v, eq⟩ := Token.exists_scan_append_breaks nonempty breaks u v
  rw [inAgreement_eq_agreedTokens, inAgreement_eq_agreedTokens, inAgreement_eq_agreedTokens, eq,
    eq_u, eq_v]
  have visible : Token.isSpace ⟨.separator, a ++ (s ++ b)⟩ = false := by
    rw [Text.isBlank] at some_visible
    simp [Token.isSpace, Text.isBlank, some_visible]
  rw [agreedTokens_append_separator lex g seams A B rfl (.inr (.inl visible)),
    agreedTokens_append_separatorOf, agreedTokens_separatorOf_append]
  simp

/-- A text falls apart at a cut. -/
theorem inAgreement_append_cons (lex : Lexicon) (g : Gender) (seams : Seams) {c : Char}
    (h : IsCut c) (u v : List Char) :
    lex.inAgreement g seams (u ++ c :: v) =
      lex.inAgreement g ⟨seams.before, false⟩ u ++
        c :: lex.inAgreement g ⟨false, seams.after⟩ v :=
  lex.inAgreement_append_breaks g seams (s := [c]) (by simpa using h.isBreak)
    (by simp [Text.isBlank, h.visible]) u v

end Lexicon

end Agreement
