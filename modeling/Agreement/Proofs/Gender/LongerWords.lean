/- # Agreement.Proofs.Gender.LongerWords: words that go on

A word at one end of a text may be only a part of a longer word once another text stands there. What
decides where words end is local: behind the last character of a text it matters only whether a word
starts there, and before its first one only whether a word has ended. So a word that goes on touches
the end of its text, or one joiner stands between the two.
-/
import Agreement.Proofs.Gender.Rewording

namespace Agreement

open Unicode Text Token

/-- The word `w` that stands behind `before` in a text is only a part of a longer word of it. -/
def IsPartOfLonger (source before w : List Char) : Prop :=
  ∃ P T Q x y, Token.scan source = P ++ T :: Q ∧ T.isWord = true ∧ T.text = x ++ w ++ y ∧
    x ++ y ≠ [] ∧ P.flatMap Token.text ++ x = before

namespace Token

/-! ## Kinds are local -/

/-- The kinds of a text before two others are the same if both start a word or neither does. -/
theorem exists_kinds_append (inWord : Bool) (u : List Char) {v v' : List Char}
    (same : startsWord v = startsWord v') :
    ∃ k b, k.map Prod.fst = u ∧ kinds inWord (u ++ v) = k ++ kinds b v ∧
      kinds inWord (u ++ v') = k ++ kinds b v' := by
  induction u generalizing inWord with
  | nil => exact ⟨[], inWord, rfl, rfl, rfl⟩
  | cons c u ih =>
      have joins : joinsWord inWord c (u ++ v) = joinsWord inWord c (u ++ v') := by
        cases u with
        | nil => exact congrArg (fun b => isWordChar c || (isJoiner c && inWord && b)) same
        | cons d u => rfl
      obtain ⟨k, b, texts, left, right⟩ := ih (joinsWord inWord c (u ++ v))
      refine ⟨(c, if joinsWord inWord c (u ++ v) then .word else .separator) :: k, b, ?_, ?_, ?_⟩
      · rw [List.map_cons, texts]
      · rw [List.cons_append, kinds, left, List.cons_append]
      · rw [List.cons_append, kinds, ← joins, right, List.cons_append]

/-- What came before a text makes a difference only for a joiner at its start. -/
theorem kinds_of_inWord (inWord : Bool) (text : List Char) :
    kinds inWord text = kinds false text ∨ ∃ c rest tail, text = c :: rest ∧ isJoiner c = true ∧
      kinds inWord text = (c, .word) :: tail ∧ kinds false text = (c, .separator) :: tail := by
  cases text with
  | nil => exact .inl rfl
  | cons c rest =>
      by_cases same : joinsWord inWord c rest = joinsWord false c rest
      · left
        rw [kinds, kinds, same]
      · -- a joiner that is in a word has a word character behind it
        right
        simp only [joinsWord, Bool.and_false, Bool.false_and, Bool.or_false] at same
        have no_word : isWordChar c = false := by
          by_contra word
          simp [word] at same
        simp only [no_word, Bool.false_or, Bool.not_eq_false, Bool.and_eq_true] at same
        obtain ⟨⟨joiner, after⟩, next⟩ := same
        obtain ⟨d, more, rfl⟩ : ∃ d more, rest = d :: more := by
          cases rest with
          | nil => cases next
          | cons d more => exact ⟨d, more, rfl⟩
        have word : isWordChar d = true := by simpa using next
        have onward (b : Bool) : kinds b (d :: more) = (d, .word) :: kinds true more := by
          simp [kinds, joinsWord, word]
        refine ⟨c, d :: more, (d, .word) :: kinds true more, rfl, joiner, ?_, ?_⟩
        · rw [kinds, ← onward true]
          simp [joinsWord, no_word, joiner, after, word]
        · rw [kinds, ← onward false]
          simp [joinsWord, no_word]

/-- The characters of a word with their kind. -/
def wording (w : List Char) : List (Char × TokenKind) := w.map (·, .word)

theorem map_fst_wording (w : List Char) : (wording w).map Prod.fst = w := by
  simp [wording, Function.comp_def]

theorem map_fst_flatMap_tagged (tokens : List Token) :
    (tokens.flatMap tagged).map Prod.fst = tokens.flatMap text := by
  rw [List.map_flatMap]
  congr 1
  funext t
  simp [tagged, Function.comp_def]

theorem tagged_of_isWord {t : Token} (word : t.isWord = true) : t.tagged = wording t.text := by
  have kind : t.kind = .word := by simpa [isWord] using word
  rw [tagged, kind]
  rfl

/-! ## Words and what stands beside them -/

section Beside

variable {source : List Char} {A D : List Token} {t : Token}

/-- Kinds of a text around one of its words. -/
theorem kinds_eq_of_scan (cut : scan source = A ++ t :: D) (word : t.isWord = true) :
    kinds false source = A.flatMap tagged ++ (wording t.text ++ D.flatMap tagged) := by
  rw [← flatMap_tagged_scan, cut, List.flatMap_append, List.flatMap_cons, tagged_of_isWord word]

/-- Before a word there is a separator. -/
theorem separator_before (cut : scan source = A ++ t :: D) (word : t.isWord = true) :
    ∀ p ∈ (A.flatMap tagged).getLast?, p.2 = .separator := by
  cases A using List.reverseRecOn with
  | nil => simp
  | append_singleton A u =>
      intro p hp
      have nonempty : u.text ≠ [] := text_ne_nil_of_mem_scan (by rw [cut]; simp)
      have turns := isChain_kind_scan source
      rw [cut, List.append_assoc, List.singleton_append] at turns
      have differ : u.kind ≠ t.kind := (List.isChain_append.mp turns).2.1.rel
      have kind_t : t.kind = .word := by simpa [isWord] using word
      rw [List.flatMap_append, List.flatMap_singleton,
        List.getLast?_append_of_ne_nil _ (by simpa [tagged] using nonempty)] at hp
      obtain ⟨c, -, rfl⟩ := List.mem_map.mp (List.mem_of_mem_getLast? hp)
      cases kind_u : u.kind with
      | separator => rfl
      | word => exact absurd (kind_u.trans kind_t.symm) differ

/-- Behind a word there is a separator. -/
theorem separator_after (cut : scan source = A ++ t :: D) (word : t.isWord = true) :
    ∀ p ∈ (D.flatMap tagged).head?, p.2 = .separator := by
  cases D with
  | nil => simp
  | cons u D =>
      intro p hp
      have nonempty : u.text ≠ [] := text_ne_nil_of_mem_scan (by rw [cut]; simp)
      have turns := isChain_kind_scan source
      rw [cut] at turns
      have differ : t.kind ≠ u.kind := (List.isChain_append.mp turns).2.1.rel
      have kind_t : t.kind = .word := by simpa [isWord] using word
      rw [List.flatMap_cons, List.head?_append_of_ne_nil _ (by simpa [tagged] using nonempty)] at hp
      obtain ⟨c, -, rfl⟩ := List.mem_map.mp (List.mem_of_mem_head? hp)
      cases kind_u : u.kind with
      | separator => rfl
      | word => exact absurd (kind_t.trans kind_u.symm) differ

/-- One character with its kind is one token. -/
theorem eq_singleton_of_flatMap_tagged (part : ∀ u ∈ A, u ∈ scan source) {c : Char}
    {kind : TokenKind} (eq : A.flatMap tagged = [(c, kind)]) : A = [⟨kind, [c]⟩] := by
  cases A with
  | nil => cases eq
  | cons u A =>
      obtain ⟨d, w, text_eq⟩ :=
        List.exists_cons_of_ne_nil (text_ne_nil_of_mem_scan (part u List.mem_cons_self))
      rw [List.flatMap_cons, tagged, text_eq, List.map_cons, List.cons_append, List.cons.injEq,
        List.append_eq_nil_iff, List.map_eq_nil_iff] at eq
      obtain ⟨first, rfl, none_left⟩ := eq
      obtain ⟨rfl, rfl⟩ := Prod.mk.inj first
      have no_more : A = [] := by
        apply eq_nil_of_flatMap_text fun v hv => part v (List.mem_cons_of_mem u hv)
        rw [← map_fst_flatMap_tagged, none_left, List.map_nil]
      rw [no_more, ← text_eq]

/-- A character that goes into a word only because of what is behind the text is a joiner at its
end. -/
theorem joiner_of_kinds {inWord : Bool} {c f : Char} {rest r : List Char}
    {tail : List (Char × TokenKind)} (goes_on : (f, .word) :: tail = kinds inWord (c :: (rest ++ r)))
    (ends : ∀ p ∈ (kinds inWord (c :: rest)).head?, p.2 = .separator) :
    isJoiner c = true ∧ rest = [] := by
  have on : joinsWord inWord c (rest ++ r) = true := by
    by_contra off
    rw [kinds, if_neg off] at goes_on
    cases goes_on
  have off : joinsWord inWord c rest = false := by
    by_contra on
    have separator := ends (c, .word) (by rw [kinds, if_pos (by simpa using on)]; rfl)
    cases separator
  cases rest with
  | nil =>
      simp only [joinsWord, Bool.or_eq_false_iff] at off
      simp only [joinsWord, off.1, Bool.false_or, Bool.and_eq_true] at on
      exact ⟨on.1.1, rfl⟩
  | cons d rest =>
      -- what is behind the text does not matter then
      have same : joinsWord inWord c (d :: rest ++ r) = joinsWord inWord c (d :: rest) := rfl
      rw [same, off] at on
      cases on

/-- A part of a longer word, by its characters: what is before it and behind it in the word. -/
theorem exists_kinds_of_isPartOfLonger {before w : List Char}
    (part : IsPartOfLonger source before w) : ∃ front x y back,
      kinds false source = (front ++ wording x) ++ (wording w ++ (wording y ++ back)) ∧
        (front ++ wording x).map Prod.fst = before ∧ x ++ y ≠ [] := by
  obtain ⟨P, T, Q, x, y, cut, word, text_eq, longer, place⟩ := part
  refine ⟨P.flatMap tagged, x, y, Q.flatMap tagged, ?_, ?_, longer⟩
  · rw [kinds_eq_of_scan cut word, text_eq]
    simp [wording]
  · rw [List.map_append, map_fst_flatMap_tagged, map_fst_wording, place]

theorem length_eq_of_map_fst {l m : List (Char × TokenKind)}
    (h : l.map Prod.fst = m.map Prod.fst) : l.length = m.length := by
  simpa using congrArg List.length h

/-- Where a separator or nothing stands before a place, no word goes on there. -/
theorem eq_nil_of_append_wording {l front : List (Char × TokenKind)} {x : List Char}
    (ends : ∀ p ∈ l.getLast?, p.2 = .separator) (eq : l = front ++ wording x) : x = [] := by
  cases x using List.reverseRecOn with
  | nil => rfl
  | append_singleton x c =>
      have last : (c, TokenKind.word) ∈ l.getLast? := by
        rw [eq, wording, List.map_append, List.map_singleton, ← List.append_assoc,
          List.getLast?_concat]
        rfl
      cases ends _ last

/-- Where a separator or nothing stands behind a place, no word goes on there. -/
theorem eq_nil_of_wording_append {l back : List (Char × TokenKind)} {y : List Char}
    (starts : ∀ p ∈ l.head?, p.2 = .separator) (eq : l = wording y ++ back) : y = [] := by
  cases y with
  | nil => rfl
  | cons c y =>
      have first : (c, TokenKind.word) ∈ l.head? := by
        rw [eq]
        rfl
      cases starts _ first

/-- A word between separators is no part of a longer one. -/
theorem not_isPartOfLonger_of_separators {L after : List (Char × TokenKind)} {w : List Char}
    (read : kinds false source = L ++ (wording w ++ after))
    (ends : ∀ p ∈ L.getLast?, p.2 = .separator) (starts : ∀ p ∈ after.head?, p.2 = .separator) :
    ¬ IsPartOfLonger source (L.map Prod.fst) w := by
  intro part
  obtain ⟨front, x, y, back, joined, place, longer⟩ := exists_kinds_of_isPartOfLonger part
  rw [read] at joined
  obtain ⟨same, behind⟩ := List.append_inj joined (length_eq_of_map_fst place).symm
  have no_front : x = [] := eq_nil_of_append_wording ends same
  have no_back : y = [] := eq_nil_of_wording_append starts (List.append_cancel_left behind)
  exact longer (by rw [no_front, no_back]; rfl)

/-- Where a word goes on behind one more character only because of what stands there, that
character is a joiner, and all that is behind the word. -/
theorem joiner_of_goes_on {s : Bool} {w rest r y : List Char} {c : Char}
    {back after : List (Char × TokenKind)}
    (joined : wording w ++ (wording y ++ back) = kinds s (w ++ c :: (rest ++ r)))
    (alone : wording w ++ after = kinds s (w ++ c :: rest)) (goes_on : y ≠ [])
    (starts : ∀ p ∈ after.head?, p.2 = .separator) :
    isJoiner c = true ∧ after = [(c, .separator)] := by
  have same : startsWord (c :: (rest ++ r)) = startsWord (c :: rest) := rfl
  obtain ⟨k, s', texts, left, right⟩ := exists_kinds_append s w same
  have place := length_eq_of_map_fst ((map_fst_wording w).trans texts.symm)
  have on := (List.append_inj (joined.trans left) place).2
  obtain rfl := (List.append_inj (alone.trans right) place).2
  obtain ⟨d, y, rfl⟩ := List.exists_cons_of_ne_nil goes_on
  obtain ⟨joiner, rfl⟩ := joiner_of_kinds on starts
  have kind : (if joinsWord s' c [] = true then TokenKind.word else .separator) = .separator :=
    starts _ rfl
  rw [kinds, kinds, kind]
  exact ⟨joiner, rfl⟩

end Beside

/-! ## Words that go on behind a text, or before it -/

section Joined

variable {a b l r : List Char} {A D : List Token} {t : Token}

theorem startsWord_append_of_ne_nil {w : List Char} (nonempty : w ≠ []) (u v : List Char) :
    startsWord (w ++ u) = startsWord (w ++ v) := by
  obtain ⟨c, w, rfl⟩ := List.exists_cons_of_ne_nil nonempty
  rfl

/-- **A word that goes on behind a text is its last token, or one joiner stands behind it.** -/
theorem last_or_joiner_of_isPartOfLonger (cut : scan a = A ++ t :: D) (word : t.isWord = true)
    (part : IsPartOfLonger (a ++ r) (A.flatMap text) t.text) :
    D = [] ∨ ∃ c, isJoiner c = true ∧ D = [⟨.separator, [c]⟩] := by
  have nonempty : t.text ≠ [] := text_ne_nil_of_mem_scan (by rw [cut]; simp)
  have source := flatMap_text_scan a
  rw [cut, List.flatMap_append, List.flatMap_cons] at source
  obtain ⟨front, x, y, back, joined, place, longer⟩ := exists_kinds_of_isPartOfLonger part
  have alone := kinds_eq_of_scan cut word
  obtain ⟨k, s, texts, left, right⟩ := exists_kinds_append false (A.flatMap text)
    (startsWord_append_of_ne_nil nonempty (D.flatMap text ++ r) (D.flatMap text))
  rw [← List.append_assoc, ← List.append_assoc, List.append_assoc _ t.text, source, joined] at left
  rw [source, alone] at right
  obtain ⟨before, behind⟩ := List.append_inj left (length_eq_of_map_fst (place.trans texts.symm))
  obtain ⟨before', behind'⟩ := List.append_inj right
    (length_eq_of_map_fst ((map_fst_flatMap_tagged A).trans texts.symm))
  -- nothing joins the word in front, so something does behind it
  have no_front : x = [] :=
    eq_nil_of_append_wording (separator_before cut word) (before'.trans before.symm)
  rw [no_front, List.nil_append] at longer
  cases D with
  | nil => exact .inl rfl
  | cons d D =>
      right
      obtain ⟨c, rest, eq⟩ : ∃ c rest, (d :: D).flatMap text = c :: rest := by
        obtain ⟨c, w, eq⟩ :=
          List.exists_cons_of_ne_nil (text_ne_nil_of_mem_scan (show d ∈ scan a by rw [cut]; simp))
        exact ⟨c, w ++ D.flatMap text, by rw [List.flatMap_cons, eq]; rfl⟩
      rw [eq] at behind behind'
      obtain ⟨joiner, one⟩ :=
        joiner_of_goes_on behind behind' longer (separator_after cut word)
      refine ⟨c, joiner, @eq_singleton_of_flatMap_tagged a (d :: D) ?_ c .separator one⟩
      intro u hu
      rw [cut]
      exact List.mem_append_right _ (List.mem_cons_of_mem t hu)

/-- **A word that goes on before a text is its first token, or one joiner stands before it.** -/
theorem first_or_joiner_of_isPartOfLonger (cut : scan b = A ++ t :: D) (word : t.isWord = true)
    (part : IsPartOfLonger (l ++ b) (l ++ A.flatMap text) t.text) :
    A = [] ∨ ∃ c, isJoiner c = true ∧ A = [⟨.separator, [c]⟩] := by
  have alone := kinds_eq_of_scan cut word
  obtain ⟨k, s, texts, split, -⟩ := @exists_kinds_append false l b b rfl
  -- behind the other text the kinds before the word may not end with a separator
  have no_separator {M : List (Char × TokenKind)}
      (read : kinds s b = M ++ (wording t.text ++ D.flatMap tagged))
      (same : M.map Prod.fst = A.flatMap text) (some_before : M ≠ [])
      (ends : ∀ p ∈ M.getLast?, p.2 = .separator) : False := by
    rw [read, ← List.append_assoc] at split
    apply not_isPartOfLonger_of_separators split ?_ (separator_after cut word)
    · rwa [List.map_append, texts, same]
    · rwa [List.getLast?_append_of_ne_nil _ some_before]
  have ends := separator_before cut word
  rcases kinds_of_inWord s b with same | ⟨c, rest, tail, rfl, joiner, in_word, apart⟩
  · left
    by_contra some_before
    refine no_separator (same.trans alone) (map_fst_flatMap_tagged A) ?_ ends
    obtain ⟨u, A, rfl⟩ := List.exists_cons_of_ne_nil some_before
    have nonempty : u.text ≠ [] := text_ne_nil_of_mem_scan (by rw [cut]; simp)
    simp [tagged, nonempty]
  · right
    rw [apart] at alone
    cases kinds_A : A.flatMap tagged with
    | nil =>
        -- the word would start with the joiner, which is a separator here
        obtain ⟨d, w, eq⟩ := List.exists_cons_of_ne_nil
          (text_ne_nil_of_mem_scan (show t ∈ scan (c :: rest) by rw [cut]; simp))
        rw [kinds_A, eq] at alone
        cases alone
    | cons p M =>
        rw [kinds_A, List.cons_append, List.cons.injEq] at alone
        obtain ⟨rfl, rest_eq⟩ := alone
        cases M with
        | nil =>
            refine ⟨c, joiner, @eq_singleton_of_flatMap_tagged (c :: rest) A ?_ c .separator kinds_A⟩
            intro u hu
            rw [cut]
            exact List.mem_append_left _ hu
        | cons q M =>
            exfalso
            refine no_separator (M := (c, .word) :: q :: M) ?_ ?_ (List.cons_ne_nil _ _) ?_
            · rw [in_word, rest_eq]
              rfl
            · rw [← map_fst_flatMap_tagged, kinds_A]
              rfl
            · rw [kinds_A, List.getLast?_cons_cons] at ends
              rwa [List.getLast?_cons_cons]

end Joined

end Token

end Agreement
