/- # Agreement.Proofs.Gender.WholeWords: texts that are one word

Which texts are read as one word is said here without reading: every character is one of words by
itself, or a joiner between two such characters. A text that is put together from words by single
spaces is read as those words exactly when each of them is one.
-/
import Agreement.Proofs.Gender.Rewording
import Agreement.Proofs.Gender.Settled

namespace Agreement

open Unicode Text

/-- A text that is one word: each character is one of words by itself, or joins the two that stand
around it. -/
structure IsWholeWord (w : List Char) : Prop where
  nonempty : w ≠ []
  joined : ∀ before c after, w = before ++ c :: after → isWordChar c = true ∨
    isJoiner c = true ∧ before.getLast?.any isWordChar = true ∧ after.head?.any isWordChar = true

/-- Every character of a word is one of words by itself or a joiner. -/
theorem IsWholeWord.isWordChar_or_isJoiner {w : List Char} (whole : IsWholeWord w) {c : Char}
    (hc : c ∈ w) : isWordChar c = true ∨ isJoiner c = true := by
  obtain ⟨before, after, eq⟩ := List.append_of_mem hc
  exact (whole.joined before c after eq).imp_right (·.1)

namespace Token

/-- The tokens of a word alone. -/
def loneWord (w : List Char) : List Token := [⟨.word, w⟩]

/-! ## One word -/

/-- All characters of a text go into a word exactly when each one that does not by itself is a
joiner behind another character, with a word character after it. -/
theorem kinds_eq_word_iff {inWord : Bool} {w : List Char} : kinds inWord w = w.map (·, .word) ↔
    ∀ before c after, w = before ++ c :: after → isWordChar c = true ∨
      isJoiner c = true ∧ (before = [] → inWord = true) ∧ startsWord after = true := by
  induction w generalizing inWord with
  | nil => simp [kinds]
  | cons c rest ih =>
      have first : joinsWord inWord c rest = true ↔ isWordChar c = true ∨
          isJoiner c = true ∧ inWord = true ∧ startsWord rest = true := by
        simp only [joinsWord, startsWord, Bool.or_eq_true, Bool.and_eq_true, and_assoc]
      constructor
      · intro run before d after eq
        rw [kinds, List.map_cons, List.cons.injEq] at run
        obtain ⟨here, later⟩ := run
        have joins : joinsWord inWord c rest = true := by
          by_contra parts
          rw [if_neg parts] at here
          cases here
        rw [joins] at later
        cases before with
        | nil =>
            obtain ⟨rfl, rfl⟩ := List.cons.inj eq
            exact (first.mp joins).imp_right fun h => ⟨h.1, fun _ => h.2.1, h.2.2⟩
        | cons _ before =>
            obtain ⟨rfl, rfl⟩ := List.cons.inj eq
            exact (ih.mp later before d after rfl).imp_right fun h => ⟨h.1, by simp, h.2.2⟩
      · intro each
        have joins : joinsWord inWord c rest = true :=
          first.mpr ((each [] c rest rfl).imp_right fun h => ⟨h.1, h.2.1 rfl, h.2.2⟩)
        have later : kinds true rest = rest.map (·, .word) := by
          refine ih.mpr fun before d after eq => ?_
          exact (each (c :: before) d after (by rw [eq]; rfl)).imp_right
            fun h => ⟨h.1, fun _ => rfl, h.2.2⟩
        rw [kinds, joins, later]
        rfl

theorem scan_eq_loneWord_iff_kinds {w : List Char} :
    scan w = loneWord w ↔ w ≠ [] ∧ kinds false w = w.map (·, .word) := by
  constructor
  · intro read
    have lone : (⟨.word, w⟩ : Token) ∈ scan w := by rw [read]; exact List.mem_singleton_self _
    refine ⟨text_ne_nil_of_mem_scan lone, ?_⟩
    rw [← flatMap_tagged_scan, read]
    simp [loneWord, tagged]
  · rintro ⟨nonempty, run⟩
    have one := @ofKinds_tagged ⟨.word, w⟩ nonempty
    rw [scan, run]
    exact one

/-- **A text is read as one word exactly when it is one.** -/
theorem scan_eq_loneWord_iff {w : List Char} : scan w = loneWord w ↔ IsWholeWord w := by
  rw [scan_eq_loneWord_iff_kinds, kinds_eq_word_iff]
  constructor
  · rintro ⟨nonempty, each⟩
    refine ⟨nonempty, fun before c after eq => ?_⟩
    by_cases word : isWordChar c = true
    · exact .inl word
    · obtain ⟨joiner, inside, next⟩ := (each before c after eq).resolve_left word
      refine .inr ⟨joiner, ?_, next⟩
      cases before using List.reverseRecOn with
      | nil => cases inside rfl
      | append_singleton before d =>
          rw [List.getLast?_concat, Option.any_some]
          -- a joiner in front of `c` would have to stand before a word character
          rcases each before d (c :: after) (by rw [eq]; simp) with front | ⟨-, -, starts⟩
          · exact front
          · exact absurd starts word
  · rintro ⟨nonempty, joined⟩
    refine ⟨nonempty, fun before c after eq => ?_⟩
    refine (joined before c after eq).imp_right ?_
    rintro ⟨joiner, front, next⟩
    refine ⟨joiner, ?_, next⟩
    rintro rfl
    cases front

/-! ## Words with single spaces between them -/

/-- A word is read up to the space behind it as it is read alone. -/
theorem kinds_append_space_iff {w rest : List Char} {tail : List (Char × TokenKind)}
    (nonempty : w ≠ []) :
    kinds false (w ++ ' ' :: rest) = w.map (·, .word) ++ (' ', .separator) :: tail ↔
      kinds false w = w.map (·, .word) ∧ kinds false rest = tail := by
  have apart (inWord : Bool) : kinds inWord (' ' :: rest) = (' ', .separator) :: kinds false rest :=
    @kinds_space_append inWord [' '] rest (List.forall_mem_singleton.mpr rfl) (by simp)
  have stops : startsWord [] = startsWord (' ' :: rest) := by
    have no_word : isWordChar ' ' = false := isWordChar_of_isSpace (by decide)
    simp [startsWord, no_word]
  constructor
  · intro run
    obtain ⟨behind, alone⟩ := kinds_append_congr nonempty run
    have lone := alone [] stops
    rw [List.append_nil, kinds, List.append_nil] at lone
    rw [apart, List.cons.injEq] at behind
    exact ⟨lone, behind.2.symm⟩
  · rintro ⟨lone, rfl⟩
    have run : kinds false (w ++ []) = w.map (·, .word) ++ [] := by simpa using lone
    rw [(kinds_append_congr nonempty run).2 _ stops.symm, apart]

theorem kinds_intercalate_iff {ws : List (List Char)} (nonempty : ∀ w ∈ ws, w ≠ []) :
    kinds false ([' '].intercalate ws) = (spaced ws).flatMap tagged ↔
      ∀ w ∈ ws, kinds false w = w.map (·, .word) := by
  induction ws with
  | nil => simp [spaced, kinds]
  | cons w rest ih =>
      obtain ⟨first, later⟩ := List.forall_mem_cons.mp nonempty
      cases rest with
      | nil => simp [spaced, tagged]
      | cons next rest =>
          have tokens : (spaced (w :: next :: rest)).flatMap tagged =
              w.map (·, .word) ++ (' ', .separator) :: (spaced (next :: rest)).flatMap tagged := by
            simp [spaced, tagged, space]
          rw [List.intercalate_cons_cons, List.append_assoc, List.singleton_append, tokens,
            kinds_append_space_iff first, ih later, @List.forall_mem_cons _ _ w]

theorem isChain_spaced (ws : List (List Char)) : (spaced ws).IsChain (·.kind ≠ ·.kind) := by
  induction ws with
  | nil => exact .nil
  | cons w rest ih =>
      cases rest with
      | nil => exact .singleton _
      | cons next rest =>
          obtain ⟨more, eq⟩ := exists_spaced_eq_cons (List.cons_ne_nil next rest)
          rw [spaced, eq]
          rw [eq] at ih
          exact .cons_cons (by simp [space]) (.cons_cons (by simp [space]) ih)

theorem mem_spaced {ws : List (List Char)} {w : List Char} (hw : w ∈ ws) :
    (⟨.word, w⟩ : Token) ∈ spaced ws := by
  induction ws with
  | nil => cases hw
  | cons v rest ih =>
      cases rest with
      | nil =>
          obtain rfl := List.mem_singleton.mp hw
          exact List.mem_singleton_self _
      | cons next rest =>
          rcases List.mem_cons.mp hw with rfl | later
          · exact List.mem_cons_self
          · exact List.mem_cons_of_mem _ (List.mem_cons_of_mem _ (ih later))

theorem of_mem_spaced {ws : List (List Char)} {t : Token} (ht : t ∈ spaced ws) :
    t = space ∨ ∃ w ∈ ws, t = ⟨.word, w⟩ := by
  induction ws with
  | nil => cases ht
  | cons v rest ih =>
      cases rest with
      | nil =>
          obtain rfl := List.mem_singleton.mp ht
          exact .inr ⟨v, List.mem_singleton_self v, rfl⟩
      | cons next rest =>
          rcases List.mem_cons.mp ht with rfl | later
          · exact .inr ⟨v, List.mem_cons_self, rfl⟩
          · rcases List.mem_cons.mp later with rfl | later
            · exact .inl rfl
            · refine (ih later).imp_right ?_
              rintro ⟨w, hw, rfl⟩
              exact ⟨w, List.mem_cons_of_mem v hw, rfl⟩

/-- **Words with single spaces between them are read as those words exactly when each is one.** -/
theorem scan_intercalate_iff {ws : List (List Char)} :
    scan ([' '].intercalate ws) = spaced ws ↔ ∀ w ∈ ws, IsWholeWord w := by
  constructor
  · intro read w hw
    have nonempty : ∀ v ∈ ws, v ≠ [] := by
      intro v hv
      have token := mem_spaced hv
      rw [← read] at token
      exact text_ne_nil_of_mem_scan token
    have runs := flatMap_tagged_scan ([' '].intercalate ws)
    rw [read] at runs
    have run := (kinds_intercalate_iff nonempty).mp runs.symm w hw
    exact scan_eq_loneWord_iff.mp (scan_eq_loneWord_iff_kinds.mpr ⟨nonempty w hw, run⟩)
  · intro whole
    have run : ∀ w ∈ ws, w ≠ [] ∧ kinds false w = w.map (·, .word) := fun w hw =>
      scan_eq_loneWord_iff_kinds.mp (scan_eq_loneWord_iff.mpr (whole w hw))
    have runs := (kinds_intercalate_iff fun w hw => (run w hw).1).mpr fun w hw => (run w hw).2
    have nonempty : ∀ t ∈ spaced ws, t.text ≠ [] := by
      intro t ht
      rcases of_mem_spaced ht with rfl | ⟨w, hw, rfl⟩
      · decide
      · exact (run w hw).1
    rw [scan, runs]
    exact ofKinds_flatMap_tagged nonempty (isChain_spaced ws)

end Token

instance (w : List Char) : Decidable (IsWholeWord w) :=
  decidable_of_iff _ Token.scan_eq_loneWord_iff

end Agreement
