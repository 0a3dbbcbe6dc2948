/- # Agreement.Proofs.Unicode.Hebrew: Hebrew words in normal form

Nothing but Hebrew letters without points becomes such letters when a text is composed. So words
whose key consists of them are the words of the key, however the normal form of other text comes
about.
-/
import Agreement.Gender.Token
import Agreement.Proofs.Gender.Tokens
import Agreement.Proofs.Unicode.Composing

namespace Agreement

open Text

namespace Unicode

/-! ## Hebrew letters -/

section Letters

variable {c : Char}

theorem isSpace_of_isHebrew (h : isHebrew c = true) : isSpace c = false := by
  simp only [isHebrew, Bool.and_eq_true, decide_eq_true_eq] at h
  simp only [isSpace, Bool.or_eq_false_iff, Bool.and_eq_false_iff, beq_eq_false_iff_ne,
    decide_eq_false_iff_not]
  omega

/-- The code points of Hebrew letters without points are 27 in a row. -/
theorem exists_toNat_of_isHebrew (h : isHebrew c = true) : ∃ k < 27, c.toNat = 0x5D0 + k := by
  simp only [isHebrew, Bool.and_eq_true, decide_eq_true_eq] at h
  exact ⟨c.toNat - 0x5D0, by omega, by omega⟩

theorem alphabetic_hebrew : ∀ k < 27, alphabetic.contains (0x5D0 + k) = true := by
  decide

theorem isAlphabetic_of_isHebrew (h : isHebrew c = true) : isAlphabetic c = true := by
  obtain ⟨k, bound, code⟩ := exists_toNat_of_isHebrew h
  rw [isAlphabetic, code]
  exact alphabetic_hebrew k bound

theorem classIn_hebrew : ∀ k < 27, classIn combiningClasses (0x5D0 + k) = 0 := by
  decide

theorem combiningClass_of_isBare (h : isBare c = true) : combiningClass c = 0 := by
  rcases Bool.or_eq_true_iff.mp h with letter | blank
  · obtain ⟨k, bound, code⟩ := exists_toNat_of_isHebrew letter
    rw [combiningClass, code]
    exact classIn_hebrew k bound
  · exact combiningClass_of_isSpace blank

end Letters

/-! ## Texts that are their own normal form -/

section Normal

variable {text : List Char}

/-- What is joined to Hebrew letters and blank space alone was nothing else before. -/
theorem joinFrom_of_isBare {letter : Char} {marks : List Char}
    (bare : ∀ c ∈ joinFrom letter marks text, isBare c = true) :
    joinFrom letter marks text = letter :: marks.reverse ++ text := by
  induction text generalizing letter marks with
  | nil => simp [joinFrom]
  | cons c rest ih =>
      rcases joinFrom_cons letter marks c with ⟨joined, made, eq⟩ | ⟨-, eq⟩ | ⟨-, eq⟩
      · -- something that is neither stays of a composite
        obtain ⟨d, member, other⟩ := @exists_mem_joinFrom (isBare · = false)
          isBare_of_composite joined marks rest
          ⟨joined, List.mem_cons_self, isBare_of_composite made⟩
        rw [← eq] at member
        rw [bare d member] at other
        cases other
      · rw [eq] at bare ⊢
        rw [ih fun d hd => bare d (List.mem_append_right _ hd)]
        rfl
      · rw [eq] at bare ⊢
        rw [ih bare]
        simp

theorem join_of_isBare (bare : ∀ c ∈ join text, isBare c = true) : join text = text := by
  induction text with
  | nil => rfl
  | cons c rest ih =>
      rw [join] at bare ⊢
      split at bare
      · next starts =>
          rw [if_pos starts, joinFrom_of_isBare bare]
          rfl
      · next mark =>
          rw [if_neg mark, ih fun d hd => bare d (List.mem_cons_of_mem c hd)]

/-- Text without marks is in order. -/
theorem orderMarks_of_combiningClass (h : ∀ c ∈ text, combiningClass c = 0) :
    orderMarks text = text := by
  induction text with
  | nil => rfl
  | cons c rest ih =>
      obtain ⟨-, later⟩ := List.forall_mem_cons.mp h
      have step : orderMarks (c :: rest) = insertMark c rest := congrArg (insertMark c) (ih later)
      rw [step]
      cases rest with
      | nil => rfl
      | cons d rest => rw [insertMark, if_neg fun before => before.1 (later d List.mem_cons_self)]

/-- A text with no other blank space than spaces, whose normal form has nothing but Hebrew letters
and blank space, is that normal form. -/
theorem normalize_of_isBare (spaces : ∀ c ∈ text, isSpace c = true → c = ' ')
    (bare : ∀ c ∈ normalize text, isBare c = true) : normalize text = text := by
  rcases normalize_eq text with same | composed
  · exact same
  · rw [composed] at bare ⊢
    -- the steps are undone from the last to the first
    have joined : compose text = orderMarks (text.flatMap decompose) := join_of_isBare bare
    have parts : ∀ c ∈ text.flatMap decompose, isBare c = true :=
      fun c hc => bare c (joined ▸ mem_orderMarks.mpr hc)
    have ordered : orderMarks (text.flatMap decompose) = text.flatMap decompose :=
      orderMarks_of_combiningClass fun c hc => combiningClass_of_isBare (parts c hc)
    have alone : ∀ c ∈ text, decompose c = [c] := by
      intro c hc
      cases blank : isSpace c with
      | true => rw [spaces c hc blank, decompose_space]
      | false =>
          rcases decompose_eq_or blank with alone | ⟨d, part, other⟩
          · exact alone
          · rw [parts d (List.mem_flatMap.mpr ⟨c, hc, part⟩)] at other
            cases other
    calc compose text = text.flatMap decompose := joined.trans ordered
      _ = text.flatMap fun c => [c] := List.flatMap_congr alone
      _ = text := List.flatMap_singleton' text

end Normal

end Unicode

open Unicode

/-! ## Keys of Hebrew words -/

/-- **Only the words of a Hebrew key have that key.** -/
theorem eq_of_normalizeKey {ws key : List (List Char)} (visible : ∀ w ∈ ws, IsRunOf (!isSpace ·) w)
    (hebrew : ∀ w ∈ key, IsRunOf isHebrew w)
    (same : normalizeKey ([' '].intercalate ws) = [' '].intercalate key) : ws = key := by
  have key_visible : ∀ w ∈ key, IsRunOf (!isSpace ·) w :=
    fun w hw => (hebrew w hw).imp fun c hc => by simp [isSpace_of_isHebrew hc]
  have words_eq : words (normalize ([' '].intercalate ws)) = key := by
    rw [← words_intercalate key_visible, ← same, normalizeKey, words_intercalate]
    intro w hw
    exact ⟨ne_nil_of_mem_words hw, fun c hc => by simp [isSpace_of_mem_words hw hc]⟩
  rw [← words_intercalate visible, ← words_eq, normalize_of_isBare]
  · intro c hc blank
    rcases of_mem_intercalate hc with space | ⟨w, hw, inside⟩
    · exact space
    · have other := (visible w hw).2 c inside
      simp [blank] at other
  · intro c hc
    cases blank : isSpace c with
    | true => simp [isBare, blank]
    | false =>
        obtain ⟨w, hw, inside⟩ := exists_mem_words hc blank
        rw [words_eq] at hw
        simp [isBare, (hebrew w hw).2 c inside]

end Agreement
