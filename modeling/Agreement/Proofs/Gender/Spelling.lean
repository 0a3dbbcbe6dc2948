/- # Agreement.Proofs.Gender.Spelling: the spelling of a key

A key is spelled as it is looked up: it is its own key. Composing works word by word, so joining the
words of a normal form by single spaces leaves a normal form. What a phrase is looked up by is then
the normal form of its words with single spaces between them, and decomposes into as many
characters.
-/
import Agreement.Proofs.Gender.Keys
import Agreement.Proofs.Unicode.Recomposing

namespace Agreement

open Unicode Text

/-! ## Composing word by word -/

namespace Unicode

/-- The composition of a word is a word. -/
theorem isRunOf_compose {w : List Char} (h : IsRunOf (!isSpace ·) w) :
    IsRunOf (!isSpace ·) (compose w) := by
  obtain ⟨c, rest, rfl⟩ := List.exists_cons_of_ne_nil h.1
  have visible : ∀ d ∈ c :: rest, isSpace d = false := fun d hd => by simpa using h.2 d hd
  obtain ⟨d, member, -⟩ :=
    isVisible_compose ⟨c, List.mem_cons_self, visible c List.mem_cons_self⟩
  exact ⟨List.ne_nil_of_mem member, fun e he => by simp [isSpace_of_mem_compose visible he]⟩

/-- Composing works word by word. -/
theorem words_compose (text : List Char) : words (compose text) = (words text).map compose := by
  induction text using word_induction with
  | nil => simp [compose, orderMarks, join]
  | last w run =>
      rw [words_of_isRunOf run, words_of_isRunOf (isRunOf_compose run), List.map_singleton]
  | blank s rest space ih =>
      obtain ⟨s', space', parts⟩ := exists_decompose_eq_singleton space
      have apart := compose_append_blank space' parts [] rest
      rw [List.nil_append] at apart
      rw [apart, words_append_cons space', ih, ← List.nil_append (s :: rest),
        words_append_cons space]
      simp [compose, orderMarks, join]
  | word w s rest run space ih =>
      obtain ⟨s', space', parts⟩ := exists_decompose_eq_singleton space
      rw [compose_append_blank space' parts, words_append_cons space', ih,
        words_append_cons space, words_of_isRunOf run, words_of_isRunOf (isRunOf_compose run),
        List.map_append, List.map_singleton]

theorem compose_intercalate (ws : List (List Char)) :
    compose ([' '].intercalate ws) = [' '].intercalate (ws.map compose) := by
  induction ws with
  | nil => rfl
  | cons w rest ih =>
      cases rest with
      | nil => simp
      | cons next rest =>
          rw [List.intercalate_cons_cons, List.append_assoc, List.singleton_append,
            compose_append_space, ih, List.map_cons, List.map_cons, List.map_cons,
            List.intercalate_cons_cons, List.append_assoc, List.singleton_append]

end Unicode

/-! ## Keys -/

/-- A key holds what its normal form holds, and spaces. -/
theorem mem_of_mem_normalizeKey {text : List Char} {c : Char} (h : c ∈ normalizeKey text) :
    c = ' ' ∨ c ∈ normalize text := by
  refine (of_mem_intercalate h).imp_right ?_
  rintro ⟨w, hw, inside⟩
  have kept : c ∈ (words (normalize text)).flatten := List.mem_flatten_of_mem hw inside
  rw [flatten_words] at kept
  exact (List.mem_filter.mp kept).1

/-- Spaces are the only blank space of a key. -/
theorem eq_space_of_mem_normalizeKey {c : Char} (hc : c ∈ normalizeKey text)
    (blank : Unicode.isSpace c = true) : c = ' ' := by
  refine (of_mem_intercalate hc).resolve_right ?_
  rintro ⟨w, hw, inside⟩
  rw [isSpace_of_mem_words hw inside] at blank
  cases blank

/-- A key is in normal form. -/
theorem normalize_normalizeKey (text : List Char) :
    normalize (normalizeKey text) = normalizeKey text := by
  by_cases alone : (normalizeKey text).all standsAlone = true
  · exact normalize_of_all_standsAlone alone
  · -- spaces stand alone, so the normal form of the text holds something that does not
    have not_alone : ¬ (normalize text).all standsAlone = true := by
      intro all
      refine alone (List.all_eq_true.mpr fun c hc => ?_)
      rcases mem_of_mem_normalizeKey hc with rfl | inside
      · decide
      · exact List.all_eq_true.mp all c inside
    have composed : compose (normalize text) = normalize text := by
      have again := normalize_normalize text
      rwa [Unicode.normalize, if_neg not_alone] at again
    rw [Unicode.normalize, if_neg alone, normalizeKey, compose_intercalate, ← words_compose, composed]

theorem words_normalizeKey (text : List Char) :
    words (normalizeKey text) = words (normalize text) :=
  words_intercalate fun _ hw => isRunOf_of_mem_words hw

/-- A key is its own key. -/
theorem normalizeKey_normalizeKey (text : List Char) :
    normalizeKey (normalizeKey text) = normalizeKey text := by
  rw [normalizeKey, normalize_normalizeKey, words_normalizeKey]
  rfl

/-- Only visible text has a key with words. -/
theorem isVisible_of_mem_words_normalizeKey {text w : List Char}
    (hw : w ∈ words (normalizeKey text)) : IsVisible text := by
  rw [words_normalizeKey] at hw
  rcases normalize_eq text with same | composed
  · rw [same] at hw
    exact isVisible_of_mem_words hw
  · rw [composed, words_compose] at hw
    obtain ⟨v, hv, -⟩ := List.mem_map.mp hw
    exact isVisible_of_mem_words hv

/-- Words are looked up by the normal form of the words with single spaces between them. -/
theorem normalizeKey_intercalate {ws : List (List Char)} (h : ∀ w ∈ ws, IsRunOf (!isSpace ·) w) :
    normalizeKey ([' '].intercalate ws) = normalize ([' '].intercalate ws) := by
  rw [normalizeKey]
  rcases normalize_eq ([' '].intercalate ws) with same | composed
  · rw [same, words_intercalate h]
  · rw [composed, words_compose, words_intercalate h, compose_intercalate]

/-- A key decomposes into as many characters as its words with single spaces between them. -/
theorem decomposedLength_normalizeKey {ws : List (List Char)}
    (h : ∀ w ∈ ws, IsRunOf (!isSpace ·) w) :
    decomposedLength (normalizeKey ([' '].intercalate ws)) =
      decomposedLength ([' '].intercalate ws) := by
  rw [normalizeKey_intercalate h, decomposedLength_normalize]

end Agreement
