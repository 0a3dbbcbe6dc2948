/- # Agreement.Proofs.Gender.Vocabulary: the built-in vocabulary is settled

What the built-in vocabulary finds are the words of its table, some of them behind the article. The
table is checked once for all that a settled vocabulary has to be. Whether a form is the key of
another row is looked up among marks of the keys, each a bit of one number, since to compare every
form with every key would take long.
-/
import Agreement.Proofs.Gender.Settled
import Mathlib.Data.List.Infix

namespace Agreement

open Unicode Text

/-! ## Marks -/

/-- The number of a phrase. Other phrases may have the same one. -/
def mark (ws : List (List Char)) : Nat :=
  ws.flatten.foldl (fun n c => (31 * n + c.toNat) % 65536) 0

/-- The marks of phrases, as the bits of one number. -/
def marks (phrases : List (List (List Char))) : Nat :=
  phrases.foldr (fun ws bits => 1 <<< mark ws ||| bits) 0

theorem testBit_marks {phrases : List (List (List Char))} {ws : List (List Char)}
    (h : ws ∈ phrases) : (marks phrases).testBit (mark ws) = true := by
  induction phrases with
  | nil => cases h
  | cons us phrases ih =>
      have step : marks (us :: phrases) = 1 <<< mark us ||| marks phrases := rfl
      rw [step, Nat.testBit_or]
      rcases List.mem_cons.mp h with rfl | later
      · simp
      · rw [ih later, Bool.or_true]

/-! ## The table -/

namespace Vocabulary

/-- The words of a row with what stands in their place for a gender: the word itself, and the word
behind the article if it takes one. -/
def Row.changes (g : Gender) (row : Row) : List (List Char × List Char) :=
  (row.entry.1.toList, (row.entry.2.form g).toList) ::
    if row.entry.2.takesArticle then
      [(article :: row.entry.1.toList, article :: (row.entry.2.form g).toList)]
    else []

/-- What the vocabulary puts in the place of what. -/
def changes (g : Gender) : List (List Char × List Char) := rows.flatMap (Row.changes g)

/-- The words of the keys that are not their own forms. -/
def changedKeys (g : Gender) : List (List (List Char)) :=
  ((changes g).filter fun p => p.1 != p.2).map (·.1.splitOn ' ')

/-- The words with which keys of several words go on. -/
def laterWords : List (List Char) := ["כוחו", "כוח", "מטה"].map String.toList

/-- The words behind which keys of several words go on. -/
def earlierWords : List (List Char) := ["בא", "מיופה", "חתום", "החתום"].map String.toList

/-- The table, checked for every gender: keys and forms are Hebrew phrases of as many words, no
form starts with a later word of a key or ends with an earlier one, and no words in a form make up
a key with another form. -/
theorem changes_checked : ∀ g ∈ Gender.all, ∀ p ∈ changes g,
    (IsHebrewPhrase p.1 ∧ IsHebrewPhrase p.2 ∧
      (p.2.splitOn ' ').length = (p.1.splitOn ' ').length) ∧
    ((∀ w ∈ (p.1.splitOn ' ').tail, w ∈ laterWords) ∧
      (∀ w ∈ (p.1.splitOn ' ').dropLast, w ∈ earlierWords)) ∧
    ((p.2.splitOn ' ').headD [] ∉ laterWords ∧ (p.2.splitOn ' ').getLastD [] ∉ earlierWords) ∧
    ∀ ws ∈ (p.2.splitOn ' ').tails, ∀ us ∈ ws.inits,
      (marks (changedKeys g)).testBit (mark us) = false := by
  intro g _
  cases g <;> decide +kernel

theorem mem_changes {row : Row} (h : row ∈ rows) (g : Gender) :
    (row.entry.1.toList, (row.entry.2.form g).toList) ∈ changes g :=
  List.mem_flatMap.mpr ⟨row, h, List.mem_cons_self⟩

theorem article_mem_changes {row : Row} (h : row ∈ rows)
    (takes : row.entry.2.takesArticle = true) (g : Gender) :
    (article :: row.entry.1.toList, article :: (row.entry.2.form g).toList) ∈ changes g :=
  List.mem_flatMap.mpr ⟨row, h, by simp [Row.changes, takes]⟩

end Vocabulary

/-! ## What the vocabulary finds -/

/-- A Hebrew phrase is its own key. -/
theorem normalizeKey_of_isHebrewPhrase {text : List Char} (h : IsHebrewPhrase text) :
    normalizeKey text = text := by
  have alone : text.all standsAlone = true := by
    rw [List.all_eq_true]
    intro c hc
    rw [← @List.intercalate_splitOn Char text _ _ ' '] at hc
    rcases of_mem_intercalate hc with rfl | ⟨w, hw, inside⟩
    · decide
    · have letter := (h w hw).2 c inside
      simp only [isHebrew, Bool.and_eq_true, decide_eq_true_eq] at letter
      simp [standsAlone, letter]
  have words_eq : words text = text.splitOn ' ' := by
    conv_lhs => rw [← @List.intercalate_splitOn Char text _ _ ' ']
    apply words_intercalate
    intro w hw
    exact (h w hw).imp fun c hc => by simp [isSpace_of_isHebrew hc]
  rw [normalizeKey, normalize_of_all_standsAlone alone, words_eq, List.intercalate_splitOn]

namespace Lexicon

/-- An entry of the built-in vocabulary is that of a row, and its key is the word of the row. -/
theorem exists_row_of_get? {k : List Char} {e : Entry}
    (h : hebrew.entries.get? (String.ofList k) = some e) :
    ∃ row ∈ Vocabulary.rows, row.entry.1.toList = k ∧ row.entry.2 = e := by
  rcases mem_of_get?_bindAll h with before | ⟨p, hp, key_eq, rfl⟩
  · simp [empty] at before
  · obtain ⟨row, hrow, rfl⟩ := List.mem_map.mp hp
    refine ⟨row, hrow, ?_, rfl⟩
    have checked := Vocabulary.changes_checked .male (Gender.mem_all _) _
      (Vocabulary.mem_changes hrow _)
    have same : normalizeKey row.entry.1.toList = k := by
      simpa using congrArg String.toList key_eq
    rw [← same, normalizeKey_of_isHebrewPhrase checked.1.1]

/-- What the built-in vocabulary finds is in the table. -/
theorem mem_changes_of_find? {k : List Char} {hit : Hit} (h : hebrew.find? k = some hit)
    (g : Gender) : (k, hit.form g) ∈ Vocabulary.changes g := by
  cases (find?_eq_some_iff Reachable.hebrew.wellKeyed).mp h with
  | direct found =>
      obtain ⟨row, hrow, rfl, rfl⟩ := exists_row_of_get? found
      exact Vocabulary.mem_changes hrow g
  | article _ found takes =>
      obtain ⟨row, hrow, rfl, rfl⟩ := exists_row_of_get? found
      exact Vocabulary.article_mem_changes hrow takes g

/-- **The built-in vocabulary is settled for every gender.** -/
theorem settled_hebrew (g : Gender) : hebrew.Settled g := by
  have checked {k : List Char} {h : Hit} (found : hebrew.find? k = some h) :=
    Vocabulary.changes_checked g (Gender.mem_all g) _ (mem_changes_of_find? found g)
  refine ⟨fun found => (checked found).1.1, fun found => (checked found).1.2.1,
    fun found => (checked found).1.2.2, ?_, ?_, ?_⟩
  · intro k h k' h' found found' inside
    exact (checked found).2.2.1.1 ((checked found').2.1.1 _ inside)
  · intro k h k' h' found found' inside
    exact (checked found).2.2.1.2 ((checked found').2.1.2 _ inside)
  · intro k h k' h' found found' inside
    by_contra differs
    -- a key with another form has left its mark
    have changed : k'.splitOn ' ' ∈ Vocabulary.changedKeys g := by
      refine List.mem_map.mpr ⟨_, List.mem_filter.mpr ⟨mem_changes_of_find? found' g, ?_⟩, rfl⟩
      simpa using Ne.symm differs
    obtain ⟨ws, start, stop⟩ := List.infix_iff_prefix_suffix.mp inside
    have unmarked := (checked found).2.2.2 ws ((List.mem_tails _ _).mpr stop) _
      ((List.mem_inits _ _).mpr start)
    rw [testBit_marks changed] at unmarked
    cases unmarked

end Lexicon

end Agreement
