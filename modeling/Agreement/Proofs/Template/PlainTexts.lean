/- # Agreement.Proofs.Template.PlainTexts: texts without placeholders

Agreement goes over the texts between the placeholders of a template. Without placeholders there is
one text, and what agreement does to it is what the search in a text does.

Two things follow. Words with single spaces between them become the form that the vocabulary has for
them as a whole, so a text is found by the search whenever it is found by its key. And a text falls
apart at punctuation: what stands before it and what stands after it are put in agreement each on
its own, since no phrase goes across and both are read as they are read alone.
-/
import Agreement.Proofs.Gender.Cuts
import Agreement.Proofs.Gender.Lookups
import Agreement.Proofs.Gender.WholeWords
import Agreement.Proofs.Template.Grammar
import Agreement.Template.Resolution

namespace Agreement

open Unicode Text Token

namespace Template

variable {lex : Lexicon} {text : String} {g : Gender}

/-! ## One segment -/

/-- A text without placeholders is one segment, if it holds anything. -/
theorem segments_of_placeholderCount (plain : placeholderCount text = 0) :
    segments text.toList = textSegment text.toList := by
  have no_placeholder : ∀ s ∈ segments text.toList, s.isPlaceholder = false := by
    intro s hs
    have none_left := List.filter_eq_nil_iff.mp (List.length_eq_zero_iff.mp plain) s hs
    simpa using none_left
  have turns := alternating_segments text.toList
  have sources := flatMap_source_segments text.toList
  match listed : segments text.toList with
  | [] =>
      rw [listed] at sources
      rw [← sources]
      rfl
  | [.text s] =>
      rw [listed, List.flatMap_singleton, Segment.source] at sources
      have some_text : s ≠ [] := by
        apply ne_nil_of_text_mem_segments
        rw [listed]
        exact List.mem_singleton_self _
      rw [← sources, textSegment, if_neg (by simpa using some_text)]
  | [.placeholder p source] => simp [listed, Segment.isPlaceholder] at no_placeholder
  | s :: t :: rest =>
      -- of two segments side by side one would be a placeholder
      rw [listed] at turns no_placeholder
      rcases turns.rel with first | second
      · rw [no_placeholder s List.mem_cons_self] at first
        cases first
      · rw [no_placeholder t (List.mem_cons_of_mem s List.mem_cons_self)] at second
        cases second

/-- A text without a brace that opens has no placeholders. -/
theorem placeholderCount_of_not_mem (absent : '\x7b' ∉ text.toList) :
    placeholderCount text = 0 := by
  have unopened : cutAtPair '\x7b' text.toList = none := by
    cases cut : cutAtPair '\x7b' text.toList with
    | none => rfl
    | some halves =>
        rw [eq_of_cutAtPair cut] at absent
        simp at absent
  rw [placeholderCount, segments, scan_of_unopened unopened, List.nil_append, textSegment]
  split <;> rfl

/-- A text without placeholders is resolved by agreement alone. -/
theorem toList_resolve (plain : placeholderCount text = 0) (ctx : Context) :
    (resolve lex ctx text).toList = lex.inAgreement ctx.gender {} text.toList := by
  rw [resolve, seamedSegments, segments_of_placeholderCount plain, String.toList_ofList]
  cases text.toList with
  | nil => rfl
  | cons c rest => simp [textSegment, withSeams, resolveSegment]

theorem toList_agree (plain : placeholderCount text = 0) (g : Gender) :
    (agree lex g text).toList = lex.inAgreement g {} text.toList := by
  rw [agree, seamedSegments, segments_of_placeholderCount plain, String.toList_ofList]
  cases text.toList with
  | nil => rfl
  | cons c rest => simp [textSegment, withSeams]

/-! ## Words with single spaces between them -/

section Words

variable {ws : List (List Char)}

/-- A text that is read as words has no placeholders. -/
theorem placeholderCount_of_scan (read : Token.scan text.toList = spaced ws) :
    placeholderCount text = 0 := by
  apply placeholderCount_of_not_mem
  have spelled : [' '].intercalate ws = text.toList := intercalate_of_scan read
  have whole : ∀ w ∈ ws, IsWholeWord w := by
    rw [← scan_intercalate_iff, spelled, read]
  rw [← spelled]
  intro brace
  rcases of_mem_intercalate brace with space | ⟨w, hw, inside⟩
  · exact absurd space (by decide)
  · exact absurd ((whole w hw).isWordChar_or_isJoiner inside) (by decide)

/-- Words that the vocabulary has as a whole become their form. -/
theorem agree_of_scan_eq_spaced {hit : Hit} (read : Token.scan text.toList = spaced ws)
    (nonempty : ws ≠ []) (within : ws.length ≤ lex.maxWords)
    (has : lex.find? (normalizeKey text.toList) = some hit) (g : Gender) :
    agree lex g text = String.ofList (hit.form g) := by
  apply String.toList_injective
  rw [toList_agree (placeholderCount_of_scan read), String.toList_ofList]
  exact Lexicon.inAgreement_of_scan_eq_spaced read nonempty within has g

/-- What the vocabulary has as a whole has no more words than its longest key. -/
theorem length_le_maxWords {hit : Hit} (h : lex.Reachable)
    (read : Token.scan text.toList = spaced ws) (nonempty : ws ≠ [])
    (has : lex.find? (normalizeKey text.toList) = some hit) : ws.length ≤ lex.maxWords := by
  have phrase := isPhrase_spaced nonempty
  have key : phraseKey (tokenAt? (spaced ws)) 0 ws.length = normalizeKey text.toList := by
    rw [phraseKey, phraseWords_spaced, intercalate_of_scan read]
  refine phrase.le_maxWords h.wellKeyed ?_ (key ▸ (Lexicon.find?_eq_some_iff h.wellKeyed).mp has)
  intro j t at_place word
  rw [← read] at at_place
  exact Token.isVisible_of_isWord (List.mem_of_getElem? at_place) word

/-- **Looking a text up and searching it agree.** If a text is read as words with single spaces
between them and the vocabulary has it as a whole, then agreement gives the form that looking it up
gives, however many words it has. If it is one word and the vocabulary does not have it, then
agreement leaves it as it is. -/
theorem agree_eq_inflect (h : lex.Reachable) (read : Token.scan text.toList = spaced ws)
    (nonempty : ws ≠ []) (g : Gender) :
    (∀ form, lex.inflect text g = some form → agree lex g text = form) ∧
      (ws.length = 1 → lex.inflect text g = none → agree lex g text = text) := by
  constructor
  · intro form inflected
    obtain ⟨hit, has, rfl⟩ := Option.map_eq_some_iff.mp inflected
    exact agree_of_scan_eq_spaced read nonempty (length_le_maxWords h read nonempty has) has g
  · intro single missing
    obtain ⟨w, rfl⟩ := List.length_eq_one_iff.mp single
    have unknown := Option.map_eq_none_iff.mp missing
    apply String.toList_injective
    rw [toList_agree (placeholderCount_of_scan read)]
    exact Lexicon.inAgreement_of_find?_eq_none read unknown g

/-- A phrase of two words with the article, and a word that the vocabulary does not have. -/
theorem agree_eq_inflect_undersigned :
    let both := ["החתום".toList, "מטה".toList]
    let table := ["שולחן".toList]
    (Lexicon.small.Reachable ∧ Token.scan "החתום מטה".toList = spaced both ∧ both ≠ [] ∧
      Lexicon.small.inflect "החתום מטה" .female = some "החתומה מטה") ∧
    agree .small .female "החתום מטה" = "החתומה מטה" ∧
    (Token.scan "שולחן".toList = spaced table ∧ table ≠ [] ∧ table.length = 1 ∧
      Lexicon.small.inflect "שולחן" .female = none) ∧
    agree .small .female "שולחן" = "שולחן" := by
  intro both table
  have read : Token.scan "החתום מטה".toList = spaced both := by decide +kernel
  have read_table : Token.scan "שולחן".toList = spaced table := by decide +kernel
  have inflected : Lexicon.small.inflect "החתום מטה" .female = some "החתומה מטה" := by
    decide +kernel
  have missing : Lexicon.small.inflect "שולחן" .female = none := by decide +kernel
  have some_words : both ≠ [] := List.cons_ne_nil _ _
  have some_table : table ≠ [] := List.cons_ne_nil _ _
  exact ⟨⟨.small, read, some_words, inflected⟩,
    (agree_eq_inflect .small read some_words .female).1 _ inflected,
    ⟨read_table, some_table, rfl, missing⟩,
    (agree_eq_inflect .small read_table some_table .female).2 rfl missing⟩

end Words

/-! ## Punctuation -/

/-- **Punctuation isolates.** Where a text without braces that open has something between two parts
that holds neither word characters nor joiners and is not blank, agreement keeps it and puts the
parts in agreement each on its own. -/
theorem agree_append_punctuation (lex : Lexicon) (g : Gender) {a s b : String}
    (plain_a : '\x7b' ∉ a.toList) (plain_s : '\x7b' ∉ s.toList) (plain_b : '\x7b' ∉ b.toList)
    (breaks : ∀ c ∈ s.toList, IsBreak c) (visible : IsVisible s.toList) :
    agree lex g (a ++ s ++ b) = agree lex g a ++ s ++ agree lex g b := by
  have plain : '\x7b' ∉ (a ++ s ++ b).toList := by simp [plain_a, plain_s, plain_b]
  have apart := lex.inAgreement_append_breaks g {} breaks (isVisible_iff.mp visible)
    a.toList b.toList
  apply String.toList_injective
  rw [toList_agree (placeholderCount_of_not_mem plain), String.toList_append,
    String.toList_append, List.append_assoc, apart, String.toList_append, String.toList_append,
    toList_agree (placeholderCount_of_not_mem plain_a),
    toList_agree (placeholderCount_of_not_mem plain_b), List.append_assoc]

/-- A quotation mark joins no word to the comma behind it, so both parts are found. -/
theorem agree_append_comma :
    let a := "\"הוא\""
    let s := ", "
    let b := "חתום מטה"
    ('\x7b' ∉ a.toList ∧ '\x7b' ∉ s.toList ∧ '\x7b' ∉ b.toList ∧
      (∀ c ∈ s.toList, IsBreak c) ∧ IsVisible s.toList) ∧
    agree .small .female (a ++ s ++ b) = "\"היא\", חתומה מטה" := by
  intro a s b
  have plain_a : '\x7b' ∉ a.toList := by decide
  have plain_s : '\x7b' ∉ s.toList := by decide
  have plain_b : '\x7b' ∉ b.toList := by decide
  have comma : IsBreak ',' := by decide +kernel
  have blank : IsBreak ' ' := by decide +kernel
  have breaks : ∀ c ∈ s.toList, IsBreak c := by
    rw [show s.toList = [',', ' '] by decide]
    exact List.forall_mem_cons.mpr ⟨comma, List.forall_mem_singleton.mpr blank⟩
  have visible : IsVisible s.toList := isVisible_iff.mpr (by decide)
  refine ⟨⟨plain_a, plain_s, plain_b, breaks, visible⟩, ?_⟩
  rw [agree_append_punctuation .small .female plain_a plain_s plain_b breaks visible]
  decide +kernel

end Template

end Agreement
