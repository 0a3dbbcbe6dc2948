/- # Agreement.Proofs.Template.LongerWords: words that go on in a value

A value stands in the text without a seam, so a word before or behind a placeholder may be only a
part of a longer word of the text that results. Such a word touches the placeholder, and then
agreement leaves it as it is, or one joiner stands between the two.
-/
import Agreement.Proofs.Gender.LongerWords
import Agreement.Proofs.Template.Bodies
import Agreement.Proofs.Template.LeftmostLongest

namespace Agreement

open Unicode Text Token

/-! ## A variable between two texts -/

namespace Template

open Placeholder

variable {a b name : List Char}

/-- A variable between two texts without braces. -/
theorem segments_around_variable (plain_a : '\x7b' ∉ a) (plain_b : '\x7d' ∉ b)
    (identifier : isIdentifier name = true) :
    segments (a ++ source name ++ b) = textSegment a ++
      .placeholder (.variable (String.ofList name)) (source name) :: textSegment b := by
  have flat : '\x7b' ∉ name := by
    intro brace
    exact (ne_of_identifierChar (identifierChar_of_mem identifier brace)).1 rfl
  have closed : '\x7d' ∉ name := by
    intro brace
    exact (ne_of_identifierChar (identifierChar_of_mem identifier brace)).2.1 rfl
  have opens := opens_of_parseBody (parseBody_of_isIdentifier identifier) flat closed b
  have tail : segments b = textSegment b := by
    apply scan_of_no_close
    intro pair
    exact plain_b (pair.subset List.mem_cons_self)
  have single : ¬ ['\x7b', '\x7b'] <:+: a ++ (source name ++ b).take 1 := by
    intro pair
    have two := pair.sublist.count_le '\x7b'
    rw [List.count_append, List.count_eq_zero.mpr plain_a] at two
    simp [source] at two
  have front := scan_append (source name ++ b) single
  rw [textSegment_append_placeholder, ← tail, List.append_assoc]
  exact front.trans (congrArg (a.foldr consText) (segments_of_opens opens))

/-- The template of a variable between two texts. -/
def aroundVariable (a name b : String) : String := a ++ "\x7b\x7b" ++ name ++ "\x7d\x7d" ++ b

variable {lex : Lexicon} {ctx : Context}

/-- A value goes in between the two texts, each in agreement on its own. -/
theorem toList_resolve_aroundVariable {a b name value : String} (plain_a : '\x7b' ∉ a.toList)
    (plain_b : '\x7d' ∉ b.toList) (identifier : isIdentifier name.toList = true)
    (bound : ctx.values.get? name = some value) :
    (resolve lex ctx (aroundVariable a name b)).toList =
      lex.inAgreement ctx.gender ⟨false, true⟩ a.toList ++ value.toList ++
        lex.inAgreement ctx.gender ⟨true, false⟩ b.toList := by
  have cut : segments (aroundVariable a name b).toList = textSegment a.toList ++
      .placeholder (.variable name) (source name.toList) :: textSegment b.toList := by
    have around := segments_around_variable plain_a plain_b identifier
    rw [String.ofList_toList] at around
    rw [← around]
    simp [aroundVariable, source]
  have no_text (seams : Seams) : lex.inAgreement ctx.gender seams [] = [] := by
    rw [Lexicon.inAgreement_eq_agreedTokens]
    exact Lexicon.agreedTokens_nil lex ctx.gender seams
  rw [resolve, seamedSegments, cut, String.toList_ofList]
  cases a.toList with
  | nil =>
      cases b.toList with
      | nil => simp [textSegment, withSeams, resolveSegment, bound, orSource, no_text]
      | cons d b =>
          simp [textSegment, withSeams, resolveSegment, bound, orSource, no_text,
            Segment.isPlaceholder]
  | cons c a =>
      cases b.toList with
      | nil =>
          simp [textSegment, withSeams, resolveSegment, bound, orSource, no_text,
            Segment.isPlaceholder]
      | cons d b =>
          simp [textSegment, withSeams, resolveSegment, bound, orSource, Segment.isPlaceholder]

/-- The spans of a text leave a token as it is. -/
def Keeps (S : Set Span) (i : Nat) : Prop := ∀ s ∈ S, ¬ s.Covers i

/-- **A word that goes on in the text that results is kept.** In a template of a variable between
two texts, agreement keeps every word of the texts that becomes only a part of a longer word once
the value stands there, unless exactly one joiner stands between the word and the placeholder. -/
theorem resolve_keeps_parts_of_longer_words {lex : Lexicon} (h : lex.Reachable)
    {a b name value : String} (plain_a : '\x7b' ∉ a.toList) (plain_b : '\x7d' ∉ b.toList)
    (identifier : isIdentifier name.toList = true) {ctx : Context}
    (bound : ctx.values.get? name = some value) :
    ∃ S T, lex.Selects (Seams.freeToken? ⟨false, true⟩ (Token.scan a.toList)) S ∧
      lex.Selects (Seams.freeToken? ⟨true, false⟩ (Token.scan b.toList)) T ∧
      (resolve lex ctx (aroundVariable a name b)).toList =
        replaceSpans S ctx.gender 0 (Token.scan a.toList) ++ value.toList ++
          replaceSpans T ctx.gender 0 (Token.scan b.toList) ∧
      (∀ A t D, Token.scan a.toList = A ++ t :: D → t.isWord = true →
        IsPartOfLonger (a ++ value ++ b).toList (A.flatMap Token.text) t.text →
          Keeps S A.length ∨ ∃ c, isJoiner c = true ∧ D = [⟨.separator, [c]⟩]) ∧
      ∀ A t D, Token.scan b.toList = A ++ t :: D → t.isWord = true →
        IsPartOfLonger (a ++ value ++ b).toList ((a ++ value).toList ++ A.flatMap Token.text)
          t.text → Keeps T A.length ∨ ∃ c, isJoiner c = true ∧ A = [⟨.separator, [c]⟩] := by
  obtain ⟨S, hS⟩ := h.exists_selects ⟨false, true⟩ a.toList
  obtain ⟨T, hT⟩ := h.exists_selects ⟨true, false⟩ b.toList
  refine ⟨S, T, hS, hT, ?_, ?_, ?_⟩
  · rw [toList_resolve_aroundVariable plain_a plain_b identifier bound, h.inAgreement_eq hS,
      h.inAgreement_eq hT]
  · intro A t D cut word part
    rw [String.toList_append, String.toList_append, List.append_assoc] at part
    refine (last_or_joiner_of_isPartOfLonger cut word part).imp_left ?_
    rintro rfl
    -- the last word touches the placeholder
    apply hS.not_covers_of_none
    rw [Seams.freeToken?, cut, tokenAt?]
    simp [word]
  · intro A t D cut word part
    rw [String.toList_append] at part
    refine (first_or_joiner_of_isPartOfLonger cut word part).imp_left ?_
    rintro rfl
    -- the first word touches the placeholder
    apply hT.not_covers_of_none
    rw [Seams.freeToken?, cut, tokenAt?]
    simp [word]

/-- A pronoun to which a value adds a letter is kept, and one behind it is not. -/
theorem resolve_keeps_longer_pronoun :
    let ctx : Context := { gender := .female, values := .ofList [("x", "ם")] }
    Lexicon.small.Reachable ∧ '\x7b' ∉ "הוא".toList ∧ '\x7d' ∉ " הוא".toList ∧
      isIdentifier "x".toList = true ∧ ctx.values.get? "x" = some "ם" ∧
      IsPartOfLonger "הואם הוא".toList [] "הוא".toList ∧
      ∃ S, Lexicon.small.Selects (Seams.freeToken? ⟨false, true⟩ (Token.scan "הוא".toList)) S ∧
        Keeps S 0 := by
  intro ctx
  have plain_a : '\x7b' ∉ "הוא".toList := by decide
  have plain_b : '\x7d' ∉ " הוא".toList := by decide
  have identifier : isIdentifier "x".toList = true := by decide +kernel
  have bound : ctx.values.get? "x" = some "ם" := by decide +kernel
  have longer : IsPartOfLonger "הואם הוא".toList [] "הוא".toList :=
    ⟨[], ⟨.word, "הואם".toList⟩, [⟨.separator, " ".toList⟩, ⟨.word, "הוא".toList⟩], [], "ם".toList,
      by decide +kernel, rfl, rfl, by decide, rfl⟩
  obtain ⟨S, T, hS, -, -, keeps, -⟩ :=
    resolve_keeps_parts_of_longer_words .small plain_a plain_b identifier bound
  have read : Token.scan "הוא".toList = [] ++ ⟨.word, "הוא".toList⟩ :: [] := by decide +kernel
  refine ⟨.small, plain_a, plain_b, identifier, bound, longer, S, hS, ?_⟩
  refine (keeps [] ⟨.word, "הוא".toList⟩ [] read rfl longer).resolve_right ?_
  rintro ⟨c, -, none_left⟩
  cases none_left

/-- A pronoun with a joiner between it and the value becomes a part of a longer word, and is
rewritten all the same. -/
theorem resolve_rewrites_part_of_longer_word : ¬ ∀ (lex : Lexicon) (a b name value : String)
    (ctx : Context), ('\x7b' ∉ a.toList ∧ '\x7d' ∉ a.toList) →
      ('\x7b' ∉ b.toList ∧ '\x7d' ∉ b.toList) → isIdentifier name.toList = true →
        ctx.values.get? name = some value → ∀ t D, Token.scan a.toList = t :: D →
          t.isWord = true → IsPartOfLonger (a ++ value ++ b).toList [] t.text →
            t.text <+: (resolve lex ctx (aroundVariable a name b)).toList := by
  intro keeps
  have longer : IsPartOfLonger ("הוא'" ++ "ם" ++ "").toList [] "הוא".toList :=
    ⟨[], ⟨.word, "הוא'ם".toList⟩, [], [], "'ם".toList, by decide +kernel, rfl, by decide, by decide,
      rfl⟩
  have kept := keeps .small "הוא'" "" "x" "ם"
    { gender := .female, values := .ofList [("x", "ם")] } (by decide) (by decide)
    (by decide +kernel) (by decide +kernel) ⟨.word, "הוא".toList⟩ [⟨.separator, "'".toList⟩]
    (by decide +kernel) rfl longer
  exact absurd kept (by decide +kernel)

end Template

end Agreement
