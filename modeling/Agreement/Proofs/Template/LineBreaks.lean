/- # Agreement.Proofs.Template.LineBreaks: which line breaks agreement keeps

Any blank space may stand between the words of a phrase, a line break too, and the form that takes
the place of the phrase has its own blank space. So agreement keeps the line breaks of a text except
those inside a phrase that it rewrites. Which those are is said by the selection of the text, and
what agreement does to a text carries over to the block that holds it.
-/
import Agreement.Proofs.Render.Html
import Agreement.Proofs.Template.LeftmostLongest
import Agreement.Proofs.Template.PlainTexts
import Agreement.Proofs.Template.Stages
import Agreement.Render.PlainText

namespace Agreement

open Text Token

/-! ## Characters that no form has -/

section Counting

variable {S : Set Span} {g : Gender} {c : Char}

/-- The tokens that a set of spans covers, the first token at place `i`, lack a character. -/
def CoversNone (S : Set Span) (c : Char) (i : Nat) (tokens : List Token) : Prop :=
  ∀ j t, tokenAt? tokens j = some t → (∃ s ∈ S, s.Covers (i + j)) → c ∉ t.text

theorem coversNone_cons {i : Nat} {t : Token} {rest : List Token} :
    CoversNone S c i (t :: rest) ↔
      ((∃ s ∈ S, s.Covers i) → c ∉ t.text) ∧ CoversNone S c (i + 1) rest := by
  constructor
  · intro h
    refine ⟨h 0 t rfl, fun j u at_place covered => h (j + 1) u at_place ?_⟩
    rwa [Nat.add_right_comm, Nat.add_assoc] at covered
  · rintro ⟨first, later⟩ j u at_place covered
    cases j with
    | zero =>
        cases at_place
        exact first covered
    | succ j =>
        refine later j u at_place ?_
        rwa [Nat.add_right_comm, Nat.add_assoc]

/-- A token that a span covers leaves nothing of a character that no form has. -/
theorem count_replaceToken_of_covers (lacks : ∀ s ∈ S, c ∉ s.hit.form g) {i : Nat}
    (covered : ∃ s ∈ S, s.Covers i) (t : Token) : (replaceToken S g i t).count c = 0 := by
  unfold replaceToken
  split
  · next starts => exact List.count_eq_zero.mpr (lacks _ starts.choose_spec.1)
  · rfl

/-- **A character that no form has is lost with the tokens that spans cover, and nowhere else.** -/
theorem count_replaceSpans (lacks : ∀ s ∈ S, c ∉ s.hit.form g)
    (nonempty : ∀ s ∈ S, s.Covers s.start) (i : Nat) (tokens : List Token) :
    (replaceSpans S g i tokens).count c ≤ (tokens.flatMap Token.text).count c ∧
      ((replaceSpans S g i tokens).count c = (tokens.flatMap Token.text).count c ↔
        CoversNone S c i tokens) := by
  induction tokens generalizing i with
  | nil => exact ⟨Nat.le_refl _, iff_of_true rfl fun j t at_place => by cases at_place⟩
  | cons t rest ih =>
      obtain ⟨below, equal⟩ := ih (i + 1)
      rw [coversNone_cons, ← equal, replaceSpans, List.flatMap_cons, List.count_append,
        List.count_append]
      by_cases covered : ∃ s ∈ S, s.Covers i
      · rw [count_replaceToken_of_covers lacks covered, ← List.count_eq_zero]
        refine ⟨by omega, ?_⟩
        constructor
        · intro same
          exact ⟨fun _ => by omega, by omega⟩
        · rintro ⟨first, later⟩
          have none_lost := first covered
          omega
      · have outside : ∀ s ∈ S, ¬ s.Covers i := fun s hs covers => covered ⟨s, hs, covers⟩
        rw [replaceToken_of_not_covers outside nonempty]
        refine ⟨by omega, ?_⟩
        constructor
        · intro same
          exact ⟨fun h => absurd h covered, by omega⟩
        · rintro ⟨-, later⟩
          omega

end Counting

namespace Lexicon

variable {lex : Lexicon} {c : Char}

/-- The forms of a selection lack what the forms of the vocabulary lack. -/
theorem FormsLack.not_mem_form_of_selects (lacks : lex.FormsLack c) (other : c ≠ article)
    (well : lex.WellKeyed) {view : Nat → Option Token} {S : Set Span} (hS : lex.Selects view S)
    (g : Gender) : ∀ s ∈ S, c ∉ s.hit.form g := by
  intro s hs
  exact lacks.not_mem_form other ((find?_eq_some_iff well).mpr (hS.longest s hs).1.has) g

end Lexicon

/-! ## Texts without placeholders -/

namespace Seams

theorem freeToken?_default (tokens : List Token) :
    Seams.freeToken? {} tokens = tokenAt? tokens := by
  funext i
  cases at_place : tokenAt? tokens i <;> simp [freeToken?, at_place]

end Seams

/-! ## Signatures -/

namespace Markup

theorem count_escape (text : List Char) : (escape text).count '\n' = text.count '\n' := by
  have one (c : Char) : (escapeChar c).count '\n' = [c].count '\n' := by
    unfold escapeChar
    split_ifs <;> simp_all
  induction text with
  | nil => rfl
  | cons c rest ih =>
      have split : escape (c :: rest) = escapeChar c ++ escape rest := rfl
      rw [split, List.count_append, one, ih, ← List.count_append, List.singleton_append]

end Markup

/-- The markup of a signature: the text of the block with its line breaks kept. -/
structure IsSignatureMarkup (markup text : String) : Prop where
  /-- The element keeps blank space as it stands. -/
  element : ∃ direction declarations, markup = "<div class=\"signature\"" ++ direction ++
    Markup.styleAttribute ("white-space: pre-wrap" :: declarations) ++ ">" ++
      Markup.escaped text ++ "</div>" ++ "\n"
  lines : (Markup.escaped text).toList.count '\n' = text.toList.count '\n'

namespace Block

variable {b : Block} {text : String}

theorem isSignatureMarkup (resolve : String → String) (options : RenderOptions)
    (styles : StyleSheet) (kind : b.kind = .signature) (content : b.content = .text text) :
    IsSignatureMarkup (Html.block resolve options styles b) (resolve text) where
  element := by
    refine ⟨Html.direction (resolve text), b.declarations options styles, ?_⟩
    rw [Html.block, content]
    simp [Html.textBlock, Html.textTags, Html.textDeclarations, kind]
  lines := by rw [Markup.toList_escaped, Markup.count_escape]

theorem plainText_signature (resolve : String → String) (options : RenderOptions)
    (kind : b.kind = .signature) (content : b.content = .text text) :
    PlainText.block resolve options b = (resolve text).toList := by
  rw [PlainText.block, content]
  dsimp only
  rw [kind]
  rfl

end Block

namespace Template

open Lexicon

/-- **Agreement keeps every line break outside the phrases that it rewrites.** For a vocabulary
whose forms have no line break and a text without placeholders, agreement adds no line break, and
keeps all of them exactly when no phrase of the selection has one inside. A signature shows the text
in agreement with its line breaks, as plain text and as markup. -/
theorem agree_keeps_lines_iff {lex : Lexicon} (h : lex.Reachable) (lacks : lex.FormsLack '\n')
    {text : String} (plain : placeholderCount text = 0) (g : Gender) :
    ∃ S, lex.Selects (tokenAt? (Token.scan text.toList)) S ∧
      (agree lex g text).toList.count '\n' ≤ text.toList.count '\n' ∧
      ((agree lex g text).toList.count '\n' = text.toList.count '\n' ↔
        CoversNone S '\n' 0 (Token.scan text.toList)) ∧
      ∀ (b : Block) (ctx : Context) (options : RenderOptions) (styles : StyleSheet),
        b.kind = .signature → b.content = .text text → ctx.gender = g →
          PlainText.block (resolve lex ctx) options b = (agree lex g text).toList ∧
          IsSignatureMarkup (Html.block (resolve lex ctx) options styles b) (agree lex g text) := by
  obtain ⟨S, hS⟩ := h.exists_selects {} text.toList
  have agreed : (agree lex g text).toList = replaceSpans S g 0 (Token.scan text.toList) :=
    (toList_agree plain g).trans (h.inAgreement_eq hS g)
  have forms := lacks.not_mem_form_of_selects (by decide) h.wellKeyed hS g
  have counts := count_replaceSpans forms hS.covers_start 0 (Token.scan text.toList)
  rw [flatMap_text_scan, ← agreed] at counts
  refine ⟨S, Seams.freeToken?_default _ ▸ hS, counts.1, counts.2, ?_⟩
  intro b ctx options styles kind content same_gender
  have resolved : resolve lex ctx text = agree lex g text := by
    apply String.toList_injective
    rw [toList_resolve plain, toList_agree plain, same_gender]
  rw [← resolved]
  exact ⟨Block.plainText_signature _ options kind content,
    Block.isSignatureMarkup _ options styles kind content⟩

/-- A line break before a phrase is kept. -/
theorem agree_keeps_lines_undersigned :
    let text := "הוא\nהחתום מטה"
    Lexicon.small.Reachable ∧ Lexicon.small.FormsLack '\n' ∧ placeholderCount text = 0 ∧
      ∃ S, Lexicon.small.Selects (tokenAt? (Token.scan text.toList)) S ∧
        CoversNone S '\n' 0 (Token.scan text.toList) := by
  intro text
  have lacks : Lexicon.small.FormsLack '\n' := formsLack_small_of (by decide +kernel)
  have plain : placeholderCount text = 0 := by decide +kernel
  obtain ⟨S, hS, -, kept, -⟩ := agree_keeps_lines_iff .small lacks plain .female
  exact ⟨.small, lacks, plain, S, hS, kept.mp (by decide +kernel)⟩

/-- A line break inside a phrase is lost. -/
theorem agree_loses_line : ¬ ∀ lex : Lexicon, lex.FormsLack '\n' → ∀ text : String,
    placeholderCount text = 0 → ∀ g,
      (agree lex g text).toList.count '\n' = text.toList.count '\n' := by
  intro keeps
  have lacks : Lexicon.small.FormsLack '\n' := formsLack_small_of (by decide +kernel)
  have kept := keeps .small lacks "החתום\nמטה" (by decide +kernel) .female
  exact absurd kept (by decide +kernel)

end Template

end Agreement
