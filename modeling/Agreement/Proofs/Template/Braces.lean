/- # Agreement.Proofs.Template.Braces: braces in templates

Double braces around what is no body are text. Agreement keeps them, since a brace belongs to no
word and is not blank, and it puts what stands between them in agreement as if it were a text by
itself. So text in double braces stays letter for letter exactly where agreement would leave it as
it is without them.

The body of a placeholder never has a brace that opens, and it has no two that close. A single one
that closes may stand in a form, a tag or a word, and only there.
-/
import Agreement.Proofs.Gender.Cuts
import Agreement.Proofs.Gender.Lookups
import Agreement.Proofs.Template.Stages

namespace Agreement

open Text Placeholder

/-! ## Agreement between braces -/

theorem isCut_opening : IsCut '\x7b' := ⟨by decide, by decide, by decide⟩

theorem isCut_closing : IsCut '\x7d' := ⟨by decide, by decide, by decide⟩

/-- What stands in double braces is put in agreement as a text by itself. -/
theorem Lexicon.inAgreement_append_source (lex : Lexicon) (g : Gender) (seams : Seams)
    (u body v : List Char) :
    lex.inAgreement g seams (u ++ (source body ++ v)) =
      lex.inAgreement g ⟨seams.before, false⟩ u ++
        (source (lex.inAgreement g {} body) ++ lex.inAgreement g ⟨false, seams.after⟩ v) := by
  have nothing (seams : Seams) : lex.inAgreement g seams [] = [] := lex.agreedTokens_nil g seams
  have opening (text : List Char) : '\x7b' :: text = [] ++ '\x7b' :: text := rfl
  have closing (text : List Char) : '\x7d' :: text = [] ++ '\x7d' :: text := rfl
  rw [source_append, lex.inAgreement_append_cons g seams isCut_opening u, opening (body ++ _),
    lex.inAgreement_append_cons g _ isCut_opening [],
    lex.inAgreement_append_cons g _ isCut_closing body, closing v,
    lex.inAgreement_append_cons g _ isCut_closing [], nothing, source_append]
  rfl

namespace Template

variable {lex : Lexicon} {ctx : Context}

/-- A text segment falls apart at double braces, whatever is made of placeholders. -/
theorem flatMap_withSeams_append_source {g : Gender} {f : Seams × Segment → List Char}
    (on_text : ∀ seams s, f (seams, .text s) = lex.inAgreement g seams s) (first : Bool)
    (before after : List Segment) (u body v : List Char) :
    (withSeams first (before ++ .text (u ++ (source body ++ v)) :: after)).flatMap f =
      (withSeams first (before ++ [.text u])).flatMap f ++
        (source (lex.inAgreement g {} body) ++
          (withSeams false (.text v :: after)).flatMap f) := by
  induction before generalizing first with
  | nil =>
      simp only [List.nil_append, withSeams, List.flatMap_cons, List.flatMap_nil, on_text,
        lex.inAgreement_append_source, List.append_assoc, List.append_nil, List.head?_nil]
      rfl
  | cons s before ih =>
      -- a text stands behind the segment in either list
      have next : (before ++ .text (u ++ (source body ++ v)) :: after).head?.any
          Segment.isPlaceholder = (before ++ [Segment.text u]).head?.any Segment.isPlaceholder := by
        cases before <;> rfl
      rw [List.cons_append, List.cons_append, withSeams, withSeams, List.flatMap_cons,
        List.flatMap_cons, ih, next, List.append_assoc]

/-- The text of segments in agreement. -/
def agreedText (lex : Lexicon) (g : Gender) (l : List Segment) : List Char :=
  (withSeams false l).flatMap fun p => (agreed lex g p).source

/-- The text of segments after resolution. -/
def resolvedText (lex : Lexicon) (ctx : Context) (l : List Segment) : List Char :=
  (withSeams false l).flatMap (resolveSegment lex ctx)

theorem agree_eq_agreedText (lex : Lexicon) (g : Gender) (template : String) :
    (agree lex g template).toList = agreedText lex g (segments template.toList) := by
  rw [agree_eq_flatMap_source, String.toList_ofList, List.flatMap_map]
  rfl

theorem resolve_eq_resolvedText (lex : Lexicon) (ctx : Context) (template : String) :
    (resolve lex ctx template).toList = resolvedText lex ctx (segments template.toList) := by
  rw [resolve, String.toList_ofList]
  rfl

/-- **Text in double braces is put in agreement by itself.** Agreement and resolution keep the
braces and go on around them as if the text ended before them and started behind them. What stands
between them stays as it is if the vocabulary has no phrase of it. -/
theorem double_braces_in_agreement (lex : Lexicon) (ctx : Context) {template : String}
    {before after : List Segment} {u body v : List Char}
    (stands : segments template.toList = before ++ .text (u ++ (source body ++ v)) :: after) :
    let inner := lex.inAgreement ctx.gender {} body
    (agree lex ctx.gender template).toList =
        agreedText lex ctx.gender (before ++ [.text u]) ++
          (source inner ++ agreedText lex ctx.gender (.text v :: after)) ∧
      (resolve lex ctx template).toList =
        resolvedText lex ctx (before ++ [.text u]) ++
          (source inner ++ resolvedText lex ctx (.text v :: after)) ∧
      ((∀ T, T <:+: Token.scan body → ∀ p ∈ phrases (max 1 lex.maxWords) T,
        lex.find? p.key = none) → inner = body) := by
  intro inner
  refine ⟨?_, ?_, ?_⟩
  · rw [agree_eq_agreedText, stands]
    exact flatMap_withSeams_append_source (fun _ _ => rfl) false before after u body v
  · rw [resolve_eq_resolvedText, stands]
    exact flatMap_withSeams_append_source (fun _ _ => rfl) false before after u body v
  · intro unknown
    exact Lexicon.inAgreement_of_unknown unknown ctx.gender {}

/-- A body of two words, which stays, between a word that changes and a placeholder. -/
theorem double_braces_in_agreement_first_name :
    let template := "הוא \x7b\x7bfirst name\x7d\x7d\x7b\x7bx\x7d\x7d"
    let ctx : Context := { gender := .female, values := .ofList [("x", "הוא")] }
    let x : Segment := .placeholder (.variable "x") (source ['x'])
    let body := "first name".toList
    (segments template.toList = [] ++ .text ("הוא ".toList ++ (source body ++ [])) :: [x] ∧
      ∀ T, T <:+: Token.scan body → ∀ p ∈ phrases (max 1 Lexicon.small.maxWords) T,
        Lexicon.small.find? p.key = none) ∧
    (agree .small .female template).toList =
      "היא ".toList ++ (source body ++ "\x7b\x7bx\x7d\x7d".toList) ∧
    (resolve .small ctx template).toList = "היא ".toList ++ (source body ++ "הוא".toList) := by
  intro template ctx x body
  have stands : segments template.toList =
      [] ++ .text ("הוא ".toList ++ (source body ++ [])) :: [x] := by decide +kernel
  have unknown : ∀ T, T <:+: Token.scan body → ∀ p ∈ phrases (max 1 Lexicon.small.maxWords) T,
      Lexicon.small.find? p.key = none := by
    have listed : ∀ T ∈ (Token.scan body).tails.flatMap List.inits,
        ∀ p ∈ phrases (max 1 Lexicon.small.maxWords) T, Lexicon.small.find? p.key = none := by
      decide
    intro T hT
    obtain ⟨rest, start, stop⟩ := List.infix_iff_prefix_suffix.mp hT
    exact listed T (List.mem_flatMap.mpr
      ⟨rest, (List.mem_tails _ _).mpr stop, (List.mem_inits _ _).mpr start⟩)
  obtain ⟨agreed, resolved, same⟩ := double_braces_in_agreement .small ctx stands
  rw [same unknown] at agreed resolved
  refine ⟨⟨stands, unknown⟩, agreed.trans ?_, resolved.trans ?_⟩
  · decide
  · decide

/-- A word of the vocabulary in double braces changes, though the braces hold no body. -/
theorem double_braces_change :
    let template := "\x7b\x7bשם הוא\x7d\x7d"
    let body := "שם הוא".toList
    ('\x7b' ∉ body ∧ '\x7d' ∉ body ∧ parseBody body = none ∧
      segments template.toList = [.text (source body)]) ∧
    agree .small .female template = "\x7b\x7bשם היא\x7d\x7d" ∧
    resolve .small { gender := .female } template = "\x7b\x7bשם היא\x7d\x7d" ∧
    ¬ source body <:+: (agree .small .female template).toList ∧
    ¬ source body <:+: (resolve .small { gender := .female } template).toList := by
  decide +kernel

/-! ## Bodies without braces -/

/-- **A placeholder has no brace in its body but single closing ones in its parts.** The body holds
no brace that opens and no two that close, nor does it end with one that closes. It has one that
closes exactly if a form, a tag or a word has. A variable has none. -/
theorem braces_of_placeholder {template source : List Char} {p : Placeholder}
    (h : .placeholder p source ∈ segments template) :
    ∃ body, source = Placeholder.source body ∧ parseBody body = some p ∧ '\x7b' ∉ body ∧
      ¬ ['\x7d', '\x7d'] <:+: body ++ ['\x7d'] ∧
      ('\x7d' ∈ body ↔ ∃ part ∈ p.parts, '\x7d' ∈ part.toList) ∧
      ∀ name, p = .variable name → '\x7d' ∉ body := by
  obtain ⟨body, rfl, opens⟩ := isClean_of_mem_segments h
  have parses := (opens []).parses
  have closing : '\x7d' ∈ body ↔ ∃ part ∈ p.parts, '\x7d' ∈ part.toList := by
    constructor
    · exact exists_mem_parts parses (by decide) (by decide)
    · rintro ⟨part, hp, inside⟩
      exact mem_of_mem_parts parses hp inside
  refine ⟨body, rfl, parses, (opens []).flat, (opens []).closed, closing, ?_⟩
  rintro name rfl
  cases says_of_parseBody parses with
  | name identifier =>
      intro inside
      have member := (mem_trim_iff (by decide)).mpr inside
      exact (ne_of_identifierChar (identifierChar_of_mem identifier member)).2.1 rfl

/-- A word with a closing brace in it. -/
theorem braces_of_placeholder_agreeing :
    let template := "\x7b\x7b@heir: יור\x7dש \x7d\x7d".toList
    let p := Placeholder.agreeing "heir" "יור\x7dש"
    .placeholder p template ∈ segments template ∧
      ∃ body, template = Placeholder.source body ∧ parseBody body = some p ∧ '\x7b' ∉ body ∧
        ¬ ['\x7d', '\x7d'] <:+: body ++ ['\x7d'] ∧ '\x7d' ∈ body := by
  intro template p
  have stands : .placeholder p template ∈ segments template := by decide +kernel
  obtain ⟨body, eq, parses, flat, closed, closing, -⟩ := braces_of_placeholder stands
  exact ⟨stands, body, eq, parses, flat, closed, closing.mpr ⟨"יור\x7dש", by decide, by decide⟩⟩

/-- The body of a placeholder can have a brace that closes. -/
theorem placeholder_with_brace :
    ¬ ∀ (template : List Char) (p : Placeholder) (body : List Char),
      .placeholder p (source body) ∈ segments template → '\x7b' ∉ body ∧ '\x7d' ∉ body := by
  intro none_has
  have stands : .placeholder (.forms ⟨"a\x7d", "b", "c", none⟩) (source "gender:a\x7d|b|c".toList) ∈
      segments "\x7b\x7bgender:a\x7d|b|c\x7d\x7d".toList := by
    decide +kernel
  have closing := (none_has _ _ _ stands).2
  exact closing (by decide)

end Template

end Agreement
