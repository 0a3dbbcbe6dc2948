/- # Agreement.Proofs.Template.MaleForms: agreement with a man

A template falls into pieces: the phrases that the vocabulary has, and all else, which is kept. With
a vocabulary that lists its words by their male forms, agreement with a man makes the blank space
inside a phrase a single space and changes nothing else. Blank space for blank space makes no
placeholder and breaks none, so the template that is left has the same placeholders and texts that
are written as they are.
-/
import Agreement.Proofs.Gender.MaleForms
import Agreement.Proofs.Template.Idempotence
import Agreement.Proofs.Template.WordRuns

namespace Agreement

open Unicode Text

namespace Template

/-- The pieces of a segment. A placeholder is kept. -/
def segmentPieces (lex : Lexicon) : Seams × Segment → List Piece
  | (seams, .text s) => lex.pieces seams s
  | (_, .placeholder _ source) => [.kept ⟨.separator, source⟩]

/-- The pieces of a template. -/
def pieces (lex : Lexicon) (template : String) : List Piece :=
  (seamedSegments template).flatMap (segmentPieces lex)

/-- The pieces of a template are its whole text. -/
theorem flatMap_source_pieces (lex : Lexicon) (template : String) :
    (pieces lex template).flatMap Piece.source = template.toList := by
  have one (p : Seams × Segment) : (segmentPieces lex p).flatMap Piece.source = p.2.source := by
    obtain ⟨seams, s⟩ := p
    cases s with
    | text s => exact lex.flatMap_source_pieces seams s
    | placeholder _ source => exact List.append_nil source
  calc (pieces lex template).flatMap Piece.source
      = (seamedSegments template).flatMap fun p => p.2.source := by
        rw [pieces, List.flatMap_assoc]
        simp only [one]
    _ = ((seamedSegments template).map Prod.snd).flatMap Segment.source := by
        rw [List.flatMap_map]
    _ = template.toList := by
        rw [seamedSegments, map_snd_withSeams, flatMap_source_segments]

/-- Agreement writes each piece in its form. -/
theorem agree_eq_flatMap_form (lex : Lexicon) (g : Gender) (template : String) :
    (agree lex g template).toList = (pieces lex template).flatMap (·.form g) := by
  rw [agree, String.toList_ofList, pieces, List.flatMap_assoc]
  congr 1
  funext p
  obtain ⟨seams, s⟩ := p
  cases s with
  | text s => rfl
  | placeholder _ source => exact (List.append_nil source).symm

/-- The texts of a template are composed if its runs of words are. -/
theorem isComposed_of_forall_hasRun {template s : List Char}
    (composed : ∀ words, HasRun template words →
      normalize ([' '].intercalate words) = [' '].intercalate words)
    (hs : .text s ∈ segments template) : IsComposed s := by
  intro T hT n phrase
  have met : phraseAt T n ∈ phrases n T := mem_phrases.mpr ⟨n, Nat.le_refl n, phrase, rfl⟩
  exact composed _ (hasRun_of_mem_phrases hs hT met)

/-- **Agreement with a man is idempotent for vocabularies that list words by their male forms.** For
every template whose runs of words, with single spaces between them, are in normal form, agreement
with a man makes the blank space inside the phrases of the vocabulary single spaces, changes nothing
else, and leaves the result as it is when it is done again. -/
theorem agree_male_idempotent {lex : Lexicon} (listed : lex.ListedByMale) {template : String}
    (composed : ∀ words, HasRun template.toList words →
      normalize ([' '].intercalate words) = [' '].intercalate words) :
    (pieces lex template).flatMap Piece.source = template.toList ∧
      (agree lex .male template).toList = (pieces lex template).flatMap Piece.singleSpaced ∧
      agree lex .male (agree lex .male template) = agree lex .male template := by
  have once : ∀ s, .text s ∈ segments template.toList → IsComposed s :=
    fun s hs => isComposed_of_forall_hasRun composed hs
  refine ⟨flatMap_source_pieces lex template, ?_, ?_⟩
  · have one : ∀ p ∈ seamedSegments template, (segmentPieces lex p).flatMap (·.form .male) =
        (segmentPieces lex p).flatMap Piece.singleSpaced := by
      rintro ⟨seams, s⟩ hp
      cases s with
      | text s => exact listed.flatMap_form_pieces (once s (mem_of_mem_withSeams hp)) seams
      | placeholder _ source => rfl
    rw [agree_eq_flatMap_form, pieces, List.flatMap_assoc, List.flatMap_assoc]
    exact List.flatMap_congr one
  · apply agree_agree_of_once
    intro s hs
    exact listed.agreesOnce (once s hs)

theorem listedByMale_small : Lexicon.small.ListedByMale := by
  have listed : ∀ p ∈ Lexicon.smallBatch, p.2.form .male = Lexicon.key p.1 := by decide
  intro k e found
  obtain ⟨p, hp, rfl, rfl⟩ := Lexicon.mem_smallBatch_of_get? found
  exact listed p hp

/-- A phrase over a line break, in double braces and outside, and a placeholder with blank space. -/
theorem agree_male_idempotent_line_break :
    let template := "\x7b\x7bהחתום \n מטה\x7d\x7d הוא \n החתום\tמטה \x7b\x7b x\x7d\x7d"
    (Lexicon.small.ListedByMale ∧ ∀ words, HasRun template.toList words →
      normalize ([' '].intercalate words) = [' '].intercalate words) ∧
    agree .small .male template =
      "\x7b\x7bהחתום מטה\x7d\x7d הוא \n החתום מטה \x7b\x7b x\x7d\x7d" ∧
    agree .small .male (agree .small .male template) = agree .small .male template := by
  intro template
  have composed : ∀ words, HasRun template.toList words →
      normalize ([' '].intercalate words) = [' '].intercalate words :=
    forall_hasRun (by decide +kernel)
  obtain ⟨-, single, again⟩ := agree_male_idempotent listedByMale_small composed
  refine ⟨⟨listedByMale_small, composed⟩, ?_, again⟩
  apply String.toList_injective
  rw [single]
  decide +kernel

end Template

end Agreement
