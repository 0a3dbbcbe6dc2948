/- # Agreement.Proofs.Template.Idempotence: agreement once and for all

A template whose texts agreement changes once is cut, in agreement, into the same placeholders with
text between them that stays as it is. So with a settled vocabulary, the built-in one among them,
agreement changes nothing that it has written.
-/
import Agreement.Proofs.Gender.Vocabulary
import Agreement.Proofs.Template.Rephrasing

namespace Agreement

open Unicode Text

/-! ## Texts -/

theorem Token.rephrases_of_rewords {tokens tokens' : List Token}
    (h : List.Forall₂ Rewords tokens tokens') :
    Rephrases (tokens.flatMap text) (tokens'.flatMap text) := by
  induction h with
  | nil => exact .nil
  | cons first _ ih =>
      rw [List.flatMap_cons, List.flatMap_cons]
      refine Rephrases.append ?_ ih
      cases first with
      | same _ => exact .refl _
      | word old new => exact .of_run (.inl rfl) old new
      | space old new => exact .of_run (.inr rfl) old new

theorem Lexicon.AgreesOnce.rephrases_inAgreement {lex : Lexicon} {g : Gender}
    {source : List Char} (once : lex.AgreesOnce g source) (seams : Seams) :
    Rephrases source (lex.inAgreement g seams source) := by
  have tokens := Token.rephrases_of_rewords (once.rewords_agreedScan seams)
  rwa [Token.flatMap_text_scan, ← Lexicon.inAgreement_eq_flatMap] at tokens

/-! ## Segments -/

namespace Template

variable {lex : Lexicon} {g : Gender}

theorem isPlaceholder_agreed (p : Seams × Segment) :
    (agreed lex g p).isPlaceholder = p.2.isPlaceholder := by
  obtain ⟨seams, s⟩ := p
  cases s <;> rfl

/-- Agreement leaves the seams where they are. -/
theorem withSeams_agreed (before : Bool) (l : List Segment) :
    withSeams before ((withSeams before l).map (agreed lex g)) =
      (withSeams before l).map fun p => (p.1, agreed lex g p) := by
  induction l generalizing before with
  | nil => rfl
  | cons s rest ih =>
      have next : ((withSeams s.isPlaceholder rest).map (agreed lex g)).head?.any
          Segment.isPlaceholder = rest.head?.any Segment.isPlaceholder := by
        cases rest with
        | nil => rfl
        | cons t rest =>
            simp only [withSeams, List.map_cons, List.head?_cons, Option.any_some,
              isPlaceholder_agreed]
      rw [withSeams, List.map_cons, withSeams, isPlaceholder_agreed, ih, next, List.map_cons]

/-- Segments in agreement are read again as they are. -/
theorem AreRead.agreed {l : List Segment} (once : ∀ s, .text s ∈ l → lex.AgreesOnce g s)
    (h : AreRead l) (before : Bool) : AreRead ((withSeams before l).map (agreed lex g)) where
  alternating := by
    have kinds : ((withSeams before l).map (Template.agreed lex g)).map Segment.isPlaceholder =
        l.map Segment.isPlaceholder := by
      conv_rhs => rw [← map_snd_withSeams before l]
      rw [List.map_map, List.map_map]
      exact List.map_congr_left fun p _ => isPlaceholder_agreed p
    have turns : (l.map Segment.isPlaceholder).IsChain fun a b => a = true ∨ b = true :=
      (List.isChain_map Segment.isPlaceholder).mpr h.alternating
    rw [← kinds] at turns
    exact (List.isChain_map Segment.isPlaceholder).mp turns
  text := by
    intro s hs
    obtain ⟨⟨seams, t⟩, hp, eq⟩ := List.mem_map.mp hs
    have member := mem_of_mem_withSeams hp
    cases t with
    | placeholder q source => cases eq
    | text t =>
        cases eq
        obtain ⟨nonempty, inert⟩ := h.text t member
        have rephrased := (once t member).rephrases_inAgreement seams
        exact ⟨fun empty => nonempty (rephrased.eq_nil_iff.mp empty), inert.rephrase rephrased⟩
  placeholder := by
    intro q source hq
    obtain ⟨⟨seams, t⟩, hp, eq⟩ := List.mem_map.mp hq
    have member := mem_of_mem_withSeams hp
    cases t with
    | text t => cases eq
    | placeholder q' source' =>
        cases eq
        exact h.placeholder q source member

theorem agreed_agreed {p : Seams × Segment} (once : ∀ s, p.2 = .text s → lex.AgreesOnce g s) :
    agreed lex g (p.1, agreed lex g p) = agreed lex g p := by
  obtain ⟨seams, s⟩ := p
  cases s with
  | text s => exact congrArg Segment.text ((once s rfl).inAgreement_inAgreement seams)
  | placeholder q source => rfl

/-- A template stays as it is in agreement if agreement changes each of its texts once. -/
theorem agree_agree_of_once {template : String}
    (once : ∀ s, .text s ∈ segments template.toList → lex.AgreesOnce g s) :
    agree lex g (agree lex g template) = agree lex g template := by
  have again : seamedSegments (agree lex g template) =
      (seamedSegments template).map fun p => (p.1, agreed lex g p) := by
    rw [seamedSegments, agree_eq_flatMap_source, String.toList_ofList, seamedSegments,
      ((areRead_segments template.toList).agreed once false).segments_flatMap_source,
      withSeams_agreed]
  have same : ∀ p ∈ seamedSegments template,
      (agreed lex g ∘ fun p => (p.1, agreed lex g p)) p = agreed lex g p := by
    intro p hp
    apply agreed_agreed
    intro s text
    apply once
    rw [← text]
    exact mem_of_mem_withSeams hp
  rw [agree_eq_flatMap_source lex g (agree lex g template), again, List.map_map,
    List.map_congr_left same, ← agree_eq_flatMap_source]

/-- With a settled vocabulary a template in agreement stays as it is. -/
theorem agree_agree (settled : lex.Settled g) (template : String) :
    agree lex g (agree lex g template) = agree lex g template :=
  agree_agree_of_once fun s _ => settled.agreesOnce s

/-- **Agreement with the built-in vocabulary is idempotent.** A template that was put in agreement
for a gender stays as it is when it is put in agreement for that gender again. -/
theorem agree_hebrew_idempotent (g : Gender) (template : String) :
    agree .hebrew g (agree .hebrew g template) = agree .hebrew g template :=
  agree_agree (Lexicon.settled_hebrew g) template

end Template

end Agreement
