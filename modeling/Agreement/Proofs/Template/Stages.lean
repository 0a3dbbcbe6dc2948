/- # Agreement.Proofs.Template.Stages: one pass and the stages agree

Resolution reads a template once. The stages read again what the stage before them wrote, so they
could find placeholders that it made, or lose some that it broke. This module shows that they do not
when neither the text nor the vocabulary has a brace that opens: a list of clean segments, written
down and read again, gives the same placeholders with the same text between them. Each stage is
then a map on segments, and so is the one pass.
-/
import Agreement.Proofs.Gender.Seams
import Agreement.Proofs.Template.Bodies
import Agreement.Template.Resolution

namespace Agreement

open Text

/-! ## Characters of what a stage inserts -/

namespace Placeholder

/-- The forms that a placeholder lists are parts of its body. -/
theorem mem_of_mem_forms {body : List Char} {f : Forms} {g : Gender} {c : Char}
    (parses : parseBody body = some (.forms f)) (h : c ∈ (f.select g).toList) : c ∈ body :=
  mem_of_mem_parts parses (select_mem_parts f g) h

end Placeholder

namespace Lexicon

variable {lex : Lexicon} {c : Char}

/-- No form of a vocabulary has a character. -/
def FormsLack (lex : Lexicon) (c : Char) : Prop :=
  ∀ k e, lex.entries.get? k = some e → ∀ g, c ∉ (e.form g).toList

/-- What holds of every form that is listed holds of every form of the small vocabulary. -/
theorem forall_form_small {P : String → Prop}
    (listed : ∀ p ∈ smallBatch, ∀ g ∈ Gender.all, P (p.2.form g)) :
    ∀ k e, small.entries.get? k = some e → ∀ g, P (e.form g) := by
  intro k e found g
  obtain ⟨p, hp, -, rfl⟩ := mem_smallBatch_of_get? found
  exact listed p hp g (Gender.mem_all g)

theorem formsLack_small_of (absent : ∀ p ∈ smallBatch, ∀ g ∈ Gender.all, c ∉ (p.2.form g).toList) :
    small.FormsLack c :=
  forall_form_small (P := fun form => c ∉ form.toList) absent

theorem formsLack_small : small.FormsLack '\x7b' := formsLack_small_of (by decide)

theorem get?_of_find? {key : List Char} {hit : Hit} (h : lex.find? key = some hit) :
    ∃ k, lex.entries.get? k = some hit.entry := by
  cases has_of_find? h with
  | direct found => exact ⟨_, found⟩
  | article _ found => exact ⟨_, found⟩

theorem FormsLack.not_mem_form (lacks : lex.FormsLack c) (other : c ≠ article) {key : List Char}
    {hit : Hit} (h : lex.find? key = some hit) (g : Gender) : c ∉ hit.form g := by
  obtain ⟨k, found⟩ := get?_of_find? h
  unfold Hit.form
  split
  · simp [other, lacks k _ found g]
  · simp [lacks k _ found g]

theorem FormsLack.not_mem_inflect (lacks : lex.FormsLack c) (other : c ≠ article)
    {word form : String} {g : Gender} (h : lex.inflect word g = some form) : c ∉ form.toList := by
  obtain ⟨hit, found, rfl⟩ := Option.map_eq_some_iff.mp h
  rw [String.toList_ofList]
  exact lacks.not_mem_form other found g

/-- A search keeps tokens and finds phrases, and has nothing else. -/
theorem mem_piecesFrom {limit skip : Nat} {tokens : List Token} {piece : Piece}
    (h : piece ∈ lex.piecesFrom limit skip tokens) :
    (∃ t ∈ tokens, piece = .kept t) ∨
      ∃ run key hit, piece = .phrase run hit ∧ lex.find? key = some hit := by
  induction tokens generalizing skip with
  | nil => cases skip <;> cases h
  | cons t rest ih =>
      have later {n : Nat} (h : piece ∈ lex.piecesFrom limit n rest) :
          (∃ t' ∈ t :: rest, piece = .kept t') ∨
            ∃ run key hit, piece = .phrase run hit ∧ lex.find? key = some hit := by
        rcases ih h with ⟨t', member, kept⟩ | found
        · exact .inl ⟨t', List.mem_cons_of_mem _ member, kept⟩
        · exact .inr found
      cases skip with
      | succ skip => exact later h
      | zero =>
          rw [piecesFrom] at h
          split at h
          · next hit n found =>
              rcases List.mem_cons.mp h with rfl | h
              · obtain ⟨p, -, matched⟩ := List.exists_of_findSome?_eq_some found
                obtain ⟨hit', has, same⟩ := Option.map_eq_some_iff.mp matched
                cases same
                exact .inr ⟨_, p.key, _, rfl, has⟩
              · exact later h
          · rcases List.mem_cons.mp h with rfl | h
            · exact .inl ⟨t, List.mem_cons_self, rfl⟩
            · exact later h

/-- The pieces of a text are tokens of it, which are kept, and phrases of the vocabulary. -/
theorem mem_pieces {seams : Seams} {text : List Char} {piece : Piece}
    (h : piece ∈ lex.pieces seams text) :
    (∃ t ∈ Token.scan text, piece = .kept t) ∨
      ∃ run key hit, piece = .phrase run hit ∧ lex.find? key = some hit := by
  obtain ⟨first, middle, last, takes_first, takes_last, split, -, -⟩ :=
    seams.exists_middle (Token.scan text)
  rw [lex.pieces_eq takes_first takes_last] at h
  rw [split]
  simp only [List.mem_append, List.mem_map] at h ⊢
  rcases h with (⟨t, ht, rfl⟩ | searched) | ⟨t, ht, rfl⟩
  · exact .inl ⟨t, .inl ht, rfl⟩
  · rcases mem_piecesFrom searched with ⟨t, ht, rfl⟩ | found
    · exact .inl ⟨t, .inr (.inl ht), rfl⟩
    · exact .inr found
  · exact .inl ⟨t, .inr (.inr ht), rfl⟩

/-- A text in agreement has the characters of the text, of the forms, and the article. -/
theorem FormsLack.not_mem_inAgreement (lacks : lex.FormsLack c) (other : c ≠ article)
    {text : List Char} (absent : c ∉ text) (g : Gender) (seams : Seams) :
    c ∉ lex.inAgreement g seams text := by
  intro h
  obtain ⟨piece, member, hc⟩ := List.mem_flatMap.mp h
  rcases mem_pieces member with ⟨t, ht, rfl⟩ | ⟨run, key, hit, rfl, found⟩
  · refine absent ?_
    rw [← Token.flatMap_text_scan text]
    exact List.mem_flatMap.mpr ⟨t, ht, hc⟩
  · exact lacks.not_mem_form other found g hc

end Lexicon

/-! ## Clean segments -/

/-- A segment that is read again as what it is, whatever follows: text without a brace that opens,
or the source of a placeholder. -/
def Segment.IsClean : Segment → Prop
  | .text s => '\x7b' ∉ s
  | .placeholder p source => ∃ body, source = Placeholder.source body ∧
      ∀ after, Placeholder.Opens (source ++ after) p body after

/-- A segment with what a stage puts in its place. -/
def Segment.replaceBy (f : Segment → Option String) (s : Segment) : Segment :=
  match f s with
  | some v => .text v.toList
  | none => s

namespace Segment

variable {s : Segment} {f : Segment → Option String}

theorem source_replaceBy (f : Segment → Option String) (s : Segment) :
    (s.replaceBy f).source = Template.orSource s.source (f s) := by
  unfold replaceBy
  cases f s <;> rfl

/-- A stage keeps segments clean if it puts no brace that opens anywhere. -/
theorem IsClean.replaceBy (h : s.IsClean) (lacks : ∀ v, f s = some v → '\x7b' ∉ v.toList) :
    (s.replaceBy f).IsClean := by
  unfold Segment.replaceBy
  split
  · next v found => exact lacks v found
  · exact h

end Segment

namespace Template

open Placeholder

theorem placeholder_mem_consText {c : Char} {p : Placeholder} {source : List Char}
    {l : List Segment} : .placeholder p source ∈ consText c l ↔ .placeholder p source ∈ l := by
  rcases l with - | ⟨s | ⟨q, s⟩, rest⟩ <;> simp [consText]

theorem isClean_of_mem_segments {template source : List Char} {p : Placeholder}
    (h : .placeholder p source ∈ segments template) : (Segment.placeholder p source).IsClean := by
  induction template using reading_induction with
  | nil => simp at h
  | placeholder text q body after opens ih =>
      rw [segments_of_opens opens] at h
      rcases List.mem_cons.mp h with same | later
      · cases same
        exact ⟨body, rfl, fun after => ⟨rfl, opens.flat, opens.closed, opens.parses⟩⟩
      · exact ih later
  | character c rest plain ih =>
      rw [segments_cons plain] at h
      exact ih (placeholder_mem_consText.mp h)

section Rereading

variable {β : Type} {f : Segment → List β} {l : List Segment}

/-- What a function of segments makes of a text it makes of the parts of the text. -/
def IsAdditive (f : Segment → List β) : Prop :=
  ∀ s t, f (.text (s ++ t)) = f (.text s) ++ f (.text t)

theorem IsAdditive.nil (additive : IsAdditive f) : f (.text []) = [] :=
  List.self_eq_append_left.mp (additive [] [])

theorem flatMap_consText (additive : IsAdditive f) (c : Char) (l : List Segment) :
    (consText c l).flatMap f = f (.text [c]) ++ l.flatMap f := by
  rcases l with - | ⟨s | ⟨q, s⟩, rest⟩
  · rfl
  · rw [consText, List.flatMap_cons, List.flatMap_cons, ← List.append_assoc, ← additive]
    rfl
  · rfl

/-- Text without a brace that opens is read as text, whatever follows. -/
theorem flatMap_segments_append (additive : IsAdditive f) {text : List Char}
    (absent : '\x7b' ∉ text) (after : List Char) :
    (segments (text ++ after)).flatMap f = f (.text text) ++ (segments after).flatMap f := by
  induction text with
  | nil => rw [additive.nil, List.nil_append, List.nil_append]
  | cons c text ih =>
      have later : '\x7b' ∉ text := fun h => absent (List.mem_cons_of_mem c h)
      -- nothing opens at a character other than a brace
      rw [List.cons_append, segments_cons, flatMap_consText additive, ih later,
        ← List.append_assoc, ← additive, List.singleton_append]
      intro p body rest opens
      have first : c = '\x7b' := (List.cons.inj opens.text_eq).1
      exact absent (first ▸ List.mem_cons_self)

/-- **Clean segments, written down and read again, are the same**, but for where one text ends and
the next begins. -/
theorem flatMap_segments_flatMap_source (additive : IsAdditive f)
    (clean : ∀ s ∈ l, s.IsClean) :
    (segments (l.flatMap Segment.source)).flatMap f = l.flatMap f := by
  induction l with
  | nil => simp
  | cons s rest ih =>
      obtain ⟨first, later⟩ := List.forall_mem_cons.mp clean
      rw [List.flatMap_cons, List.flatMap_cons]
      cases s with
      | text s =>
          rw [Segment.source, flatMap_segments_append additive first, ih later]
      | placeholder p source =>
          -- the placeholder opens whatever the rest of the list is written as
          obtain ⟨body, rfl, opens⟩ := first
          rw [Segment.source, segments_of_opens (opens _), List.flatMap_cons, ih later]

/-- A stage on clean segments puts its text in their places. -/
theorem replaceSegments_flatMap_source {f : Segment → Option String}
    (keeps : ∀ s, f (.text s) = none) (clean : ∀ s ∈ l, s.IsClean) :
    replaceSegments f (String.ofList (l.flatMap Segment.source)) =
      String.ofList ((l.map (·.replaceBy f)).flatMap Segment.source) := by
  rw [replaceSegments, String.toList_ofList, flatMap_segments_flatMap_source _ clean,
    List.flatMap_map]
  · simp only [Segment.source_replaceBy]
  · intro s t
    dsimp only
    rw [keeps, keeps, keeps]
    rfl

end Rereading

/-! ## The stages -/

/-- A segment with its text in agreement. -/
def agreed (lex : Lexicon) (g : Gender) : Seams × Segment → Segment
  | (seams, .text s) => .text (lex.inAgreement g seams s)
  | (_, segment) => segment

theorem agree_eq_flatMap_source (lex : Lexicon) (g : Gender) (template : String) :
    agree lex g template =
      String.ofList (((seamedSegments template).map (agreed lex g)).flatMap Segment.source) := by
  rw [agree, List.flatMap_map]
  congr 2
  funext ⟨seams, s⟩
  cases s <;> rfl

theorem map_snd_withSeams (before : Bool) (l : List Segment) :
    (withSeams before l).map Prod.snd = l := by
  induction l generalizing before with
  | nil => rfl
  | cons s rest ih => rw [withSeams, List.map_cons, ih]

theorem mem_of_mem_withSeams {before : Bool} {l : List Segment} {p : Seams × Segment}
    (h : p ∈ withSeams before l) : p.2 ∈ l := by
  have member := List.mem_map_of_mem (f := Prod.snd) h
  rwa [map_snd_withSeams] at member

section Stages

variable {lex : Lexicon} {template : String}

/-- After the first stage every segment is clean. -/
theorem isClean_agreed (lacks : lex.FormsLack '\x7b')
    (absent : ∀ s ∈ texts template.toList, '\x7b' ∉ s) (g : Gender) :
    ∀ s ∈ (seamedSegments template).map (agreed lex g), s.IsClean := by
  intro s hs
  obtain ⟨⟨seams, s⟩, hp, rfl⟩ := List.mem_map.mp hs
  have member := mem_of_mem_withSeams hp
  cases s with
  | text s =>
      exact lacks.not_mem_inAgreement (by decide) (absent s (mem_texts.mpr member)) g seams
  | placeholder p source => exact isClean_of_mem_segments member

theorem not_mem_chosenForm {s : Segment} {g : Gender} {v : String} (clean : s.IsClean)
    (h : chosenForm? g s = some v) : '\x7b' ∉ v.toList := by
  unfold chosenForm? at h
  split at h
  · next f source =>
      cases h
      -- a form is a part of the body, which holds no brace that opens
      obtain ⟨body, -, opens⟩ := clean
      exact fun inside => (opens []).flat (mem_of_mem_forms (opens []).parses inside)
  · cases h

theorem not_mem_inflected (lacks : lex.FormsLack '\x7b') {overrides : SortedMap String Gender}
    {s : Segment} {v : String} (h : inflected? lex overrides s = some v) :
    '\x7b' ∉ v.toList := by
  unfold inflected? at h
  split at h
  · unfold inflectFor at h
    split at h
    · exact lacks.not_mem_inflect (by decide) h
    · split at h
      · exact lacks.not_mem_inflect (by decide) h
      · cases h
  · cases h

/-- A stage that puts no brace that opens anywhere keeps a list of segments clean. -/
theorem isClean_map_replaceBy {f : Segment → Option String} {l : List Segment}
    (clean : ∀ s ∈ l, s.IsClean)
    (lacks : ∀ s v, s.IsClean → f s = some v → '\x7b' ∉ v.toList) :
    ∀ s ∈ l.map (·.replaceBy f), s.IsClean := by
  intro s hs
  obtain ⟨s, member, rfl⟩ := List.mem_map.mp hs
  exact (clean s member).replaceBy fun v => lacks s v (clean s member)

/-- Stages one after the other, all but the last without a brace that opens, are one map. -/
theorem replaceSegments_thrice {f₁ f₂ f₃ : Segment → Option String} {l : List Segment}
    (clean : ∀ s ∈ l, s.IsClean)
    (keeps : ∀ s, f₁ (.text s) = none ∧ f₂ (.text s) = none ∧ f₃ (.text s) = none)
    (lacks₁ : ∀ s v, s.IsClean → f₁ s = some v → '\x7b' ∉ v.toList)
    (lacks₂ : ∀ s v, s.IsClean → f₂ s = some v → '\x7b' ∉ v.toList) :
    replaceSegments f₃
        (replaceSegments f₂ (replaceSegments f₁ (String.ofList (l.flatMap Segment.source)))) =
      String.ofList
        (l.flatMap fun s => (((s.replaceBy f₁).replaceBy f₂).replaceBy f₃).source) := by
  have clean₁ := isClean_map_replaceBy clean lacks₁
  have clean₂ := isClean_map_replaceBy clean₁ lacks₂
  rw [replaceSegments_flatMap_source (fun s => (keeps s).1) clean,
    replaceSegments_flatMap_source (fun s => (keeps s).2.1) clean₁,
    replaceSegments_flatMap_source (fun s => (keeps s).2.2) clean₂, List.flatMap_map,
    List.flatMap_map, List.flatMap_map]

/-- On one segment the stages do what the one pass does, and a segment has a place in one stage
alone. -/
theorem source_stages (lex : Lexicon) (ctx : Context) (p : Seams × Segment) :
    let chosen := chosenForm? ctx.gender
    let inflected := inflected? lex ctx.overrides
    let value := value? ctx.values
    let s := agreed lex ctx.gender p
    (((s.replaceBy chosen).replaceBy inflected).replaceBy value).source =
        resolveSegment lex ctx p ∧
      (((s.replaceBy inflected).replaceBy chosen).replaceBy value).source =
        resolveSegment lex ctx p := by
  obtain ⟨seams, s | ⟨name | f | ⟨tag, word⟩, source⟩⟩ := p
  · exact ⟨rfl, rfl⟩
  · cases found : ctx.values.get? name <;>
      simp [Segment.replaceBy, agreed, chosenForm?, inflected?, value?, resolveSegment, orSource,
        Segment.source, found]
  · exact ⟨rfl, rfl⟩
  · cases found : inflectFor lex ctx.overrides tag word <;>
      simp [Segment.replaceBy, agreed, chosenForm?, inflected?, value?, resolveSegment, orSource,
        Segment.source, found]

/-- **Resolution in one pass is resolution in stages.** When neither the text outside placeholders
nor a form of the vocabulary has a brace that opens, the text in agreement goes through the stages
of the forms and of the tags, in either order, and then through that of the values, and comes out
as the one pass writes it. -/
theorem resolve_eq_stages (lex : Lexicon) (ctx : Context) (template : String)
    (lacks : lex.FormsLack '\x7b') (absent : ∀ s ∈ texts template.toList, '\x7b' ∉ s) :
    resolve lex ctx template =
        substitute ctx.values
          (resolveOverrides lex ctx.overrides
            (resolveForms ctx.gender (agree lex ctx.gender template))) ∧
      resolve lex ctx template =
        substitute ctx.values
          (resolveForms ctx.gender
            (resolveOverrides lex ctx.overrides (agree lex ctx.gender template))) := by
  have clean := isClean_agreed lacks absent ctx.gender
  have chosen : ∀ s v, s.IsClean → chosenForm? ctx.gender s = some v → '\x7b' ∉ v.toList :=
    fun s v => not_mem_chosenForm
  have inflected : ∀ s v, s.IsClean → inflected? lex ctx.overrides s = some v →
      '\x7b' ∉ v.toList := fun s v _ => not_mem_inflected lacks
  rw [agree_eq_flatMap_source, resolveForms, resolveOverrides, substitute,
    replaceSegments_thrice clean (fun _ => ⟨rfl, rfl, rfl⟩) chosen inflected,
    replaceSegments_thrice clean (fun _ => ⟨rfl, rfl, rfl⟩) inflected chosen, List.flatMap_map,
    List.flatMap_map, resolve]
  constructor
  · congr 2
    funext p
    exact (source_stages lex ctx p).1.symm
  · congr 2
    funext p
    exact (source_stages lex ctx p).2.symm

/-- A value that holds a placeholder and a word of the vocabulary is not looked at again. -/
theorem resolve_eq_stages_value :
    let template := "הוא \x7b\x7bname\x7d\x7d \x7b\x7bgender:א|ב|ג\x7d\x7d"
    let ctx : Context :=
      { gender := .female, values := .ofList [("name", "\x7b\x7bx\x7d\x7d הוא")] }
    Lexicon.small.FormsLack '\x7b' ∧ (∀ s ∈ texts template.toList, '\x7b' ∉ s) ∧
      (substitute ctx.values
        (resolveOverrides .small ctx.overrides
          (resolveForms ctx.gender (agree .small ctx.gender template)))).toList =
        "היא \x7b\x7bx\x7d\x7d הוא ב".toList := by
  intro template ctx
  have absent : ∀ s ∈ texts template.toList, '\x7b' ∉ s := by decide +kernel
  refine ⟨Lexicon.formsLack_small, absent, ?_⟩
  rw [← (resolve_eq_stages .small ctx template Lexicon.formsLack_small absent).1]
  decide +kernel

end Stages

end Template

end Agreement
