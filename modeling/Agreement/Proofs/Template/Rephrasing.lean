/- # Agreement.Proofs.Template.Rephrasing: templates in other words

Agreement puts Hebrew words in the place of Hebrew words and blank space in the place of blank
space, and nothing in the grammar of placeholders tells such texts apart: a body stays a body, and
what is none becomes none. So text that held no placeholder holds none in other words, and the
template falls into the same segments as before.
-/
import Agreement.Proofs.Template.Bodies
import Agreement.Proofs.Template.Grammar
import Agreement.Proofs.Template.Stages
import Agreement.Proofs.Text.Rephrasing

namespace Agreement

open Unicode Text

/-! ## Bodies -/

namespace Placeholder

theorem isIdentifier_eq (s : List Char) :
    isIdentifier s = (s.head?.any (fun c => isAlphabetic c || c == '_') &&
      s.all fun c => isAlphanumeric c || c == '_') := by
  cases s with
  | nil => rfl
  | cons c rest =>
      cases letter : isAlphabetic c <;> cases underscore : c == '_' <;>
        simp [isIdentifier, isAlphanumeric, letter, underscore]

section Rephrased

variable {u v : List Char}

theorem isIdentifier_of_rephrases (h : Rephrases u v) : isIdentifier v = isIdentifier u := by
  have blank (c : Char) (space : isSpace c = true) : (isAlphanumeric c || c == '_') = false := by
    cases member : isAlphanumeric c || c == '_' with
    | false => rfl
    | true =>
        rw [isSpace_of_identifierChar member] at space
        cases space
  have letter (c : Char) (hebrew : isHebrew c = true) : (isAlphabetic c || c == '_') = true := by
    rw [isAlphabetic_of_isHebrew hebrew]
    rfl
  have first := h.any_head?_eq letter fun c space => by
    have none_of_it := blank c space
    simp only [isAlphanumeric, Bool.or_eq_false_iff] at none_of_it ⊢
    exact ⟨none_of_it.1.1, none_of_it.2⟩
  have all := h.all_eq (fun c hebrew => by
    rw [isAlphanumeric, isAlphabetic_of_isHebrew hebrew]
    rfl) blank
  rw [isIdentifier_eq, isIdentifier_eq, first, all]

/-- A mark that Hebrew words and blank space do not go into is found again. -/
theorem exists_append_of_rephrases {start : List Char} (other : ∀ c ∈ start, isBare c = false)
    (h : Rephrases (start ++ u) v) : ∃ u', v = start ++ u' ∧ Rephrases u u' := by
  induction start generalizing v with
  | nil => exact ⟨v, rfl, h⟩
  | cons c start ih =>
      obtain ⟨first, later⟩ := List.forall_mem_cons.mp other
      obtain ⟨v, rfl, tails⟩ := Rephrases.exists_tail first h
      obtain ⟨u', rfl, rests⟩ := ih later tails
      exact ⟨u', rfl, rests⟩

theorem formsMark_other : ∀ c ∈ formsMark, isBare c = false := by
  have all : formsMark.all (!isBare ·) = true := by decide
  simpa using all

/-- A body in other words is a body. -/
theorem IsBody.rephrase (body : IsBody u) (h : Rephrases u v) : IsBody v := by
  have trimmed := h.trim
  cases body with
  | name identifier =>
      exact .name (by rwa [isIdentifier_of_rephrases trimmed])
  | forms eq count =>
      rw [eq] at trimmed
      obtain ⟨list, eq', rephrased⟩ := exists_append_of_rephrases formsMark_other trimmed
      rw [← rephrased.count_eq (by decide)] at count
      exact .forms eq' count
  | agreeing eq first some_tag tag some_word =>
      rw [eq] at trimmed
      obtain ⟨rest, eq', cut⟩ := Rephrases.exists_tail (by decide) trimmed
      obtain ⟨before, after, rfl, tags, words⟩ := Rephrases.exists_cut (by decide) cut
      refine .agreeing eq' ?_ ?_ ?_ ?_
      · exact fun inside => first (Rephrases.mem (by decide) tags.symm inside)
      · exact fun empty => some_tag (tags.trim.eq_nil_iff.mp empty)
      · rwa [tags.trim.all_eq (fun c letter => by simp [isSpace_of_isHebrew letter])
          fun c space => by simp [space]]
      · exact fun empty => some_word (words.trim.eq_nil_iff.mp empty)

/-- What opens a placeholder opens one in other words. -/
theorem Opens.rephrase {x body after : List Char} {p : Placeholder}
    (opens : Opens (source body ++ after) p body after)
    (h : Rephrases (x ++ (source body ++ after)) v) :
    ∃ x' q body' after', v = x' ++ (source body' ++ after') ∧
      Opens (source body' ++ after') q body' after' := by
  rw [source_append] at h
  have opening : isBare '\x7b' = false := by decide
  have closing : isBare '\x7d' = false := by decide
  obtain ⟨x', _, rfl, -, second⟩ := Rephrases.exists_cut opening h
  obtain ⟨_, rfl, inside⟩ := Rephrases.exists_tail opening second
  obtain ⟨body', _, rfl, bodies, last⟩ := Rephrases.exists_cut closing inside
  obtain ⟨after', rfl, -⟩ := Rephrases.exists_tail closing last
  have parses := isSome_parseBody_iff.mpr
    ((isSome_parseBody_iff.mp (Option.isSome_of_eq_some opens.parses)).rephrase bodies)
  obtain ⟨q, parses⟩ := Option.isSome_iff_exists.mp parses
  refine ⟨x', q, body', after', by rw [source_append], rfl, ?_, ?_, parses⟩
  · exact fun inside => opens.flat (bodies.symm.mem opening inside)
  · rintro ⟨front, back, pair⟩
    have closed := bodies.symm.append (Rephrases.refl ['\x7d'])
    rw [← pair, List.append_assoc] at closed
    obtain ⟨front', _, eq, -, second⟩ := Rephrases.exists_cut closing closed
    obtain ⟨back', rfl, -⟩ := Rephrases.exists_tail closing second
    exact opens.closed ⟨front', back', by simp [eq]⟩

end Rephrased

end Placeholder

/-! ## Segments -/

namespace Template

open Placeholder

/-- Text in which no placeholder opens. -/
def IsInert (s : List Char) : Prop := ∀ i p body after, ¬ Opens (s.drop i) p body after

theorem isInert_of_text_mem_segments {template s : List Char}
    (h : .text s ∈ segments template) : IsInert s := by
  intro i p body after opens
  have placed_there := (mem_placed_segments_iff s).mpr ⟨after, opens⟩
  rw [segments_of_text_mem_segments h] at placed_there
  simp [placed] at placed_there

/-- No placeholder opens in other words. -/
theorem IsInert.rephrase {u v : List Char} (inert : IsInert u) (h : Rephrases u v) :
    IsInert v := by
  intro i p body after opens
  have split := opens.text_eq
  have back : Rephrases (v.take i ++ (source body ++ after)) u := by
    rw [← split, List.take_append_drop]
    exact h.symm
  rw [split] at opens
  obtain ⟨x, q, body', after', rfl, opens'⟩ := opens.rephrase back
  refine inert x.length q body' after' ?_
  rwa [List.drop_left]

section Reading

variable {s next : List Char}
  (ends : next = [] ∨ ∃ q inner rest, Opens next q inner rest)
include ends

/-- What opens before a placeholder or at the end would open in the text alone. -/
theorem not_opens_append (inert : IsInert s) (nonempty : s ≠ []) (p : Placeholder)
    (body after : List Char) : ¬ Opens (s ++ next) p body after := by
  intro opens
  have positive := List.length_pos_iff.mpr nonempty
  rcases Nat.lt_or_ge s.length (body.length + 4) with short | long
  · rcases ends with rfl | ⟨q, inner, rest, opens'⟩
    · have length := congrArg List.length opens.text_eq
      rw [List.append_nil, List.length_append, length_source] at length
      omega
    · -- the next placeholder would open between the braces of this one
      refine opens.not_opening_inside positive short ?_
      rw [List.drop_left, opens'.text_eq, source_append]
      exact ⟨_, rfl⟩
  · have start : source body <+: s := by
      refine List.prefix_of_prefix_length_le ⟨after, opens.text_eq.symm⟩ ⟨next, rfl⟩ ?_
      rwa [length_source]
    obtain ⟨after', rfl⟩ := start
    exact inert 0 p body after' ⟨rfl, opens.flat, opens.closed, opens.parses⟩

/-- Text in which nothing opens is one segment before a placeholder or at the end. -/
theorem segments_append_of_isInert (inert : IsInert s) (nonempty : s ≠ []) :
    segments (s ++ next) = .text s :: segments next := by
  induction s with
  | nil => exact absurd rfl nonempty
  | cons c s ih =>
      have later : IsInert s := fun i => inert (i + 1)
      have plain : ∀ p body after, ¬ Opens (c :: (s ++ next)) p body after :=
        not_opens_append ends inert nonempty
      rw [List.cons_append, segments_cons plain]
      cases s with
      | nil =>
          rcases ends with rfl | ⟨q, inner, rest, opens⟩
          · rw [List.append_nil, segments_nil]
            rfl
          · rw [List.nil_append, segments_of_opens opens]
            rfl
      | cons d s =>
          rw [ih later (List.cons_ne_nil d s)]
          rfl

end Reading

/-- Segments as a reader makes them: no two texts stand side by side, none is empty, nothing opens
in a text, and every placeholder does. -/
structure AreRead (l : List Segment) : Prop where
  alternating : Alternating l
  text : ∀ s, .text s ∈ l → s ≠ [] ∧ IsInert s
  placeholder : ∀ p source, .placeholder p source ∈ l → (Segment.placeholder p source).IsClean

theorem areRead_segments (template : List Char) : AreRead (segments template) where
  alternating := alternating_segments template
  text := fun _ h => ⟨ne_nil_of_text_mem_segments h, isInert_of_text_mem_segments h⟩
  placeholder := fun _ _ => isClean_of_mem_segments

/-- **Such segments, written down and read again, are the same.** -/
theorem AreRead.segments_flatMap_source {l : List Segment} (h : AreRead l) :
    segments (l.flatMap Segment.source) = l := by
  induction l with
  | nil => exact segments_nil
  | cons s rest ih =>
      have later : AreRead rest :=
        ⟨h.alternating.tail, fun s hs => h.text s (List.mem_cons_of_mem _ hs),
          fun p source hp => h.placeholder p source (List.mem_cons_of_mem _ hp)⟩
      rw [List.flatMap_cons]
      cases s with
      | placeholder p source =>
          obtain ⟨body, rfl, opens⟩ := h.placeholder p source List.mem_cons_self
          rw [Segment.source, segments_of_opens (opens _), ih later]
      | text s =>
          obtain ⟨nonempty, inert⟩ := h.text s List.mem_cons_self
          rw [Segment.source, segments_append_of_isInert _ inert nonempty, ih later]
          cases rest with
          | nil => exact .inl rfl
          | cons next rest =>
              cases next with
              | text t => simpa [Segment.isPlaceholder] using h.alternating.rel
              | placeholder p source =>
                  obtain ⟨body, rfl, opens⟩ := later.placeholder p source List.mem_cons_self
                  exact .inr ⟨p, body, _, opens _⟩

end Template

end Agreement
