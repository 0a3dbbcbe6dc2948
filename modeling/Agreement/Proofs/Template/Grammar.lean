/- # Agreement.Proofs.Template.Grammar: which parts of a template are placeholders

The placeholder grammar speaks of places in a template: two braces that open at `o`, the first two
that close behind them at `c`, no brace that opens in between, and a body there. The segments of a
template are its text cut at exactly these places, each with what the body says.
-/
import Agreement.Proofs.Template.Reading
import Mathlib.Data.List.Chain

namespace Agreement.Template

open Placeholder

/-- Segments, each with the number of characters before it. -/
def placed (start : Nat) : List Segment → List (Nat × Segment)
  | [] => []
  | s :: rest => (start, s) :: placed (start + s.source.length) rest

/-- The grammar of placeholders: `p` stands from `o` up to the braces that close at `c`. -/
structure PlaceholderAt (template : List Char) (o c : Nat) (p : Placeholder) : Prop where
  opening : ['\x7b', '\x7b'] <+: template.drop o
  after_opening : o + 2 ≤ c
  closing : ['\x7d', '\x7d'] <+: template.drop c
  first : ∀ i, o + 2 ≤ i → i < c → ¬ ['\x7d', '\x7d'] <+: template.drop i
  flat : '\x7b' ∉ template.extract (o + 2) c
  parses : parseBody (template.extract (o + 2) c) = some p

/-! ## The grammar and the reader -/

/-- A pair stands in a text exactly if it starts at some place of it. -/
theorem infix_iff_exists_drop {pattern text : List Char} :
    pattern <:+: text ↔ ∃ i, pattern <+: text.drop i := by
  constructor
  · rintro ⟨before, after, rfl⟩
    exact ⟨before.length, by simp⟩
  · rintro ⟨i, start⟩
    exact start.isInfix.trans (List.drop_suffix i text).isInfix

/-- What starts in the first part of a text at least its own length before the end, starts in that
part alone. -/
theorem prefix_drop_append {pattern front back : List Char} {i : Nat}
    (room : i + pattern.length ≤ front.length) :
    pattern <+: (front ++ back).drop i ↔ pattern <+: front.drop i := by
  rw [List.drop_append_of_le_length (by omega)]
  constructor
  · intro h
    refine List.prefix_of_prefix_length_le h (List.prefix_append _ _) ?_
    rw [List.length_drop]
    omega
  · intro h
    exact h.trans (List.prefix_append _ _)

/-- A body holds no pair, not even with what closes it, exactly if none starts before its end. -/
theorem not_infix_iff_forall_drop {c : Char} {body : List Char} (after : List Char) :
    ¬ [c, c] <:+: body ++ [c] ↔
      ∀ i < body.length, ¬ [c, c] <+: (body ++ c :: c :: after).drop i := by
  have split : body ++ c :: c :: after = body ++ [c] ++ c :: after := by simp
  rw [infix_iff_exists_drop, split]
  constructor
  · intro none_starts i before start
    have room : i + [c, c].length ≤ (body ++ [c]).length := by
      simp only [List.length_append, List.length_cons, List.length_nil]
      omega
    exact none_starts ⟨i, (prefix_drop_append room).mp start⟩
  · rintro none_before ⟨i, start⟩
    have room : i + [c, c].length ≤ (body ++ [c]).length := by
      have := start.length_le
      simp only [List.length_drop, List.length_append, List.length_cons, List.length_nil] at this ⊢
      omega
    refine none_before i ?_ ((prefix_drop_append room).mpr start)
    simp only [List.length_append, List.length_cons, List.length_nil] at room
    omega

/-- Where the grammar finds a placeholder, the reader does. -/
theorem PlaceholderAt.exists_opens {template : List Char} {o c : Nat} {p : Placeholder}
    (h : PlaceholderAt template o c p) :
    ∃ body after, Opens (template.drop o) p body after ∧ c = o + 2 + body.length := by
  obtain ⟨after, closing⟩ := h.closing
  obtain ⟨inside, opening⟩ := h.opening
  have inside_eq : template.drop (o + 2) = inside := by
    rw [← List.drop_drop, ← opening]
    rfl
  obtain ⟨n, rfl⟩ : ∃ n, c = o + 2 + n := Nat.exists_eq_add_of_le h.after_opening
  have body_eq : template.extract (o + 2) (o + 2 + n) = inside.take n := by
    rw [List.extract_eq_take_drop, inside_eq, Nat.add_sub_cancel_left]
  have split : inside = inside.take n ++ '\x7d' :: '\x7d' :: after := by
    have rest : inside.drop n = '\x7d' :: '\x7d' :: after := by
      rw [← inside_eq, List.drop_drop, ← closing]
      rfl
    rw [← rest, List.take_append_drop]
  have length : (inside.take n).length = n := by
    have total := congrArg List.length split
    simp only [List.length_append, List.length_take, List.length_cons] at total ⊢
    omega
  refine ⟨inside.take n, after, ⟨?_, body_eq ▸ h.flat, ?_, body_eq ▸ h.parses⟩, by rw [length]⟩
  · rw [source_append, ← split, ← opening]
    rfl
  · apply (not_infix_iff_forall_drop after).mpr
    intro i before
    rw [length] at before
    rw [← split, ← inside_eq, List.drop_drop]
    exact h.first (o + 2 + i) (Nat.le_add_right _ _) (Nat.add_lt_add_left before _)

/-- Where the reader finds a placeholder, the grammar does. -/
theorem placeholderAt_of_opens {template body after : List Char} {o : Nat} {p : Placeholder}
    (h : Opens (template.drop o) p body after) :
    PlaceholderAt template o (o + 2 + body.length) p := by
  have inside_eq : template.drop (o + 2) = body ++ '\x7d' :: '\x7d' :: after := by
    rw [← List.drop_drop, h.text_eq, source_append]
    rfl
  have body_eq : template.extract (o + 2) (o + 2 + body.length) = body := by
    rw [List.extract_eq_take_drop, inside_eq, Nat.add_sub_cancel_left, List.take_left]
  refine ⟨?_, Nat.le_add_right _ _, ?_, ?_, ?_, ?_⟩
  · rw [h.text_eq, source_append]
    exact ⟨_, rfl⟩
  · rw [← List.drop_drop, inside_eq, List.drop_left]
    exact ⟨after, rfl⟩
  · intro i low high
    obtain ⟨j, rfl⟩ := Nat.exists_eq_add_of_le low
    rw [← List.drop_drop, inside_eq]
    exact (not_infix_iff_forall_drop after).mp h.closed j (Nat.lt_of_add_lt_add_left high)
  · rw [body_eq]
    exact h.flat
  · rw [body_eq]
    exact h.parses

/-- What the grammar says of a place is what the reader looks for there. -/
theorem placeholderAt_iff {template : List Char} {o c : Nat} {p : Placeholder} :
    PlaceholderAt template o c p ↔
      ∃ body after, Opens (template.drop o) p body after ∧ c = o + 2 + body.length := by
  constructor
  · exact PlaceholderAt.exists_opens
  · rintro ⟨body, after, opens, rfl⟩
    exact placeholderAt_of_opens opens

/-! ## Segments and where they stand -/

/-- No segment stands before the start. -/
theorem le_of_mem_placed {start i : Nat} {s : Segment} {l : List Segment}
    (h : (i, s) ∈ placed start l) : start ≤ i := by
  induction l generalizing start with
  | nil => simp [placed] at h
  | cons head rest ih =>
      rcases List.mem_cons.mp h with same | later
      · simp at same
        omega
      · exact (Nat.le_add_right _ _).trans (ih later)

theorem mem_placed_add {start i k : Nat} {s : Segment} {l : List Segment} :
    (i + k, s) ∈ placed (start + k) l ↔ (i, s) ∈ placed start l := by
  induction l generalizing start with
  | nil => simp [placed]
  | cons head rest ih =>
      rw [placed, placed, List.mem_cons, List.mem_cons, Nat.add_right_comm, ih]
      simp

/-- A character of text moves the placeholders behind it and adds none. -/
theorem mem_placed_consText {start i : Nat} {c : Char} {p : Placeholder} {source : List Char}
    {l : List Segment} :
    (i, .placeholder p source) ∈ placed start (consText c l) ↔
      (i, .placeholder p source) ∈ placed (start + 1) l := by
  rcases l with - | ⟨s | ⟨q, s⟩, rest⟩
  · simp [consText, placed]
  · simp [consText, placed, Segment.source, Nat.add_assoc, Nat.add_comm 1]
  · simp [consText, placed, Segment.source]

/-- What stands among segments is the first of them, or stands among the others. -/
theorem mem_placed_cons {o : Nat} {s t : Segment} {l : List Segment} :
    (o, t) ∈ placed 0 (s :: l) ↔
      (o = 0 ∧ t = s) ∨ ∃ k, o = k + s.source.length ∧ (k, t) ∈ placed 0 l := by
  rw [placed, List.mem_cons, Prod.mk.injEq, Nat.zero_add]
  apply or_congr_right
  constructor
  · intro later
    obtain ⟨k, rfl⟩ := Nat.exists_eq_add_of_le' (le_of_mem_placed later)
    refine ⟨k, rfl, ?_⟩
    rw [← @mem_placed_add 0 k s.source.length, Nat.zero_add]
    exact later
  · rintro ⟨k, rfl, later⟩
    rw [← @mem_placed_add 0 k s.source.length, Nat.zero_add] at later
    exact later

/-- Where a placeholder opens, the next one opens behind it. -/
theorem exists_opens_drop_iff {text inner rest : List Char} {q : Placeholder}
    (opens : Opens text q inner rest) {o : Nat} {p : Placeholder} {body : List Char} :
    (∃ after, Opens (text.drop o) p body after) ↔ (o = 0 ∧ p = q ∧ body = inner) ∨
      ∃ k, o = k + (inner.length + 4) ∧ ∃ after, Opens (rest.drop k) p body after := by
  have moved (k : Nat) : text.drop (k + (inner.length + 4)) = rest.drop k := by
    rw [Nat.add_comm, ← List.drop_drop, opens.text_eq, List.drop_left' (length_source inner)]
  constructor
  · rintro ⟨after, h⟩
    rcases Nat.lt_or_ge o (inner.length + 4) with inside | past
    · obtain rfl : o = 0 := by
        by_contra positive
        refine opens.not_opening_inside (Nat.pos_of_ne_zero positive) inside ?_
        rw [h.text_eq, source_append]
        exact ⟨_, rfl⟩
      -- two placeholders that open here make the same first segment
      have both := (segments_of_opens h).symm.trans (segments_of_opens opens)
      obtain ⟨same, sources⟩ := Segment.placeholder.inj (List.cons.inj both).1
      exact .inl ⟨rfl, same, source_injective sources⟩
    · obtain ⟨k, rfl⟩ := Nat.exists_eq_add_of_le' past
      rw [moved] at h
      exact .inr ⟨k, rfl, after, h⟩
  · rintro (⟨rfl, rfl, rfl⟩ | ⟨k, rfl, after, h⟩)
    · exact ⟨rest, opens⟩
    · exact ⟨after, by rw [moved]; exact h⟩

/-- A placeholder segment stands where the reader finds a placeholder, and nowhere else. -/
theorem mem_placed_segments_iff (template : List Char) {o : Nat} {p : Placeholder}
    {body : List Char} :
    (o, .placeholder p (source body)) ∈ placed 0 (segments template) ↔
      ∃ after, Opens (template.drop o) p body after := by
  induction template using reading_induction generalizing o with
  | nil =>
      rw [segments_nil, List.drop_nil]
      constructor
      · intro h
        cases h
      · rintro ⟨after, h⟩
        cases h.text_eq
  | placeholder text q inner rest opens ih =>
      have length : (Segment.placeholder q (source inner)).source.length = inner.length + 4 :=
        length_source inner
      have same : Segment.placeholder p (source body) = .placeholder q (source inner) ↔
          p = q ∧ body = inner := by
        rw [Segment.placeholder.injEq]
        exact and_congr_right fun _ => ⟨source_injective, congrArg source⟩
      rw [segments_of_opens opens, mem_placed_cons, exists_opens_drop_iff opens, length, same]
      simp only [ih]
  | character c rest plain ih =>
      rw [segments_cons plain, mem_placed_consText]
      cases o with
      | zero =>
          -- a character of text stands here, so no placeholder does
          constructor
          · intro h
            have := le_of_mem_placed h
            omega
          · rintro ⟨after, h⟩
            exact absurd h (plain p body after)
      | succ k => rw [mem_placed_add, ih, List.drop_succ_cons]

/-! ## What else segments are -/

/-- Segments lose nothing of a template. -/
theorem flatMap_source_segments (template : List Char) :
    (segments template).flatMap Segment.source = template := by
  induction template using reading_induction with
  | nil => rw [segments_nil]; rfl
  | placeholder text p body after opens ih =>
      rw [segments_of_opens opens, List.flatMap_cons, ih, opens.text_eq]
      rfl
  | character c rest plain ih =>
      rw [segments_cons plain]
      conv_rhs => rw [← ih]
      rcases segments rest with - | ⟨s | ⟨q, s⟩, more⟩ <;> rfl

/-- A text segment behind a character of text was there before, or starts with that character. -/
theorem text_mem_consText {c : Char} {s : List Char} {l : List Segment}
    (h : .text s ∈ consText c l) :
    .text s ∈ l ∨ s = [c] ∨ ∃ s' rest, s = c :: s' ∧ l = .text s' :: rest := by
  rcases l with - | ⟨t | ⟨q, t⟩, rest⟩
  · simp only [consText, List.mem_singleton, Segment.text.injEq] at h
    exact .inr (.inl h)
  · rcases List.mem_cons.mp h with same | later
    · exact .inr (.inr ⟨t, rest, Segment.text.inj same, rfl⟩)
    · exact .inl (List.mem_cons_of_mem _ later)
  · rcases List.mem_cons.mp h with same | later
    · exact .inr (.inl (Segment.text.inj same))
    · exact .inl later

/-- No text segment is empty. -/
theorem ne_nil_of_text_mem_segments {template s : List Char}
    (h : .text s ∈ segments template) : s ≠ [] := by
  induction template using reading_induction generalizing s with
  | nil => simp at h
  | placeholder text p body after opens ih =>
      rw [segments_of_opens opens] at h
      exact ih (by simpa using h)
  | character c rest plain ih =>
      rw [segments_cons plain] at h
      rcases text_mem_consText h with there | rfl | ⟨s', more, rfl, -⟩
      · exact ih there
      · exact List.cons_ne_nil c []
      · exact List.cons_ne_nil c s'

/-- Of two neighbours one is a placeholder. -/
def Alternating (l : List Segment) : Prop :=
  l.IsChain fun a b => a.isPlaceholder ∨ b.isPlaceholder

theorem Alternating.placeholder_cons {l : List Segment} (h : Alternating l) (p : Placeholder)
    (source : List Char) : Alternating (.placeholder p source :: l) := by
  cases l with
  | nil => exact .singleton _
  | cons s rest => exact .cons_cons (.inl rfl) h

theorem Alternating.consText {l : List Segment} (h : Alternating l) (c : Char) :
    Alternating (consText c l) := by
  rcases l with - | ⟨s | ⟨q, s⟩, rest⟩
  · exact .singleton _
  · cases h with
    | singleton => exact .singleton _
    | cons_cons related chain => exact .cons_cons related chain
  · exact .cons_cons (.inr rfl) h

theorem alternating_segments (template : List Char) : Alternating (segments template) := by
  induction template using reading_induction with
  | nil => rw [segments_nil]; exact .nil
  | placeholder text p body after opens ih =>
      rw [segments_of_opens opens]
      exact ih.placeholder_cons p (source body)
  | character c rest plain ih =>
      rw [segments_cons plain]
      exact ih.consText c

/-- A text segment, read on its own, is one text segment again. -/
theorem segments_of_text_mem_segments {template s : List Char}
    (h : .text s ∈ segments template) : segments s = [.text s] := by
  induction template using reading_induction generalizing s with
  | nil => simp at h
  | placeholder text p body after opens ih =>
      rw [segments_of_opens opens] at h
      exact ih (by simpa using h)
  | character c rest plain ih =>
      rw [segments_cons plain] at h
      -- the segment is an old one, the character alone, or the character with the text behind it
      rcases text_mem_consText h with there | rfl | ⟨s', more, rfl, eq⟩
      · exact ih there
      · rw [segments_cons fun p body after opens => ?_, segments_nil]
        · rfl
        · cases opens.text_eq
      · have rest_eq : rest = s' ++ more.flatMap Segment.source := by
          rw [← flatMap_source_segments rest, eq]
          rfl
        rw [segments_cons fun p body after opens => ?_, ih (by rw [eq]; exact List.mem_cons_self)]
        · rfl
        · -- a placeholder that opens here opens in the template as well
          refine plain p body (after ++ more.flatMap Segment.source) ?_
          refine ⟨?_, opens.flat, opens.closed, opens.parses⟩
          rw [rest_eq, ← List.append_assoc, ← opens.text_eq]
          rfl

/-- Two placeholders of the grammar never overlap. -/
theorem PlaceholderAt.le_of_lt {template : List Char} {o c o' c' : Nat} {p p' : Placeholder}
    (h : PlaceholderAt template o c p) (h' : PlaceholderAt template o' c' p') (lt : o < o') :
    c + 2 ≤ o' := by
  obtain ⟨body, after, opens, rfl⟩ := placeholderAt_iff.mp h
  by_contra inside
  obtain ⟨k, rfl⟩ : ∃ k, o' = o + k := ⟨o' - o, by omega⟩
  refine opens.not_opening_inside (i := k) (by omega) (by omega) ?_
  rw [List.drop_drop]
  exact h'.opening

/-- What a placeholder segment holds is braces around a body. -/
theorem eq_source_of_mem_placed {template s : List Char} {start o : Nat} {p : Placeholder}
    (h : (o, .placeholder p s) ∈ placed start (segments template)) : ∃ body, s = source body := by
  induction template using reading_induction generalizing start with
  | nil => simp [placed] at h
  | placeholder text q body after opens ih =>
      rw [segments_of_opens opens] at h
      rcases List.mem_cons.mp h with same | later
      · simp only [Prod.mk.injEq, Segment.placeholder.injEq] at same
        exact ⟨body, same.2.2⟩
      · exact ih later
  | character c rest plain ih =>
      rw [segments_cons plain, mem_placed_consText] at h
      exact ih h

/-- **The placeholder grammar is exact.** Segments are the template cut in pieces, no piece of text
is empty and no two stand side by side. A slice is a placeholder segment exactly if the grammar
finds a placeholder there, whatever braces stand around it, and the segment holds what the body
says. Such slices never overlap, and a piece of text holds none of its own. -/
theorem segments_exact (template : List Char) :
    (segments template).flatMap Segment.source = template ∧
    (∀ s, .text s ∈ segments template → s ≠ []) ∧
    Alternating (segments template) ∧
    (∀ o c p, PlaceholderAt template o c p ↔
      c + 2 ≤ template.length ∧
        (o, .placeholder p (template.extract o (c + 2))) ∈ placed 0 (segments template)) ∧
    (∀ o c p o' c' p', PlaceholderAt template o c p → PlaceholderAt template o' c' p' → o < o' →
      c + 2 ≤ o') ∧
    ∀ s, .text s ∈ segments template → segments s = [.text s] := by
  refine ⟨flatMap_source_segments template, fun s => ne_nil_of_text_mem_segments,
    alternating_segments template, ?_, fun o c p o' c' p' => PlaceholderAt.le_of_lt,
    fun s => segments_of_text_mem_segments⟩
  intro o c p
  rw [placeholderAt_iff]
  constructor
  · rintro ⟨body, after, opens, rfl⟩
    have length := congrArg List.length opens.text_eq
    simp only [List.length_drop, List.length_append, length_source] at length
    have slice : template.extract o (o + 2 + body.length + 2) = source body := by
      rw [List.extract_eq_take_drop, opens.text_eq]
      exact List.take_left' (by rw [length_source]; omega)
    rw [slice, mem_placed_segments_iff]
    exact ⟨by omega, after, opens⟩
  · rintro ⟨bound, h⟩
    obtain ⟨body, slice⟩ := eq_source_of_mem_placed h
    rw [slice, mem_placed_segments_iff] at h
    obtain ⟨after, opens⟩ := h
    refine ⟨body, after, opens, ?_⟩
    have length := congrArg List.length slice
    rw [List.extract_eq_take_drop, List.length_take, List.length_drop, length_source] at length
    omega

end Agreement.Template
