/- # Agreement.Proofs.Template.Reading: templates read one character at a time

The scan of a template jumps: to the next two braces that open, past the two that close after them,
or one character on. This module shows that it reads the same as a reader that never jumps. At every
place either a placeholder opens, and becomes a segment, or the character there is text. The three
equations of that reader and the induction along them are all that later proofs use of the scan.
-/
import Agreement.Template.Placeholder
import Mathlib.Data.List.Infix

namespace Agreement

open Text

/-! ## Cutting at a pair -/

namespace Text

/-- A cut goes to the first pair: none stands before it, nor overlaps its start. -/
theorem not_infix_of_cutAtPair {c : Char} {text before after : List Char}
    (h : cutAtPair c text = some (before, after)) : ¬ [c, c] <:+: before ++ [c] := by
  induction text generalizing before with
  | nil => simp [cutAtPair] at h
  | cons d rest ih =>
      rw [cutAtPair] at h
      split at h
      · obtain ⟨rfl, -⟩ := Prod.mk.inj (Option.some.inj h)
        intro pair
        have length := pair.length_le
        simp at length
      · next single =>
          obtain ⟨⟨a, b⟩, found, same⟩ := Option.map_eq_some_iff.mp h
          obtain ⟨rfl, rfl⟩ := Prod.mk.inj same
          intro pair
          rcases List.infix_cons_iff.mp pair with start | inside
          · -- a pair at the very start is where the cut would have been
            obtain ⟨tail, eq⟩ := start
            have text := eq_of_cutAtPair found
            apply single
            cases a with
            | nil => simp_all
            | cons e a =>
                simp only [List.cons_append, List.nil_append, List.cons.injEq] at eq
                obtain ⟨rfl, rfl, -⟩ := eq
                simp [text]
          · exact ih found inside

/-- Without a pair there is no cut. -/
theorem not_infix_of_cutAtPair_eq_none {c : Char} {text : List Char}
    (h : cutAtPair c text = none) : ¬ [c, c] <:+: text := by
  induction text with
  | nil => simp
  | cons d rest ih =>
      rw [cutAtPair] at h
      split at h
      · cases h
      · next single =>
          intro pair
          rcases List.infix_cons_iff.mp pair with start | inside
          · obtain ⟨tail, eq⟩ := start
            apply single
            cases eq
            simp
          · exact ih (Option.map_eq_none_iff.mp h) inside

/-- The cut of a text in which the place of the first pair is known. -/
theorem cutAtPair_append {c : Char} {before : List Char} (after : List Char)
    (h : ¬ [c, c] <:+: before ++ [c]) :
    cutAtPair c (before ++ c :: c :: after) = some (before, after) := by
  induction before with
  | nil => simp [cutAtPair]
  | cons d before ih =>
      have inner : ¬ [c, c] <:+: before ++ [c] :=
        fun pair => h (pair.trans (List.infix_cons List.infix_rfl))
      have single : ¬ (d = c ∧ (before ++ c :: c :: after).head? = some c) := by
        rintro ⟨rfl, next⟩
        apply h
        refine List.IsPrefix.isInfix ?_
        cases before with
        | nil => simp
        | cons e before => simp_all
      rw [List.cons_append, cutAtPair, if_neg single, ih inner]
      rfl

/-- A cut leaves alone what stands before a text and makes no pair with it. -/
theorem cutAtPair_append_left {c : Char} {front : List Char} (text : List Char)
    (h : ¬ [c, c] <:+: front ++ text.take 1) :
    cutAtPair c (front ++ text) = (cutAtPair c text).map fun p => (front ++ p.1, p.2) := by
  induction front with
  | nil => simp
  | cons d front ih =>
      have inner : ¬ [c, c] <:+: front ++ text.take 1 :=
        fun pair => h (pair.trans (List.infix_cons List.infix_rfl))
      have single : ¬ (d = c ∧ (front ++ text).head? = some c) := by
        rintro ⟨rfl, next⟩
        apply h
        refine List.IsPrefix.isInfix ?_
        cases front with
        | nil => cases text <;> simp_all
        | cons e front => simp_all
      rw [List.cons_append, cutAtPair, if_neg single, ih inner]
      cases cutAtPair c text <;> rfl

end Text

/-! ## What opens a placeholder -/

namespace Placeholder

/-- A placeholder with a body starts a text: two braces that open, the body, the first two braces
that close, and what comes after them. -/
structure Opens (text : List Char) (p : Placeholder) (body after : List Char) : Prop where
  text_eq : text = source body ++ after
  flat : '\x7b' ∉ body
  closed : ¬ ['\x7d', '\x7d'] <:+: body ++ ['\x7d']
  parses : parseBody body = some p

theorem source_append (body after : List Char) :
    source body ++ after = '\x7b' :: '\x7b' :: (body ++ '\x7d' :: '\x7d' :: after) := by
  simp [source]

@[simp] theorem length_source (body : List Char) : (source body).length = body.length + 4 := by
  simp [source]

theorem source_injective {a b : List Char} (h : source a = source b) : a = b := by
  simpa [source] using h

/-- No two braces open behind the first one of a source, whatever follows it. -/
theorem not_infix_source_tail {body : List Char} (flat : '\x7b' ∉ body) (next : List Char) :
    ¬ ['\x7b', '\x7b'] <:+: '\x7b' :: (body ++ ['\x7d', '\x7d']) ++ next.take 1 := by
  intro pair
  rw [List.cons_append] at pair
  rcases List.infix_cons_iff.mp pair with start | inside
  · obtain ⟨tail, eq⟩ := start
    cases body with
    | nil => simp at eq
    | cons d body => simp_all
  · -- the body holds no brace that opens, and one character cannot make up a pair
    have two : 2 ≤ (body ++ ['\x7d', '\x7d'] ++ next.take 1).count '\x7b' :=
      inside.sublist.count_le '\x7b'
    have none_inside : body.count '\x7b' = 0 := List.count_eq_zero.mpr flat
    have one_after : (next.take 1).count '\x7b' ≤ 1 :=
      List.count_le_length.trans (List.length_take_le 1 next)
    simp only [List.count_append, none_inside] at two
    have closing : ['\x7d', '\x7d'].count '\x7b' = 0 := by decide
    omega

/-- No other placeholder opens between the braces of one. -/
theorem Opens.not_opening_inside {text body after : List Char} {p : Placeholder} {i : Nat}
    (h : Opens text p body after) (low : 0 < i) (high : i < body.length + 4) :
    ¬ ['\x7b', '\x7b'] <+: text.drop i := by
  rintro ⟨tail, eq⟩
  obtain ⟨k, rfl⟩ : ∃ k, i = k + 1 := ⟨i - 1, by omega⟩
  have first : text[k + 1]? = some '\x7b' := by
    rw [← Nat.add_zero (k + 1), ← List.getElem?_drop, ← eq]
    rfl
  have second : text[k + 2]? = some '\x7b' := by
    rw [← List.getElem?_drop (i := k + 1) (j := 1), ← eq]
    rfl
  rw [h.text_eq, source_append, List.getElem?_cons_succ] at first second
  rw [List.getElem?_cons_succ] at second
  rcases Nat.lt_trichotomy k (body.length + 2) with inside | last | past
  · have brace : '\x7b' ∈ body ++ ['\x7d', '\x7d'] := by
      refine List.mem_of_getElem? (i := k) ?_
      rw [← second, ← @List.getElem?_append_left _ _ after _ (by simpa using inside)]
      simp
    simp [h.flat] at brace
  · -- the character before the last brace that closes is one that closes too
    subst last
    rw [List.getElem?_cons_succ, List.getElem?_append_right (by omega)] at first
    simp at first
  · omega

end Placeholder

namespace Template

open Placeholder

/-- Puts a character of text in front of segments. -/
def consText (c : Char) : List Segment → List Segment
  | .text s :: rest => .text (c :: s) :: rest
  | rest => .text [c] :: rest

theorem textSegment_append (front text : List Char) :
    textSegment (front ++ text) = front.foldr consText (textSegment text) := by
  induction front with
  | nil => rfl
  | cons c front ih =>
      rw [List.cons_append, List.foldr_cons, ← ih]
      cases front ++ text <;> rfl

/-- Text in front of a placeholder is one segment. -/
theorem textSegment_append_placeholder (front : List Char) (p : Placeholder) (source : List Char)
    (rest : List Segment) :
    textSegment front ++ .placeholder p source :: rest =
      front.foldr consText (.placeholder p source :: rest) := by
  induction front with
  | nil => rfl
  | cons c front ih =>
      rw [List.foldr_cons, ← ih]
      cases front <;> rfl

/-! ## The five ways of the scan -/

section Scan

variable {behind ahead before inside body after : List Char}

theorem scan_of_unopened (h : cutAtPair '\x7b' ahead = none) :
    scan behind ahead = textSegment (behind ++ ahead) := by
  rw [scan]
  split <;> simp_all

theorem scan_of_unclosed (h : cutAtPair '\x7b' ahead = some (before, inside))
    (h' : cutAtPair '\x7d' inside = none) :
    scan behind ahead = textSegment (behind ++ ahead) := by
  rw [scan]
  grind

theorem scan_of_nested (h : cutAtPair '\x7b' ahead = some (before, inside))
    (h' : cutAtPair '\x7d' inside = some (body, after)) (nested : '\x7b' ∈ body) :
    scan behind ahead = scan (behind ++ before ++ ['\x7b']) ('\x7b' :: inside) := by
  rw [scan]
  grind

theorem scan_of_body {p : Placeholder} (h : cutAtPair '\x7b' ahead = some (before, inside))
    (h' : cutAtPair '\x7d' inside = some (body, after)) (flat : '\x7b' ∉ body)
    (parses : parseBody body = some p) :
    scan behind ahead =
      textSegment (behind ++ before) ++ .placeholder p (source body) :: scan [] after := by
  rw [scan]
  grind

theorem scan_of_no_body (h : cutAtPair '\x7b' ahead = some (before, inside))
    (h' : cutAtPair '\x7d' inside = some (body, after)) (flat : '\x7b' ∉ body)
    (parses : parseBody body = none) :
    scan behind ahead = scan (behind ++ before ++ source body) after := by
  rw [scan]
  grind

end Scan

/-- What a scan has behind it goes in front of what it reads. -/
theorem scan_eq_foldr (behind ahead : List Char) :
    scan behind ahead = behind.foldr consText (scan [] ahead) := by
  -- every move of the scan leaves less ahead
  induction n : ahead.length using Nat.strongRecOn generalizing behind ahead with
  | _ n ih =>
  subst n
  cases opened : cutAtPair '\x7b' ahead with
  | none =>
      rw [scan_of_unopened opened, scan_of_unopened opened, textSegment_append, List.nil_append]
  | some cut =>
      obtain ⟨before, inside⟩ := cut
      have outer := congrArg List.length (eq_of_cutAtPair opened)
      cases closed : cutAtPair '\x7d' inside with
      | none =>
          rw [scan_of_unclosed opened closed, scan_of_unclosed opened closed, textSegment_append,
            List.nil_append]
      | some cut =>
          obtain ⟨body, after⟩ := cut
          have inner := congrArg List.length (eq_of_cutAtPair closed)
          simp only [List.length_append, List.length_cons] at outer inner
          by_cases nested : '\x7b' ∈ body
          · have shorter : ('\x7b' :: inside).length < ahead.length := by
              rw [List.length_cons]; omega
            rw [scan_of_nested opened closed nested, scan_of_nested opened closed nested,
              ih _ shorter _ _ rfl, ih _ shorter ([] ++ before ++ _) _ rfl]
            simp only [List.nil_append, List.foldr_append]
          · cases parses : parseBody body with
            | some p =>
                rw [scan_of_body opened closed nested parses,
                  scan_of_body opened closed nested parses, textSegment_append_placeholder,
                  textSegment_append_placeholder, List.nil_append, List.foldr_append]
            | none =>
                have shorter : after.length < ahead.length := by omega
                rw [scan_of_no_body opened closed nested parses,
                  scan_of_no_body opened closed nested parses, ih _ shorter _ _ rfl,
                  ih _ shorter ([] ++ before ++ _) _ rfl]
                simp only [List.nil_append, List.foldr_append]

/-- Text that opens no pair, not even with the first character after it, counts as read. -/
theorem scan_shift {front : List Char} (behind ahead : List Char)
    (h : ¬ ['\x7b', '\x7b'] <:+: front ++ ahead.take 1) :
    scan behind (front ++ ahead) = scan (behind ++ front) ahead := by
  -- both sides make the same cuts, and differ in which text they have behind them
  have moved := cutAtPair_append_left ahead h
  cases opened : cutAtPair '\x7b' ahead with
  | none =>
      rw [opened] at moved
      rw [scan_of_unopened moved, scan_of_unopened opened, List.append_assoc]
  | some cut =>
      obtain ⟨before, inside⟩ := cut
      rw [opened] at moved
      cases closed : cutAtPair '\x7d' inside with
      | none =>
          rw [scan_of_unclosed moved closed, scan_of_unclosed opened closed, List.append_assoc]
      | some cut =>
          obtain ⟨body, after⟩ := cut
          by_cases nested : '\x7b' ∈ body
          · rw [scan_of_nested moved closed nested, scan_of_nested opened closed nested,
              ← List.append_assoc behind]
          · cases parses : parseBody body with
            | some p =>
                rw [scan_of_body moved closed nested parses,
                  scan_of_body opened closed nested parses, ← List.append_assoc behind]
            | none =>
                rw [scan_of_no_body moved closed nested parses,
                  scan_of_no_body opened closed nested parses, ← List.append_assoc behind]

/-- Such text becomes text in front of what is read after it. -/
theorem scan_append {front : List Char} (ahead : List Char)
    (h : ¬ ['\x7b', '\x7b'] <:+: front ++ ahead.take 1) :
    scan [] (front ++ ahead) = front.foldr consText (scan [] ahead) := by
  rw [scan_shift [] ahead h, List.nil_append]
  exact scan_eq_foldr front ahead

/-- Where no braces close there is only text. -/
theorem scan_of_no_close {text : List Char} (h : ¬ ['\x7d', '\x7d'] <:+: text) :
    scan [] text = textSegment text := by
  cases opened : cutAtPair '\x7b' text with
  | none => rw [scan_of_unopened opened, List.nil_append]
  | some cut =>
      obtain ⟨before, inside⟩ := cut
      cases closed : cutAtPair '\x7d' inside with
      | none => rw [scan_of_unclosed opened closed, List.nil_append]
      | some cut =>
          obtain ⟨body, after⟩ := cut
          refine absurd ?_ h
          rw [eq_of_cutAtPair opened, eq_of_cutAtPair closed]
          exact ⟨before ++ '\x7b' :: '\x7b' :: body, after, by simp⟩

/-! ## The reader that never jumps -/

@[simp] theorem segments_nil : segments [] = [] := by
  rw [segments, scan_of_unopened rfl]
  rfl

/-- The texts of a template are its text segments. -/
theorem mem_texts {template s : List Char} :
    s ∈ texts template ↔ .text s ∈ segments template := by
  rw [texts, List.mem_filterMap]
  constructor
  · rintro ⟨segment, member, is_text⟩
    cases segment with
    | text t =>
        cases is_text
        exact member
    | placeholder => cases is_text
  · intro member
    exact ⟨_, member, rfl⟩

/-- A placeholder that opens becomes a segment, and reading goes on after it. -/
theorem segments_of_opens {text body after : List Char} {p : Placeholder}
    (h : Opens text p body after) :
    segments text = .placeholder p (source body) :: segments after := by
  have opened : cutAtPair '\x7b' text = some ([], body ++ '\x7d' :: '\x7d' :: after) := by
    rw [h.text_eq, source_append]
    rfl
  have closed := cutAtPair_append after h.closed
  rw [segments, scan_of_body opened closed h.flat h.parses]
  rfl

/-- Where no placeholder opens the first character is text. -/
theorem segments_cons {c : Char} {rest : List Char}
    (h : ∀ p body after, ¬ Opens (c :: rest) p body after) :
    segments (c :: rest) = consText c (segments rest) := by
  unfold segments
  by_cases pair : ['\x7b', '\x7b'] <+: c :: rest
  · obtain ⟨inside, rfl, rfl⟩ : ∃ inside, c = '\x7b' ∧ rest = '\x7b' :: inside := by
      obtain ⟨inside, eq⟩ := pair
      simp only [List.cons_append, List.nil_append, List.cons.injEq] at eq
      exact ⟨inside, eq.1.symm, eq.2.symm⟩
    have opened : cutAtPair '\x7b' ('\x7b' :: '\x7b' :: inside) = some ([], inside) := rfl
    cases closed : cutAtPair '\x7d' inside with
    | none =>
        have unclosed : ¬ ['\x7d', '\x7d'] <:+: '\x7b' :: inside := by
          rw [List.infix_cons_iff]
          rintro (start | pair)
          · simp at start
          · exact not_infix_of_cutAtPair_eq_none closed pair
        rw [scan_of_unclosed opened closed, scan_of_no_close unclosed]
        exact textSegment_append ['\x7b'] ('\x7b' :: inside)
    | some cut =>
        obtain ⟨body, after⟩ := cut
        by_cases nested : '\x7b' ∈ body
        · rw [scan_of_nested opened closed nested, scan_eq_foldr]
          rfl
        · cases parses : parseBody body with
          | some p =>
              refine absurd ?_ (h p body after)
              refine ⟨?_, nested, not_infix_of_cutAtPair closed, parses⟩
              rw [eq_of_cutAtPair closed, source_append]
          | none =>
              -- what follows the first brace opens no pair before the end of the source
              have skipped := scan_append after (not_infix_source_tail nested after)
              rw [scan_of_no_body opened closed nested parses, scan_eq_foldr]
              have rest_eq : '\x7b' :: inside = '\x7b' :: (body ++ ['\x7d', '\x7d']) ++ after := by
                rw [eq_of_cutAtPair closed]
                simp
              rw [rest_eq, skipped]
              rfl
  · refine @scan_append [c] rest ?_
    intro inside
    rcases List.infix_cons_iff.mp inside with start | tail
    · exact pair (start.trans (List.cons_prefix_cons.mpr ⟨rfl, List.take_prefix 1 rest⟩))
    · have two := tail.length_le.trans (List.length_take_le 1 rest)
      simp at two

/-- Induction along the reading of a template. -/
theorem reading_induction {motive : List Char → Prop} (nil : motive [])
    (placeholder : ∀ text p body after, Opens text p body after → motive after → motive text)
    (character : ∀ c rest, (∀ p body after, ¬ Opens (c :: rest) p body after) → motive rest →
      motive (c :: rest))
    (text : List Char) : motive text := by
  induction n : text.length using Nat.strongRecOn generalizing text with
  | _ n ih =>
  subst n
  by_cases opens : ∃ p body after, Opens text p body after
  · obtain ⟨p, body, after, h⟩ := opens
    refine placeholder text p body after h (ih _ ?_ _ rfl)
    rw [h.text_eq, List.length_append, length_source]
    omega
  · cases text with
    | nil => exact nil
    | cons c rest =>
        refine character c rest ?_ (ih _ (Nat.lt_succ_self _) _ rfl)
        intro p body after h
        exact opens ⟨p, body, after, h⟩

end Template

end Agreement
