/- # Agreement.Proofs.Review.StrayBlanks: what is reported of the blanks in a text

Three scans look for blanks one after the other, the later ones in a copy of the text in which a
space stands for each text in double braces. So the copy, and not the text, says what they find.
This module relates the two. Every piece of the copy is the copy of a piece of the text; two braces
open in the copy where two open in the text that open nothing there; and a name in braces stands in
the copy if it stands in the text outside double braces.

Where two braces stay open, no names in single braces are looked for in the whole text, not even
before them. And what is reported of a piece with text in double braces is its copy.
-/
import Agreement.Proofs.Review.Enclosed
import Agreement.Proofs.Review.LiteralNames

namespace Agreement

namespace Bypass

open Text Placeholder

variable {text body before after name rest r : List Char} {c : Char}

/-! ## The copy without double braces -/

/-- A text with a space in the place of each text in double braces. -/
def blanked (text : List Char) : List Char := replaceFrom inDoubleBraces [' '] 0 text

theorem inDoubleBraces_source_append (flat : IsFlat isBrace body) (after : List Char) :
    inDoubleBraces (source body ++ after) = some (source body).length :=
  (enclosed_eq_some_iff isPair_doubleBraces).mpr ⟨body, after, rfl, flat, rfl⟩

theorem inDoubleBraces_eq_none_iff : inDoubleBraces text = none ↔
    ∀ body after, IsFlat isBrace body → text ≠ source body ++ after := by
  constructor
  · rintro missed body after flat rfl
    rw [inDoubleBraces_source_append flat] at missed
    cases missed
  · intro other
    apply Option.eq_none_iff_forall_ne_some.mpr
    intro n found
    obtain ⟨body, after, eq, flat, -⟩ := (enclosed_eq_some_iff isPair_doubleBraces).mp found
    exact other body after flat eq

/-- Without text in double braces the copy is the text. -/
theorem blanked_eq_self (none_stands : ∀ body, IsFlat isBrace body → ¬ source body <:+: text) :
    blanked text = text :=
  replaceFrom_eq_self ((matchesFrom_enclosed_eq_nil_iff isPair_doubleBraces).mpr none_stands) [' ']

theorem blanked_source_append (flat : IsFlat isBrace body) (after : List Char) :
    blanked (source body ++ after) = ' ' :: blanked after := by
  have found := inDoubleBraces_source_append flat after
  have behind : (source body ++ after).drop (source body).length = after := List.drop_left
  rw [source_append] at found behind ⊢
  rw [blanked, replaceFrom, found]
  dsimp only
  rw [replaceFrom_skip, ← List.drop_succ_cons, Nat.sub_add_cancel (by simp), behind]
  rfl

theorem blanked_cons (kept : inDoubleBraces (c :: rest) = none) :
    blanked (c :: rest) = c :: blanked rest := by
  rw [blanked, replaceFrom, kept]
  rfl

theorem blanked_append (no_opening : '\x7b' ∉ before) (rest : List Char) :
    blanked (before ++ rest) = before ++ blanked rest := by
  induction before with
  | nil => rfl
  | cons c before ih =>
      obtain ⟨other, later⟩ := not_or.mp (List.mem_cons.not.mp no_opening)
      rw [List.cons_append, blanked_cons, ih later, List.cons_append]
      apply inDoubleBraces_eq_none_iff.mpr
      rintro body after - eq
      exact other (List.cons.inj eq).1.symm

/-- Induction along the copying of a text. -/
theorem blanking_induction {motive : List Char → Prop} (nil : motive [])
    (taken : ∀ body after, IsFlat isBrace body → motive after → motive (source body ++ after))
    (kept : ∀ c rest, inDoubleBraces (c :: rest) = none → motive rest → motive (c :: rest))
    (text : List Char) : motive text := by
  induction n : text.length using Nat.strongRecOn generalizing text with
  | _ n ih =>
  subst n
  cases text with
  | nil => exact nil
  | cons c rest =>
      cases found : inDoubleBraces (c :: rest) with
      | none => exact kept c rest found (ih _ (Nat.lt_succ_self _) _ rfl)
      | some n =>
          obtain ⟨body, after, eq, flat, -⟩ := (enclosed_eq_some_iff isPair_doubleBraces).mp found
          rw [eq]
          refine taken body after flat (ih _ ?_ _ rfl)
          rw [eq]
          simp only [opening, List.length_append, List.length_cons]
          omega

/-! ## Pieces of the copy -/

theorem exists_suffix_of_blanked (h : r <:+ blanked text) : ∃ s, s <:+ text ∧ r = blanked s := by
  induction text using blanking_induction with
  | nil => exact ⟨[], List.suffix_rfl, List.suffix_nil.mp h⟩
  | taken body after flat ih =>
      rw [blanked_source_append flat] at h
      rcases List.suffix_cons_iff.mp h with rfl | later
      · exact ⟨_, List.suffix_rfl, (blanked_source_append flat after).symm⟩
      · obtain ⟨s, behind, eq⟩ := ih later
        exact ⟨s, behind.trans (List.suffix_append _ _), eq⟩
  | kept c rest missed ih =>
      rw [blanked_cons missed] at h
      rcases List.suffix_cons_iff.mp h with rfl | later
      · exact ⟨_, List.suffix_rfl, (blanked_cons missed).symm⟩
      · obtain ⟨s, behind, eq⟩ := ih later
        exact ⟨s, behind.trans (List.suffix_cons c rest), eq⟩

theorem exists_prefix_of_blanked (h : r <+: blanked text) : ∃ s, s <+: text ∧ r = blanked s := by
  induction text using blanking_induction generalizing r with
  | nil => exact ⟨[], List.nil_prefix, List.prefix_nil.mp h⟩
  | taken body after flat ih =>
      rw [blanked_source_append flat] at h
      rcases List.prefix_cons_iff.mp h with rfl | ⟨r, rfl, start⟩
      · exact ⟨[], List.nil_prefix, rfl⟩
      · obtain ⟨s, part, rfl⟩ := ih start
        exact ⟨source body ++ s, (List.prefix_append_right_inj _).mpr part,
          (blanked_source_append flat s).symm⟩
  | kept c rest missed ih =>
      rw [blanked_cons missed] at h
      rcases List.prefix_cons_iff.mp h with rfl | ⟨r, rfl, start⟩
      · exact ⟨[], List.nil_prefix, rfl⟩
      · obtain ⟨s, ⟨more, rfl⟩, rfl⟩ := ih start
        refine ⟨c :: s, ⟨more, rfl⟩, (blanked_cons ?_).symm⟩
        -- text in double braces that starts here would start in the whole text as well
        rw [inDoubleBraces_eq_none_iff] at missed ⊢
        intro body after flat eq
        refine missed body (after ++ more) flat ?_
        rw [← List.append_assoc, ← eq, List.cons_append]

/-- Every piece of the copy is the copy of a piece of the text. -/
theorem exists_infix_of_blanked (h : r <:+: blanked text) : ∃ s, s <:+: text ∧ r = blanked s := by
  obtain ⟨t, start, stop⟩ := List.infix_iff_prefix_suffix.mp h
  obtain ⟨s, behind, rfl⟩ := exists_suffix_of_blanked stop
  obtain ⟨s', front, rfl⟩ := exists_prefix_of_blanked start
  exact ⟨s', front.isInfix.trans behind.isInfix, rfl⟩

/-- A piece of the copy stands in the text, or is the copy of a piece with text in double braces. -/
theorem exists_piece_of_blanked (h : r <:+: blanked text) : ∃ piece, piece <:+: text ∧
    (r = piece ∨ r = blanked piece ∧ ∃ body, IsFlat isBrace body ∧ source body <:+: piece) := by
  obtain ⟨piece, stands, rfl⟩ := exists_infix_of_blanked h
  refine ⟨piece, stands, ?_⟩
  by_cases taken : ∃ body, IsFlat isBrace body ∧ source body <:+: piece
  · exact .inr ⟨rfl, taken⟩
  · simp only [not_exists, not_and] at taken
    exact .inl (blanked_eq_self taken)

/-! ## Braces that stay open -/

/-- Two braces open a text, and no text in double braces starts with the first or the second of
them. -/
structure StaysOpen (text : List Char) : Prop where
  opens : opening <+: text
  first : ∀ body after, IsFlat isBrace body → text ≠ source body ++ after
  second : ∀ body after, IsFlat isBrace body → text.tail ≠ source body ++ after

/-- Two braces open somewhere in a text and open nothing. -/
def LeavesOpen (text : List Char) : Prop := ∃ s, s <:+ text ∧ StaysOpen s

/-- The part of a text from the first braces on that stay open. -/
structure IsFirstOpen (text part : List Char) : Prop where
  stands : part <:+ text
  stays : StaysOpen part
  first : ∀ s, s <:+ text → StaysOpen s → s <:+ part

/-- Braces stay open where two open in the copy. -/
theorem staysOpen_iff : StaysOpen text ↔ opening <+: blanked text := by
  constructor
  · rintro ⟨⟨inside, rfl⟩, first, second⟩
    have kept := inDoubleBraces_eq_none_iff.mpr first
    have kept' := inDoubleBraces_eq_none_iff.mpr second
    refine ⟨blanked inside, ?_⟩
    exact ((blanked_cons kept).trans (congrArg ('\x7b' :: ·) (blanked_cons kept'))).symm
  · intro h
    induction text using blanking_induction with
    | nil => cases List.prefix_nil.mp h
    | taken body after flat ih =>
        rw [blanked_source_append flat] at h
        simp [opening] at h
    | kept c rest missed ih =>
        rw [blanked_cons missed, opening, List.cons_prefix_cons] at h
        obtain ⟨rfl, next⟩ := h
        induction rest using blanking_induction with
        | nil => cases List.prefix_nil.mp next
        | taken body after flat ih =>
            rw [blanked_source_append flat] at next
            simp at next
        | kept c rest missed' ih =>
            rw [blanked_cons missed', List.cons_prefix_cons] at next
            obtain ⟨rfl, -⟩ := next
            exact ⟨⟨rest, rfl⟩, inDoubleBraces_eq_none_iff.mp missed,
              inDoubleBraces_eq_none_iff.mp missed'⟩

/-- No braces stay open in text in double braces. -/
theorem suffix_of_staysOpen {s : List Char} (flat : IsFlat isBrace body)
    (behind : s <:+ source body ++ after) (stays : StaysOpen s) : s <:+ after := by
  obtain ⟨inside, rfl⟩ := stays.opens
  obtain ⟨front, eq⟩ := behind
  have nonempty : front ≠ [] := by
    rintro rfl
    exact stays.first body after flat eq
  have stops := stopsBefore_opening isPair_doubleBraces front inside
  have found := inDoubleBraces_source_append flat after
  rw [← eq] at found
  have long := stops front List.suffix_rfl nonempty _ found
  refine List.suffix_of_suffix_length_le ⟨front, eq⟩ (List.suffix_append _ _) ?_
  have length_eq := congrArg List.length eq
  simp only [List.length_append] at length_eq ⊢
  omega

theorem IsFirstOpen.of_behind {part : List Char} (h : IsFirstOpen rest part)
    (behind : rest <:+ text) (later : ∀ s, s <:+ text → StaysOpen s → s <:+ rest) :
    IsFirstOpen text part where
  stands := h.stands.trans behind
  stays := h.stays
  first := fun s hs stays => h.first s (later s hs stays) stays

/-- **The search in the copy finds the first braces that stay open.** -/
theorem startingAt?_blanked (text : List Char) :
    (∃ part, IsFirstOpen text part ∧ startingAt? opening (blanked text) = some (blanked part)) ∨
      ¬ LeavesOpen text ∧ startingAt? opening (blanked text) = none := by
  induction text using blanking_induction with
  | nil =>
      refine .inr ⟨?_, rfl⟩
      rintro ⟨s, hs, stays⟩
      obtain rfl := List.suffix_nil.mp hs
      cases List.prefix_nil.mp stays.opens
  | taken body after flat ih =>
      have later (s : List Char) (hs : s <:+ source body ++ after) (stays : StaysOpen s) :=
        suffix_of_staysOpen flat hs stays
      rw [blanked_source_append flat, startingAt?, if_neg (by simp [opening])]
      rcases ih with ⟨part, first, eq⟩ | ⟨closed, eq⟩
      · exact .inl ⟨part, first.of_behind (List.suffix_append _ _) later, eq⟩
      · refine .inr ⟨?_, eq⟩
        rintro ⟨s, hs, stays⟩
        exact closed ⟨s, later s hs stays, stays⟩
  | kept c rest missed ih =>
      rw [blanked_cons missed, startingAt?]
      by_cases stays : StaysOpen (c :: rest)
      · have starts := staysOpen_iff.mp stays
        rw [blanked_cons missed] at starts
        rw [if_pos (List.isPrefixOf_iff_prefix.mpr starts), ← blanked_cons missed]
        exact .inl ⟨_, ⟨List.suffix_rfl, stays, fun s hs _ => hs⟩, rfl⟩
      · have later (s : List Char) (hs : s <:+ c :: rest) (stays' : StaysOpen s) : s <:+ rest := by
          rcases List.suffix_cons_iff.mp hs with rfl | later
          · exact absurd stays' stays
          · exact later
        have misses : ¬ opening.isPrefixOf (c :: blanked rest) = true := by
          rwa [List.isPrefixOf_iff_prefix, ← blanked_cons missed, ← staysOpen_iff]
        rw [if_neg misses]
        rcases ih with ⟨part, first, eq⟩ | ⟨closed, eq⟩
        · exact .inl ⟨part, first.of_behind (List.suffix_cons c rest) later, eq⟩
        · refine .inr ⟨?_, eq⟩
          rintro ⟨s, hs, stays⟩
          exact closed ⟨s, later s hs stays, stays⟩

theorem leavesOpen_iff : LeavesOpen text ↔ opening <:+: blanked text := by
  rw [← isSome_startingAt?_iff]
  rcases startingAt?_blanked text with ⟨part, first, eq⟩ | ⟨closed, eq⟩
  · rw [eq]
    exact iff_of_true ⟨part, first.stands, first.stays⟩ rfl
  · rw [eq]
    exact iff_of_false closed Bool.false_ne_true

/-! ## Names in braces -/

/-- Text in double braces that starts before a name in braces and reaches into it is around it. -/
theorem stopsBefore_braces (flat : IsFlat isBrace name)
    (outside : ¬ (before.getLast? = some '\x7b' ∧ after.head? = some '\x7d')) :
    StopsBefore inDoubleBraces before ('\x7b' :: (name ++ '\x7d' :: after)) := by
  intro u behind nonempty n found
  by_contra reaches
  have short := length_lt_of_reaches isPair_doubleBraces (by decide) found (by omega)
  obtain ⟨body, rest, eq, flat', -⟩ := (enclosed_eq_some_iff isPair_doubleBraces).mp found
  obtain ⟨d, rfl⟩ : ∃ d, u = [d] := by
    have positive := List.length_pos_iff.mpr nonempty
    have length : opening.length = 2 := rfl
    exact List.length_eq_one_iff.mp (by omega)
  have eq : d :: '\x7b' :: (name ++ '\x7d' :: after) =
      '\x7b' :: '\x7b' :: (body ++ '\x7d' :: '\x7d' :: rest) := by
    rw [← source_append]
    exact eq
  obtain ⟨rfl, same⟩ := List.cons.inj eq
  -- the name and the text in double braces both go up to the first brace that closes
  have cut : splitOnce '\x7d' (name ++ '\x7d' :: after) = some (name, after) :=
    splitOnce_eq_some_iff.mpr ⟨rfl, (isFlat_isBrace_iff.mp flat).2⟩
  rw [(List.cons.inj same).2,
    splitOnce_eq_some_iff.mpr ⟨rfl, (isFlat_isBrace_iff.mp flat').2⟩] at cut
  cases cut
  obtain ⟨front, rfl⟩ := behind
  exact outside ⟨List.getLast?_concat, rfl⟩

theorem not_opening_braces (flat : IsFlat isBrace name) (after : List Char) :
    ¬ opening <+: '\x7b' :: (name ++ '\x7d' :: after) := by
  intro start
  have next := (List.cons_prefix_cons.mp start).2
  cases name with
  | nil => simp at next
  | cons d name =>
      obtain ⟨rfl, -⟩ := List.cons_prefix_cons.mp next
      exact (isFlat_isBrace_iff.mp flat).1 List.mem_cons_self

/-- A name in braces that is not the inside of double braces stands in the copy. -/
theorem braces_infix_blanked (flat : IsFlat isBrace name)
    (outside : ¬ (before.getLast? = some '\x7b' ∧ after.head? = some '\x7d')) :
    ['\x7b'] ++ (name ++ ['\x7d']) <:+:
      blanked (before ++ '\x7b' :: (name ++ '\x7d' :: after)) := by
  obtain ⟨-, front, eq⟩ := (stopsBefore_braces flat outside).exists_append [' '] (Nat.zero_le _)
  have kept : inDoubleBraces ('\x7b' :: (name ++ '\x7d' :: after)) = none := by
    apply inDoubleBraces_eq_none_iff.mpr
    intro body rest _ eq
    refine not_opening_braces flat after ?_
    rw [eq, source_append]
    exact ⟨_, rfl⟩
  have copied : blanked ('\x7b' :: (name ++ '\x7d' :: after)) =
      '\x7b' :: (name ++ '\x7d' :: blanked after) := by
    have no_opening : '\x7b' ∉ name ++ ['\x7d'] := by
      simpa using (isFlat_isBrace_iff.mp flat).1
    have split (rest : List Char) : name ++ '\x7d' :: rest = name ++ ['\x7d'] ++ rest := by simp
    rw [blanked_cons kept, split, blanked_append no_opening, ← split]
  change blanked _ = front ++ blanked _ at eq
  refine ⟨front, blanked after, ?_⟩
  rw [eq, copied]
  simp

/-! ## What is reported of a text -/

theorem IsFirstOpen.unique {part part' : List Char} (h : IsFirstOpen text part)
    (h' : IsFirstOpen text part') : part = part' :=
  (h'.first part h.stands h.stays).sublist.antisymm (h.first part' h'.stands h'.stays).sublist

/-- **What is reported of a text.** Text in double braces, as it stands there. Names in double
brackets that stand in the copy. The first braces that stay open, with what comes after them in the
copy; and if there are none, names in braces that stand in the copy. -/
theorem mem_blanksIn {m : List Char} : m ∈ blanksIn text ↔
    (∃ body, m = source body ∧ IsFlat isBrace body ∧ m <:+: text) ∨
    (∃ name, m = ['[', '['] ++ (name ++ [']', ']']) ∧ IsFlat isSquareBracket name ∧
      m <:+: blanked text) ∨
    (∃ part, IsFirstOpen text part ∧ m = (blanked part).take quotedLength) ∨
    (¬ LeavesOpen text ∧ ∃ name, m = ['\x7b'] ++ (name ++ ['\x7d']) ∧ IsFlat isBrace name ∧
      m <:+: blanked text) := by
  have doubles := @mem_matchesFrom_enclosed_iff _ _ text _ isPair_doubleBraces m
  have brackets := @mem_matchesFrom_enclosed_iff _ _ (blanked text) _ isPair_doubleBrackets m
  have braces := @mem_matchesFrom_enclosed_iff _ _ (blanked text) _ isPair_braces m
  rw [blanksIn, ← blanked, List.mem_append, List.mem_append, or_assoc]
  refine or_congr doubles (or_congr brackets ?_)
  rcases startingAt?_blanked text with ⟨part, first, eq⟩ | ⟨closed, eq⟩
  · rw [eq]
    constructor
    · intro h
      exact .inl ⟨part, first, List.mem_singleton.mp h⟩
    · rintro (⟨part', first', rfl⟩ | ⟨closed, -⟩)
      · rw [first.unique first']
        exact List.mem_singleton_self _
      · exact absurd ⟨part, first.stands, first.stays⟩ closed
  · rw [eq]
    constructor
    · intro h
      exact .inr ⟨closed, braces.mp h⟩
    · rintro (⟨part, first, -⟩ | ⟨-, named⟩)
      · exact absurd ⟨part, first.stands, first.stays⟩ closed
      · exact braces.mpr named

/-- A name in braces outside double braces is reported exactly if no braces stay open. -/
theorem braces_mem_blanksIn_iff (flat : IsFlat isBrace name)
    (outside : ¬ (before.getLast? = some '\x7b' ∧ after.head? = some '\x7d'))
    (split : text = before ++ '\x7b' :: (name ++ '\x7d' :: after)) :
    ['\x7b'] ++ (name ++ ['\x7d']) ∈ blanksIn text ↔ ¬ LeavesOpen text := by
  rw [mem_blanksIn]
  constructor
  · rintro (⟨body, eq, -⟩ | ⟨body, eq, -⟩ | ⟨part, first, eq⟩ | ⟨closed, -⟩)
    · refine absurd ?_ (not_opening_braces flat [])
      exact ⟨body ++ ['\x7d', '\x7d'], eq.symm⟩
    · exact absurd (List.cons.inj eq).1 (by decide)
    · refine absurd ?_ (not_opening_braces flat [])
      have quoted : opening <+: (blanked part).take quotedLength :=
        List.prefix_take_iff.mpr ⟨staysOpen_iff.mp first.stays, by decide⟩
      rwa [← eq] at quoted
    · exact closed
  · intro closed
    refine .inr (.inr (.inr ⟨closed, name, rfl, flat, ?_⟩))
    rw [split]
    exact braces_infix_blanked flat outside

/-- What is reported of a text stands in it, or is the copy of a piece with text in double braces
in it. -/
theorem exists_piece_of_mem_blanksIn {m : List Char} (h : m ∈ blanksIn text) :
    ∃ piece, piece <:+: text ∧
      (m = piece ∨ m = blanked piece ∧ ∃ body, IsFlat isBrace body ∧ source body <:+: piece) := by
  rcases mem_blanksIn.mp h with ⟨_, -, -, stands⟩ | ⟨_, -, -, stands⟩ | ⟨part, first, rfl⟩ |
    ⟨-, _, -, -, stands⟩
  · exact ⟨m, stands, .inl rfl⟩
  · exact exists_piece_of_blanked stands
  · obtain ⟨piece, stands, copy⟩ :=
      exists_piece_of_blanked (List.take_prefix quotedLength (blanked part)).isInfix
    exact ⟨piece, stands.trans first.stands.isInfix, copy⟩
  · exact exists_piece_of_blanked stands

end Bypass

namespace Template

open Placeholder Bypass

theorem mem_findOutside {scan : List Char → List (List Char)} {template f : String} :
    f ∈ findOutside scan template ↔
      ∃ text ∈ texts template.toList, f.toList ∈ scan text := by
  rw [findOutside, List.mem_flatMap]
  refine exists_congr fun text => and_congr_right fun _ => ?_
  rw [List.mem_map]
  constructor
  · rintro ⟨m, found, rfl⟩
    rwa [String.toList_ofList]
  · intro found
    exact ⟨f.toList, found, String.ofList_toList⟩

/-- **What a template reports of its blanks.** Text in double braces that is no placeholder is
reported. Of each text outside placeholders in which braces stay open, the first ones are reported,
with what comes after them. A name in single braces outside double braces is reported if no braces
stay open in its text; if some do, it is not, wherever it stands. -/
theorem strayBlanks_shows (template : String) :
    (∀ body, '\x7b' ∉ body → '\x7d' ∉ body → source body <:+: template.toList →
      parseBody body = none → String.ofList (source body) ∈ strayBlanks template) ∧
    ∀ text ∈ texts template.toList,
      (LeavesOpen text → ∃ part, IsFirstOpen text part ∧
        String.ofList ((blanked part).take quotedLength) ∈ strayBlanks template) ∧
      ∀ before name after, '\x7b' ∉ name → '\x7d' ∉ name →
        text = before ++ '\x7b' :: (name ++ '\x7d' :: after) →
        ¬ (before.getLast? = some '\x7b' ∧ after.head? = some '\x7d') →
        (¬ LeavesOpen text →
          String.ofList (['\x7b'] ++ (name ++ ['\x7d'])) ∈ strayBlanks template) ∧
        (LeavesOpen text → ['\x7b'] ++ (name ++ ['\x7d']) ∉ blanksIn text) := by
  have reported {text m : List Char} (segment : text ∈ texts template.toList)
      (h : m ∈ blanksIn text) : String.ofList m ∈ strayBlanks template :=
    mem_findOutside.mpr ⟨text, segment, by rwa [String.toList_ofList]⟩
  refine ⟨?_, fun text segment => ⟨?_, ?_⟩⟩
  · intro body no_opening no_closing stands no_body
    have literal : IsLiteral body := ⟨no_opening, closed_of_not_mem no_closing, no_body⟩
    obtain ⟨text, member, inside⟩ := exists_text_mem_segments literal stands
    have flat := isFlat_isBrace_iff.mpr ⟨no_opening, no_closing⟩
    exact reported (mem_texts.mpr member)
      (mem_blanksIn.mpr (.inl ⟨body, rfl, flat, inside⟩))
  · intro leaves
    rcases startingAt?_blanked text with ⟨part, first, -⟩ | ⟨closed, -⟩
    · have quoted := mem_blanksIn.mpr (.inr (.inr (.inl ⟨part, first, rfl⟩)))
      exact ⟨part, first, reported segment quoted⟩
    · exact absurd leaves closed
  · intro before name after no_opening no_closing split outside
    have flat := isFlat_isBrace_iff.mpr ⟨no_opening, no_closing⟩
    have exactly := braces_mem_blanksIn_iff flat outside split
    exact ⟨fun closed => reported segment (exactly.mpr closed), fun leaves h => exactly.mp h leaves⟩

/-- A template with a text of each kind: braces stay open in the second one alone. -/
theorem strayBlanks_shows_two_texts :
    let template :=
      "\x7b\x7bfirst name\x7d\x7d \x7ba\x7d\x7b\x7bx\x7d\x7d\x7bb\x7d \x7b\x7by \x7bc\x7d"
    let closed := "\x7b\x7bfirst name\x7d\x7d \x7ba\x7d".toList
    let leaving := "\x7bb\x7d \x7b\x7by \x7bc\x7d".toList
    (texts template.toList = [closed, leaving] ∧ ¬ LeavesOpen closed ∧ LeavesOpen leaving) ∧
    "\x7b\x7bfirst name\x7d\x7d" ∈ strayBlanks template ∧ "\x7ba\x7d" ∈ strayBlanks template ∧
    (∃ part, IsFirstOpen leaving part ∧
      String.ofList ((blanked part).take quotedLength) ∈ strayBlanks template) ∧
    "\x7bb\x7d".toList ∉ blanksIn leaving := by
  intro template closed leaving
  have split : texts template.toList = [closed, leaving] := by decide +kernel
  have stays_closed : ¬ LeavesOpen closed := by
    rw [leavesOpen_iff]
    decide
  have leaves : LeavesOpen leaving := by
    rw [leavesOpen_iff]
    decide
  obtain ⟨doubles, shown⟩ := strayBlanks_shows template
  have first := shown closed (by rw [split]; exact List.mem_cons_self)
  have second := shown leaving (by rw [split]; exact List.mem_cons_of_mem _ List.mem_cons_self)
  refine ⟨⟨split, stays_closed, leaves⟩, ?_, ?_, second.1 leaves, ?_⟩
  · exact doubles "first name".toList (by decide) (by decide) (by decide) (by decide +kernel)
  · exact (first.2 "\x7b\x7bfirst name\x7d\x7d ".toList ['a'] [] (by decide) (by decide) (by decide)
      (by decide)).1 stays_closed
  · exact (second.2 [] ['b'] " \x7b\x7by \x7bc\x7d".toList (by decide) (by decide) (by decide)
      (by decide)).2 leaves

/-- A name in braces is not reported if braces stay open behind it. -/
theorem strayBlanks_miss_braces :
    let template := "\x7bname\x7d \x7b\x7bx"
    (texts template.toList = [template.toList] ∧ '\x7b' ∉ "name".toList ∧ '\x7d' ∉ "name".toList ∧
      template.toList = [] ++ '\x7b' :: ("name".toList ++ '\x7d' :: " \x7b\x7bx".toList) ∧
      IsFirstOpen template.toList "\x7b\x7bx".toList) ∧
    "\x7bname\x7d" ∉ strayBlanks template := by
  intro template
  have first : IsFirstOpen template.toList "\x7b\x7bx".toList := by
    refine ⟨by decide, staysOpen_iff.mpr (by decide), fun s hs stays => ?_⟩
    have listed : ∀ s ∈ template.toList.tails, opening <+: blanked s →
        s <:+ "\x7b\x7bx".toList := by
      decide
    exact listed s ((List.mem_tails _ _).mpr hs) (staysOpen_iff.mp stays)
  exact ⟨⟨by decide +kernel, by decide, by decide, by decide, first⟩, by decide +kernel⟩

/-- **What a template reports is a piece of one of its texts.** Gender written by hand is reported
as it stands there. So is a blank, unless it has text in double braces in it: then it is reported
with a space in the place of that. -/
theorem exists_piece_of_reported (template : String) :
    (∀ f ∈ handwrittenSuffixes template, ∃ text ∈ texts template.toList, f.toList <:+: text) ∧
    ∀ f ∈ strayBlanks template, ∃ text ∈ texts template.toList, ∃ piece, piece <:+: text ∧
      (f.toList = piece ∨
        f.toList = blanked piece ∧ ∃ body, IsFlat isBrace body ∧ source body <:+: piece) := by
  constructor
  · intro f hf
    obtain ⟨text, segment, found⟩ := mem_findOutside.mp hf
    refine ⟨text, segment, ?_⟩
    rcases List.mem_append.mp found with slashed | parenthesized
    · exact Text.infix_of_mem_matchesFrom slashed
    · exact Text.infix_of_mem_matchesFrom parenthesized
  · intro f hf
    obtain ⟨text, segment, found⟩ := mem_findOutside.mp hf
    exact ⟨text, segment, exists_piece_of_mem_blanksIn found⟩

/-- A suffix written by hand, and a blank around text in double braces. -/
theorem exists_piece_of_reported_nested :
    let template := "עשה/תה \x7b\x7ba \x7b\x7bb c\x7d\x7d d\x7d"
    ("עשה/תה" ∈ handwrittenSuffixes template ∧ "\x7b\x7ba   d\x7d" ∈ strayBlanks template) ∧
    (∃ text ∈ texts template.toList, "עשה/תה".toList <:+: text) ∧
    ∃ text ∈ texts template.toList, ∃ piece, piece <:+: text ∧
      ("\x7b\x7ba   d\x7d".toList = piece ∨ "\x7b\x7ba   d\x7d".toList = blanked piece ∧
        ∃ body, IsFlat isBrace body ∧ source body <:+: piece) := by
  intro template
  have suffix : "עשה/תה" ∈ handwrittenSuffixes template := by decide +kernel
  have blank : "\x7b\x7ba   d\x7d" ∈ strayBlanks template := by decide +kernel
  obtain ⟨suffixes, blanks⟩ := exists_piece_of_reported template
  exact ⟨⟨suffix, blank⟩, suffixes _ suffix, blanks _ blank⟩

/-- Each of the later scans reports a blank around text in double braces as it stands nowhere. -/
theorem strayBlanks_misquote :
    let leaving := "\x7b\x7ba \x7b\x7bb c\x7d\x7d d\x7d"
    let closed := "[[a \x7b\x7bb c\x7d\x7d d]] \x7be \x7b\x7bb c\x7d\x7d f\x7d"
    (strayBlanks leaving = ["\x7b\x7bb c\x7d\x7d", "\x7b\x7ba   d\x7d"] ∧
      ¬ "\x7b\x7ba   d\x7d".toList <:+: leaving.toList) ∧
    strayBlanks closed =
      ["\x7b\x7bb c\x7d\x7d", "\x7b\x7bb c\x7d\x7d", "[[a   d]]", "\x7be   f\x7d"] ∧
    ¬ "[[a   d]]".toList <:+: closed.toList ∧ ¬ "\x7be   f\x7d".toList <:+: closed.toList := by
  decide +kernel

end Template

end Agreement
