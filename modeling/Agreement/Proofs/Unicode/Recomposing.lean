/- # Agreement.Proofs.Unicode.Recomposing: the normal form of a normal form

A normal form is its own normal form. Composing can be undone: what the joined text decomposes to,
with its marks in order, is what was joined. So joining it again gives the same text, and composing
never changes how many characters a text decomposes into.
-/
import Agreement.Proofs.Unicode.Composing
import Mathlib.Data.List.Chain

namespace Agreement.Unicode

/-! ## Ordered text -/

/-- No mark stands behind a mark of a higher class. -/
def IsOrdered (text : List Char) : Prop :=
  text.IsChain fun a b => combiningClass b = 0 ∨ combiningClass a ≤ combiningClass b

/-- A character in front of ordered text is already in its place. -/
theorem insertMark_of_isOrdered {c : Char} {text : List Char} (h : IsOrdered (c :: text)) :
    insertMark c text = c :: text := by
  cases text with
  | nil => rfl
  | cons d rest =>
      have placed := (List.isChain_cons_cons.mp h).1
      rw [insertMark, if_neg]
      omega

/-- Ordering leaves ordered text as it is. -/
theorem orderMarks_of_isOrdered {text : List Char} (h : IsOrdered text) :
    orderMarks text = text := by
  induction text with
  | nil => rfl
  | cons c rest ih =>
      have step : orderMarks (c :: rest) = insertMark c (orderMarks rest) := rfl
      rw [step, ih h.tail, insertMark_of_isOrdered h]

theorem IsOrdered.insertMark (c : Char) {text : List Char} (h : IsOrdered text) :
    IsOrdered (insertMark c text) := by
  induction text with
  | nil => exact .singleton c
  | cons d rest ih =>
      rw [Unicode.insertMark]
      split
      · next passes =>
          -- behind `d` comes `c`, which is of a higher class, or what came before
          refine List.isChain_cons.mpr ⟨?_, ih h.tail⟩
          intro next first
          cases rest with
          | nil =>
              obtain rfl : c = next := by simpa [Unicode.insertMark] using first
              exact .inr (Nat.le_of_lt passes.2)
          | cons e rest =>
              rw [Unicode.insertMark] at first
              split at first
              · obtain rfl : e = next := by simpa using first
                exact (List.isChain_cons_cons.mp h).1
              · obtain rfl : c = next := by simpa using first
                exact .inr (Nat.le_of_lt passes.2)
      · next stays =>
          refine List.isChain_cons_cons.mpr ⟨?_, h⟩
          omega

/-- Ordering gives ordered text. -/
theorem isOrdered_orderMarks (text : List Char) : IsOrdered (orderMarks text) := by
  induction text with
  | nil => exact .nil
  | cons c rest ih => exact ih.insertMark c

theorem length_insertMark (c : Char) (text : List Char) :
    (insertMark c text).length = text.length + 1 := by
  induction text with
  | nil => rfl
  | cons d rest ih =>
      rw [insertMark]
      split
      · rw [List.length_cons, ih, List.length_cons]
      · rfl

theorem length_orderMarks (text : List Char) : (orderMarks text).length = text.length := by
  induction text with
  | nil => rfl
  | cons c rest ih =>
      have step : orderMarks (c :: rest) = insertMark c (orderMarks rest) := rfl
      rw [step, length_insertMark, ih, List.length_cons]

/-- What stands behind counts for the order only by its own order. -/
theorem orderMarks_append_congr (a : List Char) {b b' : List Char}
    (h : orderMarks b = orderMarks b') : orderMarks (a ++ b) = orderMarks (a ++ b') := by
  rw [orderMarks, List.foldr_append, orderMarks, List.foldr_append]
  exact congrArg (fun tail => a.foldr insertMark tail) h

/-- Marks of different classes may be put in their places in either order. -/
theorem insertMark_comm {m c : Char} (mark : combiningClass m ≠ 0)
    (lower : combiningClass m < combiningClass c) (text : List Char) :
    insertMark c (insertMark m text) = insertMark m (insertMark c text) := by
  induction text with
  | nil => simp [insertMark, mark, lower, Nat.not_lt_of_gt lower]
  | cons d rest ih =>
      by_cases past_m : combiningClass d ≠ 0 ∧ combiningClass d < combiningClass m
      · -- both move past `d`
        have past_c : combiningClass d ≠ 0 ∧ combiningClass d < combiningClass c :=
          ⟨past_m.1, Nat.lt_trans past_m.2 lower⟩
        rw [insertMark, if_pos past_m, insertMark, if_pos past_c, insertMark, if_pos past_c,
          insertMark, if_pos past_m, ih]
      · -- `m` stays in front of `d`, whatever `c` does
        rw [insertMark, if_neg past_m, insertMark, if_pos ⟨mark, lower⟩]
        by_cases past_c : combiningClass d ≠ 0 ∧ combiningClass d < combiningClass c
        · rw [insertMark, if_pos past_c, insertMark, if_neg past_m]
        · rw [insertMark, if_neg past_c, insertMark, if_neg (by omega)]

/-- A mark may be written before marks of lower classes as well as behind them. -/
theorem orderMarks_cons_append {c : Char} {marks : List Char}
    (lower : ∀ m ∈ marks, combiningClass m ≠ 0 ∧ combiningClass m < combiningClass c)
    (text : List Char) : orderMarks (c :: marks ++ text) = orderMarks (marks ++ c :: text) := by
  induction marks with
  | nil => rfl
  | cons m marks ih =>
      obtain ⟨⟨mark, below⟩, later⟩ := List.forall_mem_cons.mp lower
      calc orderMarks (c :: m :: marks ++ text)
          = insertMark c (insertMark m (orderMarks (marks ++ text))) := rfl
        _ = insertMark m (orderMarks (c :: marks ++ text)) := insertMark_comm mark below _
        _ = orderMarks (m :: marks ++ c :: text) := by rw [ih later]; rfl

/-! ## Decomposed text -/

/-- A text decomposed all the way, its marks in order. -/
def decomposed (text : List Char) : List Char := orderMarks (text.flatMap decompose)

/-- Decomposed text: nothing in it decomposes, and its marks are in order. -/
structure IsDecomposed (text : List Char) : Prop where
  whole : ∀ c ∈ text, decompose c = [c]
  ordered : IsOrdered text

theorem isDecomposed_decomposed (text : List Char) : IsDecomposed (decomposed text) where
  whole := by
    intro c hc
    obtain ⟨d, -, part⟩ := List.mem_flatMap.mp (mem_orderMarks.mp hc)
    exact decompose_of_mem_decompose part
  ordered := isOrdered_orderMarks _

theorem flatMap_decompose_of_whole {text : List Char} (whole : ∀ c ∈ text, decompose c = [c]) :
    text.flatMap decompose = text := by
  induction text with
  | nil => rfl
  | cons c rest ih =>
      obtain ⟨first, later⟩ := List.forall_mem_cons.mp whole
      rw [List.flatMap_cons, first, ih later, List.singleton_append]

theorem IsDecomposed.decomposed_eq {text : List Char} (h : IsDecomposed text) :
    decomposed text = text := by
  rw [decomposed, flatMap_decompose_of_whole h.whole, orderMarks_of_isOrdered h.ordered]

theorem decomposed_append_congr (a : List Char) {b b' : List Char}
    (h : decomposed b = decomposed b') : decomposed (a ++ b) = decomposed (a ++ b') := by
  rw [decomposed, decomposed, List.flatMap_append, List.flatMap_append]
  exact orderMarks_append_congr _ h

/-! ## Joined text comes apart again -/

/-- The marks that stand between a letter and what may join it: latest first, and none of them
behind a mark of a higher class. -/
structure Between (marks rest : List Char) : Prop where
  mark : ∀ m ∈ marks, combiningClass m ≠ 0
  whole : ∀ c ∈ marks.reverse ++ rest, decompose c = [c]
  ordered : IsOrdered (marks.reverse ++ rest)

namespace Between

variable {marks rest : List Char} {c : Char}

/-- Marks before a free character are of lower classes. -/
theorem lower_of_isFree (h : Between marks (c :: rest)) (free : isFree c marks = true) :
    ∀ m ∈ marks, combiningClass m ≠ 0 ∧ combiningClass m < combiningClass c := by
  cases marks with
  | nil => simp
  | cons last earlier =>
      have below : combiningClass last < combiningClass c := by simpa [isFree] using free
      have ordered := (List.isChain_append.mp h.ordered).1
      rw [List.isChain_reverse] at ordered
      -- classes only rise towards the last mark, which is below `c`
      have rising : (last :: earlier).IsChain fun a b => combiningClass b ≤ combiningClass a := by
        refine ordered.imp_of_mem_imp ?_
        intro a b ha hb placed
        exact placed.resolve_left (h.mark a ha)
      intro m hm
      refine ⟨h.mark m hm, ?_⟩
      rcases List.mem_cons.mp hm with rfl | before
      · exact below
      · have pairwise := List.isChain_iff_pairwise.mp rising
        exact Nat.lt_of_le_of_lt (List.rel_of_pairwise_cons pairwise before) below

/-- What a free character leaves behind when it joins the letter. -/
theorem skip (h : Between marks (c :: rest)) (free : isFree c marks = true) :
    Between marks rest where
  mark := h.mark
  whole := by
    intro d hd
    refine h.whole d ?_
    simp only [List.mem_append, List.mem_cons] at hd ⊢
    exact hd.imp_right .inr
  ordered := by
    obtain ⟨before, after, joint⟩ := List.isChain_append.mp h.ordered
    refine List.isChain_append.mpr ⟨before, after.tail, ?_⟩
    intro last at_end next at_start
    have member : last ∈ marks := List.mem_reverse.mp (List.mem_of_getLast? at_end)
    have below := (h.lower_of_isFree free last member).2
    obtain ⟨rest', rfl⟩ := List.head?_eq_some_iff.mp at_start
    rcases (List.isChain_cons_cons.mp after).1 with starts | above
    · exact .inl starts
    · exact .inr (by omega)

/-- One more mark. -/
theorem push (h : Between marks (c :: rest)) (is_mark : combiningClass c ≠ 0) :
    Between (c :: marks) rest where
  mark := List.forall_mem_cons.mpr ⟨is_mark, h.mark⟩
  whole := by simpa using h.whole
  ordered := by simpa using h.ordered

/-- A new letter. -/
theorem letter (h : Between marks (c :: rest)) : Between [] rest where
  mark := by simp
  whole := by
    intro d hd
    exact h.whole d (List.mem_append_right _ (List.mem_cons_of_mem c hd))
  ordered := (List.isChain_append.mp h.ordered).2.1.tail

end Between

/-- Joining from a letter on can be undone. -/
theorem decomposed_joinFrom (letter : Char) {marks rest : List Char} (h : Between marks rest) :
    decomposed (joinFrom letter marks rest) = decomposed (letter :: marks.reverse ++ rest) := by
  induction rest generalizing letter marks with
  | nil => rw [joinFrom, List.append_nil]
  | cons c rest ih =>
      cases found : (if isFree c marks then composite letter c else none) with
      | some joined =>
          have free : isFree c marks = true := by
            by_contra blocked
            rw [if_neg blocked] at found
            cases found
          rw [if_pos free] at found
          have whole (text : List Char) (part : ∀ d ∈ text, d ∈ marks.reverse ++ c :: rest) :
              text.flatMap decompose = text :=
            flatMap_decompose_of_whole fun d hd => h.whole d (part d hd)
          have marks_whole := whole marks.reverse fun d => List.mem_append_left _
          have c_whole : decompose c = [c] :=
            h.whole c (List.mem_append_right _ List.mem_cons_self)
          -- the composite comes apart in front of the marks, where `c` may stand as well
          have moved := @orderMarks_cons_append c marks.reverse
            (fun m hm => h.lower_of_isFree free m (List.mem_reverse.mp hm))
            (rest.flatMap decompose)
          rw [joinFrom, if_pos free, found]
          dsimp only
          rw [ih joined (h.skip free)]
          simp only [decomposed, List.cons_append, List.flatMap_cons, List.flatMap_append,
            decompose_of_composite found, marks_whole, c_whole, List.append_assoc]
          exact orderMarks_append_congr _ moved
      | none =>
          rw [joinFrom, found]
          dsimp only
          by_cases starts : combiningClass c = 0
          · rw [if_pos starts]
            apply decomposed_append_congr
            rw [ih c h.letter]
            rfl
          · rw [if_neg starts, ih letter (h.push starts)]
            simp

/-- Joining can be undone. -/
theorem decomposed_join {text : List Char} (h : IsDecomposed text) :
    decomposed (join text) = text := by
  have undone : decomposed (join text) = decomposed text := by
    induction text with
    | nil => rfl
    | cons c rest ih =>
        have later : IsDecomposed rest :=
          ⟨fun d hd => h.whole d (List.mem_cons_of_mem c hd), h.ordered.tail⟩
        rw [join]
        split
        · exact decomposed_joinFrom c ⟨by simp, later.whole, later.ordered⟩
        · exact decomposed_append_congr [c] (ih later)
  rw [undone, h.decomposed_eq]

/-- What a composed text decomposes to is what the text decomposes to. -/
theorem decomposed_compose (text : List Char) : decomposed (compose text) = decomposed text :=
  decomposed_join (isDecomposed_decomposed text)

theorem compose_compose (text : List Char) : compose (compose text) = compose text :=
  congrArg join (decomposed_compose text)

/-- **A normal form is its own normal form.** -/
theorem normalize_normalize (text : List Char) : normalize (normalize text) = normalize text := by
  by_cases alone : text.all standsAlone = true
  · rw [normalize_of_all_standsAlone alone, normalize_of_all_standsAlone alone]
  · have composed : normalize text = compose text := by rw [normalize, if_neg alone]
    rcases normalize_eq (compose text) with same | again
    · rw [composed, same]
    · rw [composed, again, compose_compose]

/-- The number of characters that a text decomposes into. -/
def decomposedLength (text : List Char) : Nat := (text.flatMap decompose).length

theorem decomposedLength_append (a b : List Char) :
    decomposedLength (a ++ b) = decomposedLength a + decomposedLength b := by
  rw [decomposedLength, List.flatMap_append, List.length_append]
  rfl

/-- The normal form of a text decomposes into as many characters as the text. -/
theorem decomposedLength_normalize (text : List Char) :
    decomposedLength (normalize text) = decomposedLength text := by
  rcases normalize_eq text with same | composed
  · rw [same]
  · have lengths := congrArg List.length (decomposed_compose text)
    rw [decomposed, length_orderMarks, decomposed, length_orderMarks] at lengths
    rw [composed]
    exact lengths

theorem decompose_ne_nil (c : Char) : decompose c ≠ [] := by
  cases blank : isSpace c with
  | true =>
      obtain ⟨s, -, eq⟩ := exists_decompose_eq_singleton blank
      rw [eq]
      exact List.cons_ne_nil s []
  | false =>
      obtain ⟨d, part, -⟩ := isVisible_decompose blank
      exact List.ne_nil_of_mem part

theorem length_le_decomposedLength (text : List Char) : text.length ≤ decomposedLength text := by
  induction text with
  | nil => exact Nat.zero_le _
  | cons c rest ih =>
      have one := List.length_pos_iff.mpr (decompose_ne_nil c)
      have split : decomposedLength (c :: rest) = (decompose c).length + decomposedLength rest := by
        rw [decomposedLength, List.flatMap_cons, List.length_append]
        rfl
      rw [List.length_cons, split]
      omega

theorem decomposedLength_space : decomposedLength [' '] = 1 := by
  rw [decomposedLength, List.flatMap_singleton, decompose_space]
  rfl

/-- A part that decomposes into as many characters as the whole is the whole. -/
theorem eq_nil_of_decomposedLength_le {a part b : List Char}
    (h : decomposedLength (a ++ part ++ b) ≤ decomposedLength part) : a = [] ∧ b = [] := by
  have before := length_le_decomposedLength a
  have behind := length_le_decomposedLength b
  rw [decomposedLength_append, decomposedLength_append] at h
  exact ⟨List.length_eq_zero_iff.mp (by omega), List.length_eq_zero_iff.mp (by omega)⟩

end Agreement.Unicode
