/- # Agreement.Proofs.Unicode.Composing: normal forms and blank space

Composing a text never joins anything with blank space, so it acts on the parts before and after
blank space separately, and it turns no visible character into blank space. Both rest on the
tables: blank space decomposes into blank space alone and takes part in no composition, and what
visible characters decompose or compose to is visible. The tables say more: it is not made of Hebrew
letters alone.
-/
import Agreement.Proofs.Text.Words
import Agreement.Proofs.Unicode.Tables

namespace Agreement.Unicode

open Text

/-! ## What the tables say of Hebrew letters and blank space -/

/-- A Hebrew letter without points. -/
def isHebrew (c : Char) : Bool := 0x5D0 ≤ c.toNat && c.toNat ≤ 0x5EA

/-- A Hebrew letter without points, or blank space. -/
def isBare (c : Char) : Bool := isHebrew c || isSpace c

theorem isSpace_of_isBare {c : Char} (h : isBare c = false) : isSpace c = false :=
  (Bool.or_eq_false_iff.mp h).2

/-- The code points of blank space and of Hebrew letters without points. -/
def bareCodes : List Nat := blankCodes ++ List.range' 0x5D0 27

theorem toNat_mem_bareCodes {c : Char} (h : isBare c = true) : c.toNat ∈ bareCodes := by
  rw [bareCodes, List.mem_append]
  rcases Bool.or_eq_true_iff.mp h with letter | blank
  · simp only [isHebrew, Bool.and_eq_true, decide_eq_true_eq] at letter
    exact .inr (List.mem_range'_1.mpr (by omega))
  · exact .inl (toNat_mem_blankCodes blank)

/-- A class of characters is told from its code points. -/
theorem eq_false_of_testBit {p : Char → Bool} {codes : List Nat}
    (listed : ∀ c, p c = true → c.toNat ∈ codes) {n : Nat} (valid : n.isValidChar)
    (h : (bitsOf codes).testBit n = false) : p (Char.ofNat n) = false := by
  cases is_p : p (Char.ofNat n) with
  | false => rfl
  | true =>
      have code := listed _ is_p
      rw [toNat_ofNat valid] at code
      rw [← h, testBit_bitsOf code]

/-- What a visible character decomposes into is visible, and not made of Hebrew letters alone. -/
theorem decompositions_bare : ∀ row ∈ decompositions,
    ((∃ part ∈ row.2, (bitsOf bareCodes).testBit part = false) ∧
      ∀ part ∈ row.2, (bitsOf blankCodes).testBit part = false) ∨
    isSpace (Char.ofNat row.1) = true := by
  decide +kernel

/-- No composite is a Hebrew letter or blank, and no blank space is part of one. -/
theorem compositions_bare : ∀ row ∈ compositions, (bitsOf blankCodes).testBit row.1 = false ∧
    (bitsOf blankCodes).testBit row.2.1 = false ∧ (bitsOf bareCodes).testBit row.2.2 = false := by
  decide +kernel

/-- Blank space is of class zero and decomposes into blank space alone. -/
theorem blankCodes_checked : ∀ n ∈ blankCodes, isTabled n = true ∧
    classIn combiningClasses n = 0 ∧
      ∃ m ∈ blankCodes, isSpace (Char.ofNat m) = true ∧ partsOf n = some [m] := by
  decide +kernel

/-- Hangul letters and syllables are neither Hebrew nor blank. -/
theorem isBare_ofNat_eq_false {n : Nat}
    (h : (0x1100 ≤ n ∧ n ≤ 0x11FF) ∨ (0xAC00 ≤ n ∧ n < 0xD800)) :
    isBare (Char.ofNat n) = false := by
  have value : (Char.ofNat n).toNat = n := toNat_ofNat (.inl (by omega))
  simp only [isBare, isHebrew, isSpace, value, Bool.or_eq_false_iff, Bool.and_eq_false_iff,
    beq_eq_false_iff_ne, decide_eq_false_iff_not]
  omega

/-! ## Visible characters stay visible -/

/-- A visible character stays as it is, or has a part that is neither Hebrew nor blank. -/
theorem decompose_eq_or {c : Char} (h : isSpace c = false) :
    decompose c = [c] ∨ ∃ d ∈ decompose c, isBare d = false := by
  unfold decompose
  split
  · next syllable =>
      refine .inr ⟨Char.ofNat (0x1100 + (c.toNat - 0xAC00) / 588), ?_, isBare_ofNat_eq_false ?_⟩
      · simp only [hangulParts]
        split <;> simp
      · left
        omega
  · cases found : rowIn decompositions c.toNat with
    | none => exact .inl rfl
    | some parts =>
        rcases decompositions_bare _ (mem_of_rowIn found) with ⟨⟨part, member, other⟩, -⟩ | space
        · have tabled := (decompositions_checked _ (mem_of_rowIn found) part member).1
          refine .inr ⟨Char.ofNat part, List.mem_map_of_mem member, ?_⟩
          exact eq_false_of_testBit (fun _ => toNat_mem_bareCodes) (isTabled_iff.mp tabled).1 other
        · rw [Char.ofNat_toNat, h] at space
          cases space

theorem isVisible_decompose {c : Char} (h : isSpace c = false) : IsVisible (decompose c) := by
  rcases decompose_eq_or h with alone | ⟨d, member, other⟩
  · rw [alone]
    exact ⟨c, List.mem_singleton_self c, h⟩
  · exact ⟨d, member, isSpace_of_isBare other⟩

theorem isBare_of_composite {a b c : Char} (h : composite a b = some c) : isBare c = false := by
  unfold composite at h
  obtain ⟨n, found, rfl⟩ := Option.map_eq_some_iff.mp h
  rcases Option.or_eq_some_iff.mp found with hangul | ⟨-, row⟩
  -- a Hangul composite is a syllable by its code point
  · refine isBare_ofNat_eq_false (.inr ?_)
    unfold hangulComposite at hangul
    split at hangul
    · have := Option.some.inj hangul
      omega
    · split at hangul
      · have := Option.some.inj hangul
        omega
      · cases hangul
  · have valid := (isTabled_iff.mp (compositions_checked _ (mem_of_compositeIn row)).2.1).1
    have other := (compositions_bare _ (mem_of_compositeIn row)).2.2
    exact eq_false_of_testBit (fun _ => toNat_mem_bareCodes) valid other

theorem mem_insertMark {c d : Char} {text : List Char} :
    d ∈ insertMark c text ↔ d = c ∨ d ∈ text := by
  induction text with
  | nil => simp [insertMark]
  | cons e rest ih =>
      rw [insertMark]
      split
      · rw [List.mem_cons, ih, List.mem_cons]
        exact or_left_comm
      · exact List.mem_cons

theorem mem_orderMarks {d : Char} {text : List Char} : d ∈ orderMarks text ↔ d ∈ text := by
  induction text with
  | nil => rfl
  | cons c rest ih =>
      rw [List.mem_cons, ← ih]
      exact mem_insertMark

/-- What joining does with the next character, whatever follows: it composes with the letter, or is
the next letter, or one more mark. -/
theorem joinFrom_cons (letter : Char) (marks : List Char) (c : Char) :
    (∃ joined, composite letter c = some joined ∧
      ∀ rest, joinFrom letter marks (c :: rest) = joinFrom joined marks rest) ∨
    (combiningClass c = 0 ∧ ∀ rest, joinFrom letter marks (c :: rest) =
      letter :: marks.reverse ++ joinFrom c [] rest) ∨
    (combiningClass c ≠ 0 ∧
      ∀ rest, joinFrom letter marks (c :: rest) = joinFrom letter (c :: marks) rest) := by
  cases found : (if isFree c marks then composite letter c else none) with
  | some joined =>
      refine .inl ⟨joined, ?_, fun rest => by rw [joinFrom, found]⟩
      split at found
      · exact found
      · cases found
  | none =>
      by_cases starts : combiningClass c = 0
      · exact .inr (.inl ⟨starts, fun rest => by rw [joinFrom, found]; exact if_pos starts⟩)
      · exact .inr (.inr ⟨starts, fun rest => by rw [joinFrom, found]; exact if_neg starts⟩)

/-- Joining keeps something of a sort that all composites are of: every other character stays. -/
theorem exists_mem_joinFrom {p : Char → Prop} (composed : ∀ {a b c}, composite a b = some c → p c)
    {letter : Char} {marks text : List Char} (h : ∃ c ∈ letter :: marks ++ text, p c) :
    ∃ c ∈ joinFrom letter marks text, p c := by
  induction text generalizing letter marks with
  | nil =>
      obtain ⟨c, member, sort⟩ := h
      exact ⟨c, by simpa [joinFrom] using member, sort⟩
  | cons c rest ih =>
      obtain ⟨d, member, sort⟩ := h
      rcases joinFrom_cons letter marks c with ⟨joined, made, eq⟩ | ⟨-, eq⟩ | ⟨-, eq⟩
      · rw [eq]
        exact ih ⟨joined, List.mem_cons_self, composed made⟩
      · -- the letter and its marks are written, and `c` is the next letter
        rw [eq]
        rcases List.mem_append.mp member with written | ahead
        · refine ⟨d, List.mem_append_left _ ?_, sort⟩
          simpa using written
        · obtain ⟨e, member, sort⟩ := @ih c [] ⟨d, ahead, sort⟩
          exact ⟨e, List.mem_append_right _ member, sort⟩
      · rw [eq]
        -- one more mark is behind the letter, and nothing is lost
        refine ih ⟨d, ?_, sort⟩
        simp only [List.cons_append, List.mem_cons, List.mem_append] at member ⊢
        grind

theorem isVisible_joinFrom {letter : Char} {marks text : List Char}
    (h : IsVisible (letter :: marks ++ text)) : IsVisible (joinFrom letter marks text) :=
  exists_mem_joinFrom (fun made => isSpace_of_isBare (isBare_of_composite made)) h

theorem isVisible_join {text : List Char} (h : IsVisible text) : IsVisible (join text) := by
  induction text with
  | nil => exact h
  | cons c rest ih =>
      rw [join]
      split
      · exact isVisible_joinFrom h
      · obtain ⟨d, member, visible⟩ := h
        rcases List.mem_cons.mp member with rfl | later
        · exact ⟨d, List.mem_cons_self, visible⟩
        · obtain ⟨e, member, visible⟩ := ih ⟨d, later, visible⟩
          exact ⟨e, List.mem_cons_of_mem c member, visible⟩

theorem isVisible_compose {text : List Char} (h : IsVisible text) : IsVisible (compose text) := by
  obtain ⟨c, member, visible⟩ := h
  obtain ⟨d, part, visible⟩ := isVisible_decompose visible
  exact isVisible_join ⟨d, mem_orderMarks.mpr (List.mem_flatMap.mpr ⟨c, member, part⟩), visible⟩

/-! ## Blank space stays blank, and nothing else becomes blank -/

theorem isSpace_of_mem_decompose {c d : Char} (h : isSpace c = false) (part : d ∈ decompose c) :
    isSpace d = false := by
  unfold decompose at part
  split at part
  · next syllable =>
      obtain ⟨n, jamo, rfl⟩ := List.mem_map.mp part
      apply isSpace_of_isBare
      apply isBare_ofNat_eq_false
      have := jamo_of_mem_hangulParts (by omega) jamo
      omega
  · cases found : rowIn decompositions c.toNat with
    | none =>
        rw [found] at part
        obtain rfl : d = c := by simpa using part
        exact h
    | some parts =>
        rw [found] at part
        obtain ⟨n, member, rfl⟩ := List.mem_map.mp part
        rcases decompositions_bare _ (mem_of_rowIn found) with ⟨-, visible⟩ | space
        · have tabled := (decompositions_checked _ (mem_of_rowIn found) n member).1
          exact eq_false_of_testBit (fun _ => toNat_mem_blankCodes) (isTabled_iff.mp tabled).1
            (visible n member)
        · rw [Char.ofNat_toNat, h] at space
          cases space

/-- What joining writes was there before or is a composite. -/
theorem mem_joinFrom {letter : Char} {marks text : List Char} {d : Char}
    (h : d ∈ joinFrom letter marks text) :
    d ∈ letter :: marks ++ text ∨ ∃ a b, composite a b = some d := by
  induction text generalizing letter marks with
  | nil => exact .inl (by simpa [joinFrom] using h)
  | cons c rest ih =>
      rcases joinFrom_cons letter marks c with ⟨joined, made, eq⟩ | ⟨-, eq⟩ | ⟨-, eq⟩
      · rw [eq] at h
        rcases ih h with before | composed
        · rw [List.cons_append, List.mem_cons] at before
          rcases before with rfl | before
          · exact .inr ⟨letter, c, made⟩
          · left
            simp only [List.cons_append, List.mem_cons, List.mem_append] at before ⊢
            grind
        · exact .inr composed
      · rw [eq] at h
        rcases List.mem_append.mp h with written | ahead
        · exact .inl (List.mem_append_left _ (by simpa using written))
        · rcases ih ahead with before | composed
          · exact .inl (List.mem_append_right _ before)
          · exact .inr composed
      · rw [eq] at h
        rcases ih h with before | composed
        · left
          simp only [List.cons_append, List.mem_cons, List.mem_append] at before ⊢
          grind
        · exact .inr composed

theorem mem_join {text : List Char} {d : Char} (h : d ∈ join text) :
    d ∈ text ∨ ∃ a b, composite a b = some d := by
  induction text with
  | nil => exact .inl h
  | cons c rest ih =>
      rw [join] at h
      split at h
      · exact mem_joinFrom h
      · rcases List.mem_cons.mp h with rfl | later
        · exact .inl List.mem_cons_self
        · rcases ih later with before | composed
          · exact .inl (List.mem_cons_of_mem c before)
          · exact .inr composed

/-- Composing writes nothing blank where nothing was blank. -/
theorem isSpace_of_mem_compose {text : List Char} (h : ∀ c ∈ text, isSpace c = false) {d : Char}
    (hd : d ∈ compose text) : isSpace d = false := by
  rcases mem_join hd with before | ⟨a, b, made⟩
  · obtain ⟨c, hc, part⟩ := List.mem_flatMap.mp (mem_orderMarks.mp before)
    exact isSpace_of_mem_decompose (h c hc) part
  · exact isSpace_of_isBare (isBare_of_composite made)

/-! ## Blank space keeps what stands around it apart -/

section Blank

variable {s : Char}

theorem combiningClass_of_isSpace (h : isSpace s = true) : combiningClass s = 0 :=
  (blankCodes_checked _ (toNat_mem_blankCodes h)).2.1

theorem exists_decompose_eq_singleton (h : isSpace s = true) :
    ∃ s', isSpace s' = true ∧ decompose s = [s'] := by
  obtain ⟨tabled, -, m, -, blank, parts⟩ := blankCodes_checked _ (toNat_mem_blankCodes h)
  refine ⟨Char.ofNat m, blank, ?_⟩
  have decomposed := decompose_of_partsOf tabled parts
  rwa [Char.ofNat_toNat] at decomposed

theorem decompose_space : decompose ' ' = [' '] := by decide

/-- Blank space composes with nothing before or after it. -/
theorem composite_eq_none_of_isSpace {a b : Char} (h : isSpace a = true ∨ isSpace b = true) :
    composite a b = none := by
  have code : a.toNat ∈ blankCodes ∨ b.toNat ∈ blankCodes :=
    h.imp toNat_mem_blankCodes toNat_mem_blankCodes
  have no_hangul : hangulComposite a.toNat b.toNat = none := by
    have below : ∀ n ∈ blankCodes, n < 0x1100 ∨ 0x1200 ≤ n ∧ n < 0xAC00 := by decide
    rw [hangulComposite]
    rcases code with first | second
    · have := below _ first
      rw [if_neg (by omega), if_neg (by omega)]
    · have := below _ second
      rw [if_neg (by omega), if_neg (by omega)]
  have no_row : compositeIn compositions a.toNat b.toNat = none := by
    cases found : compositeIn compositions a.toNat b.toNat with
    | none => rfl
    | some composite =>
        obtain ⟨first, second, -⟩ := compositions_bare _ (mem_of_compositeIn found)
        rcases code with code | code
        · rw [testBit_bitsOf code] at first
          cases first
        · rw [testBit_bitsOf code] at second
          cases second
  rw [composite, no_hangul, no_row]
  rfl

theorem insertMark_append_blank (h : isSpace s = true) (c : Char) (a b : List Char) :
    insertMark c (a ++ s :: b) = insertMark c a ++ s :: b := by
  induction a with
  | nil =>
      have stops : insertMark c (s :: b) = c :: s :: b := by
        rw [insertMark, if_neg (by simp [combiningClass_of_isSpace h])]
      exact stops
  | cons d a ih =>
      rw [List.cons_append, insertMark, insertMark]
      split
      · rw [ih]
        rfl
      · rfl

theorem orderMarks_append_blank (h : isSpace s = true) (a b : List Char) :
    orderMarks (a ++ s :: b) = orderMarks a ++ s :: orderMarks b := by
  induction a with
  -- blank space has class zero, so it passes no mark and no mark passes it
  | nil =>
      have front (text : List Char) : insertMark s text = s :: text := by
        cases text with
        | nil => rfl
        | cons d text => rw [insertMark, if_neg (by rw [combiningClass_of_isSpace h]; omega)]
      exact front (orderMarks b)
  | cons c a ih =>
      have step (text : List Char) : orderMarks (c :: text) = insertMark c (orderMarks text) := rfl
      rw [List.cons_append, step, step, ih, insertMark_append_blank h]

/-- Blank space is a letter that joins with no mark. -/
theorem joinFrom_blank (h : isSpace s = true) (marks text : List Char) :
    joinFrom s marks text = s :: marks.reverse ++ join text := by
  induction text generalizing marks with
  | nil => simp [joinFrom, join]
  | cons c rest ih =>
      rcases joinFrom_cons s marks c with ⟨joined, composed, -⟩ | ⟨starts, eq⟩ | ⟨mark, eq⟩
      · rw [composite_eq_none_of_isSpace (.inl h)] at composed
        cases composed
      · rw [eq, join, if_pos starts]
      · rw [eq, ih, join, if_neg mark]
        simp

theorem joinFrom_append_blank (h : isSpace s = true) (letter : Char) (marks a b : List Char) :
    joinFrom letter marks (a ++ s :: b) = joinFrom letter marks a ++ s :: join b := by
  induction a generalizing letter marks with
  | nil =>
      -- blank space does not compose and is no mark, so it starts the next letter
      rcases joinFrom_cons letter marks s with ⟨joined, composed, -⟩ | ⟨-, eq⟩ | ⟨mark, -⟩
      · rw [composite_eq_none_of_isSpace (.inr h)] at composed
        cases composed
      · rw [List.nil_append, eq, joinFrom_blank h]
        rfl
      · exact absurd (combiningClass_of_isSpace h) mark
  | cons c a ih =>
      rw [List.cons_append]
      rcases joinFrom_cons letter marks c with ⟨joined, -, eq⟩ | ⟨-, eq⟩ | ⟨-, eq⟩
      · rw [eq, eq, ih]
      · rw [eq, eq, ih, List.append_assoc]
      · rw [eq, eq, ih]

theorem join_append_blank (h : isSpace s = true) (a b : List Char) :
    join (a ++ s :: b) = join a ++ s :: join b := by
  induction a with
  | nil =>
      have starts : join (s :: b) = joinFrom s [] b := by
        rw [join, if_pos (combiningClass_of_isSpace h)]
      exact starts.trans (joinFrom_blank h [] b)
  | cons c a ih =>
      rw [List.cons_append, join, join]
      split
      · exact joinFrom_append_blank h c [] a b
      · rw [ih]
        rfl

theorem compose_append_blank {s' : Char} (h : isSpace s' = true) (parts : decompose s = [s'])
    (a b : List Char) : compose (a ++ s :: b) = compose a ++ s' :: compose b := by
  rw [compose, List.flatMap_append, List.flatMap_cons, parts, List.singleton_append,
    orderMarks_append_blank h, join_append_blank h]
  rfl

end Blank

theorem compose_append_space (a b : List Char) :
    compose (a ++ ' ' :: b) = compose a ++ ' ' :: compose b :=
  compose_append_blank (by decide) decompose_space a b

/-! ## Normal forms -/

/-- A normal form is the text itself or its composition. -/
theorem normalize_eq (text : List Char) :
    normalize text = text ∨ normalize text = compose text := by
  unfold normalize
  split
  · exact .inl rfl
  · exact .inr rfl

theorem isVisible_normalize {text : List Char} (h : IsVisible text) :
    IsVisible (normalize text) := by
  rcases normalize_eq text with same | composed
  · rw [same]
    exact h
  · rw [composed]
    exact isVisible_compose h

/-- Normalizing words that are joined by spaces leaves at least as many words. -/
theorem length_le_length_words_normalize {ws : List (List Char)} (h : ∀ w ∈ ws, IsVisible w) :
    ws.length ≤ (words (normalize ([' '].intercalate ws))).length := by
  rcases normalize_eq ([' '].intercalate ws) with same | composed
  · rw [same]
    exact length_le_length_words (f := id) (fun _ _ => rfl) (fun _ visible => visible) h
  · rw [composed]
    exact length_le_length_words compose_append_space (fun _ => isVisible_compose) h

end Agreement.Unicode
