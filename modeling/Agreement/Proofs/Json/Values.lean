/- # Agreement.Proofs.Json.Values: values read back

What is written of a value reads as one tree, in either layout and whatever follows. The tree has
the members and items of the value in their order and no flaw. Only counts are conditional, since
those beyond 64 bits are no whole numbers. A finite measure reads as some number, which need not be
the same measure; one that is not finite is written as `null`, and is read as that.
-/
import Agreement.Proofs.Json.Measures
import Agreement.Json.Decoder
import Agreement.Error

namespace Agreement

open Json Number

/-! ## Blank space -/

namespace Json

section Blank

variable {text rest : List Char} {c : Char}

theorem skipBlank_cons (visible : isBlankChar c = false) : skipBlank (c :: text) = c :: text := by
  rw [skipBlank, List.dropWhile_cons_of_neg (by simp [visible])]

theorem skipBlank_append_of_blank (blank : ∀ d ∈ text, isBlankChar d = true) (rest : List Char) :
    skipBlank (text ++ rest) = skipBlank rest :=
  List.dropWhile_append_of_pos blank

theorem skipBlank_gap (layout : Layout) (depth : Nat) (rest : List Char) :
    skipBlank (layout.gap depth ++ rest) = skipBlank rest := by
  apply skipBlank_append_of_blank
  intro d hd
  cases layout with
  | compact => cases hd
  | pretty =>
      rcases List.mem_cons.mp hd with rfl | spaces
      · decide
      · rw [List.eq_of_mem_replicate spaces]
        decide

theorem skipBlank_space (layout : Layout) (rest : List Char) :
    skipBlank (layout.space ++ rest) = skipBlank rest := by
  apply skipBlank_append_of_blank
  intro d hd
  cases layout with
  | compact => cases hd
  | pretty =>
      rw [List.mem_singleton.mp hd]
      decide

end Blank

/-! ## Whole texts -/

/-- A text is read as a value if its tree is, and nothing follows. -/
theorem decode_eq_ok {ε α : Type} {d : Decoder ε α} {text : String} {a : α} :
    decode d text = .ok a ↔
      d { room := maxRoom } (readText text.toList).1 = .ok a ∧ (readText text.toList).2 = true := by
  rw [decode]
  dsimp only
  split
  · next failed => simp [failed]
  · next made =>
      rw [made]
      split
      · next alone => simp [alone]
      · next more => simp [more]

/-- Nothing follows the value of a text if blank space follows it. -/
theorem readText_eq_true {text : List Char} {t : Tree} :
    readText text = (t, true) ↔ ∃ rest,
      readValue (3 * text.length + 3) text = (t, some rest) ∧ skipBlank rest = [] := by
  rw [readText]
  split
  · next stopped => simp [stopped]
  · next left =>
      rw [left]
      simp [List.isEmpty_iff]

end Json

/-! ## Measures -/

namespace Binary32

/-- The text written for a measure reads back as the measure. -/
def ReadsBack (x : Binary32) : Prop :=
  decode (ε := Error) Decoder.measure (String.ofList x.savedText) = .ok x

instance (x : Binary32) : Decidable x.ReadsBack :=
  inferInstanceAs (Decidable (decode _ _ = _))

/-- The number that the text of a measure is read as. -/
def numeral? (x : Binary32) : Option Numeral :=
  match (readText x.savedText).1 with
  | .number n => n
  | _ => none

end Binary32

namespace Json

theorem measure_eq_ok {ε : Type} {src : Source} {t : Tree} {x : Binary32} :
    Decoder.measure (ε := ε) src t = .ok x ↔ ∃ n, t = .number (some n) ∧ n.toBinary32 = x := by
  unfold Decoder.measure
  split
  · simp
  · next other =>
      constructor
      · nofun
      · rintro ⟨n, rfl, -⟩
        exact absurd rfl (other n)

theorem isNumberChar_apart {c : Char} (h : isNumberChar c = true) :
    isBlankChar c = false ∧ c ≠ '[' ∧ c ≠ '\x7b' ∧ c ≠ ']' := by
  refine ⟨Bool.eq_false_iff.mpr fun blank => ?_, ?_, ?_, ?_⟩
  · simp only [isBlankChar, Bool.or_eq_true, beq_iff_eq] at blank
    obtain ((rfl | rfl) | rfl) | rfl := blank <;> exact absurd h (by decide)
  all_goals
    rintro rfl
    exact absurd h (by decide)

/-- Whether a character starts a value that is no array and no object. -/
theorem readValue_scalar {fuel : Nat} {c : Char} (text : List Char)
    (visible : isBlankChar c = false) (array : c ≠ '[') (object : c ≠ '\x7b') :
    readValue (fuel + 1) (c :: text) = readScalar c text := by
  rw [readValue, skipBlank_cons visible]
  split <;> simp_all

end Json

namespace Binary32

/-- The first character of a measure is one of those that numbers are written with. -/
theorem isNumberChar_of_savedText {x : Binary32} {c : Char} {text : List Char}
    (start : x.savedText = c :: text) : isNumberChar c = true :=
  isNumberChar_of_mem_savedText (start ▸ List.mem_cons_self)

theorem readValue_savedText (x : Binary32) {fuel : Nat} {rest : List Char}
    (ends : EndsNumber rest) :
    readValue (fuel + 1) (x.savedText ++ rest) = (.number x.numeral?, some rest) := by
  obtain ⟨c, text, n, start, alone⟩ := x.exists_readScalar
  obtain ⟨visible, array, object, -⟩ := isNumberChar_apart (isNumberChar_of_savedText start)
  have whole : readText x.savedText = (.number n, true) := by
    refine readText_eq_true.mpr ⟨[], ?_, rfl⟩
    rw [start, readValue_scalar text visible array object, alone]
  have numeral : x.numeral? = n := by rw [numeral?, whole]
  rw [start, List.cons_append, readValue_scalar _ visible array object, numeral]
  exact readScalar_append ends alone

/-- A measure that reads back is what its number comes to. -/
theorem ReadsBack.exists_numeral {x : Binary32} (h : x.ReadsBack) :
    ∃ n, x.numeral? = some n ∧ n.toBinary32 = x := by
  obtain ⟨made, -⟩ := decode_eq_ok.mp h
  rw [String.toList_ofList] at made
  obtain ⟨n, number, value⟩ := measure_eq_ok.mp made
  exact ⟨n, by rw [numeral?, number], value⟩

end Binary32

namespace Json

/-! ## Trees of values -/

mutual

/-- The tree that a value is read as. -/
def tree : Json → Tree
  | null => .null
  | bool b => .bool b
  | count n => .number (some (.whole n))
  | measure x => if x.isFinite then .number x.numeral? else .null
  | string s => .string (some s)
  | array items => .array (itemTrees items) none
  | object members => .object (memberTrees members) none

/-- The trees of the items of an array. -/
def itemTrees : List Json → List Tree
  | [] => []
  | item :: items => item.tree :: itemTrees items

/-- The trees of the members of an object, with their names. -/
def memberTrees : List (String × Json) → List (Option String × Tree)
  | [] => []
  | (name, value) :: members => (some name, value.tree) :: memberTrees members

end

mutual

/-- Whether the counts of a value are read as what they are: they fit into 64 bits. -/
def Legible : Json → Prop
  | count n => n ≤ maxWord
  | array items => LegibleItems items
  | object members => LegibleMembers members
  | _ => True

/-- Whether all items of an array are legible. -/
def LegibleItems : List Json → Prop
  | [] => True
  | item :: items => item.Legible ∧ LegibleItems items

/-- Whether all members of an object are legible. -/
def LegibleMembers : List (String × Json) → Prop
  | [] => True
  | (_, value) :: members => value.Legible ∧ LegibleMembers members

end

/-! ## Items and members, one at a time -/

section Steps

variable {fuel : Nat} {text rest after : List Char} {layout : Layout} {depth : Nat} {c : Char}

theorem readItems_close (first : Bool) (rest : List Char) :
    readItems (fuel + 1) first (layout.gap depth ++ ']' :: rest) = ([], none, some rest) := by
  rw [readItems, skipBlank_gap, skipBlank_cons (by decide)]
  rfl

theorem readItems_first (visible : isBlankChar c = false) (other : c ≠ ']') :
    readItems (fuel + 1) true (layout.gap depth ++ c :: text) = readItem fuel (c :: text) := by
  rw [readItems, skipBlank_gap, skipBlank_cons visible]
  simp [other]

theorem readItems_comma (visible : isBlankChar c = false) (other : c ≠ ']') :
    readItems (fuel + 1) false (',' :: (layout.gap depth ++ c :: text)) =
      readItem fuel (c :: text) := by
  rw [readItems, skipBlank_cons (by decide)]
  simp only [skipBlank_gap, skipBlank_cons visible]
  simp [other]

theorem readItem_of {t : Tree} (read : readValue fuel text = (t, some rest)) :
    readItem (fuel + 1) text =
      (t :: (readItems fuel false rest).1, (readItems fuel false rest).2) := by
  rw [readItem, read]

theorem readMembers_close (first : Bool) (rest : List Char) :
    readMembers (fuel + 1) first (layout.gap depth ++ '\x7d' :: rest) = ([], none, some rest) := by
  rw [readMembers, skipBlank_gap, skipBlank_cons (by decide)]
  rfl

theorem skipBlank_quote (name text : List Char) :
    skipBlank (quote name ++ text) = quote name ++ text :=
  skipBlank_cons (by decide)

theorem readMembers_first (name text : List Char) :
    readMembers (fuel + 1) true (layout.gap depth ++ (quote name ++ text)) =
      readMember fuel (quote name ++ text) := by
  rw [readMembers, skipBlank_gap, skipBlank_quote]
  rfl

theorem readMembers_comma (name text : List Char) :
    readMembers (fuel + 1) false (',' :: (layout.gap depth ++ (quote name ++ text))) =
      readMember fuel (quote name ++ text) := by
  rw [readMembers, skipBlank_cons (by decide)]
  simp [skipBlank_gap, skipBlank_quote]

theorem readMember_of {name : List Char} {t : Tree} (read : readValue fuel text = (t, some rest)) :
    readMember (fuel + 1) (quote name ++ ':' :: text) =
      ((some (String.ofList name), t) :: (readMembers fuel false rest).1,
        (readMembers fuel false rest).2) := by
  have start : quote name ++ ':' :: text = '"' :: (name.flatMap escape ++ '"' :: ':' :: text) := by
    simp [quote]
  rw [start, readMember, if_pos rfl, readString_quote]
  simp only [skipBlank_cons (show isBlankChar ':' = false by decide), read]
  rfl

/-- A value may have a gap in front of it. -/
theorem readValue_space (layout : Layout) (text : List Char) :
    readValue fuel (layout.space ++ text) = readValue fuel text := by
  cases fuel with
  | zero => rfl
  | succ fuel => rw [readValue, readValue, skipBlank_space]

theorem readValue_array (rest : List Char) :
    readValue (fuel + 1) ('[' :: rest) =
      (.array (readItems fuel true rest).1 (readItems fuel true rest).2.1,
        (readItems fuel true rest).2.2) := by
  rw [readValue, skipBlank_cons (by decide)]
  rfl

theorem readValue_object (rest : List Char) :
    readValue (fuel + 1) ('\x7b' :: rest) =
      (.object (readMembers fuel true rest).1 (readMembers fuel true rest).2.1,
        (readMembers fuel true rest).2.2) := by
  rw [readValue, skipBlank_cons (by decide)]
  rfl

end Steps

/-! ## Values -/

section Values

variable {rest : List Char}

/-- A value starts with a character that is no blank and closes no array. -/
theorem exists_write_eq_cons (layout : Layout) (depth : Nat) (j : Json) :
    ∃ c text, write layout depth j = c :: text ∧ isBlankChar c = false ∧ c ≠ ']' := by
  have number {c : Char} (h : isNumberChar c = true) : isBlankChar c = false ∧ c ≠ ']' :=
    ⟨(isNumberChar_apart h).1, (isNumberChar_apart h).2.2.2⟩
  have word : ∃ c text, (['n', 'u', 'l', 'l'] : List Char) = c :: text ∧
      isBlankChar c = false ∧ c ≠ ']' := ⟨_, _, rfl, by decide, by decide⟩
  match j with
  | null => exact word
  | bool true => exact ⟨_, _, rfl, by decide, by decide⟩
  | bool false => exact ⟨_, _, rfl, by decide, by decide⟩
  | count n =>
      obtain ⟨c, text, start⟩ := List.exists_cons_of_ne_nil (digitsOf_ne_nil n)
      have digit : c ∈ digitsOf n := start ▸ List.mem_cons_self
      exact ⟨c, text, start, number (isNumberChar_of_mem_digitsOf digit)⟩
  | measure x =>
      rw [write]
      split
      · obtain ⟨c, text, n, start, -⟩ := x.exists_readScalar
        exact ⟨c, text, start, number (Binary32.isNumberChar_of_savedText start)⟩
      · exact word
  | string s => exact ⟨_, _, rfl, by decide, by decide⟩
  | array [] => exact ⟨_, _, rfl, by decide, by decide⟩
  | array (item :: items) => exact ⟨_, _, rfl, by decide, by decide⟩
  | object [] => exact ⟨_, _, rfl, by decide, by decide⟩
  | object (member :: members) => exact ⟨_, _, rfl, by decide, by decide⟩

theorem endsNumber_nil : EndsNumber [] := nofun

theorem endsNumber_cons {c : Char} (h : isNumberChar c = false ∧ c ≠ 'E') :
    EndsNumber (c :: rest) := by
  intro d hd
  cases hd
  exact h

theorem endsNumber_gap (layout : Layout) (depth : Nat) {c : Char}
    (h : isNumberChar c = false ∧ c ≠ 'E') : EndsNumber (layout.gap depth ++ c :: rest) := by
  cases layout with
  | compact => exact endsNumber_cons h
  | pretty => exact endsNumber_cons (by decide)

theorem endsNumber_items (layout : Layout) (depth close : Nat) (items : List Json) :
    EndsNumber (writeItems layout depth items ++ (layout.gap close ++ ']' :: rest)) := by
  cases items with
  | nil => exact endsNumber_gap layout close (by decide)
  | cons item items => exact endsNumber_cons (by decide)

theorem endsNumber_members (layout : Layout) (depth close : Nat) (members : List (String × Json)) :
    EndsNumber (writeMembers layout depth members ++ (layout.gap close ++ '\x7d' :: rest)) := by
  cases members with
  | nil => exact endsNumber_gap layout close (by decide)
  | cons member members => exact endsNumber_cons (by decide)

theorem readValue_null {k : Nat} (rest : List Char) :
    readValue (k + 1) ('n' :: 'u' :: 'l' :: 'l' :: rest) = (.null, some rest) :=
  readValue_scalar _ (by decide) (by decide) (by decide)

theorem readValue_digitsOf {k n : Nat} (fits : n ≤ maxWord) (ends : EndsNumber rest) :
    readValue (k + 1) (digitsOf n ++ rest) = (.number (some (.whole n)), some rest) := by
  obtain ⟨c, text, start⟩ := List.exists_cons_of_ne_nil (digitsOf_ne_nil n)
  have digit : c.isDigit = true := isDigit_of_mem_digitsOf (start ▸ List.mem_cons_self)
  have numeric : isNumberChar c = true := by rw [isNumberChar, digit, Bool.true_or]
  obtain ⟨visible, array, object, -⟩ := isNumberChar_apart numeric
  have alone : readScalar c text = (.number (some (.whole n)), some []) :=
    readScalar_eq_number.mpr (.inr ⟨digit, start ▸ readMagnitude_digitsOf fits⟩)
  rw [start, List.cons_append, readValue_scalar _ visible array object]
  exact readScalar_append ends alone

theorem readValue_quote {k : Nat} (s : String) (rest : List Char) :
    readValue (k + 1) (quote s.toList ++ rest) = (.string (some s), some rest) := by
  have start : quote s.toList ++ rest = '"' :: (s.toList.flatMap escape ++ '"' :: rest) := by
    simp [quote]
  rw [start, readValue_scalar _ (by decide) (by decide) (by decide), readScalar,
    readString_quote]
  simp [leaf]

mutual

/-- **A value reads back as its tree**, whatever follows, as long as a number cannot go on. -/
theorem readValue_write (layout : Layout) (depth : Nat) (j : Json) (legible : j.Legible)
    (fuel : Nat) (rest : List Char) (ends : EndsNumber rest)
    (enough : 3 * (write layout depth j ++ rest).length ≤ fuel) :
    readValue fuel (write layout depth j ++ rest) = (j.tree, some rest) := by
  obtain ⟨c, text, start, visible, -⟩ := exists_write_eq_cons layout depth j
  obtain ⟨k, rfl⟩ : ∃ k, fuel = k + 1 := by
    rw [start, List.cons_append, List.length_cons] at enough
    exact ⟨fuel - 1, by omega⟩
  match j, legible with
  | null, _ => exact readValue_null rest
  | bool true, _ => exact readValue_scalar _ (by decide) (by decide) (by decide)
  | bool false, _ => exact readValue_scalar _ (by decide) (by decide) (by decide)
  | count n, fits => exact readValue_digitsOf fits ends
  | measure x, _ =>
      rw [write, tree]
      split
      · exact x.readValue_savedText ends
      · exact readValue_null rest
  | string s, _ => exact readValue_quote s rest
  | array [], _ =>
      have text : write layout depth (array []) ++ rest = '[' :: ']' :: rest := by simp [write]
      rw [text] at enough ⊢
      simp only [List.length_cons] at enough
      obtain ⟨m, rfl⟩ : ∃ m, k = m + 1 := ⟨k - 1, by omega⟩
      have closed : readItems (m + 1) true (']' :: rest) = ([], none, some rest) :=
        @readItems_close m .compact 0 true rest
      rw [readValue_array, closed]
      rfl
  | array (item :: items), ⟨first, others⟩ =>
      have text : write layout depth (array (item :: items)) ++ rest =
          '[' :: (layout.gap (depth + 1) ++ (write layout (depth + 1) item ++
            (writeItems layout (depth + 1) items ++ (layout.gap depth ++ ']' :: rest)))) := by
        simp [write]
      rw [text] at enough ⊢
      simp only [List.length_cons, List.length_append] at enough
      obtain ⟨m, rfl⟩ : ∃ m, k = m + 2 := ⟨k - 2, by omega⟩
      obtain ⟨c, tail, start, visible, other⟩ := exists_write_eq_cons layout (depth + 1) item
      have filled := congrArg List.length start
      rw [List.length_cons] at filled
      have read := readValue_write layout (depth + 1) item first m _
        (@endsNumber_items rest layout (depth + 1) depth items)
        (by simp only [List.length_cons, List.length_append]; omega)
      have later := readItems_writeItems layout (depth + 1) depth items others m rest
        (by simp only [List.length_cons, List.length_append]; omega)
      rw [readValue_array]
      rw [start, List.cons_append, readItems_first visible other, ← List.cons_append, ← start,
        readItem_of read, later]
      rfl
  | object [], _ =>
      have text : write layout depth (object []) ++ rest = '\x7b' :: '\x7d' :: rest := by
        simp [write]
      rw [text] at enough ⊢
      simp only [List.length_cons] at enough
      obtain ⟨m, rfl⟩ : ∃ m, k = m + 1 := ⟨k - 1, by omega⟩
      have closed : readMembers (m + 1) true ('\x7d' :: rest) = ([], none, some rest) :=
        @readMembers_close m .compact 0 true rest
      rw [readValue_object, closed]
      rfl
  | object ((name, value) :: members), ⟨first, others⟩ =>
      have text : write layout depth (object ((name, value) :: members)) ++ rest =
          '\x7b' :: (layout.gap (depth + 1) ++ (quote name.toList ++ ':' :: (layout.space ++
            (write layout (depth + 1) value ++ (writeMembers layout (depth + 1) members ++
              (layout.gap depth ++ '\x7d' :: rest)))))) := by
        simp [write, writeMember]
      rw [text] at enough ⊢
      simp only [List.length_cons, List.length_append] at enough
      obtain ⟨m, rfl⟩ : ∃ m, k = m + 2 := ⟨k - 2, by omega⟩
      have read := readValue_write layout (depth + 1) value first m _
        (@endsNumber_members rest layout (depth + 1) depth members)
        (by simp only [List.length_cons, List.length_append]; omega)
      have later := readMembers_writeMembers layout (depth + 1) depth members others m rest
        (by simp only [List.length_cons, List.length_append]; omega)
      rw [← readValue_space layout] at read
      rw [readValue_object, readMembers_first, readMember_of read, later, String.ofList_toList]
      rfl

/-- The items after the first one read back, up to the bracket that closes their array. -/
theorem readItems_writeItems (layout : Layout) (depth close : Nat) (items : List Json)
    (legible : LegibleItems items) (fuel : Nat) (rest : List Char)
    (enough : 3 * (writeItems layout depth items ++ (layout.gap close ++ ']' :: rest)).length + 2
      ≤ fuel) :
    readItems fuel false (writeItems layout depth items ++ (layout.gap close ++ ']' :: rest)) =
      (itemTrees items, none, some rest) := by
  match items, legible with
  | [], _ =>
      obtain ⟨k, rfl⟩ : ∃ k, fuel = k + 1 := ⟨fuel - 1, by omega⟩
      exact readItems_close false rest
  | item :: items, ⟨first, others⟩ =>
      obtain ⟨k, rfl⟩ : ∃ k, fuel = k + 2 := ⟨fuel - 2, by omega⟩
      obtain ⟨c, tail, start, visible, other⟩ := exists_write_eq_cons layout depth item
      have filled := congrArg List.length start
      rw [List.length_cons] at filled
      have text : writeItems layout depth (item :: items) ++ (layout.gap close ++ ']' :: rest) =
          ',' :: (layout.gap depth ++ (write layout depth item ++
            (writeItems layout depth items ++ (layout.gap close ++ ']' :: rest)))) := by
        simp [writeItems]
      rw [text] at enough ⊢
      simp only [List.length_cons, List.length_append] at enough
      have read := readValue_write layout depth item first k _
        (@endsNumber_items rest layout depth close items)
        (by simp only [List.length_cons, List.length_append]; omega)
      have later := readItems_writeItems layout depth close items others k rest
        (by simp only [List.length_cons, List.length_append]; omega)
      rw [start, List.cons_append, readItems_comma visible other, ← List.cons_append, ← start,
        readItem_of read, later]
      rfl

/-- The members after the first one read back, up to the brace that closes their object. -/
theorem readMembers_writeMembers (layout : Layout) (depth close : Nat)
    (members : List (String × Json)) (legible : LegibleMembers members) (fuel : Nat)
    (rest : List Char)
    (enough : 3 * (writeMembers layout depth members ++ (layout.gap close ++ '\x7d' :: rest)).length
      + 2 ≤ fuel) :
    readMembers fuel false
        (writeMembers layout depth members ++ (layout.gap close ++ '\x7d' :: rest)) =
      (memberTrees members, none, some rest) := by
  match members, legible with
  | [], _ =>
      obtain ⟨k, rfl⟩ : ∃ k, fuel = k + 1 := ⟨fuel - 1, by omega⟩
      exact readMembers_close false rest
  | (name, value) :: members, ⟨first, others⟩ =>
      obtain ⟨k, rfl⟩ : ∃ k, fuel = k + 2 := ⟨fuel - 2, by omega⟩
      have text : writeMembers layout depth ((name, value) :: members) ++
          (layout.gap close ++ '\x7d' :: rest) =
          ',' :: (layout.gap depth ++ (quote name.toList ++ ':' :: (layout.space ++
            (write layout depth value ++ (writeMembers layout depth members ++
              (layout.gap close ++ '\x7d' :: rest)))))) := by
        simp [writeMembers, writeMember]
      rw [text] at enough ⊢
      simp only [List.length_cons, List.length_append] at enough
      have read := readValue_write layout depth value first k _
        (@endsNumber_members rest layout depth close members)
        (by simp only [List.length_cons, List.length_append]; omega)
      have later := readMembers_writeMembers layout depth close members others k rest
        (by simp only [List.length_cons, List.length_append]; omega)
      rw [← readValue_space layout] at read
      rw [readMembers_comma, readMember_of read, later, String.ofList_toList]
      rfl

end

/-- A written text reads as the tree of its value, with nothing left over. -/
theorem readText_write (layout : Layout) {j : Json} (legible : j.Legible) :
    readText (write layout 0 j) = (j.tree, true) := by
  have read := readValue_write layout 0 j legible (3 * (write layout 0 j).length + 3) []
    endsNumber_nil (by rw [List.append_nil]; omega)
  rw [List.append_nil] at read
  exact readText_eq_true.mpr ⟨[], read, rfl⟩

/-- **Reading a written text is reading its tree**, in either layout. -/
theorem decode_text_eq_ok {ε α : Type} {d : Decoder ε α} (layout : Layout) {j : Json}
    (legible : j.Legible) {a : α} :
    decode d (j.text layout) = .ok a ↔ d { room := maxRoom } j.tree = .ok a := by
  rw [decode_eq_ok, text, String.toList_ofList, readText_write layout legible]
  simp

end Values

/-! ## Trees and legibility of lists -/

theorem itemTrees_eq_map (items : List Json) : itemTrees items = items.map tree := by
  induction items with
  | nil => rfl
  | cons item items ih => rw [itemTrees, ih, List.map_cons]

theorem legibleItems_iff {items : List Json} :
    LegibleItems items ↔ ∀ item ∈ items, item.Legible := by
  induction items with
  | nil => simp [LegibleItems]
  | cons item items ih => rw [LegibleItems, ih, List.forall_mem_cons]

theorem legibleMembers_iff {members : List (String × Json)} :
    LegibleMembers members ↔ ∀ m ∈ members, m.2.Legible := by
  induction members with
  | nil => simp [LegibleMembers]
  | cons member members ih => rw [LegibleMembers, ih, List.forall_mem_cons]

end Json

end Agreement
