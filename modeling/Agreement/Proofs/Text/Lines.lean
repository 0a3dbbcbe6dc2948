/- # Agreement.Proofs.Text.Lines: lines and the ends of a text

A text is cut into lines at its line feeds, so no line has one, and a text that holds anything has a
line. Trimming cuts off the blank space at both ends and nothing else, and what it leaves has a
visible character at either end.
-/
import Agreement.Proofs.Text.Words
import Mathlib.Data.List.Induction

namespace Agreement.Text

/-! ## Lines -/

theorem mem_of_mem_splitOn {c sep : Char} {text piece : List Char}
    (hp : piece ∈ text.splitOn sep) (hc : c ∈ piece) : c ∈ text := by
  rw [← @List.intercalate_splitOn Char text _ _ sep]
  generalize text.splitOn sep = pieces at hp
  induction pieces with
  | nil => cases hp
  | cons first rest ih =>
      cases rest with
      | nil =>
          obtain rfl := List.mem_singleton.mp hp
          rwa [List.intercalate_singleton]
      | cons next rest =>
          rw [List.intercalate_cons_cons]
          rcases List.mem_cons.mp hp with rfl | later
          · exact List.mem_append_left _ (List.mem_append_left _ hc)
          · exact List.mem_append_right _ (ih later)

theorem exists_mem_splitOn {c sep : Char} {text : List Char} (hc : c ∈ text) (other : c ≠ sep) :
    ∃ piece ∈ text.splitOn sep, c ∈ piece := by
  rw [← @List.intercalate_splitOn Char text _ _ sep] at hc
  exact (of_mem_intercalate hc).resolve_left other

theorem not_mem_of_mem_splitOn {sep : Char} {text piece : List Char}
    (h : piece ∈ text.splitOn sep) : sep ∉ piece := by
  intro inside
  rw [List.splitOn_eq_splitOnP] at h
  have other := eq_false_of_mem_splitOnP h inside
  simp at other

theorem not_mem_of_mem_lines {text line : List Char} (h : line ∈ lines text) : '\n' ∉ line := by
  unfold lines at h
  dsimp only at h
  rcases List.mem_append.mp h with ended | last
  · obtain ⟨piece, member, rfl⟩ := List.mem_map.mp ended
    have absent := not_mem_of_mem_splitOn ((List.dropLast_sublist _).mem member)
    unfold dropReturn
    split
    · exact fun inside => absent ((List.dropLast_sublist _).mem inside)
    · exact absent
  · split at last
    · cases last
    · obtain rfl := List.mem_singleton.mp last
      cases at_end : (text.splitOn '\n').getLast? with
      | none => simp
      | some piece => exact not_mem_of_mem_splitOn (List.mem_of_getLast? at_end)

/-- A text that holds anything has a line. -/
theorem lines_ne_nil {text : List Char} (h : text ≠ []) : lines text ≠ [] := by
  intro none_left
  unfold lines at none_left
  dsimp only at none_left
  obtain ⟨no_ended, no_last⟩ := List.append_eq_nil_iff.mp none_left
  have one := List.map_eq_nil_iff.mp no_ended
  have joined := @List.intercalate_splitOn Char text _ _ '\n'
  -- all there is would be one piece without anything in it
  rcases List.eq_nil_or_concat (text.splitOn '\n') with none_at_all | ⟨front, piece, eq⟩
  · exact List.splitOn_ne_nil '\n' text none_at_all
  · rw [eq, List.concat_eq_append, List.dropLast_concat] at one
    rw [eq, one, List.concat_eq_append, List.nil_append] at no_last joined
    rw [List.intercalate_singleton] at joined
    subst joined
    simp [h] at no_last

/-! ## Trimmed text -/

/-- Text without blank space at its ends. -/
structure IsTrimmed (text : List Char) : Prop where
  first : ∀ c ∈ text.head?, Unicode.isSpace c = false
  last : ∀ c ∈ text.getLast?, Unicode.isSpace c = false

theorem isSpace_of_head?_dropWhile {text : List Char} {c : Char}
    (h : c ∈ (text.dropWhile Unicode.isSpace).head?) : Unicode.isSpace c = false := by
  have stops := List.head?_dropWhile_not Unicode.isSpace text
  rw [Option.mem_def.mp h] at stops
  exact stops

theorem exists_dropWhile (text : List Char) : ∃ front, isBlank front = true ∧
    text = front ++ text.dropWhile Unicode.isSpace :=
  ⟨text.takeWhile Unicode.isSpace,
    List.all_eq_true.mpr fun _ hc => List.mem_takeWhile_imp (p := Unicode.isSpace) hc,
    List.takeWhile_append_dropWhile.symm⟩

/-- Trimming cuts off blank space at the ends, and all of it. -/
theorem exists_trim (text : List Char) : ∃ front back, isBlank front = true ∧
    isBlank back = true ∧ text = front ++ trim text ++ back ∧ IsTrimmed (trim text) := by
  obtain ⟨front, blank_front, eq⟩ := exists_dropWhile text
  obtain ⟨back, blank_back, eq'⟩ := exists_dropWhile (trimLeft text).reverse
  have split : trimLeft text = trim text ++ back.reverse := by
    have turned := congrArg List.reverse eq'
    rwa [List.reverse_reverse, List.reverse_append] at turned
  refine ⟨front, back.reverse, blank_front, ?_, ?_, ?_, ?_⟩
  · simpa [isBlank] using blank_back
  · rw [List.append_assoc, ← split]
    exact eq
  · intro c hc
    -- the first character is the first one behind the blank space at the start
    apply @isSpace_of_head?_dropWhile text
    rw [← trimLeft, split, List.head?_append, Option.mem_def.mp hc]
    rfl
  · intro c hc
    rw [trim, trimRight, List.getLast?_reverse] at hc
    exact isSpace_of_head?_dropWhile hc

theorem trim_eq_self_iff {text : List Char} : trim text = text ↔ IsTrimmed text := by
  obtain ⟨front, back, blank_front, blank_back, eq, trimmed⟩ := exists_trim text
  constructor
  · intro same
    rwa [same] at trimmed
  · intro ends
    have no_front : front = [] := by
      cases front with
      | nil => rfl
      | cons c front =>
          have space := List.all_eq_true.mp blank_front c List.mem_cons_self
          rw [ends.first c (by rw [eq]; rfl)] at space
          cases space
    have no_back : back = [] := by
      cases back using List.reverseRecOn with
      | nil => rfl
      | append_singleton back c =>
          have space := List.all_eq_true.mp blank_back c (by simp)
          rw [ends.last c (by rw [eq, ← List.append_assoc, List.getLast?_concat]; rfl)] at space
          cases space
    rw [no_front, no_back, List.nil_append, List.append_nil] at eq
    exact eq.symm

theorem mem_of_mem_trim {c : Char} {text : List Char} (h : c ∈ trim text) : c ∈ text := by
  obtain ⟨front, back, -, -, eq, -⟩ := exists_trim text
  rw [eq]
  exact List.mem_append_left _ (List.mem_append_right _ h)

/-- Trimming loses nothing but blank space. -/
theorem mem_trim_iff {c : Char} {text : List Char} (visible : Unicode.isSpace c = false) :
    c ∈ trim text ↔ c ∈ text := by
  refine ⟨mem_of_mem_trim, ?_⟩
  intro hc
  obtain ⟨front, back, blank_front, blank_back, eq, -⟩ := exists_trim text
  have not_blank {s : List Char} (blank : isBlank s = true) : c ∉ s := by
    intro inside
    have space := List.all_eq_true.mp blank c inside
    rw [visible] at space
    cases space
  rw [eq, List.mem_append, List.mem_append] at hc
  exact (hc.resolve_right (not_blank blank_back)).resolve_left (not_blank blank_front)

/-- Text without blank space stays. -/
theorem trim_of_all_visible {text : List Char} (h : ∀ c ∈ text, Unicode.isSpace c = false) :
    trim text = text := by
  apply trim_eq_self_iff.mpr
  constructor
  · intro c hc
    exact h c (List.mem_of_mem_head? hc)
  · intro c hc
    exact h c (List.mem_of_mem_getLast? hc)

end Agreement.Text
