/- # Agreement.Proofs.Text.Words: what the words of a text are

Words are cut at blank space, so a space between two texts keeps their words apart, and a text has
words as soon as it holds anything else than blank space. Joined by single spaces, words are cut
apart again and can be counted by counting spaces.
-/
import Agreement.Text
import Mathlib.Data.List.TakeWhile

namespace Agreement.Text

open Unicode

/-- The code points of blank space. -/
def blankCodes : List Nat :=
  [0x20, 0x09, 0x0A, 0x0B, 0x0C, 0x0D, 0x85, 0xA0, 0x1680, 0x2000, 0x2001, 0x2002, 0x2003, 0x2004,
    0x2005, 0x2006, 0x2007, 0x2008, 0x2009, 0x200A, 0x2028, 0x2029, 0x202F, 0x205F, 0x3000]

theorem toNat_mem_blankCodes {c : Char} (h : isSpace c = true) : c.toNat ∈ blankCodes := by
  simp only [isSpace, Bool.or_eq_true, Bool.and_eq_true, beq_iff_eq, decide_eq_true_eq] at h
  simp only [blankCodes, List.mem_cons, List.not_mem_nil, or_false]
  omega

theorem words_append_cons {c : Char} (h : isSpace c = true) (a b : List Char) :
    words (a ++ c :: b) = words a ++ words b := by
  rw [words, words, words, List.splitOnP_append_cons a b h, List.filter_append]

/-- The first character of a word that is cut from a text. -/
theorem words_cons_ne_nil {c : Char} (h : isSpace c = false) (rest : List Char) :
    words (c :: rest) ≠ [] := by
  rw [words, List.splitOnP_cons_eq_if_modifyHead, h]
  cases pieces : rest.splitOnP isSpace with
  | nil => exact absurd pieces (List.splitOnP_ne_nil _ _)
  | cons piece pieces => simp

/-- A text of one sort of characters, of which it has at least one. -/
def IsRunOf (p : Char → Bool) (text : List Char) : Prop := text ≠ [] ∧ ∀ c ∈ text, p c = true

instance (p : Char → Bool) (text : List Char) : Decidable (IsRunOf p text) :=
  decidable_of_iff (text ≠ [] ∧ text.all p = true) (and_congr_right fun _ => List.all_eq_true)

theorem IsRunOf.imp {p q : Char → Bool} {text : List Char} (h : IsRunOf p text)
    (all : ∀ c, p c = true → q c = true) : IsRunOf q text :=
  ⟨h.1, fun c hc => all c (h.2 c hc)⟩

theorem IsRunOf.reverse {p : Char → Bool} {text : List Char} (h : IsRunOf p text) :
    IsRunOf p text.reverse :=
  ⟨by simpa using h.1, fun c hc => h.2 c (List.mem_reverse.mp hc)⟩

/-- Whether a text holds anything but blank space. -/
def IsVisible (text : List Char) : Prop := ∃ c ∈ text, isSpace c = false

theorem isVisible_iff {text : List Char} : IsVisible text ↔ isBlank text = false := by
  simp [IsVisible, isBlank]

/-- Text that is visible has words. -/
theorem IsVisible.words_ne_nil {text : List Char} (h : IsVisible text) : words text ≠ [] := by
  obtain ⟨c, member, visible⟩ := h
  obtain ⟨before, after, rfl⟩ := List.append_of_mem member
  induction before with
  | nil => exact words_cons_ne_nil visible after
  | cons d before ih =>
      rw [List.cons_append]
      cases space : isSpace d with
      -- blank space in front is cut off, anything else starts a word
      | true =>
          rw [← List.nil_append (d :: _), words_append_cons space]
          simpa using ih (by simp)
      | false => exact words_cons_ne_nil space _

/-- No piece of a text that is cut at some characters holds one of them. -/
theorem eq_false_of_mem_splitOnP {p : Char → Bool} {text piece : List Char} {c : Char}
    (member : piece ∈ text.splitOnP p) (hc : c ∈ piece) : p c = false := by
  induction text generalizing piece with
  | nil => simp_all
  | cons d rest ih =>
      rw [List.splitOnP_cons_eq_if_modifyHead] at member
      cases cut : p d with
      | true =>
          rw [if_pos cut] at member
          rcases List.mem_cons.mp member with rfl | later
          · cases hc
          · exact ih later hc
      | false =>
          rw [if_neg (by simp [cut])] at member
          obtain ⟨first, later, pieces⟩ :=
            List.exists_cons_of_ne_nil (List.splitOnP_ne_nil p rest)
          rw [pieces, List.modifyHead_cons] at member
          rcases List.mem_cons.mp member with rfl | member
          · rcases List.mem_cons.mp hc with rfl | hc
            · exact cut
            · exact ih (by rw [pieces]; exact List.mem_cons_self) hc
          · exact ih (by rw [pieces]; exact List.mem_cons_of_mem first member) hc

/-- No word holds blank space. -/
theorem isSpace_of_mem_words {text w : List Char} {c : Char} (hw : w ∈ words text) (hc : c ∈ w) :
    isSpace c = false :=
  eq_false_of_mem_splitOnP (List.mem_filter.mp hw).1 hc

/-- A word is a run of visible characters. -/
theorem isRunOf_of_mem_words {text w : List Char} (hw : w ∈ words text) :
    IsRunOf (!isSpace ·) w :=
  ⟨ne_nil_of_mem_words hw, fun c hc => by simp [isSpace_of_mem_words hw hc]⟩

/-- Words lose nothing of a text but blank space. -/
theorem flatten_words (text : List Char) : (words text).flatten = text.filter (!isSpace ·) := by
  rw [words, List.flatten_filter_not_isEmpty]
  induction text with
  | nil => rfl
  | cons c rest ih =>
      obtain ⟨first, later, pieces⟩ :=
        List.exists_cons_of_ne_nil (List.splitOnP_ne_nil isSpace rest)
      rw [List.splitOnP_cons_eq_if_modifyHead]
      cases space : isSpace c with
      | true => simpa [space] using ih
      | false =>
          rw [pieces] at ih
          simpa [space, pieces] using ih

/-- A text that has a word is visible. -/
theorem isVisible_of_mem_words {text w : List Char} (hw : w ∈ words text) : IsVisible text := by
  obtain ⟨c, rest, eq⟩ := List.exists_cons_of_ne_nil (ne_nil_of_mem_words hw)
  have kept : c ∈ (words text).flatten :=
    List.mem_flatten_of_mem hw (by rw [eq]; exact List.mem_cons_self)
  rw [flatten_words] at kept
  exact ⟨c, (List.mem_filter.mp kept).1, by simpa using (List.mem_filter.mp kept).2⟩

theorem exists_mem_words {text : List Char} {c : Char} (hc : c ∈ text)
    (visible : isSpace c = false) : ∃ w ∈ words text, c ∈ w := by
  have kept : c ∈ (words text).flatten := by
    rw [flatten_words]
    exact List.mem_filter.mpr ⟨hc, by simp [visible]⟩
  exact List.mem_flatten.mp kept

theorem of_mem_intercalate {ws : List (List Char)} {sep c : Char}
    (h : c ∈ [sep].intercalate ws) : c = sep ∨ ∃ w ∈ ws, c ∈ w := by
  induction ws with
  | nil => cases h
  | cons w rest ih =>
      cases rest with
      | nil => exact .inr ⟨w, List.mem_cons_self, by rwa [List.intercalate_singleton] at h⟩
      | cons next rest =>
          rw [List.intercalate_cons_cons, List.mem_append, List.mem_append,
            List.mem_singleton] at h
          rcases h with (inside | space) | later
          · exact .inr ⟨w, List.mem_cons_self, inside⟩
          · exact .inl space
          · rcases ih later with space | ⟨v, hv, inside⟩
            · exact .inl space
            · exact .inr ⟨v, List.mem_cons_of_mem w hv, inside⟩

/-- A text without blank space is one word. -/
theorem words_of_isRunOf {w : List Char} (h : IsRunOf (!isSpace ·) w) : words w = [w] := by
  rw [words, List.splitOnP_eq_singleton fun c hc => by simpa using h.2 c hc]
  simpa using h.1

/-- Induction over the words of a text: blank space, or the last word, or a word before blank
space. -/
theorem word_induction {motive : List Char → Prop} (nil : motive [])
    (last : ∀ w, IsRunOf (!isSpace ·) w → motive w)
    (blank : ∀ s rest, isSpace s = true → motive rest → motive (s :: rest))
    (word : ∀ w s rest, IsRunOf (!isSpace ·) w → isSpace s = true → motive rest →
      motive (w ++ s :: rest)) (text : List Char) : motive text := by
  induction size : text.length using Nat.strong_induction_on generalizing text with
  | _ d ih =>
      have split : text.takeWhile (!isSpace ·) ++ text.dropWhile (!isSpace ·) = text :=
        List.takeWhile_append_dropWhile
      have visible : ∀ c ∈ text.takeWhile (!isSpace ·), (!isSpace c) = true :=
        fun c hc => List.mem_takeWhile_imp (p := (!isSpace ·)) hc
      cases behind : text.dropWhile (!isSpace ·) with
      | nil =>
          rw [behind, List.append_nil] at split
          rw [← split]
          cases front : text.takeWhile (!isSpace ·) with
          | nil => exact nil
          | cons c w =>
              rw [front] at visible
              exact last _ ⟨List.cons_ne_nil c w, visible⟩
      | cons s rest =>
          have space : isSpace s = true := by
            have stops := List.head_dropWhile_not (!isSpace ·) (l := text) (by simp [behind])
            simpa [behind] using stops
          rw [behind] at split
          have shorter : motive rest := by
            refine ih _ ?_ rest rfl
            rw [← size, ← split, List.length_append, List.length_cons]
            omega
          rw [← split]
          cases front : text.takeWhile (!isSpace ·) with
          | nil => exact blank s rest space shorter
          | cons c w =>
              rw [front] at visible
              exact word _ s rest ⟨List.cons_ne_nil c w, visible⟩ space shorter

/-- Words without blank space that are joined by spaces are the words of that text. -/
theorem words_intercalate {ws : List (List Char)} (h : ∀ w ∈ ws, IsRunOf (!isSpace ·) w) :
    words ([' '].intercalate ws) = ws := by
  induction ws with
  | nil => simp
  | cons w rest ih =>
      obtain ⟨run, later⟩ := List.forall_mem_cons.mp h
      have one := words_of_isRunOf run
      cases rest with
      | nil => rw [List.intercalate_singleton, one]
      | cons next rest =>
          rw [List.intercalate_cons_cons, List.append_assoc, List.singleton_append,
            words_append_cons (by decide), one, ih later, List.singleton_append]

/-- Words that are joined by spaces stay apart. -/
theorem length_le_length_words {f : List Char → List Char}
    (apart : ∀ a b, f (a ++ ' ' :: b) = f a ++ ' ' :: f b)
    (visible : ∀ w, IsVisible w → IsVisible (f w)) {ws : List (List Char)}
    (h : ∀ w ∈ ws, IsVisible w) : ws.length ≤ (words (f ([' '].intercalate ws))).length := by
  induction ws with
  | nil => simp
  | cons w rest ih =>
      cases rest with
      | nil =>
          have := (visible w (h w List.mem_cons_self)).words_ne_nil
          rw [List.intercalate_singleton]
          exact List.length_pos_iff.mpr this
      | cons next rest =>
          -- the first part has a word at least, and the space keeps it apart from the others
          have first := (visible w (h w List.mem_cons_self)).words_ne_nil
          have later := ih fun v hv => h v (List.mem_cons_of_mem w hv)
          have step := List.length_pos_iff.mpr first
          rw [List.intercalate_cons_cons, List.append_assoc, List.singleton_append, apart,
            words_append_cons (by decide), List.length_append]
          simp only [List.length_cons] at later ⊢
          omega

/-- Words that hold no space are one more than the spaces that join them. -/
theorem count_intercalate {ws : List (List Char)} (ne : ws ≠ []) (h : ∀ w ∈ ws, ' ' ∉ w) :
    ([' '].intercalate ws).count ' ' + 1 = ws.length := by
  induction ws with
  | nil => exact absurd rfl ne
  | cons w rest ih =>
      have none_inside : w.count ' ' = 0 := List.count_eq_zero.mpr (h w List.mem_cons_self)
      cases rest with
      | nil => simp [none_inside]
      | cons next rest =>
          have later := ih (List.cons_ne_nil _ _) fun v hv => h v (List.mem_cons_of_mem w hv)
          rw [List.intercalate_cons_cons, List.count_append, List.count_append, none_inside]
          simp only [List.length_cons, List.count_singleton_self] at later ⊢
          omega

end Agreement.Text
