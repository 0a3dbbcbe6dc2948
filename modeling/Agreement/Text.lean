/- # Agreement.Text: cutting text

Scans work on `List Char`, where a position is a suffix and every definition is a recursion on the
text itself. This module has the cuts that they share: blank space off the ends, words, lines, and
the search for a pattern.
-/
import Agreement.Unicode.Character

namespace Agreement.Text

open Unicode

/-- Whether a text has nothing but blank space. -/
def isBlank (text : List Char) : Bool := text.all isSpace

/-- Text without the blank space at its start. -/
def trimLeft (text : List Char) : List Char := text.dropWhile isSpace

/-- Text without the blank space at its end. -/
def trimRight (text : List Char) : List Char := (text.reverse.dropWhile isSpace).reverse

/-- Text without the blank space at its ends. -/
def trim (text : List Char) : List Char := trimRight (trimLeft text)

/-- The maximal runs of characters other than blank space, in order. -/
def words (text : List Char) : List (List Char) :=
  (text.splitOnP isSpace).filter (!·.isEmpty)

/-- A line that a line feed ended, without the carriage return before the line feed. -/
def dropReturn (line : List Char) : List Char :=
  if line.getLast? = some '\r' then line.dropLast else line

/-- The lines of a text, without their ends. Text that ends with a line feed has no empty line
after it. -/
def lines (text : List Char) : List (List Char) :=
  let pieces := text.splitOn '\n'
  let last := pieces.getLast?.getD []
  pieces.dropLast.map dropReturn ++ if last.isEmpty then [] else [last]

/-- The text before and after the first `sep`. -/
def splitOnce (sep : Char) (text : List Char) : Option (List Char × List Char) :=
  match text.dropWhile (· != sep) with
  | [] => none
  | _ :: rest => some (text.takeWhile (· != sep), rest)

/-- The text before and after the first place where a character stands twice in a row. -/
def cutAtPair (c : Char) : List Char → Option (List Char × List Char)
  | [] => none
  | d :: rest =>
    if d = c ∧ rest.head? = some c then some ([], rest.tail)
    else (cutAtPair c rest).map fun p => (d :: p.1, p.2)

/-- The text from the first occurrence of a pattern on. -/
def startingAt? (pattern : List Char) : List Char → Option (List Char)
  | [] => if pattern.isEmpty then some [] else none
  | c :: rest =>
    if pattern.isPrefixOf (c :: rest) then some (c :: rest) else startingAt? pattern rest

/-- Whether a pattern stands somewhere in a text. -/
def occursIn (pattern text : List Char) : Bool := (startingAt? pattern text).isSome

/-- The matches of a pattern from left to right, none overlapping another. The pattern gives the
length of its match at the start of a text; `skip` characters still belong to the last match. -/
def matchesFrom (pattern : List Char → Option Nat) : (skip : Nat) → List Char → List (List Char)
  | _, [] => []
  | skip + 1, _ :: rest => matchesFrom pattern skip rest
  | 0, c :: rest =>
    match pattern (c :: rest) with
    | some n => (c :: rest).take n :: matchesFrom pattern (n - 1) rest
    | none => matchesFrom pattern 0 rest

/-- The text with each match of a pattern replaced. -/
def replaceFrom (pattern : List Char → Option Nat) (filler : List Char) :
    (skip : Nat) → List Char → List Char
  | _, [] => []
  | skip + 1, _ :: rest => replaceFrom pattern filler skip rest
  | 0, c :: rest =>
    match pattern (c :: rest) with
    | some n => filler ++ replaceFrom pattern filler (n - 1) rest
    | none => c :: replaceFrom pattern filler 0 rest

/-- The number of bytes of a text in UTF-8. -/
def byteLength : List Char → Nat
  | [] => 0
  | c :: text => c.utf8Size + byteLength text

/-! ## Small facts -/

@[simp] theorem trim_nil : trim [] = [] := rfl

@[simp] theorem words_nil : words [] = [] := by simp [words]

@[simp] theorem byteLength_nil : byteLength [] = 0 := rfl

@[simp] theorem byteLength_cons (c : Char) (text : List Char) :
    byteLength (c :: text) = c.utf8Size + byteLength text := rfl

@[simp] theorem byteLength_append (a b : List Char) :
    byteLength (a ++ b) = byteLength a + byteLength b := by
  induction a with
  | nil => simp
  | cons c a ih => simp [ih, Nat.add_assoc]

/-- A cut loses nothing but the pair. -/
theorem eq_of_cutAtPair {c : Char} {text before after : List Char}
    (h : cutAtPair c text = some (before, after)) : text = before ++ c :: c :: after := by
  induction text generalizing before with
  | nil => simp [cutAtPair] at h
  | cons d rest ih =>
      rw [cutAtPair] at h
      split at h
      · next pair =>
          obtain ⟨rfl, next⟩ := pair
          obtain ⟨tail, rfl⟩ := List.head?_eq_some_iff.mp next
          simp only [Option.some.injEq, Prod.mk.injEq, List.tail_cons] at h
          simp [← h.1, ← h.2]
      · obtain ⟨⟨a, b⟩, found, same⟩ := Option.map_eq_some_iff.mp h
        simp only [Prod.mk.injEq] at same
        obtain ⟨rfl, rfl⟩ := same
        simp [← ih found]

/-- No word is empty. -/
theorem ne_nil_of_mem_words {text w : List Char} (h : w ∈ words text) : w ≠ [] := by
  simp only [words, List.mem_filter, Bool.not_eq_true', List.isEmpty_eq_false_iff] at h
  exact h.2

end Agreement.Text
