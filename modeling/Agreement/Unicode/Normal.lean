/- # Agreement.Unicode.Normal: composed normal form

Two spellings of one text, say a letter with a point and a single precomposed character, count as
the same word. `compose` brings a text to its composed normal form in three steps: every character
is decomposed all the way, the marks on each letter are put in order of their combining classes,
and letters are joined with the marks that follow them wherever a primary composite exists.

Hangul syllables are decomposed and composed by arithmetic, everything else by table. Text whose
characters all stand alone is its own normal form, and `normalize` hands it back at once.
-/
import Agreement.Unicode.CombiningClass
import Agreement.Unicode.Decomposition
import Agreement.Unicode.Composition

namespace Agreement.Unicode

/-! ## Tables -/

/-- The combining class that a sorted table of ranges gives a code point. -/
def classIn : List (Nat × Nat × Nat) → Nat → Nat
  | [], _ => 0
  | (first, last, k) :: rest, c =>
    if c < first then 0 else if c ≤ last then k else classIn rest c

/-- The canonical combining class; zero for letters and everything else that is no mark. -/
def combiningClass (c : Char) : Nat := classIn combiningClasses c.toNat

/-- The row of a code point in a table sorted by code point. -/
def rowIn {α : Type} : List (Nat × α) → Nat → Option α
  | [], _ => none
  | (key, value) :: rest, c =>
    if c < key then none else if c = key then some value else rowIn rest c

/-- The composite of two code points in a table sorted by the first of them. -/
def compositeIn : List (Nat × Nat × Nat) → Nat → Nat → Option Nat
  | [], _, _ => none
  | (first, second, composite) :: rest, a, b =>
    if a < first then none
    else if a = first ∧ b = second then some composite
    else compositeIn rest a b

/-! ## Hangul syllables -/

/-- The conjoining parts of a Hangul syllable, counted from the first syllable. -/
def hangulParts (syllable : Nat) : List Nat :=
  let leading := 0x1100 + syllable / 588
  let vowel := 0x1161 + syllable % 588 / 28
  let trailing := syllable % 28
  if trailing = 0 then [leading, vowel] else [leading, vowel, 0x11A7 + trailing]

/-- The Hangul syllable that two code points make: a leading consonant with a vowel, or an open
syllable with a trailing consonant. -/
def hangulComposite (a b : Nat) : Option Nat :=
  if 0x1100 ≤ a ∧ a ≤ 0x1112 ∧ 0x1161 ≤ b ∧ b ≤ 0x1175 then
    some (0xAC00 + (a - 0x1100) * 588 + (b - 0x1161) * 28)
  else if 0xAC00 ≤ a ∧ a ≤ 0xD7A3 ∧ (a - 0xAC00) % 28 = 0 ∧ 0x11A8 ≤ b ∧ b ≤ 0x11C2 then
    some (a + (b - 0x11A7))
  else none

/-! ## The three steps -/

/-- The full canonical decomposition of one character. -/
def decompose (c : Char) : List Char :=
  if 0xAC00 ≤ c.toNat ∧ c.toNat ≤ 0xD7A3 then (hangulParts (c.toNat - 0xAC00)).map Char.ofNat
  else match rowIn decompositions c.toNat with
    | some parts => parts.map Char.ofNat
    | none => [c]

/-- The primary composite of two characters, if there is one. -/
def composite (a b : Char) : Option Char :=
  ((hangulComposite a.toNat b.toNat).or (compositeIn compositions a.toNat b.toNat)).map Char.ofNat

/-- Puts a character in front of ordered text: a mark moves past the marks of a lower class. -/
def insertMark (c : Char) : List Char → List Char
  | [] => [c]
  | d :: rest =>
    if combiningClass d ≠ 0 ∧ combiningClass d < combiningClass c then d :: insertMark c rest
    else c :: d :: rest

/-- Canonical order: the marks between two letters ascend by class, equals keeping their order. -/
def orderMarks (text : List Char) : List Char := text.foldr insertMark []

/-- Whether a character may join the letter before the marks, latest first, that stand between. It
is blocked when the last of them has the same or a higher class. -/
def isFree (c : Char) : List Char → Bool
  | [] => true
  | m :: _ => combiningClass m < combiningClass c

/-- Joins ordered text. `letter` is the last character of class zero and `marks` what followed it
and did not join, latest first. -/
def joinFrom (letter : Char) (marks : List Char) : List Char → List Char
  | [] => letter :: marks.reverse
  | c :: rest =>
    match if isFree c marks then composite letter c else none with
    | some joined => joinFrom joined marks rest
    | none =>
      -- class zero ends what the letter can still join with
      if combiningClass c = 0 then letter :: marks.reverse ++ joinFrom c [] rest
      else joinFrom letter (c :: marks) rest

/-- Joins ordered text that may begin with marks. -/
def join : List Char → List Char
  | [] => []
  | c :: rest => if combiningClass c = 0 then joinFrom c [] rest else c :: join rest

/-- The composed normal form, step by step. -/
def compose (text : List Char) : List Char := join (orderMarks (text.flatMap decompose))

/-! ## Normalization -/

/-- Characters that neither decompose nor take part in a composition with one another: all below
the first combining mark, and the Hebrew letters. -/
def standsAlone (c : Char) : Bool :=
  c.toNat < 0x300 || (0x5D0 ≤ c.toNat && c.toNat ≤ 0x5EA)

/-- The composed normal form. -/
def normalize (text : List Char) : List Char :=
  if text.all standsAlone then text else compose text

@[simp] theorem normalize_nil : normalize [] = [] := rfl

/-- Text whose characters all stand alone is its own normal form. -/
theorem normalize_of_all_standsAlone {text : List Char} (h : text.all standsAlone = true) :
    normalize text = text := by
  simp [normalize, h]

end Agreement.Unicode
