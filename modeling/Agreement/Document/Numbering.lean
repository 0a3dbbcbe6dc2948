/- # Agreement.Document.Numbering: labels of list items

Items of an ordered list are labelled with decimal numbers, Hebrew or Roman numerals, or letters.
Roman numerals reach 3999 and Hebrew ones 999; above, and for zero, a label is decimal.
-/
import Agreement.Number.Text

namespace Agreement

/-- How the items of an ordered list are labelled. -/
inductive Numbering
  | decimal
  | hebrew
  | lowerRoman
  | upperRoman
  | lowerAlpha
  | upperAlpha
  deriving DecidableEq, Repr, Inhabited

namespace Numbering

/-- All numberings. -/
def all : List Numbering := [decimal, hebrew, lowerRoman, upperRoman, lowerAlpha, upperAlpha]

/-- The name of a numbering in saved data. -/
def name : Numbering → String
  | decimal => "decimal"
  | hebrew => "hebrew"
  | lowerRoman => "lower_roman"
  | upperRoman => "upper_roman"
  | lowerAlpha => "lower_alpha"
  | upperAlpha => "upper_alpha"

/-- The numbering with a name. -/
def ofName? (s : String) : Option Numbering := all.find? (·.name == s)

/-- The name of a numbering in style declarations. -/
def cssName : Numbering → String
  | decimal => "decimal"
  | hebrew => "hebrew"
  | lowerRoman => "lower-roman"
  | upperRoman => "upper-roman"
  | lowerAlpha => "lower-alpha"
  | upperAlpha => "upper-alpha"

@[simp] theorem ofName?_name (n : Numbering) : ofName? n.name = some n := by cases n <;> decide

/-! ## Numerals -/

/-- The Roman signs by falling value. -/
def romanSigns : List (Nat × String) :=
  [(1000, "M"), (900, "CM"), (500, "D"), (400, "CD"), (100, "C"), (90, "XC"), (50, "L"),
    (40, "XL"), (10, "X"), (9, "IX"), (5, "V"), (4, "IV"), (1, "I")]

/-- Writes a number with signs: each as often as it fits, what is left with the ones after it. -/
def withSigns : List (Nat × String) → Nat → List Char
  | [], _ => []
  | (value, sign) :: rest, n =>
    (List.replicate (n / value) sign.toList).flatten ++ withSigns rest (n % value)

/-- A Roman numeral in capitals, decimal outside 1 to 3999. -/
def roman (n : Nat) : List Char :=
  if n = 0 ∨ 3999 < n then Number.digitsOf n else withSigns romanSigns n

/-- The letters of the hundreds, from none to nine hundred. -/
def hundreds : List String := ["", "ק", "ר", "ש", "ת", "תק", "תר", "תש", "תת", "תתק"]

/-- The letters of the tens. -/
def tens : List String := ["", "י", "כ", "ל", "מ", "נ", "ס", "ע", "פ", "צ"]

/-- The letters of the ones. -/
def ones : List String := ["", "א", "ב", "ג", "ד", "ה", "ו", "ז", "ח", "ט"]

/-- The letters of a digit. -/
def letters (digits : List String) (d : Nat) : List Char := (digits[d]?.getD "").toList

/-- The letters of a number below 1000. Fifteen and sixteen are nine and six, nine and seven. -/
def gematria (n : Nat) : List Char :=
  letters hundreds (n / 100) ++
    if n % 100 = 15 then ['ט', 'ו']
    else if n % 100 = 16 then ['ט', 'ז']
    else letters tens (n % 100 / 10) ++ letters ones (n % 10)

/-- Letters marked as a numeral: a geresh after a single one, else gershayim before the last. -/
def markNumeral (s : List Char) : List Char :=
  match s with
  | [c] => [c, '׳']
  | _ => s.dropLast ++ '״' :: s.drop (s.length - 1)

/-- A Hebrew numeral, decimal outside 1 to 999. -/
def hebrewNumeral (n : Nat) : List Char :=
  if n = 0 ∨ 999 < n then Number.digitsOf n else markNumeral (gematria n)

/-- Letters from `first` as digits of a system without a zero: after `z` comes `aa`. -/
def alphabetic (first : Char) : Nat → List Char
  | 0 => []
  | n + 1 => alphabetic first (n / 26) ++ [Char.ofNat (first.toNat + n % 26)]
termination_by n => n
decreasing_by omega

/-- The label of a number, without punctuation. -/
def label : Numbering → Nat → String
  | decimal, n => String.ofList (Number.digitsOf n)
  | hebrew, n => String.ofList (hebrewNumeral n)
  | lowerRoman, n => String.ofList ((roman n).map Char.toLower)
  | upperRoman, n => String.ofList (roman n)
  | lowerAlpha, n => String.ofList (alphabetic 'a' n)
  | upperAlpha, n => String.ofList (alphabetic 'A' n)

/-- The label in front of an item of plain text. Hebrew numerals carry their own mark. -/
def marker (s : Numbering) (n : Nat) : String :=
  match s with
  | hebrew => label hebrew n
  | s => label s n ++ "."

/-- The greatest number of an item. -/
def maxNumber : Nat := 0xFFFFFFFF

/-- The number of the item at an index of a sequence. A start of zero counts as one, and no number
passes the greatest one. -/
def itemNumber (start index : Nat) : Nat := min (max start 1 + index) maxNumber

end Numbering

end Agreement
