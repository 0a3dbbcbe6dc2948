/- # Agreement.Review.Bypass: text that goes round the grammar

Authors who do not know the placeholders write gender by hand, as in `עשה/תה` and `המנוח(ה)`, or
mark a blank in some way of their own. Both stand in the text of a template, outside its
placeholders, and resolution leaves them there. This module finds them.
-/
import Agreement.Template.Placeholder

namespace Agreement.Bypass

open Unicode

/-! ## Gender written by hand -/

/-- Whether a character is a letter from alef to tav. -/
def isHebrewLetter (c : Char) : Bool := 'א' ≤ c && c ≤ 'ת'

/-- The letters at the start of a text. -/
def letters (text : List Char) : List Char := text.takeWhile isHebrewLetter

/-- The text after the letters at its start. -/
def afterLetters (text : List Char) : List Char := text.dropWhile isHebrewLetter

/-- Whether letters can be the suffix of another gender: one, two or three of them. -/
def isSuffix (suffix : List Char) : Bool := 1 ≤ suffix.length && suffix.length ≤ 3

/-- The length of a word with a suffix after a slash. The word has two letters at least, which
keeps `ו/או` out, and nothing of a word follows the suffix. -/
def slashed (text : List Char) : Option Nat :=
  match afterLetters text with
  | '/' :: rest =>
    if 2 ≤ (letters text).length && isSuffix (letters rest) &&
        !(afterLetters rest).head?.any isWordLike then
      some ((letters text).length + 1 + (letters rest).length)
    else none
  | _ => none

/-- The length of a word with a suffix in parentheses. -/
def parenthesized (text : List Char) : Option Nat :=
  match afterLetters text with
  | '(' :: rest =>
    if 1 ≤ (letters text).length && isSuffix (letters rest) &&
        (afterLetters rest).head? = some ')' then
      some ((letters text).length + 2 + (letters rest).length)
    else none
  | _ => none

/-- The words with suffixes in a text outside placeholders: those with a slash come first. -/
def suffixesIn (text : List Char) : List (List Char) :=
  Text.matchesFrom slashed 0 text ++ Text.matchesFrom parenthesized 0 text

/-! ## Blanks of another kind -/

/-- The length of what stands between an opening and a closing mark, the marks included, where no
bracket stands in between. -/
def enclosed (opening closing : List Char) (isBracket : Char → Bool) (text : List Char) :
    Option Nat :=
  match opening.isPrefixOf? text with
  | none => none
  | some rest =>
    if closing.isPrefixOf (rest.dropWhile (!isBracket ·)) then
      some (opening.length + (rest.takeWhile (!isBracket ·)).length + closing.length)
    else none

/-- Whether a character is a brace. -/
def isBrace (c : Char) : Bool := c == '\x7b' || c == '\x7d'

/-- Whether a character is a square bracket. -/
def isSquareBracket (c : Char) : Bool := c == '[' || c == ']'

/-- What opens a placeholder. -/
def opening : List Char := ['\x7b', '\x7b']

/-- Text in double braces. -/
def inDoubleBraces : List Char → Option Nat := enclosed opening ['\x7d', '\x7d'] isBrace

/-- Text in braces. -/
def inBraces : List Char → Option Nat := enclosed ['\x7b'] ['\x7d'] isBrace

/-- Text in double square brackets. -/
def inDoubleBrackets : List Char → Option Nat := enclosed ['[', '['] [']', ']'] isSquareBracket

/-- The most characters that are quoted of a placeholder that does not end. -/
def quotedLength : Nat := 24

/-- What looks like a placeholder in a text outside placeholders. What stands in double braces is
taken out before the rest is searched. -/
def blanksIn (text : List Char) : List (List Char) :=
  let rest := Text.replaceFrom inDoubleBraces [' '] 0 text
  Text.matchesFrom inDoubleBraces 0 text ++
    Text.matchesFrom inDoubleBrackets 0 rest ++
    -- what does not end may hold braces of any kind, so no others are looked for
    match Text.startingAt? opening rest with
    | some tail => [tail.take quotedLength]
    | none => Text.matchesFrom inBraces 0 rest

end Agreement.Bypass

namespace Agreement.Template

/-- What a scan of the text outside placeholders finds in a template. -/
def findOutside (scan : List Char → List (List Char)) (template : String) : List String :=
  (texts template.toList).flatMap fun text => (scan text).map String.ofList

/-- Gender that a template writes by hand. -/
def handwrittenSuffixes : String → List String := findOutside Bypass.suffixesIn

/-- What looks like a placeholder in a template and is none. -/
def strayBlanks : String → List String := findOutside Bypass.blanksIn

end Agreement.Template
