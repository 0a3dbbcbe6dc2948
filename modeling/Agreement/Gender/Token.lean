/- # Agreement.Gender.Token: words and what separates them

Text falls into words and separators by turns. Letters, digits and combining marks make words. A
geresh, gershayim or one of the quotes written for them belongs to a word when it stands between
two word characters, so `עו"ד` is one word and the quotes around a quoted word are none. A hyphen
or maqaf always separates.
-/
import Agreement.Text
import Agreement.Unicode.Normal

namespace Agreement

open Unicode

/-- What a run of characters is. -/
inductive TokenKind
  | word
  | separator
  deriving DecidableEq, Repr

/-- A run of characters of one kind. -/
structure Token where
  kind : TokenKind
  text : List Char
  deriving DecidableEq, Repr

/-- Whether a character can be part of a word by itself. -/
def isWordChar (c : Char) : Bool := isAlphanumeric c || isMark c

/-- Whether a character belongs to a word when it stands between two word characters. -/
def isJoiner (c : Char) : Bool :=
  c == '\'' || c == '"' || c == '׳' || c == '״' || c == '’'

namespace Token

/-- Whether a token is a word. -/
def isWord (t : Token) : Bool := t.kind == .word

/-- Whether a token is a separator of blank space alone. -/
def isSpace (t : Token) : Bool := t.kind == .separator && Text.isBlank t.text

/-- Whether a character goes into a word, given whether the one before it did and what follows. -/
def joinsWord (inWord : Bool) (c : Char) (rest : List Char) : Bool :=
  isWordChar c || (isJoiner c && inWord && rest.head?.any isWordChar)

/-- The characters of a text with their kinds. -/
def kinds : (inWord : Bool) → List Char → List (Char × TokenKind)
  | _, [] => []
  | inWord, c :: rest =>
    let joins := joinsWord inWord c rest
    (c, if joins then .word else .separator) :: kinds joins rest

/-- The token that a run of characters of one kind makes. -/
def ofRun (run : List (Char × TokenKind)) : Token :=
  ⟨(run.head?.map (·.2)).getD .separator, run.map (·.1)⟩

/-- The words and separators of a text, in order: the maximal runs of one kind. -/
def scan (text : List Char) : List Token :=
  ((kinds false text).splitBy (·.2 == ·.2)).map ofRun

/-- Tokens with the byte at which each starts, the first at `start`. -/
def locate (start : Nat) : List Token → List (Nat × Token)
  | [] => []
  | t :: rest => (start, t) :: locate (start + Text.byteLength t.text) rest

end Token

/-- The form in which words are looked up: composed, with single spaces between words and none at
the ends. -/
def normalizeKey (text : List Char) : List Char :=
  [' '].intercalate (Text.words (normalize text))

end Agreement
