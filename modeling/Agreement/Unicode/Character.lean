/- # Agreement.Unicode.Character: classes of characters

The predicates on characters that the rest of the library uses. Each is one sentence over the
Unicode tables; core's own `Char.isAlpha` and `Char.isWhitespace` know ASCII only.
-/
import Agreement.Unicode.Numeric
import Agreement.Unicode.Mark
import Agreement.Unicode.Direction

namespace Agreement.Unicode

/-- A letter, in any script. -/
def isAlphabetic (c : Char) : Bool := alphabetic.contains c.toNat

/-- A letter, a digit or another number. -/
def isAlphanumeric (c : Char) : Bool := isAlphabetic c || numeric.contains c.toNat

/-- A combining mark, such as a Hebrew point or a cantillation accent. -/
def isMark (c : Char) : Bool := mark.contains c.toNat

/-- The property `White_Space`: ASCII and Unicode spaces, tabs, line and paragraph separators. -/
def isSpace (c : Char) : Bool :=
  c.toNat == 0x20 || (0x09 ≤ c.toNat && c.toNat ≤ 0x0D) || c.toNat == 0x85 || c.toNat == 0xA0 ||
  c.toNat == 0x1680 || (0x2000 ≤ c.toNat && c.toNat ≤ 0x200A) || c.toNat == 0x2028 ||
  c.toNat == 0x2029 || c.toNat == 0x202F || c.toNat == 0x205F || c.toNat == 0x3000

/-- Punctuation that joins words, such as the underscore (general category `Pc`). -/
def isConnector (c : Char) : Bool :=
  Ranges.contains [(0x5F, 0x5F), (0x203F, 0x2040), (0x2054, 0x2054), (0xFE33, 0xFE34),
    (0xFE4D, 0xFE4F), (0xFF3F, 0xFF3F)] c.toNat

/-- A zero-width joiner or non-joiner. -/
def isJoinControl (c : Char) : Bool := c.toNat == 0x200C || c.toNat == 0x200D

/-- Ranges of the letters, decimal digits and marks in the tables that came after version 16. -/
def newcomer : Ranges := [
  (0x5C8, 0x5C9), (0x88F, 0x88F), (0xB53, 0xB54), (0xC5C, 0xC5C), (0xCDC, 0xCDC),
  (0x1ACF, 0x1AF0), (0xA7CE, 0xA7CF), (0xA7D2, 0xA7D2), (0xA7D4, 0xA7D4), (0xA7F1, 0xA7F1),
  (0x10940, 0x10959), (0x10EC5, 0x10EC7), (0x10ECB, 0x10ECF), (0x10EF0, 0x10EFB),
  (0x11B60, 0x11B67), (0x11DB0, 0x11DDB), (0x11DE0, 0x11DE9), (0x11DF0, 0x11DF0),
  (0x16EA0, 0x16EB8), (0x16EBB, 0x16ED3), (0x16FF2, 0x16FF6), (0x187F8, 0x187FF),
  (0x18D09, 0x18D1E), (0x18D80, 0x18DF2), (0x1D127, 0x1D128), (0x1D250, 0x1D252),
  (0x1D25B, 0x1D25C), (0x1D25F, 0x1D25F), (0x1D280, 0x1D281), (0x1E6C0, 0x1E6DE),
  (0x1E6E0, 0x1E6F5), (0x1E6FE, 0x1E6FF), (0x2B73A, 0x2B73F), (0x2CEA2, 0x2CEAD),
  (0x323B0, 0x33479)]

/-- What a word boundary counts as word-like: letters, marks, decimal digits, connectors and the
join controls of version 16. -/
def isWordLike (c : Char) : Bool :=
  (isAlphabetic c || isMark c || decimalDigit.contains c.toNat || isConnector c ||
    isJoinControl c) && !newcomer.contains c.toNat

/-- The strong direction of a character. -/
inductive Direction
  | leftToRight
  | rightToLeft
  deriving DecidableEq, Repr

/-- The strong direction of a character, if it has one. -/
def direction? (c : Char) : Option Direction :=
  if rightToLeft.contains c.toNat then some .rightToLeft
  else if undirected.contains c.toNat then none
  else some .leftToRight

/-- Whether the first character with a strong direction runs left to right. Text without one
follows the document. -/
def startsLeftToRight (text : List Char) : Bool :=
  text.findSome? direction? == some .leftToRight

end Agreement.Unicode
