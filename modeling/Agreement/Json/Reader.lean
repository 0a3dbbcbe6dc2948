/- # Agreement.Json.Reader: from text to trees

The grammar of JSON over `List Char`, by recursive descent. Every recursion that is not on the
text itself is bounded by its length: a step that does not read a character is a step that stops.
-/
import Agreement.Json.Tree
import Agreement.Text

namespace Agreement.Json

open Number Text

/-! ## Characters -/

/-- The four characters that JSON counts as blank. -/
def isBlankChar (c : Char) : Bool := c == ' ' || c == '\n' || c == '\t' || c == '\r'

/-- Text without the blank space at its start. -/
def skipBlank (text : List Char) : List Char := text.dropWhile isBlankChar

/-- The value of a decimal digit. -/
def digitValue (c : Char) : Nat := c.toNat - 48

/-- The value of a hexadecimal digit, in either case. -/
def hexValue (c : Char) : Option Nat :=
  if '0' ≤ c ∧ c ≤ '9' then some (c.toNat - 48)
  else if 'a' ≤ c ∧ c ≤ 'f' then some (c.toNat - 87)
  else if 'A' ≤ c ∧ c ≤ 'F' then some (c.toNat - 55)
  else none

/-- The value of four hexadecimal digits. -/
def hexUnit (a b c d : Char) : Option Nat := do
  return (((← hexValue a) * 16 + (← hexValue b)) * 16 + (← hexValue c)) * 16 + (← hexValue d)

/-! ## Strings -/

/-- What a token is read as: its value with the text after it, or the break in it. -/
abbrev Reading (α : Type) := Except Break (α × List Char)

/-- A piece of a string: a character, or the 16 bits of an escape in hexadecimal digits. -/
inductive StringUnit
  | char (c : Char)
  | code (n : Nat)

/-- Whether 16 bits are the first half of a surrogate pair. -/
def isLeading (n : Nat) : Bool := 0xD800 ≤ n && n ≤ 0xDBFF

/-- Whether 16 bits are the second half of a surrogate pair. -/
def isTrailing (n : Nat) : Bool := 0xDC00 ≤ n && n ≤ 0xDFFF

/-- The characters that the pieces of a string make, unless half of a surrogate pair stands
alone. -/
def assemble : List StringUnit → Option (List Char)
  | [] => some []
  | .char c :: rest => (assemble rest).map (c :: ·)
  | .code n :: rest =>
    if isTrailing n then none
    else if isLeading n then
      match rest with
      | .code m :: rest' =>
        -- ten bits of each half, counted from the first code point beyond 16 bits
        if isTrailing m then
          (assemble rest').map
            (Char.ofNat ((n - 0xD800) * 0x400 + (m - 0xDC00) + 0x10000) :: ·)
        else none
      | _ => none
    else (assemble rest).map (Char.ofNat n :: ·)

/-- Whether a reader of pieces meets half a surrogate pair before their end. The first half may
still find its second half when it comes last. -/
def stopsReader (units : List StringUnit) : Bool :=
  match units.getLast? with
  | some (.code n) => (assemble (if isLeading n then units.dropLast else units)).isNone
  | _ => (assemble units).isNone

/-- The character that a one-letter escape stands for. -/
def shortEscape (c : Char) : Option Char :=
  if c = '"' ∨ c = '\\' ∨ c = '/' then some c
  else if c = 'b' then some '\x08'
  else if c = 'f' then some '\x0C'
  else if c = 'n' then some '\n'
  else if c = 'r' then some '\r'
  else if c = 't' then some '\t'
  else none

/-- The flaw in an escape that lacks its four hexadecimal digits: with fewer than four bytes left
the text ends too early. -/
def escapeFlaw (text : List Char) : Flaw := if byteLength text < 4 then .early else .malformed

/-- The pieces of a string up to its closing quote, and the text after it or what is wrong. -/
def readUnits : List Char → List StringUnit × Except Flaw (List Char)
  | [] => ([], .error .early)
  | '"' :: rest => ([], .ok rest)
  | ['\\'] => ([], .error .early)
  | '\\' :: 'u' :: a :: b :: c :: d :: rest =>
    match hexUnit a b c d with
    | none => ([], .error (escapeFlaw (a :: b :: c :: d :: rest)))
    | some n => let (units, after) := readUnits rest; (.code n :: units, after)
  | '\\' :: 'u' :: short => ([], .error (escapeFlaw short))
  | '\\' :: c :: rest =>
    match shortEscape c with
    | none => ([], .error .malformed)
    | some e => let (units, after) := readUnits rest; (.char e :: units, after)
  | c :: rest =>
    if c.toNat < 0x20 then ([], .error .malformed)
    else let (units, after) := readUnits rest; (.char c :: units, after)

/-- The rest of a string, after its opening quote. -/
def readString (text : List Char) : Reading (Option (List Char)) :=
  match readUnits text with
  | (units, .ok rest) => .ok (assemble units, rest)
  | (units, .error flaw) =>
    let read := if stopsReader units then .malformed else flaw
    .error ⟨read, flaw, .malformed, read, false⟩

/-! ## Numbers -/

/-- The greatest number of 64 bits. -/
def maxWord : Nat := 0xFFFFFFFFFFFFFFFF

/-- Takes digits into a significand of 64 bits as long as they fit, and counts the digits from the
first one that does not. -/
def significandOf (digits : List Char) : Nat × Nat :=
  digits.foldl
    (fun (s, dropped) c =>
      -- after the first digit that does not fit none does
      if dropped = 0 ∧ s * 10 + digitValue c ≤ maxWord then (s * 10 + digitValue c, 0)
      else (s, dropped + 1))
    (0, 0)

/-- Takes fraction digits into a significand as long as they fit, with how many did. -/
def extendSignificand (s : Nat) : List Char → Nat × Nat
  | [] => (s, 0)
  | c :: rest =>
    if s * 10 + digitValue c ≤ maxWord then
      let (t, n) := extendSignificand (s * 10 + digitValue c) rest
      (t, n + 1)
    else (s, 0)

/-- A number without fraction and exponent. It is whole when it fits into 64 bits; zero with a
minus sign is not. -/
def wholeNumeral (negative : Bool) (digits : List Char) : Option Numeral :=
  let (s, dropped) := significandOf digits
  if dropped = 0 ∧ !negative then some (.whole s)
  -- with a minus sign, 64 bits reach down to minus two to the 63rd
  else if dropped = 0 ∧ 0 < s ∧ s ≤ 0x8000000000000000 then some (.whole (-s))
  else (ofDecimal s dropped).map (.real negative)

/-- A number with fraction digits or an exponent. -/
def realNumeral (negative : Bool) (digits fraction : List Char) (exponent : Int) :
    Option Numeral :=
  let (s, dropped) := significandOf digits
  let (t, n) := extendSignificand s fraction
  (ofDecimal t (dropped - n + exponent)).map (.real negative)

/-- The value of a list of digits. -/
def digitsValue (digits : List Char) : Nat := digits.foldl (fun n c => n * 10 + digitValue c) 0

/-- The break in a number that wants a digit: somebody who wants a value tells the end of the text
from a wrong character, the others do not. -/
def digitBreak (rest : List Char) : Break :=
  if rest.isEmpty then { Break.of .malformed with read := .early } else .of .malformed

/-- The exponent of a number, if one follows. -/
def readExponent : List Char → Reading (Option Int)
  | [] => .ok (none, [])
  | c :: rest =>
    if c = 'e' ∨ c = 'E' then
      let (negative, body) := match rest with
        | '-' :: body => (true, body)
        | '+' :: body => (false, body)
        | body => (false, body)
      let digits := body.takeWhile Char.isDigit
      let after := body.dropWhile Char.isDigit
      if digits.isEmpty then .error (digitBreak after)
      else
        let n : Int := digitsValue digits
        .ok (some (if negative then -n else n), after)
    else .ok (none, c :: rest)

/-- The fraction digits of a number, if a point follows. -/
def readFraction : List Char → Reading (Option (List Char))
  | '.' :: body =>
    let digits := body.takeWhile Char.isDigit
    let after := body.dropWhile Char.isDigit
    if digits.isEmpty then .error (digitBreak after) else .ok (some digits, after)
  | rest => .ok (none, rest)

/-- The integer digits of a number: a zero alone, or digits that start with another one. -/
def readInteger (text : List Char) : Reading (List Char) :=
  let digits := text.takeWhile Char.isDigit
  let after := text.dropWhile Char.isDigit
  match digits with
  | [] => .error (digitBreak after)
  | ['0'] => .ok (['0'], after)
  | '0' :: _ => .error (.of .malformed)
  | _ => .ok (digits, after)

/-- A number, without its sign. -/
def readMagnitude (negative : Bool) (text : List Char) :
    Except Break (Option Numeral × List Char) := do
  let (digits, rest) ← readInteger text
  let (fraction, rest) ← readFraction rest
  let (exponent, rest) ← readExponent rest
  match fraction, exponent with
  | none, none => return (wholeNumeral negative digits, rest)
  | _, _ => return (realNumeral negative digits (fraction.getD []) (exponent.getD 0), rest)

/-! ## Values -/

/-- Reads the rest of a word such as `true`. Its first letter already says that it is no name. -/
def readWord (value : Tree) (null : Bool) : (word : List Char) → List Char →
    Tree × Option (List Char)
  | [], rest => (value, some rest)
  | _ :: _, [] => (.broken { Break.of .early with name := .malformed, null }, none)
  | w :: word, c :: rest =>
    if w = c then readWord value null word rest
    else (.broken { Break.of .malformed with null }, none)

/-- A token as a tree, with the text after it unless it is broken. -/
def leaf {α : Type} (make : α → Tree) : Reading α → Tree × Option (List Char)
  | .ok (value, rest) => (make value, some rest)
  | .error b => (.broken b, none)

/-- A value other than an array or object, from its first character and the text after that. -/
def readScalar : Char → List Char → Tree × Option (List Char)
  | '"', rest => leaf (fun s => .string (s.map String.ofList)) (readString rest)
  | 'n', rest => readWord .null true ['u', 'l', 'l'] rest
  | 't', rest => readWord (.bool true) false ['r', 'u', 'e'] rest
  | 'f', rest => readWord (.bool false) false ['a', 'l', 's', 'e'] rest
  | '-', rest => leaf .number (readMagnitude true rest)
  | c, rest =>
    if c.isDigit then leaf .number (readMagnitude false (c :: rest))
    else (.broken (.of .malformed), none)

mutual

/-- A value, with the text after it unless the text stops making sense inside it. -/
def readValue : (fuel : Nat) → List Char → Tree × Option (List Char)
  | 0, _ => (.broken (.of .early), none)
  | fuel + 1, text =>
    match skipBlank text with
    | [] => (.broken (.of .early), none)
    | '[' :: rest =>
      let (items, stop, after) := readItems fuel true rest
      (.array items stop, after)
    | '\x7b' :: rest =>
      let (members, stop, after) := readMembers fuel true rest
      (.object members stop, after)
    | c :: rest => readScalar c rest

/-- The items of an array up to its closing bracket. -/
def readItems : (fuel : Nat) → (first : Bool) → List Char →
    List Tree × Option Break × Option (List Char)
  | 0, _, _ => ([], some (.of .early), none)
  | fuel + 1, first, text =>
    match skipBlank text with
    | [] => ([], some (.of .early), none)
    | c :: rest =>
      if c = ']' then ([], none, some rest)
      else if first then readItem fuel (c :: rest)
      else if c = ',' then
        match skipBlank rest with
        | [] => ([], some .afterComma, none)
        | ']' :: _ => ([], some (.of .malformed), none)
        | next => readItem fuel next
      else ([], some (.of .malformed), none)

/-- An item of an array and those after it. -/
def readItem : (fuel : Nat) → List Char → List Tree × Option Break × Option (List Char)
  | 0, _ => ([], some (.of .early), none)
  | fuel + 1, text =>
    match readValue fuel text with
    | (item, none) => ([item], none, none)
    | (item, some rest) =>
      let (items, stop, after) := readItems fuel false rest
      (item :: items, stop, after)

/-- The members of an object up to its closing brace. -/
def readMembers : (fuel : Nat) → (first : Bool) → List Char →
    List (Option String × Tree) × Option Break × Option (List Char)
  | 0, _, _ => ([], some (.of .early), none)
  | fuel + 1, first, text =>
    match skipBlank text with
    | [] => ([], some (.of .early), none)
    | c :: rest =>
      if c = '\x7d' then ([], none, some rest)
      else if first then readMember fuel (c :: rest)
      else if c = ',' then readMember fuel (skipBlank rest)
      else ([], some (.of .malformed), none)

/-- A member of an object and those after it. -/
def readMember : (fuel : Nat) → List Char →
    List (Option String × Tree) × Option Break × Option (List Char)
  | 0, _ => ([], some (.of .early), none)
  | _, [] => ([], some .afterComma, none)
  | fuel + 1, c :: text =>
    if c = '"' then
      match readString text with
      | .error b => ([], some b, none)
      | .ok (name, rest) =>
        let key := name.map String.ofList
        match skipBlank rest with
        | [] => ([(key, .broken (.of .early))], none, none)
        | ':' :: rest =>
          match readValue fuel rest with
          | (value, none) => ([(key, value)], none, none)
          | (value, some rest) =>
            let (members, stop, after) := readMembers fuel false rest
            ((key, value) :: members, stop, after)
        | _ => ([(key, .broken (.of .malformed))], none, none)
    else ([], some (.of .malformed), none)

end

/-- A whole text: its first value, and whether nothing but blank space follows. -/
def readText (text : List Char) : Tree × Bool :=
  -- a character takes three steps at most: a member, its value and what comes after it
  match readValue (3 * text.length + 3) text with
  | (tree, none) => (tree, false)
  | (tree, some rest) => (tree, (skipBlank rest).isEmpty)

end Agreement.Json
