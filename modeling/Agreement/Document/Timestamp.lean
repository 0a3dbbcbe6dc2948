/- # Agreement.Document.Timestamp: points in time

A time is counted in seconds of universal time from the start of 1970, by the Gregorian calendar,
with nanoseconds. In a leap second the nanoseconds go on past a whole second. Times are written in
universal time and read with any offset.
-/
import Agreement.Text
import Agreement.Number.Text
import Agreement.Json.Printer
import Agreement.Json.Decoder

namespace Agreement

open Json.Decoder Number

/-- A point in time. -/
structure Timestamp where
  /-- Seconds since the start of 1970. -/
  seconds : Int
  /-- Nanoseconds, from one thousand million on in a leap second. -/
  nanoseconds : Nat
  deriving DecidableEq, Repr, Inhabited

namespace Timestamp

/-- The start of 1970. -/
def epoch : Timestamp := ⟨0, 0⟩

/-! ## The calendar -/

/-- Whether a year has a 29th of February. -/
def isLeapYear (year : Int) : Bool :=
  year % 4 = 0 && (year % 100 ≠ 0 || year % 400 = 0)

/-- The number of days of a month. -/
def daysInMonth (year : Int) (month : Nat) : Nat :=
  if month = 2 then (if isLeapYear year then 29 else 28)
  else if month = 4 ∨ month = 6 ∨ month = 9 ∨ month = 11 then 30
  else 31

/-- Days from the first of March of year 0 to a day of a year that starts in March. -/
def daysFromMarch (year : Int) (month day : Nat) : Int :=
  365 * year + year.fdiv 4 - year.fdiv 100 + year.fdiv 400 + ((153 * month + 2) / 5 + day - 1 : Nat)

/-- Days from the start of 1970 to a date. -/
def daysOf (year : Int) (month day : Nat) : Int :=
  (if 3 ≤ month then daysFromMarch year (month - 3) day
    else daysFromMarch (year - 1) (month + 9) day) - 719468

/-- The date some days after the start of 1970: year, month and day. -/
def dateOf (days : Int) : Int × Nat × Nat :=
  -- years that start in March have the leap day at their end
  let shifted := days + 719468
  let era := shifted.fdiv 146097
  let dayOfEra := (shifted - era * 146097).toNat
  let yearOfEra := (dayOfEra - dayOfEra / 1460 + dayOfEra / 36524 - dayOfEra / 146096) / 365
  let dayOfYear := dayOfEra - (365 * yearOfEra + yearOfEra / 4 - yearOfEra / 100)
  let march := (5 * dayOfYear + 2) / 153
  let day := dayOfYear - (153 * march + 2) / 5 + 1
  let month := if march < 10 then march + 3 else march - 9
  let year : Int := era * 400 + yearOfEra + (if month ≤ 2 then 1 else 0)
  (year, month, day)

/-- The first and the last year that can be told. -/
def yearBounds : Int × Int := (-262143, 262142)

/-! ## Writing -/

/-- A number with zeros in front up to a width. -/
def padded (width n : Nat) : List Char :=
  let digits := digitsOf n
  List.replicate (width - digits.length) '0' ++ digits

/-- A year: four digits, or a sign and at least four digits outside of 0 to 9999. -/
def yearText (year : Int) : List Char :=
  if 0 ≤ year ∧ year ≤ 9999 then padded 4 year.toNat
  else (if year < 0 then '-' else '+') :: padded 4 year.natAbs

/-- The fraction of a second: nothing, milliseconds, microseconds or nanoseconds. -/
def fractionText (nanoseconds : Nat) : List Char :=
  if nanoseconds = 0 then []
  else if nanoseconds % 1000000 = 0 then '.' :: padded 3 (nanoseconds / 1000000)
  else if nanoseconds % 1000 = 0 then '.' :: padded 6 (nanoseconds / 1000)
  else '.' :: padded 9 nanoseconds

/-- The text of a time. -/
def text (t : Timestamp) : String :=
  let (year, month, day) := dateOf (t.seconds.fdiv 86400)
  let clock := (t.seconds.fmod 86400).toNat
  let second := clock % 60 + t.nanoseconds / 1000000000
  String.ofList <|
    yearText year ++ '-' :: padded 2 month ++ '-' :: padded 2 day ++
    'T' :: padded 2 (clock / 3600) ++ ':' :: padded 2 (clock / 60 % 60) ++
    ':' :: padded 2 second ++ fractionText (t.nanoseconds % 1000000000) ++ ['Z']

/-! ## Reading -/

/-- A number of at most `width` digits, with blank space before it. -/
def readNumber (width : Nat) (s : List Char) : Option (Nat × List Char) :=
  let s := Text.trimLeft s
  let digits := (s.take width).takeWhile Char.isDigit
  if digits.isEmpty then none
  else some (Json.digitsValue digits, s.drop digits.length)

/-- A year: up to four digits, or a sign and any number of digits. -/
def readYear (s : List Char) : Option (Int × List Char) :=
  match Text.trimLeft s with
  | '-' :: rest => if rest.head?.any Char.isDigit then
      (readNumber rest.length rest).map fun (n, r) => (-(n : Int), r) else none
  | '+' :: rest => if rest.head?.any Char.isDigit then
      (readNumber rest.length rest).map fun (n, r) => ((n : Int), r) else none
  | s => (readNumber 4 s).map fun (n, r) => ((n : Int), r)

/-- A character, with blank space before it. -/
def readChar (c : Char) (s : List Char) : Option (List Char) :=
  match Text.trimLeft s with
  | d :: rest => if d = c then some rest else none
  | [] => none

/-- The fraction of a second, if a point follows, in nanoseconds. Digits after the ninth do not
count. -/
def readFraction (s : List Char) : Option (Nat × List Char) :=
  if s.head? ≠ some '.' then some (0, s)
  else
    let digits := (s.drop 1).takeWhile Char.isDigit
    let counted := digits.take 9
    if digits.isEmpty then none
    else some (Json.digitsValue counted * tenTo (9 - counted.length), s.drop (digits.length + 1))

/-- Two digits. -/
def readTwo (s : List Char) : Option (Nat × List Char) :=
  match s with
  | a :: b :: rest =>
    if a.isDigit && b.isDigit then some (Json.digitsValue [a, b], rest) else none
  | _ => none

/-- The offset from universal time in minutes: `Z`, `UTC` or a sign with hours and minutes. -/
def readOffset (s : List Char) : Option (Int × List Char) :=
  if (s.take 3).map Char.toUpper = ['U', 'T', 'C'] then some (0, s.drop 3)
  else match s with
    | [] => none
    | c :: rest =>
      if c = 'Z' ∨ c = 'z' then some (0, rest)
      else if c = '+' ∨ c = '-' ∨ c = '−' then do
        let (hours, rest) ← readTwo rest
        let rest := rest.dropWhile fun d => d = ':' || Unicode.isSpace d
        let (minutes, rest) ← readTwo rest
        if 60 ≤ minutes then none
        else
          let total : Int := (hours * 60 + minutes : Nat)
          some (if c = '+' then total else -total, rest)
      else none

/-- The time of a date and a clock, if both exist. -/
def ofParts (year : Int) (month day hour minute second nanoseconds : Nat) (offset : Int) :
    Option Timestamp :=
  if yearBounds.1 ≤ year ∧ year ≤ yearBounds.2 ∧ 1 ≤ month ∧ month ≤ 12 ∧ 1 ≤ day ∧
      day ≤ daysInMonth year month ∧ hour ≤ 23 ∧ minute ≤ 59 ∧ second ≤ 60 ∧
      offset.natAbs < 1440 then
    -- second 60 is second 59 with a thousand million nanoseconds more
    let clock : Nat := hour * 3600 + minute * 60 + min second 59
    let seconds := daysOf year month day * 86400 + clock - offset * 60
    -- the offset can lead into a year that cannot be told
    let reached := (dateOf (seconds.fdiv 86400)).1
    if yearBounds.1 ≤ reached ∧ reached ≤ yearBounds.2 then
      some ⟨seconds, nanoseconds + if second = 60 then 1000000000 else 0⟩
    else none
  else none

/-- Reads a time: date, `T` or a space, clock and offset. Blank space may stand between parts and
at the end. -/
def parse (s : List Char) : Option Timestamp := do
  let (year, s) ← readYear s
  let s ← readChar '-' s
  let (month, s) ← readNumber 2 s
  let s ← readChar '-' s
  let (day, s) ← readNumber 2 s
  let s ← match s with
    | c :: rest => if c = 'T' ∨ c = 't' ∨ c = ' ' then some rest else none
    | [] => none
  let (hour, s) ← readNumber 2 s
  let s ← readChar ':' s
  let (minute, s) ← readNumber 2 s
  let s ← readChar ':' s
  let (second, s) ← readNumber 2 s
  let (nanoseconds, s) ← readFraction s
  let (offset, s) ← readOffset (Text.trimLeft s)
  if Text.isBlank s then ofParts year month day hour minute second nanoseconds offset else none

/-- A time in saved data. -/
def toJson (t : Timestamp) : Json := .string t.text

/-- Reads a time from saved data. -/
def decoder {ε : Type} : Json.Decoder ε Timestamp := fun src t =>
  match string src t with
  | .error f => .error f
  | .ok s => match parse s.toList with
    | some time => .ok time
    | none => .error .mismatch

end Timestamp

end Agreement
