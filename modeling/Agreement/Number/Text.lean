/- # Agreement.Number.Text: how numbers are written

Measures appear in two places. Markup and answers spell them out in positional notation, without
an exponent and without a point where there is no fraction. Saved documents keep at least one
fraction digit between `10 ^ -6` and `10 ^ 13` and use an exponent outside; infinity has no form
there.
-/
import Agreement.Number.Shortest

namespace Agreement

open Number

/-- The decimal digits of a natural number. -/
def Number.digitsOf (n : Nat) : List Char := Nat.toDigits 10 n

/-- Positional notation of a decimal. -/
def Number.Decimal.positional (x : Decimal) : List Char :=
  let digits := digitsOf x.digits
  let point : Int := (digits.length : Int) + x.exponent
  if 0 ≤ x.exponent then digits ++ List.replicate x.exponent.toNat '0'
  else if 0 < point then digits.take point.toNat ++ '.' :: digits.drop point.toNat
  else '0' :: '.' :: List.replicate (-point).toNat '0' ++ digits

/-- Scientific notation of a decimal: one digit before the point and a signed exponent. -/
def Number.Decimal.scientific (x : Decimal) : List Char :=
  let digits := digitsOf x.digits
  let power : Int := (digits.length : Int) + x.exponent - 1
  let fraction := digits.drop 1
  digits.take 1 ++ (if fraction.isEmpty then [] else '.' :: fraction) ++
    'e' :: (if power < 0 then '-' else '+') :: digitsOf power.natAbs

namespace Binary32

/-- The sign of a value as it is written. -/
def sign (x : Binary32) : List Char := if x.isNegative then ['-'] else []

/-- Positional notation, as in markup: `12`, `0.1`, `-0`, `inf`. What is no number has no sign. -/
def plainText (x : Binary32) : String :=
  String.ofList <|
    if infinite < x.magnitude then ['N', 'a', 'N']
    else x.sign ++
      if !x.isFinite then ['i', 'n', 'f']
      else if x.magnitude = 0 then ['0']
      else (shortest .up x.scaled).positional

/-- The decimals that saved documents write without an exponent. -/
def isPlainlySaved (d : Decimal) : Bool :=
  let power : Int := ((digitsOf d.digits).length : Int) + d.exponent - 1
  (-6 ≤ power) && (power ≤ 12)

/-- The form in saved documents, for finite values: `12.0`, `0.1`, `1e+21`. -/
def savedText (x : Binary32) : List Char :=
  x.sign ++
    if x.magnitude = 0 then ['0', '.', '0']
    else
      let d := shortest .toEven x.scaled
      if !isPlainlySaved d then d.scientific
      else if 0 ≤ d.exponent then d.positional ++ ['.', '0']
      else d.positional

end Binary32

end Agreement
