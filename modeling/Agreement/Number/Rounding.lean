/- # Agreement.Number.Rounding: rounding quotients to binary formats

A measure is read from decimal text and kept in 32 bits, with a stop at 64 bits in between. Both
roundings are one operation, on quotients of natural numbers, so that nothing here depends on a
machine's floating point unit: to the nearest value of the format, a half going to the even one.
-/

namespace Agreement.Number

/-- The quotient rounded to the nearest natural number, a half to the even neighbour. -/
def quotientToEven (n d : Nat) : Nat :=
  let q := n / d
  let twice := 2 * (n % d)
  if twice < d then q else if d < twice then q + 1 else q + q % 2

/-- The value `significand * 2 ^ exponent`. -/
structure Scaled where
  significand : Nat
  exponent : Int
  deriving DecidableEq, Repr

namespace Scaled

/-- The numerator of a scaled value over `denominator`. -/
def numerator (x : Scaled) : Nat := x.significand <<< x.exponent.toNat

/-- A power of two. -/
def denominator (x : Scaled) : Nat := 1 <<< (-x.exponent).toNat

end Scaled

/-- A binary format: its values are `m * 2 ^ e` with `m < 2 ^ precision` and `e` between two
bounds. -/
structure Format where
  precision : Nat
  least : Int
  greatest : Int

/-- The format of 64 bits. -/
def binary64 : Format := ⟨53, -1074, 971⟩

/-- The format of 32 bits. -/
def binary32 : Format := ⟨24, -149, 104⟩

/-- The greatest `k` with `2 ^ k * d ≤ n`, for positive `n` and `d`. -/
def floorLog2 (n d : Nat) : Int :=
  let k : Int := (Nat.log2 n : Int) - (Nat.log2 d : Int)
  if d <<< k.toNat ≤ n <<< (-k).toNat then k else k - 1

/-- The value of a format nearest to `n / d`, or `none` beyond its greatest value. -/
def Format.round (f : Format) (n d : Nat) : Option Scaled :=
  if n = 0 then some ⟨0, f.least⟩
  else
    let e := max f.least (floorLog2 n d - (f.precision - 1 : Nat))
    let m := quotientToEven (n <<< (-e).toNat) (d <<< e.toNat)
    -- rounding up may need one more bit, and then comes to a power of two
    let rounded : Scaled :=
      if m = 1 <<< f.precision then ⟨1 <<< (f.precision - 1), e + 1⟩ else ⟨m, e⟩
    if f.greatest < rounded.exponent then none else some rounded

/-- The product, rounded. -/
def Format.mul (f : Format) (a b : Scaled) : Option Scaled :=
  f.round (a.numerator * b.numerator) (a.denominator * b.denominator)

/-- The quotient by a positive value, rounded. -/
def Format.div (f : Format) (a b : Scaled) : Option Scaled :=
  f.round (a.numerator * b.denominator) (a.denominator * b.numerator)

/-! ## Decimal text to 64 bits -/

/-- A power of ten. -/
def tenTo (k : Nat) : Nat := Nat.pow 10 k

/-- The power of ten of 64 bits with this exponent, at most 308. -/
def powerOfTen (k : Nat) : Scaled := (binary64.round (tenTo k) 1).getD ⟨0, 0⟩

/-- Divides by `10 ^ 308` a number of times, with a rounding each time; zero stays zero. -/
def lower : (times : Nat) → Scaled → Option Scaled
  | 0, f => some f
  | times + 1, f =>
    if f.significand = 0 then some f else (binary64.div f (powerOfTen 308)).bind (lower times)

/-- The step from a significand and a decimal exponent to 64 bits: one rounded multiplication or
division by a power of ten, after as many divisions by `10 ^ 308` as bring the exponent into the
table of powers. `none` stands for a number that is too large. -/
def scaleDecimal (f : Scaled) (exponent : Int) : Option Scaled :=
  if exponent < 0 then
    let times := ((-exponent).toNat - 1) / 308
    (lower times f).bind fun g => binary64.div g (powerOfTen ((-exponent).toNat - 308 * times))
  else if exponent ≤ 308 then binary64.mul f (powerOfTen exponent.toNat)
  else if f.significand = 0 then some f
  else none

/-- The 64 bits of `significand * 10 ^ exponent`, by `scaleDecimal`. -/
def ofDecimal (significand : Nat) (exponent : Int) : Option Scaled :=
  (binary64.round significand 1).bind (scaleDecimal · exponent)

end Agreement.Number
