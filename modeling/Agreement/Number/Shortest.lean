/- # Agreement.Number.Shortest: the fewest digits that read back

A measure is written with the fewest decimal digits that still round to it. The values that round
to `m * 2 ^ e` form an interval whose ends lie half way to its two neighbours; they belong to it
when `m` is even. For one digit, two digits and so on, the two points of that decimal grid around
the value are tried, and the first grid with a point in the interval gives the digits. Of two such
points the nearer one counts, and what happens at equal distance is left to the caller.
-/
import Agreement.Number.Binary32

namespace Agreement.Number

/-- The value `digits * 10 ^ exponent`. -/
structure Decimal where
  digits : Nat
  exponent : Int
  deriving DecidableEq, Repr

/-- The same value without zeros at the end of its digits. -/
def Decimal.reduced (x : Decimal) : Decimal :=
  if x.digits ≠ 0 ∧ x.digits % 10 = 0 then
    Decimal.reduced ⟨x.digits / 10, x.exponent + 1⟩
  else x
termination_by x.digits
decreasing_by omega

/-- Where a tie between two decimals of the same length goes. -/
inductive Tie
  | up
  | toEven
  deriving DecidableEq, Repr

/-- How many decimal digits a positive number has; zero has none. -/
def digitCount (n : Nat) : Nat := if n = 0 then 0 else (Nat.toDigits 10 n).length

/-- The greatest `k` with `10 ^ k * d ≤ n`, for positive `n` and `d`. -/
def floorLog10 (n d : Nat) : Int :=
  if d ≤ n then (digitCount (n / d) : Int) - 1
  else -(digitCount ((d + n - 1) / n - 1) : Int)

/-- A finite positive value with the interval that rounds to it, all over one denominator. -/
structure Interval where
  low : Nat
  value : Nat
  high : Nat
  denominator : Nat
  closed : Bool

/-- The interval of the decimals that round to a magnitude of 32 bits. Below a power of two the
next value is half as far. -/
def intervalOf (s : Scaled) : Interval :=
  let below := if s.significand = 0x800000 ∧ -149 < s.exponent then 1 else 2
  { low := (4 * s.significand - below) <<< s.exponent.toNat
    value := (4 * s.significand) <<< s.exponent.toNat
    high := (4 * s.significand + 2) <<< s.exponent.toNat
    denominator := 4 <<< (-s.exponent).toNat
    closed := s.significand % 2 = 0 }

/-- Whether a decimal lies in an interval. -/
def Interval.holds (i : Interval) (x : Decimal) : Bool :=
  let n := x.digits * tenTo x.exponent.toNat * i.denominator
  let d := tenTo (-x.exponent).toNat
  if i.closed then i.low * d ≤ n && n ≤ i.high * d else i.low * d < n && n < i.high * d

/-- The decimal of an interval among the two points of a grid around its value. -/
def Interval.onGrid (i : Interval) (tie : Tie) (exponent : Int) : Option Decimal :=
  let scale := tenTo exponent.toNat * i.denominator
  let up := i.value * tenTo (-exponent).toNat
  let c := up / scale
  let rest := 2 * (up % scale)
  let below : Decimal := ⟨c, exponent⟩
  let above : Decimal := ⟨c + 1, exponent⟩
  match i.holds below, i.holds above with
  | false, false => none
  | true, false => some below
  | false, true => some above
  | true, true =>
    -- both read back, so the nearer one counts
    if rest < scale then some below
    else if scale < rest then some above
    else match tie with
      | .up => some above
      | .toEven => some (if c % 2 = 0 then below else above)

/-- The shortest decimal of a positive magnitude. Nine digits always suffice. The point above nine
of the leading place is one of the next place, so zeros at the end are dropped. -/
def shortest (tie : Tie) (s : Scaled) : Decimal :=
  let i := intervalOf s
  let top := floorLog10 i.value i.denominator
  (((List.range 9).findSome? fun n => i.onGrid tie (top - (n : Nat))).getD ⟨0, 0⟩).reduced

end Agreement.Number
