/- # Agreement.Number.Binary32: measures in 32 bits

Margins, sizes and widths are floating point numbers of 32 bits. A value is its bit pattern, so
equality is decidable and tells the two zeros apart. A pattern has one bit of sign, eight of
exponent and 23 of fraction; the greatest exponent is that of infinity. Finite values decode to
`m * 2 ^ e`.
-/
import Agreement.Number.Rounding

namespace Agreement

/-- A floating point number of 32 bits. -/
structure Binary32 where
  bits : UInt32
  deriving DecidableEq, Repr, Inhabited

namespace Binary32

open Number

/-- Whether the sign bit is set. -/
def isNegative (x : Binary32) : Bool := 0x80000000 ≤ x.bits.toNat

/-- The bits without the sign; they order the magnitudes. -/
def magnitude (x : Binary32) : Nat := x.bits.toNat % 0x80000000

/-- The magnitude of infinity. -/
def infinite : Nat := 0x7F800000

/-- Whether the value is a number, neither infinite nor undefined. -/
def isFinite (x : Binary32) : Bool := x.magnitude < infinite

/-- Whether the value lies strictly above zero. -/
def isPositive (x : Binary32) : Bool :=
  !x.isNegative && 0 < x.magnitude && x.magnitude ≤ infinite

/-- The magnitude of a finite value as `m * 2 ^ e`. -/
def scaled (x : Binary32) : Scaled :=
  let field : Nat := x.magnitude / 0x800000
  let fraction : Nat := x.magnitude % 0x800000
  if field = 0 then ⟨fraction, -149⟩ else ⟨fraction + 0x800000, (field : Int) - 150⟩

/-- The magnitude bits of a value of the format, infinity for none. -/
def magnitudeBits : Option Scaled → Nat
  | none => infinite
  | some s =>
    if s.significand < 0x800000 then s.significand
    else (s.exponent + 150).toNat * 0x800000 + (s.significand - 0x800000)

/-- The value nearest to `n / d`, with a sign; infinity beyond the greatest one. -/
def ofRatio (negative : Bool) (n d : Nat) : Binary32 :=
  ⟨UInt32.ofNat ((if negative then 0x80000000 else 0) + magnitudeBits (binary32.round n d))⟩

/-- The value nearest to a natural number. -/
def ofNat (n : Nat) : Binary32 := ofRatio false n 1

/-- The value nearest to `n / 10`. -/
def ofTenths (n : Nat) : Binary32 := ofRatio false n 10

instance (n : Nat) : OfNat Binary32 n := ⟨ofNat n⟩

end Binary32

end Agreement
