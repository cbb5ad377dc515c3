/-
  Decimal/Binary64.lean --- double precision numbers as exact values.

  A number is kept as its 64 bits.  Decoding yields the exact value
  `(-1)^sign * significand * 2^exponent`, on which all that the library needs is
  integer arithmetic: no rounding happens anywhere.
-/

set_option autoImplicit false

namespace QueryStream

/-- A double precision number, by its bits. -/
structure Binary64 where
  bits : UInt64
  deriving DecidableEq, Repr, Inhabited

namespace Binary64

/-- What the bits stand for. -/
inductive Shape where
  /-- no number -/
  | nan
  /-- one of the two infinities -/
  | infinite (negative : Bool)
  /-- the number `significand * 2 ^ exponent`, negated if `negative`; zero has a sign too -/
  | finite (negative : Bool) (significand : Nat) (exponent : Int)
  deriving DecidableEq, Repr

/-- The sign bit. -/
def isNegative (x : Binary64) : Bool := Nat.pow 2 63 ≤ x.bits.toNat

/-- The eleven exponent bits. -/
def exponentBits (x : Binary64) : Nat := x.bits.toNat / Nat.pow 2 52 % Nat.pow 2 11

/-- The fifty-two fraction bits. -/
def fractionBits (x : Binary64) : Nat := x.bits.toNat % Nat.pow 2 52

/-- Decode the bits.  All ones in the exponent mark infinities and non-numbers,
all zeros the numbers without a hidden leading one. -/
def shape (x : Binary64) : Shape :=
  if x.exponentBits = Nat.pow 2 11 - 1 then
    if x.fractionBits = 0 then .infinite x.isNegative else .nan
  else if x.exponentBits = 0 then .finite x.isNegative x.fractionBits (-1074)
  else .finite x.isNegative (Nat.pow 2 52 + x.fractionBits) (x.exponentBits - 1075)

/-- Whether the number is a zero, of either sign. -/
def isZero (x : Binary64) : Bool :=
  match x.shape with
  | .finite _ significand _ => significand == 0
  | _ => false

/-- A fraction `significand * 2 ^ exponent` as a numerator and a denominator. -/
def fraction (significand : Nat) (exponent : Int) : Nat × Nat :=
  (significand * Nat.pow 2 exponent.toNat, Nat.pow 2 (-exponent).toNat)

/-- A finite number as a signed numerator over a denominator. -/
def ratio (negative : Bool) (significand : Nat) (exponent : Int) : Int × Nat :=
  let (numerator, denominator) := fraction significand exponent
  (if negative then -(numerator : Int) else numerator, denominator)

end Binary64

end QueryStream
