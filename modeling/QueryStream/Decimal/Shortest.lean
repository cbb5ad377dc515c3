/-
  Decimal/Shortest.lean --- the shortest decimal that reads back as a given
  double precision number.

  The reals that round to a number form an interval around it; its ends belong
  to it when the significand is even.  For one digit, two digits, and so on, the
  two multiples of a power of ten next to the number are tried: the first
  precision with a multiple inside the interval wins, and of two such multiples
  the nearer one, the even one on a tie.  Seventeen digits always suffice.
-/
import QueryStream.Decimal.Binary64

set_option autoImplicit false

namespace QueryStream

/-- A positive decimal `0.d₁d₂… * 10 ^ point`, with `d₁d₂…` the digits of `digits`. -/
structure Decimal where
  digits : Nat
  point : Int
  deriving DecidableEq, Repr

namespace Decimal

/-- The number of decimal digits of a natural number; zero has one. -/
def digitCount (n : Nat) : Nat := (Nat.toDigits 10 n).length

/-- Remove up to `fuel` zeros from the end of a numeral. -/
def trimZeros : Nat → Nat → Nat
  | 0, n => n
  | fuel + 1, n => if n ≠ 0 ∧ n % 10 = 0 then trimZeros fuel (n / 10) else n

/-- The position `p` with `10 ^ (p - 1) ≤ num / den < 10 ^ p`, for a positive
fraction not below `10 ^ (-400)`. -/
def pointOf (num den : Nat) : Int :=
  if den ≤ num then digitCount (num / den)
  else
    match (List.range 400).find? fun k => den ≤ num * Nat.pow 10 (k + 1) with
    | some k => -(k : Int)
    | none => -400

/-- The reals that round to a number: all are fractions over `den`, in units of a
quarter of the last binary place. -/
structure Interval where
  low : Nat
  mid : Nat
  high : Nat
  den : Nat
  /-- whether the ends belong to the interval -/
  closed : Bool

/-- The interval of reals that round to `significand * 2 ^ exponent`.  Below a
power of two the neighbour is half as far. -/
def interval (significand : Nat) (exponent : Int) : Interval :=
  let scale := Binary64.fraction 1 (exponent - 2)
  let below := if significand = Nat.pow 2 52 ∧ exponent ≠ -1074 then 1 else 2
  { low := (4 * significand - below) * scale.1
    mid := 4 * significand * scale.1
    high := (4 * significand + 2) * scale.1
    den := scale.2
    closed := significand % 2 == 0 }

/-- Whether the interval holds `n * 10 ^ unit`. -/
def Interval.holds (i : Interval) (n : Nat) (unit : Int) : Bool :=
  let up := Nat.pow 10 unit.toNat
  let down := Nat.pow 10 (-unit).toNat
  let here := n * up * i.den
  if i.closed then i.low * down ≤ here && here ≤ i.high * down
  else i.low * down < here && here < i.high * down

/-- Of the two multiples of `10 ^ unit` around the middle of the interval, the
one to write: the only one inside, or the nearer, or the even one. -/
def Interval.pick? (i : Interval) (unit : Int) : Option Nat :=
  let up := Nat.pow 10 unit.toNat
  let down := Nat.pow 10 (-unit).toNat
  let floor := i.mid * down / (i.den * up)
  let rest := i.mid * down % (i.den * up)
  let nearer :=
    if 2 * rest < i.den * up then floor
    else if i.den * up < 2 * rest then floor + 1
    else if floor % 2 = 0 then floor else floor + 1
  match i.holds floor unit, i.holds (floor + 1) unit with
  | true, true => some nearer
  | true, false => some floor
  | false, true => some (floor + 1)
  | false, false => none

/-- The shortest decimal that reads back as `significand * 2 ^ exponent`, for a
positive significand. -/
def shortest (significand : Nat) (exponent : Int) : Decimal :=
  let i := interval significand exponent
  let point := pointOf i.mid i.den
  match (List.range 17).findSome? fun k : Nat =>
      (i.pick? (point - (k + 1 : Nat))).map fun n => (n, k + 1) with
  | some (n, count) =>
      { digits := trimZeros 20 n
        point := if digitCount n = count then point else point + 1 }
  | none => { digits := 0, point := 0 }

end Decimal

end QueryStream
