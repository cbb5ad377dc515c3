/-
  Decimal/Notation.lean --- the text of a double precision number.

  The digits are the shortest that read back.  They are written positionally
  while the decimal exponent is from -4 to 15, always with a fractional part, and
  otherwise with an exponent of a sign and at least two digits.
-/
import QueryStream.Decimal.Shortest

set_option autoImplicit false

namespace QueryStream

/-- The choices of a textual form of numbers. -/
structure Notation where
  /-- the least and the greatest decimal exponent written positionally -/
  positional : Int × Int
  /-- the least number of digits of a written exponent -/
  exponentDigits : Nat
  nan : String
  infinity : String

namespace Notation

/-- The form in which values are shown. -/
def plain : Notation where
  positional := (-4, 15)
  exponentDigits := 2
  nan := "nan"
  infinity := "inf"

/-- The digits of a numeral, filled with zeros on the left. -/
def padded (width n : Nat) : String :=
  let digits := Nat.repr n
  String.ofList (List.replicate (width - digits.length) '0') ++ digits

/-- A decimal with a point among, before or after its digits. -/
def positionally (d : Decimal) : String :=
  let digits := (Nat.repr d.digits).toList
  if d.point ≤ 0 then
    "0." ++ String.ofList (List.replicate (-d.point).toNat '0' ++ digits)
  else
    let whole := digits.take d.point.toNat
    let part := digits.drop d.point.toNat
    String.ofList (whole ++ List.replicate (d.point.toNat - whole.length) '0') ++ "."
      ++ (if part.isEmpty then "0" else String.ofList part)

/-- A decimal with one digit before the point and an exponent. -/
def scientifically (f : Notation) (d : Decimal) : String :=
  let digits := (Nat.repr d.digits).toList
  let exponent := d.point - 1
  String.ofList (digits.take 1)
    ++ (if digits.length ≤ 1 then "" else "." ++ String.ofList (digits.drop 1))
    ++ "e" ++ (if exponent < 0 then "-" else "+") ++ padded f.exponentDigits exponent.natAbs

/-- The text of a number. -/
def render (f : Notation) (x : Binary64) : String :=
  match x.shape with
  | .nan => f.nan
  | .infinite negative => (if negative then "-" else "") ++ f.infinity
  | .finite negative significand exponent =>
      (if negative then "-" else "")
        ++ (if significand = 0 then "0.0"
            else
              let d := Decimal.shortest significand exponent
              if f.positional.1 ≤ d.point - 1 ∧ d.point - 1 ≤ f.positional.2 then positionally d
              else f.scientifically d)

end Notation

end QueryStream
