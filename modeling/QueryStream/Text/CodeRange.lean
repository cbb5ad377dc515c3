/-
  Text/CodeRange.lean --- tables of code points written as closed ranges.

  A property of characters is kept as a list of ranges `(first, last)`, both ends
  included.  Membership is a scan; the tables have a few hundred entries and
  texts are short.
-/

set_option autoImplicit false

namespace QueryStream

/-- A set of code points: closed ranges, in ascending order. -/
abbrev CodeRanges : Type := List (Nat × Nat)

namespace CodeRanges

/-- Whether a code point lies in one of the ranges. -/
def covers (ranges : CodeRanges) (code : Nat) : Bool :=
  ranges.any fun range => range.1 ≤ code && code ≤ range.2

end CodeRanges

end QueryStream
