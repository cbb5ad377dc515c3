/-
  Demand.lean --- how many records are asked for.

  A demand is a number of records or all of them.  Outside it is written as an
  integer: minus one stands for all, and so does everything beyond the greatest
  demand; nothing else that is not positive is a demand.
-/

set_option autoImplicit false

namespace QueryStream

/-- The greatest number of records that can be asked for by number: `2 ^ 63 - 1`. -/
def maxDemand : Nat := 0x7FFFFFFFFFFFFFFF

/-- The integer that stands for all records. -/
def unlimited : Int := -1

/-- A number of records, or all of them. -/
inductive Demand where
  | records (n : Nat)
  | all
  deriving DecidableEq, Repr, Inhabited

namespace Demand

/-- No demand at all. -/
def zero : Demand := .records 0

/-- The demand that an integer stands for. -/
def ofInt? (n : Int) : Option Demand :=
  if n > maxDemand ∨ n = unlimited then some .all
  else if n ≤ 0 then none
  else some (.records n.toNat)

/-- The integer that stands for a demand. -/
def toInt : Demand → Int
  | .records n => n
  | .all => unlimited

/-- Whether there is any demand. -/
def isPositive : Demand → Bool
  | .records n => 0 < n
  | .all => true

/-- Join two demands.  Numbers are added up to the greatest demand, and all of
the records stay all of them. -/
def join : Demand → Demand → Demand
  | .records m, .records n => .records (min (m + n) maxDemand)
  | _, _ => .all

theorem ofInt?_eq_none_iff (n : Int) : ofInt? n = none ↔ n ≤ 0 ∧ n ≠ unlimited := by
  unfold ofInt? unlimited maxDemand
  split
  · simp; omega
  · split <;> simp <;> omega

theorem toInt_ofInt? {n : Int} (h₀ : 0 < n) (h : n ≤ maxDemand) :
    (ofInt? n).map toInt = some n := by
  have h₁ : ¬ (n > maxDemand ∨ n = unlimited) := by unfold unlimited; omega
  have h₂ : ¬ n ≤ 0 := by omega
  simp only [ofInt?, h₁, h₂, if_false, Option.map_some, toInt]
  congr 1
  omega

end Demand

end QueryStream
