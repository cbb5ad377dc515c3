/-
  Value/Fingerprint.lean --- which values and groups of values share a hash.

  A fingerprint stands for a hash: equal values have agreeing fingerprints.  The
  converse fails in known places only.  Numbers are hashed modulo the prime
  `2 ^ 61 - 1`, with minus one moved to minus two; an empty text hashes as zero;
  a text hashes as the bytes it is stored in, so a byte string may agree with
  it.  What is no number agrees with nothing, and lists and maps have no hash.
-/
import QueryStream.Value.Basic

set_option autoImplicit false

namespace QueryStream

/-- What a hash is computed from. -/
inductive Fingerprint where
  /-- the missing value -/
  | null
  /-- a number, reduced -/
  | number (n : Int)
  /-- the bytes of a text or of a byte string -/
  | octets (bs : List Nat)
  /-- a value that agrees with no other -/
  | unique
  /-- a group of fingerprints, in order -/
  | group (parts : List Fingerprint)

namespace Fingerprint

/-- The modulus of the hashes of numbers. -/
def modulus : Nat := Nat.pow 2 61 - 1

mutual

/-- Whether two fingerprints stand for the same hash. -/
def agrees : Fingerprint → Fingerprint → Bool
  | .null, .null => true
  | .number m, .number n => m == n
  | .octets a, .octets b => a == b
  | .group a, .group b => allAgree a b
  | _, _ => false

/-- Whether two groups agree part by part. -/
def allAgree : List Fingerprint → List Fingerprint → Bool
  | [], [] => true
  | a :: as, b :: bs => agrees a b && allAgree as bs
  | _, _ => false

end

/-- The fingerprint of `significand * 2 ^ exponent`.  Doubling sixty-one times
changes nothing modulo the prime. -/
def ofScaled (negative : Bool) (significand : Nat) (exponent : Int) : Fingerprint :=
  let n := significand * Nat.pow 2 (exponent % 61).toNat % modulus
  let signed : Int := if negative then -n else n
  .number (if signed = -1 then -2 else signed)

/-- The fingerprint of a whole number. -/
def ofInt (n : Int) : Fingerprint := ofScaled (n < 0) n.natAbs 0

/-- The fingerprint of stored bytes. -/
def ofOctets (bs : List Nat) : Fingerprint :=
  if bs.isEmpty then .number 0 else .octets bs

/-- The `width` bytes of a code, lowest first. -/
def lowFirst (width code : Nat) : List Nat :=
  (List.range width).map fun k => code / Nat.pow 256 k % 256

/-- The fingerprint of a text: all its characters are stored in one, two or four
bytes, whichever holds the greatest. -/
def ofText (s : String) : Fingerprint :=
  let codes := s.toList.map Char.toNat
  let width := if codes.all (· ≤ 0xFF) then 1 else if codes.all (· ≤ 0xFFFF) then 2 else 4
  ofOctets (codes.flatMap (lowFirst width))

end Fingerprint

/-- The fingerprint of a value, for values that can be hashed. -/
def Value.fingerprint? : Value → Option Fingerprint
  | .null => some .null
  | .bool b => some (.ofInt b.toNat)
  | .int n => some (.ofInt n)
  | .real x =>
      match x.shape with
      | .nan => some .unique
      | .infinite negative => some (.number (if negative then -314159 else 314159))
      | .finite negative significand exponent => some (.ofScaled negative significand exponent)
  | .text s => some (.ofText s)
  | .bytes bs => some (.ofOctets (bs.map UInt8.toNat))
  | .list _ => none
  | .map _ => none

end QueryStream
