/-
  Value/Basic.lean --- the values of parameters, records and metadata.

  Values come from outside and are untyped: any value may stand where another
  was expected, and the rules below say what happens then.  Numbers compare
  across their kinds, truth values counting as one and zero, and a map has its
  entries in the order in which their keys first came.
-/
import QueryStream.Decimal.Binary64

set_option autoImplicit false

namespace QueryStream

/-- A value of a parameter, of a record or of metadata. -/
inductive Value where
  /-- no value -/
  | null
  /-- a truth value, which is also the number one or zero -/
  | bool (b : Bool)
  /-- a whole number of any size -/
  | int (n : Int)
  /-- a double precision number -/
  | real (x : Binary64)
  /-- a text -/
  | text (s : String)
  /-- a byte string -/
  | bytes (bs : List UInt8)
  /-- a list -/
  | list (items : List Value)
  /-- a map, its entries in order of their keys' first appearance -/
  | map (entries : List (Value × Value))
  deriving Inhabited

namespace Value

/-! ## Numbers

A finite number of any kind is a fraction, so that comparisons are exact. -/

/-- A number on the extended line, or no number. -/
inductive Magnitude where
  | nan
  | infinite (negative : Bool)
  /-- `numerator / denominator`, with a positive denominator -/
  | fraction (numerator : Int) (denominator : Nat)
  deriving DecidableEq, Repr

namespace Magnitude

/-- Equality of numbers; what is no number equals nothing. -/
def same : Magnitude → Magnitude → Bool
  | .fraction a b, .fraction c d => a * d == c * b
  | .infinite s, .infinite t => s == t
  | _, _ => false

/-- The strict order of numbers; what is no number is in no order. -/
def less : Magnitude → Magnitude → Bool
  | .fraction a b, .fraction c d => a * d < c * b
  | .infinite s, .infinite t => s && !t
  | .infinite s, .fraction _ _ => s
  | .fraction _ _, .infinite t => !t
  | _, _ => false

/-- The order of numbers; what is no number is in no order. -/
def atMost (a b : Magnitude) : Bool := a.less b || a.same b

end Magnitude

/-- The number that a double precision number stands for. -/
def magnitudeOfReal (x : Binary64) : Magnitude :=
  match x.shape with
  | .nan => .nan
  | .infinite negative => .infinite negative
  | .finite negative significand exponent =>
      let (numerator, denominator) := Binary64.ratio negative significand exponent
      .fraction numerator denominator

/-- The number that a value is, if it is one. -/
def magnitude? : Value → Option Magnitude
  | .bool b => some (.fraction b.toNat 1)
  | .int n => some (.fraction n 1)
  | .real x => some (magnitudeOfReal x)
  | _ => none

/-! ## Truth, parts and look-up -/

/-- Whether a value counts as true: empty texts, lists and maps, zeros and the
missing value do not. -/
def isTrue : Value → Bool
  | .null => false
  | .bool b => b
  | .int n => n != 0
  | .real x => !x.isZero
  | .text s => s != ""
  | .bytes bs => !bs.isEmpty
  | .list items => !items.isEmpty
  | .map entries => !entries.isEmpty

/-- Whether there is a value at all. -/
def isNull : Value → Bool
  | .null => true
  | _ => false

/-- The parts of a value that is a sequence: items of a list, characters of a
text, numbers of a byte string, keys of a map. -/
def parts? : Value → Option (List Value)
  | .list items => some items
  | .text s => some (s.toList.map fun c => .text (String.singleton c))
  | .bytes bs => some (bs.map fun b => .int b.toNat)
  | .map entries => some (entries.map Prod.fst)
  | _ => none

/-- Equality of values that can be keys.  Texts and byte strings are compared as
they are, numbers across their kinds. -/
def sameKey : Value → Value → Bool
  | .null, .null => true
  | .text s, .text t => s == t
  | .bytes a, .bytes b => a == b
  | a, b =>
      match a.magnitude?, b.magnitude? with
      | some m, some n => m.same n
      | _, _ => false

/-- Whether a value can be a key: lists and maps cannot. -/
def isKey : Value → Bool
  | .list _ => false
  | .map _ => false
  | _ => true

/-- The value at a key among entries. -/
def find? (entries : List (Value × Value)) (key : Value) : Option Value :=
  (entries.find? fun entry => entry.1.sameKey key).map Prod.snd

/-- Add an entry at the end, or replace the value of the entry with that key. -/
def put (entries : List (Value × Value)) (key value : Value) : List (Value × Value) :=
  match entries with
  | [] => [(key, value)]
  | entry :: rest =>
      if entry.1.sameKey key then (entry.1, value) :: rest else entry :: put rest key value

/-- Entries put one after the other: a repeated key keeps its first place and
has its last value. -/
def collect (entries : List (Value × Value)) : List (Value × Value) :=
  entries.foldl (fun done entry => put done entry.1 entry.2) []

/-! ## Equality -/

mutual

/-- Equality of values.  Numbers compare across their kinds, and maps
regardless of the order of their entries. -/
def same : Value → Value → Bool
  | .list a, .list b => sameItems a b
  | .map a, .map b => a.length == b.length && sameEntries a b
  | .null, b => sameKey .null b
  | .bool x, b => sameKey (.bool x) b
  | .int n, b => sameKey (.int n) b
  | .real x, b => sameKey (.real x) b
  | .text s, b => sameKey (.text s) b
  | .bytes x, b => sameKey (.bytes x) b
  | _, _ => false

/-- Equality of lists, item by item. -/
def sameItems : List Value → List Value → Bool
  | [], [] => true
  | a :: as, b :: bs => same a b && sameItems as bs
  | _, _ => false

/-- Whether every entry of the first map has an equal one in the second. -/
def sameEntries : List (Value × Value) → List (Value × Value) → Bool
  | [], _ => true
  | (key, a) :: rest, entries =>
      (match find? entries key with
        | some b => same a b
        | none => false) && sameEntries rest entries

end

end Value

end QueryStream
