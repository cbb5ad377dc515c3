/-
  Record.lean --- one row of a result.

  A record pairs the keys of a result with as many values.  Column names may
  repeat: by name, the last value of that name is found.  By position, negative
  positions count from the end.
-/
import QueryStream.Failure
import QueryStream.Value.Fingerprint

set_option autoImplicit false

namespace QueryStream

/-! ## Equality of lists

A list takes an object to be equal to itself, also one whose value is not: a number that is no
number.  What two lists share is therefore said beside their values. -/

namespace Value

/-- Equality of lists, item by item; `shared` tells at which positions the items are equal on
account of objects that both lists hold. -/
def sameItemsSharing (shared : Nat → Bool) : List Value → List Value → Bool
  | [], [] => true
  | a :: as, b :: bs =>
      (shared 0 || a.same b) && sameItemsSharing (fun i => shared (i + 1)) as bs
  | _, _ => false

/-- Equality of lists of columns: the names are the same, and the values equal. -/
def sameColumnsSharing (shared : Nat → Bool) : List (Value × Value) → List (Value × Value) → Bool
  | [], [] => true
  | (k, a) :: as, (l, b) :: bs =>
      (k.same l && (shared 0 || a.same b)) && sameColumnsSharing (fun i => shared (i + 1)) as bs
  | _, _ => false

end Value

/-! ## Records -/

/-- A row: the keys of the result and as many values. -/
structure Record where
  keys : List Value
  values : List Value
  lengths : values.length = keys.length

namespace Record

instance : Inhabited Record := ⟨⟨[], [], rfl⟩⟩

/-- Pair keys with values.  There must be as many values as keys, and every key
must be able to be one. -/
def make? (keys values : List Value) : Except Cause Record :=
  if h : values.length = keys.length then
    if keys.all Value.isKey then .ok ⟨keys, values, h⟩ else .error .wrongSort
  else .error (.lengthsDiffer keys.length values.length)

/-- Pair the parts of two sequences. -/
def ofSequences? (keys values : Value) : Except Cause Record :=
  match keys.parts?, values.parts? with
  | some keys, some values => make? keys values
  | _, _ => .error .wrongSort

/-- The number of columns. -/
def size (r : Record) : Nat := r.values.length

/-- Keys with their values, in order. -/
def items (r : Record) : List (Value × Value) := r.keys.zip r.values

/-- The record as a map: a repeated key has its last value. -/
def data (r : Record) : List (Value × Value) := Value.collect r.items

/-- The last value at a key. -/
def find? (r : Record) (key : Value) : Option Value :=
  (r.items.reverse.find? fun item => item.1.sameKey key).map Prod.snd

/-- The value at a key, or a default.  What cannot be a key is refused. -/
def get (r : Record) (key default : Value) : Except Cause Value :=
  if key.isKey then .ok ((r.find? key).getD default) else .error .wrongSort

/-- The value at a position.  Negative positions count from the end.  A position out
of range is told apart by whether it is a machine word. -/
def at? (r : Record) (position : Int) : Except Cause Value :=
  let index := if position < 0 then position + r.size else position
  match if index < 0 then none else r.values[index.toNat]? with
  | some v => .ok v
  | none =>
      if position < -Int.pow 2 63 ∨ Int.pow 2 63 ≤ position then .error .positionTooLarge
      else .error .positionOutOfRange

/-- The value at a name or a position. -/
def item (r : Record) (selector : Value) : Except Cause Value :=
  match selector with
  | .text name =>
      match r.find? (.text name) with
      | some v => .ok v
      | none => .error (.keyMissing (Text.quoted name))
  | .int n => r.at? n
  | .bool b => r.at? b.toNat
  | _ => .error .wrongSort

/-- Whether one of the values equals a given one. -/
def contains (r : Record) (v : Value) : Bool := r.values.any fun x => x.same v

/-- Equality of records that may share objects: equal keys and equal values, in order.  At the
positions that `shared` tells, values are equal on account of the objects. -/
def sameSharing (shared : Nat → Bool) (a b : Record) : Bool :=
  Value.sameItems a.keys b.keys && Value.sameItemsSharing shared a.values b.values

/-- Equality of records that share nothing. -/
def same (a b : Record) : Bool := a.sameSharing (fun _ => false) b

/-- Records have no hash, since their values may be lists and maps. -/
def hash? (_ : Record) : Except Cause Fingerprint := .error .wrongSort

/-- The literal of a record: names stand for themselves, values as literals. -/
def literal (r : Record) : String :=
  "<Record " ++ " ".intercalate (r.items.map fun item => item.1.plain ++ "=" ++ item.2.literal)
    ++ ">"

end Record

end QueryStream
