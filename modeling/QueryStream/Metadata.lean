/-
  Metadata.lean --- looking into the metadata of a response.

  Metadata is a value; only a map can be looked into.
-/
import QueryStream.Failure

set_option autoImplicit false

namespace QueryStream.Value

/-- The value at a name, in a map. -/
def field? (v : Value) (name : String) : Except Cause (Option Value) :=
  match v with
  | .map entries => .ok (find? entries (.text name))
  | _ => .error .noOperation

/-- The value at a name, in a map; a missing one is the missing value. -/
def field (v : Value) (name : String) : Except Cause Value :=
  (v.field? name).map fun found => found.getD .null

/-- Read a value as a whole number, or say why not. -/
def readWhole (v : Value) : Except Cause Int :=
  match v.whole with
  | .ok n => .ok n
  | .error fault => .error (.notWhole fault)

/-- Read a value as a whole number, unless it is missing. -/
def readWhole? (v : Value) : Except Cause (Option Int) :=
  if v.isNull then .ok none else v.readWhole.map some

/-- The parts of a value, none if it counts as false. -/
def readParts (v : Value) : Except Cause (List Value) :=
  if v.isTrue then
    match v.parts? with
    | some parts => .ok parts
    | none => .error .wrongSort
  else .ok []

/-- A number that may be missing, as a value. -/
def ofInt? : Option Int → Value
  | some n => .int n
  | none => .null

end QueryStream.Value
