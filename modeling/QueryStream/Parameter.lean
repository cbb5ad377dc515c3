/-
  Parameter.lean --- a parameter that may still be given under a former name.

  A value given under the former name draws a warning, even where the call is
  then refused because the value is given under both names.
-/
import QueryStream.Failure

set_option autoImplicit false

namespace QueryStream

/-- The names of a parameter, and the versions that bound the life of the former
one; an empty version is unknown. -/
structure Parameter where
  name : String
  formerName : String
  deprecatedIn : String
  removedIn : String
  deriving DecidableEq, Repr

namespace Parameter

/-- The warning about the former name. -/
def warning (p : Parameter) : String :=
  s!"Parameter '{p.formerName}' is deprecated"
    ++ (if p.deprecatedIn.isEmpty then "" else s!" as of {p.deprecatedIn}")
    ++ (if p.removedIn.isEmpty then "" else s!" and will be removed in {p.removedIn}")
    ++ s!". Please use '{p.name}' instead."

/-- The name under which the sort of the warning is reported. -/
def warningName : String := "DeprecatedWarning"

/-- The value of the parameter out of the values given under its two names, with
the warning that is due. -/
def resolve (p : Parameter) (value former : Value) : Option String × Except Cause Value :=
  if former.isNull then (none, .ok value)
  else if value.isNull then (some p.warning, .ok former)
  else (some p.warning, .error (.bothNames p.name p.formerName))

end Parameter

end QueryStream
