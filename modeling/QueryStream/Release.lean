/-
  Release.lean --- giving a connection back, once.

  A release may have several owners.  Whoever invokes it first starts it; every
  later invocation returns the promise of the first.  A release of nothing is
  complete as soon as it is invoked.
-/
import QueryStream.Log
import QueryStream.Loop.Basic
import QueryStream.Value.Literal

set_option autoImplicit false

namespace QueryStream

/-- A release, and the promise of its completion once it was invoked. -/
structure Release where
  /-- whether there is a connection to give back -/
  hasConnection : Bool
  promise : Option PromiseId
  deriving Repr

/-- The place of a release. -/
abbrev ReleaseId : Type := Nat

namespace Release

/-- A release of nothing. -/
def ofNothing : Release := ⟨false, none⟩

/-- The release of the connection. -/
def ofConnection : Release := ⟨true, none⟩

/-- Whether the release was invoked. -/
def isInvoked (r : Release) : Bool := r.promise.isSome

/-- The literal of a release. -/
def literal (r : Release) : String :=
  "ReleaseOnce(released=" ++ Value.boolLiteral r.isInvoked ++ ")"

/-- The line written when a connection is given back. -/
def startLine : Log.Line := ⟨.debug, .connection, "releasing connection"⟩

/-- The line written at every later invocation. -/
def reuseLine : Log.Line :=
  ⟨.debug, .connection, "release already invoked, reusing its outcome"⟩

end Release

end QueryStream
