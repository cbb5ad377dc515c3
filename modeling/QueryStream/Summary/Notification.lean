/-
  Summary/Notification.lean --- hints of the server about a query.
-/
import QueryStream.Metadata
import QueryStream.Value.Fingerprint

set_option autoImplicit false

namespace QueryStream

/-- A hint of the server, with the place in the query that it is about. -/
structure Notification where
  code : String
  title : String
  description : String
  severity : Value
  position : Value

namespace Notification

/-- A text out of a reported notification: empty if it is not reported. -/
def readText (raw : Value) (name : String) : Except Cause String :=
  (raw.field? name).map fun found => (found.getD (.text "")).plain

/-- A notification as reported. -/
def ofValue (raw : Value) : Except Cause Notification := do
  return {
    code := ← readText raw "code"
    title := ← readText raw "title"
    description := ← readText raw "description"
    severity := ← raw.field "severity"
    position := ← raw.field "position" }

/-- Equality of notifications. -/
def same (a b : Notification) : Bool :=
  a.code == b.code && a.title == b.title && a.description == b.description
    && a.severity.same b.severity && a.position.same b.position

/-- The literal of a notification. -/
def literal (n : Notification) : String :=
  Value.bracketed "Notification(" ")"
    ["code=" ++ Text.quoted n.code, "title=" ++ Text.quoted n.title,
      "description=" ++ Text.quoted n.description, "severity=" ++ n.severity.literal,
      "position=" ++ n.position.literal]

/-- The place does not take part in the hash. -/
def fingerprint? (n : Notification) : Option Fingerprint :=
  n.severity.fingerprint?.map fun severity =>
    .group [.ofText n.code, .ofText n.title, .ofText n.description, severity]

end Notification

end QueryStream
