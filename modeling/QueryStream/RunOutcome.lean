/-
  RunOutcome.lean --- the response to the request that starts a query.

  A success brings the keys of the result, the identifier of the query and the
  time to the first record; a failure brings itself.  The first response
  resolves the outcome.  The three fields are taken over one by one as they are
  read, so metadata that is refused half-way leaves what was read before.
-/
import QueryStream.Log
import QueryStream.Metadata
import QueryStream.Query

set_option autoImplicit false

namespace QueryStream

/-- What is known of the start of a query. -/
structure RunOutcome where
  keys : List Value
  query : Int
  availableAfter : Option Int
  /-- the first response: a failure, or none for a success -/
  resolution : Option (Option Failure)

namespace RunOutcome

/-- Nothing is known yet. -/
def pending : RunOutcome := ⟨[], lastQuery, none, none⟩

/-- Whether a response came. -/
def isResolved (o : RunOutcome) : Bool := o.resolution.isSome

/-- The failure of the query to start, if it failed. -/
def runError? (o : RunOutcome) : Option Failure := o.resolution.join

/-- Resolve the outcome, unless it is resolved. -/
def resolve (o : RunOutcome) (response : Option Failure) : RunOutcome :=
  if o.isResolved then o else { o with resolution := some response }

/-- The line written when a query has started. -/
def startedLine (o : RunOutcome) : Log.Line :=
  ⟨.debug, .run, "query started, keys " ++ (Value.list o.keys).literal
    ++ s!", query id {o.query}"⟩

/-- The line written when a query failed to start. -/
def failedLine (f : Failure) : Log.Line :=
  ⟨.debug, .run, "query failed to start: " ++ f.literal⟩

/-- Take over the keys. -/
def readKeys (o : RunOutcome) (metadata : Value) : Except Cause RunOutcome := do
  let keys ← (← metadata.field "fields").readParts
  return { o with keys }

/-- Take over the identifier of the query. -/
def readQuery (o : RunOutcome) (metadata : Value) : Except Cause RunOutcome := do
  let query ← (← metadata.field "qid").readWhole?
  return { o with query := query.getD lastQuery }

/-- Take over the time to the first record. -/
def readTime (o : RunOutcome) (metadata : Value) : Except Cause RunOutcome := do
  let availableAfter ← (← metadata.field "t_first").readWhole?
  return { o with availableAfter }

/-- A success with its metadata: what it leaves, and why it was refused if it
was. -/
def succeed (o : RunOutcome) (metadata : Value) : RunOutcome × Option Cause :=
  match o.readKeys metadata with
  | .error c => (o, some c)
  | .ok o =>
      match o.readQuery metadata with
      | .error c => (o, some c)
      | .ok o =>
          match o.readTime metadata with
          | .error c => (o, some c)
          | .ok o => (o.resolve none, none)

/-- A failure to start. -/
def fail (o : RunOutcome) (f : Failure) : RunOutcome := o.resolve (some f)

/-- The literal of an outcome. -/
def literal (o : RunOutcome) : String :=
  "RunResponseHandler(keys=" ++ (Value.list o.keys).literal
    ++ s!", query_id={o.query}, done=" ++ Value.boolLiteral o.isResolved ++ ")"

end RunOutcome

end QueryStream
