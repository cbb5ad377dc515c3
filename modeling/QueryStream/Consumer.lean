/-
  Consumer.lean --- who is told about records and about the end of a stream.

  A record consumer is told of each record and then, once, of the end.  A summary
  consumer is told of each batch that leaves more records, and then, once, of the
  summary.
-/

set_option autoImplicit false

namespace QueryStream

/-- Who is told about records. -/
inductive RecordConsumer where
  /-- the caller's own -/
  | client (id : Nat) (name : String)
  /-- nobody: the records are dropped -/
  | discard
  /-- the signals of an iteration -/
  | feed (iteration : Nat)
  deriving DecidableEq, Repr

/-- Who is told about batches and about the summary. -/
inductive SummaryConsumer where
  /-- the caller's own -/
  | client (id : Nat) (name : String)
  /-- a cursor -/
  | cursor (id : Nat)
  deriving DecidableEq, Repr

/-- How a consumer of the caller's own is shown. -/
def clientLiteral (name : String) : String := s!"<consumer {name}>"

namespace RecordConsumer

/-- How a record consumer is shown. -/
def literal : RecordConsumer → String
  | .client _ name => clientLiteral name
  | .discard => "<function discard_record_consumer>"
  | .feed _ => "<function ReactiveResult.records.<locals>.<lambda>>"

/-- The short name of a record consumer. -/
def name : RecordConsumer → String
  | .client _ name => name
  | .discard => "discard"
  | .feed _ => "lambda"

end RecordConsumer

end QueryStream
