/-
  Query.lean --- queries, and the requests written for their records.
-/
import QueryStream.Record

set_option autoImplicit false

namespace QueryStream

/-- The identifier that stands for the query run last on a connection. -/
def lastQuery : Int := -1

/-- A query: its text and its parameters, a map. -/
structure Query where
  text : Value
  parameters : Value

namespace Query

/-- The literal of a query. -/
def literal (q : Query) : String :=
  "Query(text=" ++ q.text.literal ++ ", parameters=" ++ q.parameters.literal ++ ")"

/-- Equality of queries. -/
def same (a b : Query) : Bool := a.text.same b.text && a.parameters.same b.parameters

/-- Parameters do not take part in the hash. -/
def fingerprint? (q : Query) : Option Fingerprint :=
  q.text.fingerprint?.map fun text => .group [text]

end Query

/-- What is asked of the server for the records of a query. -/
inductive Message where
  /-- the next records -/
  | pull (n : Int) (query : Int)
  /-- dropping the next records -/
  | discard (n : Int) (query : Int)
  deriving DecidableEq, Repr

namespace Message

/-- Dropping all remaining records. -/
def discardAll (query : Int) : Message := .discard unlimited query

/-- The name of a message on the wire. -/
def name : Message → String
  | .pull _ _ => "PULL"
  | .discard _ _ => "DISCARD"

/-- How many records a message is about. -/
def amount : Message → Int
  | .pull n _ => n
  | .discard n _ => n

/-- The query that a message is about. -/
def query : Message → Int
  | .pull _ query => query
  | .discard _ query => query

end Message

end QueryStream
