/-
  Summary/Basic.lean --- what is known of a query when its stream is over.

  A summary is read from the metadata of the response that ends the stream.
  Empty metadata yields the empty summary, which stands for a failed stream.
-/
import QueryStream.Query
import QueryStream.Vocabulary
import QueryStream.Summary.Counters
import QueryStream.Summary.Notification

set_option autoImplicit false

namespace QueryStream

/-- Where a query ran. -/
structure ServerInfo where
  address : Value
  agent : Value
  version : Value

namespace ServerInfo

/-- Equality of servers. -/
def same (a b : ServerInfo) : Bool :=
  a.address.same b.address && a.agent.same b.agent && a.version.same b.version

/-- The literal of a server. -/
def literal (s : ServerInfo) : String :=
  Value.bracketed "ServerInfo(" ")"
    ["address=" ++ s.address.literal, "agent=" ++ s.agent.literal,
      "protocol_version=" ++ s.version.literal]

/-- All of a server takes part in the hash. -/
def fingerprint? (s : ServerInfo) : Option Fingerprint := do
  return .group [← s.address.fingerprint?, ← s.agent.fingerprint?, ← s.version.fingerprint?]

end ServerInfo

/-- What is known of a query when its stream is over. -/
structure Summary where
  query : Query
  queryType : Option QueryType
  counters : Counters
  server : ServerInfo
  database : Value
  /-- milliseconds until the first record was available -/
  availableAfter : Value
  /-- milliseconds from then until the end of the stream -/
  consumedAfter : Option Int
  notifications : List Notification
  bookmark : Value

namespace Summary

/-- The query type that metadata names, if it names one. -/
def readQueryType (metadata : Value) : Except Cause (Option QueryType) := do
  let raw ← metadata.field "type"
  if raw.isNull then return none
  match QueryType.vocabulary.coerce (.value raw) with
  | .ok w => return QueryType.ofWord? w
  | .error _ => .error (.queryTypeUnknown raw.plain)

/-- The database that metadata names: directly, or inside a map. -/
def readDatabase (metadata : Value) : Except Cause Value := do
  let raw ← metadata.field "db"
  match raw with
  | .map _ => raw.field "name"
  | _ => return raw

/-- The summary of a query out of the metadata that ends its stream, read from
the query type to the bookmark. -/
def ofMetadata (query : Query) (server : ServerInfo) (availableAfter : Value)
    (metadata : Value) : Except Cause Summary := do
  let last ← metadata.field "t_last"
  let queryType ← readQueryType metadata
  let counters ← Counters.ofStats (← metadata.field "stats")
  let database ← readDatabase metadata
  let consumedAfter ← last.readWhole?
  let notifications ← (← (← metadata.field "notifications").readParts).mapM Notification.ofValue
  let bookmark ← metadata.field "bookmark"
  return { query, queryType, counters, server, database, availableAfter, consumedAfter,
           notifications, bookmark }

/-- The summary of a query of which nothing is reported. -/
def empty (query : Query) (server : ServerInfo) (availableAfter : Value) : Summary :=
  { query, queryType := none, counters := .zero, server, database := .null, availableAfter,
    consumedAfter := none, notifications := [], bookmark := .null }

/-- Equality of lists of notifications. -/
def sameNotifications : List Notification → List Notification → Bool
  | [], [] => true
  | a :: as, b :: bs => a.same b && sameNotifications as bs
  | _, _ => false

/-- Equality of summaries. -/
def same (a b : Summary) : Bool :=
  a.query.same b.query && a.queryType == b.queryType && a.counters.same b.counters
    && a.server.same b.server && a.database.same b.database
    && a.availableAfter.same b.availableAfter && a.consumedAfter == b.consumedAfter
    && sameNotifications a.notifications b.notifications && a.bookmark.same b.bookmark

/-- The literal of a summary. -/
def literal (s : Summary) : String :=
  Value.bracketed "ResultSummary(" ")"
    ["query=" ++ s.query.literal,
      "query_type=" ++ Value.optionLiteral QueryType.literal s.queryType,
      "counters=" ++ s.counters.literal,
      "server=" ++ s.server.literal,
      "database=" ++ s.database.literal,
      "result_available_after=" ++ s.availableAfter.literal,
      "result_consumed_after=" ++ Value.optionLiteral toString s.consumedAfter,
      "notifications=" ++ Value.bracketed "[" "]" (s.notifications.map Notification.literal),
      "bookmark=" ++ s.bookmark.literal]

/-- The notifications do not take part in the hash. -/
def fingerprint? (s : Summary) : Option Fingerprint := do
  let query ← s.query.fingerprint?
  let counters ← s.counters.fingerprint?
  let server ← s.server.fingerprint?
  let database ← s.database.fingerprint?
  let available ← s.availableAfter.fingerprint?
  let bookmark ← s.bookmark.fingerprint?
  let queryType := match s.queryType with
    | some t => Fingerprint.ofText t.word.name
    | none => .null
  let consumed := match s.consumedAfter with
    | some n => Fingerprint.ofInt n
    | none => .null
  return .group [query, queryType, counters, server, database, available, consumed, bookmark]

end Summary

end QueryStream
