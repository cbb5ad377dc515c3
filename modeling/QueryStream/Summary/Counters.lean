/-
  Summary/Counters.lean --- what a query changed.

  The server reports twelve counters, each under its name with hyphens, and two
  flags that may overrule what follows from the counters.
-/
import QueryStream.Metadata
import QueryStream.Value.Fingerprint

set_option autoImplicit false

namespace QueryStream

/-- The counters, by what they count. -/
inductive Counter where
  | nodesCreated
  | nodesDeleted
  | relationshipsCreated
  | relationshipsDeleted
  | propertiesSet
  | labelsAdded
  | labelsRemoved
  | indexesAdded
  | indexesRemoved
  | constraintsAdded
  | constraintsRemoved
  | systemUpdates
  deriving DecidableEq, Repr

namespace Counter

/-- All counters, in the order in which they are shown. -/
def all : List Counter :=
  [.nodesCreated, .nodesDeleted, .relationshipsCreated, .relationshipsDeleted, .propertiesSet,
    .labelsAdded, .labelsRemoved, .indexesAdded, .indexesRemoved, .constraintsAdded,
    .constraintsRemoved, .systemUpdates]

/-- The name under which a counter is shown. -/
def name : Counter → String
  | .nodesCreated => "nodes_created"
  | .nodesDeleted => "nodes_deleted"
  | .relationshipsCreated => "relationships_created"
  | .relationshipsDeleted => "relationships_deleted"
  | .propertiesSet => "properties_set"
  | .labelsAdded => "labels_added"
  | .labelsRemoved => "labels_removed"
  | .indexesAdded => "indexes_added"
  | .indexesRemoved => "indexes_removed"
  | .constraintsAdded => "constraints_added"
  | .constraintsRemoved => "constraints_removed"
  | .systemUpdates => "system_updates"

/-- The name under which a counter is reported. -/
def wireName : Counter → String
  | .nodesCreated => "nodes-created"
  | .nodesDeleted => "nodes-deleted"
  | .relationshipsCreated => "relationships-created"
  | .relationshipsDeleted => "relationships-deleted"
  | .propertiesSet => "properties-set"
  | .labelsAdded => "labels-added"
  | .labelsRemoved => "labels-removed"
  | .indexesAdded => "indexes-added"
  | .indexesRemoved => "indexes-removed"
  | .constraintsAdded => "constraints-added"
  | .constraintsRemoved => "constraints-removed"
  | .systemUpdates => "system-updates"

end Counter

/-- The counters of a query and the two flags. -/
structure Counters where
  nodesCreated : Int
  nodesDeleted : Int
  relationshipsCreated : Int
  relationshipsDeleted : Int
  propertiesSet : Int
  labelsAdded : Int
  labelsRemoved : Int
  indexesAdded : Int
  indexesRemoved : Int
  constraintsAdded : Int
  constraintsRemoved : Int
  systemUpdates : Int
  /-- whether the graph was changed, if reported -/
  updatesFlag : Value
  /-- whether the system was changed, if reported -/
  systemUpdatesFlag : Value

namespace Counters

/-- Nothing changed and nothing reported. -/
def zero : Counters := ⟨0, 0, 0, 0, 0, 0, 0, 0, 0, 0, 0, 0, .null, .null⟩

/-- The value of a counter. -/
def count (c : Counters) : Counter → Int
  | .nodesCreated => c.nodesCreated
  | .nodesDeleted => c.nodesDeleted
  | .relationshipsCreated => c.relationshipsCreated
  | .relationshipsDeleted => c.relationshipsDeleted
  | .propertiesSet => c.propertiesSet
  | .labelsAdded => c.labelsAdded
  | .labelsRemoved => c.labelsRemoved
  | .indexesAdded => c.indexesAdded
  | .indexesRemoved => c.indexesRemoved
  | .constraintsAdded => c.constraintsAdded
  | .constraintsRemoved => c.constraintsRemoved
  | .systemUpdates => c.systemUpdates

/-- Whether the query changed the graph: as reported, or else whether any of the
counters of the graph is not zero. -/
def containsUpdates (c : Counters) : Value :=
  if c.updatesFlag.isNull then
    .bool ([c.nodesCreated, c.nodesDeleted, c.relationshipsCreated, c.relationshipsDeleted,
      c.propertiesSet, c.labelsAdded, c.labelsRemoved, c.indexesAdded, c.indexesRemoved,
      c.constraintsAdded, c.constraintsRemoved].any (· != 0))
  else c.updatesFlag

/-- Whether the query changed the system: as reported, or else whether its
counter is positive. -/
def containsSystemUpdates (c : Counters) : Value :=
  if c.systemUpdatesFlag.isNull then .bool (0 < c.systemUpdates) else c.systemUpdatesFlag

/-- One counter out of the reported statistics: zero if it is not reported. -/
def readCount (stats : Value) (c : Counter) : Except Cause Int := do
  let found ← stats.field? c.wireName
  (found.getD (.int 0)).readWhole

/-- The counters out of the reported statistics, read in order. -/
def ofStats (stats : Value) : Except Cause Counters :=
  if stats.isTrue then do
    return {
      nodesCreated := ← readCount stats .nodesCreated
      nodesDeleted := ← readCount stats .nodesDeleted
      relationshipsCreated := ← readCount stats .relationshipsCreated
      relationshipsDeleted := ← readCount stats .relationshipsDeleted
      propertiesSet := ← readCount stats .propertiesSet
      labelsAdded := ← readCount stats .labelsAdded
      labelsRemoved := ← readCount stats .labelsRemoved
      indexesAdded := ← readCount stats .indexesAdded
      indexesRemoved := ← readCount stats .indexesRemoved
      constraintsAdded := ← readCount stats .constraintsAdded
      constraintsRemoved := ← readCount stats .constraintsRemoved
      systemUpdates := ← readCount stats .systemUpdates
      updatesFlag := ← stats.field "contains-updates"
      systemUpdatesFlag := ← stats.field "contains-system-updates" }
  else .ok zero

/-- The counters that are not zero, in order. -/
def nonzero (c : Counters) : List (Counter × Int) :=
  (Counter.all.map fun k => (k, c.count k)).filter fun entry => entry.2 != 0

/-- Equality of counters: all counts and both flags. -/
def same (a b : Counters) : Bool :=
  (Counter.all.all fun k => a.count k == b.count k)
    && a.updatesFlag.same b.updatesFlag && a.systemUpdatesFlag.same b.systemUpdatesFlag

/-- The literal of counters; the flags are not shown. -/
def literal (c : Counters) : String :=
  Value.bracketed "SummaryCounters(" ")"
    (Counter.all.map fun k => k.name ++ "=" ++ toString (c.count k))

/-- All counts and both flags take part in the hash. -/
def fingerprint? (c : Counters) : Option Fingerprint := do
  let updates ← c.updatesFlag.fingerprint?
  let systemUpdates ← c.systemUpdatesFlag.fingerprint?
  return .group ((Counter.all.map fun k => .ofInt (c.count k)) ++ [updates, systemUpdates])

end Counters

end QueryStream
