/-
  Scenario/Connection.lean --- a connection that answers by a script.

  A connection counts what is written and may fail at one of the writes.  If its
  script has it answer, the n-th request to pull is answered with the rows it
  covers and then with the end of the batch: that more rows remain, or the final
  metadata.  One of these answers may break off with a failure instead.  Requests
  to drop what is left are put off as often as the script says.

  TURNS.  An answer need not come in one piece.  The pace of a script says how much
  a connection sends at each of its turns; what it does not send at one is left for
  the next, which is a job of its own, with any number of others before it.
-/
import QueryStream.Failure
import QueryStream.Stream

set_option autoImplicit false

namespace QueryStream

/-- When a connection answers. -/
inductive AnswerTime where
  /-- not by itself -/
  | never
  /-- in a job of its own -/
  | later
  /-- while the request is being written -/
  | atOnce
  deriving DecidableEq, Repr

/-- What becomes of giving a connection back. -/
inductive ReleaseConduct where
  | completes
  | neverEnds
  | fails (f : Failure)
  /-- the giving back does not even begin -/
  | refused (f : Failure)
  deriving DecidableEq, Repr

/-- An answer to pull that breaks off. -/
structure BrokenBatch where
  /-- the number of the request, counted from one -/
  pull : Int
  /-- how many rows are sent before, at most -/
  rows : Nat
  failure : Failure

/-- The script of a connection. -/
structure ConnectionScript where
  answers : AnswerTime
  /-- how many rows and ends a connection sends at each of its turns, at most; it sends all
  that there is once these are used up -/
  pace : List Nat := []
  /-- the number of the write that fails, counted from one -/
  brokenWrite : Option (Int × Failure)
  brokenBatch : Option BrokenBatch
  /-- the metadata of the last batch -/
  final : Value
  /-- how many requests to drop what is left are put off -/
  discardsPutOff : Int
  discardFailure : Option Failure
  /-- the metadata once what is left is dropped -/
  discarded : Value
  release : ReleaseConduct

/-- A connection: its script, the rows not sent, and what happened so far. -/
structure Connection where
  script : ConnectionScript
  /-- the rows that no answer covers yet -/
  rows : List Value
  /-- the rows of the answer under way that are not sent -/
  unsent : List Value
  /-- the pace of the turns to come -/
  pace : List Nat
  writes : Nat
  pulls : Nat
  discards : Nat
  releases : Nat

namespace Connection

/-- A connection on which nothing happened. -/
def fresh (script : ConnectionScript) (rows : List Value) : Connection :=
  ⟨script, rows, [], script.pace, 0, 0, 0, 0⟩

/-- The metadata that tells of more rows. -/
def moreMetadata : Value := .map [(.text "has_more", .bool true)]

/-- Count a write; the answer is the failure of it, if it fails. -/
def countWrite (c : Connection) : Connection × Option Failure :=
  let c := { c with writes := c.writes + 1 }
  (c, match c.script.brokenWrite with
    | some (n, f) => if (c.writes : Int) = n then some f else none
    | none => none)

/-- The break in the answer to a request to pull, if there is one. -/
def breakAt? (c : Connection) (pull : Nat) : Option BrokenBatch :=
  c.script.brokenBatch.filter fun b => b.pull == (pull : Int)

/-- How many rows answer a request for `n` of them. -/
def batchSize (c : Connection) (pull : Nat) (n : Int) : Nat :=
  let covered := if n = unlimited then c.rows.length else min n.toNat c.rows.length
  match c.breakAt? pull with
  | some b => min covered b.rows
  | none => covered

/-- Begin to answer the next request to pull, with the rows it covers. -/
def takeBatch (c : Connection) (n : Int) : Connection :=
  let pull := c.pulls + 1
  let size := c.batchSize pull n
  { c with pulls := pull, rows := c.rows.drop size, unsent := c.rows.take size }

/-- Begin a turn; the answer is how much is sent at it, if there is a limit. -/
def takeTurn (c : Connection) : Connection × Option Nat :=
  ({ c with pace := c.pace.tail }, c.pace.head?)

/-- Take the rows that are sent at a turn, and whether the end of the batch is sent with
them. -/
def takePortion (c : Connection) : Connection × List Value × Bool :=
  let (c, quota) := c.takeTurn
  match quota with
  | some quota =>
      if quota ≤ c.unsent.length then
        ({ c with unsent := c.unsent.drop quota }, c.unsent.take quota, false)
      else ({ c with unsent := [] }, c.unsent, true)
  | none => ({ c with unsent := [] }, c.unsent, true)

/-- How the answer to a request to pull ends. -/
def batchEnd (c : Connection) (pull : Nat) : Stream.Action :=
  match c.breakAt? pull with
  | some b => .fail b.failure
  | none => .succeed (if c.rows.isEmpty then c.script.final else moreMetadata)

/-- The answer to a request to drop what is left. -/
def answerDiscard (c : Connection) : Connection × Stream.Action :=
  let c := { c with discards := c.discards + 1 }
  if (c.discards : Int) ≤ c.script.discardsPutOff then (c, .succeed moreMetadata)
  else
    ({ c with rows := [] }, match c.script.discardFailure with
      | some f => .fail f
      | none => .succeed c.script.discarded)

end Connection

end QueryStream
