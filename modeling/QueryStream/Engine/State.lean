/-
  Engine/State.lean --- everything that runs a query's stream.

  The engine holds the outcome of the run request, the stream, the releases,
  cursors, results and iterations, and the loop of promises with its tasks.
-/
import QueryStream.Command

set_option autoImplicit false

namespace QueryStream

/-- What may leave an action. -/
inductive Thrown where
  | failure (f : Failure)
  /-- the task was cancelled -/
  | cancelled
  deriving DecidableEq, Repr

namespace Thrown

/-- A cause that arises here, thrown. -/
def arising (c : Cause) : Thrown := .failure (.arising c)

end Thrown

/-- Jobs of the loop. -/
inductive Job where
  /-- start a task -/
  | start (t : TaskId)
  /-- go on with a task whose promise is settled -/
  | resume (t : TaskId)
  /-- settle the second promise like the first -/
  | relay (source target : PromiseId)
  /-- have the first promise forget the second -/
  | unrelay (source target : PromiseId)
  /-- settle a promise with the failure that nobody was told of -/
  | report (c : CursorId) (source target : PromiseId)
  /-- write a line about an outcome -/
  | noteOutcome (p : PromiseId)
  /-- write a line about a release that went wrong -/
  | noteRelease (p : PromiseId)
  /-- have the connection answer a request -/
  | answer (m : Message)
  /-- have the connection go on with its answer to the given pull -/
  | sendOn (pull : Nat)
  /-- close an iteration that nobody can ask any more -/
  | abandon (i : IterationId)
  deriving DecidableEq, Repr

/-- What a task does. -/
inductive Work where
  /-- give the connection back -/
  | release
  /-- wait for the outcome of a cursor -/
  | consume (c : CursorId)
  /-- read the next record -/
  | next (i : IterationId)
  /-- close an iteration -/
  | close (i : IterationId)
  /-- read all records of a result -/
  | collect (q : ResultId)
  deriving DecidableEq, Repr

/-- A task: something that is carried out by jobs of the loop. -/
structure Task where
  /-- the promise of its completion -/
  promise : PromiseId
  work : Work
  /-- the promise it waits for -/
  waitingFor : Option PromiseId
  /-- whether it is to be cancelled when it next goes on -/
  isCancelRequested : Bool
  /-- the iteration it reads -/
  iteration : Option IterationId
  /-- the records it read, latest first -/
  collected : List Record

/-- The loop of an engine. -/
abbrev EngineLoop : Type := Loop Delivery Failure Job

/-- Who owns a stream, and is told first when it is over. -/
inductive Owner where
  /-- a session, which gives the connection back and keeps the bookmark -/
  | session (release : ReleaseId)
  /-- a transaction, which is marked as terminated by a failure -/
  | transaction
  deriving DecidableEq, Repr

/-- Everything that runs a query's stream. -/
structure Engine where
  query : Query
  server : ServerInfo
  /-- the cap on the records delivered -/
  cap : Value
  owner : Owner
  /-- the last bookmark of the session -/
  bookmark : Value
  /-- whether the channel is the stream; if not, it is outside -/
  hasStream : Bool
  channelRelease : Option ReleaseId
  run : RunOutcome
  stream : Stream
  releases : Array Release
  cursors : Array Cursor
  results : Array QueryResult
  iterations : Array Iteration
  tasks : Array Task
  loop : EngineLoop

namespace Engine

/-- Whether the outcome of a cursor is resolved. -/
def isResolved (e : Engine) (c : Cursor) : Bool := e.loop.isDone c.outcome

/-- The literal of the cursor at a place. -/
def cursorLiteral (e : Engine) (id : CursorId) : String :=
  match e.cursors[id]? with
  | some c => c.literal (e.isResolved c)
  | none => ""

/-- How a summary consumer is shown. -/
def showSummary (e : Engine) : SummaryConsumer → String
  | .client _ name => clientLiteral name
  | .cursor id =>
      match e.cursors[id]? with
      | some c => c.consumerLiteral (e.isResolved c)
      | none => ""

/-- What the stream looks at. -/
def surroundings (e : Engine) : Stream.Surroundings :=
  { query := e.query, server := e.server, cap := e.cap, run := e.run
    showSummary := e.showSummary }

/-- Change the loop. -/
def withLoop (e : Engine) (f : EngineLoop → EngineLoop) : Engine := { e with loop := f e.loop }

/-- Change a task. -/
def modifyTask (e : Engine) (t : TaskId) (f : Task → Task) : Engine :=
  { e with tasks := e.tasks.modify t f }

/-- Change an iteration. -/
def modifyIteration (e : Engine) (i : IterationId) (f : Iteration → Iteration) : Engine :=
  { e with iterations := e.iterations.modify i f }

/-- Tell an iteration something, and wake who waits for it. -/
def signal (e : Engine) (i : IterationId) (s : Signal) : Engine :=
  match e.iterations[i]? with
  | none => e
  | some iteration =>
      let e := e.modifyIteration i fun iteration =>
        { iteration with signals := iteration.signals ++ [s], awaited := none }
      match iteration.awaited with
      | some p => e.withLoop fun l => l.settle p (.value .nothing)
      | none => e

/-- The task whose completion a promise is, if it is one. -/
def taskOf? (e : Engine) (p : PromiseId) : Option TaskId :=
  e.tasks.findIdx? fun task => task.promise == p

/-- Cancel a promise.  A task is cancelled through the promise it waits for; one
that waits for nothing, or for something that is settled already, is cancelled
when it next goes on. -/
def cancel (e : Engine) (p : PromiseId) : Engine :=
  if e.loop.isDone p then e
  else
    match e.taskOf? p with
    | none => e.withLoop fun l => l.settle p .cancelled
    | some t =>
        match e.tasks[t]?.bind Task.waitingFor with
        | some awaited =>
            if e.loop.isDone awaited then
              e.modifyTask t fun task => { task with isCancelRequested := true }
            else e.withLoop fun l => l.settle awaited .cancelled
        | none => e.modifyTask t fun task => { task with isCancelRequested := true }

end Engine

end QueryStream
