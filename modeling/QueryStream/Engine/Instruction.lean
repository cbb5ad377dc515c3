/-
  Engine/Instruction.lean --- what an engine has yet to do.

  The engine works off an agenda.  Carrying out an instruction changes the
  engine and puts new instructions in front of the others, so that what an
  action hands out is finished before the rest of the action goes on.
  Instructions that are not the engine's to carry out are asks: whoever runs the
  engine answers them, and may put instructions of its own on the agenda.

  Guards mark where something thrown is caught: at the end of a task, of an
  iteration's inside, of a job and of a command.
-/
import QueryStream.Engine.State

set_option autoImplicit false

namespace QueryStream

/-- What an engine asks of its surroundings. -/
inductive Ask where
  | log (line : Log.Line)
  | warn (text : String)
  /-- write a request to the connection -/
  | write (m : Message)
  /-- have the connection answer a request -/
  | answer (m : Message)
  /-- have the connection go on with its answer to the given pull -/
  | sendOn (pull : Nat)
  /-- have the connection end its answer to the given pull -/
  | endBatch (pull : Nat)
  /-- tell a caller's own consumer of a record -/
  | record (consumer : Nat) (r : Record)
  /-- tell a caller's own consumer of the end -/
  | ended (consumer : Nat) (f : Option Failure)
  /-- tell a caller's own consumer of a summary; with nothing to tell, of more -/
  | summary (consumer : Nat) (s : Option Summary) (f : Option Failure)
  /-- mark the transaction as terminated -/
  | terminate (f : Failure)
  /-- have the connection begin to be given back -/
  | release
  /-- give the connection back, in a task -/
  | runRelease (t : TaskId)
  /-- a channel outside is asked something -/
  | channel (r : ChannelRequest)
  /-- have a channel outside tell its record consumer of the end -/
  | endOutside (f : Option Failure)
  /-- a promise is handed to the caller -/
  | promise (name : String) (p : PromiseId)
  /-- an iteration is handed to the caller -/
  | iteration (name : String) (i : IterationId)
  /-- a cursor is handed to the caller -/
  | cursor (c : CursorId)
  /-- a result is handed to the caller -/
  | result (q : ResultId)
  /-- a failure left a job -/
  | jobFailed (f : Failure)
  /-- a failure left a command -/
  | commandFailed (f : Failure)
  /-- carry out a command -/
  | perform (c : Command)
  /-- a command is answered -/
  | report (a : Answer)

/-- Where something thrown is caught. -/
inductive Guard where
  /-- at the end of a task -/
  | task (t : TaskId)
  /-- inside an iteration -/
  | iteration (i : IterationId)
  /-- at the end of a job -/
  | job
  /-- at the end of a command -/
  | command
  deriving DecidableEq, Repr

/-- What an engine has yet to do. -/
inductive Instruction where
  | stream (a : Stream.Action)
  | cursor (c : CursorId) (a : Cursor.Action)
  /-- an action of an iteration, for a task -/
  | iteration (i : IterationId) (t : TaskId) (a : Iteration.Action)
  | runSucceed (metadata : Value)
  | runFail (f : Failure)
  /-- ask the channel -/
  | channel (r : ChannelRequest)
  | ownerSucceeded (metadata : Value)
  | ownerFailed (f : Failure)
  | tellRecord (c : RecordConsumer) (r : Record)
  | tellEnd (c : RecordConsumer) (f : Option Failure)
  | tellSummary (c : SummaryConsumer) (s : Option Summary) (f : Option Failure)
  /-- settle a promise, unless it is settled -/
  | settle (p : PromiseId) (s : Settlement Delivery Failure)
  /-- hand out a promise that follows the outcome of a cursor -/
  | relay (c : CursorId) (receiver : Receiver)
  /-- hand out a promise of the failure that nobody was told of -/
  | reportFailure (c : CursorId) (receiver : Receiver)
  /-- hand out a promise that is kept -/
  | keep (receiver : Receiver) (d : Delivery)
  /-- invoke a release and hand out its promise -/
  | release (r : ReleaseId) (receiver : Receiver)
  /-- start the task of a release and hand out its promise -/
  | startRelease (r : ReleaseId) (receiver : Receiver)
  /-- hand out a promise -/
  | hand (receiver : Receiver) (p : PromiseId)
  /-- hand out an iteration -/
  | handIteration (receiver : Receiver) (i : IterationId)
  /-- start reading the records of a result -/
  | records (q : ResultId) (fetchSize former : Value) (receiver : Receiver)
  | openCursor (plan : CursorPlan)
  | openResult (c : CursorId) (o : FullOptions)
  /-- start a task and hand out its promise -/
  | spawn (w : Work) (receiver : Receiver)
  | cancelPromise (p : PromiseId)
  | soon (j : Job)
  /-- carry out a task from the beginning -/
  | body (t : TaskId)
  /-- have a task wait for a promise -/
  | await (t : TaskId) (p : PromiseId)
  /-- have a task wait for what never comes -/
  | awaitNever (t : TaskId)
  /-- have a task wait for a signal -/
  | awaitSignal (i : IterationId) (t : TaskId)
  /-- go on with a task: what it waited for is settled -/
  | woken (t : TaskId) (s : Settlement Delivery Failure)
  /-- hand a record to a task that reads -/
  | yielded (t : TaskId) (r : Record)
  /-- tell a task that reads that there is nothing more -/
  | exhausted (t : TaskId)
  /-- end a task -/
  | finish (t : TaskId) (d : Delivery)
  | throw (th : Thrown)
  | guarded (g : Guard)
  /-- something thrown was caught -/
  | caught (g : Guard) (th : Thrown)
  | ask (a : Ask)

namespace Instruction

/-- The instructions of a stream's effect. -/
def ofStream : Stream.Effect → Instruction
  | .log line => .ask (.log line)
  | .write m => .ask (.write m)
  | .ownerSucceeded metadata => .ownerSucceeded metadata
  | .ownerFailed f => .ownerFailed f
  | .tellRecord c r => .tellRecord c r
  | .tellEnd c f => .tellEnd c f
  | .tellMore c => .tellSummary c none none
  | .tellSummary c s f => .tellSummary c (some s) f
  | .andThen a => .stream a

/-- The instruction of a cursor's effect. -/
def ofCursor (id : CursorId) (c : Cursor) : Cursor.Effect → Instruction
  | .log line => .ask (.log line)
  | .channel r => .channel r
  | .resolve s => .settle c.outcome s
  | .relay receiver => .relay id receiver
  | .report receiver => .reportFailure id receiver
  | .keep receiver f => .keep receiver (.failure f)
  | .release receiver => .release c.release receiver
  | .andThen a => .cursor id a

/-- The instructions of an iteration's effect. -/
def ofIteration (id : IterationId) (i : Iteration) (t : TaskId) :
    Iteration.Effect → List Instruction
  | .log line => [.ask (.log line)]
  | .request n => [.cursor i.cursor (.request n)]
  | .cancel => [.cursor i.cursor .cancel]
  | .guarded a => [.iteration id t a, .guarded (.iteration id)]
  | .await => [.awaitSignal id t]
  | .hand r => [.yielded t r]
  | .exhausted => [.exhausted t]
  | .closed => [.finish t .nothing]
  | .fail f => [.throw (.failure f)]
  | .andThen a => [.iteration id t a]

/-- The stream's action for what a cursor asks of its channel. -/
def ofChannelRequest : ChannelRequest → Stream.Action
  | .installRecord c => .installRecord c
  | .installSummary c => .installSummary c
  | .request n => .request n
  | .cancel => .cancel
  | .fail f => .fail f

end Instruction

/-- How carrying out an instruction ends. -/
inductive Reply where
  /-- go on with these first -/
  | go (next : List Instruction)
  /-- leave the nearest guard behind and go on with these -/
  | exit (next : List Instruction)
  /-- something is thrown -/
  | raise (th : Thrown)
  /-- a task waits -/
  | suspend (t : TaskId)

/-- What is on an agenda after the nearest guard, with that guard. -/
def unwind : List Instruction → Option (Guard × List Instruction)
  | [] => none
  | .guarded g :: rest => some (g, rest)
  | _ :: rest => unwind rest

/-- What is on an agenda after the end of a task. -/
def afterTask (t : TaskId) : List Instruction → List Instruction
  | [] => []
  | .guarded (.task u) :: rest => if u = t then rest else afterTask t rest
  | _ :: rest => afterTask t rest

/-- The agenda after a reply. -/
def Reply.onto (reply : Reply) (rest : List Instruction) : List Instruction :=
  match reply with
  | .go next => next ++ rest
  | .exit next => next ++ ((unwind rest).map Prod.snd).getD []
  | .raise th =>
      match unwind rest with
      | some (g, rest) => .caught g th :: rest
      | none => []
  | .suspend t => afterTask t rest

end QueryStream
