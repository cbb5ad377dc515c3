/-
  Cursor.lean --- one outcome for the records of a query.

  A cursor stands over a channel that delivers records.  It resolves one
  outcome: the summary, a failure, or nothing for a result that was rolled back.
  A failure is reported to one caller only: to whoever asks for it first.  Once
  the result is consumed, it is neither read nor asked for again.

  As with streams, a step changes the cursor and yields effects in order, and
  what is left of an action is an effect too.
-/
import QueryStream.Consumer
import QueryStream.Release
import QueryStream.Summary.Basic

set_option autoImplicit false

namespace QueryStream

/-! ## Channels -/

/-- What a cursor asks of its channel. -/
inductive ChannelRequest where
  | installRecord (c : RecordConsumer)
  | installSummary (c : SummaryConsumer)
  | request (n : Int)
  | cancel
  /-- end the stream with a failure -/
  | fail (f : Failure)

/-! ## Promises -/

/-- What promises deliver. -/
inductive Delivery where
  | nothing
  | summary (s : Summary)
  /-- a failure, kept as a value -/
  | failure (f : Failure)
  | record (r : Record)
  | records (rs : List Record)
  /-- there are no more records -/
  | exhausted

/-- The place of a task. -/
abbrev TaskId : Type := Nat

/-- Who gets the promise that a call returns. -/
inductive Receiver where
  /-- nobody -/
  | nobody
  /-- the caller, who keeps it under a name -/
  | caller (name : String)
  /-- a task, which waits for it -/
  | task (t : TaskId)
  deriving DecidableEq, Repr

/-! ## Cursors -/

/-- Whether, and what kind of, record consumer a cursor has. -/
inductive ConsumerStatus where
  | notInstalled
  | installed
  | discardInstalled
  deriving DecidableEq, Repr

namespace ConsumerStatus

/-- The name of a status. -/
def name : ConsumerStatus → String
  | .notInstalled => "not_installed"
  | .installed => "installed"
  | .discardInstalled => "discard_installed"

/-- Whether there is a consumer. -/
def isInstalled (s : ConsumerStatus) : Bool := s != .notInstalled

/-- The status after a consumer is installed. -/
def ofConsumer : RecordConsumer → ConsumerStatus
  | .discard => .discardInstalled
  | _ => .installed

end ConsumerStatus

/-- The state of a cursor. -/
structure Cursor where
  status : ConsumerStatus
  isConsumed : Bool
  /-- the failure of the query to start, if it failed -/
  runError : Option Failure
  release : ReleaseId
  /-- the promise of the outcome -/
  outcome : PromiseId
  /-- whether the failure to start was asked for -/
  isErrorSurfaced : Bool
  /-- whether the summary was asked for -/
  isSummaryExposed : Bool
  /-- whether the caller's own record consumer gets the failure -/
  isErrorDelivered : Bool
  deriving Repr

/-- The place of a cursor. -/
abbrev CursorId : Type := Nat

namespace Cursor

/-- A cursor of which nothing was asked. -/
def fresh (runError : Option Failure) (release : ReleaseId) (outcome : PromiseId) : Cursor :=
  ⟨.notInstalled, false, runError, release, outcome, false, false, false⟩

/-- What a cursor can be asked to do, and what may be left of it. -/
inductive Action where
  /-- take a record consumer, unless there is one -/
  | install (c : RecordConsumer)
  | request (n : Int)
  | cancel
  /-- promise the outcome -/
  | summary (receiver : Receiver)
  /-- bring the stream to its end, and promise a failure nobody was told of -/
  | discardAll (receiver : Receiver)
  /-- the same, unless a consumer is still reading -/
  | pullAll (receiver : Receiver)
  /-- abandon the result -/
  | rollback (receiver : Receiver)
  /-- mark the failure to start as reported -/
  | surfaceError
  /-- take what the channel tells of the end of a batch or of the stream -/
  | notify (s : Option Summary) (f : Option Failure)
  /-- go on once a consumer is installed: end the stream if the query failed to start -/
  | injectError
  /-- go on once the stream was given up -/
  | markConsumed

/-- What a step brings about, in order. -/
inductive Effect where
  | log (line : Log.Line)
  | channel (r : ChannelRequest)
  /-- resolve the outcome, unless it is resolved -/
  | resolve (s : Settlement Delivery Failure)
  /-- hand out a promise that follows the outcome -/
  | relay (receiver : Receiver)
  /-- hand out a promise of the failure that nobody was told of -/
  | report (receiver : Receiver)
  /-- hand out a promise that is kept with a failure as its value -/
  | keep (receiver : Receiver) (f : Failure)
  /-- invoke the release and hand out its promise -/
  | release (receiver : Receiver)
  /-- go on with what is left of the action -/
  | andThen (a : Action)

/-- A line of a cursor. -/
def line (level : Log.Level) (text : String) : Effect := .log ⟨level, .cursor, text⟩

/-- Refuse a result that is consumed. -/
def ensureOpen (c : Cursor) : Except Cause Unit :=
  if c.isConsumed then .error .resultConsumed else .ok ()

/-- What brings the stream to its end so that the outcome resolves: nothing, if
the outcome is resolved or the result consumed. -/
def stage (c : Cursor) (done : Bool) : List Effect :=
  if done || c.isConsumed then []
  else
    [line .info "summary requested before the end of the stream, discarding records",
      .andThen (.install .discard), .andThen .cancel, .andThen .markConsumed]

/-- One step of a cursor; `done` tells whether its outcome is resolved. -/
def step (done : Bool) (c : Cursor) (a : Action) : Except Cause (Cursor × List Effect) :=
  match a with
  | .install consumer => do
      c.ensureOpen
      if c.status.isInstalled then return (c, [])
      else
        let status := ConsumerStatus.ofConsumer consumer
        return ({ c with status },
          [line .debug s!"record consumer installed: {status.name}",
            .channel (.installRecord consumer), .andThen .injectError])
  | .injectError =>
      .ok (c, (c.runError.map fun f => Effect.channel (.fail f)).toList)
  | .request n => do
      c.ensureOpen
      return (c, [.channel (.request (if (maxDemand : Int) ≤ n then unlimited else n))])
  | .cancel => .ok (c, [.channel .cancel])
  | .summary receiver =>
      .ok ({ c with isSummaryExposed := true }, c.stage done ++ [.relay receiver])
  | .discardAll receiver => .ok (c, c.stage done ++ [.report receiver])
  | .pullAll receiver =>
      if c.status.isInstalled && !done then .ok (c, [.keep receiver (.arising .nested)])
      else .ok (c, [.andThen (.discardAll receiver)])
  | .markConsumed => .ok ({ c with isConsumed := true }, [])
  | .rollback receiver =>
      .ok (c, [line .info "rolling back result and releasing the connection",
        .resolve (.value .nothing), .andThen .markConsumed, .release receiver])
  | .surfaceError => .ok ({ c with isErrorSurfaced := true }, [])
  | .notify s f =>
      match f, s with
      | some f, _ =>
          .ok ({ c with isErrorDelivered := c.isErrorDelivered || c.status == .installed },
            [.resolve (.failure f)])
      | none, some s => .ok (c, [.resolve (.value (.summary s))])
      | none, none => .ok (c, [])

/-- What the discard path reports of the failure that resolved the outcome: it is
withheld if the summary was asked for, if the caller's own consumer got it, or if
it is the failure to start and was asked for. -/
def unreported (c : Cursor) (f : Failure) : Delivery :=
  if c.isSummaryExposed || c.isErrorDelivered then .nothing
  else if c.isErrorSurfaced && (c.runError.any fun e => f.isSame e) then .nothing
  else .failure f

/-- The line written when the outcome is resolved. -/
def resolutionLine (s : Settlement Delivery Failure) : Log.Line :=
  ⟨.debug, .cursor, match s with
    | .cancelled => "result outcome cancelled"
    | .failure f => "result outcome resolved with failure: " ++ f.literal
    | .value _ => "result outcome resolved"⟩

/-- The literal of a cursor; `done` tells whether its outcome is resolved. -/
def literal (c : Cursor) (done : Bool) : String :=
  s!"ReactiveResultCursor({c.status.name}, done=" ++ Value.boolLiteral done ++ ", consumed="
    ++ Value.boolLiteral c.isConsumed ++ ")"

/-- How a cursor is shown as a summary consumer. -/
def consumerLiteral (c : Cursor) (done : Bool) : String :=
  "<bound method ReactiveResultCursor._on_summary of " ++ c.literal done ++ ">"

end Cursor

end QueryStream
