/-
  Stream.lean --- the records of a query, pulled on demand.

  A stream turns demand into requests and responses into deliveries.  Demand
  declared while a batch is under way is joined and requested when the batch is
  over; cancelling drops what is left on the server.  Both consumers must be
  there before the stream is driven.  At the end the owner is told first, then
  the summary consumer, then the record consumer.

  WHAT A STEP IS.  Writing a request and telling a consumer hand control to
  others, who may drive the stream again before they return.  So an action is
  carried out in steps: a step changes the stream and yields effects, in order,
  and what is left of an action after control was handed out is an effect too,
  `andThen`, which looks at the stream as it is then.  A step that refuses
  leaves the stream as it was.
-/
import QueryStream.Consumer
import QueryStream.RunOutcome
import QueryStream.Summary.Basic

set_option autoImplicit false

namespace QueryStream

/-- Where a stream stands. -/
inductive Phase where
  /-- no batch is under way; records can be requested -/
  | ready
  /-- a batch was requested and its records arrive -/
  | streaming
  /-- the caller gave up; what is left is dropped on the server -/
  | cancelled
  /-- the stream is complete -/
  | succeeded
  /-- the stream failed -/
  | failed
  deriving DecidableEq, Repr

namespace Phase

/-- Whether the stream is over. -/
def isTerminal : Phase → Bool
  | .succeeded => true
  | .failed => true
  | _ => false

/-- The name of a phase. -/
def name : Phase → String
  | .ready => "ready"
  | .streaming => "streaming"
  | .cancelled => "cancelled"
  | .succeeded => "succeeded"
  | .failed => "failure"

end Phase

/-- The state of a stream. -/
structure Stream where
  phase : Phase
  /-- the demand declared since the request under way -/
  pending : Demand
  /-- the number of records delivered -/
  delivered : Nat
  recordConsumer : Option RecordConsumer
  summaryConsumer : Option SummaryConsumer
  deriving Repr

namespace Stream

/-- A stream of which nothing was asked. -/
def fresh : Stream := ⟨.ready, .zero, 0, none, none⟩

/-- What a stream looks at but does not change. -/
structure Surroundings where
  query : Query
  server : ServerInfo
  /-- the cap on the records delivered; only a positive number caps -/
  cap : Value
  run : RunOutcome
  /-- how a summary consumer is shown -/
  showSummary : SummaryConsumer → String

/-! ## Actions and effects -/

/-- What a stream can be asked to do, and what may be left of it. -/
inductive Action where
  /-- take a record consumer -/
  | installRecord (c : RecordConsumer)
  /-- take a summary consumer -/
  | installSummary (c : SummaryConsumer)
  /-- take demand -/
  | request (n : Int)
  /-- give up -/
  | cancel
  /-- take the success of the request under way -/
  | succeed (metadata : Value)
  /-- take the failure of the request under way -/
  | fail (f : Failure)
  /-- take a record of the batch under way -/
  | deliver (fields : Value)
  /-- go on after a success, once what it drops was requested -/
  | settle (before : Phase) (more : Bool) (metadata : Value)
  /-- go on once the owner was told of the success -/
  | conclude (metadata : Value)
  /-- go on once the owner was told of the failure -/
  | concludeFailure (f : Failure)
  /-- go on once pending demand was requested: tell that there is more -/
  | announce
  /-- go on once a record was taken: count it -/
  | count
  /-- go on once a record was counted: see whether it was the last one wanted -/
  | checkCap
  /-- go on once what is dropped was requested -/
  | reportCancel
  deriving Inhabited

/-- What a step brings about, in order. -/
inductive Effect where
  | log (line : Log.Line)
  | write (m : Message)
  /-- tell the owner that the stream is complete -/
  | ownerSucceeded (metadata : Value)
  /-- tell the owner that the stream failed -/
  | ownerFailed (f : Failure)
  | tellRecord (c : RecordConsumer) (r : Record)
  | tellEnd (c : RecordConsumer) (f : Option Failure)
  | tellMore (c : SummaryConsumer)
  | tellSummary (c : SummaryConsumer) (s : Summary) (f : Option Failure)
  /-- go on with what is left of the action -/
  | andThen (a : Action)

/-- A debug line of a stream. -/
def debug (text : String) : Effect := .log ⟨.debug, .stream, text⟩

/-- A trace line of a stream. -/
def trace (text : String) : Effect := .log ⟨.trace, .stream, text⟩

/-! ## Steps -/

/-- Whether the stream may not be driven for want of a consumer. -/
def lacksConsumer (s : Stream) : Bool :=
  !s.phase.isTerminal && (s.recordConsumer.isNone || s.summaryConsumer.isNone)

/-- Refuse to be driven for want of a consumer. -/
def ensureConsumers (x : Surroundings) (s : Stream) : Except Cause Unit :=
  if s.lacksConsumer then
    .error (.consumersMissing
      (Value.optionLiteral RecordConsumer.literal s.recordConsumer)
      (Value.optionLiteral x.showSummary s.summaryConsumer))
  else .ok ()

/-- Request records. -/
def pullEffects (x : Surroundings) (d : Demand) : List Effect :=
  [debug s!"writing PULL {d.toInt} for query {x.run.query}",
    .write (.pull d.toInt x.run.query)]

/-- Request that what is left be dropped. -/
def discardEffects (x : Surroundings) : List Effect :=
  [debug s!"writing DISCARD all for query {x.run.query}",
    .write (.discardAll x.run.query)]

/-- Take demand: request it, or join it to what is pending, or ignore it. -/
def request (x : Surroundings) (s : Stream) (n : Int) : Except Cause (Stream × List Effect) := do
  s.ensureConsumers x
  match Demand.ofInt? n with
  | none => .error (.demandRefused n)
  | some d =>
      match s.phase with
      | .ready => return ({ s with phase := .streaming }, pullEffects x d)
      | .streaming => return ({ s with pending := s.pending.join d }, [])
      | phase => return (s, [debug s!"ignoring request({d.toInt}) in state {phase.name}"])

/-- Give up: what is left is dropped at once, or when the batch under way is
over. -/
def cancel (x : Surroundings) (s : Stream) : Except Cause (Stream × List Effect) := do
  s.ensureConsumers x
  match s.phase with
  | .ready =>
      return ({ s with phase := .cancelled }, discardEffects x ++ [.andThen .reportCancel])
  | .streaming => return ({ s with phase := .cancelled }, [.andThen .reportCancel])
  | _ => return (s, [.andThen .reportCancel])

/-- Take a success.  With more records on the server a batch ends the streaming
and a cancelled stream drops them; everything else completes the stream. -/
def succeed (x : Surroundings) (s : Stream) (metadata : Value) :
    Except Cause (Stream × List Effect) := do
  s.ensureConsumers x
  if s.phase.isTerminal then
    return ({ s with phase := .succeeded },
      [debug s!"ignoring success response in state {s.phase.name}"])
  else
    let more := (← metadata.field "has_more").isTrue
    match s.phase, more with
    | .streaming, true =>
        return ({ s with phase := .ready }, [.andThen (.settle .streaming true metadata)])
    | .cancelled, true =>
        return (s, discardEffects x ++ [.andThen (.settle .cancelled true metadata)])
    | before, more =>
        return ({ s with phase := .succeeded }, [.andThen (.settle before more metadata)])

/-- Go on after a success: complete the stream, or request what is pending. -/
def settle (x : Surroundings) (s : Stream) (before : Phase) (more : Bool) (metadata : Value) :
    Stream × List Effect :=
  let line := debug ("pull success (has_more=" ++ Value.boolLiteral more
    ++ s!"): {before.name} -> {s.phase.name}")
  match s.phase with
  | .succeeded => (s, [line, .ownerSucceeded metadata, .andThen (.conclude metadata)])
  | .ready =>
      if s.pending.isPositive then
        ({ s with phase := .streaming, pending := .zero },
          line :: pullEffects x s.pending ++ [.andThen .announce])
      else (s, [line, .andThen .announce])
  | _ => (s, [line])

/-- Tell both consumers of the end, the summary consumer first, and let them go. -/
def complete (s : Stream) (summary : Summary) (f : Option Failure) : Stream × List Effect :=
  ({ s with recordConsumer := none, summaryConsumer := none },
    (s.summaryConsumer.map fun c => Effect.tellSummary c summary f).toList
      ++ (s.recordConsumer.map fun c => Effect.tellEnd c f).toList)

/-- The summary that metadata holds. -/
def summaryOf (x : Surroundings) (metadata : Value) : Except Cause Summary :=
  Summary.ofMetadata x.query x.server (.ofInt? x.run.availableAfter) metadata

/-- The summary of a stream of which nothing is reported. -/
def emptySummary (x : Surroundings) : Summary :=
  Summary.empty x.query x.server (.ofInt? x.run.availableAfter)

/-- Complete the stream with the summary in the metadata.  A summary against the
protocol completes it with that failure and an empty summary. -/
def conclude (x : Surroundings) (s : Stream) (metadata : Value) :
    Except Cause (Stream × List Effect) :=
  match summaryOf x metadata with
  | .ok summary => .ok (s.complete summary none)
  | .error c =>
      if c.kind == .protocol then .ok (s.complete (emptySummary x) (some (.arising c)))
      else .error c

/-- Take a failure, which ends the stream. -/
def fail (x : Surroundings) (s : Stream) (f : Failure) : Except Cause (Stream × List Effect) := do
  s.ensureConsumers x
  if s.phase.isTerminal then
    return ({ s with phase := .failed },
      [debug (s!"ignoring failure in state {s.phase.name}: " ++ f.literal)])
  else
    return ({ s with phase := .failed },
      [debug (s!"pull failure in state {s.phase.name}: " ++ f.literal), .ownerFailed f,
        .andThen (.concludeFailure f)])

/-- Take a record, and deliver it if a batch is under way. -/
def deliver (x : Surroundings) (s : Stream) (fields : Value) :
    Except Cause (Stream × List Effect) := do
  s.ensureConsumers x
  match s.phase, s.recordConsumer with
  | .streaming, some c =>
      let r ← Record.ofSequences? (.list x.run.keys) fields
      return (s, [trace ("delivering record " ++ r.literal), .tellRecord c r, .andThen .count])
  | phase, _ => return (s, [trace s!"dropping record in state {phase.name}"])

/-- Whether a cap is reached by a number of records.  What is no number cannot be
a cap. -/
def reaches (cap : Value) (delivered : Nat) : Except Cause Bool :=
  match cap.magnitude? with
  | some m => .ok ((Value.Magnitude.fraction 0 1).less m && m.atMost (.fraction delivered 1))
  | none => .error .wrongSort

/-- Give up once the cap is reached. -/
def checkCap (x : Surroundings) (s : Stream) : Except Cause (Stream × List Effect) := do
  if ← reaches x.cap s.delivered then
    return (s, [.log ⟨.info, .stream, "max record count (" ++ x.cap.plain
      ++ ") reached, discarding the rest of the stream"⟩, .andThen .cancel])
  else return (s, [])

/-- One step of a stream. -/
def step (x : Surroundings) (s : Stream) (a : Action) : Except Cause (Stream × List Effect) :=
  match a with
  | .installRecord c =>
      if s.recordConsumer.isSome then .error .recordConsumerInstalled
      else .ok ({ s with recordConsumer := some c }, [])
  | .installSummary c =>
      if s.summaryConsumer.isSome then .error .summaryConsumerInstalled
      else .ok ({ s with summaryConsumer := some c }, [])
  | .request n => s.request x n
  | .cancel => s.cancel x
  | .succeed metadata => s.succeed x metadata
  | .fail f => s.fail x f
  | .deliver fields => s.deliver x fields
  | .settle before more metadata => .ok (s.settle x before more metadata)
  | .conclude metadata => s.conclude x metadata
  | .concludeFailure f => .ok (s.complete (emptySummary x) (some f))
  | .announce => .ok (s, (s.summaryConsumer.map Effect.tellMore).toList)
  | .count => .ok ({ s with delivered := s.delivered + 1 }, [.andThen .checkCap])
  | .checkCap => s.checkCap x
  | .reportCancel => .ok (s, [debug s!"cancel requested, now {s.phase.name}"])

/-- The literal of a stream. -/
def literal (x : Surroundings) (s : Stream) : String :=
  "BasicPullResponseHandler(\x22" ++ x.query.text.plain
    ++ s!"\x22, {s.phase.name}, delivered so far: {s.delivered})"

end Stream

end QueryStream
