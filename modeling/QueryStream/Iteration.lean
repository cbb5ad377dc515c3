/-
  Iteration.lean --- records read one after the other, requested batch by batch.

  A result hands out one iteration.  An iteration asks for a batch when it has
  nothing to read and nothing is outstanding, and then waits for signals: one
  for each record and one for the end.  Left before the end, by being closed, by
  a failure or by a cancellation, it gives up the stream.
-/
import QueryStream.Cursor
import QueryStream.Options
import QueryStream.Parameter

set_option autoImplicit false

namespace QueryStream

/-! ## Results -/

/-- The place of an iteration. -/
abbrev IterationId : Type := Nat

/-- A result: a cursor and the options under which its records are read. -/
structure QueryResult where
  cursor : CursorId
  options : FullOptions
  /-- whether the records were asked for -/
  isStarted : Bool

/-- The place of a result. -/
abbrev ResultId : Type := Nat

namespace QueryResult

/-- The number of records to request at a time, as a parameter. -/
def fetchSizeParameter : Parameter := ⟨"fetch_size", "batch_size", "1.0.0", "2.0.0"⟩

/-- Start reading the records: the fetch size that holds, with the warning that
is due. -/
def start (r : QueryResult) (fetchSize former : Value) :
    Option String × Except Cause FetchSize :=
  let (warning, chosen) := fetchSizeParameter.resolve fetchSize former
  (warning, do
    let chosen ← chosen
    let size ← if chosen.isNull then pure r.options.fetchSize else FetchSize.ofValue? chosen
    if r.isStarted then .error .alreadyIterated else return size)

end QueryResult

/-! ## Iterations -/

/-- What a channel tells an iteration. -/
inductive Signal where
  | record (r : Record)
  /-- the end, with the failure if there is one -/
  | finish (f : Option Failure)

/-- Where an iteration stands. -/
inductive IterationPhase where
  /-- nothing was read yet -/
  | fresh
  /-- a record is being read -/
  | reading
  /-- a record was handed out -/
  | paused
  /-- it is over -/
  | closed
  deriving DecidableEq, Repr

/-- The state of an iteration. -/
structure Iteration where
  cursor : CursorId
  fetchSize : FetchSize
  phase : IterationPhase
  /-- records requested and not yet read; with unlimited demand it stays as it is -/
  outstanding : Int
  /-- signals not yet read, in order -/
  signals : List Signal
  /-- the promise of a signal, while one is waited for -/
  awaited : Option PromiseId

namespace Iteration

/-- An iteration of which nothing was read. -/
def ofCursor (cursor : CursorId) (fetchSize : FetchSize) : Iteration :=
  ⟨cursor, fetchSize, .fresh, 0, [], none⟩

/-- What an iteration can be asked to do, and what may be left of it. -/
inductive Action where
  /-- read the next record -/
  | advance
  /-- close the iteration -/
  | close
  /-- go on inside: request a batch if nothing is left to read -/
  | fetch
  /-- go on once a batch was requested -/
  | requested
  /-- go on with the first signal, or wait for one -/
  | take

/-- What a step brings about, in order. -/
inductive Effect where
  | log (line : Log.Line)
  /-- ask the cursor for records -/
  | request (n : Int)
  /-- give up the stream of the cursor -/
  | cancel
  /-- whatever goes wrong from here on in this action leaves the iteration -/
  | guarded (a : Action)
  /-- wait for a signal -/
  | await
  /-- hand out a record -/
  | hand (r : Record)
  /-- there is nothing more -/
  | exhausted
  /-- the closing is complete -/
  | closed
  /-- end with a failure -/
  | fail (f : Failure)
  /-- go on with what is left of the action -/
  | andThen (a : Action)

/-- The effects of leaving an iteration before the end. -/
def leaveEffects : List Effect :=
  [.log ⟨.debug, .result, "record iteration left early, cancelling the stream"⟩, .cancel]

/-- One step of an iteration. -/
def step (i : Iteration) (a : Action) : Iteration × List Effect :=
  match a with
  | .advance =>
      match i.phase with
      | .closed => (i, [.exhausted])
      | _ => ({ i with phase := .reading }, [.guarded .fetch])
  | .close =>
      match i.phase with
      | .paused => ({ i with phase := .closed }, leaveEffects ++ [.closed])
      | _ => ({ i with phase := .closed }, [.closed])
  | .fetch =>
      if i.signals.isEmpty && i.outstanding == 0 then
        (i, [.log ⟨.debug, .result, s!"requesting a batch of {i.fetchSize.value} records"⟩,
          .request i.fetchSize.value, .andThen .requested])
      else (i, [.andThen .take])
  | .requested => ({ i with outstanding := i.fetchSize.value }, [.andThen .take])
  | .take =>
      match i.signals with
      | [] => (i, [.await])
      | .record r :: rest =>
          ({ i with
              signals := rest
              phase := .paused
              outstanding :=
                if i.fetchSize.value = unlimited then i.outstanding else i.outstanding - 1 },
            [.hand r])
      | .finish none :: rest => ({ i with signals := rest, phase := .closed }, [.exhausted])
      | .finish (some f) :: rest => ({ i with signals := rest, phase := .closed }, [.fail f])

/-- Leave an iteration in which something went wrong: one that is not over gives
up the stream. -/
def leave (i : Iteration) : Iteration × List Effect :=
  match i.phase with
  | .closed => (i, [])
  | _ => ({ i with phase := .closed, awaited := none }, leaveEffects)

end Iteration

end QueryStream
