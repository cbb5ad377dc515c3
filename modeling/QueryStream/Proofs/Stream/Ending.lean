/-
  Proofs/Stream/Ending.lean --- how a stream ends.

  A stream is ended by the first response that leaves it complete or failed.  Whether a
  move was that response can be read off the history (`Move.ending?`): a success that ends
  a stream goes on to the end at once, and a failure that ends one has the owner told.
  Every other move leaves the stream as far from its end as it was (`Step.stops`).
-/
import QueryStream.Proofs.Engine.Turns

set_option autoImplicit false

namespace QueryStream

/-- How a stream ended. -/
inductive Ending where
  /-- by a success, with its metadata -/
  | success (metadata : Value)
  | failure (f : Failure)

/-- Whether an instruction is what is left of a response that ended a stream: a success that
is settled and leaves nothing to request, or a failure that the owner is to be told of. -/
def Instruction.isLast : Instruction → Bool
  | .stream (.settle before more _) => !more || before == .ready
  | .ownerFailed _ => true
  | _ => false

/-- The response that a move gives the stream. -/
def Move.response? : Move → Option Ending
  | .carried (.stream (.succeed metadata)) _ => some (.success metadata)
  | .carried (.stream (.fail f)) _ => some (.failure f)
  | _ => none

/-- The response with which a move ended the stream. -/
def Move.ending? (m : Move) : Option Ending :=
  if m.next.any Instruction.isLast then m.response? else none

/-- The responses that ended the stream in a history. -/
def endings (h : List Move) : List Ending := h.filterMap Move.ending?

theorem endings_cons (m : Move) (h : List Move) :
    endings (m :: h) = m.ending?.toList ++ endings h := by
  unfold endings
  cases hm : m.ending? <;> simp [hm]

/-- Metadata that can be looked into, and whose summary can be read or is against the
protocol. -/
def Value.WellFormed (metadata : Value) : Prop :=
  (∃ entries, metadata = .map entries) ∧
    ∀ query server availableAfter cause,
      Summary.ofMetadata query server availableAfter metadata = .error cause →
        (cause.kind == .protocol) = true

/-- The instruction with which consumers are told how a stream ended. -/
def Ending.conclusion : Ending → Instruction
  | .success metadata => .stream (.conclude metadata)
  | .failure f => .stream (.concludeFailure f)

/-- What consumers are to be told of the response that ended a stream. -/
def Ending.Reads (x : Stream.Surroundings) : Ending → Summary → Option Failure → Prop
  | .success metadata, summary, f =>
      (Stream.summaryOf x metadata = .ok summary ∧ f = none) ∨
        ∃ cause, Stream.summaryOf x metadata = .error cause ∧
          summary = Stream.emptySummary x ∧ f = some (.arising cause)
  | .failure g, summary, f => summary = Stream.emptySummary x ∧ f = some g

/-- The summary of a response can be read or is against the protocol. -/
def Ending.WellFormed : Ending → Prop
  | .success metadata => metadata.WellFormed
  | .failure _ => True

/-- How a stream comes to its end. -/
inductive Stops (s s' : Situation) (rest : List Instruction) : Ending → Prop
  /-- the stream succeeded, and goes on to its end at once -/
  | success {metadata : Value} (before : Phase) (more : Bool)
      (present : s.engine.stream.lacksConsumer = false)
      (head : s.agenda = .stream (.succeed metadata) :: rest)
      (engine : s'.engine = { s.engine with
        stream := { s.engine.stream with phase := .succeeded } })
      (agenda : s'.agenda = .stream (.settle before more metadata) :: rest) :
      Stops s s' rest (.success metadata)
  /-- the stream failed, and its owner is told first -/
  | failure {f : Failure} (line : Log.Line)
      (present : s.engine.stream.lacksConsumer = false)
      (head : s.agenda = .stream (.fail f) :: rest)
      (engine : s'.engine = { s.engine with
        stream := { s.engine.stream with phase := .failed } })
      (agenda : s'.agenda
        = .ask (.log line) :: .ownerFailed f :: .stream (.concludeFailure f) :: rest) :
      Stops s s' rest (.failure f)

section Steps

variable {c : Conduct} {h : List Move} {s s' : Situation} {m : Move}

/-- What does not go on with an end is no response that ended the stream. -/
theorem Move.ending?_of_go {a : Stream.Action} {effects : List Stream.Effect}
    (last : ∀ effect ∈ effects, (Instruction.ofStream effect).isLast = false) :
    (Move.carried (.stream a) (.go (effects.map .ofStream))).ending? = none := by
  unfold Move.ending?
  rw [if_neg]
  simpa [Move.next] using last

theorem Move.ending?_of_response? (silent : m.response? = none) : m.ending? = none := by
  simp [Move.ending?, silent]

theorem Move.response?_of_not_stream {i : Instruction} (h : i.isStream = false) (r : Reply) :
    (Move.carried i r).response? = none := by
  cases i with
  | stream a => simp [Instruction.isStream] at h
  | _ => rfl

theorem Step.ending?_of_quiet (step : Step s m s') (permitted : c.Permits h m)
    (quiet : ∀ a next, m ≠ .carried (.stream a) (.go next)) : m.ending? = none := by
  cases step.turn permitted with
  | stream steps => exact absurd rfl (quiet _ _)
  | refused cause sort error => rfl
  | openCursor plan => exact Move.ending?_of_response? rfl
  | other stream pipe own next =>
      exact Move.ending?_of_response? (Move.response?_of_not_stream stream _)
  | _ => exact Move.ending?_of_response? rfl

/-- Every move leaves the stream as far from its end as it was, or ends it. -/
theorem Step.stops (step : Step s m s') (permitted : c.Permits h m) :
    m.ending? = none ∧ s'.engine.stream.phase.isTerminal = s.engine.stream.phase.isTerminal ∨
      ∃ r rest, m.ending? = some r ∧ s.engine.stream.phase.isTerminal = false ∧
        s'.engine.stream.phase.isTerminal = true ∧ Stops s s' rest r := by
  rcases step.stream_or_quiet permitted with ⟨a, rest, next, effects, stream⟩ | ⟨other, quiet⟩
  · have hnext : s'.engine.stream = next := by rw [stream.engine]
    have steps := stream.steps
    rw [stream.move, hnext]
    cases steps with
    | @succeed metadata raw present running field last =>
        refine .inr ⟨.success metadata, rest, ?_, running, rfl,
          .success _ _ present stream.head stream.engine stream.agenda⟩
        unfold Move.ending?
        rw [if_pos]
        · rfl
        · cases more : raw.isTrue with
          | false => simp [Move.next, Instruction.ofStream, Instruction.isLast]
          | true => simp [Move.next, Instruction.ofStream, Instruction.isLast, last more]
    | @fail f line present running =>
        exact .inr ⟨.failure f, rest, rfl, running, rfl,
          .failure line present stream.head stream.engine stream.agenda⟩
    | lateSuccess line terminal | lateFailure line terminal =>
        refine .inl ⟨?_, terminal.symm⟩
        exact Move.ending?_of_go (by simp [Instruction.ofStream, Instruction.isLast])
    | conclude | concludeRefused | concludeFailure =>
        exact .inl ⟨Move.ending?_of_response? rfl, by simp [Stream.released]⟩
    | endBatch present phase field more =>
        refine .inl ⟨?_, by simp [phase, Phase.isTerminal]⟩
        exact Move.ending?_of_go (by simp [Instruction.ofStream, Instruction.isLast])
    | discardAgain present phase field more =>
        refine .inl ⟨?_, rfl⟩
        refine Move.ending?_of_go ?_
        simp [Stream.discardEffects, Stream.debug, Instruction.ofStream, Instruction.isLast]
    | _ =>
        exact .inl ⟨Move.ending?_of_response? rfl, by simp_all [Phase.isTerminal]⟩
  · exact .inl ⟨step.ending?_of_quiet permitted other, by rw [quiet.stream]⟩

theorem Stream.Steps.terminal {x : Stream.Surroundings} {st st' : Stream} {a : Stream.Action}
    {effects : List Stream.Effect} (steps : Stream.Steps x st a st' effects)
    (terminal : st.phase.isTerminal = true) : st'.phase.isTerminal = true := by
  cases steps <;> simp_all [Phase.isTerminal, Stream.released]

/-- What a stream that was given up does next. -/
theorem Stream.Steps.givenUp {x : Stream.Surroundings} {st st' : Stream} {a : Stream.Action}
    {effects : List Stream.Effect} (steps : Stream.Steps x st a st' effects)
    (given : st.phase = .cancelled ∨ st.phase.isTerminal = true) :
    st'.phase = .cancelled ∨ st'.phase.isTerminal = true := by
  cases steps <;> simp_all [Phase.isTerminal, Stream.released]

theorem Step.terminal (step : Step s m s') (permitted : c.Permits h m)
    (terminal : s.engine.stream.phase.isTerminal = true) :
    s'.engine.stream.phase.isTerminal = true := by
  rcases step.stream_or_quiet permitted with ⟨a, rest, after, effects, stream⟩ | ⟨_, quiet⟩
  · rw [stream.engine]
    exact stream.steps.terminal terminal
  · rw [quiet.stream]
    exact terminal

theorem Step.givenUp (step : Step s m s') (permitted : c.Permits h m)
    (given : s.engine.stream.phase = .cancelled ∨ s.engine.stream.phase.isTerminal = true) :
    s'.engine.stream.phase = .cancelled ∨ s'.engine.stream.phase.isTerminal = true := by
  rcases step.stream_or_quiet permitted with ⟨a, rest, after, effects, stream⟩ | ⟨_, quiet⟩
  · rw [stream.engine]
    exact stream.steps.givenUp given
  · rw [quiet.stream]
    exact given

/-- A stream that succeeded tells its owner next, and then its consumers. -/
theorem Step.of_settle {before : Phase} {more : Bool} {metadata : Value}
    {rest : List Instruction} (step : Step s m s') (permitted : c.Permits h m)
    (agenda : s.agenda = .stream (.settle before more metadata) :: rest)
    (succeeded : s.engine.stream.phase = .succeeded) :
    s'.engine = s.engine ∧ ∃ line, s'.agenda
      = .ask (.log line) :: .ownerSucceeded metadata :: .stream (.conclude metadata) :: rest := by
  obtain ⟨after, effects, stream⟩ :=
    step.exists_stream permitted agenda fun cause => by simp [Stream.step]
  have steps := stream.steps
  cases steps with
  | settleSucceeded line phase => exact ⟨stream.engine, line, stream.agenda⟩
  | flush line phase positive => simp [succeeded] at phase
  | rest line phase idle => simp [succeeded] at phase
  | settleOther line other ready => exact absurd succeeded other

/-- The instruction with which both consumers are told is not refused, if what ended the
stream is well-formed. -/
theorem Step.of_conclusion {r : Ending} {rest : List Instruction} (step : Step s m s')
    (permitted : c.Permits h m) (wellFormed : r.WellFormed)
    (agenda : s.agenda = r.conclusion :: rest) :
    ∃ a summary f, StreamStep s m s' a rest s.engine.stream.released
      (s.engine.stream.endEffects summary f) ∧ r.Reads s.engine.surroundings summary f := by
  cases r with
  | success metadata =>
      have accepts : ∀ cause, s.engine.stream.step s.engine.surroundings (.conclude metadata)
          ≠ .error cause := by
        intro cause
        simp only [Stream.step, Stream.conclude]
        split
        · exact fun heq => (by cases heq)
        · rename_i found hfound
          rw [if_pos (wellFormed.2 _ _ _ _ hfound)]
          exact fun heq => (by cases heq)
      obtain ⟨after, effects, stream⟩ := step.exists_stream permitted agenda accepts
      have steps := stream.steps
      cases steps with
      | conclude read => exact ⟨_, _, _, stream, .inl ⟨read, rfl⟩⟩
      | concludeRefused read kind => exact ⟨_, _, _, stream, .inr ⟨_, read, rfl, rfl⟩⟩
  | failure f =>
      obtain ⟨after, effects, stream⟩ :=
        step.exists_stream permitted agenda fun cause => by simp [Stream.step]
      have steps := stream.steps
      cases steps with
      | concludeFailure => exact ⟨_, _, _, stream, rfl, rfl⟩

end Steps

end QueryStream
