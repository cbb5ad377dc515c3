/-
  Proofs/Stream/Steps.lean --- everything a stream can do in one step.

  `Stream.Steps` has one case for each way in which a step can go, with what the
  step found, what it leaves and what it brings about.  Every step that is not
  refused is one of these (`Stream.steps_of_step`), so what a step keeps is shown
  by going through the cases, and the functions behind them are opened here only.
-/
import QueryStream.Stream

set_option autoImplicit false

namespace QueryStream.Stream

/-- The effects of telling both consumers of the end. -/
def endEffects (s : Stream) (summary : Summary) (f : Option Failure) : List Effect :=
  (s.summaryConsumer.map fun c => Effect.tellSummary c summary f).toList
    ++ (s.recordConsumer.map fun c => Effect.tellEnd c f).toList

theorem forall_endEffects {p : Effect → Prop} (s : Stream) {summary : Summary}
    {f : Option Failure} (tellSummary : ∀ c, p (.tellSummary c summary f))
    (tellEnd : ∀ c, p (.tellEnd c f)) : ∀ effect ∈ s.endEffects summary f, p effect := by
  intro effect mem
  simp only [endEffects, List.mem_append, Option.mem_toList, Option.map_eq_some_iff] at mem
  rcases mem with ⟨c, -, rfl⟩ | ⟨c, -, rfl⟩
  · exact tellSummary c
  · exact tellEnd c

theorem forall_announcement {p : Effect → Prop} (s : Stream) (tellMore : ∀ c, p (.tellMore c)) :
    ∀ effect ∈ (s.summaryConsumer.map Effect.tellMore).toList, p effect := by
  intro effect mem
  obtain ⟨c, -, rfl⟩ := Option.map_eq_some_iff.1 (Option.mem_toList.1 mem)
  exact tellMore c

/-- The stream once its consumers are let go. -/
def released (s : Stream) : Stream := { s with recordConsumer := none, summaryConsumer := none }

/-- The steps of a stream. -/
inductive Steps (x : Surroundings) : Stream → Action → Stream → List Effect → Prop
  | installRecord {s : Stream} {c : RecordConsumer} (free : s.recordConsumer = none) :
      Steps x s (.installRecord c) { s with recordConsumer := some c } []
  | installSummary {s : Stream} {c : SummaryConsumer} (free : s.summaryConsumer = none) :
      Steps x s (.installSummary c) { s with summaryConsumer := some c } []
  /-- demand is requested at once -/
  | pull {s : Stream} {n : Int} {d : Demand} (present : s.lacksConsumer = false)
      (demand : Demand.ofInt? n = some d) (phase : s.phase = .ready) :
      Steps x s (.request n) { s with phase := .streaming } (pullEffects x d)
  /-- demand is joined to what is pending -/
  | join {s : Stream} {n : Int} {d : Demand} (present : s.lacksConsumer = false)
      (demand : Demand.ofInt? n = some d) (phase : s.phase = .streaming) :
      Steps x s (.request n) { s with pending := s.pending.join d } []
  /-- demand comes too late -/
  | ignoreRequest {s : Stream} {n : Int} {d : Demand} (line : Log.Line)
      (present : s.lacksConsumer = false) (demand : Demand.ofInt? n = some d)
      (ready : s.phase ≠ .ready) (streaming : s.phase ≠ .streaming) :
      Steps x s (.request n) s [.log line]
  /-- giving up while nothing is under way drops what is left at once -/
  | discard {s : Stream} (present : s.lacksConsumer = false) (phase : s.phase = .ready) :
      Steps x s .cancel { s with phase := .cancelled }
        (discardEffects x ++ [.andThen .reportCancel])
  /-- giving up while a batch is under way waits for its end -/
  | giveUp {s : Stream} (present : s.lacksConsumer = false) (phase : s.phase = .streaming) :
      Steps x s .cancel { s with phase := .cancelled } [.andThen .reportCancel]
  /-- giving up comes too late -/
  | ignoreCancel {s : Stream} (present : s.lacksConsumer = false)
      (ready : s.phase ≠ .ready) (streaming : s.phase ≠ .streaming) :
      Steps x s .cancel s [.andThen .reportCancel]
  /-- a success after the end -/
  | lateSuccess {s : Stream} {metadata : Value} (line : Log.Line)
      (terminal : s.phase.isTerminal = true) :
      Steps x s (.succeed metadata) { s with phase := .succeeded } [.log line]
  /-- a batch is over, and there are more records -/
  | endBatch {s : Stream} {metadata raw : Value} (present : s.lacksConsumer = false)
      (phase : s.phase = .streaming) (field : metadata.field "has_more" = .ok raw)
      (more : raw.isTrue = true) :
      Steps x s (.succeed metadata) { s with phase := .ready }
        [.andThen (.settle .streaming true metadata)]
  /-- what is left is to be dropped again -/
  | discardAgain {s : Stream} {metadata raw : Value} (present : s.lacksConsumer = false)
      (phase : s.phase = .cancelled) (field : metadata.field "has_more" = .ok raw)
      (more : raw.isTrue = true) :
      Steps x s (.succeed metadata) s
        (discardEffects x ++ [.andThen (.settle .cancelled true metadata)])
  /-- the stream is complete -/
  | succeed {s : Stream} {metadata raw : Value} (present : s.lacksConsumer = false)
      (running : s.phase.isTerminal = false) (field : metadata.field "has_more" = .ok raw)
      (last : raw.isTrue = true → s.phase = .ready) :
      Steps x s (.succeed metadata) { s with phase := .succeeded }
        [.andThen (.settle s.phase raw.isTrue metadata)]
  /-- a failure after the end -/
  | lateFailure {s : Stream} {f : Failure} (line : Log.Line)
      (terminal : s.phase.isTerminal = true) :
      Steps x s (.fail f) { s with phase := .failed } [.log line]
  /-- the stream failed -/
  | fail {s : Stream} {f : Failure} (line : Log.Line) (present : s.lacksConsumer = false)
      (running : s.phase.isTerminal = false) :
      Steps x s (.fail f) { s with phase := .failed }
        [.log line, .ownerFailed f, .andThen (.concludeFailure f)]
  /-- a record is delivered -/
  | deliver {s : Stream} {fields : Value} {c : RecordConsumer} {r : Record} (line : Log.Line)
      (present : s.lacksConsumer = false) (phase : s.phase = .streaming)
      (consumer : s.recordConsumer = some c)
      (made : Record.ofSequences? (.list x.run.keys) fields = .ok r) :
      Steps x s (.deliver fields) s [.log line, .tellRecord c r, .andThen .count]
  /-- a record nobody asked for -/
  | drop {s : Stream} {fields : Value} (line : Log.Line) (present : s.lacksConsumer = false)
      (phase : s.phase ≠ .streaming) : Steps x s (.deliver fields) s [.log line]
  /-- a complete stream tells its owner first -/
  | settleSucceeded {s : Stream} {before : Phase} {more : Bool} {metadata : Value}
      (line : Log.Line) (phase : s.phase = .succeeded) :
      Steps x s (.settle before more metadata) s
        [.log line, .ownerSucceeded metadata, .andThen (.conclude metadata)]
  /-- what was demanded meanwhile is requested -/
  | flush {s : Stream} {before : Phase} {more : Bool} {metadata : Value} (line : Log.Line)
      (phase : s.phase = .ready) (positive : s.pending.isPositive = true) :
      Steps x s (.settle before more metadata)
        { s with phase := .streaming, pending := .zero }
        (.log line :: pullEffects x s.pending ++ [.andThen .announce])
  /-- nothing was demanded meanwhile -/
  | rest {s : Stream} {before : Phase} {more : Bool} {metadata : Value} (line : Log.Line)
      (phase : s.phase = .ready) (idle : s.pending.isPositive = false) :
      Steps x s (.settle before more metadata) s [.log line, .andThen .announce]
  /-- there is nothing to settle -/
  | settleOther {s : Stream} {before : Phase} {more : Bool} {metadata : Value}
      (line : Log.Line) (succeeded : s.phase ≠ .succeeded) (ready : s.phase ≠ .ready) :
      Steps x s (.settle before more metadata) s [.log line]
  /-- both consumers are told the summary -/
  | conclude {s : Stream} {metadata : Value} {summary : Summary}
      (read : summaryOf x metadata = .ok summary) :
      Steps x s (.conclude metadata) s.released (s.endEffects summary none)
  /-- both consumers are told that the summary is against the protocol -/
  | concludeRefused {s : Stream} {metadata : Value} {c : Cause}
      (read : summaryOf x metadata = .error c) (kind : (c.kind == .protocol) = true) :
      Steps x s (.conclude metadata) s.released
        (s.endEffects (emptySummary x) (some (.arising c)))
  /-- both consumers are told the failure -/
  | concludeFailure {s : Stream} {f : Failure} :
      Steps x s (.concludeFailure f) s.released (s.endEffects (emptySummary x) (some f))
  | announce {s : Stream} :
      Steps x s .announce s (s.summaryConsumer.map Effect.tellMore).toList
  | count {s : Stream} :
      Steps x s .count { s with delivered := s.delivered + 1 } [.andThen .checkCap]
  | capReached {s : Stream} (line : Log.Line) (cap : reaches x.cap s.delivered = .ok true) :
      Steps x s .checkCap s [.log line, .andThen .cancel]
  | capOpen {s : Stream} (cap : reaches x.cap s.delivered = .ok false) :
      Steps x s .checkCap s []
  | reportCancel {s : Stream} (line : Log.Line) : Steps x s .reportCancel s [.log line]

/-! ## Refusing for want of a consumer -/

theorem ensureConsumers_eq_ok (x : Surroundings) {s : Stream} (h : s.lacksConsumer = false) :
    s.ensureConsumers x = .ok () := by
  simp [ensureConsumers, h]

theorem step_cancel_ne_error (x : Surroundings) {s : Stream} (h : s.lacksConsumer = false)
    (cause : Cause) : s.step x .cancel ≠ .error cause := by
  simp only [step, cancel, ensureConsumers_eq_ok x h]
  cases s.phase <;> intro refused <;> cases refused

theorem lacksConsumer_of_ensureConsumers {x : Surroundings} {s : Stream} {u : Unit}
    (h : s.ensureConsumers x = .ok u) : s.lacksConsumer = false := by
  unfold ensureConsumers at h
  split at h
  · cases h
  · rename_i present
    simpa using present

theorem of_ensureConsumers_bind {α : Type} {x : Surroundings} {s : Stream}
    {next : Unit → Except Cause α} {r : α} (h : (s.ensureConsumers x >>= next) = .ok r) :
    s.lacksConsumer = false ∧ next () = .ok r := by
  cases hensure : s.ensureConsumers x with
  | error c => rw [hensure] at h; cases h
  | ok u =>
      rw [hensure] at h
      exact ⟨lacksConsumer_of_ensureConsumers hensure, h⟩

theorem lacksConsumer_of_isTerminal {s : Stream} (h : s.phase.isTerminal = true) :
    s.lacksConsumer = false := by
  simp [lacksConsumer, h]

/-! ## Every step is one of the steps -/

theorem steps_of_request {x : Surroundings} {s s' : Stream} {n : Int} {effects : List Effect}
    (h : s.request x n = .ok (s', effects)) : Steps x s (.request n) s' effects := by
  obtain ⟨present, h⟩ := of_ensureConsumers_bind h
  cases demand : Demand.ofInt? n with
  | none => simp [demand] at h
  | some d =>
      simp only [demand] at h
      cases phase : s.phase <;> simp only [phase] at h <;> cases h
      · exact .pull present demand phase
      · simpa only [phase] using (Steps.join present demand phase : Steps x s _ _ _)
      all_goals exact .ignoreRequest _ present demand (by simp [phase]) (by simp [phase])

theorem steps_of_cancel {x : Surroundings} {s s' : Stream} {effects : List Effect}
    (h : s.cancel x = .ok (s', effects)) : Steps x s .cancel s' effects := by
  obtain ⟨present, h⟩ := of_ensureConsumers_bind h
  cases phase : s.phase <;> simp only [phase] at h <;> cases h
  · exact .discard present phase
  · exact .giveUp present phase
  all_goals exact .ignoreCancel present (by simp [phase]) (by simp [phase])

theorem steps_of_succeed {x : Surroundings} {s s' : Stream} {metadata : Value}
    {effects : List Effect} (h : s.succeed x metadata = .ok (s', effects)) :
    Steps x s (.succeed metadata) s' effects := by
  obtain ⟨present, h⟩ := of_ensureConsumers_bind h
  cases terminal : s.phase.isTerminal with
  | true =>
      simp only [terminal, if_true] at h
      cases h
      exact .lateSuccess _ terminal
  | false =>
      simp only [terminal, Bool.false_eq_true, if_false] at h
      cases field : metadata.field "has_more" with
      | error c => rw [field] at h; cases h
      | ok raw =>
          rw [field] at h
          simp only [bind, Except.bind, pure, Except.pure] at h
          split at h
          · rename_i phase more
            cases h
            exact .endBatch present phase field more
          · rename_i phase more
            cases h
            exact .discardAgain present phase field more
          · rename_i streaming cancelled
            cases h
            refine .succeed present terminal field fun more => ?_
            cases phase : s.phase with
            | ready => rfl
            | streaming => exact (streaming phase more).elim
            | cancelled => exact (cancelled phase more).elim
            | succeeded => simp [phase, Phase.isTerminal] at terminal
            | failed => simp [phase, Phase.isTerminal] at terminal

theorem steps_of_fail {x : Surroundings} {s s' : Stream} {f : Failure} {effects : List Effect}
    (h : s.fail x f = .ok (s', effects)) : Steps x s (.fail f) s' effects := by
  obtain ⟨present, h⟩ := of_ensureConsumers_bind h
  cases terminal : s.phase.isTerminal <;> simp only [terminal] at h <;> cases h
  · exact .fail _ present terminal
  · exact .lateFailure _ terminal

theorem steps_of_deliver {x : Surroundings} {s s' : Stream} {fields : Value}
    {effects : List Effect} (h : s.deliver x fields = .ok (s', effects)) :
    Steps x s (.deliver fields) s' effects := by
  obtain ⟨present, h⟩ := of_ensureConsumers_bind h
  split at h
  · rename_i c phase consumer
    cases made : Record.ofSequences? (.list x.run.keys) fields with
    | error c => rw [made] at h; cases h
    | ok r =>
        rw [made] at h
        cases h
        exact .deliver _ present phase consumer made
  · rename_i dropped
    cases h
    refine .drop _ present fun phase => ?_
    cases consumer : s.recordConsumer with
    | none => simp [lacksConsumer, phase, consumer, Phase.isTerminal] at present
    | some c => exact dropped c phase consumer

theorem steps_settle (x : Surroundings) (s : Stream) (before : Phase) (more : Bool)
    (metadata : Value) :
    Steps x s (.settle before more metadata) (s.settle x before more metadata).1
      (s.settle x before more metadata).2 := by
  cases phase : s.phase <;> simp only [settle, phase]
  · cases positive : s.pending.isPositive
    · exact .rest _ phase positive
    · exact .flush _ phase positive
  · exact .settleOther _ (by simp [phase]) (by simp [phase])
  · exact .settleOther _ (by simp [phase]) (by simp [phase])
  · exact .settleSucceeded _ phase
  · exact .settleOther _ (by simp [phase]) (by simp [phase])

theorem steps_of_conclude {x : Surroundings} {s s' : Stream} {metadata : Value}
    {effects : List Effect} (h : s.conclude x metadata = .ok (s', effects)) :
    Steps x s (.conclude metadata) s' effects := by
  unfold conclude at h
  cases read : summaryOf x metadata with
  | ok summary =>
      rw [read] at h
      cases h
      exact .conclude read
  | error c =>
      simp only [read] at h
      cases kind : c.kind == .protocol <;> simp only [kind] at h <;> cases h
      exact .concludeRefused read kind

theorem steps_of_checkCap {x : Surroundings} {s s' : Stream} {effects : List Effect}
    (h : s.checkCap x = .ok (s', effects)) : Steps x s .checkCap s' effects := by
  unfold checkCap at h
  cases cap : reaches x.cap s.delivered with
  | error c => rw [cap] at h; cases h
  | ok reached =>
      rw [cap] at h
      cases reached <;> cases h
      · exact .capOpen cap
      · exact .capReached _ cap

/-- Every step that is not refused is one of the steps. -/
theorem steps_of_step {x : Surroundings} {s s' : Stream} {a : Action} {effects : List Effect}
    (h : s.step x a = .ok (s', effects)) : Steps x s a s' effects := by
  cases a with
  | installRecord c =>
      cases free : s.recordConsumer <;> simp only [step, free] at h <;> cases h
      exact .installRecord free
  | installSummary c =>
      cases free : s.summaryConsumer <;> simp only [step, free] at h <;> cases h
      exact .installSummary free
  | request n => exact steps_of_request h
  | cancel => exact steps_of_cancel h
  | succeed metadata => exact steps_of_succeed h
  | fail f => exact steps_of_fail h
  | deliver fields => exact steps_of_deliver h
  | settle before more metadata =>
      have steps := steps_settle x s before more metadata
      rw [Except.ok.inj h] at steps
      exact steps
  | conclude metadata => exact steps_of_conclude h
  | concludeFailure f =>
      cases h
      exact .concludeFailure
  | announce =>
      cases h
      exact .announce
  | count =>
      cases h
      exact .count
  | checkCap => exact steps_of_checkCap h
  | reportCancel =>
      cases h
      exact .reportCancel _

end QueryStream.Stream
