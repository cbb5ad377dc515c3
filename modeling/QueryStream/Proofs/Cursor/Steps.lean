/-
  Proofs/Cursor/Steps.lean --- everything a step of a cursor can do.

  A step that is not refused is one of the steps listed here, and proofs about
  cursors go through these.
-/
import QueryStream.Cursor
import QueryStream.Options

set_option autoImplicit false

namespace QueryStream

/-- What is asked of the channel for a request: too great a number asks for all. -/
def Cursor.capped (n : Int) : Int := if (maxDemand : Int) ≤ n then unlimited else n

theorem FetchSize.value_ne_zero (size : FetchSize) : size.value ≠ 0 := by
  have valid := size.valid
  unfold unlimited at valid
  omega

/-- What is capped is all of the records, or as many as before. -/
theorem FetchSize.capped_cases (size : FetchSize) :
    Cursor.capped size.value = unlimited ∨
      Cursor.capped size.value = size.value ∧ 0 < size.value ∧ size.value < maxDemand := by
  have valid := size.valid
  unfold Cursor.capped
  split
  · exact .inl rfl
  · rcases valid with all | ⟨low, high⟩
    · exact .inl all
    · exact .inr ⟨rfl, by omega, by omega⟩

theorem ConsumerStatus.ofConsumer_ne (rc : RecordConsumer) :
    ConsumerStatus.ofConsumer rc ≠ .notInstalled := by
  cases rc <;> simp [ofConsumer]

namespace Cursor

/-- The steps of a cursor; `done` tells whether its outcome is resolved. -/
inductive Steps (done : Bool) : Cursor → Action → Cursor → List Effect → Prop
  /-- there is a consumer already -/
  | ignoreInstall {c : Cursor} {consumer : RecordConsumer} (unconsumed : c.isConsumed = false)
      (taken : c.status ≠ .notInstalled) : Steps done c (.install consumer) c []
  | install {c : Cursor} {consumer : RecordConsumer} (line : Log.Line)
      (unconsumed : c.isConsumed = false) (free : c.status = .notInstalled) :
      Steps done c (.install consumer) { c with status := .ofConsumer consumer }
        [.log line, .channel (.installRecord consumer), .andThen .injectError]
  /-- the query started -/
  | noError {c : Cursor} (started : c.runError = none) : Steps done c .injectError c []
  /-- the query failed to start -/
  | injectError {c : Cursor} {f : Failure} (failed : c.runError = some f) :
      Steps done c .injectError c [.channel (.fail f)]
  | request {c : Cursor} {n : Int} (unconsumed : c.isConsumed = false) :
      Steps done c (.request n) c [.channel (.request (capped n))]
  | cancel {c : Cursor} : Steps done c .cancel c [.channel .cancel]
  | summary {c : Cursor} {receiver : Receiver} :
      Steps done c (.summary receiver) { c with isSummaryExposed := true }
        (c.stage done ++ [.relay receiver])
  | discardAll {c : Cursor} {receiver : Receiver} :
      Steps done c (.discardAll receiver) c (c.stage done ++ [.report receiver])
  /-- a consumer is still reading -/
  | refusePull {c : Cursor} {receiver : Receiver} (f : Failure)
      (taken : c.status ≠ .notInstalled) (pending : done = false) :
      Steps done c (.pullAll receiver) c [.keep receiver f]
  | pullAll {c : Cursor} {receiver : Receiver}
      (free : done = true ∨ c.status = .notInstalled) :
      Steps done c (.pullAll receiver) c [.andThen (.discardAll receiver)]
  | markConsumed {c : Cursor} : Steps done c .markConsumed { c with isConsumed := true } []
  | rollback {c : Cursor} {receiver : Receiver} (line : Log.Line) :
      Steps done c (.rollback receiver) c
        [.log line, .resolve (.value .nothing), .andThen .markConsumed, .release receiver]
  | surfaceError {c : Cursor} :
      Steps done c .surfaceError { c with isErrorSurfaced := true } []
  /-- the channel tells of a failure -/
  | notifyFailure {c : Cursor} {s : Option Summary} {f : Failure} :
      Steps done c (.notify s (some f))
        { c with isErrorDelivered := c.isErrorDelivered || c.status == .installed }
        [.resolve (.failure f)]
  /-- the channel tells of the summary -/
  | notifySummary {c : Cursor} {s : Summary} :
      Steps done c (.notify (some s) none) c [.resolve (.value (.summary s))]
  /-- the channel tells that there is more -/
  | notifyMore {c : Cursor} : Steps done c (.notify none none) c []

theorem isConsumed_of_ensureOpen {c : Cursor} {u : Unit} (h : c.ensureOpen = .ok u) :
    c.isConsumed = false := by
  unfold ensureOpen at h
  split at h
  · cases h
  · rename_i unconsumed
    simpa using unconsumed

theorem of_ensureOpen_bind {α : Type} {c : Cursor} {next : Unit → Except Cause α} {r : α}
    (h : (c.ensureOpen >>= next) = .ok r) : c.isConsumed = false ∧ next () = .ok r := by
  cases hensure : c.ensureOpen with
  | error cause => rw [hensure] at h; cases h
  | ok u =>
      rw [hensure] at h
      exact ⟨isConsumed_of_ensureOpen hensure, h⟩

/-- A cursor passes on the failure that it was made with, if there is one. -/
theorem step_injectError (c : Cursor) (done : Bool) :
    c.step done .injectError = .ok (c, c.runError.toList.map fun f => .channel (.fail f)) := by
  cases failed : c.runError <;> simp [step, failed]

/-- Every step that is not refused is one of the steps. -/
theorem steps_of_step {done : Bool} {c c' : Cursor} {a : Action} {effects : List Effect}
    (h : c.step done a = .ok (c', effects)) : Steps done c a c' effects := by
  cases a with
  | install consumer =>
      obtain ⟨unconsumed, h⟩ := of_ensureOpen_bind h
      cases status : c.status <;> simp only [status] at h <;> cases h
      · exact .install _ unconsumed status
      all_goals exact .ignoreInstall unconsumed (by simp [status])
  | injectError =>
      cases failed : c.runError <;> simp only [step, failed] at h <;> cases h
      · exact .noError failed
      · exact .injectError failed
  | request n =>
      obtain ⟨unconsumed, h⟩ := of_ensureOpen_bind h
      cases h
      exact .request unconsumed
  | pullAll receiver =>
      simp only [step] at h
      split at h <;> rename_i busy <;> cases h
      · simp only [Bool.and_eq_true, Bool.not_eq_true'] at busy
        exact .refusePull _ (by simpa [ConsumerStatus.isInstalled] using busy.1) busy.2
      · refine .pullAll ?_
        cases done with
        | true => exact .inl rfl
        | false => exact .inr (by simpa [ConsumerStatus.isInstalled] using busy)
  | notify s f =>
      cases f with
      | some f =>
          cases h
          exact .notifyFailure
      | none =>
          cases s <;> cases h
          · exact .notifyMore
          · exact .notifySummary
  | cancel => cases h; exact .cancel
  | summary receiver => cases h; exact .summary
  | discardAll receiver => cases h; exact .discardAll
  | markConsumed => cases h; exact .markConsumed
  | rollback receiver => cases h; exact .rollback _
  | surfaceError => cases h; exact .surfaceError

/-! ## What a step keeps -/

theorem Steps.status {done : Bool} {c c' : Cursor} {a : Action}
    {effects : List Effect} (steps : Steps done c a c' effects) :
    c'.status = c.status ∨ ∃ consumer, a = .install consumer ∧ c.status = .notInstalled ∧
      c'.status = .ofConsumer consumer := by
  cases steps with
  | install line unconsumed free => exact .inr ⟨_, rfl, free, rfl⟩
  | _ => exact .inl rfl

theorem Steps.isConsumed {done : Bool} {c c' : Cursor} {a : Action}
    {effects : List Effect} (steps : Steps done c a c' effects) :
    (c.isConsumed = true → c'.isConsumed = true) ∧
      (c'.isConsumed = true → c.isConsumed = true ∨ a = .markConsumed) := by
  cases steps <;> simp_all

theorem Steps.runError {done : Bool} {c c' : Cursor} {a : Action}
    {effects : List Effect} (steps : Steps done c a c' effects) :
    c'.runError = c.runError := by
  cases steps <;> rfl

/-! ## What a step brings about -/

/-- The outcome that an action of a cursor resolves on. -/
def Action.verdict? : Action → Option (Settlement Delivery Failure)
  | .rollback _ => some (.value .nothing)
  | .notify _ (some f) => some (.failure f)
  | .notify (some found) none => some (.value (.summary found))
  | _ => none

/-- What an action of a cursor can bring about. -/
inductive Yields (c : Cursor) : Action → Effect → Prop
  | log {a : Action} (line : Log.Line) : Yields c a (.log line)
  /-- a cursor that is free takes a consumer -/
  | take {consumer : RecordConsumer} (unconsumed : c.isConsumed = false)
      (free : c.status = .notInstalled) :
      Yields c (.install consumer) (.channel (.installRecord consumer))
  | inject {consumer : RecordConsumer} : Yields c (.install consumer) (.andThen .injectError)
  | fail (f : Failure) : Yields c .injectError (.channel (.fail f))
  | request {n : Int} : Yields c (.request n) (.channel (.request (capped n)))
  | cancel : Yields c .cancel (.channel .cancel)
  /-- the stream is brought to its end -/
  | discard {a : Action} : Yields c a (.andThen (.install .discard))
  | giveUp {a : Action} : Yields c a (.andThen .cancel)
  | mark {a : Action} : Yields c a (.andThen .markConsumed)
  | relay {receiver : Receiver} : Yields c (.summary receiver) (.relay receiver)
  | report {receiver : Receiver} : Yields c (.discardAll receiver) (.report receiver)
  | discardAll {receiver : Receiver} :
      Yields c (.pullAll receiver) (.andThen (.discardAll receiver))
  | keep {receiver : Receiver} (f : Failure) : Yields c (.pullAll receiver) (.keep receiver f)
  | release {receiver : Receiver} : Yields c (.rollback receiver) (.release receiver)
  | resolve {a : Action} {st : Settlement Delivery Failure} (verdict : a.verdict? = some st) :
      Yields c a (.resolve st)

theorem yields_of_mem_stage {done : Bool} {c : Cursor} {a : Action} {effect : Effect}
    (mem : effect ∈ c.stage done) : Yields c a effect := by
  unfold stage at mem
  split at mem
  · cases mem
  · simp only [List.mem_cons, List.not_mem_nil, or_false] at mem
    rcases mem with rfl | rfl | rfl | rfl
    · exact .log _
    · exact .discard
    · exact .giveUp
    · exact .mark

/-- A step brings about only what its action can. -/
theorem Steps.yields {done : Bool} {c c' : Cursor} {a : Action} {effects : List Effect}
    {effect : Effect} (steps : Steps done c a c' effects) (mem : effect ∈ effects) :
    Yields c a effect := by
  cases steps with
  | ignoreInstall | noError | markConsumed | surfaceError | notifyMore => cases mem
  | install line unconsumed free =>
      simp only [List.mem_cons, List.not_mem_nil, or_false] at mem
      rcases mem with rfl | rfl | rfl
      · exact .log line
      · exact .take unconsumed free
      · exact .inject
  | injectError failed =>
      obtain rfl := List.mem_singleton.1 mem
      exact .fail _
  | request unconsumed =>
      obtain rfl := List.mem_singleton.1 mem
      exact .request
  | cancel =>
      obtain rfl := List.mem_singleton.1 mem
      exact .cancel
  | summary =>
      rcases List.mem_append.1 mem with mem | mem
      · exact yields_of_mem_stage mem
      · obtain rfl := List.mem_singleton.1 mem
        exact .relay
  | discardAll =>
      rcases List.mem_append.1 mem with mem | mem
      · exact yields_of_mem_stage mem
      · obtain rfl := List.mem_singleton.1 mem
        exact .report
  | refusePull f taken pending =>
      obtain rfl := List.mem_singleton.1 mem
      exact .keep f
  | pullAll free =>
      obtain rfl := List.mem_singleton.1 mem
      exact .discardAll
  | rollback line =>
      simp only [List.mem_cons, List.not_mem_nil, or_false] at mem
      rcases mem with rfl | rfl | rfl | rfl
      · exact .log line
      · exact .resolve rfl
      · exact .mark
      · exact .release
  | notifyFailure | notifySummary =>
      obtain rfl := List.mem_singleton.1 mem
      exact .resolve rfl

end Cursor

end QueryStream
