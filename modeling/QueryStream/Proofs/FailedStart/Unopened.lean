/-
  Proofs/FailedStart/Unopened.lean --- a cursor of a query that failed to start, before it opens.

  A cursor is opened by what has it take a record consumer, and closed for good by rolling its
  result back.  Before either nobody drives its stream: whatever is asked of a stream without a
  record consumer is refused, so nothing is written, nobody is told anything, and the outcome is
  open (`Run.unopened`).
-/
import QueryStream.Proofs.Cursor.Valediction
import QueryStream.Proofs.Unserved

set_option autoImplicit false

namespace QueryStream

/-! ## Operations -/

/-- Whether an operation has a cursor take a record consumer, or abandons the result. -/
def Cursor.Action.opens : Cursor.Action → Bool
  | .install _ => true
  | .summary _ => true
  | .discardAll _ => true
  | .pullAll _ => true
  | .rollback _ => true
  | _ => false

/-- Whether a move is such an operation of the one cursor. -/
def Move.opens : Move → Bool
  | .carried (.cursor id a) _ => id == 0 && a.opens
  | _ => false

/-! ## Before any of them -/

/-- A stream that has a cursor for its summary consumer, and of which nothing was asked. -/
def Stream.waiting : Stream := { Stream.fresh with summaryConsumer := some (.cursor 0) }

/-- Whether a move passes a failure on to the stream. -/
def Move.passes : Move → Bool
  | .carried (.stream (.fail _)) _ => true
  | _ => false

/-- A cursor over a stream that wrote no request. -/
structure Muted (o : PromiseId) (h : List Move) (s : Situation) (cursor : Cursor) : Prop
    extends Paired o h s cursor where
  unwritten : ∀ m ∈ h, m.isWrite = false

/-- A cursor over a stream of which nothing was asked; the query failed to start. -/
structure Untouched (f : Failure) (o : PromiseId) (h : List Move) (s : Situation)
    (cursor : Cursor) : Prop extends Muted o h s cursor where
  free : cursor.status = .notInstalled
  unconsumed : cursor.isConsumed = false
  failed : cursor.runError = some f
  stream : s.engine.stream = .waiting
  silent : verdicts 0 h = []
  unheard : notices h = []
  unpassed : ∀ m ∈ h, m.passes = false

/-- The same, with nothing on the agenda but what is bare. -/
structure Unopened (f : Failure) (o : PromiseId) (h : List Move) (s : Situation)
    (cursor : Cursor) : Prop extends Untouched f o h s cursor where
  bare : ∀ i ∈ s.agenda, i.isBare = true
  unmarked : ∀ i ∈ s.agenda, i.marks = false

section Steps

variable {c : Conduct} {start : Situation} {f : Failure} {o : PromiseId} {h later : List Move}
  {s s' : Situation} {m : Move} {cursor next : Cursor} {rest : List Instruction}

theorem Stream.dull_waiting : Stream.waiting.Dull := .inl rfl

theorem Muted.step (muted : Muted o h s cursor) (unserved : c.Unserved) (step : Step s m s')
    (permitted : c.Permits h m) (unwritten : m.isWrite = false) :
    ∃ next, Muted o (m :: h) s' next := by
  obtain ⟨next, paired⟩ := muted.toPaired.step unserved.sole unserved.holds step permitted
  exact ⟨next, { paired with unwritten := List.forall_mem_cons.2 ⟨unwritten, muted.unwritten⟩ }⟩

theorem Attached.accepted (attached : Attached o h s cursor) (step : Step s m s')
    {a : Cursor.Action} {after : Cursor} {effects : List Cursor.Effect}
    (agenda : s.agenda = .cursor 0 a :: rest)
    (accepted : cursor.step (s.engine.isResolved cursor) a = .ok (after, effects)) :
    m = .carried (.cursor 0 a) (.go (effects.map (.ofCursor 0 after))) ∧
      s' = ⟨{ s.engine with cursors := #[after] }, effects.map (.ofCursor 0 after) ++ rest⟩ := by
  have found : s.engine.cursors[0]? = some cursor := by simp [attached.cursors]
  obtain ⟨rfl, rfl⟩ := step.exec_of_head agenda rfl
  rw [s.engine.exec_cursor found accepted]
  exact ⟨rfl, by simp [attached.cursors]⟩

theorem Untouched.unsettled (untouched : Untouched f o h s cursor) :
    s.engine.loop.settlement? o = none := by
  have deciding := untouched.reserved.deciding
  rw [untouched.silent] at deciding
  generalize s.agenda = agenda, s.engine.loop.settlement? o = now at deciding
  cases deciding
  rfl

theorem Untouched.pending (untouched : Untouched f o h s cursor) :
    s.engine.isResolved cursor = false := by
  rw [Engine.isResolved, untouched.attached.outcome_eq, Loop.isDone, untouched.unsettled]
  rfl

/-- What stands first and opens nothing leaves the cursor as it is. -/
theorem Cursor.Steps.of_bare {done : Bool} {a : Cursor.Action} {effects : List Cursor.Effect}
    (steps : Cursor.Steps done cursor a next effects) (opens : a.opens = false)
    (bare : (Instruction.cursor 0 a).isBare = true)
    (unmarked : (Instruction.cursor 0 a).marks = false) :
    (next.status = cursor.status ∧ next.isConsumed = cursor.isConsumed ∧
      next.runError = cursor.runError) ∧
    ∀ effect ∈ effects, (Instruction.ofCursor 0 next effect).marks = false := by
  cases steps with
  | request | cancel | surfaceError =>
      exact ⟨⟨rfl, rfl, rfl⟩, by simp [Instruction.ofCursor, Instruction.marks]⟩
  | markConsumed => cases unmarked
  | noError | injectError | notifyFailure | notifySummary | notifyMore => cases bare
  | _ => cases opens

/-- A move that tells the owner nothing adds nothing to what it was told. -/
theorem notices_of_none {told : List Ending} (notice : m.notice? = none)
    (before : notices h = told) :
    notices (m :: h) = told := by
  rw [notices_cons, notice]
  exact before

/-- What tells nobody anything and leaves the stream and what is known of the cursor leaves it
untouched. -/
theorem Untouched.goOn (untouched : Untouched f o h s cursor) (unserved : c.Unserved)
    (step : Step s m s') (permitted : c.Permits h m) (stream : s'.engine.stream = s.engine.stream)
    (kept : ∀ next, s'.engine.cursors = #[next] → next.status = cursor.status ∧
      next.isConsumed = cursor.isConsumed ∧ next.runError = cursor.runError)
    (verdict : m.verdict? 0 = none) (notice : m.notice? = none) (passes : m.passes = false)
    (unwritten : m.isWrite = false) : ∃ next, Untouched f o (m :: h) s' next := by
  obtain ⟨next, muted⟩ := untouched.toMuted.step unserved step permitted unwritten
  obtain ⟨status, isConsumed, runError⟩ := kept next muted.attached.cursors
  exact ⟨next, { muted with
    free := status.trans untouched.free
    unconsumed := isConsumed.trans untouched.unconsumed
    failed := runError.trans untouched.failed
    stream := stream.trans untouched.stream
    silent := by rw [verdicts_cons, verdict]; exact untouched.silent
    unheard := notices_of_none notice untouched.unheard
    unpassed := List.forall_mem_cons.2 ⟨passes, untouched.unpassed⟩ }⟩

theorem Move.passes_eq_false
    (bare : ∀ a r, m = .carried (.stream a) r → (Instruction.stream a).isBare = true) :
    m.passes = false := by
  unfold Move.passes
  split
  · cases bare _ _ rfl
  · rfl

/-- Before a cursor takes a consumer or is rolled back, nothing is asked of the stream that it
does not refuse. -/
theorem Unopened.step (unopened : Unopened f o h s cursor) (unserved : c.Unserved)
    (step : Step s m s') (permitted : c.Permits h m) (opens : m.opens = false) :
    ∃ next, Unopened f o (m :: h) s' next := by
  have idle : ∀ a rest, s.agenda = .cursor 0 a :: rest → a.opens = false := by
    intro a rest head
    obtain ⟨rfl, -⟩ := step.exec_of_head head rfl
    simpa [Move.opens] using opens
  have dull : s.engine.stream.Dull := unopened.stream ▸ Stream.dull_waiting
  obtain ⟨unwritten, unheard, unpassed⟩ :=
    step.unheard_of_bare fun i head => unopened.bare i (List.mem_of_mem_head? head)
  obtain ⟨stream, bare⟩ := unopened.attached.bare_step unserved step permitted unopened.bare dull
    fun consumer rest head => by cases idle _ _ head
  -- a cursor that is neither asked to open nor notified gives no verdict
  have silent : m.verdict? 0 = none := by
    cases verdict : m.verdict? 0 with
    | none => rfl
    | some st =>
        obtain ⟨a, r, rfl, decides⟩ := Move.exists_of_verdict? verdict
        obtain ⟨rest, head⟩ := step.head_of_carried
        have headBare := unopened.bare (.cursor 0 a) (by simp [head])
        have shut := idle a rest head
        cases a with
        | rollback receiver => cases shut
        | notify summary f => cases headBare
        | _ => cases decides
  have steps_of_bare : ∀ {done a rest next effects}, s.agenda = .cursor 0 a :: rest →
      Cursor.Steps done cursor a next effects → (next.status = cursor.status ∧
        next.isConsumed = cursor.isConsumed ∧ next.runError = cursor.runError) ∧
      ∀ effect ∈ effects, (Instruction.ofCursor 0 next effect).marks = false :=
    fun head steps => steps.of_bare (idle _ _ head) (unopened.bare _ (by simp [head]))
      (unopened.unmarked _ (by simp [head]))
  have kept : ∀ next, s'.engine.cursors = #[next] → next.status = cursor.status ∧
      next.isConsumed = cursor.isConsumed ∧ next.runError = cursor.runError := by
    intro next cursors
    rcases unopened.attached.cursor_or_eq step permitted cursors with
      ⟨a, rest, effects, taken⟩ | rfl
    · exact (steps_of_bare taken.head taken.steps).1
    · exact ⟨rfl, rfl, rfl⟩
  obtain ⟨next, untouched⟩ := unopened.toUntouched.goOn unserved step permitted stream kept silent
    unheard (Move.passes_eq_false unpassed) unwritten
  refine ⟨next, untouched, bare, fun i mem => ?_⟩
  rcases (step.turn permitted).mem mem with mem | brought
  · exact unopened.unmarked i (List.mem_of_mem_tail mem)
  cases brought with
  | stream head steps among =>
      exact ((steps.of_dull dull (unopened.bare _ (by simp [head]))).2 _ among).2
  | @cursor id a rest found after effects effect head hfound steps among =>
      rw [unopened.attached.cursors] at hfound
      obtain ⟨rfl, rfl⟩ := eq_of_getElem?_singleton hfound
      exact (steps_of_bare head steps).2 _ among
  | channel head => rfl
  | @opened plan rest j head => cases unopened.bare (.openCursor plan) (by simp [head])
  | notify head => rfl
  | outer inner piped => exact (Instruction.isBare_of_outer inner piped).2
  | called calls => exact (unserved.isBare_of_calls calls).2

theorem Engine.Secluded.unopened {e : Engine} {release : ReleaseId} (secluded : e.Secluded o)
    (cursors : e.cursors = #[.fresh (some f) release o]) :
    Unopened f o [] ⟨e, []⟩ (.fresh (some f) release o) := by
  obtain ⟨cursor, paired⟩ := secluded.paired
  obtain rfl : cursor = .fresh (some f) release o := by
    simpa using paired.attached.cursors.symm.trans cursors
  exact { paired with
    unwritten := by simp
    unpassed := by simp
    free := rfl
    unconsumed := rfl
    failed := rfl
    stream := secluded.stream
    silent := rfl
    unheard := rfl
    bare := by simp
    unmarked := by simp }

/-- As long as nothing has a cursor take a consumer or be rolled back, nothing happens to its
stream. -/
theorem Run.unopened {e : Engine} {release : ReleaseId} (secluded : e.Secluded o)
    (cursors : e.cursors = #[.fresh (some f) release o]) (unserved : c.Unserved)
    (run : Run c ⟨e, []⟩ h s) (first : ∀ m ∈ h, m.opens = false) :
    ∃ cursor, Unopened f o h s cursor := by
  induction run with
  | nil => exact ⟨_, secluded.unopened cursors⟩
  | snoc run step permitted ih =>
      obtain ⟨cursor, unopened⟩ := ih fun m mem => first m (List.mem_cons_of_mem _ mem)
      exact unopened.step unserved step permitted (first _ (List.mem_cons_self ..))

end Steps

end QueryStream
