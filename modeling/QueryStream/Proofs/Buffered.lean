/-
  Proofs/Buffered.lean --- what an iteration still hands out once its result is consumed.

  Asking for the summary gives up the stream, so no record comes any more: neither one that is
  still with the server nor one that is in flight (`Ceasing`).  But nobody tells an iteration.
  The records that it was told of before wait in it, and it goes on handing them out one after
  the other, to whoever asks; they are not discarded (`Run.handsOnlyBuffered`).

  That the stream is given up holds also where the outcome is resolved already or the result
  consumed, and nothing is done any more, unless the cursor was rolled back: a rollback resolves
  the outcome and leaves the stream as it is.
-/
import QueryStream.Proofs.Backpressure.Records
import QueryStream.Proofs.Disclosure
import QueryStream.Proofs.GivingBack
import QueryStream.Proofs.LeavingEarly
import QueryStream.Proofs.Requests.Outcome

set_option autoImplicit false

namespace QueryStream

/-! ## The records of an iteration -/

/-- The record that a signal tells of, if it tells of one. -/
def Signal.record? : Signal → Option Record
  | .record r => some r
  | .finish _ => none

@[simp] theorem Signal.record?_record (r : Record) : (Signal.record r).record? = some r := rfl

@[simp] theorem Signal.record?_finish (f : Option Failure) : (Signal.finish f).record? = none := rfl

/-- The records that wait in an iteration, in order. -/
def Iteration.buffered (it : Iteration) : List Record := it.signals.filterMap Signal.record?

/-- The record that an instruction hands to a task, if it hands out one. -/
def Instruction.yielded? : Instruction → Option Record
  | .yielded _ r => some r
  | _ => none

/-- The record that an iteration hands out by a move, if it does. -/
def Move.handed? (k : IterationId) : Move → Option Record
  | .carried (.iteration j _ .take) r =>
      if j = k then r.next.findSome? Instruction.yielded? else none
  | _ => none

/-- The records that an iteration handed out in a history, in order. -/
def recordsHanded (k : IterationId) (h : List Move) : List Record :=
  (h.filterMap (Move.handed? k)).reverse

/-- What an iteration handed out since the result was consumed, and what waits in it, is just what
waited in it then. -/
def HandsOnlyBuffered (k : IterationId) (before : Iteration) (later : List Move) (s : Situation) :
    Prop :=
  ∃ it, s.engine.iterations[k]? = some it ∧ recordsHanded k later ++ it.buffered = before.buffered

section Buffers

variable {s s' : Situation} {m : Move} {h : List Move} {k : IterationId} {it : Iteration}
  {t : TaskId} {rest : List Instruction}

theorem recordsHanded_cons (k : IterationId) (m : Move) (h : List Move) :
    recordsHanded k (m :: h) = recordsHanded k h ++ (m.handed? k).toList := by
  unfold recordsHanded
  cases handed : m.handed? k <;> simp [handed]

theorem Step.handed?_eq_none (step : Step s m s')
    (other : ∀ t a rest, s.agenda ≠ .iteration k t a :: rest) : m.handed? k = none := by
  unfold Move.handed?
  split
  · rename_i j t r
    obtain ⟨rest, head⟩ := step.head_of_carried
    refine if_neg ?_
    rintro rfl
    exact other t .take rest head
  · rfl

theorem Step.buffered_of_stepped {a : Iteration.Action} (step : Step s m s')
    (head : s.agenda = .iteration k t a :: rest) (found : s.engine.iterations[k]? = some it) :
    (m.handed? k).toList ++ (it.step a).1.buffered = it.buffered := by
  obtain ⟨rfl, -⟩ := step.exec_of_head head rfl
  rw [Engine.exec_iteration a found]
  cases a with
  | advance | close | fetch =>
      simp only [Iteration.step]
      split <;> simp [Iteration.buffered, Move.handed?]
  | requested => simp [Iteration.step, Iteration.buffered, Move.handed?]
  | take =>
      cases signals : it.signals with
      | nil =>
          simp [Iteration.step, signals, Iteration.buffered, Move.handed?,
            Instruction.ofIteration, Instruction.yielded?, Reply.next]
      | cons signal signals' =>
          cases signal with
          | record r =>
              simp [Iteration.step, signals, Iteration.buffered, Move.handed?,
                Instruction.ofIteration, Instruction.yielded?, Reply.next]
          | finish f =>
              cases f <;> simp [Iteration.step, signals, Iteration.buffered, Move.handed?,
                Instruction.ofIteration, Instruction.yielded?, Reply.next, List.filterMap_cons]

/-- An iteration that is told of no record hands out one that waits in it, or none. -/
theorem Step.buffered (step : Step s m s') (found : s.engine.iterations[k]? = some it)
    (untold : ∀ i ∈ s.agenda, i.tells k = false) :
    ∃ it', s'.engine.iterations[k]? = some it' ∧
      (m.handed? k).toList ++ it'.buffered = it.buffered := by
  obtain ⟨it', found', tended⟩ := step.tended found
  refine ⟨it', found', ?_⟩
  cases tended with
  | apart awaited other =>
      rw [step.handed?_eq_none fun t a rest head => by simp [head, Instruction.tends] at other]
      rfl
  | stepped head => exact step.buffered_of_stepped head found
  | @record r rest head =>
      have told := untold (.tellRecord (.feed k) r) (by simp [head])
      simp [Instruction.tells] at told
  | ended head =>
      rw [step.handed?_eq_none (k := k) (by simp [head])]
      simp [Iteration.buffered]
  | left head =>
      rw [step.handed?_eq_none (k := k) (by simp [head])]
      obtain ⟨awaited, after⟩ := it.exists_leave
      simp [Iteration.buffered, after]

end Buffers

/-! ## Telling of no more records -/

section Telling

variable {c : Conduct} {h : List Move} {s s' : Situation} {m : Move} {k : IterationId}

/-- Unless a row is delivered while the stream goes on, nobody comes to be told of a record. -/
theorem untold_step (untold : ∀ i ∈ s.agenda, i.tells k = false) (step : Step s m s')
    (permitted : c.Permits h m)
    (still : ∀ fields rest, s.agenda = .stream (.deliver fields) :: rest →
      s.engine.stream.phase ≠ .streaming) : ∀ i ∈ s'.agenda, i.tells k = false := by
  intro i mem
  rcases step.stream_or_quiet permitted with ⟨a, rest, after, effects, stream⟩ | ⟨-, quiet⟩
  · rw [stream.agenda] at mem
    rcases List.mem_append.1 mem with mem | mem
    · rcases stream.steps.tells_le (k := k) with none | ⟨streaming, ⟨fields, rfl⟩, -⟩
      · exact none i mem
      · exact absurd streaming (still fields rest stream.head)
    · exact untold i (by simp [stream.head, mem])
  · obtain ⟨front, tail, agenda, kept, undriven⟩ := quiet.agenda
    rw [agenda] at mem
    rcases List.mem_append.1 mem with mem | mem
    · have cold := undriven i mem
      cases i with
      | tellRecord rc r => cases cold
      | _ => rfl
    · exact untold i (List.mem_of_mem_tail (kept.mem mem))

theorem tells_of_isHot {i : Instruction} (cold : i.isHot = false) : i.tells k = false := by
  cases i with
  | tellRecord rc r => cases cold
  | _ => rfl

/-- The situation is open, or the stream is over and the iteration is told of no record. -/
def Silenced (k : IterationId) (s : Situation) : Prop :=
  Open s ∨ s.engine.stream.phase.isTerminal = true ∧ ∀ i ∈ s.agenda, i.tells k = false

theorem Silenced.step (silenced : Silenced k s) (step : Step s m s') (permitted : c.Permits h m) :
    Silenced k s' := by
  rcases silenced with opened | ⟨terminal, untold⟩
  · rcases opened.step step permitted with opened' | ⟨a, rest, after, effects, stream, ends⟩
    · exact .inl opened'
    · refine .inr ⟨by rw [stream.engine]; exact ends.over.terminal, fun i mem => ?_⟩
      obtain ⟨rc, sc, summary, f, -, -, farewell⟩ := ends.ending
      rw [stream.agenda, farewell] at mem
      rcases List.mem_append.1 mem with mem | mem
      · simp only [QueryStream.farewell, List.mem_cons, List.not_mem_nil, or_false] at mem
        rcases mem with rfl | rfl <;> rfl
      · exact tells_of_isHot (opened.cold stream.head rfl i mem)
  · refine .inr ⟨step.terminal permitted terminal, untold_step untold step permitted ?_⟩
    intro _ _ _ streaming
    simp [streaming, Phase.isTerminal] at terminal

/-- While anything else is carried out, the iteration is told of no record. -/
theorem Silenced.untold (silenced : Silenced k s) {i : Instruction} {rest : List Instruction}
    (head : s.agenda = i :: rest) (cold : i.isHot = false) (line : i.isLine = false) :
    ∀ i ∈ s.agenda, i.tells k = false := by
  rcases silenced with opened | ⟨-, untold⟩
  · intro j mem
    rw [head] at mem
    rcases List.mem_cons.1 mem with rfl | mem
    · exact tells_of_isHot cold
    · exact tells_of_isHot (opened.cold head line j mem)
  · exact untold

end Telling

/-! ## What a settled outcome says of the stream -/

section Verdicts

variable {c : Conduct} {o : PromiseId} {h : List Move} {s s' : Situation} {m : Move}
  {cursor next : Cursor} {k : IterationId}

/-- A cursor that resolved on something was told of the end of a stream that is over, or was
rolled back. -/
def Judged (h : List Move) (s : Situation) : Prop :=
  verdicts 0 h ≠ [] → s.engine.stream.phase.isTerminal = true ∨ rollbacks h ≠ []

/-- What tells of the end stands on the agenda only once the stream is over. -/
theorem Paired.terminal_of_isFinal (paired : Paired o h s cursor) {i : Instruction}
    (mem : i ∈ s.agenda) (final : i.isFinal = true) :
    s.engine.stream.phase.isTerminal = true := by
  cases paired.valediction with
  | before opened clear =>
      rw [clear i mem] at final
      cases final
  | parting front agenda isOver => exact isOver.terminal
  | said rc f isOver => exact isOver.terminal

theorem Paired.judged_step (paired : Paired o h s cursor) (judged : Judged h s)
    (step : Step s m s') (permitted : c.Permits h m) : Judged (m :: h) s' := by
  intro resolved
  have terminal : s.engine.stream.phase.isTerminal = true →
      s'.engine.stream.phase.isTerminal = true := step.terminal permitted
  cases verdict : m.verdict? 0 with
  | none =>
      rw [verdicts_cons, verdict] at resolved
      exact (judged resolved).imp terminal (rollbacks_cons_ne_nil m)
  | some st =>
      obtain ⟨a, r, rfl, resolves⟩ := Move.exists_of_verdict? verdict
      obtain ⟨rest, head⟩ := step.head_of_carried
      cases a with
      | notify summary f =>
          refine .inl (terminal (paired.terminal_of_isFinal (head ▸ List.mem_cons_self ..) ?_))
          cases f <;> cases summary <;> first | rfl | cases resolves
      | rollback receiver =>
          have found : s.engine.cursors[0]? = some cursor := by simp [paired.attached.cursors]
          obtain ⟨move, -⟩ := step.exec_of_head head rfl
          rw [s.engine.exec_cursor found rfl] at move
          rw [move]
          exact .inr (by simp [rollbacks, Move.rollback?, Reply.next])
      | _ => cases resolves

/-- What holds throughout of the cursor of a stream, and of an iteration that it may feed. -/
structure Presiding (o : PromiseId) (k : IterationId) (h : List Move) (s : Situation)
    (cursor : Cursor) : Prop where
  paired : Paired o h s cursor
  conceding : Conceding o s cursor
  judged : Judged h s
  silenced : Silenced k s

theorem Run.presiding {e : Engine} (secluded : e.Secluded o) (sole : c.Sole) (holds : c.Holds)
    (run : Run c ⟨e, []⟩ h s) (k : IterationId) : ∃ cursor, Presiding o k h s cursor := by
  refine run.invariant (I := fun h s => ∃ cursor, Presiding o k h s cursor) ?_ ?_
  · obtain ⟨cursor, paired⟩ := secluded.paired
    obtain ⟨runError, release, cursors⟩ := secluded.cursors
    obtain rfl : cursor = .fresh runError release o := by
      simpa using paired.attached.cursors.symm.trans cursors
    have ready : e.stream.phase = .ready := by rw [secluded.stream]; rfl
    exact ⟨_, paired, ⟨fun consumed => (by cases consumed), .inr trivial⟩,
      fun resolved => absurd rfl resolved,
      .inl ⟨.inr ready, by simp, by simp [UpFront, pastLines]⟩⟩
  · rintro h s s' m ⟨cursor, presiding⟩ step permitted
    have paired := presiding.paired
    obtain ⟨next, paired'⟩ := paired.step sole holds step permitted
    have created := paired.orderly.bounded _ _ paired.reserved.plays
    exact ⟨next, paired', presiding.conceding.step paired.attached created paired.orderly.steady
        step permitted paired'.attached.cursors,
      paired.judged_step presiding.judged step permitted, presiding.silenced.step step permitted⟩

/-- Unless the cursor was rolled back, its outcome is resolved and its result consumed only once
the stream is given up or over. -/
theorem Presiding.givenUp (presiding : Presiding o k h s cursor) (kept : rollbacks h = [])
    (settled : s.engine.loop.isDone o = true ∨ cursor.isConsumed = true) :
    s.engine.stream.GivenUp := by
  have terminal : s.engine.loop.isDone o = true → s.engine.stream.phase.isTerminal = true := by
    intro done
    obtain ⟨st, settlement⟩ := Option.isSome_iff_exists.1 done
    have first := presiding.paired.reserved.deciding.getLast? settlement
    refine (presiding.judged ?_).resolve_right (absurd kept)
    rintro none
    simp [none] at first
  rcases settled with done | consumed
  · exact .inr (terminal done)
  · exact (presiding.conceding.consumed consumed).imp_right fun given => given.elim id terminal

end Verdicts

/-! ## Giving up the stream -/

section Ceasing

variable {c : Conduct} {o : PromiseId} {h : List Move} {s s' : Situation} {m : Move}
  {cursor next : Cursor} {k : IterationId} {it : Iteration}

/-- The stream is given up or over, or is given up next; before that, the cursor may be asked to
take a consumer, and has one. -/
inductive Ceasing (s : Situation) (cursor : Cursor) : Prop
  | staged {rest : List Instruction}
      (first : pastLines s.agenda = .cursor 0 (.install .discard) :: .cursor 0 .cancel :: rest)
      (taken : cursor.status ≠ .notInstalled) (unconsumed : cursor.isConsumed = false)
      (present : s.engine.stream.lacksConsumer = false) : Ceasing s cursor
  | lapsing (lapses : Lapses s) : Ceasing s cursor

theorem Cursor.step_install_of_taken {done : Bool} (unconsumed : cursor.isConsumed = false)
    (taken : cursor.status ≠ .notInstalled) (consumer : RecordConsumer) :
    cursor.step done (.install consumer) = .ok (cursor, []) := by
  simp [step, ensureOpen, unconsumed, taken, ConsumerStatus.isInstalled, bind, Except.bind, pure,
    Except.pure]

theorem Ceasing.step (ceasing : Ceasing s cursor) (attached : Attached o h s cursor)
    (step : Step s m s') (permitted : c.Permits h m) (hnext : s'.engine.cursors = #[next]) :
    Ceasing s' next := by
  cases ceasing with
  | lapsing lapses => exact .lapsing (lapses.step attached step permitted)
  | @staged rest first taken unconsumed present =>
      rcases step.pastLines_or_head permitted first with ⟨-, same, first⟩ | head
      · obtain rfl : cursor = next := by simpa [same, attached.cursors] using hnext
        exact .staged first taken unconsumed (same ▸ present)
      · have found : s.engine.cursors[0]? = some cursor := by simp [attached.cursors]
        obtain ⟨-, rfl⟩ := step.exec_of_head head rfl
        rw [s.engine.exec_cursor found (Cursor.step_install_of_taken unconsumed taken _)]
        exact .lapsing (.inr ⟨⟨.cursor 0 .cancel, rest, rfl, rfl⟩, present⟩)

theorem Ceasing.still (ceasing : Ceasing s cursor) {fields : Value} {rest : List Instruction}
    (head : s.agenda = .stream (.deliver fields) :: rest) : s.engine.stream.phase ≠ .streaming := by
  intro streaming
  cases ceasing with
  | staged first =>
      rw [head, pastLines_cons_other rfl] at first
      cases first
  | lapsing lapses =>
      rcases lapses with given | ⟨⟨i, tail, first, gives⟩, -⟩
      · rcases given with cancelled | terminal
        · simp [streaming] at cancelled
        · simp [streaming, Phase.isTerminal] at terminal
      · rw [head, pastLines_cons_other rfl] at first
        obtain ⟨rfl, -⟩ := List.cons.inj first
        cases gives

/-- Asking for the summary gives up the stream next, unless that was given up before. -/
theorem ceasing_of_summary (presiding : Presiding o k h s cursor) (kept : rollbacks h = [])
    (taken : cursor.status ≠ .notInstalled) (present : s.engine.stream.lacksConsumer = false)
    {receiver : Receiver} {rest : List Instruction}
    (head : s.agenda = .cursor 0 (.summary receiver) :: rest) (step : Step s m s')
    (permitted : c.Permits h m) (hnext : s'.engine.cursors = #[next]) : Ceasing s' next := by
  have attached := presiding.paired.attached
  have outcome := attached.outcome_eq
  by_cases settled : s.engine.loop.isDone o = true ∨ cursor.isConsumed = true
  · exact .lapsing (.inl (step.givenUp permitted (presiding.givenUp kept settled)))
  · simp only [not_or, Bool.not_eq_true] at settled
    obtain ⟨pending, unconsumed⟩ := settled
    have found : s.engine.cursors[0]? = some cursor := by simp [attached.cursors]
    obtain ⟨-, rfl⟩ := step.exec_of_head head rfl
    rw [s.engine.exec_cursor found rfl] at hnext ⊢
    obtain rfl : { cursor with isSummaryExposed := true } = next := by
      simpa [attached.cursors] using hnext
    have stage : cursor.stage (s.engine.isResolved cursor)
        = [Cursor.line .info "summary requested before the end of the stream, discarding records",
          .andThen (.install .discard), .andThen .cancel, .andThen .markConsumed] := by
      simp [Cursor.stage, Engine.isResolved, outcome, pending, unconsumed]
    have first : pastLines (Reply.onto (.go
          ((cursor.stage (s.engine.isResolved cursor) ++ [Cursor.Effect.relay receiver]).map
            (.ofCursor 0 { cursor with isSummaryExposed := true }))) rest)
        = .cursor 0 (.install .discard) :: .cursor 0 .cancel :: .cursor 0 .markConsumed ::
          .relay 0 receiver :: rest := by
      rw [stage]
      rfl
    exact .staged first taken unconsumed present

/-- Where the summary was asked for, and where that leads: the stream ceases, the iteration is
told of no record, and what it hands out waited in it before. -/
structure Draining (k : IterationId) (before : Iteration) (later : List Move) (s : Situation) :
    Prop where
  ceasing : ∀ cursor, s.engine.cursors = #[cursor] → Ceasing s cursor
  untold : ∀ i ∈ s.agenda, i.tells k = false
  drains : HandsOnlyBuffered k before later s

theorem Draining.step {later : List Move} (draining : Draining k it later s)
    (attached : Attached o h s cursor) (step : Step s m s') (permitted : c.Permits h m) :
    Draining k it (m :: later) s' := by
  have ceasing := draining.ceasing cursor attached.cursors
  obtain ⟨waiting, found, drains⟩ := draining.drains
  obtain ⟨it', found', buffered⟩ := step.buffered found draining.untold
  refine ⟨fun next hnext => ceasing.step attached step permitted hnext,
    untold_step draining.untold step permitted fun _ _ => ceasing.still, it', found', ?_⟩
  rw [recordsHanded_cons, List.append_assoc, buffered, drains]

/-- Asking for the summary is where an iteration begins to be drained. -/
theorem draining_of_summary (presiding : Presiding o k h s cursor)
    (lending : Lending o k h s cursor) (found : s.engine.iterations[k]? = some it)
    (own : it.cursor = 0) (handed : HandedOut k h) (kept : rollbacks h = [])
    (asks : m.asksSummary 0 = true) (step : Step s m s') (permitted : c.Permits h m) :
    Draining k it [m] s' := by
  unfold Move.asksSummary at asks
  split at asks
  · obtain rfl := eq_of_beq asks
    obtain ⟨rest, head⟩ := step.head_of_carried
    have taken := lending.handing.status handed found own
    have present := lending.present handed found own head rfl rfl
    have untold := presiding.silenced.untold head rfl rfl
    obtain ⟨it', found', buffered⟩ := step.buffered found untold
    refine ⟨fun next => ceasing_of_summary presiding kept taken present head step permitted,
      untold_step untold step permitted fun _ _ other => ?_, it', found', buffered⟩
    rw [head] at other
    cases other
  · cases asks

/-- Once the result is consumed, an iteration hands out what waited in it, in order, and nothing
else: of the records that it was not told of by then it hands out none, whether they are with the
server or in flight, and of those that it was told of it loses none. -/
theorem Run.handsOnlyBuffered {e : Engine} {later earlier : List Move} {s₁ : Situation}
    (secluded : e.Secluded o) (unread : e.iterations = #[]) (sole : c.Sole) (holds : c.Holds)
    (run : Run c ⟨e, []⟩ (later ++ m :: earlier) s) (before : Run c ⟨e, []⟩ earlier s₁)
    (asks : m.asksSummary 0 = true) (found : s₁.engine.iterations[k]? = some it)
    (own : it.cursor = 0) (handed : HandedOut k earlier) (kept : rollbacks earlier = []) :
    HandsOnlyBuffered k it (later ++ [m]) s := by
  suffices draining : Draining k it (later ++ [m]) s from draining.drains
  refine before.followingMove (I := fun later s => Draining k it (later ++ [m]) s)
    (fun step permitted => ?_) (fun draining run step permitted => ?_) run
  · obtain ⟨cursor, presiding⟩ := before.presiding secluded sole holds k
    obtain ⟨lent, lending⟩ := before.lending secluded.toBegun unread sole k
    obtain rfl : lent = cursor := by
      simpa using lending.attached.cursors.symm.trans presiding.paired.attached.cursors
    exact draining_of_summary presiding lending found own handed kept asks step permitted
  · obtain ⟨cursor, lending⟩ := run.lending secluded.toBegun unread sole k
    exact draining.step lending.attached step permitted

end Ceasing

/-! ## Two results that are consumed while they are being read -/

/-- Of two records that came, one is read; then the result is to be consumed. -/
def oneOfTwo : List Act :=
  [.calls [.openResult 0 .standard, .records 0 (.int 2) .null (.caller "records")],
    .calls [.spawn (.next 0) .nobody], .job,
    .calls [.stream (.deliver (.list [])), .stream (.deliver (.list []))], .job,
    .calls [.spawn (.consume 0) (.caller "consume")]]

/-- Where the task that consumes the result asks for the summary. -/
def consumingPoint : List Move × Situation :=
  Situation.acts 1 [.job] (Situation.acts 24 oneOfTwo ([], ⟨soleEngine, []⟩))

/-- Where the next record was asked of the iteration after that. -/
def readOnPoint : List Move × Situation :=
  Situation.acts 24 [.calls [.spawn (.next 0) .nobody], .job]
    (Situation.advances 24 consumingPoint)

theorem handsOnlyBuffered_readOn :
    ∃ it later m, readOnPoint.1 = later ++ m :: consumingPoint.1 ∧ m.asksSummary 0 = true ∧
      consumingPoint.2.engine.iterations[0]? = some it ∧
      HandsOnlyBuffered 0 it (later ++ [m]) readOnPoint.2 ∧
      (recordsHanded 0 (later ++ [m])).length = 1 ∧ readOnPoint.2.agenda.isEmpty = true := by
  have read : Run .discreet ⟨soleEngine, []⟩ (Situation.acts 24 oneOfTwo ([], ⟨soleEngine, []⟩)).1
      (Situation.acts 24 oneOfTwo ([], ⟨soleEngine, []⟩)).2 :=
    .of_acts rfl (by decide +kernel) (by decide +kernel)
  have before : Run .discreet ⟨soleEngine, []⟩ consumingPoint.1 consumingPoint.2 :=
    read.acts_of_isDiscreet rfl rfl (by decide +kernel)
  have consumed : Run .discreet ⟨soleEngine, []⟩ (Situation.advances 24 consumingPoint).1
      (Situation.advances 24 consumingPoint).2 :=
    before.advances_of_allAdmitted rfl (by decide +kernel)
  have run : Run .discreet ⟨soleEngine, []⟩ readOnPoint.1 readOnPoint.2 :=
    consumed.acts_of_isDiscreet rfl (by decide +kernel) (by decide +kernel)
  have own : consumingPoint.2.engine.iterations[0]?.map Iteration.cursor = some 0 := by
    decide +kernel
  have waiting : consumingPoint.2.engine.iterations[0]?.map (fun it => it.buffered.length)
      = some 1 := by decide +kernel
  have empty : readOnPoint.2.engine.iterations[0]?.map (fun it => it.buffered.length)
      = some 0 := by decide +kernel
  obtain ⟨it, found, one⟩ := Option.map_eq_some_iff.1 waiting
  have busy : consumingPoint.2.agenda.isEmpty = false := by decide +kernel
  obtain ⟨m, move, -, -⟩ := Situation.exists_step_advance busy
  have asks : consumingPoint.2.advance.1.all (Move.asksSummary 0) = true := by decide +kernel
  have asks : m.asksSummary 0 = true := by simpa [move] using asks
  -- the move that asks is the first of those between the two points
  obtain ⟨later, split⟩ : m :: consumingPoint.1 <:+ readOnPoint.1 := by
    have first : m :: consumingPoint.1 <:+ (Situation.advances 24 consumingPoint).1 := by
      rw [Situation.advances_succ, move]
      exact Situation.suffix_advances 23 _ _
    exact first.trans (Situation.suffix_acts 24 _ _ _)
  have split := split.symm
  rw [split] at run
  have drains : HandsOnlyBuffered 0 it (later ++ [m]) readOnPoint.2 :=
    run.handsOnlyBuffered secluded_soleEngine rfl Conduct.discreet_sole Conduct.discreet_holds
      before asks found (by simpa [found] using own) (by decide +kernel)
      (List.isEmpty_iff.1 (by decide +kernel))
  obtain ⟨it', found', handed⟩ := id drains
  have none : it'.buffered.length = 0 := by simpa [found'] using empty
  refine ⟨it, later, m, split, asks, found, drains, ?_, by decide +kernel⟩
  rw [← one, ← handed, List.length_append, none, Nat.add_zero]

/-- The record that came is read, and the cursor is rolled back; then the result is consumed. -/
def consumedLate : List Act :=
  [.calls [.openResult 0 .standard, .records 0 (.int 2) .null (.caller "records")],
    .calls [.spawn (.next 0) .nobody], .job, .calls [.stream (.deliver (.list []))], .job,
    .calls [.cursor 0 (.rollback (.caller "rollback"))],
    .calls [.spawn (.consume 0) (.caller "consume")], .job, .job, .job, .job]

/-- Where that leads. -/
def consumedLatePoint : List Move × Situation :=
  Situation.acts 24 consumedLate ([], ⟨soleEngine, []⟩)

/-- Where the next record comes and is asked of the iteration. -/
def lateRecordPoint : List Move × Situation :=
  Situation.acts 24
    [.calls [.stream (.deliver (.list []))], .calls [.spawn (.next 0) .nobody], .job]
    consumedLatePoint

/-- Once the cursor was rolled back, consuming the result leaves the stream as it is, and a record
is handed out that came afterwards. -/
theorem handed_lateRecord :
    Run .discreet ⟨soleEngine, []⟩ lateRecordPoint.1 lateRecordPoint.2 ∧
      consumedLatePoint.1.any (Move.asksSummary 0) = true ∧
      (consumedLatePoint.2.engine.iterations[0]?.all fun it => it.buffered.isEmpty) = true ∧
      (recordsHanded 0 consumedLatePoint.1).length = 1 ∧
      (recordsHanded 0 lateRecordPoint.1).length = 2 := by
  have consumed : Run .discreet ⟨soleEngine, []⟩ consumedLatePoint.1 consumedLatePoint.2 :=
    .of_acts rfl (by decide +kernel) (by decide +kernel)
  exact ⟨consumed.acts_of_isDiscreet rfl (by decide +kernel) (by decide +kernel),
    by decide +kernel, by decide +kernel, by decide +kernel, by decide +kernel⟩

end QueryStream
