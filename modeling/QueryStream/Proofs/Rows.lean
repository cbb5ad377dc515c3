/-
  Proofs/Rows.lean --- the rows of a query reach the record consumer in order.

  A server that has rows sends them as they are asked for (`Conduct.SendsRows`).  Callers demand
  records and give the stream up whenever they like, between batches, inside one, or while they
  are told of a record.

  Whatever they do, what was delivered is always a beginning of the rows, no more of them than
  were demanded; and a stream that succeeded without being given up delivered all of them
  (`Run.rowsInOrder`).  It is no more than the cap either, if the record consumer returned from
  every record before the next one came: what it threw at is not counted (`not_rowsInOrder`).

  Until the stream is given up or ends, everything that was sent was delivered or is about to be,
  and what was demanded covers it (`Going`).  From then on nothing is delivered (`Stopped`).
-/
import QueryStream.Proofs.Rows.Demand

set_option autoImplicit false

namespace QueryStream

section Steps

variable {c : Conduct} {h : List Move} {s s' : Situation} {m : Move} {rows : List Record}
  {e : Engine} {cap : Value} {a : Stream.Action} {rest : List Instruction} {after : Stream}
  {effects : List Stream.Effect}

/-! ## Counting and the cap -/

theorem Stream.Steps.delivered {x : Stream.Surroundings} {st st' : Stream}
    (steps : Stream.Steps x st a st' effects) :
    st'.delivered = st.delivered + if a.isCount then 1 else 0 := by
  cases steps <;> rfl

/-- A step that delivers a record has it counted. -/
theorem Stream.Steps.counts {x : Stream.Surroundings} {st st' : Stream}
    (steps : Stream.Steps x st a st' effects) :
    (effects.map .ofStream).countP Instruction.isCount
      = (QueryStream.dueRecords (effects.map .ofStream)).length := by
  cases steps with
  | conclude | concludeRefused | concludeFailure =>
      obtain ⟨none, uncounted⟩ := st.dueRecords_endEffects _ _
      rw [none, uncounted]
      rfl
  | announce => cases st.summaryConsumer <;> rfl
  | _ => rfl

theorem countP_isCount_of_stream (stream : StreamStep s m s' a rest after effects) :
    (m :: h).countP Move.isCount = h.countP Move.isCount + if a.isCount then 1 else 0 := by
  rw [stream.move, List.countP_cons]
  cases a <;> rfl

theorem Going.counting_of_stream (going : Going rows cap h s) (opened : Open s)
    (stream : StreamStep s m s' a rest after effects) :
    (m :: h).countP Move.isCount + s'.agenda.countP Instruction.isCount
      ≤ (dealt (m :: h) s').length := by
  obtain ⟨former, latter⟩ := dealt_stream (h := h) opened stream
  have counting := going.counting
  have counts := stream.steps.counts
  have head : s.agenda.countP Instruction.isCount
      = (if a.isCount then 1 else 0) + rest.countP Instruction.isCount := by
    rw [stream.head, List.countP_cons, Nat.add_comm]
    rfl
  rw [latter, countP_isCount_of_stream stream, stream.agenda, List.countP_append,
    List.length_append]
  rw [former] at counting
  omega

/-- Taking a record leads to counting it, and that to seeing whether the cap was reached; once it
was, the stream is given up next. -/
theorem Going.capped_of_stream {k : Nat} (going : Going rows cap h s) (opened : Open s)
    (query : s.engine.cap = cap) (stream : StreamStep s m s' a rest after effects)
    (goesOn : a ≠ .cancel) (returned : returnedFirst (m :: h) = true) (positive : 0 < k)
    (limit : cap = .int k) :
    (dealt (m :: h) s').length ≤ k ∧
      ((m :: h).countP Move.isCount < k ∨ StopsNext s') := by
  obtain ⟨bound, next⟩ := going.capped (returnedFirst_of_cons returned) k positive limit
  have fits := opened.fits (.stream a) (by simp [stream.head])
  have hstream : s'.engine.stream = after := by rw [stream.engine]
  have counted := going.counted
  have counts := countP_isCount_of_stream (h := h) stream
  -- what is carried out is not what stops the stream, but for seeing to the cap
  have below : a ≠ .checkCap → h.countP Move.isCount < k := by
    intro other
    rcases next with below | ⟨-, tail, first | first⟩
    · exact below
    all_goals
      rw [stream.head] at first
      have heq := (List.cons.inj first).1
      simp_all
  cases stream.steps with
  | deliver line present phase consumer made =>
      obtain ⟨former, latter⟩ := dealt_stream (h := h) opened stream
      -- That all records before were counted is needed here only: this one is handed out before it
      -- is counted.
      have taken : (deliveries h).length = h.countP Move.isCount := by
        simpa [returnedFirst, stream.move, Move.isRow, returnedFirst_of_cons returned]
          using returned
      have below := below (by simp)
      refine ⟨?_, .inl (by rw [counts]; exact below)⟩
      rw [latter, List.length_append, taken]
      exact below
  | count =>
      refine ⟨by rw [dealt_same opened stream (by simp)]; exact bound, .inr ⟨?_, rest, .inl ?_⟩⟩
      · rw [hstream]
        exact (fits rfl).1
      · rw [stream.agenda]
        rfl
  | capReached line cap =>
      refine ⟨by rw [dealt_same opened stream (by simp)]; exact bound, .inr ⟨?_, rest, .inr ?_⟩⟩
      · rw [hstream]
        exact (fits rfl).1
      · rw [stream.agenda]
        rfl
  | capOpen cap =>
      have open' : Stream.reaches s.engine.cap s.engine.stream.delivered = .ok false := cap
      rw [query, limit, reaches_int positive, counted] at open'
      refine ⟨by rw [dealt_same opened stream (by simp)]; exact bound, .inl ?_⟩
      rw [counts]
      simpa [Stream.Action.isCount] using open'
  | drop line present phase =>
      refine ⟨by rw [dealt_same opened stream fun _ _ => phase]; exact bound, .inl ?_⟩
      rw [counts]
      exact below (by simp)
  | discard | giveUp | ignoreCancel => exact absurd rfl goesOn
  | _ =>
      refine ⟨by rw [dealt_same opened stream (by simp)]; exact bound, .inl ?_⟩
      rw [counts]
      exact below (by simp)

/-! ## A stream that goes on -/

theorem Engine.Yields.made {row : Record} {k : Nat} (yields : e.Yields rows)
    (query : e.SameQuery s.engine) (next : rows[k]? = some row) :
    Record.ofSequences? (.list s.engine.run.keys) (.list row.values) = .ok row := by
  have keys := yields.keys row (List.mem_of_getElem? next)
  rw [query.keys, ← keys]
  exact row.ofSequences?_values (by rw [keys]; exact yields.keyed)

theorem Going.inOrder_of_stream (going : Going rows e.cap h s) (sending : Sending rows e h s)
    (sends : c.SendsRows rows) (yields : e.Yields rows) (opened : Open s)
    (stream : StreamStep s m s' a rest after effects) (permitted : c.Permits h m) :
    dealt (m :: h) s' = rows.take ((m :: h).countP Move.isRow) := by
  obtain ⟨former, latter⟩ := dealt_stream (h := h) opened stream
  have inOrder := going.inOrder
  rw [List.countP_cons]
  by_cases sent : ∃ fields, a = .deliver fields
  · obtain ⟨fields, rfl⟩ := sent
    have row : m.isRow = true := by rw [stream.move]; rfl
    have hmove := stream.move
    rw [hmove] at permitted
    obtain ⟨waiting, -, next, there, rfl⟩ := sends.inTurn _ _ _ permitted.1
    have streaming := going.batch.streaming_of_owed (sending.owed waiting)
    rcases stream.steps.dueRecords with ⟨-, dropped⟩ | ⟨fields, record, same, -, made, due⟩
    · exact absurd streaming (dropped _ rfl)
    · obtain rfl : Value.list next.values = fields := by simpa using same
      have made' := yields.made sending.query there
      obtain rfl : record = next := Except.ok.inj (made.symm.trans made')
      rw [latter, due, ← former, inOrder, row, if_pos rfl, List.take_add_one, there]
      rfl
  · have row : m.isRow = false :=
      isRow_of_stream stream fun fields same => sent ⟨fields, same⟩
    rw [row, dealt_same opened stream fun fields same => absurd ⟨fields, same⟩ sent]
    exact inOrder

theorem Stream.Steps.given_of_cancel {x : Stream.Surroundings} {st st' : Stream}
    (steps : Stream.Steps x st .cancel st' effects) :
    st'.phase = .cancelled ∨ st'.phase.isTerminal = true := by
  cases steps with
  | discard | giveUp => exact .inl rfl
  | ignoreCancel present ready streaming =>
      cases phase : st.phase <;> simp_all [Phase.isTerminal]

theorem endings_eq_nil (step : Step s m s') (permitted : c.Permits h m) (unended : endings h = [])
    (running : s'.engine.stream.phase.isTerminal = false) : endings (m :: h) = [] := by
  rcases step.stops permitted with ⟨none, -⟩ | ⟨r, rest, -, -, terminal, -⟩
  · rw [endings_cons, none, unended]
    rfl
  · rw [running] at terminal
    cases terminal

theorem gaveUp_cons (kept : gaveUp h = false) (other : m.gaveUp = false) :
    gaveUp (m :: h) = false := by
  simp [gaveUp, kept, other]

theorem Going.of_stream (going : Going rows e.cap h s) (sending : Sending rows e h s)
    (sends : c.SendsRows rows) (yields : e.Yields rows) (opened : Open s) (step : Step s m s')
    (stream : StreamStep s m s' a rest after effects) (permitted : c.Permits h m)
    (goesOn : ¬ (after.phase = .cancelled ∨ after.phase.isTerminal = true)) :
    Going rows e.cap (m :: h) s' := by
  have uncancelled : a ≠ .cancel := by
    rintro rfl
    exact goesOn stream.steps.given_of_cancel
  have batch := going.batch_of_stream sends opened stream permitted goesOn
  refine ⟨batch, gaveUp_cons going.kept ?_,
    endings_eq_nil step permitted going.unended batch.isTerminal,
    going.inOrder_of_stream sending sends yields opened stream permitted, ?_,
    going.counting_of_stream opened stream, fun returned k positive limit =>
      going.capped_of_stream opened sending.query.cap stream uncancelled returned positive limit⟩
  · rw [stream.move]
    cases a <;> first | rfl | exact absurd rfl uncancelled
  · rw [stream.engine, countP_isCount_of_stream stream, ← going.counted]
    exact stream.steps.delivered

/-! ## A stream that stops -/

theorem Going.accounted (going : Going rows cap h s) : RowsInOrder rows cap h s where
  inOrder := by
    have first : deliveries h <+: dealt h s := List.prefix_append _ _
    rw [going.inOrder] at first
    exact first.trans (List.take_prefix _ _)
  demanded := by
    have fewer : (deliveries h).length ≤ (dealt h s).length := by
      simp [dealt]
    cases total : demanded h with
    | all => trivial
    | records n =>
        cases going.batch with
        | ready phase covered =>
            obtain ⟨k, -, bound⟩ := covered n total
            exact Nat.le_trans fewer (by omega)
        | streaming pull left phase underway covered =>
            obtain ⟨k, -, -, nonneg, bound⟩ := covered n total
            exact Nat.le_trans fewer (by omega)
  capped returned m positive limit := by
    have fewer : (deliveries h).length ≤ (dealt h s).length := by
      simp [dealt]
    exact Nat.le_trans fewer (going.capped returned m positive limit).1
  complete succeeded := by
    rcases going.batch.running with phase | phase <;> simp [phase] at succeeded

theorem Going.complete (going : Going rows e.cap h s) (sending : Sending rows e h s)
    (sends : c.SendsRows rows) (opened : Open s)
    (stream : StreamStep s m s' a rest after effects) (permitted : c.Permits h m)
    (succeeded : after.phase = .succeeded) : deliveries h = rows := by
  obtain ⟨metadata, rfl, last⟩ :=
    stream.steps.exists_of_succeeded going.batch.isTerminal succeeded
  have hmove := stream.move
  subst hmove
  obtain ⟨waiting, tells⟩ := sends.successes _ _ _ permitted.1
  have streaming := going.batch.streaming_of_owed (sending.owed waiting)
  cases going.batch with
  | ready phase covered => simp [phase] at streaming
  | streaming pull left phase underway covered =>
      obtain ⟨query, request, -⟩ := underway.exists_request opened stream.head
      have sent : rows.length ≤ h.countP Move.isRow := by
        have told := tells pull query request
        rw [last streaming] at told
        simpa using told.symm
      obtain ⟨former, -⟩ := dealt_stream (h := h) opened stream
      rw [← former, going.inOrder, List.take_of_length_le sent]

theorem Going.stops (going : Going rows e.cap h s) (sending : Sending rows e h s)
    (sends : c.SendsRows rows) (opened : Open s) (step : Step s m s')
    (stream : StreamStep s m s' a rest after effects) (permitted : c.Permits h m)
    (given : after.phase = .cancelled ∨ after.phase.isTerminal = true) :
    Stopped rows e.cap (m :: h) s' := by
  have hstream : s'.engine.stream = after := by rw [stream.engine]
  have before := going.accounted
  have undelivered : deliveries (m :: h) = deliveries h := by
    rw [deliveries, stream.move]
    exact List.append_nil _
  -- what delivers a record leaves the stream running
  have silent : dueRecords (effects.map .ofStream) = [] := by
    rcases stream.steps.dueRecords with ⟨none, -⟩ | ⟨fields, record, rfl, streaming, -, -⟩
    · exact none
    · exfalso
      have steps := stream.steps
      cases steps with
      | deliver => rcases given with given | given <;> simp [streaming, Phase.isTerminal] at given
      | drop line present phase => exact phase streaming
  have cancelled : after.phase = .cancelled → gaveUp (m :: h) = true := by
    intro phase
    obtain rfl := stream.steps.eq_cancel going.batch.running phase
    rw [stream.move]
    simp [gaveUp, Move.gaveUp, going.unended]
  refine ⟨⟨?_, ?_, fun returned => ?_, fun succeeded _ => ?_⟩, by rwa [hstream], ?_,
    by rwa [hstream], fun rc record mem => ?_⟩
  · rw [undelivered]
    exact before.inOrder
  · rw [undelivered]
    exact before.demanded.cons m
  · rw [undelivered]
    exact before.capped (returnedFirst_of_cons returned)
  · rw [undelivered]
    rw [hstream] at succeeded
    exact going.complete sending sends opened stream permitted succeeded
  · rcases given with given | given
    · exact .inl (cancelled given)
    · rcases step.stops permitted with ⟨-, same⟩ | ⟨r, tail, some, -⟩
      · rw [hstream, given, going.batch.isTerminal] at same
        cases same
      · exact .inr (by simp [endings_cons, some])
  · rw [stream.agenda] at mem
    rcases List.mem_append.1 mem with mem | mem
    · have none := List.filterMap_eq_nil_iff.1 silent _ mem
      cases none
    · have cold := opened.cold stream.head rfl _ mem
      cases cold

/-! ## Off the stream -/

theorem Move.of_quiet (other : ∀ a next, m ≠ .carried (.stream a) (.go next)) :
    m.demand? = none ∧ m.gaveUp = false := by
  constructor
  · unfold Move.demand?
    split
    · exact absurd rfl (other _ _)
    · rfl
  · unfold Move.gaveUp
    split
    · exact absurd rfl (other _ _)
    · rfl

/-- A stream with both consumers takes the row that it is sent. -/
theorem Stream.exists_deliver {x : Stream.Surroundings} {st : Stream} {fields : Value}
    {record : Record} (attended : st.Attended)
    (made : Record.ofSequences? (.list x.run.keys) fields = .ok record) :
    ∃ next, st.step x (.deliver fields) = .ok next := by
  have present : st.lacksConsumer = false := by
    simp [Stream.lacksConsumer, attended.1, attended.2]
  simp only [Stream.step, Stream.deliver, Stream.ensureConsumers_eq_ok x present, made]
  split
  · exact ⟨_, rfl⟩
  · exact ⟨_, rfl⟩

theorem Going.isRow_eq_false (going : Going rows e.cap h s) (sending : Sending rows e h s)
    (sends : c.SendsRows rows) (yields : e.Yields rows) (opened : Open s) (step : Step s m s')
    (permitted : c.Permits h m) (other : ∀ a next, m ≠ .carried (.stream a) (.go next)) :
    m.isRow = false := by
  cases row : m.isRow with
  | false => rfl
  | true =>
      obtain ⟨fields, r, rfl⟩ := Move.exists_of_isRow row
      obtain ⟨waiting, -, next, there, rfl⟩ := sends.inTurn _ _ _ permitted.1
      have streaming := going.batch.streaming_of_owed (sending.owed waiting)
      have attended : s.engine.stream.Attended := by
        rcases opened.waits with attended | ready
        · exact attended
        · simp [ready] at streaming
      obtain ⟨taken, takes⟩ := Stream.exists_deliver (x := s.engine.surroundings) attended
        (yields.made sending.query there)
      obtain ⟨rest, head⟩ := step.head_of_carried
      obtain ⟨after, effects, stream⟩ := step.exists_stream permitted head (by simp [takes])
      exact absurd stream.move (other _ _)

/-- What stops the stream goes on to do so. -/
theorem StopsNext.quiet {k : Nat} (stops : StopsNext s) (positive : 0 < k)
    (limit : s.engine.cap = .int k) (step : Step s m s') (permitted : c.Permits h m)
    (quiet : Quiet s m s') (other : ∀ a next, m ≠ .carried (.stream a) (.go next)) :
    StopsNext s' := by
  obtain ⟨attended, tail, first⟩ := stops
  refine ⟨by rwa [quiet.stream], tail, ?_⟩
  rcases first with first | first
  · rcases step.pastLines_or_head permitted first with ⟨-, -, first⟩ | head
    · exact .inl first
    · have known : Stream.reaches s.engine.surroundings.cap s.engine.stream.delivered
          = .ok (decide (k ≤ s.engine.stream.delivered)) := by
        rw [← reaches_int positive, ← limit]
        rfl
      obtain ⟨after, effects, stream⟩ := step.exists_stream permitted head (by
        simp only [Stream.step, Stream.checkCap, known]
        cases decide (k ≤ s.engine.stream.delivered) <;> intro cause refused <;> cases refused)
      exact absurd stream.move (other _ _)
  · rcases step.pastLines_or_head permitted first with ⟨-, -, first⟩ | head
    · exact .inr first
    · have present : s.engine.stream.lacksConsumer = false := by
        simp [Stream.lacksConsumer, attended.1, attended.2]
      obtain ⟨after, effects, stream⟩ :=
        step.exists_stream permitted head (Stream.step_cancel_ne_error _ present)
      exact absurd stream.move (other _ _)

theorem Step.isCount_eq_false (step : Step s m s') (permitted : c.Permits h m)
    (other : ∀ a next, m ≠ .carried (.stream a) (.go next)) : m.isCount = false := by
  cases count : m.isCount with
  | false => rfl
  | true =>
      obtain ⟨r, rfl⟩ : ∃ r, m = .carried (.stream .count) r := by
        unfold Move.isCount at count
        split at count
        · exact ⟨_, rfl⟩
        · cases count
      obtain ⟨rest, head⟩ := step.head_of_carried
      obtain ⟨after, effects, stream⟩ := step.exists_stream permitted head nofun
      exact absurd stream.move (other _ _)

theorem Quiet.countP_isCount_le (quiet : Quiet s m s') :
    s'.agenda.countP Instruction.isCount ≤ s.agenda.countP Instruction.isCount := by
  obtain ⟨front, tail, agenda, behind, fronts⟩ := quiet.agenda
  have none : front.countP Instruction.isCount = 0 := by
    rw [List.countP_eq_zero]
    intro i mem
    have driven := fronts i mem
    unfold Instruction.isCount Stream.Action.isCount
    split
    · split
      · cases driven
      · simp
    · simp
  rw [agenda, List.countP_append, none, Nat.zero_add]
  exact (behind.trans (List.tail_suffix _)).sublist.countP_le

theorem Going.quiet (going : Going rows e.cap h s) (sending : Sending rows e h s)
    (sends : c.SendsRows rows) (yields : e.Yields rows) (opened : Open s) (step : Step s m s')
    (permitted : c.Permits h m) (quiet : Quiet s m s')
    (other : ∀ a next, m ≠ .carried (.stream a) (.go next)) :
    Going rows e.cap (m :: h) s' := by
  have row := going.isRow_eq_false sending sends yields opened step permitted other
  have same : dealt (m :: h) s' = dealt h s := dealt_quiet opened step quiet
  obtain ⟨undemanded, ungiven⟩ := Move.of_quiet other
  have total : demanded (m :: h) = demanded h := demanded_cons m h undemanded
  have counts : (m :: h).countP Move.isCount = h.countP Move.isCount := by
    simp [step.isCount_eq_false permitted other]
  have counted := quiet.countP_isCount_le
  refine ⟨?_, gaveUp_cons going.kept ungiven,
    endings_eq_nil step permitted going.unended ?_, ?_, ?_, ?_, fun returned k positive limit => ?_⟩
  · cases going.batch with
    | ready phase covered =>
        refine .ready (by rwa [quiet.stream]) ?_
        rwa [total, same, quiet.stream]
    | streaming pull left phase underway covered =>
        refine .streaming pull left (by rwa [quiet.stream])
          (underway.quiet opened step quiet row) ?_
        rwa [total, same, quiet.stream]
  · rw [quiet.stream]
    exact going.batch.isTerminal
  · rw [same, List.countP_cons_of_neg (by simp [row])]
    exact going.inOrder
  · rw [quiet.stream, counts]
    exact going.counted
  · have counting := going.counting
    rw [same, counts]
    omega
  · obtain ⟨bound, next⟩ := going.capped (returnedFirst_of_cons returned) k positive limit
    rw [same, counts]
    refine ⟨bound, next.imp_right fun stops => ?_⟩
    exact stops.quiet positive (by rw [sending.query.cap, limit]) step permitted quiet other

/-! ## All moves -/

theorem Stopped.undelivered (stopped : Stopped rows cap h s) (step : Step s m s') :
    m.record? = none := by
  cases record : m.record? with
  | none => rfl
  | some found =>
      unfold Move.record? at record
      split at record
      · rename_i rc told r
        obtain ⟨rest, head⟩ := step.head_of_carried
        exact absurd (by simp [head]) (stopped.silent rc told)
      · cases record

/-- What a move keeps once the stream was given up or ended. -/
structure Remains (s s' : Situation) : Prop where
  given : s'.engine.stream.phase = .cancelled ∨ s'.engine.stream.phase.isTerminal = true
  cancelled : s'.engine.stream.phase = .cancelled → s.engine.stream.phase = .cancelled
  succeeded : s'.engine.stream.phase = .succeeded →
    s.engine.stream.phase = .succeeded ∨ s.engine.stream.phase = .cancelled
  silent : ∀ rc record, .tellRecord rc record ∉ s'.agenda

theorem Stopped.remains_of_stream (stopped : Stopped rows e.cap h s)
    (sending : Sending rows e h s) (sends : c.SendsRows rows)
    (stream : StreamStep s m s' a rest after effects) (permitted : c.Permits h m) :
    Remains s s' := by
  have drops := stream.steps.drops stopped.given
  have hstream : s'.engine.stream = after := by rw [stream.engine]
  refine ⟨?_, fun cancelled => ?_, fun succeeded => ?_, fun rc record mem => ?_⟩
  · rw [hstream]
    exact stream.steps.givenUp stopped.given
  · refine stopped.given.resolve_right fun terminal => ?_
    have terminal' := stream.steps.terminal terminal
    rw [← hstream, cancelled] at terminal'
    cases terminal'
  · by_cases answer : ∃ metadata, a = .succeed metadata
    · -- a success answers a request, so it does not come to a stream that failed
      obtain ⟨metadata, rfl⟩ := answer
      have hmove := stream.move
      rw [hmove] at permitted
      have owed := sending.owed (sends.successes _ _ _ permitted.1).1
      rcases stopped.given with given | terminal
      · exact .inr given
      · cases phase : s.engine.stream.phase <;>
          simp [phase, Phase.isTerminal, Phase.owed] at terminal owed
    · have steps := stream.steps
      have given := stopped.given
      rw [hstream] at succeeded
      cases steps <;> simp_all [Phase.isTerminal, Stream.released]
  · rw [stream.agenda] at mem
    rcases List.mem_append.1 mem with mem | mem
    · exact drops.silent rc record ((exists_effect_of_mem mem).2 rc record rfl)
    · exact stopped.silent rc record (by simp [stream.head, mem])

theorem Stopped.remains (stopped : Stopped rows e.cap h s) (sending : Sending rows e h s)
    (sends : c.SendsRows rows) (step : Step s m s') (permitted : c.Permits h m) :
    Remains s s' := by
  rcases step.stream_or_quiet permitted with ⟨a, rest, after, effects, stream⟩ | ⟨other, quiet⟩
  · exact stopped.remains_of_stream sending sends stream permitted
  · have same := quiet.stream
    refine ⟨by rw [same]; exact stopped.given, by rw [same]; exact id, by rw [same]; exact .inl,
      fun rc record mem => ?_⟩
    obtain ⟨front, tail, agenda, behind, fronts⟩ := quiet.agenda
    rw [agenda] at mem
    rcases List.mem_append.1 mem with mem | mem
    · cases Instruction.isHot_eq_false (fronts _ mem)
    · exact stopped.silent rc record (List.mem_of_mem_tail (behind.mem mem))

/-- Once the stream was given up or ended, nothing is delivered or demanded any more. -/
theorem Stopped.step (stopped : Stopped rows e.cap h s) (sending : Sending rows e h s)
    (sends : c.SendsRows rows) (step : Step s m s') (permitted : c.Permits h m) :
    Stopped rows e.cap (m :: h) s' := by
  have remains := stopped.remains sending sends step permitted
  have undelivered : deliveries (m :: h) = deliveries h := by
    rw [deliveries, stopped.undelivered step]
    exact List.append_nil _
  have total : demanded (m :: h) = demanded h := by
    have closed : (!gaveUp h && (endings h).isEmpty) = false := by
      rcases stopped.stopped with given | ended
      · simp [given]
      · cases hend : endings h <;> simp_all
    rw [demanded]
    split
    · rw [closed]
      rfl
    · rfl
  have grown : gaveUp h = true → gaveUp (m :: h) = true := fun given => by simp [gaveUp, given]
  have ended : endings h ≠ [] → endings (m :: h) ≠ [] := fun ended none =>
    ended (List.append_eq_nil_iff.1 (endings_cons m h ▸ none)).2
  refine ⟨⟨?_, ?_, fun returned => ?_, fun now kept => ?_⟩, remains.given, ?_,
    fun now => grown (stopped.cancelled (remains.cancelled now)), remains.silent⟩
  · rw [undelivered]
    exact stopped.inOrder
  · rw [total, undelivered]
    exact stopped.demanded
  · rw [undelivered]
    exact stopped.capped (returnedFirst_of_cons returned)
  · have kept' : gaveUp h = false := by
      cases before : gaveUp h with
      | false => rfl
      | true => simp [grown before] at kept
    rw [undelivered]
    rcases remains.succeeded now with before | before
    · exact stopped.complete before kept'
    · simp [stopped.cancelled before] at kept'
  · exact stopped.stopped.imp grown ended

theorem Sending.step (sending : Sending rows e h s) (sends : c.SendsRows rows)
    (yields : e.Yields rows) (step : Step s m s') (permitted : c.Permits h m) :
    Sending rows e (m :: h) s' := by
  have query := step.sameQuery sending.calm
  refine ⟨sending.poised.step step permitted, ⟨query.keys.trans sending.query.keys,
    query.cap.trans sending.query.cap⟩, step.calm permitted sends.started sending.calm,
    balance_answering sending.poised sends sending.balance step permitted, ?_⟩
  rcases sending.course with going | stopped
  · have opened := sending.poised.open_of_running going.batch.isTerminal
    rcases step.stream_or_quiet permitted with ⟨a, rest, after, effects, stream⟩ | ⟨other, quiet⟩
    · by_cases given : after.phase = .cancelled ∨ after.phase.isTerminal = true
      · exact .inr (going.stops sending sends opened step stream permitted given)
      · exact .inl (going.of_stream sending sends yields opened step stream permitted given)
    · exact .inl (going.quiet sending sends yields opened step permitted quiet other)
  · exact .inr (stopped.step sending sends step permitted)

/-- What a server sends that has rows is delivered in order: never more than was demanded or than
the cap, and all of it if the stream succeeds without being given up. -/
theorem Run.rowsInOrder {records : Option RecordConsumer} {summaries : Option SummaryConsumer}
    (fresh : e.stream = { Stream.fresh with
      recordConsumer := records, summaryConsumer := summaries })
    (yields : e.Yields rows) (sends : c.SendsRows rows) (run : Run c ⟨e, []⟩ h s) :
    RowsInOrder rows e.cap h s := by
  have sending : Sending rows e h s := by
    refine run.invariant (I := Sending rows e) ?_
      fun sending step permitted => sending.step sends yields step permitted
    have ready : e.stream.phase = .ready := by rw [fresh]; rfl
    refine ⟨.inl ⟨.inr ready, by simp, by simp [UpFront, pastLines]⟩, .rfl', by simp, ?_, .inl
      ⟨.ready ready fun n total => ⟨0, by rw [fresh]; rfl, ?_⟩, rfl, rfl, rfl, by rw [fresh]; rfl,
        Nat.le_refl 0, fun _ k positive _ => ⟨Nat.zero_le k, .inl positive⟩⟩⟩
    · simp [ready, Phase.owed, unanswered, writes]
    · exact Nat.zero_le n
  rcases sending.course with going | stopped
  · exact going.accounted
  · exact stopped.toRowsInOrder

/-! ## Numbered rows -/

/-- A row that holds its number. -/
def numbered (k : Nat) : Record := ⟨[.text "n"], [.int k], rfl⟩

/-- So many numbered rows. -/
def numberedRows (n : Nat) : List Record := (List.range n).map numbered

/-- Whether a move is one of a server that sends numbered rows and never fails. -/
def Move.isNumbered (n : Nat) (h : List Move) : Move → Bool
  | .carried (.stream (.deliver (.list [.int k]))) _ =>
      decide (0 < unanswered h) && (match lastRequest h with
        | some (.pull room _) => room == unlimited || decide (sentRows h < room)
        | _ => false) &&
      k == h.countP Move.isRow && decide (h.countP Move.isRow < n)
  | .carried (.stream (.deliver _)) _ => false
  | .carried (.stream (.succeed metadata)) _ =>
      decide (0 < unanswered h) && metadata.tellsMore == decide (h.countP Move.isRow < n)
  | .carried (.stream (.fail _)) _ => false
  | _ => true

/-- A server that sends numbered rows. -/
def Conduct.numbering (n : Nat) : Conduct where
  refrains i := i.startsRun = true
  tame _ := False
  keeps h m := m.isNumbered n h = true

theorem Conduct.numbering_sendsRows (n : Nat) :
    (Conduct.numbering n).SendsRows (numberedRows n) where
  started metadata calls := calls.2 rfl
  inTurn h fields r keeps := by
    replace keeps : Move.isNumbered n h (.carried (.stream (.deliver fields)) r) = true := keeps
    unfold Move.isNumbered at keeps
    split at keeps
    · rename_i k _ heq
      cases heq
      simp only [Bool.and_eq_true, decide_eq_true_eq, beq_iff_eq] at keeps
      obtain ⟨⟨⟨waiting, room⟩, rfl⟩, more⟩ := keeps
      refine ⟨waiting, ?_, numbered (h.countP Move.isRow), ?_, rfl⟩
      · split at room
        · rename_i pull query last
          exact ⟨pull, query, last, by simpa using room⟩
        · cases room
      · simp [numberedRows, more]
    all_goals simp_all
  successes h metadata r keeps := by
    have keeps : Move.isNumbered n h (.carried (.stream (.succeed metadata)) r) = true := keeps
    simp only [Move.isNumbered, Bool.and_eq_true, decide_eq_true_eq, beq_iff_eq] at keeps
    exact ⟨keeps.1, fun _ _ _ => by simpa [numberedRows] using keeps.2⟩
  failures h f r keeps := by cases keeps

/-- Whether all moves of a history are those of a server that sends numbered rows. -/
def allNumbered (n : Nat) : List Move → Bool
  | [] => true
  | m :: h => m.isNumbered n h && allNumbered n h

theorem Conduct.numbering_keepsAll {n : Nat} (numbered : allNumbered n h = true) :
    (Conduct.numbering n).KeepsAll h := by
  refine keepsAll_of_cons (allNumbered n · = true) (fun m h all => ?_) numbered
  exact Bool.and_eq_true_iff.1 all

/-- An engine with both consumers, whose query has one column. -/
def oneColumnEngine : Engine :=
  { attendedEngine with cap := .int 5, run := { RunOutcome.pending with keys := [.text "n"] } }

/-- Metadata that says that there are no more records. -/
def noMoreRecords : Value := .map [(.text "has_more", .bool false)]

/-- Two records are demanded, and one more while they come; then the last one comes. -/
def threeRowsRead : List Instruction :=
  [.stream (.request 2), .stream (.deliver (.list [.int 0])), .stream (.request 1),
    .stream (.deliver (.list [.int 1])), .stream (.succeed moreRecords),
    .stream (.deliver (.list [.int 2])), .stream (.succeed noMoreRecords)]

/-- Where that leads, with its history. -/
def threeRowsPoint : List Move × Situation :=
  Situation.advances 60 ([.called threeRowsRead], ⟨oneColumnEngine, threeRowsRead⟩)

theorem rowsInOrder_threeRows :
    RowsInOrder (numberedRows 3) (.int 5) threeRowsPoint.1 threeRowsPoint.2 ∧
      threeRowsPoint.2.engine.stream.phase = .succeeded ∧ gaveUp threeRowsPoint.1 = false ∧
      returnedFirst threeRowsPoint.1 = true ∧ (deliveries threeRowsPoint.1).length = 3 ∧
      demanded threeRowsPoint.1 = .records 3 := by
  have made : ∀ i ∈ threeRowsRead, (Conduct.numbering 3).Calls i := by
    intro i mem
    simp only [threeRowsRead, List.mem_cons, List.not_mem_nil, or_false] at mem
    rcases mem with rfl | rfl | rfl | rfl | rfl | rfl | rfl <;> exact ⟨rfl, nofun⟩
  have begun : Run (.numbering 3) ⟨oneColumnEngine, []⟩ [.called threeRowsRead]
      ⟨oneColumnEngine, threeRowsRead⟩ := Run.nil.snoc (.call threeRowsRead) ⟨rfl, made⟩
  have run : Run (.numbering 3) ⟨oneColumnEngine, []⟩ threeRowsPoint.1 threeRowsPoint.2 :=
    begun.advances_to 60 rfl (Conduct.numbering_keepsAll (by decide +kernel))
  have yields : oneColumnEngine.Yields (numberedRows 3) := by
    refine ⟨rfl, fun row mem => ?_⟩
    obtain ⟨k, -, rfl⟩ := List.mem_map.1 mem
    rfl
  exact ⟨Run.rowsInOrder rfl yields (Conduct.numbering_sendsRows 3) run, by decide +kernel,
    by decide +kernel, by decide +kernel, by decide +kernel, by decide +kernel⟩

/-! ## A consumer that throws -/

/-- An engine with both consumers, whose stream is capped at one record. -/
def oneRecordEngine : Engine := { oneColumnEngine with cap := .int 1 }

/-- Two records are demanded, and the first one comes. -/
def firstOfTwo : List Instruction := [.stream (.request 2), .stream (.deliver (.list [.int 0]))]

/-- Where the record consumer is told of it. -/
def toldFirst : List Move × Situation :=
  Situation.advances 6 ([.called firstOfTwo], ⟨oneRecordEngine, firstOfTwo⟩)

/-- Then the second one comes. -/
def secondRow : List Instruction := [.stream (.deliver (.list [.int 1]))]

/-- Where it leads if the consumer throws. -/
def secondOfTwo : List Move × Situation :=
  Situation.advances 3 (.called secondRow :: .answered (.record 0 (numbered 0))
    (.raise (.arising .nested)) :: toldFirst.1, ⟨toldFirst.2.engine, secondRow⟩)

/-- A record that its consumer did not return from is not counted, and so the cap lets one more
be handed out. -/
theorem not_rowsInOrder :
    oneRecordEngine.Yields (numberedRows 2) ∧
      Run (.numbering 2) ⟨oneRecordEngine, []⟩ secondOfTwo.1 secondOfTwo.2 ∧
      ¬ ∀ m : Nat, 0 < m → oneRecordEngine.cap = .int m →
        (deliveries secondOfTwo.1).length ≤ m := by
  have calls : ∀ i ∈ firstOfTwo ++ secondRow, (Conduct.numbering 2).Calls i := by
    intro i mem
    simp only [firstOfTwo, secondRow, List.cons_append, List.nil_append, List.mem_cons,
      List.not_mem_nil, or_false] at mem
    rcases mem with rfl | rfl | rfl <;> exact ⟨rfl, nofun⟩
  have begun : Run (.numbering 2) ⟨oneRecordEngine, []⟩ [.called firstOfTwo]
      ⟨oneRecordEngine, firstOfTwo⟩ :=
    Run.nil.call rfl (fun i mem => calls i (List.mem_append_left _ mem)) rfl
  have told : Run (.numbering 2) ⟨oneRecordEngine, []⟩ toldFirst.1 toldFirst.2 :=
    begun.advances_to 6 rfl (Conduct.numbering_keepsAll (by decide +kernel))
  have thrown : Run (.numbering 2) ⟨oneRecordEngine, []⟩ (.answered (.record 0 (numbered 0))
      (.raise (.arising .nested)) :: toldFirst.1) ⟨toldFirst.2.engine, []⟩ :=
    told.snoc (.answer (.raise (.arising .nested))) ⟨rfl, .raise _ rfl id⟩
  have run : Run (.numbering 2) ⟨oneRecordEngine, []⟩ secondOfTwo.1 secondOfTwo.2 :=
    (thrown.call rfl (fun i mem => calls i (List.mem_append_right _ mem)) rfl).advances_to 3 rfl
      (Conduct.numbering_keepsAll (by decide +kernel))
  have yields : oneRecordEngine.Yields (numberedRows 2) := by
    refine ⟨rfl, fun row mem => ?_⟩
    obtain ⟨k, -, rfl⟩ := List.mem_map.1 mem
    rfl
  refine ⟨yields, run, fun capped => ?_⟩
  have atMost : (deliveries secondOfTwo.1).length ≤ 1 := capped 1 Nat.one_pos rfl
  have both : (deliveries secondOfTwo.1).length = 2 := by decide +kernel
  omega

end Steps

end QueryStream
