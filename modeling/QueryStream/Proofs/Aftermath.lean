/-
  Proofs/Aftermath.lean --- what is written once a connection was given back.

  The release of a session is invoked by its owner, once the stream is over, or by a cursor
  that is rolled back, which is consumed by then (`Governed`).  A stream that is over writes
  nothing.  A stream that is still running is asked for no more records, but it can be given up
  yet: cancelling is not refused once a result is consumed, and drops what is left by a request
  of its own (`written_cancelledLate`); and so can what it was asked for before, demand that is
  pending or the dropping of what is left, be requested at the end of the batch under way.
  Unless one of these is so, nothing is written any more (`Run.silentOnceReleased`).
-/
import QueryStream.Proofs.GivingBack
import QueryStream.Proofs.Requests.Outcome

set_option autoImplicit false

namespace QueryStream

/-! ## Nothing is written -/

/-- Whether a move gives the stream up. -/
def Move.givesUp : Move → Bool
  | .carried (.stream .cancel) _ => true
  | _ => false

/-- Whether an instruction asks the stream for records. -/
def Instruction.asksRecords : Instruction → Bool
  | .channel (.request _) => true
  | .stream (.request _) => true
  | _ => false

/-- A stream that is over, or was neither given up nor has demand that is pending. -/
def Stream.Settled (s : Stream) : Prop :=
  s.phase.isTerminal = true ∨ s.phase ≠ .cancelled ∧ s.pending.isPositive = false

/-- Nothing is to be written, by a stream that is over or whose result is consumed. -/
structure Stilled (s : Situation) (cursor : Cursor) : Prop where
  unwritten : ∀ i ∈ s.agenda, i.isWrite = false
  settled : s.engine.stream.Settled
  unasked : s.engine.stream.phase.isTerminal = true ∨
    cursor.isConsumed = true ∧ ∀ i ∈ s.agenda, i.asksRecords = false

/-- All calls go through a cursor, and nobody calls a release. -/
def Conduct.LeavesRelease (c : Conduct) : Prop :=
  ∀ i, c.Calls i → i.isOverCursor = true ∧ i.invokes = false

section Steps

variable {c : Conduct} {o : PromiseId} {h : List Move} {s s' : Situation} {m : Move}
  {cursor next : Cursor}

/-- A stream that is over, or is neither asked for records nor given up, writes nothing. -/
theorem Stream.Steps.still {x : Stream.Surroundings} {st st' : Stream} {a : Stream.Action}
    {effects : List Stream.Effect} (steps : Stream.Steps x st a st' effects)
    (settled : st.Settled)
    (idle : st.phase.isTerminal = true ∨ a ≠ .cancel ∧ ∀ n, a ≠ .request n) :
    st'.Settled ∧ ∀ effect ∈ effects, (Instruction.ofStream effect).isWrite = false := by
  unfold Stream.Settled at settled ⊢
  cases steps with
  | conclude | concludeRefused | concludeFailure =>
      refine ⟨settled, fun effect mem => ?_⟩
      simp only [endEffects, List.mem_append, Option.mem_toList, Option.map_eq_some_iff] at mem
      obtain ⟨_, _, rfl⟩ | ⟨_, _, rfl⟩ := mem <;> rfl
  | announce =>
      refine ⟨settled, fun effect mem => ?_⟩
      simp only [Option.mem_toList, Option.map_eq_some_iff] at mem
      obtain ⟨_, _, rfl⟩ := mem
      rfl
  | _ => simp_all [Phase.isTerminal, Instruction.ofStream, Instruction.isWrite]

/-! ## Asking for records -/

theorem Instruction.asksRecords_eq_false {i : Instruction} (inner : i.isInner = false)
    (piped : i.isPiped = false) : i.asksRecords = false := by
  cases i with
  | channel r => cases piped
  | stream a => cases piped
  | _ => rfl

theorem Instruction.asksRecords_of_isOverCursor {i : Instruction}
    (isOver : i.isOverCursor = true) : i.asksRecords = false := by
  cases i with
  | channel r => cases isOver
  | stream a => cases a <;> first | rfl | cases isOver
  | _ => rfl

theorem Stream.Steps.asksRecords {x : Stream.Surroundings} {st st' : Stream} {a : Stream.Action}
    {effects : List Stream.Effect} {effect : Stream.Effect}
    (steps : Stream.Steps x st a st' effects) (mem : effect ∈ effects) :
    (Instruction.ofStream effect).asksRecords = false := by
  cases effect with
  | andThen b =>
      rcases steps.isPublic_of_andThen mem with inner | ⟨-, rfl⟩
      · cases b <;> first | rfl | cases inner
      · rfl
  | _ => rfl

theorem Brought.of_asksRecords {j : Instruction} (brought : Brought c s j)
    (leaves : c.LeavesRelease) (known : ∀ i ∈ s.agenda, i.isForeign = false)
    (asks : j.asksRecords = true) :
    (∃ n rest, s.agenda = .channel (.request n) :: rest) ∨
      ∃ id n rest cursor, s.agenda = .cursor id (.request n) :: rest ∧
        s.engine.cursors[id]? = some cursor ∧ cursor.isConsumed = false := by
  cases brought with
  | stream head steps mem =>
      rw [steps.asksRecords mem] at asks
      cases asks
  | @cursor id a rest cursor next effects effect head found steps mem =>
      cases effect with
      | channel r =>
          cases r with
          | request n =>
              cases steps.yields mem with
              | request =>
                  cases steps with
                  | request unconsumed => exact .inr ⟨id, _, rest, cursor, head, found, unconsumed⟩
          | _ => cases asks
      | _ => cases asks
  | @channel r rest head =>
      cases r with
      | request n => exact .inl ⟨n, rest, head⟩
      | _ => cases asks
  | @opened plan rest j head =>
      simpa [Instruction.isForeign] using known (.openCursor plan) (by simp [head])
  | notify head => cases asks
  | outer inner piped =>
      rw [Instruction.asksRecords_eq_false inner piped] at asks
      cases asks
  | called calls =>
      rw [Instruction.asksRecords_of_isOverCursor (leaves j calls).1] at asks
      cases asks

/-- What asks the stream for records stands first, so nothing comes before it. -/
theorem Step.asksFirst (step : Step s m s') (permitted : c.Permits h m)
    (leaves : c.LeavesRelease) (known : ∀ i ∈ s.agenda, i.isForeign = false)
    (first : ∀ i ∈ s.agenda.tail, i.asksRecords = false) :
    ∀ i ∈ s'.agenda.tail, i.asksRecords = false := by
  have turn := step.turn permitted
  by_cases asked : (∃ n rest, s.agenda = .channel (.request n) :: rest) ∨
      ∃ id n rest cursor, s.agenda = .cursor id (.request n) :: rest ∧
        s.engine.cursors[id]? = some cursor ∧ cursor.isConsumed = false
  · rcases asked with ⟨n, rest, head⟩ | ⟨id, n, rest, cursor, head, found, unconsumed⟩
    · obtain ⟨-, rfl⟩ := step.exec_of_head head rfl
      rw [head] at first
      cases own : s.engine.hasStream <;> simpa [Engine.exec, own, Engine.goOn] using first
    · obtain ⟨-, rfl⟩ := step.exec_of_head head rfl
      rw [head] at first
      have asks : cursor.step (s.engine.isResolved cursor) (.request n)
          = .ok (cursor, [.channel (.request (Cursor.capped n))]) := by
        simp [Cursor.step, Cursor.ensureOpen, unconsumed, bind, Except.bind, pure, Except.pure,
          Cursor.capped]
      rw [Engine.exec_cursor _ found asks]
      exact first
  · intro j mem
    rcases turn.mem (List.mem_of_mem_tail mem) with old | brought
    · exact first j old
    · cases asks : j.asksRecords with
      | false => rfl
      | true => exact absurd (brought.of_asksRecords leaves known asks) asked

/-! ## Who invokes the release -/

/-- Whoever invokes the release of a stream that is running is a cursor that is consumed, or is
about to be marked so. -/
def Governed (s : Situation) (cursor : Cursor) : Prop :=
  s.engine.stream.phase.isTerminal = true ∨ cursor.isConsumed = true ∨
    Led (fun i => i = .cursor 0 .markConsumed) (fun i => i.invokes = true) none s.agenda

theorem led_invokes_next {e : Engine} {i : Instruction} {rest : List Instruction}
    (cursors : e.cursors = #[cursor])
    (led : Led (fun i => i = .cursor 0 .markConsumed) (fun i => i.invokes = true) none (i :: rest))
    (running : (e.exec i).1.stream.phase.isTerminal = false) :
    Led (fun i => i = .cursor 0 .markConsumed) (fun i => i.invokes = true) none
      (e.exec i).2.next := by
  by_cases rolledBack : ∃ id receiver, i = .cursor id (.rollback receiver)
  · obtain ⟨id, receiver, rfl⟩ := rolledBack
    cases found : e.cursors[id]? with
    | none =>
        rw [e.exec_cursor_of_none _ found]
        trivial
    | some found' =>
        obtain ⟨rfl, rfl⟩ := eq_of_getElem?_singleton (cursors ▸ found)
        rw [e.exec_cursor found rfl]
        simp [Led, Cursor.line, Instruction.ofCursor, Instruction.invokes]
  · refine led_of_forall fun j mem invokes => ?_
    rcases Engine.invokes_exec mem invokes with former | ⟨a, rfl⟩ | rollback
    · obtain ⟨_, none, -⟩ := led.1 former
      cases none
    · simp only [Engine.exec, Engine.stepStream] at mem running
      split at mem
      · rename_i st effects accepted
        obtain ⟨effect, among, rfl⟩ := List.mem_map.1 mem
        have terminal := (Stream.steps_of_step accepted).terminal_of_invokes among invokes
        simp [accepted, terminal] at running
      · cases mem
    · exact rolledBack rollback

theorem Governed.step (governed : Governed s cursor) (attached : Attached o h s cursor)
    (leaves : c.LeavesRelease) (step : Step s m s') (permitted : c.Permits h m)
    (hnext : s'.engine.cursors = #[next]) : Governed s' next := by
  rcases governed with terminal | consumed | led
  · exact .inl (step.terminal permitted terminal)
  · exact .inr (.inl (attached.isConsumed_step step permitted hnext consumed))
  · cases running : s'.engine.stream.phase.isTerminal with
    | true => exact .inl running
    | false =>
        refine .inr ?_
        cases step with
        | @carry e i rest own =>
            by_cases mark : i = .cursor 0 .markConsumed
            · subst mark
              exact .inl (attached.isConsumed_of_mark (.carry own) hnext rfl)
            · exact .inr (led.onto (led_invokes_next attached.cursors led running)
                (fun _ _ lead => absurd lead mark) (by simp) (by simp [Instruction.invokes]))
        | @answer e a rest r =>
            have answers : c.Answers a r := permitted.2
            refine .inr (led.onto (led_of_forall fun j mem => ?_) (by simp) (by simp)
              (by simp [Instruction.invokes]))
            cases answers with
            | calls _ made _ => simp [(leaves j (made j mem)).2]
            | released t | unending t => simp [List.mem_singleton.1 mem, Instruction.invokes]
            | _ => cases mem
        | begin next =>
            refine .inr (led_of_forall fun j mem => ?_)
            simp [Instruction.invokes_of_givesBack (Engine.givesBack_runJob mem)]
        | call next =>
            have made : ∀ i ∈ next, c.Calls i := permitted.2
            exact .inr (led_of_forall fun j mem => by simp [(leaves j (made j mem)).2])

/-! ## Nothing is written any more -/

theorem Instruction.isWrite_of_isInner {i : Instruction} (inner : i.isInner = false) :
    i.isWrite = false := by
  cases i with
  | ask a => cases a <;> first | rfl | cases inner
  | _ => rfl

/-- A step of a stream that writes nothing writes nothing, unless the stream is given up while it
is running. -/
theorem Stilled.still {a : Stream.Action} {rest : List Instruction} {after : Stream}
    {effects : List Stream.Effect} (stilled : Stilled s cursor)
    (stream : StreamStep s m s' a rest after effects)
    (kept : s.engine.stream.phase.isTerminal = true ∨ m.givesUp = false) :
    after.Settled ∧ ∀ effect ∈ effects, (Instruction.ofStream effect).isWrite = false := by
  refine stream.steps.still stilled.settled ?_
  rcases kept with terminal | kept
  · exact .inl terminal
  -- nobody asks the stream for records, unless it is over
  refine stilled.unasked.imp_right fun consumed => ⟨?_, ?_⟩
  · rintro rfl
    rw [stream.move] at kept
    cases kept
  · rintro n rfl
    have unasked := consumed.2 (.stream (.request n)) (by simp [stream.head])
    cases unasked

/-- Nobody comes to ask a stream for records that is over or whose cursor is consumed. -/
theorem Stilled.unasked_step (stilled : Stilled s cursor) (attached : Attached o h s cursor)
    (leaves : c.LeavesRelease) (step : Step s m s') (permitted : c.Permits h m)
    (hnext : s'.engine.cursors = #[next]) : s'.engine.stream.phase.isTerminal = true ∨
      next.isConsumed = true ∧ ∀ j ∈ s'.agenda, j.asksRecords = false := by
  rcases stilled.unasked with terminal | ⟨consumed, none⟩
  · exact .inl (step.terminal permitted terminal)
  · refine .inr ⟨attached.isConsumed_step step permitted hnext consumed, fun j mem => ?_⟩
    rcases (step.turn permitted).mem mem with old | brought
    · exact none j (List.mem_of_mem_tail old)
    · cases asks : j.asksRecords with
      | false => rfl
      | true =>
          rcases brought.of_asksRecords leaves attached.known asks with
            ⟨n, rest, head⟩ | ⟨id, n, rest, found, head, there, unconsumed⟩
          · cases none (.channel (.request n)) (by simp [head])
          · obtain ⟨-, rfl⟩ := eq_of_getElem?_singleton (attached.cursors ▸ there)
            rw [consumed] at unconsumed
            cases unconsumed

/-- What writes nothing goes on to write nothing, unless the stream is given up while it is
running. -/
theorem Stilled.step (stilled : Stilled s cursor) (attached : Attached o h s cursor)
    (leaves : c.LeavesRelease) (step : Step s m s') (permitted : c.Permits h m)
    (hnext : s'.engine.cursors = #[next])
    (kept : s.engine.stream.phase.isTerminal = true ∨ m.givesUp = false) :
    Stilled s' next ∧ m.isWrite = false := by
  refine ⟨⟨fun j mem => ?_, ?_, stilled.unasked_step attached leaves step permitted hnext⟩, ?_⟩
  · rcases step.stream_or_quiet permitted with ⟨a, rest, after, effects, stream⟩ | ⟨-, quiet⟩
    · rw [stream.agenda] at mem
      rcases List.mem_append.1 mem with mem | mem
      · obtain ⟨effect, among, rfl⟩ := List.mem_map.1 mem
        exact (stilled.still stream kept).2 effect among
      · exact stilled.unwritten j (by simp [stream.head, mem])
    · obtain ⟨front, tail, agenda, behind, fronts⟩ := quiet.agenda
      rw [agenda] at mem
      rcases List.mem_append.1 mem with mem | mem
      · exact isWrite_of_isHot (Instruction.isHot_eq_false (fronts j mem))
      · exact stilled.unwritten j (List.mem_of_mem_tail (behind.mem mem))
  · rcases step.stream_or_quiet permitted with ⟨a, rest, after, effects, stream⟩ | ⟨-, quiet⟩
    · rw [stream.engine]
      exact (stilled.still stream kept).1
    · rw [quiet.stream]
      exact stilled.settled
  · unfold Move.isWrite
    split
    · rename_i request r
      cases step with
      | answer r => cases stilled.unwritten (.ask (.write request)) (by simp)
    · rfl

/-- When the release is invoked, nothing is to be written, if the stream is over or was neither
given up nor has demand that is pending. -/
theorem stilled_of_invocation (attached : Attached o h s cursor) (governed : Governed s cursor)
    (leaves : c.LeavesRelease) (first : ∀ i ∈ s.agenda.tail, i.asksRecords = false)
    (step : Step s m s') (permitted : c.Permits h m) (hnext : s'.engine.cursors = #[next])
    (invoked : m.invocation?.isSome = true) (settled : s.engine.stream.Settled) :
    Stilled s' next := by
  obtain ⟨receiver, rest, head⟩ : ∃ receiver rest, s.agenda = .release 0 receiver :: rest := by
    unfold Move.invocation? at invoked
    split at invoked
    · exact ⟨_, step.head_of_carried⟩
    · cases invoked
  -- behind a release the agenda is cold, whether the run stands open or is over
  have unwritten : ∀ i ∈ rest, i.isWrite = false := by
    intro i mem
    rcases attached.standing with opened | ⟨-, cold⟩
    · exact isWrite_of_isHot (opened.cold head rfl i mem)
    · exact cold i (by simp [head, mem])
  have kept : s'.engine.stream = s.engine.stream := by
    obtain ⟨-, rfl⟩ := step.exec_of_head head rfl
    exact (Engine.keeps_exec _ rfl).stream
  have brought : ∀ i ∈ s'.agenda,
      i ∈ rest ∨ i.isWrite = false ∧ i.asksRecords = false := by
    intro i mem
    rcases (step.turn permitted).mem mem with old | brought
    · exact .inl (by simpa [head] using old)
    · cases brought with
      | outer inner piped =>
          exact .inr ⟨Instruction.isWrite_of_isInner inner,
            Instruction.asksRecords_eq_false inner piped⟩
      | called calls =>
          have inner := Instruction.isInner_eq_false_of_isCall calls.1
          exact .inr ⟨Instruction.isWrite_of_isInner inner,
            Instruction.asksRecords_of_isOverCursor (leaves i calls).1⟩
      | _ => simp_all
  refine ⟨fun i mem => ?_, by rwa [kept], ?_⟩
  · rcases brought i mem with old | new
    · exact unwritten i old
    · exact new.1
  · rcases governed with terminal | consumed | led
    · exact .inl (by rwa [kept])
    · refine .inr ⟨attached.isConsumed_step step permitted hnext consumed, fun i mem => ?_⟩
      rcases brought i mem with old | new
      · exact first i (by simpa [head] using old)
      · exact new.2
    · rw [head] at led
      obtain ⟨_, none, -⟩ := led.1 rfl
      cases none

/-! ## All runs -/

theorem Conduct.LeavesRelease.sole (leaves : c.LeavesRelease) : c.Sole :=
  .of_overCursor fun i calls => (leaves i calls).1

/-- Throughout a run over one cursor, whoever invokes the release of a stream that is running is
consumed, and what asks for records stands first. -/
theorem Run.governed {e : Engine} (begun : e.Begun o) (leaves : c.LeavesRelease)
    (run : Run c ⟨e, []⟩ h s) :
    ∃ cursor, Attached o h s cursor ∧ Governed s cursor ∧
      ∀ i ∈ s.agenda.tail, i.asksRecords = false := by
  induction run with
  | nil =>
      obtain ⟨cursor, attached⟩ := begun.attached
      exact ⟨cursor, attached, .inr (.inr trivial), by simp⟩
  | snoc run step permitted ih =>
      obtain ⟨cursor, attached, governed, first⟩ := ih
      obtain ⟨next, attached'⟩ := attached.step leaves.sole step permitted
      exact ⟨next, attached',
        governed.step attached leaves step permitted attached'.cursors,
        step.asksFirst permitted leaves attached.known first⟩

/-- After the release was invoked, what writes nothing goes on so. -/
theorem Run.stilled {e : Engine} (begun : e.Begun o) (leaves : c.LeavesRelease)
    {earlier : List Move} {m₀ : Move} {s₁ : Situation} (before : Run c ⟨e, []⟩ earlier s₁)
    (invoked : m₀.invocation?.isSome = true) (settled : s₁.engine.stream.Settled) :
    ∀ {later : List Move} {s : Situation}, Run c ⟨e, []⟩ (later ++ m₀ :: earlier) s →
      (s₁.engine.stream.phase.isTerminal = true ∨ ∀ m ∈ later, m.givesUp = false) →
      (s₁.engine.stream.phase.isTerminal = true → s.engine.stream.phase.isTerminal = true) ∧
      (∃ cursor, Attached o (later ++ m₀ :: earlier) s cursor ∧ Stilled s cursor) ∧
        ∀ m ∈ later, m.isWrite = false := by
  refine before.followingMove
    (I := fun later s =>
      (s₁.engine.stream.phase.isTerminal = true ∨ ∀ m ∈ later, m.givesUp = false) →
      (s₁.engine.stream.phase.isTerminal = true → s.engine.stream.phase.isTerminal = true) ∧
      (∃ cursor, Attached o (later ++ m₀ :: earlier) s cursor ∧ Stilled s cursor) ∧
        ∀ m ∈ later, m.isWrite = false) ?_ ?_
  · intro s step permitted kept
    obtain ⟨cursor, attached, governed, first⟩ := before.governed begun leaves
    obtain ⟨next, attached'⟩ := attached.step leaves.sole step permitted
    exact ⟨step.terminal permitted, ⟨next, attached', stilled_of_invocation attached governed
      leaves first step permitted attached'.cursors invoked settled⟩, by simp⟩
  · intro later s s' m ih run step permitted kept
    obtain ⟨ended, ⟨cursor, attached, stilled⟩, unwritten⟩ :=
      ih (kept.imp_right fun kept m mem => kept m (List.mem_cons_of_mem _ mem))
    obtain ⟨next, attached'⟩ := attached.step leaves.sole step permitted
    obtain ⟨stilled', silent⟩ := stilled.step attached leaves step permitted
      attached'.cursors (kept.imp ended fun kept => kept m (by simp))
    refine ⟨fun terminal => step.terminal permitted (ended terminal),
      ⟨next, attached', stilled'⟩, ?_⟩
    intro m' mem
    rcases List.mem_cons.1 mem with rfl | mem
    · exact silent
    · exact unwritten m' mem

/-- Once the release was invoked, nothing is written any more: if the stream was over, and also
if it was still running, was neither given up nor had demand that was pending, and is not given
up afterwards. -/
theorem Run.silentOnceReleased {e : Engine} (begun : e.Begun o) (leaves : c.LeavesRelease)
    {later earlier : List Move} {m₀ : Move} {s₁ : Situation}
    (run : Run c ⟨e, []⟩ (later ++ m₀ :: earlier) s) (before : Run c ⟨e, []⟩ earlier s₁)
    (invoked : m₀.invocation?.isSome = true)
    (calm : s₁.engine.stream.phase.isTerminal = true ∨
      s₁.engine.stream.phase ≠ .cancelled ∧ s₁.engine.stream.pending.isPositive = false ∧
        ∀ m ∈ later, m.givesUp = false) :
    ∀ m ∈ later, m.isWrite = false := by
  have settled : s₁.engine.stream.Settled := calm.imp_right fun still => ⟨still.1, still.2.1⟩
  exact (before.stilled begun leaves invoked settled run
    (calm.imp_right fun still => still.2.2)).2.2

end Steps

/-! ## Releases that are worked out -/

/-- All calls go through a cursor, and nobody calls a release. -/
def Conduct.secondhand : Conduct where
  refrains i := i.isOverCursor = false ∨ i.invokes = true
  tame _ := False
  keeps _ _ := True

theorem Conduct.secondhand_leavesRelease : Conduct.secondhand.LeavesRelease := by
  intro i calls
  have refrained : ¬ (i.isOverCursor = false ∨ i.invokes = true) := calls.2
  simpa using refrained

/-- Whether what is called goes through a cursor, and not to a release. -/
def Act.isSecondhand : Act → Bool
  | .calls next => next.all fun i => i.isCall && i.isOverCursor && !i.invokes
  | .job => true

theorem Run.of_secondhand {n : Nat} {acts : List Act} {former point : List Move × Situation}
    {start : Situation} (run : Run .secondhand start former.1 former.2)
    (worked : point = Situation.acts n acts former) (made : acts.all Act.isSecondhand = true) :
    Run .secondhand start point.1 point.2 := by
  subst worked
  refine .acts n acts (fun next mem i hi => ?_) (Conduct.keepsAll_of_forall (fun _ _ => trivial) _)
    run
  have secondhand := List.all_eq_true.1 made _ mem
  simp only [Act.isSecondhand, List.all_eq_true, Bool.and_eq_true] at secondhand
  obtain ⟨⟨call, isOver⟩, uninvoked⟩ := secondhand i hi
  exact ⟨call, by simpa [Conduct.secondhand, isOver] using uninvoked⟩

/-- An engine over a stream of a session, before a cursor is made. -/
def lendingEngine : Engine :=
  .overStream ⟨.text "", .null⟩ ⟨.null, .null, .null⟩ (.int 0) (.session 0) .pending
    (some .ofConnection)

/-- An engine over a stream of a session, with a cursor of which nothing was asked. -/
def sharedEngine : Engine :=
  ((lendingEngine.openCursor ⟨.nothing, .standard, true, true⟩).1.exec
    (.stream (.installSummary (.cursor 0)))).1

theorem begun_sharedEngine : ∃ o, sharedEngine.Begun o := by
  have opens : lendingEngine.openCursor ⟨.nothing, .standard, true, true⟩ = (_, .go _) := rfl
  exact (Engine.begun_openCursor rfl rfl rfl Loop.sound_idle opens).2

/-- The start of the run: nothing is asked yet. -/
def unasked : List Move × Situation :=
  ([], ⟨sharedEngine, []⟩)

/-- Where the request of two records leads. -/
def requested : List Move × Situation :=
  Situation.acts 24 [.calls [.cursor 0 (.install (.client 0 "records")), .cursor 0 (.request 2)]]
    unasked

/-- The cursor is rolled back; the release is to be invoked next. -/
def rollingBack : List Move × Situation :=
  Situation.acts 4 [.calls [.cursor 0 (.rollback .nobody)]] requested

/-- Where the rollback leads, followed by acts. -/
def rolledBackThen (acts : List Act) : List Move × Situation :=
  Situation.acts 24 acts (Situation.advances 24 rollingBack)

theorem run_rollingBack : Run .secondhand ⟨sharedEngine, []⟩ rollingBack.1 rollingBack.2 := by
  have started : Run .secondhand ⟨sharedEngine, []⟩ unasked.1 unasked.2 := .nil
  have asked : Run .secondhand ⟨sharedEngine, []⟩ requested.1 requested.2 :=
    started.of_secondhand rfl (by decide +kernel)
  exact asked.of_secondhand rfl (by decide +kernel)

theorem run_rolledBackThen {acts : List Act} {point : List Move × Situation}
    (worked : point = rolledBackThen acts) (made : acts.all Act.isSecondhand = true) :
    Run .secondhand ⟨sharedEngine, []⟩ point.1 point.2 :=
  (run_rollingBack.advances 24 (Conduct.keepsAll_of_forall (fun _ _ => trivial) _)).of_secondhand
    worked made

/-- Given up after it was rolled back, the stream writes a request. -/
theorem written_cancelledLate :
    ((rolledBackThen [.calls [.stream (.succeed (.map [(.text "has_more", .bool true)])),
        .cursor 0 .cancel]]).1.filter fun m => m.isWrite || m.invocation?.isSome).map Move.isWrite
      = [true, false, true] := by
  decide +kernel

/-- More records are there when a stream that was rolled back ends its batch. -/
def lateBatch : List Act := [.calls [.stream (.succeed (.map [(.text "has_more", .bool true)]))]]

theorem silentOnceReleased_lateBatch :
    ∃ later m₀ earlier s₁, (rolledBackThen lateBatch).1 = later ++ m₀ :: earlier ∧
      m₀.invocation?.isSome = true ∧ s₁.engine.stream.phase = .streaming ∧
      Run .secondhand ⟨sharedEngine, []⟩ earlier s₁ ∧ ∀ m ∈ later, m.isWrite = false := by
  obtain ⟨o, begun⟩ := begun_sharedEngine
  have calls : rollingBack.2.agenda.head?.any Instruction.callsRelease = true := by decide +kernel
  obtain ⟨i, first, release⟩ := (Option.any_eq_true _ _).1 calls
  obtain ⟨rest, head⟩ := List.head?_eq_some_iff.1 first
  obtain ⟨receiver, rfl⟩ : ∃ receiver, i = .release 0 receiver := by
    unfold Instruction.callsRelease at release
    split at release
    · exact ⟨_, rfl⟩
    · cases release
  have next : rollingBack.2.advance.1
      = [.carried (.release 0 receiver) (rollingBack.2.engine.exec (.release 0 receiver)).2] := by
    simp [Situation.advance, head]
  have suffix : rollingBack.2.advance.1 ++ rollingBack.1 <:+ (rolledBackThen lateBatch).1 :=
    (Situation.suffix_advances 23 _ rollingBack.2.advance.2).trans (Situation.suffix_acts 24 _ _ _)
  obtain ⟨later, split⟩ := suffix
  rw [next] at split
  have run : Run .secondhand ⟨sharedEngine, []⟩ (rolledBackThen lateBatch).1
      (rolledBackThen lateBatch).2 := run_rolledBackThen rfl (by decide +kernel)
  rw [← split] at run
  have unspoiled : (rolledBackThen lateBatch).1.any Move.givesUp = false := by decide +kernel
  rw [← split, List.any_append, Bool.or_eq_false_iff, List.any_eq_false] at unspoiled
  have running : rollingBack.2.engine.stream.phase = .streaming := by decide +kernel
  have idle : rollingBack.2.engine.stream.pending.isPositive = false := by decide +kernel
  refine ⟨later, _, rollingBack.1, rollingBack.2, split.symm, rfl, running, run_rollingBack, ?_⟩
  exact run.silentOnceReleased begun Conduct.secondhand_leavesRelease run_rollingBack rfl
    (.inr ⟨by simp [running], idle, fun m mem => by simpa using unspoiled.1 m mem⟩)

end QueryStream
