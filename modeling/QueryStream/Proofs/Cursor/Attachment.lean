/-
  Proofs/Cursor/Attachment.lean --- one cursor over a stream.

  Where all calls go through one cursor, that cursor is the summary consumer of the stream
  and the only one to give it a record consumer.  It does so once, one instruction behind
  the other, and nothing can come in between (`Installing`); and until the stream is over,
  everything on the agenda fits it (`Standing`).
-/
import QueryStream.Proofs.Stream.Attendance
import QueryStream.Proofs.Stream.Ending

set_option autoImplicit false

namespace QueryStream

/-! ## Calls over a cursor -/

/-- Whether a call is made over a cursor: the stream itself is called by the server
only. -/
def Instruction.isOverCursor : Instruction → Bool
  | .stream (.succeed _) => true
  | .stream (.fail _) => true
  | .stream (.deliver _) => true
  | .stream _ => false
  | .channel _ => false
  | .openCursor _ => false
  | _ => true

/-- Whether an instruction gives the stream a consumer, or makes a cursor. -/
def Instruction.attaches : Instruction → Bool
  | .stream (.installRecord _) => true
  | .stream (.installSummary _) => true
  | .channel _ => true
  | .openCursor _ => true
  | _ => false

/-- Nobody but a cursor gives the stream a consumer, and no other cursor is made. -/
def Conduct.Sole (c : Conduct) : Prop := ∀ i, c.Calls i → i.attaches = false

/-- Where all calls go through a cursor, nobody else gives the stream a consumer. -/
theorem Conduct.Sole.of_overCursor {c : Conduct}
    (calls : ∀ i, c.Calls i → i.isOverCursor = true) : c.Sole := by
  intro i called
  have isOver := calls i called
  cases i with
  | stream a => cases a <;> first | rfl | cases isOver
  | channel r => cases isOver
  | openCursor plan => cases isOver
  | _ => rfl

/-- An engine over a stream, with a cursor of which nothing was asked. -/
structure Engine.Begun (e : Engine) (outcome : PromiseId) : Prop where
  hasStream : e.hasStream = true
  stream : e.stream = { Stream.fresh with summaryConsumer := some (.cursor 0) }
  cursors : ∃ runError release, e.cursors = #[.fresh runError release outcome]
  created : outcome < e.loop.promises.size
  sound : e.loop.Sound

/-! ## The agenda -/

namespace Instruction

/-- Whether an instruction makes a cursor or installs a summary consumer. -/
def isForeign : Instruction → Bool
  | .openCursor _ => true
  | .channel (.installSummary _) => true
  | .stream (.installSummary _) => true
  | _ => false

/-- Whether an instruction is part of taking a record consumer. -/
def isInstalling : Instruction → Bool
  | .channel (.installRecord _) => true
  | .stream (.installRecord _) => true
  | .cursor _ .injectError => true
  | .channel (.fail _) => true
  | _ => false

/-- The record consumer that an instruction has the stream take. -/
def taken? : Instruction → Option RecordConsumer
  | .channel (.installRecord rc) => some rc
  | .stream (.installRecord rc) => some rc
  | _ => none

/-- Whether an instruction writes a request. -/
def isWrite : Instruction → Bool
  | .ask (.write _) => true
  | _ => false

end Instruction

/-- Whether a history ends with a cursor that passes on the failure of its query to
start. -/
def passesFailure : List Move → Bool
  | .carried (.channel (.fail _)) _ :: _ => true
  | _ => false

/-- A cursor that takes its first record consumer, and passes on a failure of the query
to start; in the meantime nothing else happens. -/
inductive Installing (h : List Move) (phase : Phase) (cursor : Cursor) :
    List Instruction → Prop
  | nothing {agenda : List Instruction} (cold : ∀ i ∈ agenda, i.isInstalling = false)
      (passed : passesFailure h = false) : Installing h phase cursor agenda
  | line {rest : List Instruction} (line : Log.Line) (c : RecordConsumer)
      (ready : phase = .ready) (status : cursor.status ≠ .notInstalled)
      (cold : ∀ i ∈ rest, i.isInstalling = false) :
      Installing h phase cursor
        (.ask (.log line) :: .channel (.installRecord c) :: .cursor 0 .injectError :: rest)
  | channel {rest : List Instruction} (c : RecordConsumer)
      (ready : phase = .ready) (status : cursor.status ≠ .notInstalled)
      (cold : ∀ i ∈ rest, i.isInstalling = false) :
      Installing h phase cursor (.channel (.installRecord c) :: .cursor 0 .injectError :: rest)
  | stream {rest : List Instruction} (c : RecordConsumer)
      (ready : phase = .ready) (status : cursor.status ≠ .notInstalled)
      (cold : ∀ i ∈ rest, i.isInstalling = false) :
      Installing h phase cursor (.stream (.installRecord c) :: .cursor 0 .injectError :: rest)
  | inject {rest : List Instruction}
      (ready : phase = .ready) (status : cursor.status ≠ .notInstalled)
      (cold : ∀ i ∈ rest, i.isInstalling = false) :
      Installing h phase cursor (.cursor 0 .injectError :: rest)
  | pass {rest : List Instruction} (f : Failure)
      (ready : phase = .ready) (status : cursor.status ≠ .notInstalled)
      (cold : ∀ i ∈ rest, i.isInstalling = false) :
      Installing h phase cursor (.channel (.fail f) :: rest)
  | passed {rest : List Instruction} (f : Failure)
      (ready : phase = .ready) (status : cursor.status ≠ .notInstalled)
      (cold : ∀ i ∈ rest, i.isInstalling = false) :
      Installing h phase cursor (.stream (.fail f) :: rest)

/-- The situation is open, or the stream let its consumers go and nothing is to be
written any more. -/
def Standing (s : Situation) : Prop :=
  Open s ∨ s.engine.stream.Over ∧ ∀ i ∈ s.agenda, i.isWrite = false

/-- An engine with one cursor, which is attached to its stream. -/
structure Attached (outcome : PromiseId) (h : List Move) (s : Situation) (cursor : Cursor) :
    Prop where
  hasStream : s.engine.hasStream = true
  cursors : s.engine.cursors = #[cursor]
  outcome_eq : cursor.outcome = outcome
  known : ∀ i ∈ s.agenda, i.isForeign = false
  standing : Standing s
  attendant : ∀ sc, s.engine.stream.summaryConsumer = some sc → sc = .cursor 0
  /-- without a consumer the stream has none and nothing was requested -/
  absent : cursor.status = .notInstalled →
    s.engine.stream.recordConsumer = none ∧ s.engine.stream.phase = .ready
  installing : Installing h s.engine.stream.phase cursor s.agenda

/-! ## The step of a cursor -/

/-- A step of the one cursor that was not refused. -/
structure CursorStep (s : Situation) (m : Move) (s' : Situation) (cursor : Cursor)
    (a : Cursor.Action) (rest : List Instruction) (next : Cursor)
    (effects : List Cursor.Effect) : Prop where
  head : s.agenda = .cursor 0 a :: rest
  move : m = .carried (.cursor 0 a) (.go (effects.map (.ofCursor 0 next)))
  steps : Cursor.Steps (s.engine.isResolved cursor) cursor a next effects
  engine : s'.engine = { s.engine with cursors := #[next] }
  agenda : s'.agenda = effects.map (.ofCursor 0 next) ++ rest

section Steps

variable {c : Conduct} {o : PromiseId} {h : List Move} {s s' : Situation} {m : Move}
  {cursor next : Cursor}

/-- A step of a cursor is one of the cursor that there is. -/
theorem eq_of_setIfInBounds {cursors : Array Cursor} {id : CursorId} {found after : Cursor}
    (sole : cursors = #[cursor]) (there : cursors[id]? = some found)
    (left : cursors.setIfInBounds id after = #[next]) :
    id = 0 ∧ found = cursor ∧ after = next := by
  subst sole
  obtain ⟨rfl, rfl⟩ := eq_of_getElem?_singleton there
  exact ⟨rfl, rfl, by simpa using left⟩

theorem Turn.cursor_or_same (turn : Turn c s m s')
    (cursors : s.engine.cursors = #[cursor]) (known : ∀ i ∈ s.agenda, i.isForeign = false) :
    (∃ a rest next effects, CursorStep s m s' cursor a rest next effects) ∨
      s'.engine.cursors = #[cursor] := by
  cases turn with
  | stream steps => exact .inr cursors
  | @cursor e id a rest found next effects hfound steps =>
      have hcursors : e.cursors = #[cursor] := cursors
      rw [hcursors] at hfound
      obtain ⟨rfl, rfl⟩ := eq_of_getElem?_singleton hfound
      refine .inl ⟨a, rest, next, effects, rfl, rfl, steps, ?_, rfl⟩
      simp [hcursors]
  | refused cause sort error => exact .inr cursors
  | absent a found => exact .inr cursors
  | channel r own => exact .inr cursors
  | outside r own => exact .inr cursors
  | openCursor plan => simpa [Instruction.isForeign] using known (.openCursor plan) (by simp)
  | notify id summary f => exact .inr cursors
  | @other e i rest stream pipe own next =>
      have hcursors := (e.keeps_exec stream).cursors
        (by cases i <;> first | rfl | simp [Instruction.isPipe] at pipe)
      exact .inr (hcursors.trans cursors)
  | answered answers => exact .inr cursors
  | @began e j loop next =>
      have began := Engine.began_runJob { e with loop } j
      exact .inr (began.cursors.trans cursors)
  | called made => exact .inr cursors

/-- Nothing makes a cursor or installs a summary consumer. -/
theorem known_step (sole : c.Sole) (turn : Turn c s m s')
    (known : ∀ i ∈ s.agenda, i.isForeign = false) : ∀ i ∈ s'.agenda, i.isForeign = false := by
  intro j hj
  rcases turn.mem hj with hj | brought
  · exact known j (List.mem_of_mem_tail hj)
  · cases brought with
    | @stream a rest next effects effect head steps mem =>
        cases effect with
        | andThen b =>
            rcases steps.isPublic_of_andThen mem with inner | ⟨-, rfl⟩
            · cases b <;> first | rfl | simp [Stream.Action.isPublic] at inner
            · rfl
        | _ => rfl
    | @cursor id a rest cursor next effects effect head found steps mem =>
        cases steps.yields mem <;> rfl
    | @channel r rest head =>
        have hr := known (.channel r) (by simp [head])
        cases r <;> first | rfl | simp [Instruction.isForeign] at hr
    | @opened plan rest j head =>
        simpa [Instruction.isForeign] using known (.openCursor plan) (by simp [head])
    | notify head => rfl
    | outer inner piped => cases j <;> first | rfl | simp [Instruction.isPiped] at piped
    | called calls =>
        have attaches := sole j calls
        cases j with
        | stream a => cases a <;> first | rfl | cases attaches
        | channel r => cases attaches
        | openCursor plan => cases attaches
        | _ => rfl

theorem Brought.isInstalling_eq_false {j : Instruction} (brought : Brought c s j)
    (sole : c.Sole)
    (cold : ∀ i rest, s.agenda = i :: rest → i.isInstalling = false ∧ i.isForeign = false)
    (install : ∀ id consumer rest, s.agenda ≠ .cursor id (.install consumer) :: rest) :
    j.isInstalling = false := by
  cases brought with
  | @stream a rest next effects effect head steps mem =>
      cases effect with
      | andThen b =>
          rcases steps.isPublic_of_andThen mem with inner | ⟨-, rfl⟩
          · cases b <;> first | rfl | simp [Stream.Action.isPublic] at inner
          · rfl
      | _ => rfl
  | @cursor id a rest cursor next effects effect head found steps mem =>
      obtain ⟨hinstalling, -⟩ := cold _ _ head
      cases steps.yields mem with
      | take unconsumed free => exact absurd head (install _ _ _)
      | inject => exact absurd head (install _ _ _)
      | fail f => cases hinstalling
      | _ => rfl
  | @channel r rest head =>
      obtain ⟨hinstalling, -⟩ := cold _ _ head
      cases r <;> first | rfl | simp [Instruction.isInstalling] at hinstalling
  | @opened plan rest j head =>
      simpa [Instruction.isForeign] using (cold _ _ head).2
  | notify head => rfl
  | outer inner piped =>
      cases j with
      | cursor id a => cases a <;> first | rfl | simp [Instruction.isInner] at inner
      | _ => first | rfl | simp [Instruction.isPiped] at piped
  | called calls =>
      have attaches := sole j calls
      have call := calls.1
      cases j with
      | stream a => cases a <;> first | rfl | cases attaches
      | channel r => cases attaches
      | cursor id a =>
          cases a <;> first | rfl | simp [Instruction.isCall, Cursor.Action.isPublic] at call
      | _ => rfl

/-- While a consumer is being taken, nothing was requested. -/
theorem Installing.ready_of_stream {phase : Phase} {c : RecordConsumer}
    {rest : List Instruction}
    (installing : Installing h phase cursor (.stream (.installRecord c) :: rest)) :
    phase = .ready := by
  cases installing with
  | nothing cold passed => simpa [Instruction.isInstalling] using cold (.stream (.installRecord c))
  | stream c ready status cold => exact ready

theorem isWrite_of_isHot {i : Instruction} (h : i.isHot = false) : i.isWrite = false := by
  cases i with
  | ask a => cases a <;> first | rfl | simp [Instruction.isHot] at h
  | _ => rfl

theorem takes_nothing (step : Step s m s') (known : ∀ i ∈ s.agenda, i.isForeign = false)
    (installing : Installing h s.engine.stream.phase cursor s.agenda)
    (terminal : s.engine.stream.phase.isTerminal = true) :
    (∀ rc next, m ≠ .carried (.stream (.installRecord rc)) (.go next)) ∧
      ∀ sc next, m ≠ .carried (.stream (.installSummary sc)) (.go next) := by
  constructor
  · rintro rc next rfl
    obtain ⟨rest, hagenda⟩ := step.head_of_carried
    rw [hagenda] at installing
    simp [installing.ready_of_stream, Phase.isTerminal] at terminal
  · rintro sc next rfl
    obtain ⟨rest, hagenda⟩ := step.head_of_carried
    simpa [Instruction.isForeign] using known (.stream (.installSummary sc)) (by simp [hagenda])

theorem standing_step (standing : Standing s) (step : Step s m s') (permitted : c.Permits h m)
    (known : ∀ i ∈ s.agenda, i.isForeign = false)
    (installing : Installing h s.engine.stream.phase cursor s.agenda) : Standing s' := by
  rcases standing with opened | ⟨isOver, cold⟩
  · rcases opened.step step permitted with opened' | ⟨a, rest, next, effects, stream, ends⟩
    · exact .inl opened'
    · refine .inr ⟨by rw [stream.engine]; exact ends.over, fun i hi => ?_⟩
      obtain ⟨rc, sc, summary, f, _, _, heffects⟩ := ends.ending
      rw [stream.agenda, heffects] at hi
      rcases List.mem_append.1 hi with hi | hi
      · simp only [farewell, List.mem_cons, List.not_mem_nil, or_false] at hi
        rcases hi with rfl | rfl <;> rfl
      · exact isWrite_of_isHot (opened.cold stream.head rfl i hi)
  · obtain ⟨noRecord, noSummary⟩ := takes_nothing step known installing isOver.terminal
    obtain ⟨isOver', _, hcold⟩ := step.of_over permitted isOver noRecord noSummary
    exact .inr ⟨isOver', hcold _ (fun _ => isWrite_of_isHot) cold⟩

theorem attendant_step (step : Step s m s') (permitted : c.Permits h m)
    (known : ∀ i ∈ s.agenda, i.isForeign = false)
    (attendant : ∀ sc, s.engine.stream.summaryConsumer = some sc → sc = .cursor 0) :
    ∀ sc, s'.engine.stream.summaryConsumer = some sc → sc = .cursor 0 := by
  intro sc hsc
  rcases step.stream_or_quiet permitted with ⟨a, rest, next, effects, stream⟩ | ⟨_, quiet⟩
  · rw [stream.engine] at hsc
    rcases stream.steps.summaries hsc with hsc | rfl
    · exact attendant sc hsc
    · simpa [Instruction.isForeign] using
        known (.stream (.installSummary sc)) (by simp [stream.head])
  · rw [quiet.stream] at hsc
    exact attendant sc hsc

/-- What is thrown leaves a part of the rest, with what was caught. -/
theorem isInstalling_of_raise {th : Thrown} {rest : List Instruction}
    (cold : ∀ i ∈ rest, i.isInstalling = false) :
    ∀ i ∈ (Reply.raise th).onto rest, i.isInstalling = false := by
  obtain ⟨front, tail, heq, htail, hfront⟩ :=
    Reply.exists_onto_of_forall (p := fun i => i.isInstalling = false) (r := .raise th)
      (by simp) (fun _ _ => rfl) rest
  intro i hi
  rw [heq] at hi
  rcases List.mem_append.1 hi with hi | hi
  · exact hfront i hi
  · exact cold i (htail.mem hi)

/-- A move passes on no failure to start unless that is what stands first. -/
theorem passesFailure_of_step (step : Step s m s') (h : List Move)
    (cold : ∀ f rest, s.agenda ≠ .channel (.fail f) :: rest) :
    passesFailure (m :: h) = false := by
  cases m with
  | carried i r =>
      obtain ⟨rest, hagenda⟩ := step.head_of_carried
      cases i with
      | channel r' => cases r' <;> first | rfl | exact absurd hagenda (cold _ _)
      | _ => rfl
  | _ => rfl

/-- Where nothing is being taken, a cursor begins to take a consumer or nothing is. -/
theorem Installing.step_of_nothing (cold : ∀ i ∈ s.agenda, i.isInstalling = false)
    (sole : c.Sole) (step : Step s m s') (permitted : c.Permits h m)
    (cursors : s.engine.cursors = #[cursor]) (known : ∀ i ∈ s.agenda, i.isForeign = false)
    (absent : cursor.status = .notInstalled → s.engine.stream.phase = .ready)
    {next : Cursor} (hnext : s'.engine.cursors = #[next]) :
    Installing (m :: h) s'.engine.stream.phase next s'.agenda := by
  have turn := step.turn permitted
  have passed : passesFailure (m :: h) = false := by
    refine passesFailure_of_step step h fun f rest hagenda => ?_
    simpa [Instruction.isInstalling] using cold (.channel (.fail f)) (by simp [hagenda])
  by_cases install : ∃ id consumer rest, s.agenda = .cursor id (.install consumer) :: rest
  · obtain ⟨id, consumer, rest, hagenda⟩ := install
    have hrest : ∀ i ∈ rest, i.isInstalling = false := fun i hi => cold i (by simp [hagenda, hi])
    obtain ⟨e, agenda⟩ := s
    obtain rfl : agenda = _ := hagenda
    cases turn with
    | cursor hfound steps =>
        obtain ⟨rfl, rfl, rfl⟩ := eq_of_setIfInBounds cursors hfound hnext
        cases steps with
        | ignoreInstall => exact .nothing hrest passed
        | install line unconsumed free =>
            refine .line line consumer (absent free) ?_ hrest
            cases consumer <;> simp [ConsumerStatus.ofConsumer]
    | refused cause sort error => exact .nothing (isInstalling_of_raise hrest) passed
    | absent a hfound => exact .nothing hrest passed
    | other stream pipe own next => simp [Instruction.isPipe] at pipe
  · refine .nothing (fun j hj => ?_) passed
    rcases turn.mem hj with hj | brought
    · exact cold j (List.mem_of_mem_tail hj)
    · refine brought.isInstalling_eq_false sole (fun i rest hagenda => ?_) ?_
      · exact ⟨cold i (by simp [hagenda]), known i (by simp [hagenda])⟩
      · exact fun id consumer rest hagenda => install ⟨id, consumer, rest, hagenda⟩

/-- A cursor that took its consumer passes on the failure to start, if there is one. -/
theorem Installing.step_of_inject {rest : List Instruction}
    (agenda : s.agenda = .cursor 0 .injectError :: rest)
    (cold : ∀ i ∈ rest, i.isInstalling = false) (step : Step s m s') (permitted : c.Permits h m)
    (cursors : s.engine.cursors = #[cursor]) (ready : s.engine.stream.phase = .ready)
    (status : cursor.status ≠ .notInstalled) {next : Cursor}
    (hnext : s'.engine.cursors = #[next]) :
    Installing (m :: h) s'.engine.stream.phase next s'.agenda := by
  have passed : passesFailure (m :: h) = false :=
    passesFailure_of_step step h fun f rest heq => (by rw [agenda] at heq; cases heq)
  have turn := step.turn permitted
  obtain ⟨e, todo⟩ := s
  obtain rfl : todo = _ := agenda
  cases turn with
  | cursor hfound steps =>
      obtain ⟨-, rfl, rfl⟩ := eq_of_setIfInBounds cursors hfound hnext
      cases steps with
      | noError started => exact .nothing cold passed
      | injectError failed => exact .pass _ ready status cold
  | refused cause sort error => exact .nothing (isInstalling_of_raise cold) passed
  | absent a hfound => exact .nothing cold passed
  | other stream pipe own next => simp [Instruction.isPipe] at pipe

theorem Installing.step_of_passed {f : Failure} {rest : List Instruction}
    (agenda : s.agenda = .stream (.fail f) :: rest) (cold : ∀ i ∈ rest, i.isInstalling = false)
    (step : Step s m s') (permitted : c.Permits h m) {phase : Phase} {next : Cursor} :
    Installing (m :: h) phase next s'.agenda := by
  have passed : passesFailure (m :: h) = false :=
    passesFailure_of_step step h fun f rest heq => (by rw [agenda] at heq; cases heq)
  have turn := step.turn permitted
  obtain ⟨e, todo⟩ := s
  obtain rfl : todo = _ := agenda
  cases turn with
  | @stream _ _ _ _ effects steps =>
      have hcold : ∀ effect ∈ effects, (Instruction.ofStream effect).isInstalling = false := by
        cases steps <;> simp [Instruction.ofStream, Instruction.isInstalling]
      refine .nothing (fun i hi => ?_) passed
      rcases List.mem_append.1 hi with hi | hi
      · obtain ⟨effect, mem, rfl⟩ := List.mem_map.1 hi
        exact hcold effect mem
      · exact cold i hi
  | refused cause sort error => exact .nothing (isInstalling_of_raise cold) passed
  | other stream pipe own next => simp [Instruction.isStream] at stream

/-- A cursor takes its consumer one step after the other. -/
theorem Installing.step (installing : Installing h s.engine.stream.phase cursor s.agenda)
    (sole : c.Sole) (step : Step s m s') (permitted : c.Permits h m)
    (hasStream : s.engine.hasStream = true) (cursors : s.engine.cursors = #[cursor])
    (known : ∀ i ∈ s.agenda, i.isForeign = false)
    (absent : cursor.status = .notInstalled → s.engine.stream.phase = .ready)
    {next : Cursor} (hnext : s'.engine.cursors = #[next]) :
    Installing (m :: h) s'.engine.stream.phase next s'.agenda := by
  have next_eq : s'.engine.cursors = s.engine.cursors → cursor = next := by
    intro heq
    simpa using cursors.symm.trans (heq.symm.trans hnext)
  have turn := step.turn permitted
  obtain ⟨e, agenda⟩ := s
  -- each stage has one instruction at the front of the agenda, and all moves but its own are
  -- impossible
  cases installing with
  | nothing cold passed =>
      exact .step_of_nothing cold sole step permitted cursors known absent hnext
  | @line rest line c' ready status cold =>
      cases turn with
      | answered answers =>
          obtain rfl := answers.of_isNotice rfl
          obtain rfl := next_eq rfl
          exact .channel c' ready status cold
      | refused cause sort error => simp [Instruction.isStream, Instruction.isCursor] at sort
      | other stream pipe own next => simp [Instruction.isAsk] at own
  | channel c' ready status cold =>
      cases turn with
      | channel r own =>
          obtain rfl := next_eq rfl
          exact .stream c' ready status cold
      | refused cause sort error => simp [Instruction.isStream, Instruction.isCursor] at sort
      | outside r own => cases hasStream.symm.trans own
      | other stream pipe own next => simp [Instruction.isPipe] at pipe
  | @stream rest c' ready status cold =>
      have passed : passesFailure (m :: h) = false :=
        passesFailure_of_step step h fun f rest heq => (by cases heq)
      cases turn with
      | stream steps =>
          obtain rfl := next_eq rfl
          cases steps with
          | installRecord free => exact .inject ready status cold
      | refused cause sort error =>
          have hraise : ∀ i ∈ (Reply.raise (.arising cause)).onto rest, i.isInstalling = false :=
            isInstalling_of_raise cold
          exact .nothing hraise passed
      | other stream pipe own next => simp [Instruction.isStream] at stream
  | inject ready status cold =>
      exact .step_of_inject rfl cold step permitted cursors ready status hnext
  | pass f ready status cold =>
      cases turn with
      | channel r own =>
          obtain rfl := next_eq rfl
          exact .passed f ready status cold
      | refused cause sort error => simp [Instruction.isStream, Instruction.isCursor] at sort
      | outside r own => cases hasStream.symm.trans own
      | other stream pipe own next => simp [Instruction.isPipe] at pipe
  | passed f ready status cold => exact .step_of_passed rfl cold step permitted

/-- A cursor keeps what is known of its consumer. -/
theorem Cursor.Steps.notInstalled {done : Bool} {c c' : Cursor} {a : Cursor.Action}
    {effects : List Cursor.Effect} (steps : Cursor.Steps done c a c' effects)
    (h : c'.status = .notInstalled) : c.status = .notInstalled := by
  cases steps with
  | @install consumer line _ _ => cases consumer <;> simp [ConsumerStatus.ofConsumer] at h
  | _ => exact h

theorem absent_step (attached : Attached o h s cursor) (step : Step s m s')
    (permitted : c.Permits h m) {next : Cursor} (hnext : s'.engine.cursors = #[next])
    (status : next.status = .notInstalled) :
    s'.engine.stream.recordConsumer = none ∧ s'.engine.stream.phase = .ready := by
  have hstatus : cursor.status = .notInstalled := by
    rcases (step.turn permitted).cursor_or_same attached.cursors attached.known with
      ⟨a, rest, after, effects, taken⟩ | same
    · obtain rfl : after = next := by
        rw [taken.engine] at hnext
        simpa using hnext
      exact taken.steps.notInstalled status
    · obtain rfl : cursor = next := by simpa [same] using hnext
      exact status
  obtain ⟨free, ready⟩ := attached.absent hstatus
  have missing : ¬ s.engine.stream.Attended := by simp [Stream.Attended, free]
  rcases step.stream_or_quiet permitted with ⟨a, rest, next, effects, stream⟩ | ⟨_, quiet⟩
  · exfalso
    have installing := attached.installing
    rcases attached.standing with opened | ⟨isOver, _⟩
    · have fits := opened.fits (.stream a) (by simp [stream.head])
      rcases stream.steps.attended opened.waits fits with ⟨rc, rfl⟩ | ⟨sc, rfl⟩ | attended
      · rw [stream.head] at installing
        cases installing with
        | nothing cold passed =>
            simpa [Instruction.isInstalling] using cold (.stream (.installRecord rc)) (by simp)
        | stream _ _ taken _ => exact taken hstatus
      · simpa [Instruction.isForeign] using
          attached.known (.stream (.installSummary sc)) (by simp [stream.head])
      · exact missing attended
    · simpa [ready, Phase.isTerminal] using isOver.terminal
  · rw [quiet.stream]
    exact ⟨free, ready⟩

/-- Every move leaves one cursor, attached to its stream. -/
theorem Attached.step (attached : Attached o h s cursor) (sole : c.Sole)
    (step : Step s m s') (permitted : c.Permits h m) : ∃ next, Attached o (m :: h) s' next := by
  have turn := step.turn permitted
  obtain ⟨next, cursors, outcome⟩ :
      ∃ next, s'.engine.cursors = #[next] ∧ next.outcome = cursor.outcome := by
    rcases turn.cursor_or_same attached.cursors attached.known with
      ⟨a, rest, next, effects, taken⟩ | same
    · exact ⟨next, by rw [taken.engine], taken.steps.outcome⟩
    · exact ⟨cursor, same, rfl⟩
  have hasStream : s'.engine.hasStream = true := by
    rcases step.stream_or_quiet permitted with ⟨a, rest, after, effects, stream⟩ | ⟨_, quiet⟩
    · rw [stream.engine]
      exact attached.hasStream
    · rw [quiet.hasStream]
      exact attached.hasStream
  exact ⟨next,
    { hasStream := hasStream
      cursors := cursors
      outcome_eq := outcome.trans attached.outcome_eq
      known := known_step sole turn attached.known
      standing := standing_step attached.standing step permitted attached.known
        attached.installing
      attendant := attendant_step step permitted attached.known attached.attendant
      absent := absent_step attached step permitted cursors
      installing := attached.installing.step sole step permitted attached.hasStream
        attached.cursors attached.known (fun status => (attached.absent status).2) cursors }⟩

/-- A cursor of which nothing was asked is attached to its stream. -/
theorem Engine.Begun.attached {e : Engine} (begun : e.Begun o) :
    ∃ cursor, Attached o [] ⟨e, []⟩ cursor := by
  obtain ⟨runError, release, cursors⟩ := begun.cursors
  have fresh := begun.stream
  refine ⟨_,
    { hasStream := begun.hasStream
      cursors := cursors
      outcome_eq := rfl
      known := by simp
      standing := .inl ⟨.inr (by rw [fresh]; rfl), by simp, by simp [UpFront, pastLines]⟩
      attendant := fun sc hsc => ?_
      absent := fun _ => ?_
      installing := .nothing (by simp) rfl }⟩
  · simpa [fresh, Stream.fresh, eq_comm] using hsc
  · simp [fresh, Stream.fresh]

theorem Attached.open_of_running (attached : Attached o h s cursor)
    (running : s.engine.stream.phase.isTerminal = false) : Open s := by
  rcases attached.standing with opened | ⟨isOver, _⟩
  · exact opened
  · simpa [running] using isOver.terminal

theorem Attached.open_of_attended (attached : Attached o h s cursor)
    (attended : s.engine.stream.Attended) : Open s := by
  rcases attached.standing with opened | ⟨isOver, _⟩
  · exact opened
  · simpa [isOver.records] using attended.1

theorem Attached.present_step (attached : Attached o h s cursor) (step : Step s m s')
    (permitted : c.Permits h m) (present : s.engine.stream.lacksConsumer = false) :
    s'.engine.stream.lacksConsumer = false := by
  rcases attached.standing with opened | ⟨isOver, _⟩
  · have attended := Stream.attended_of_present opened.waits present
    rcases step.stream_or_quiet permitted with ⟨a, rest, after, effects, stream⟩ | ⟨_, quiet⟩
    · rw [stream.engine]
      have fits := opened.fits (.stream a) (by simp [stream.head])
      rcases stream.steps.continues_or_ends opened.waits fits with continues | ends
      · obtain ⟨rc, hrc⟩ := Option.isSome_iff_exists.1 attended.1
        obtain ⟨sc, hsc⟩ := Option.isSome_iff_exists.1 attended.2
        simp [Stream.lacksConsumer, continues.records hrc, continues.summaries hsc]
      · exact Stream.lacksConsumer_of_isTerminal ends.over.terminal
    · rw [quiet.stream]
      exact present
  · exact Stream.lacksConsumer_of_isTerminal (step.terminal permitted isOver.terminal)

theorem Attached.cursor_or_eq (attached : Attached o h s cursor) (step : Step s m s')
    (permitted : c.Permits h m) (hnext : s'.engine.cursors = #[next]) :
    (∃ a rest effects, CursorStep s m s' cursor a rest next effects) ∨ cursor = next := by
  rcases (step.turn permitted).cursor_or_same attached.cursors attached.known with
    ⟨a, rest, after, effects, taken⟩ | same
  · obtain rfl : after = next := by
      rw [taken.engine] at hnext
      simpa using hnext
    exact .inl ⟨a, rest, effects, taken⟩
  · exact .inr (by simpa [same] using hnext)

theorem Attached.status_step (attached : Attached o h s cursor) (step : Step s m s')
    (permitted : c.Permits h m) (hnext : s'.engine.cursors = #[next]) :
    next.status = cursor.status ∨ ∃ consumer rest, cursor.status = .notInstalled ∧
      s.agenda = .cursor 0 (.install consumer) :: rest ∧ next.status = .ofConsumer consumer := by
  rcases attached.cursor_or_eq step permitted hnext with ⟨a, rest, effects, taken⟩ | rfl
  · rcases taken.steps.status with same | ⟨consumer, rfl, free, status⟩
    · exact .inl same
    · exact .inr ⟨consumer, rest, free, taken.head, status⟩
  · exact .inl rfl

theorem Attached.isConsumed_step (attached : Attached o h s cursor) (step : Step s m s')
    (permitted : c.Permits h m) (hnext : s'.engine.cursors = #[next])
    (consumed : cursor.isConsumed = true) : next.isConsumed = true := by
  rcases attached.cursor_or_eq step permitted hnext with ⟨a, rest, effects, taken⟩ | rfl
  · exact taken.steps.isConsumed.1 consumed
  · exact consumed

theorem Attached.isConsumed_of_mark (attached : Attached o h s cursor) (step : Step s m s')
    (hnext : s'.engine.cursors = #[next]) {rest : List Instruction}
    (head : s.agenda = .cursor 0 .markConsumed :: rest) : next.isConsumed = true := by
  obtain ⟨-, rfl⟩ := step.exec_of_head head rfl
  have found : s.engine.cursors[0]? = some cursor := by simp [attached.cursors]
  rw [Engine.exec_cursor _ found rfl] at hnext
  have marked : { cursor with isConsumed := true } = next := by
    simpa [attached.cursors] using hnext
  rw [← marked]

theorem Cursor.step_install {done : Bool} {cursor : Cursor} {consumer : RecordConsumer}
    (unconsumed : cursor.isConsumed = false) (free : cursor.status = .notInstalled) :
    cursor.step done (.install consumer)
      = .ok ({ cursor with status := .ofConsumer consumer },
        [line .debug s!"record consumer installed: {(ConsumerStatus.ofConsumer consumer).name}",
          .channel (.installRecord consumer), .andThen .injectError]) := by
  simp [step, ensureOpen, unconsumed, free, ConsumerStatus.isInstalled, bind, Except.bind, pure,
    Except.pure]

theorem Attached.exec_install_of_consumed (attached : Attached o h s cursor)
    (consumed : cursor.isConsumed = true) (consumer : RecordConsumer) :
    s.engine.exec (.cursor 0 (.install consumer))
      = (s.engine, .raise (.arising .resultConsumed)) :=
  s.engine.exec_cursor_of_error (by rw [attached.cursors]; rfl)
    (by simp [Cursor.step, Cursor.ensureOpen, consumed, bind, Except.bind])

theorem Step.status_of_install (step : Step s m s') (attached : Attached o h s cursor)
    {consumer : RecordConsumer} {rest : List Instruction}
    (head : s.agenda = .cursor 0 (.install consumer) :: rest)
    (unconsumed : cursor.isConsumed = false) (free : cursor.status = .notInstalled)
    (hnext : s'.engine.cursors = #[next]) : next.status = .ofConsumer consumer := by
  have found : s.engine.cursors[0]? = some cursor := by simp [attached.cursors]
  obtain ⟨-, rfl⟩ := step.exec_of_head head rfl
  rw [s.engine.exec_cursor found (Cursor.step_install unconsumed free)] at hnext
  obtain rfl := by simpa [attached.cursors] using hnext
  rfl

/-! ## The record consumer -/

/-- The record consumer of the stream is the one that the status of the cursor tells of. -/
structure Matched (s : Situation) (cursor : Cursor) : Prop where
  held : ∀ rc, s.engine.stream.recordConsumer = some rc → cursor.status = .ofConsumer rc
  taken : ∀ i ∈ s.agenda, ∀ rc, i.taken? = some rc → cursor.status = .ofConsumer rc

/-- A consumer is brought to the stream only by a cursor that has just taken it. -/
theorem Brought.taken? {j : Instruction} {rc : RecordConsumer} (brought : Brought c s j)
    (attached : Attached o h s cursor) (sole : c.Sole) (taken : j.taken? = some rc) :
    (∃ rest, s.agenda = .channel (.installRecord rc) :: rest) ∨
      (∃ rest, s.agenda = .cursor 0 (.install rc) :: rest) ∧ cursor.isConsumed = false ∧
        cursor.status = .notInstalled := by
  cases brought with
  | @stream a rest after effects effect head steps mem =>
      cases effect with
      | andThen b =>
          rcases steps.isPublic_of_andThen mem with inner | ⟨-, rfl⟩
          · cases b with
            | installRecord consumer => simp [Stream.Action.isPublic] at inner
            | _ => cases taken
          · cases taken
      | _ => cases taken
  | @cursor id a rest found after effects effect head hfound steps mem =>
      rw [attached.cursors] at hfound
      obtain ⟨rfl, rfl⟩ := eq_of_getElem?_singleton hfound
      cases steps.yields mem with
      | take unconsumed free =>
          cases taken
          exact .inr ⟨⟨rest, head⟩, unconsumed, free⟩
      | _ => cases taken
  | @channel r rest head =>
      cases r with
      | installRecord consumer =>
          cases taken
          exact .inl ⟨rest, head⟩
      | _ => cases taken
  | @opened plan rest j head =>
      simpa [Instruction.isForeign] using attached.known (.openCursor plan) (by simp [head])
  | notify head => cases taken
  | outer inner piped => cases j <;> first | cases taken | simp [Instruction.isPiped] at piped
  | called calls =>
      have attaches := sole j calls
      cases j with
      | stream a =>
          cases a with
          | installRecord consumer => cases attaches
          | _ => cases taken
      | channel r => cases attaches
      | _ => cases taken

/-- The record consumer goes on being the one that the status tells of. -/
theorem Matched.step (matched : Matched s cursor) (attached : Attached o h s cursor)
    (sole : c.Sole) (step : Step s m s') (permitted : c.Permits h m)
    (hnext : s'.engine.cursors = #[next]) : Matched s' next := by
  have status := attached.status_step step permitted hnext
  have kept : ∀ rc, cursor.status = .ofConsumer rc → next.status = .ofConsumer rc := by
    intro rc same
    rcases status with status | ⟨consumer, rest, free, _⟩
    · exact status.trans same
    · exact absurd (same.symm.trans free) (ConsumerStatus.ofConsumer_ne rc)
  refine ⟨fun rc held => ?_, fun i hi rc taken => ?_⟩
  · rcases step.stream_or_quiet permitted with ⟨a, rest, after, effects, stream⟩ | ⟨_, quiet⟩
    · rw [stream.engine] at held
      rcases stream.steps.records held with held | rfl
      · exact kept rc (matched.held rc held)
      · exact kept rc (matched.taken (.stream (.installRecord rc)) (by simp [stream.head]) rc rfl)
    · rw [quiet.stream] at held
      exact kept rc (matched.held rc held)
  · rcases (step.turn permitted).mem hi with hi | brought
    · exact kept rc (matched.taken i (List.mem_of_mem_tail hi) rc taken)
    · rcases brought.taken? attached sole taken with
        ⟨rest, head⟩ | ⟨⟨rest, head⟩, unconsumed, free⟩
      · exact kept rc (matched.taken (.channel (.installRecord rc)) (by simp [head]) rc rfl)
      · exact step.status_of_install attached head unconsumed free hnext

/-- A cursor that is made over a fresh stream is one of which nothing was asked, once the
stream took it as its summary consumer. -/
theorem Engine.begun_openCursor {e opened : Engine} {plan : CursorPlan}
    {next : List Instruction} (fresh : e.stream = .fresh) (hasStream : e.hasStream = true)
    (uncursored : e.cursors = #[]) (sound : e.loop.Sound)
    (opens : e.openCursor plan = (opened, .go next)) :
    next = [.channel (.installSummary (.cursor 0)), .ask (.cursor 0)] ∧
      ∃ o, (opened.exec (.stream (.installSummary (.cursor 0)))).1.Begun o := by
  unfold openCursor at opens
  split at opens
  · cases (Prod.mk.inj opens).2
  · split at opens
    · cases (Prod.mk.inj opens).2
    · rename_i e' release chosen
      obtain ⟨releases, rfl, -⟩ := exists_of_chooseRelease chosen
      obtain ⟨rfl, hreply⟩ := Prod.mk.inj opens
      obtain rfl := Reply.go.inj hreply
      have evolves : e.loop.Evolves
          (e.loop.create.watch e.loop.nextId (.noteOutcome e.loop.nextId)) :=
        .watch _ (by simp [Job.source?]) (.create .refl)
      refine ⟨by simp [uncursored], e.loop.nextId, ?_⟩
      simp only [exec, stepStream, Stream.step, fresh, Stream.fresh, Option.isSome_none,
        Bool.false_eq_true, if_false]
      exact {
        hasStream := hasStream
        stream := rfl
        cursors := ⟨_, release, by simp [uncursored]; rfl⟩
        created := by simp [Loop.size_watch, Loop.create, Loop.nextId]
        sound := sound.evolves evolves }

end Steps

end QueryStream
