/-
  Proofs/FailedWrite.lean --- a request that cannot be written.

  A stream changes before it writes.  When the writing fails, the failure comes to whoever called
  for it, but the stream stays as if it had been written: a batch is under way that nobody
  requested, or what is left is being dropped that nobody asked the server to drop, and demand
  that was to be requested is gone.  Until the stream is given a response, it writes nothing more,
  whatever is demanded and whoever gives it up or asks for the summary, and nobody is told that it
  is over.  A failure that the connection passes on ends it all the same (`Run.failedWrite`).

  All requests are written by four steps of the stream (`Stream.Writes`), and nothing but lines of
  the log comes between such a step and the writing (`WriteDue`).  From then on the stream waits
  for a response, and waiting it writes nothing (`Hanging`).
-/
import QueryStream.Proofs.Conclusion
import QueryStream.Proofs.Engine.Duty
import QueryStream.Proofs.GivingUp
import QueryStream.Proofs.Resolution

set_option autoImplicit false

namespace QueryStream

/-- The steps of a stream that write a request, and what they leave. -/
inductive Stream.Writes (x : Stream.Surroundings) (st : Stream) :
    Stream.Action → Stream → Message → Prop
  /-- demand is requested at once -/
  | request {n : Int} {d : Demand} (demand : Demand.ofInt? n = some d) (phase : st.phase = .ready) :
      Writes x st (.request n) { st with phase := .streaming } (.pull d.toInt x.run.query)
  /-- what was demanded meanwhile is requested, and nothing is pending any more -/
  | flush {before : Phase} {more : Bool} {metadata : Value} (phase : st.phase = .ready)
      (positive : st.pending.isPositive = true) :
      Writes x st (.settle before more metadata)
        { st with phase := .streaming, pending := .zero } (.pull st.pending.toInt x.run.query)
  /-- the stream is given up -/
  | cancel (phase : st.phase = .ready) :
      Writes x st .cancel { st with phase := .cancelled } (.discardAll x.run.query)
  /-- a stream that was given up is given up again -/
  | again {metadata : Value} (phase : st.phase = .cancelled) :
      Writes x st (.succeed metadata) st (.discardAll x.run.query)

/-- Whether a move tells a consumer that the stream is over. -/
def Move.tellsEnd : Move → Bool
  | .carried i _ => i.tellsEnd
  | _ => false

/-- What a failed write raised came to the caller of the step that was to write, with the stream
as that step left it. -/
inductive RaisedThrough (c : Conduct) (start : Situation) (request : Message) (th : Thrown)
    (earlier : List Move) : Prop
  | intro (since : List Move) {before : List Move} {a : Stream.Action} {after : Stream}
      {next behind : List Instruction} {s₀ s₁ : Situation}
      (history : earlier = since ++ .carried (.stream a) (.go next) :: before)
      (called : Run c start before s₀) (head : s₀.agenda = .stream a :: behind)
      (writes : s₀.engine.stream.Writes s₀.engine.surroundings a after request)
      (raised : Run c start (.answered (.write request) (.raise th) :: earlier) s₁)
      (engine : s₁.engine = { s₀.engine with stream := after })
      (agenda : s₁.agenda = (Reply.raise th).onto behind) :
      RaisedThrough c start request th earlier

/-- What becomes of a stream after a write that failed. -/
structure FailedWrite (c : Conduct) (start : Situation) (request : Message) (th : Thrown)
    (later earlier : List Move) (s : Situation) : Prop where
  raises : RaisedThrough c start request th earlier
  /-- without a response the stream waits for one, writes nothing and tells nobody of the end -/
  hangs : (∀ m ∈ later, m.response? = none) →
    (s.engine.stream.phase = .streaming ∨ s.engine.stream.phase = .cancelled) ∧
      ∀ m ∈ later, m.isWrite = false ∧ m.tellsEnd = false
  /-- but a failure that it is given ends it -/
  ends : (∀ m ∈ later, m.response? = none) → ∀ f rest, s.agenda = .stream (.fail f) :: rest →
    ∃ r s', Step s (.carried (.stream (.fail f)) r) s' ∧ s'.engine.stream.phase = .failed

section Steps

variable {c : Conduct} {start s s' : Situation} {h : List Move} {m : Move} {a : Stream.Action}
  {request : Message} {x : Stream.Surroundings} {st st' : Stream} {effects : List Stream.Effect}

/-! ## Where a request is written -/

/-- A step of the stream writes nothing, or it writes first and then only goes on by itself. -/
theorem Stream.Steps.writes_or (steps : Stream.Steps x st a st' effects) :
    (∀ i ∈ effects.map Instruction.ofStream, i.isWrite = false) ∨
      ∃ request tail, st.Writes x a st' request ∧
        pastLines (effects.map .ofStream) = .ask (.write request) :: tail ∧
        ∀ i ∈ tail, i.isStream = true := by
  cases steps with
  | pull present demand phase => exact .inr ⟨_, [], .request demand phase, rfl, by simp⟩
  | flush line phase positive =>
      exact .inr ⟨_, [.stream .announce], .flush phase positive, rfl,
        by simp [Instruction.isStream]⟩
  | discard present phase =>
      exact .inr ⟨_, [.stream .reportCancel], .cancel phase, rfl, by simp [Instruction.isStream]⟩
  | discardAgain present phase field more =>
      exact .inr ⟨_, [.stream _], .again phase, rfl, by simp [Instruction.isStream]⟩
  | conclude | concludeRefused | concludeFailure =>
      refine .inl fun i mem => ?_
      obtain ⟨effect, among, rfl⟩ := List.mem_map.1 mem
      exact Stream.forall_endEffects st
        (p := fun effect => (Instruction.ofStream effect).isWrite = false) (fun _ => rfl)
        (fun _ => rfl) effect among
  | announce =>
      left
      cases st.summaryConsumer <;> simp [Instruction.ofStream, Instruction.isWrite]
  | _ => exact .inl (by simp [Instruction.ofStream, Instruction.isWrite])

/-- A request that is about to be written was put there by a step of the stream, which left the
engine as it is. -/
inductive WriteDue (c : Conduct) (start : Situation) (request : Message) (h : List Move)
    (s : Situation) : Prop
  | intro (since : List Move) {before : List Move} {a : Stream.Action} {after : Stream}
      {next tail behind : List Instruction} {s₀ : Situation}
      (history : h = since ++ .carried (.stream a) (.go next) :: before)
      (called : Run c start before s₀) (head : s₀.agenda = .stream a :: behind)
      (writes : s₀.engine.stream.Writes s₀.engine.surroundings a after request)
      (engine : s.engine = { s₀.engine with stream := after })
      (agenda : pastLines s.agenda = .ask (.write request) :: (tail ++ behind))
      (own : ∀ i ∈ tail, i.isStream = true) : WriteDue c start request h s

theorem pastLines_append {l : List Instruction} {i : Instruction} {tail : List Instruction}
    (past : pastLines l = i :: tail) (rest : List Instruction) :
    pastLines (l ++ rest) = i :: (tail ++ rest) := by
  unfold pastLines at past ⊢
  simp [List.dropWhile_append, past]

theorem pastLines_ne {agenda rest : List Instruction}
    (unwritten : ∀ i ∈ agenda, i.isWrite = false) :
    pastLines agenda ≠ .ask (.write request) :: rest := by
  intro past
  have mem : .ask (.write request) ∈ pastLines agenda := by simp [past]
  cases unwritten _ ((List.dropWhile_suffix _).mem mem)

/-- Whatever answers an ask leaves the engine as it is. -/
theorem Step.engine_of_ask {ask : Ask} {rest : List Instruction} (step : Step s m s')
    (head : s.agenda = .ask ask :: rest) : s'.engine = s.engine := by
  obtain ⟨e, agenda⟩ := s
  obtain rfl : agenda = _ := head
  cases step with
  | carry own => cases own
  | answer r => rfl

/-- Behind what is carried out nothing is to be written, lines of the log aside. -/
theorem Poised.unwritten_behind {i : Instruction} {rest : List Instruction} (poised : Poised s)
    (head : s.agenda = i :: rest) (line : i.isLine = false) : ∀ j ∈ rest, j.isWrite = false := by
  have upFront := poised.upFront
  rw [head] at upFront
  intro j mem
  simpa using upFront.forall_of_cons line j mem

/-- What is about to be written was put there by a step of the stream; so it is after every
move. -/
theorem WriteDue.step (due : ∀ request rest, pastLines s.agenda = .ask (.write request) :: rest →
      WriteDue c start request h s) (poised : Poised s) (run : Run c start h s)
    (step : Step s m s') (permitted : c.Permits h m) :
    ∀ request rest, pastLines s'.agenda = .ask (.write request) :: rest →
      WriteDue c start request (m :: h) s' := by
  intro request rest past
  rcases step.stream_or_quiet permitted with ⟨a, behind, after, effects, stream⟩ | ⟨other, quiet⟩
  · -- a write is due only in front, so the step itself put it there
    have cold := poised.unwritten_behind stream.head rfl
    rcases stream.steps.writes_or with none | ⟨request', tail, writes, past', own⟩
    · rw [stream.agenda] at past
      refine absurd past (pastLines_ne fun i mem => ?_)
      rcases List.mem_append.1 mem with mem | mem
      · exact none i mem
      · exact cold i mem
    · have past' := pastLines_append past' behind
      rw [stream.agenda, past'] at past
      obtain rfl : request' = request := by simpa using (List.cons.inj past).1
      exact .intro [] (congrArg (· :: h) stream.move) run stream.head writes
        stream.engine (by rw [stream.agenda]; exact past') own
  · cases head : s.agenda with
    | nil =>
        obtain ⟨front, tail, agenda, behind, fronts⟩ := quiet.agenda
        rw [head] at behind
        obtain rfl := List.suffix_nil.1 behind
        rw [agenda, List.append_nil] at past
        exact absurd past (pastLines_ne fun i mem =>
          isWrite_of_isHot (Instruction.isHot_eq_false (fronts i mem)))
    | cons i behind =>
        -- a line that is logged leaves the write due, and anything else had no write behind it
        cases line : i.isLine with
        | true =>
            obtain ⟨text, rfl⟩ := isAsk_of_isLine line
            have agenda := quiet.line _ behind head line
            have same : pastLines s'.agenda = pastLines s.agenda := by
              rw [agenda, head, pastLines_cons_line line]
            rw [same] at past
            cases due request rest past with
            | intro since history called first writes engine agenda own =>
                exact .intro (m :: since) (congrArg (m :: ·) history) called first writes
                  ((step.engine_of_ask head).trans engine) (same.trans agenda) own
        | false =>
            obtain ⟨front, tail, agenda, suffix, fronts⟩ := quiet.agenda
            rw [agenda] at past
            refine absurd past (pastLines_ne fun j mem => ?_)
            rcases List.mem_append.1 mem with mem | mem
            · exact isWrite_of_isHot (Instruction.isHot_eq_false (fronts j mem))
            · rw [head] at suffix
              exact poised.unwritten_behind head line j (suffix.mem mem)

theorem Run.writeDue {e : Engine} (waits : e.stream.Waits) (run : Run c ⟨e, []⟩ h s) :
    ∀ request rest, pastLines s.agenda = .ask (.write request) :: rest →
      WriteDue c ⟨e, []⟩ request h s := by
  induction run with
  | nil => simp [pastLines]
  | snoc run step permitted ih => exact WriteDue.step ih (run.poised waits) run step permitted

/-- What a write raises comes to the caller of the step that was to write. -/
theorem Run.raisedThrough {e : Engine} {th : Thrown} (waits : e.stream.Waits)
    (run : Run c ⟨e, []⟩ h s) (step : Step s (.answered (.write request) (.raise th)) s')
    (permitted : c.Permits h (.answered (.write request) (.raise th))) :
    RaisedThrough c ⟨e, []⟩ request th h := by
  obtain ⟨rest, head, behind⟩ : ∃ rest, s.agenda = .ask (.write request) :: rest ∧
      s'.agenda = (Reply.raise th).onto rest := by
    cases step with
    | answer r => exact ⟨_, rfl, rfl⟩
  have past : pastLines s.agenda = .ask (.write request) :: rest := by
    rw [head, pastLines_cons_other rfl]
  cases run.writeDue waits request rest past with
  | @intro since before a after next tail behind' s₀ history called first writes engine agenda
      own =>
      refine .intro since history called first writes (run.snoc step permitted)
        ((step.engine_of_ask head).trans engine) ?_
      obtain rfl := (List.cons.inj (past.symm.trans agenda)).2
      have unguarded : ∀ g, .guarded g ∉ tail := fun g mem => by cases own _ mem
      rw [behind]
      simp only [Reply.onto, unwind_append_of_forall behind' unguarded]

/-! ## Waiting for what was never requested -/

theorem Phase.owed_eq_one_iff {p : Phase} : p.owed = 1 ↔ p = .streaming ∨ p = .cancelled := by
  cases p <;> simp [Phase.owed]

/-- A stream that waits for a response, with nothing to be written. -/
structure Hanging (s : Situation) : Prop where
  owed : s.engine.stream.phase.owed = 1
  unwritten : ∀ i ∈ s.agenda, i.isWrite = false

theorem Hanging.step (hanging : Hanging s) (step : Step s m s') (permitted : c.Permits h m)
    (unanswered : m.response? = none) : Hanging s' := by
  rcases step.stream_or_quiet permitted with ⟨a, behind, after, effects, stream⟩ | ⟨other, quiet⟩
  · have other : a.isResponse = false := by
      rw [stream.move] at unanswered
      cases a <;> first | rfl | cases unanswered
    have owed := stream.owed
    have atMost := s'.engine.stream.phase.owed_le_one
    have nonneg := writes_nonneg s'.agenda
    rw [hanging.owed, other, if_neg (by simp), writes_eq_zero hanging.unwritten] at owed
    exact ⟨by omega, unwritten_of_writes (by omega)⟩
  · refine ⟨by rw [quiet.stream]; exact hanging.owed, fun i mem => ?_⟩
    obtain ⟨front, tail, agenda, suffix, fronts⟩ := quiet.agenda
    rw [agenda] at mem
    rcases List.mem_append.1 mem with mem | mem
    · exact isWrite_of_isHot (Instruction.isHot_eq_false (fronts i mem))
    · exact hanging.unwritten i (List.mem_of_mem_tail (suffix.mem mem))

theorem Stream.Writes.owed (writes : st.Writes x a st' request) : st'.phase.owed = 1 := by
  cases writes with
  | again phase => rw [phase]; rfl
  | _ => rfl

/-- A stream that could not write waits as if it had written. -/
theorem Poised.hanging {th : Thrown} (poised : Poised s)
    (step : Step s (.answered (.write request) (.raise th)) s')
    (owed : s'.engine.stream.phase.owed = 1) : Hanging s' := by
  obtain ⟨e, agenda⟩ := s
  cases step with
  | @answer e ask rest r =>
      have cold := poised.unwritten_behind rfl rfl
      refine ⟨owed, fun i mem => ?_⟩
      have mem : i ∈ (Reply.raise th).onto rest := mem
      rcases Reply.mem_onto mem with mem | mem | ⟨g, th, rfl⟩
      · exact cold i mem
      · cases mem
      · rfl

/-- Nobody is told of the end of a stream that goes on. -/
theorem Open.untold (opened : Open s) (step : Step s m s') : m.tellsEnd = false := by
  cases step with
  | carry own => exact opened.tellsEnd (List.mem_cons_self ..)
  | _ => rfl

/-- As long as it is given no response, a stream that waits for one goes on to wait, with nothing
written and nobody told of the end. -/
theorem Run.hanging {e : Engine} (waits : e.stream.Waits) {earlier : List Move} {s₁ : Situation}
    (before : Run c ⟨e, []⟩ earlier s₁) (hanging : Hanging s₁) :
    ∀ {later : List Move} {s : Situation}, Run c ⟨e, []⟩ (later ++ earlier) s →
      (∀ m ∈ later, m.response? = none) →
        Hanging s ∧ ∀ m ∈ later, m.isWrite = false ∧ m.tellsEnd = false := by
  refine before.following
    (I := fun later s => (∀ m ∈ later, m.response? = none) →
      Hanging s ∧ ∀ m ∈ later, m.isWrite = false ∧ m.tellsEnd = false)
    (fun _ => ⟨hanging, by simp⟩) ?_
  intro later s s' m ih run step permitted unanswered
  obtain ⟨hanging, silent⟩ := ih fun m mem => unanswered m (List.mem_cons_of_mem _ mem)
  have running : s.engine.stream.phase.isTerminal = false := by
    rcases Phase.owed_eq_one_iff.1 hanging.owed with phase | phase <;> rw [phase] <;> rfl
  have opened := (run.poised waits).open_of_running running
  have unwritten : m.isWrite = false := by
    cases head : s.agenda with
    | nil =>
        obtain ⟨e, agenda⟩ := s
        obtain rfl : agenda = [] := head
        cases step <;> rfl
    | cons i rest => exact (step.isWrite_eq head).trans (hanging.unwritten i (by simp [head]))
  refine ⟨hanging.step step permitted (unanswered m (List.mem_cons_self ..)), ?_⟩
  intro m' mem
  rcases List.mem_cons.1 mem with rfl | mem
  · exact ⟨unwritten, opened.untold step⟩
  · exact silent m' mem

theorem Hanging.exists_fail {f : Failure} {rest : List Instruction} (hanging : Hanging s)
    (poised : Poised s) (head : s.agenda = .stream (.fail f) :: rest) :
    ∃ r s', Step s (.carried (.stream (.fail f)) r) s' ∧ s'.engine.stream.phase = .failed := by
  have running : s.engine.stream.phase.isTerminal = false := by
    rcases Phase.owed_eq_one_iff.1 hanging.owed with phase | phase <;> rw [phase] <;> rfl
  have attended : s.engine.stream.Attended := by
    rcases (poised.open_of_running running).waits with attended | ready
    · exact attended
    · have owed := hanging.owed
      simp [ready, Phase.owed] at owed
  obtain ⟨⟨after, effects⟩, accepted⟩ :=
    Stream.exists_step_of_owed (x := s.engine.surroundings) (a := .fail f) hanging.owed attended
      rfl (by simp)
  obtain ⟨e, agenda⟩ := s
  obtain rfl : agenda = _ := head
  refine ⟨_, _, .carry rfl, ?_⟩
  simp only [e.exec_stream accepted]
  cases Stream.steps_of_step accepted with
  | lateFailure => rfl
  | fail => rfl

/-- A write that fails comes to its caller, and leaves the stream waiting for what was never
requested. -/
theorem Run.failedWrite {e : Engine} {th : Thrown} {later earlier : List Move}
    (waits : e.stream.Waits)
    (run : Run c ⟨e, []⟩ (later ++ .answered (.write request) (.raise th) :: earlier) s) :
    FailedWrite c ⟨e, []⟩ request th later earlier s := by
  obtain ⟨s₀, s₁, before, step, permitted⟩ := run.exists_step_of_append
  have raises := before.raisedThrough waits step permitted
  have hanging : Hanging s₁ := by
    cases raises with
    | intro since history called head writes raised engine agenda =>
        obtain rfl := (before.snoc step permitted).unique raised
        exact (before.poised waits).hanging step (by rw [engine]; exact writes.owed)
  have hangs := fun unanswered =>
    (before.snoc step permitted).hanging waits hanging run unanswered
  exact ⟨raises, fun unanswered => ⟨Phase.owed_eq_one_iff.1 (hangs unanswered).1.owed,
    (hangs unanswered).2⟩, fun unanswered f rest head =>
      (hangs unanswered).1.exists_fail (run.poised waits) head⟩

end Steps

/-- A record is requested, up to where the request is written. -/
def writingPoint : List Move × Situation :=
  Situation.acts 2 [.calls [.stream (.request 1)]] ([], ⟨attendedEngine, []⟩)

/-- The request cannot be written. -/
def failedPull : List Move × Situation :=
  (.answered (.write (.pull 1 (-1))) (.raise (.failure brokenLink)) :: writingPoint.1,
    ⟨writingPoint.2.engine, []⟩)

/-- More is demanded, and the stream is given up. -/
def failedPullPoint : List Move × Situation :=
  Situation.acts 12 [.calls [.stream (.request 5)], .calls [.stream .cancel]] failedPull

/-- The stream waits for what was never requested, and giving it up writes nothing. -/
theorem failedWrite_failedPull :
    ∃ later, failedPullPoint.1 = later ++ failedPull.1 ∧
      (∀ m ∈ later, m.response? = none) ∧
      FailedWrite .any ⟨attendedEngine, []⟩ (.pull 1 (-1)) (.failure brokenLink) later
        writingPoint.1 failedPullPoint.2 ∧
      failedPullPoint.2.engine.stream.phase = .cancelled ∧
      failedPullPoint.2.engine.stream.pending = .records 5 ∧
      failedPullPoint.2.agenda.isEmpty = true := by
  let start : List Move × Situation := ([], ⟨attendedEngine, []⟩)
  have unasked : Run .any ⟨attendedEngine, []⟩ start.1 start.2 := .nil
  have writing : Run .any ⟨attendedEngine, []⟩ writingPoint.1 writingPoint.2 :=
    unasked.acts_of_isOutside rfl (by decide)
  have step : Step writingPoint.2 (.answered (.write (.pull 1 (-1))) (.raise (.failure brokenLink)))
      failedPull.2 := .answer (.raise (.failure brokenLink))
  have failed : Run .any ⟨attendedEngine, []⟩ failedPull.1 failedPull.2 :=
    writing.snoc step ⟨trivial, .raise _ rfl nofun⟩
  have run : Run .any ⟨attendedEngine, []⟩ failedPullPoint.1 failedPullPoint.2 :=
    failed.acts_of_isOutside rfl (by decide)
  obtain ⟨later, split⟩ : failedPull.1 <:+ failedPullPoint.1 := Situation.suffix_acts 12 _ _ _
  have split := split.symm
  have silent : failedPullPoint.1.all (fun m => m.response?.isNone) = true := by decide +kernel
  rw [split] at run
  refine ⟨later, split, fun m mem => ?_, run.failedWrite (.inr rfl), by decide +kernel,
    by decide +kernel, by decide +kernel⟩
  have none := List.all_eq_true.1 silent m (by rw [split]; exact List.mem_append_left _ mem)
  exact Option.isNone_iff_eq_none.1 none

end QueryStream
