/-
  Proofs/GivingUp.lean --- a stream that was given up drops what is left, and does nothing else.

  Giving up is final: from then on a stream requests no records, delivers none, and leaves the
  demand that is pending where it is.  It writes only that what is left be dropped: at once if
  no batch was under way when it was given up, and once more for every success that tells it of
  more before it ends.  That holds whoever gives up the stream, whatever is called and answered
  afterwards, and however these calls are nested (`Run.dropsRest`).

  The proof goes along the history behind the move that gave the stream up.  `Forgoing` says
  what each of these moves keeps; the requests that are to be written stand first on the agenda
  throughout (`Poised`), so each is written before control is handed out, and none is lost.
-/
import QueryStream.Proofs.Stream.Poised

set_option autoImplicit false

namespace QueryStream

/-- Whether metadata says that there are more records. -/
def Value.tellsMore (metadata : Value) : Bool :=
  match metadata.field "has_more" with
  | .ok raw => raw.isTrue
  | .error _ => false

/-- Whether an action is a success that tells of more records. -/
def Stream.Action.tellsMore : Stream.Action → Bool
  | .succeed metadata => metadata.tellsMore
  | _ => false

/-- Whether a move is a success that the stream takes and that tells of more records. -/
def Move.tellsMore : Move → Bool
  | .carried (.stream a) (.go _) => a.tellsMore
  | _ => false

/-- How many successes of a history told of more records before the stream ended. -/
def timesMore : List Move → Nat
  | [] => 0
  | m :: h => timesMore h + if m.tellsMore && (endings h).isEmpty then 1 else 0

/-- The stream was given up in a phase, with some demand pending; this is what came of it in
the history since. -/
structure DropsRest (phase : Phase) (pending : Demand) (h : List Move) (s : Situation) : Prop where
  /-- all that is written is that what is left be dropped -/
  discards : ∀ request r, .answered (.write request) r ∈ h → ∃ query, request = .discardAll query
  /-- no record is delivered -/
  undelivered : ∀ rc record r, .carried (.tellRecord rc record) r ∉ h
  /-- pending demand is not requested -/
  unflushed : s.engine.stream.pending = pending
  /-- once at once, if no batch was under way, and once for every success that told of more:
  so often it was written or is to be written -/
  written : (h.countP Move.isWrite : Int) + writes s.agenda
    = (if phase = .ready then 1 else 0) + timesMore h
  /-- what is to be written stands first, lines of the log aside -/
  prompt : UpFront (fun i => i.isWrite = true) s.agenda

/-- What every move since keeps. -/
structure Forgoing (phase : Phase) (pending : Demand) (h : List Move) (s : Situation) : Prop
    extends DropsRest phase pending h s where
  poised : Poised s
  /-- the stream is given up, or ended since -/
  given : s.engine.stream.phase = .cancelled ∧ endings h = [] ∨
    s.engine.stream.phase.isTerminal = true ∧ endings h ≠ []
  due : ∀ request, .ask (.write request) ∈ s.agenda → ∃ query, request = .discardAll query
  silent : ∀ rc record, .tellRecord rc record ∉ s.agenda

section Steps

variable {c : Conduct} {h h₀ : List Move} {s s' : Situation} {m : Move} {phase : Phase}
  {pending : Demand}

/-! ## A step of the stream -/

/-- What a stream does that was given up. -/
structure Stream.Drops (st : Stream) (a : Stream.Action) (st' : Stream)
    (effects : List Stream.Effect) : Prop where
  pending : st'.pending = st.pending
  due : ∀ request, .write request ∈ effects → ∃ query, request = .discardAll query
  silent : ∀ rc record, .tellRecord rc record ∉ effects
  writes : writes (effects.map .ofStream)
    = if a.tellsMore = true ∧ st.phase = .cancelled then 1 else 0

theorem Stream.silent_endEffects (st : Stream) (summary : Summary) (f : Option Failure) :
    (∀ request, .write request ∉ st.endEffects summary f) ∧
      (∀ rc record, .tellRecord rc record ∉ st.endEffects summary f) ∧
      QueryStream.writes ((st.endEffects summary f).map .ofStream) = 0 := by
  cases hsummary : st.summaryConsumer <;> cases hrecord : st.recordConsumer <;>
    simp [endEffects, hsummary, hrecord, Instruction.ofStream, QueryStream.writes,
      Instruction.isWrite]

theorem Value.tellsMore_eq {metadata raw : Value} (field : metadata.field "has_more" = .ok raw) :
    metadata.tellsMore = raw.isTrue := by
  simp [tellsMore, field]

theorem Stream.Steps.drops {x : Stream.Surroundings} {st st' : Stream} {a : Stream.Action}
    {effects : List Stream.Effect} (steps : Stream.Steps x st a st' effects)
    (given : st.phase = .cancelled ∨ st.phase.isTerminal = true) :
    st.Drops a st' effects := by
  cases steps with
  | pull _ _ ready | join _ _ ready | discard _ ready | giveUp _ ready | endBatch _ ready _ _
  | deliver _ _ ready _ _ | flush _ ready _ | rest _ ready _ =>
      rcases given with given | given <;> simp [ready, Phase.isTerminal] at given
  | discardAgain present phase field more =>
      refine ⟨rfl, ?_, ?_, ?_⟩
      · intro request mem
        exact ⟨x.run.query, by simpa [Stream.discardEffects, Stream.debug] using mem⟩
      · simp [Stream.discardEffects, Stream.debug]
      · have told : Action.tellsMore (.succeed _) = true := (Value.tellsMore_eq field).trans more
        rw [if_pos ⟨told, phase⟩]
        rfl
  | @succeed metadata raw present running field last =>
      refine ⟨rfl, by simp, by simp, ?_⟩
      rw [if_neg]
      · rfl
      · rintro ⟨more, phase⟩
        simp [last ((Value.tellsMore_eq field).symm.trans more)] at phase
  | lateSuccess line terminal =>
      refine ⟨rfl, by simp, by simp, ?_⟩
      rw [if_neg]
      · rfl
      · rintro ⟨-, phase⟩
        simp [phase, Phase.isTerminal] at terminal
  | conclude read | concludeRefused read kind | concludeFailure =>
      obtain ⟨due, silent, writes⟩ := st.silent_endEffects _ _
      exact ⟨rfl, fun request mem => absurd mem (due request), silent, by
        rw [writes]; simp [Action.tellsMore]⟩
  | announce =>
      cases hsummary : st.summaryConsumer <;>
        exact ⟨rfl, by simp, by simp, by simp [QueryStream.writes, Instruction.ofStream,
          Instruction.isWrite, Action.tellsMore]⟩
  | _ =>
      exact ⟨rfl, by simp, by simp, by simp [QueryStream.writes, Instruction.ofStream,
        Instruction.isWrite, Action.tellsMore]⟩

/-! ## One move -/

theorem timesMore_cons_of_not (h : List Move) (other : m.tellsMore = false) :
    timesMore (m :: h) = timesMore h := by
  simp [timesMore, other]

theorem Move.tellsMore_of_not_stream (other : ∀ a next, m ≠ .carried (.stream a) (.go next)) :
    m.tellsMore = false := by
  unfold tellsMore
  split
  · exact absurd rfl (other _ _)
  · rfl

theorem exists_effect_of_mem {effects : List Stream.Effect} {i : Instruction}
    (mem : i ∈ effects.map Instruction.ofStream) :
    (∀ request, i = .ask (.write request) → .write request ∈ effects) ∧
      ∀ rc record, i = .tellRecord rc record → .tellRecord rc record ∈ effects := by
  obtain ⟨effect, among, rfl⟩ := List.mem_map.1 mem
  constructor
  · intro request heq
    cases effect with
    | write written =>
        cases heq
        exact among
    | _ => cases heq
  · intro rc record heq
    cases effect with
    | tellRecord told record =>
        cases heq
        exact among
    | _ => cases heq

/-- Whether the stream was ended since can be told from the history. -/
theorem given_step (step : Step s m s') (permitted : c.Permits h₀ m)
    (given : s.engine.stream.phase = .cancelled ∧ endings h = [] ∨
      s.engine.stream.phase.isTerminal = true ∧ endings h ≠ []) :
    s'.engine.stream.phase = .cancelled ∧ endings (m :: h) = [] ∨
      s'.engine.stream.phase.isTerminal = true ∧ endings (m :: h) ≠ [] := by
  have given' : s'.engine.stream.phase = .cancelled ∨
      s'.engine.stream.phase.isTerminal = true :=
    step.givenUp permitted (given.imp And.left And.left)
  have running : ∀ p : Phase, p = .cancelled → p.isTerminal = false := by
    rintro p rfl
    rfl
  rcases step.stops permitted with ⟨none, same⟩ | ⟨r, rest, some, _, terminal, _⟩
  · rw [endings_cons, none, Option.toList_none, List.nil_append]
    rcases given with ⟨cancelled, ended⟩ | ⟨terminal, ended⟩
    · refine .inl ⟨given'.resolve_right ?_, ended⟩
      simp [same, running _ cancelled]
    · exact .inr ⟨same.trans terminal, ended⟩
  · rw [endings_cons, some]
    exact .inr ⟨terminal, by simp⟩

theorem Forgoing.of_stream {a : Stream.Action} {rest : List Instruction} {after : Stream}
    {effects : List Stream.Effect} (forgoing : Forgoing phase pending h s) (step : Step s m s')
    (permitted : c.Permits h₀ m) (stream : StreamStep s m s' a rest after effects) :
    Forgoing phase pending (m :: h) s' := by
  have poised := forgoing.poised.step step permitted
  have drops := stream.steps.drops (forgoing.given.imp And.left And.left)
  have isWrite := stream.isWrite
  refine ⟨⟨?_, ?_, ?_, ?_, poised.upFront⟩, poised, given_step step permitted forgoing.given,
    ?_, ?_⟩
  · intro request r mem
    rcases List.mem_cons.1 mem with rfl | mem
    · cases stream.move
    · exact forgoing.discards request r mem
  · intro rc record r mem
    rcases List.mem_cons.1 mem with rfl | mem
    · cases stream.move
    · exact forgoing.undelivered rc record r mem
  · rw [stream.engine]
    exact drops.pending.trans forgoing.unflushed
  · have written := forgoing.written
    have hagenda := stream.writes
    have hmore : (timesMore (m :: h) : Int) = timesMore h + writes (effects.map .ofStream) := by
      rw [drops.writes, timesMore]
      have tells : (m.tellsMore && (endings h).isEmpty) = true ↔
          a.tellsMore = true ∧ s.engine.stream.phase = .cancelled := by
        have ended : (endings h).isEmpty = true ↔ s.engine.stream.phase = .cancelled := by
          rcases forgoing.given with ⟨cancelled, ended⟩ | ⟨terminal, ended⟩
          · simp [cancelled, ended]
          · simp only [List.isEmpty_iff, ended, false_iff]
            intro cancelled
            simp [cancelled, Phase.isTerminal] at terminal
        rw [Bool.and_eq_true, ended, stream.move]
        rfl
      -- each time it is told of more it asks once for that to be dropped, until it has ended
      by_cases told : (m.tellsMore && (endings h).isEmpty) = true
      · rw [if_pos told, if_pos (tells.1 told)]
        simp
      · rw [if_neg told, if_neg fun other => told (tells.2 other)]
        simp
    rw [List.countP_cons_of_neg (by simp [isWrite])]
    omega
  · intro request mem
    rw [stream.agenda] at mem
    rcases List.mem_append.1 mem with mem | mem
    · exact drops.due request ((exists_effect_of_mem mem).1 request rfl)
    · exact forgoing.due request (by simp [stream.head, mem])
  · intro rc record mem
    rw [stream.agenda] at mem
    rcases List.mem_append.1 mem with mem | mem
    · exact drops.silent rc record ((exists_effect_of_mem mem).2 rc record rfl)
    · exact forgoing.silent rc record (by simp [stream.head, mem])

theorem Forgoing.of_quiet (forgoing : Forgoing phase pending h s) (step : Step s m s')
    (permitted : c.Permits h₀ m) (other : ∀ a next, m ≠ .carried (.stream a) (.go next))
    (quiet : Quiet s m s') : Forgoing phase pending (m :: h) s' := by
  have poised := forgoing.poised.step step permitted
  have kept : ∀ i : Instruction, i.isHot = true → i ∈ s'.agenda → i ∈ s.agenda := by
    intro i hot mem
    obtain ⟨front, tail, heq, htail, hfront⟩ := quiet.agenda
    rw [heq] at mem
    rcases List.mem_append.1 mem with mem | mem
    · simp [Instruction.isHot_eq_false (hfront i mem)] at hot
    · exact List.mem_of_mem_tail (htail.mem mem)
  refine ⟨⟨?_, ?_, by rw [quiet.stream]; exact forgoing.unflushed, ?_, poised.upFront⟩, poised,
    given_step step permitted forgoing.given, ?_, ?_⟩
  · intro request r mem
    rcases List.mem_cons.1 mem with rfl | mem
    · cases step
      exact forgoing.due request (by simp)
    · exact forgoing.discards request r mem
  · intro rc record r mem
    rcases List.mem_cons.1 mem with rfl | mem
    · obtain ⟨rest, head⟩ := step.head_of_carried
      exact forgoing.silent rc record (by simp [head])
    · exact forgoing.undelivered rc record r mem
  · have written := forgoing.written
    have count := writes_quiet forgoing.poised.first step quiet
    rw [timesMore_cons_of_not h (Move.tellsMore_of_not_stream other), List.countP_cons]
    cases hm : m.isWrite <;> simp only [hm, if_true, Bool.false_eq_true, if_false] at count ⊢ <;>
      omega
  · exact fun request mem => forgoing.due request (kept _ rfl mem)
  · exact fun rc record mem => forgoing.silent rc record (kept _ rfl mem)

theorem Forgoing.step (forgoing : Forgoing phase pending h s) (step : Step s m s')
    (permitted : c.Permits h₀ m) : Forgoing phase pending (m :: h) s' := by
  rcases step.stream_or_quiet permitted with ⟨a, rest, after, effects, stream⟩ | ⟨other, quiet⟩
  · exact forgoing.of_stream step permitted stream
  · exact forgoing.of_quiet step permitted other quiet

/-! ## Runs -/

/-- Giving up a stream that is not over leaves nothing but that what is left be dropped. -/
theorem forgoing_of_cancel {next : List Instruction} (poised : Poised s)
    (step : Step s (.carried (.stream .cancel) (.go next)) s')
    (permitted : c.Permits h₀ (.carried (.stream .cancel) (.go next)))
    (running : s.engine.stream.phase.isTerminal = false) :
    Forgoing s.engine.stream.phase s.engine.stream.pending [] s' := by
  have opened := poised.open_of_running running
  have poised' := poised.step step permitted
  rcases step.stream_or_quiet permitted with ⟨a, rest, after, effects, stream⟩ | ⟨other, _⟩
  · have cold := opened.cold stream.head rfl
    have hrest : writes rest = 0 := writes_eq_zero fun i hi => isWrite_of_isHot (cold i hi)
    have hstream : s'.engine.stream = after := by rw [stream.engine]
    obtain rfl : a = .cancel := by simpa using ((Move.carried.inj stream.move).1).symm
    -- the stream runs, so behind the step the agenda is cold
    have behind : ∀ i : Instruction, i.isHot = true → i ∈ s'.agenda →
        i ∈ effects.map Instruction.ofStream := by
      intro i hot mem
      rw [stream.agenda] at mem
      rcases List.mem_append.1 mem with mem | mem
      · exact mem
      · simp [cold i mem] at hot
    have hwrites : writes s'.agenda = writes (effects.map .ofStream) := by
      rw [stream.agenda, writes_append, hrest, Int.add_zero]
    have forgoing : after.pending = s.engine.stream.pending → after.phase = .cancelled →
        writes (effects.map .ofStream) = (if s.engine.stream.phase = .ready then 1 else 0) →
        (∀ request, .write request ∈ effects → ∃ query, request = .discardAll query) →
        (∀ rc record, .tellRecord rc record ∉ effects) →
        Forgoing s.engine.stream.phase s.engine.stream.pending [] s' := by
      intro pending phase count due silent
      refine ⟨⟨by simp, by simp, by rw [hstream, pending], ?_, poised'.upFront⟩, poised',
        .inl ⟨by rw [hstream, phase], rfl⟩, ?_, ?_⟩
      · rw [hwrites, count]
        simp [timesMore]
      · exact fun request mem => due request
          ((exists_effect_of_mem (behind _ rfl mem)).1 request rfl)
      · exact fun rc record mem => silent rc record
          ((exists_effect_of_mem (behind _ rfl mem)).2 rc record rfl)
    cases stream.steps with
    | discard present ready =>
        refine forgoing rfl rfl ?_ ?_ ?_
        · rw [if_pos ready]
          rfl
        · intro request mem
          exact ⟨_, by simpa [Stream.discardEffects, Stream.debug] using mem⟩
        · simp [Stream.discardEffects, Stream.debug]
    | giveUp present streaming =>
        exact forgoing rfl rfl (by simp [streaming]; rfl) (by simp) (by simp)
    | ignoreCancel present ready streaming =>
        have cancelled : s.engine.stream.phase = .cancelled := by
          cases phase : s.engine.stream.phase <;> simp_all [Phase.isTerminal]
        exact forgoing rfl cancelled (by simp [ready]; rfl) (by simp) (by simp)
  · exact absurd rfl (other _ _)

/-- From where a stream was given up that was not over, it drops what is left and does
nothing else, whatever follows. -/
theorem Run.dropsRest {e : Engine} {later earlier : List Move} {s₁ : Situation}
    {next : List Instruction} (waits : e.stream.Waits)
    (run : Run c ⟨e, []⟩ (later ++ .carried (.stream .cancel) (.go next) :: earlier) s)
    (before : Run c ⟨e, []⟩ earlier s₁) (running : s₁.engine.stream.phase.isTerminal = false) :
    DropsRest s₁.engine.stream.phase s₁.engine.stream.pending later s := by
  suffices forgoing :
      Forgoing s₁.engine.stream.phase s₁.engine.stream.pending later s from forgoing.toDropsRest
  exact before.followingMove
    (fun step permitted => forgoing_of_cancel (before.poised waits) step permitted running)
    (fun forgoing _ step permitted => forgoing.step step permitted) run

/-- An engine whose stream has both consumers. -/
def attendedEngine : Engine :=
  { Engine.overStream ⟨.text "", .null⟩ ⟨.null, .null, .null⟩ (.int 0) .transaction .pending
      none with
    stream := { Stream.fresh with
      recordConsumer := some (.client 0 "records")
      summaryConsumer := some (.client 1 "summary") } }

/-- Metadata that says that there are more records. -/
def moreRecords : Value := .map [(.text "has_more", .bool true)]

/-- Two records are requested and one of them comes; then five more are demanded. -/
def halfwayRead : List Move × Situation :=
  Situation.acts 20
    [.calls [.stream (.request 2), .stream (.deliver (.list [])), .stream (.request 5)]]
    ([], ⟨attendedEngine, []⟩)

/-- The stream is to be given up; after that there are more records, more are demanded, the
other record comes late, there are more records again, and the stream ends. -/
def givenUpHalfway : List Move × Situation :=
  Situation.acts 0 [.calls [.stream .cancel, .stream (.succeed moreRecords), .stream (.request 1),
    .stream (.deliver (.list [])), .stream (.succeed moreRecords), .stream (.succeed (.map []))]]
    halfwayRead

/-- Where that leads. -/
def droppedHalfway : List Move × Situation := Situation.advances 40 givenUpHalfway

theorem dropsRest_droppedHalfway :
    ∃ later next, droppedHalfway.1
        = later ++ .carried (.stream .cancel) (.go next) :: givenUpHalfway.1 ∧
      DropsRest .streaming (.records 5) later droppedHalfway.2 ∧
      later.countP Move.isWrite = 2 ∧ droppedHalfway.2.agenda = [] := by
  let start : List Move × Situation := ([], ⟨attendedEngine, []⟩)
  have unasked : Run .any ⟨attendedEngine, []⟩ start.1 start.2 := .nil
  have halfway : Run .any ⟨attendedEngine, []⟩ halfwayRead.1 halfwayRead.2 :=
    unasked.acts_of_isOutside rfl (by decide)
  have before : Run .any ⟨attendedEngine, []⟩ givenUpHalfway.1 givenUpHalfway.2 :=
    halfway.acts_of_isOutside rfl (by decide)
  have run : Run .any ⟨attendedEngine, []⟩ droppedHalfway.1 droppedHalfway.2 :=
    before.advances_to 40 rfl (Conduct.keepsAll_of_forall (fun _ _ => trivial) _)
  have phase : givenUpHalfway.2.engine.stream.phase = .streaming := by decide +kernel
  have pending : givenUpHalfway.2.engine.stream.pending = .records 5 := by decide +kernel
  have idle : halfwayRead.2.agenda = [] := List.isEmpty_iff.1 (by decide +kernel)
  have head : ∃ rest, givenUpHalfway.2.agenda = .stream .cancel :: rest := by
    simp [givenUpHalfway, Situation.acts, Situation.act, Situation.advances, idle]
  have attended : givenUpHalfway.2.engine.stream.lacksConsumer = false := by decide +kernel
  obtain ⟨next, gaveUp⟩ : ∃ next, givenUpHalfway.2.advance.1
      = [.carried (.stream .cancel) (.go next)] := by
    obtain ⟨rest, head⟩ := head
    simp [Situation.advance, head, Engine.exec, Engine.stepStream, Stream.step, Stream.cancel,
      Stream.ensureConsumers, attended, phase, bind, Except.bind, pure, Except.pure]
  obtain ⟨later, split⟩ : ∃ later, later ++ .carried (.stream .cancel) (.go next)
      :: givenUpHalfway.1 = droppedHalfway.1 := by
    rw [droppedHalfway, Situation.advances_succ, gaveUp]
    exact Situation.suffix_advances 39 _ _
  have split := split.symm
  have waits : attendedEngine.stream.Waits := .inr rfl
  rw [split] at run
  have drops := Run.dropsRest waits run before (by rw [phase]; rfl)
  rw [phase, pending] at drops
  have all : droppedHalfway.1.countP Move.isWrite = 3 := by decide +kernel
  have former : givenUpHalfway.1.countP Move.isWrite = 1 := by decide +kernel
  have count : later.countP Move.isWrite = 2 := by
    rw [split, List.countP_append, List.countP_cons_of_neg (by simp [Move.isWrite]), former] at all
    omega
  exact ⟨later, next, split, drops, count, List.isEmpty_iff.1 (by decide +kernel)⟩

end Steps

end QueryStream
