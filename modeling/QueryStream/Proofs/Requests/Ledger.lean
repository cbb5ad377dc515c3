/-
  Proofs/Requests/Ledger.lean --- requests and their responses, over one cursor.

  Every request that is written is owed a response.  A connection that answers each
  request once responds only while a request is unanswered; and a stream that is
  driven through a cursor never writes a request while another one is unanswered.  So
  at most one is, and whether one is shows in the phase of the stream.

  The balance counts a request from the moment it is on the agenda: with that, the
  unanswered requests are as many as the phase owes at every move, whatever calls are
  nested in others (`Served.balance`).  The one failure that a stream is given and
  that is no response is the failure of the query to start.  A cursor passes it on
  when it takes its first consumer, while nothing was requested, and nothing can come
  in between (`Installing`).
-/
import QueryStream.Proofs.Cursor.Attachment
import QueryStream.Proofs.Stream.Ending

set_option autoImplicit false

namespace QueryStream

/-! ## Requests, and who responds -/

/-- Whether a move is a response to a request, after the given history. -/
def Move.responds (h : List Move) : Move → Bool
  | .carried (.stream (.succeed _)) _ => true
  | .carried (.stream (.fail _)) _ => !passesFailure h
  | _ => false

/-- How many of the requests written in a history were not responded to. -/
def unanswered : List Move → Int
  | [] => 0
  | m :: h =>
      unanswered h + (if m.isWrite then 1 else 0) - (if m.responds h then 1 else 0)

/-- How many responses a stream waits for. -/
def Phase.owed : Phase → Int
  | .streaming => 1
  | .cancelled => 1
  | _ => 0

/-- A connection that answers every request once, with well-formed metadata, and callers that
go through one cursor. -/
structure Conduct.Serves (c : Conduct) : Prop where
  calls : ∀ i, c.Calls i → i.isOverCursor = true
  once : ∀ h m, c.keeps h m → m.responds h = true → 0 < unanswered h
  wellFormed : ∀ h metadata r, c.keeps h (.carried (.stream (.succeed metadata)) r) →
    metadata.WellFormed

theorem Conduct.Serves.taming {c : Conduct} (serves : c.Serves) (kind : Ask → Prop) :
    (c.taming kind).Serves :=
  ⟨serves.calls, serves.once, serves.wellFormed⟩

/-- How many requests an agenda has that are to be written. -/
def writes (agenda : List Instruction) : Int := agenda.countP Instruction.isWrite

/-- An engine with one cursor, whose requests are in balance. -/
structure Served (outcome : PromiseId) (h : List Move) (s : Situation) (cursor : Cursor) :
    Prop extends Attached outcome h s cursor where
  balance : unanswered h + writes s.agenda = s.engine.stream.phase.owed

/-! ## The balance -/

section Steps

variable {c : Conduct} {o : PromiseId} {h : List Move} {s s' : Situation} {m : Move}
  {cursor : Cursor}

theorem writes_append (first second : List Instruction) :
    writes (first ++ second) = writes first + writes second := by
  simp [writes]

theorem writes_eq_zero {agenda : List Instruction} (cold : ∀ i ∈ agenda, i.isWrite = false) :
    writes agenda = 0 := by
  simp only [writes, Int.natCast_eq_zero, List.countP_eq_zero]
  exact fun i hi => by simp [cold i hi]

theorem unwritten_of_writes {agenda : List Instruction} (none : writes agenda = 0) :
    ∀ i ∈ agenda, i.isWrite = false := by
  intro i mem
  simpa using List.countP_eq_zero.1 (Int.natCast_eq_zero.1 none) i mem

theorem writes_nonneg (agenda : List Instruction) : 0 ≤ writes agenda := Int.natCast_nonneg _

theorem writes_cons_of_not {i : Instruction} (h : i.isWrite = false) (rest : List Instruction) :
    writes (i :: rest) = writes rest := by
  simp [writes, h]

namespace Stream

/-- Whether an action is how a stream is given a response. -/
def Action.isResponse : Action → Bool
  | .succeed _ => true
  | .fail _ => true
  | _ => false

/-- A stream waits for the responses to what it writes, besides the one it waited for
unless that is what it got. -/
theorem Steps.owed {x : Surroundings} {s s' : Stream} {a : Action} {effects : List Effect}
    (steps : Steps x s a s' effects) :
    s'.phase.owed
      = writes (effects.map .ofStream) + if a.isResponse then 0 else s.phase.owed := by
  have quiet : ∀ summary f, writes ((s.endEffects summary f).map .ofStream) = 0 := by
    intro summary f
    refine writes_eq_zero fun i hi => ?_
    obtain ⟨effect, mem, rfl⟩ := List.mem_map.1 hi
    cases effect <;> simp [endEffects] at mem <;> rfl
  cases steps with
  | pull present demand phase | join present demand phase | discard present phase
  | giveUp present phase | flush line phase positive | discardAgain present phase field more =>
      simp [phase, Phase.owed, Action.isResponse, pullEffects, discardEffects, debug,
        Instruction.ofStream, writes, Instruction.isWrite, List.countP_cons]
  | conclude read | concludeRefused read kind | concludeFailure =>
      rw [quiet]
      simp [Action.isResponse, released]
  | announce =>
      have hmore : writes ((s.summaryConsumer.map Effect.tellMore).toList.map .ofStream) = 0 := by
        cases s.summaryConsumer <;> rfl
      rw [hmore]
      simp [Action.isResponse]
  | _ =>
      simp [Phase.owed, Action.isResponse, Instruction.ofStream, writes, Instruction.isWrite]

end Stream

section StreamSteps

variable {a : Stream.Action} {rest : List Instruction} {next : Stream}
  {effects : List Stream.Effect}

theorem StreamStep.isWrite (stream : StreamStep s m s' a rest next effects) :
    m.isWrite = false := by
  rw [stream.move]
  rfl

theorem StreamStep.writes (stream : StreamStep s m s' a rest next effects) :
    QueryStream.writes s'.agenda
      = QueryStream.writes (effects.map .ofStream) + QueryStream.writes s.agenda := by
  rw [stream.agenda, writes_append, stream.head, writes_cons_of_not rfl]

/-- After a step the stream waits for no more than it did, besides the responses to what it puts
onto the agenda to be written. -/
theorem StreamStep.owed (stream : StreamStep s m s' a rest next effects) :
    s'.engine.stream.phase.owed + QueryStream.writes s.agenda = QueryStream.writes s'.agenda +
      if a.isResponse then 0 else s.engine.stream.phase.owed := by
  have owed := stream.steps.owed
  have writes := stream.writes
  have phase : s'.engine.stream.phase.owed = next.phase.owed := by rw [stream.engine]
  omega

end StreamSteps

theorem Phase.owed_le_one (p : Phase) : p.owed ≤ 1 := by cases p <;> decide

theorem Step.isWrite_eq {i : Instruction} {rest : List Instruction} (step : Step s m s')
    (agenda : s.agenda = i :: rest) : m.isWrite = i.isWrite := by
  cases step with
  | @carry e i' rest' own =>
      obtain ⟨rfl, rfl⟩ := List.cons.inj agenda
      cases i' <;> first | rfl | simp [Instruction.isAsk] at own
  | @answer e a rest' r =>
      obtain ⟨rfl, rfl⟩ := List.cons.inj agenda
      cases a <;> rfl
  | begin next => cases agenda
  | call next => cases agenda

/-- Of what is to be told or written a quiet move carries out what stands first, and the
rest stays on the agenda. -/
theorem Quiet.countP_add {p : Instruction → Bool} (hot : ∀ i, p i = true → i.isHot = true)
    (standing : Open s ∨ ∀ i ∈ s.agenda, p i = false) (quiet : Quiet s m s') :
    s'.agenda.countP p + (if s.agenda.head?.any p then 1 else 0) = s.agenda.countP p := by
  have cool : ∀ i, i.isHot = false → p i = false := by
    intro i hi
    cases hp : p i with
    | false => rfl
    | true => simp [hot i hp] at hi
  obtain ⟨front, tail, heq, htail, hfront⟩ := quiet.agenda
  have hfront : front.countP p = 0 := by
    rw [List.countP_eq_zero]
    exact fun i hi => by simp [cool i (Instruction.isHot_eq_false (hfront i hi))]
  cases hagenda : s.agenda with
  | nil =>
      rw [hagenda] at htail
      obtain rfl := List.suffix_nil.1 htail
      simp [heq, hfront]
  | cons i rest =>
      rw [hagenda] at htail
      cases hline : i.isLine with
      | true =>
          obtain ⟨line, rfl⟩ := isAsk_of_isLine hline
          have hp : p (.ask (.log line)) = false := cool _ rfl
          rw [quiet.line _ rest hagenda hline]
          simp [hp]
      | false =>
          have cold : ∀ j ∈ rest, p j = false := by
            rcases standing with opened | cold
            · exact fun j hj => cool j (opened.cold hagenda hline j hj)
            · exact fun j hj => cold j (by simp [hagenda, hj])
          have hrest : rest.countP p = 0 := by
            rw [List.countP_eq_zero]
            exact fun j hj => by simp [cold j hj]
          have htail : tail.countP p = 0 := by
            rw [List.countP_eq_zero]
            exact fun j hj => by simp [cold j (htail.mem hj)]
          cases hp : p i <;> simp [heq, hfront, htail, hrest, hp]

theorem writes_quiet (standing : Open s ∨ ∀ i ∈ s.agenda, i.isWrite = false)
    (step : Step s m s') (quiet : Quiet s m s') :
    writes s'.agenda + (if m.isWrite then 1 else 0) = writes s.agenda := by
  have hm : m.isWrite = s.agenda.head?.any Instruction.isWrite := by
    cases hagenda : s.agenda with
    | nil =>
        obtain ⟨e, agenda⟩ := s
        subst hagenda
        cases step <;> rfl
    | cons i rest => exact step.isWrite_eq hagenda
  have hot : ∀ i : Instruction, i.isWrite = true → i.isHot = true := by
    intro i hi
    cases hot : i.isHot with
    | true => rfl
    | false => simp [isWrite_of_isHot hot] at hi
  have count := quiet.countP_add hot standing
  rw [hm, writes, writes, ← count]
  split <;> simp

/-- A failure is passed on before anything was requested. -/
theorem Installing.ready_of_passesFailure {phase : Phase} {agenda : List Instruction}
    (installing : Installing h phase cursor agenda) (passes : passesFailure h = true) :
    phase = .ready := by
  cases installing with
  | nothing cold passed => simp [passed] at passes
  | line _ _ ready | channel _ ready | stream _ ready | inject ready | pass _ ready
  | passed _ ready => exact ready

/-- A response is given only to a stream that waits for one, with nothing to be
written. -/
theorem Served.owed_of_responds (served : Served o h s cursor) (serves : c.Serves)
    (permitted : c.Permits h m) (responds : m.responds h = true) :
    s.engine.stream.phase.owed = 1 ∧ unanswered h = 1 ∧ writes s.agenda = 0 := by
  have balance := served.balance
  have pending := serves.once h m permitted.1 responds
  have := s.engine.stream.phase.owed_le_one
  have := writes_nonneg s.agenda
  omega

theorem Served.attended_of_owed (served : Served o h s cursor)
    (owed : s.engine.stream.phase.owed = 1) : s.engine.stream.Attended := by
  rcases served.standing with opened | ⟨isOver, _⟩
  · rcases opened.waits with attended | ready
    · exact attended
    · simp [ready, Phase.owed] at owed
  · have terminal := isOver.terminal
    cases phase : s.engine.stream.phase <;> simp_all [Phase.isTerminal, Phase.owed]

/-- A stream that waits for a response takes it. -/
theorem Stream.exists_step_of_owed {x : Stream.Surroundings} {st : Stream} {a : Stream.Action}
    (owed : st.phase.owed = 1) (attended : st.Attended) (response : a.isResponse = true)
    (wellFormed : ∀ metadata, a = .succeed metadata → metadata.WellFormed) :
    ∃ after, st.step x a = .ok after := by
  have running : st.phase.isTerminal = false := by
    cases phase : st.phase <;> simp_all [Phase.isTerminal, Phase.owed]
  have present : st.lacksConsumer = false := by
    obtain ⟨hrecord, hsummary⟩ := attended
    simp [Stream.lacksConsumer, hrecord, hsummary]
  have ensured := Stream.ensureConsumers_eq_ok x present
  cases a with
  | fail f =>
      simp only [Stream.step, Stream.fail, ensured]
      exact ⟨_, by simp [running]; rfl⟩
  | succeed metadata =>
      obtain ⟨⟨entries, rfl⟩, -⟩ := wellFormed metadata rfl
      have field : (Value.map entries).field "has_more"
          = .ok ((Value.find? entries (.text "has_more")).getD .null) := rfl
      simp only [Stream.step, Stream.succeed, ensured, field, running, bind, Except.bind, pure,
        Except.pure]
      cases phase : st.phase with
      | streaming | cancelled => cases Value.isTrue _ <;> exact ⟨_, rfl⟩
      | _ => simp [phase, Phase.owed] at owed
  | _ => simp [Stream.Action.isResponse] at response

/-- What responds is a response, and every response responds but for a failure to
start that is passed on. -/
theorem Move.responds_iff {a : Stream.Action} {r : Reply} :
    Move.responds h (.carried (.stream a) r) = true ↔
      a.isResponse = true ∧ ((∃ f, a = .fail f) → passesFailure h = false) := by
  cases a <;> simp [Move.responds, Stream.Action.isResponse]

theorem Served.responds_eq_false (served : Served o h s cursor) (serves : c.Serves)
    (step : Step s m s') (permitted : c.Permits h m)
    (other : ∀ a next, m ≠ .carried (.stream a) (.go next)) : m.responds h = false := by
  cases responds : m.responds h with
  | false => rfl
  | true =>
      obtain ⟨owed, -, -⟩ := served.owed_of_responds serves permitted responds
      have attended := served.attended_of_owed owed
      exfalso
      cases step.turn permitted with
      | stream steps => exact other _ _ rfl
      | @refused e i rest cause sort error =>
          cases i with
          | stream a =>
              obtain ⟨response, -⟩ := Move.responds_iff.1 responds
              obtain ⟨after, hafter⟩ := Stream.exists_step_of_owed (x := e.surroundings) owed
                attended response fun metadata heq => by
                  subst heq
                  exact serves.wellFormed h metadata _ permitted.1
              have hrefused := error a rfl
              simp [hafter] at hrefused
          | _ => simp [Move.responds] at responds
      | @other e i rest stream pipe own next =>
          cases i with
          | stream a => simp [Instruction.isStream] at stream
          | _ => simp [Move.responds] at responds
      | _ => simp [Move.responds] at responds

theorem balance_step (served : Served o h s cursor) (serves : c.Serves) (step : Step s m s')
    (permitted : c.Permits h m) :
    unanswered (m :: h) + writes s'.agenda = s'.engine.stream.phase.owed := by
  have balance := served.balance
  rcases step.stream_or_quiet permitted with ⟨a, rest, next, effects, stream⟩ | ⟨other, quiet⟩
  · have owed := stream.owed
    have hwrite := stream.isWrite
    cases responds : m.responds h with
    | true =>
        obtain ⟨-, pending, cold⟩ := served.owed_of_responds serves permitted responds
        have response : a.isResponse = true := by
          rw [stream.move] at responds
          exact (Move.responds_iff.1 responds).1
        have hun : unanswered (m :: h) = unanswered h - 1 := by
          simp [unanswered, hwrite, responds]
        rw [if_pos response] at owed
        omega
    | false =>
        have hun : unanswered (m :: h) = unanswered h := by
          simp [unanswered, hwrite, responds]
        cases response : a.isResponse with
        | false =>
            rw [if_neg (by simp [response])] at owed
            omega
        | true =>
            -- a response that answers nothing is the failure that the cursor passes on
            have ready : s.engine.stream.phase = .ready := by
              refine served.installing.ready_of_passesFailure ?_
              rw [stream.move] at responds
              cases hpass : passesFailure h with
              | true => rfl
              | false => simp [Move.responds_iff.2 ⟨response, fun _ => hpass⟩] at responds
            have : s.engine.stream.phase.owed = 0 := by rw [ready]; rfl
            rw [if_pos response] at owed
            omega
  · have hresponds := served.responds_eq_false serves step permitted other
    have hwrites := writes_quiet (served.standing.imp_right And.right) step quiet
    have hphase : s'.engine.stream.phase.owed = s.engine.stream.phase.owed := by
      rw [quiet.stream]
    have hun : unanswered (m :: h) = unanswered h + if m.isWrite then 1 else 0 := by
      simp [unanswered, hresponds]
    omega

theorem Served.step (served : Served o h s cursor) (serves : c.Serves) (step : Step s m s')
    (permitted : c.Permits h m) : ∃ next, Served o (m :: h) s' next := by
  obtain ⟨next, attached⟩ := served.toAttached.step (.of_overCursor serves.calls) step permitted
  exact ⟨next, { attached with balance := balance_step served serves step permitted }⟩

/-- Every run from where nothing was asked has its requests in balance. -/
theorem Run.served {e : Engine} (begun : e.Begun o) (serves : c.Serves)
    (run : Run c ⟨e, []⟩ h s) : ∃ cursor, Served o h s cursor := by
  refine run.invariant (I := fun h s => ∃ cursor, Served o h s cursor) ?_ ?_
  · obtain ⟨cursor, attached⟩ := begun.attached
    refine ⟨cursor, { attached with balance := ?_ }⟩
    simp [begun.stream, Stream.fresh, unanswered, writes, Phase.owed]
  · rintro h s s' m ⟨cursor, served⟩ step permitted
    exact served.step serves step permitted

end Steps

end QueryStream
