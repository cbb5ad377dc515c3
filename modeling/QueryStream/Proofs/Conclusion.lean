/-
  Proofs/Conclusion.lean --- what consumers are told of the end.

  A stream that has ended tells its owner, then reads the summary, and then tells both its
  consumers: of the summary if it could be read, of an empty one and the failure otherwise
  (`Ending.Reads`).  In front of that stands only what the owner is told with, which lets
  nothing past it; so both are told once, and the outcome of the cursor is resolved
  (`Run.concluded`).

  A summary that cannot be read for any other reason than that it is against the protocol is
  refused instead.  Then nobody is told and the outcome stays as it is, although the stream
  is over.
-/
import QueryStream.Proofs.Cursor.Valediction
import QueryStream.Proofs.Requests.Outcome

set_option autoImplicit false

namespace QueryStream

/-! ## What is told -/

/-- What was read in a history when consumers were about to be told. -/
def ReadIn (c : Conduct) (start : Situation) (h : List Move) (r : Ending) (summary : Summary)
    (f : Option Failure) : Prop :=
  ∃ later earlier s₁, h = later ++ earlier ∧ Run c start earlier s₁ ∧
    s₁.agenda.head? = some r.conclusion ∧ r.Reads s₁.engine.surroundings summary f

/-- The summary consumer that a move tells of the end, with the summary and the failure if
there is one. -/
def Move.summaryTold? : Move → Option (SummaryConsumer × Summary × Option Failure)
  | .carried (.tellSummary sc (some summary) f) _ => some (sc, summary, f)
  | _ => none

/-- The summary consumers that were told of the end in a history, latest first. -/
def summariesTold (h : List Move) : List (SummaryConsumer × Summary × Option Failure) :=
  h.filterMap Move.summaryTold?

/-- Nobody was told of the end. -/
structure Silent (h : List Move) : Prop where
  ends : endsTold h = []
  summaries : summariesTold h = []

/-- Whether an instruction tells a consumer of the end. -/
def Instruction.tellsEnd : Instruction → Bool
  | .tellEnd _ _ => true
  | .tellSummary _ summary _ => summary.isSome
  | _ => false

/-- Whether an instruction is what is left of a response that ended a stream. -/
def Instruction.isSequel : Instruction → Bool
  | .stream (.settle _ _ _) => true
  | .stream (.conclude _) => true
  | .stream (.concludeFailure _) => true
  | _ => false

/-- From the response that ended a stream to where both consumers were told of it. -/
inductive Finale (c : Conduct) (start : Situation) (o : PromiseId) (r : Ending) (h : List Move)
    (s : Situation) : Prop
  /-- a success is not settled yet -/
  | deciding {metadata : Value} (before : Phase) (more : Bool) (rest : List Instruction)
      (agenda : s.agenda = .stream (.settle before more metadata) :: rest)
      (succeeded : s.engine.stream.phase = .succeeded) (attended : s.engine.stream.Attended)
      (same : r = .success metadata) (silent : Silent h) : Finale c start o r h s
  /-- the owner is being told -/
  | concluding (before rest : List Instruction) (agenda : s.agenda = before ++ r.conclusion :: rest)
      (terminal : s.engine.stream.phase.isTerminal = true)
      (attended : s.engine.stream.Attended)
      (shield : Shield (fun i => i.isErrand = true) before)
      (plain : ∀ i ∈ before, i.isSequel = false) (silent : Silent h) : Finale c start o r h s
  /-- the cursor is to be told next -/
  | telling (rc : RecordConsumer) (summary : Summary) (f : Option Failure)
      (rest : List Instruction)
      (agenda : s.agenda = [.tellSummary (.cursor 0) (some summary) f] ++ .tellEnd rc f :: rest)
      (isOver : s.engine.stream.Over) (cold : ∀ i ∈ rest, i.isHot = false)
      (read : ReadIn c start h r summary f) (silent : Silent h) : Finale c start o r h s
  /-- the cursor was told, and the record consumer is to be told next -/
  | parting (rc : RecordConsumer) (summary : Summary) (f : Option Failure)
      (before rest : List Instruction) (agenda : s.agenda = before ++ .tellEnd rc f :: rest)
      (isOver : s.engine.stream.Over) (parting : Parting o s.engine f before)
      (quiet : ∀ i ∈ before, i.isTelling = false) (cold : ∀ i ∈ rest, i.isHot = false)
      (read : ReadIn c start h r summary f) (ends : endsTold h = [])
      (summaries : summariesTold h = [(.cursor 0, summary, f)]) : Finale c start o r h s
  | concluded (rc : RecordConsumer) (summary : Summary) (f : Option Failure)
      (isOver : s.engine.stream.Over) (done : s.engine.loop.isDone o = true)
      (cold : ∀ i ∈ s.agenda, i.isHot = false) (read : ReadIn c start h r summary f)
      (ends : endsTold h = [(rc, f)])
      (summaries : summariesTold h = [(.cursor 0, summary, f)]) : Finale c start o r h s

/-- The stream is running and nobody was told of its end, or one response ended it and, if
that is well-formed, both consumers are told of it. -/
inductive Concludes (c : Conduct) (start : Situation) (o : PromiseId) (h : List Move)
    (s : Situation) : Prop
  | running (running : s.engine.stream.phase.isTerminal = false) (unended : endings h = [])
      (silent : Silent h) : Concludes c start o h s
  | ended (r : Ending) (terminal : s.engine.stream.phase.isTerminal = true)
      (one : endings h = [r]) (finale : r.WellFormed → Finale c start o r h s) :
      Concludes c start o h s

section Steps

variable {c : Conduct} {start : Situation} {o : PromiseId} {h : List Move} {s s' : Situation}
  {m : Move} {cursor : Cursor} {rest : List Instruction} {r : Ending} {summary : Summary}
  {f : Option Failure}

theorem summariesTold_cons (m : Move) (h : List Move) :
    summariesTold (m :: h) = m.summaryTold?.toList ++ summariesTold h := by
  unfold summariesTold
  cases hm : m.summaryTold? <;> simp [hm]

theorem ReadIn.cons (read : ReadIn c start h r summary f) :
    ReadIn c start (m :: h) r summary f := by
  obtain ⟨later, earlier, s₁, rfl, run, head, reads⟩ := read
  exact ⟨m :: later, earlier, s₁, rfl, run, head, reads⟩

theorem Step.tells_nobody (step : Step s m s')
    (head : ∀ i rest, s.agenda = i :: rest → i.tellsEnd = false) :
    endsTold (m :: h) = endsTold h ∧ summariesTold (m :: h) = summariesTold h := by
  refine ⟨endsTold_of_clear step fun i rest hagenda rc f heq => ?_, ?_⟩
  · have plain := head i rest hagenda
    rw [heq] at plain
    cases plain
  · have silent : m.summaryTold? = none := by
      unfold Move.summaryTold?
      split
      · obtain ⟨rest, hagenda⟩ := step.head_of_carried
        cases head _ rest hagenda
      · rfl
    rw [summariesTold_cons, silent]
    rfl

theorem Silent.step (silent : Silent h) (step : Step s m s')
    (head : ∀ i rest, s.agenda = i :: rest → i.tellsEnd = false) : Silent (m :: h) := by
  obtain ⟨ends, summaries⟩ := step.tells_nobody (h := h) head
  exact ⟨ends.trans silent.ends, summaries.trans silent.summaries⟩

theorem Instruction.tellsEnd_eq_false {i : Instruction} (quiet : i.isTelling = false) :
    i.tellsEnd = false := by
  cases i with
  | tellEnd | tellSummary => cases quiet
  | _ => rfl

theorem Instruction.tellsEnd_of_cold {i : Instruction} (cold : i.isHot = false) :
    i.tellsEnd = false := by
  cases i with
  | tellEnd | tellSummary => cases cold
  | _ => rfl

/-- Nothing on the agenda of an open situation tells of the end. -/
theorem Open.tellsEnd (opened : Open s) {i : Instruction} (hi : i ∈ s.agenda) :
    i.tellsEnd = false := by
  have fits := opened.fits i hi
  cases i with
  | tellEnd rc f => exact (fits rfl).2.elim
  | tellSummary sc summary f =>
      obtain ⟨-, rfl, -⟩ := (fits rfl).2
      rfl
  | _ => rfl

theorem Silent.of_open (silent : Silent h) (opened : Open s) (step : Step s m s') :
    Silent (m :: h) :=
  silent.step step fun i rest head => opened.tellsEnd (by simp [head])

theorem Stream.Steps.of_terminal {x : Stream.Surroundings} {st st' : Stream} {a : Stream.Action}
    {effects : List Stream.Effect} (steps : Stream.Steps x st a st' effects)
    (terminal : st.phase.isTerminal = true) (attended : st.Attended)
    (plain : (Instruction.stream a).isSequel = false) :
    st'.Attended ∧ ∀ effect ∈ effects, (Instruction.ofStream effect).isSequel = false := by
  cases steps with
  | installRecord free => simp [Stream.Attended, free] at attended
  | installSummary free => simp [Stream.Attended, free] at attended
  | settleSucceeded | flush | rest | settleOther | conclude | concludeRefused | concludeFailure =>
      cases plain
  | succeed _ running _ _ | fail _ _ running => simp [running] at terminal
  | pull _ _ phase | join _ _ phase | discard _ phase | giveUp _ phase | endBatch _ phase _ _
  | discardAgain _ phase _ _ => simp [phase, Phase.isTerminal] at terminal
  | _ => exact ⟨attended, by simp [Instruction.ofStream, Instruction.isSequel]⟩

/-- What is no sequel of the end brings none about, once the stream is over. -/
theorem Step.of_terminal (step : Step s m s') (permitted : c.Permits h m)
    (terminal : s.engine.stream.phase.isTerminal = true) (attended : s.engine.stream.Attended)
    (head : ∀ i rest, s.agenda = i :: rest → i.isSequel = false) :
    s'.engine.stream.Attended ∧ ∀ j ∈ m.next, j.isSequel = false := by
  rcases step.stream_or_quiet permitted with ⟨a, rest, after, effects, stream⟩ | ⟨-, quiet⟩
  · obtain ⟨attended', plain⟩ :=
      stream.steps.of_terminal terminal attended (head _ rest stream.head)
    refine ⟨by rwa [stream.engine], fun j hj => ?_⟩
    rw [stream.move] at hj
    obtain ⟨effect, mem, rfl⟩ := List.mem_map.1 hj
    exact plain effect mem
  · refine ⟨by rwa [quiet.stream], fun j hj => ?_⟩
    have undriven := quiet.next j hj
    cases j with
    | stream a => cases a <;> first | rfl | cases undriven
    | _ => rfl

theorem finale_of_stops (attached : Attached o h s cursor)
    (running : s.engine.stream.phase.isTerminal = false) (stops : Stops s s' rest r)
    (terminal : s'.engine.stream.phase.isTerminal = true) (silent : Silent (m :: h)) :
    Finale c start o r (m :: h) s' := by
  have waits := (attached.open_of_running running).waits
  cases stops with
  | success before more present head engine agenda =>
      have attended := Stream.attended_of_present waits present
      refine .deciding before more rest agenda (by rw [engine]) ?_ rfl silent
      rw [engine]
      exact attended
  | @failure f line present head engine agenda =>
      have attended := Stream.attended_of_present waits present
      refine .concluding [.ask (.log line), .ownerFailed f] rest agenda terminal ?_
        (shield_ownerFailed line f) (by simp [Instruction.isSequel]) silent
      rw [engine]
      exact attended

theorem finale_of_deciding {before : Phase} {more : Bool} {metadata : Value}
    (wellFormed : metadata.WellFormed)
    (agenda : s.agenda = .stream (.settle before more metadata) :: rest)
    (succeeded : s.engine.stream.phase = .succeeded) (attended : s.engine.stream.Attended)
    (silent : Silent h) (step : Step s m s') (permitted : c.Permits h m) :
    Finale c start o (.success metadata) (m :: h) s' := by
  obtain ⟨engine, line, agenda'⟩ := step.of_settle permitted agenda succeeded
  obtain ⟨entries, rfl⟩ := wellFormed.1
  refine .concluding [.ask (.log line), .ownerSucceeded (.map entries)] rest agenda'
    (by rw [engine, succeeded]; rfl) (by rwa [engine]) (shield_ownerSucceeded line entries)
    (by simp [Instruction.isSequel]) ?_
  refine silent.step step fun i rest head => ?_
  rw [agenda] at head
  cases head
  rfl

/-- Once the owner was told, what ended the stream is read, and both consumers are to be told
of it. -/
theorem finale_of_conclusion (attached : Attached o h s cursor) (run : Run c start h s)
    (wellFormed : r.WellFormed) (agenda : s.agenda = r.conclusion :: rest)
    (terminal : s.engine.stream.phase.isTerminal = true)
    (attended : s.engine.stream.Attended) (silent : Silent h) (step : Step s m s')
    (permitted : c.Permits h m) : Finale c start o r (m :: h) s' := by
  have opened := attached.open_of_attended attended
  obtain ⟨rc, hrc⟩ := Option.isSome_iff_exists.1 attended.1
  obtain ⟨sc, hsc⟩ := Option.isSome_iff_exists.1 attended.2
  obtain rfl := attached.attendant sc hsc
  obtain ⟨a, summary, f, stream, reads⟩ := step.of_conclusion permitted wellFormed agenda
  have ends := Stream.ends_of_attended attended terminal summary f
  refine .telling rc summary f rest ?_ ?_ (opened.cold stream.head rfl) ?_
    (silent.of_open opened step)
  · rw [stream.agenda, Stream.ofStream_endEffects hrc hsc]
    rfl
  · rw [stream.engine]
    exact ends.over
  · exact ⟨[m], h, s, rfl, run, by rw [agenda]; rfl, reads⟩

/-- While the owner is being told, the telling of the end stays on the agenda. -/
theorem finale_of_concluding {i : Instruction} {before : List Instruction}
    (attached : Attached o h s cursor) (errands : c.Errands)
    (agenda : s.agenda = i :: (before ++ r.conclusion :: rest))
    (terminal : s.engine.stream.phase.isTerminal = true)
    (attended : s.engine.stream.Attended)
    (shield : Shield (fun i => i.isErrand = true) (i :: before))
    (plain : ∀ j ∈ i :: before, j.isSequel = false) (silent : Silent h) (step : Step s m s')
    (permitted : c.Permits h m) : Finale c start o r (m :: h) s' := by
  have opened := attached.open_of_attended attended
  obtain ⟨before', agenda', shield', source⟩ :=
    step.of_shield permitted (mild_isErrand errands _) agenda shield
  obtain ⟨attended', brought⟩ := step.of_terminal permitted terminal attended fun j rest' head => by
    rw [agenda] at head
    obtain ⟨rfl, -⟩ := List.cons.inj head
    exact plain i (by simp)
  refine .concluding before' rest agenda' (step.terminal permitted terminal) attended' shield' ?_
    (silent.of_open opened step)
  intro j hj
  rcases source j hj with hj | hj | ⟨g, th, rfl⟩
  · exact plain j (List.mem_cons_of_mem _ hj)
  · exact brought j hj
  · rfl

theorem finale_of_telling {rc : RecordConsumer} (attached : Attached o h s cursor)
    (created : o < s.engine.loop.promises.size)
    (agenda : s.agenda = [.tellSummary (.cursor 0) (some summary) f] ++ .tellEnd rc f :: rest)
    (isOver : s.engine.stream.Over) (cold : ∀ i ∈ rest, i.isHot = false)
    (read : ReadIn c start h r summary f) (silent : Silent h) (step : Step s m s') :
    Finale c start o r (m :: h) s' := by
  obtain ⟨before', agenda', parting', stream, quiet⟩ :=
    (Parting.telling summary).step attached created step agenda (by simp)
  have head : s.agenda = .tellSummary (.cursor 0) (some summary) f :: .tellEnd rc f :: rest :=
    agenda
  obtain ⟨rfl, -⟩ := step.exec_of_head head rfl
  refine .parting rc summary f before' rest agenda' (by rwa [stream]) parting' quiet cold read.cons
    ?_ ?_
  · rw [endsTold_cons, silent.ends]
    rfl
  · rw [summariesTold_cons, silent.summaries]
    rfl

theorem finale_of_tellEnd {rc : RecordConsumer} (attached : Attached o h s cursor)
    (steady : ∀ i ∈ s.agenda, i.isStray = false) (agenda : s.agenda = .tellEnd rc f :: rest)
    (isOver : s.engine.stream.Over) (done : s.engine.loop.isDone o = true)
    (cold : ∀ i ∈ rest, i.isHot = false) (read : ReadIn c start h r summary f)
    (ends : endsTold h = []) (summaries : summariesTold h = [(.cursor 0, summary, f)])
    (step : Step s m s') (permitted : c.Permits h m) : Finale c start o r (m :: h) s' := by
  obtain ⟨noRecord, noSummary⟩ :=
    takes_nothing step attached.known attached.installing isOver.terminal
  obtain ⟨isOver', next, -⟩ := step.of_over permitted isOver noRecord noSummary
  refine .concluded rc summary f isOver' ((step.onward steady).isDone done)
    (step.cold_of_tellEnd agenda next cold) read.cons ?_ ?_
  · obtain ⟨rfl, -⟩ := step.exec_of_head agenda rfl
    rw [endsTold_cons, ends]
    rfl
  · obtain ⟨rfl, -⟩ := step.exec_of_head agenda rfl
    rw [summariesTold_cons, summaries]
    rfl

/-- The outcome is being resolved, and then the record consumer is told of the end. -/
theorem finale_of_parting {rc : RecordConsumer} {before : List Instruction}
    (attached : Attached o h s cursor) (created : o < s.engine.loop.promises.size)
    (steady : ∀ i ∈ s.agenda, i.isStray = false)
    (agenda : s.agenda = before ++ .tellEnd rc f :: rest) (isOver : s.engine.stream.Over)
    (parting : Parting o s.engine f before) (quiet : ∀ i ∈ before, i.isTelling = false)
    (cold : ∀ i ∈ rest, i.isHot = false) (read : ReadIn c start h r summary f)
    (ends : endsTold h = []) (summaries : summariesTold h = [(.cursor 0, summary, f)])
    (step : Step s m s') (permitted : c.Permits h m) : Finale c start o r (m :: h) s' := by
  cases before with
  | nil =>
      cases parting with
      | resolved done =>
          exact finale_of_tellEnd attached steady agenda isOver done cold read ends summaries step
            permitted
  | cons i before =>
      obtain ⟨before', agenda', parting', stream, quiet'⟩ :=
        parting.step attached created step agenda (by simp)
      obtain ⟨ends', summaries'⟩ := step.tells_nobody (h := h) fun j rest' head => by
        rw [agenda] at head
        obtain ⟨rfl, -⟩ := List.cons.inj head
        exact Instruction.tellsEnd_eq_false (quiet i (by simp))
      exact .parting rc summary f before' rest agenda' (by rwa [stream]) parting' quiet' cold
        read.cons (ends'.trans ends) (summaries'.trans summaries)

/-- The end of a stream goes on until both consumers were told. -/
theorem Finale.step (finale : Finale c start o r h s) (attached : Attached o h s cursor)
    (created : o < s.engine.loop.promises.size) (steady : ∀ i ∈ s.agenda, i.isStray = false)
    (errands : c.Errands) (wellFormed : r.WellFormed) (run : Run c start h s)
    (step : Step s m s') (permitted : c.Permits h m) : Finale c start o r (m :: h) s' := by
  cases finale with
  | deciding before more rest agenda succeeded attended same silent =>
      subst same
      exact finale_of_deciding wellFormed agenda succeeded attended silent step permitted
  | concluding before rest agenda terminal attended shield plain silent =>
      cases before with
      | nil =>
          exact finale_of_conclusion attached run wellFormed agenda terminal attended silent step
            permitted
      | cons i before =>
          exact finale_of_concluding attached errands agenda terminal attended shield plain silent
            step permitted
  | telling rc summary f rest agenda isOver cold read silent =>
      exact finale_of_telling attached created agenda isOver cold read silent step
  | parting rc summary f before rest agenda isOver parting quiet cold read ends summaries =>
      exact finale_of_parting attached created steady agenda isOver parting quiet cold read ends
        summaries step permitted
  | concluded rc summary f isOver done cold read ends summaries =>
      obtain ⟨noRecord, noSummary⟩ :=
        takes_nothing step attached.known attached.installing isOver.terminal
      obtain ⟨isOver', -, cold'⟩ := step.of_over permitted isOver noRecord noSummary
      obtain ⟨ends', summaries'⟩ := step.tells_nobody (h := h) fun i rest head =>
        Instruction.tellsEnd_of_cold (cold i (by simp [head]))
      exact .concluded rc summary f isOver' ((step.onward steady).isDone done)
        (cold' _ (fun _ hi => hi) cold) read.cons (ends'.trans ends) (summaries'.trans summaries)

/-- Every move leaves the stream running, or one response ended it. -/
theorem Concludes.step (concludes : Concludes c start o h s) (attached : Attached o h s cursor)
    (created : o < s.engine.loop.promises.size) (steady : ∀ i ∈ s.agenda, i.isStray = false)
    (errands : c.Errands) (run : Run c start h s) (step : Step s m s')
    (permitted : c.Permits h m) : Concludes c start o (m :: h) s' := by
  have hendings := endings_cons m h
  rcases step.stops permitted with ⟨unended, same⟩ | ⟨r, rest, ended, running, terminal, stops⟩
  · rw [unended] at hendings
    cases concludes with
    | running running none silent =>
        have opened := attached.open_of_running running
        exact .running (same.trans running) (hendings.trans none) (silent.of_open opened step)
    | ended r terminal one finale =>
        refine .ended r (same.trans terminal) (hendings.trans one) fun wellFormed => ?_
        exact (finale wellFormed).step attached created steady errands wellFormed run step permitted
  · rw [ended] at hendings
    cases concludes with
    | running _ none silent =>
        have opened := attached.open_of_running running
        refine .ended r terminal (by rw [hendings, none]; rfl) fun _ => ?_
        exact finale_of_stops attached running stops terminal (silent.of_open opened step)
    | ended r' terminal' one finale => simp [running] at terminal'

/-! ## All runs over one cursor -/

theorem Run.concludes {e : Engine} (begun : e.Begun o) (sole : c.Sole) (errands : c.Errands)
    (run : Run c ⟨e, []⟩ h s) :
    (∃ cursor, Attached o h s cursor) ∧ o < s.engine.loop.promises.size ∧
      (∀ i ∈ s.agenda, i.isStray = false) ∧ Concludes c ⟨e, []⟩ o h s := by
  induction run with
  | nil =>
      refine ⟨begun.attached, begun.created, by simp, .running ?_ rfl ⟨rfl, rfl⟩⟩
      simp [begun.stream, Stream.fresh, Phase.isTerminal]
  | snoc run step permitted ih =>
      obtain ⟨⟨cursor, attached⟩, created, steady, concludes⟩ := ih
      exact ⟨attached.step sole step permitted,
        Nat.lt_of_lt_of_le created (step.onward steady).size_le,
        step.steady permitted steady,
        concludes.step attached created steady errands run step permitted⟩

/-- With nothing under way, both consumers of a stream that is over were told of its end, once
each, and the outcome of the cursor is resolved: unless the summary of what ended the stream
could not be read for another reason than that it is against the protocol. -/
theorem Run.concluded {e : Engine} (begun : e.Begun o) (sole : c.Sole) (errands : c.Errands)
    (run : Run c ⟨e, []⟩ h s) (idle : s.agenda = [])
    (terminal : s.engine.stream.phase.isTerminal = true)
    (wellFormed : ∀ r ∈ endings h, r.WellFormed) :
    ∃ r rc summary f, endings h = [r] ∧ s.engine.loop.isDone o = true ∧
      summariesTold h = [(.cursor 0, summary, f)] ∧ endsTold h = [(rc, f)] ∧
      ReadIn c ⟨e, []⟩ h r summary f := by
  obtain ⟨-, -, -, concludes⟩ := run.concludes begun sole errands
  cases concludes with
  | running running => simp [running] at terminal
  | ended r _ one finale =>
      cases finale (wellFormed r (by simp [one])) with
      | deciding _ _ _ agenda => simp [idle] at agenda
      | concluding _ _ agenda => simp [idle] at agenda
      | telling _ _ _ _ agenda => simp [idle] at agenda
      | parting _ _ _ _ _ agenda => simp [idle] at agenda
      | concluded rc summary f isOver done cold read ends summaries =>
          exact ⟨r, rc, summary, f, one, done, summaries, ends, read⟩

end Steps

/-! ## Ends that are worked out -/

/-- Nobody but a cursor gives the stream a consumer, and an owner lets nothing be thrown while
it is told. -/
def Conduct.attentive : Conduct where
  refrains i := i.attaches = true
  tame a := a.isErrand = true
  keeps _ _ := True

theorem Conduct.attentive_sole : Conduct.attentive.Sole := fun i calls => by
  simpa [attentive] using calls.2

theorem Conduct.attentive_errands : Conduct.attentive.Errands := ⟨rfl, fun _ => rfl⟩

/-- Calls that request all records, and then the response that ends the stream. -/
def endedWith (metadata : Value) : List Instruction :=
  [.cursor 0 (.install (.client 0 "records")), .cursor 0 (.request (-1)),
    .stream (.succeed metadata)]

/-- Where the end of a stream leads, with its history. -/
def endedPoint (metadata : Value) : List Move × Situation :=
  Situation.advances 40 ([.called (endedWith metadata)], ⟨soleEngine, endedWith metadata⟩)

/-- What leads there is a run.  The point is a variable of its own here: it would be worked out
otherwise, with metadata of which nothing is known. -/
theorem run_of_endedWith {metadata : Value} {point : List Move × Situation}
    (worked : point = endedPoint metadata) :
    Run .attentive ⟨soleEngine, []⟩ point.1 point.2 := by
  have made : ∀ i ∈ endedWith metadata, Conduct.attentive.Calls i := by
    intro i hi
    simp only [endedWith, List.mem_cons, List.not_mem_nil, or_false] at hi
    rcases hi with rfl | rfl | rfl <;>
      exact ⟨rfl, by simp [Conduct.attentive, Instruction.attaches]⟩
  have begun : Run .attentive ⟨soleEngine, []⟩ [.called (endedWith metadata)]
      ⟨soleEngine, endedWith metadata⟩ := Run.nil.call rfl made trivial
  exact begun.advances_to 40 worked (Conduct.keepsAll_of_forall (fun _ _ => trivial) _)

/-- Metadata with a query type that is against the protocol. -/
def oddType : Value := .map [(.text "type", .text "x")]

theorem wellFormed_oddType : oddType.WellFormed := by
  refine ⟨⟨_, rfl⟩, fun query server availableAfter cause refused => ?_⟩
  obtain rfl : Cause.queryTypeUnknown "x" = cause := Except.error.inj refused
  rfl

theorem concluded_oddType :
    (∃ r rc summary f, endings (endedPoint oddType).1 = [r] ∧
      (endedPoint oddType).2.engine.loop.isDone 0 = true ∧
      summariesTold (endedPoint oddType).1 = [(.cursor 0, summary, f)] ∧
      endsTold (endedPoint oddType).1 = [(rc, f)] ∧
      ReadIn .attentive ⟨soleEngine, []⟩ (endedPoint oddType).1 r summary f) ∧
    (endedPoint oddType).2.agenda = [] ∧
      endsTold (endedPoint oddType).1
        = [(.client 0 "records", some (.arising (.queryTypeUnknown "x")))] := by
  have ended : endings (endedPoint oddType).1 = [.success oddType] := rfl
  have wellFormed : ∀ r ∈ endings (endedPoint oddType).1, r.WellFormed := by
    intro r hr
    rw [ended] at hr
    rw [List.mem_singleton.1 hr]
    exact wellFormed_oddType
  have run : Run .attentive ⟨soleEngine, []⟩ (endedPoint oddType).1 (endedPoint oddType).2 :=
    run_of_endedWith rfl
  exact ⟨run.concluded secluded_soleEngine.toBegun Conduct.attentive_sole
    Conduct.attentive_errands rfl rfl wellFormed, rfl, rfl⟩

/-- Metadata with a time that is no number. -/
def garbledTime : Value := .map [(.text "t_last", .text "abc")]

/-- The time cannot be read, which is not against the protocol: the stream is over, nobody was
told, and the outcome of the cursor is still open. -/
theorem unread_garbledTime :
    Run .attentive ⟨soleEngine, []⟩ (endedPoint garbledTime).1 (endedPoint garbledTime).2 ∧
      (endedPoint garbledTime).2.agenda = [] ∧
      (endedPoint garbledTime).2.engine.stream.phase = .succeeded ∧
      endings (endedPoint garbledTime).1 = [.success garbledTime] ∧
      Silent (endedPoint garbledTime).1 ∧
      (endedPoint garbledTime).2.engine.loop.isDone 0 = false :=
  ⟨run_of_endedWith rfl, rfl, rfl, rfl, ⟨rfl, rfl⟩, rfl⟩

end QueryStream
