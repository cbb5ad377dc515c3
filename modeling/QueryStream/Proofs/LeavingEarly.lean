/-
  Proofs/LeavingEarly.lean --- an iteration that is left gives up its stream.

  An iteration can be closed between two records, and it is left when something is thrown while
  a record is waited for: a failure, or the cancellation of the task that reads.  Either way it
  gives up the stream before the closing comes to its end and before any control is handed out.
  From then on the stream is given up or over, whatever follows (`Run.leavesEarly`).  An iteration
  that was told of the end is closed too when it reads that, and its stream is over by then.

  An iteration of which nothing was read is closed without more.  The stream is not given up then,
  although the cursor took the iteration for its records before handing it out.

  Giving up is not refused: who was handed the iteration can rely on a cursor that has taken a
  record consumer (`Handing`), and on a stream that has one (`Furnished`).
-/
import QueryStream.Proofs.Cursor.Valediction
import QueryStream.Proofs.Engine.Tending
import QueryStream.Proofs.Reading

set_option autoImplicit false

namespace QueryStream

/-- Whether an instruction gives up the stream of the cursor, or leads to that. -/
def Instruction.givesUp : Instruction → Bool
  | .cursor 0 .cancel => true
  | .channel .cancel => true
  | .stream .cancel => true
  | _ => false

/-- Giving up the stream is what is done next, lines of the log aside. -/
def GivesUpNext (agenda : List Instruction) : Prop :=
  ∃ i rest, pastLines agenda = i :: rest ∧ i.givesUp = true

/-- A stream was given up, or is over. -/
def Stream.GivenUp (st : Stream) : Prop := st.phase = .cancelled ∨ st.phase.isTerminal = true

/-- An iteration was handed out. -/
def HandedOut (k : IterationId) (h : List Move) : Prop :=
  ∃ receiver r, .carried (.handIteration receiver k) r ∈ h

/-- The iteration that an instruction hands out. -/
def Instruction.handsOut? : Instruction → Option IterationId
  | .handIteration _ k => some k
  | _ => none

/-- Whether a move hands out an iteration. -/
def Move.handsOut (k : IterationId) : Move → Bool
  | .carried (.handIteration _ k') _ => k' == k
  | _ => false

theorem handedOut_iff {k : IterationId} {h : List Move} :
    HandedOut k h ↔ h.any (Move.handsOut k) = true := by
  rw [List.any_eq_true]
  constructor
  · rintro ⟨receiver, r, mem⟩
    exact ⟨_, mem, beq_self_eq_true k⟩
  · rintro ⟨m, mem, hands⟩
    unfold Move.handsOut at hands
    split at hands
    · exact ⟨_, _, eq_of_beq hands ▸ mem⟩
    · cases hands

instance (k : IterationId) (h : List Move) : Decidable (HandedOut k h) :=
  decidable_of_iff _ handedOut_iff.symm

/-- A move closes an iteration. -/
structure Closes (k : IterationId) (it : Iteration) (s : Situation) (m : Move) (s' : Situation) :
    Prop where
  step : Step s m s'
  found : s.engine.iterations[k]? = some it
  unclosed : it.phase ≠ .closed
  closed : ∀ it', s'.engine.iterations[k]? = some it' → it'.phase = .closed

/-- A stream is given up, at the latest when what closes the iteration comes to its end. -/
structure Abandons (s : Situation) : Prop where
  next : s.engine.stream.GivenUp ∨ GivesUpNext s.agenda
  /-- the task that closes the iteration ends -/
  complete : ∀ t d rest, s.agenda = .finish t d :: rest → s.engine.stream.GivenUp
  /-- what left the iteration goes on -/
  thrown : ∀ th rest, s.agenda = .throw th :: rest → s.engine.stream.GivenUp
  idle : s.agenda = [] → s.engine.stream.GivenUp

/-- What becomes of a stream after a move that closes an iteration. -/
structure LeavesEarly (k : IterationId) (it : Iteration) (s₁ : Situation) (m : Move)
    (s₂ s : Situation) : Prop where
  /-- once a record was asked for, it is given up -/
  begun : it.phase ≠ .fresh → Abandons s
  /-- before that, closing the iteration comes to its end with the stream as it was -/
  unbegun : ∀ t r, m = .carried (.iteration k t .close) r → it.phase = .fresh →
    s₂.engine.stream = s₁.engine.stream ∧ ∃ rest, s₂.agenda = .finish t .nothing :: rest

section Steps

variable {c : Conduct} {o : PromiseId} {h : List Move} {s s' : Situation} {m : Move}
  {cursor next : Cursor} {k : IterationId} {it : Iteration}

/-! ## The consumers of the stream -/

/-- The stream takes a record consumer next, lines of the log aside. -/
def TakesNext (agenda : List Instruction) : Prop :=
  ∃ i rest rc, pastLines agenda = i :: rest ∧ i.taken? = some rc

/-- A stream that goes on has its summary consumer; and it has its record consumer, or takes it
next, once the cursor has taken one. -/
structure Furnished (s : Situation) (cursor : Cursor) : Prop where
  summarized : s.engine.stream.summaryConsumer.isSome = true ∨
    s.engine.stream.phase.isTerminal = true
  present : cursor.status ≠ .notInstalled →
    s.engine.stream.lacksConsumer = false ∨ TakesNext s.agenda

theorem Attached.summarized_step (attached : Attached o h s cursor) (step : Step s m s')
    (permitted : c.Permits h m) (summarized : s.engine.stream.summaryConsumer.isSome = true ∨
      s.engine.stream.phase.isTerminal = true) :
    s'.engine.stream.summaryConsumer.isSome = true ∨
      s'.engine.stream.phase.isTerminal = true := by
  rcases summarized with there | terminal
  · obtain ⟨sc, hsc⟩ := Option.isSome_iff_exists.1 there
    rcases step.stream_or_quiet permitted with ⟨a, rest, after, effects, stream⟩ | ⟨_, quiet⟩
    · rw [stream.engine]
      rcases attached.standing with opened | ⟨isOver, _⟩
      · have fits := opened.fits (.stream a) (by simp [stream.head])
        rcases stream.steps.continues_or_ends opened.waits fits with continues | ends
        · exact .inl (by simp [continues.summaries hsc])
        · exact .inr ends.over.terminal
      · exact .inr (stream.steps.terminal isOver.terminal)
    · rw [quiet.stream]
      exact .inl there
  · exact .inr (step.terminal permitted terminal)

theorem Stream.lacksConsumer_of_held {st : Stream} (held : st.recordConsumer.isSome = true)
    (summarized : st.summaryConsumer.isSome = true ∨ st.phase.isTerminal = true) :
    st.lacksConsumer = false := by
  rcases summarized with there | terminal
  · obtain ⟨rc, hrc⟩ := Option.isSome_iff_exists.1 held
    obtain ⟨sc, hsc⟩ := Option.isSome_iff_exists.1 there
    simp [lacksConsumer, hrc, hsc]
  · exact lacksConsumer_of_isTerminal terminal

/-- A stream that takes a record consumer next does so. -/
theorem Furnished.taking (furnished : Furnished s cursor) (attached : Attached o h s cursor)
    (takes : TakesNext s.agenda) (step : Step s m s') (permitted : c.Permits h m) :
    s'.engine.stream.lacksConsumer = false ∨ TakesNext s'.agenda := by
  obtain ⟨i, rest, rc, first, taken⟩ := takes
  rcases step.pastLines_or_head permitted first with ⟨-, -, first⟩ | head
  · exact .inr ⟨i, rest, rc, first, taken⟩
  · unfold Instruction.taken? at taken
    split at taken
    · rename_i consumer
      obtain ⟨-, rfl⟩ := step.exec_of_head head rfl
      refine .inr ⟨.stream (.installRecord consumer), rest, consumer, ?_, rfl⟩
      simp only [Engine.exec, attached.hasStream, if_true, Engine.goOn, Reply.onto_go]
      rfl
    · obtain ⟨-, rfl⟩ := step.exec_of_head head rfl
      left
      simp only [Engine.exec, Engine.stepStream, Stream.step]
      split
      · rename_i accepted
        split at accepted
        · cases accepted
        · cases accepted
          exact Stream.lacksConsumer_of_held rfl furnished.summarized
      · rename_i refused
        split at refused
        · rename_i held
          exact Stream.lacksConsumer_of_held held furnished.summarized
        · cases refused
    · cases taken

theorem Furnished.step (furnished : Furnished s cursor) (attached : Attached o h s cursor)
    (step : Step s m s') (permitted : c.Permits h m) (hnext : s'.engine.cursors = #[next]) :
    Furnished s' next := by
  refine ⟨attached.summarized_step step permitted furnished.summarized, fun taken => ?_⟩
  by_cases free : cursor.status = .notInstalled
  · rcases attached.cursor_or_eq step permitted hnext with ⟨a, rest, effects, takes⟩ | rfl
    · obtain same | ⟨consumer, rfl, -, -⟩ := takes.steps.status
      · exact absurd (same.trans free) taken
      · have steps := takes.steps
        cases steps with
        | ignoreInstall _ installed => exact absurd free installed
        | install line unconsumed _ =>
            exact .inr ⟨.channel (.installRecord consumer), _, consumer, by
              rw [takes.agenda]; rfl, rfl⟩
    · exact absurd free taken
  · rcases furnished.present free with present | takes
    · exact .inl (attached.present_step step permitted present)
    · exact furnished.taking attached takes step permitted

/-! ## Handing out an iteration -/

/-- How far it has come with handing out an iteration of the cursor. -/
inductive Handing (k : IterationId) (h : List Move) (s : Situation) (cursor : Cursor) : Prop
  | unhanded (kept : ¬ HandedOut k h) (clear : ∀ receiver, .handIteration receiver k ∉ s.agenda)
  /-- it is handed out once the cursor took it for the records -/
  | due {warnings : List String} {receiver : Receiver} {rest : List Instruction}
      (kept : ¬ HandedOut k h)
      (agenda : s.agenda = warnings.map (fun text => .ask (.warn text)) ++
        .cursor 0 (.install (.feed k)) :: .handIteration receiver k :: rest)
      (clear : ∀ receiver, .handIteration receiver k ∉ rest)
  | taken (status : cursor.status ≠ .notInstalled)
  /-- it is none of the cursor's -/
  | elsewhere {it : Iteration} (found : s.engine.iterations[k]? = some it)
      (other : it.cursor ≠ 0)

theorem not_handedOut_cons (kept : ¬ HandedOut k h)
    (other : ∀ receiver r, m ≠ .carried (.handIteration receiver k) r) :
    ¬ HandedOut k (m :: h) := by
  rintro ⟨receiver, r, mem⟩
  rcases List.mem_cons.1 mem with same | mem
  · exact other receiver r same.symm
  · exact kept ⟨receiver, r, mem⟩

/-- What hands out an iteration comes of asking for the records of a result; the iteration is the
next one to be made. -/
theorem Engine.Leads.of_handsOut? {e : Engine} {i j : Instruction} (leads : e.Leads i j)
    (hands : j.handsOut? = some k) :
    ∃ q fetchSize former receiver, i = .records q fetchSize former receiver ∧
      j = .handIteration receiver k ∧ k = e.iterations.size := by
  cases leads with
  | reads q fetchSize former receiver =>
      obtain rfl := Option.some.inj hands
      exact ⟨q, fetchSize, former, receiver, rfl, rfl, rfl⟩
  | @stream _ _ _ effect => cases effect <;> cases hands
  | @cursor _ _ _ _ _ effect => cases effect <;> cases hands
  | iteration found effects among | left th found effects among =>
      cases Engine.puts_of_mem among <;> cases hands
  | hand q receives among => cases Engine.hands_of_mem among <;> cases hands
  | body among => cases Engine.setsOut_of_mem among <;> cases hands
  | exhausted among =>
      obtain ⟨d, rfl⟩ := Engine.finish_of_mem_exhausted among
      cases hands
  | _ => cases hands

theorem Conduct.Permits.handsOut?_outside {i : Instruction} (permitted : c.Permits h m)
    (mem : i ∈ m.outside) : i.handsOut? = none := by
  rcases permitted.outside mem with calls | ⟨t, rfl⟩ | ⟨t, rfl⟩
  · have call := calls.1
    cases i <;> first | rfl | cases call
  · rfl
  · rfl

/-- An iteration comes to be handed out where the records of a result are asked for. -/
theorem Step.of_handing {receiver : Receiver} (step : Step s m s') (permitted : c.Permits h m)
    (mem : .handIteration receiver k ∈ s'.agenda) :
    .handIteration receiver k ∈ s.agenda.tail ∨ ∃ q fetchSize former rest,
      s.agenda = .records q fetchSize former receiver :: rest ∧ k = s.engine.iterations.size := by
  cases step.origin mem with
  | behind mem => exact .inl mem
  | outside mem => cases permitted.handsOut?_outside mem
  | job began leads => cases leads
  | caught g th same => cases same
  | @led i rest head leads =>
      obtain ⟨q, fetchSize, former, receiver', rfl, same, made⟩ := leads.of_handsOut? rfl
      obtain ⟨rfl, -⟩ := Instruction.handIteration.inj same
      exact .inr ⟨q, fetchSize, former, rest, head, made⟩

/-- The records that are asked for come with an iteration, which the cursor takes before it is
handed out. -/
theorem Engine.startRecords_of_mem {e : Engine} {q : ResultId} {fetchSize former : Value}
    {receiver receiver' : Receiver}
    (mem : .handIteration receiver' k ∈ (e.startRecords q fetchSize former receiver).2.next) :
    ∃ (result : QueryResult) (size : FetchSize) (warnings : List String),
      (e.startRecords q fetchSize former receiver).1.iterations
        = e.iterations.push (.ofCursor result.cursor size) ∧
      (e.startRecords q fetchSize former receiver).2
        = .go (warnings.map (fun text => .ask (.warn text)) ++
          [.cursor result.cursor (.install (.feed e.iterations.size)),
            .handIteration receiver e.iterations.size]) := by
  unfold startRecords at mem ⊢
  split at mem
  · cases mem
  · rename_i result found
    rcases hstart : result.start fetchSize former with ⟨warning, chosen⟩
    rw [hstart] at mem
    cases chosen with
    | error cause =>
        simp [goOn] at mem
    | ok size =>
        exact ⟨result, size, warning.toList, by simp, by simp⟩

theorem Step.cursor_eq (step : Step s m s') (found : s.engine.iterations[k]? = some it) :
    ∃ it', s'.engine.iterations[k]? = some it' ∧ it'.cursor = it.cursor := by
  obtain ⟨it', found', tended⟩ := step.tended found
  refine ⟨it', found', ?_⟩
  cases tended with
  | apart | record | ended => rfl
  | stepped => exact it.cursor_step _
  | left =>
      obtain ⟨awaited, left⟩ := it.exists_leave
      rw [left]

theorem Handing.of_unhanded (kept : ¬ HandedOut k h)
    (clear : ∀ receiver, .handIteration receiver k ∉ s.agenda) (step : Step s m s')
    (permitted : c.Permits h m) : Handing k (m :: h) s' next := by
  have kept' : ¬ HandedOut k (m :: h) := not_handedOut_cons kept fun receiver r same => by
    subst same
    obtain ⟨rest, head⟩ := step.head_of_carried
    exact clear receiver (by simp [head])
  by_cases handing : ∃ receiver, .handIteration receiver k ∈ s'.agenda
  · obtain ⟨receiver, mem⟩ := handing
    rcases step.of_handing permitted mem with mem | ⟨q, fetchSize, former, rest, head, rfl⟩
    · exact absurd (List.mem_of_mem_tail mem) (clear receiver)
    · have behind : ∀ receiver, .handIteration receiver s.engine.iterations.size ∉ rest :=
        fun receiver mem => clear receiver (by simp [head, mem])
      obtain ⟨-, rfl⟩ := step.exec_of_head head rfl
      have mem : .handIteration receiver s.engine.iterations.size
          ∈ (s.engine.startRecords q fetchSize former receiver).2.next := by
        rcases Reply.mem_onto mem with mem | mem | ⟨g, th, same⟩
        · exact absurd mem (behind receiver)
        · exact mem
        · cases same
      obtain ⟨result, size, warnings, iterations, reply⟩ := Engine.startRecords_of_mem mem
      by_cases own : result.cursor = 0
      · refine @Handing.due _ _ _ _ warnings receiver rest kept' ?_ behind
        simp [Engine.exec, reply, own]
      · refine @Handing.elsewhere _ _ _ _ (.ofCursor result.cursor size) ?_ own
        simp [Engine.exec, iterations]
  · exact .unhanded kept' fun receiver mem => handing ⟨receiver, mem⟩

theorem Attached.taken_step (attached : Attached o h s cursor) (step : Step s m s')
    (permitted : c.Permits h m) (hnext : s'.engine.cursors = #[next])
    (status : cursor.status ≠ .notInstalled) : next.status ≠ .notInstalled := by
  rcases attached.status_step step permitted hnext with same | ⟨consumer, rest, free, -, -⟩
  · rwa [same]
  · exact absurd free status

/-- A cursor takes an iteration for the records before it is handed out, or it is not handed
out. -/
theorem Handing.of_install {receiver : Receiver} {rest : List Instruction}
    (kept : ¬ HandedOut k h) (attached : Attached o h s cursor) (step : Step s m s')
    (permitted : c.Permits h m) (hnext : s'.engine.cursors = #[next])
    (head : s.agenda = .cursor 0 (.install (.feed k)) :: .handIteration receiver k :: rest)
    (clear : ∀ receiver, .handIteration receiver k ∉ rest) : Handing k (m :: h) s' next := by
  by_cases free : cursor.status = .notInstalled
  · cases consumed : cursor.isConsumed with
    | false =>
        refine .taken ?_
        rw [step.status_of_install attached head consumed free hnext]
        exact ConsumerStatus.ofConsumer_ne _
    | true =>
        have refused := attached.exec_install_of_consumed consumed (.feed k)
        obtain ⟨rfl, rfl⟩ := step.exec_of_head head rfl
        refine .unhanded (not_handedOut_cons kept (by simp)) fun receiver mem => ?_
        rw [refused] at mem
        -- what is thrown passes the handing out, on which there is no guard
        have mem : .handIteration receiver k ∈ (Reply.raise (.arising .resultConsumed)).onto rest :=
          mem
        rcases Reply.mem_onto mem with mem | mem | ⟨g, th, same⟩
        · exact clear receiver mem
        · cases mem
        · cases same
  · exact .taken (attached.taken_step step permitted hnext free)

theorem Handing.step (handing : Handing k h s cursor) (attached : Attached o h s cursor)
    (step : Step s m s') (permitted : c.Permits h m) (hnext : s'.engine.cursors = #[next]) :
    Handing k (m :: h) s' next := by
  cases handing with
  | unhanded kept clear => exact .of_unhanded kept clear step permitted
  | @due warnings receiver rest kept agenda clear =>
      cases warnings with
      | cons text warnings =>
          obtain ⟨rfl, rfl⟩ := step.of_notice permitted agenda rfl
          exact .due (not_handedOut_cons kept nofun) rfl clear
      | nil => exact .of_install kept attached step permitted hnext agenda clear
  | taken status => exact .taken (attached.taken_step step permitted hnext status)
  | elsewhere found other =>
      obtain ⟨it', found', same⟩ := step.cursor_eq found
      exact .elsewhere found' (same ▸ other)

/-- Who was handed an iteration of the cursor can rely on the cursor having taken a record
consumer. -/
theorem Handing.status (handing : Handing k h s cursor) (handed : HandedOut k h)
    (found : s.engine.iterations[k]? = some it) (own : it.cursor = 0) :
    cursor.status ≠ .notInstalled := by
  cases handing with
  | unhanded kept | due kept => exact absurd handed kept
  | taken status => exact status
  | elsewhere there other =>
      obtain rfl := Option.some.inj (found.symm.trans there)
      exact absurd own other

/-! ## The end -/

/-- An iteration is told of the end of a stream that is over. -/
def Informs (k : IterationId) (s : Situation) : Prop :=
  ∀ it f, s.engine.iterations[k]? = some it → .finish f ∈ it.signals →
    s.engine.stream.phase.isTerminal = true

theorem Attached.terminal_of_tellEnd {rc : RecordConsumer} {f : Option Failure}
    (attached : Attached o h s cursor) (mem : .tellEnd rc f ∈ s.agenda) :
    s.engine.stream.phase.isTerminal = true := by
  rcases attached.standing with opened | ⟨isOver, _⟩
  · exact (opened.fits _ mem rfl).2.elim
  · exact isOver.terminal

theorem Iteration.signals_step_subset (it : Iteration) {a : Iteration.Action} :
    (it.step a).1.signals ⊆ it.signals := by
  cases a with
  | take =>
      cases signals : it.signals with
      | nil => simp [step, signals]
      | cons signal rest =>
          cases signal with
          | record r => simp [step, signals]
          | finish f => cases f <;> simp [step, signals]
  | requested => exact List.Subset.refl _
  | advance | close | fetch =>
      simp only [step]
      split <;> exact List.Subset.refl _

theorem Informs.step (informs : Informs k s) (attached : Attached o h s cursor)
    (step : Step s m s') (permitted : c.Permits h m) : Informs k s' := by
  intro it f found told
  suffices terminal : s.engine.stream.phase.isTerminal = true from step.terminal permitted terminal
  cases before : s.engine.iterations[k]? with
  | none =>
      obtain ⟨id, size, rfl⟩ := step.made before found
      cases told
  | some former =>
      obtain ⟨it', found', tended⟩ := step.tended before
      obtain rfl := Option.some.inj (found.symm.trans found')
      cases tended with
      | apart => exact informs former f before told
      | stepped => exact informs former f before (former.signals_step_subset told)
      | record head =>
          rcases List.mem_append.1 told with told | told
          · exact informs former f before told
          · cases List.mem_singleton.1 told
      | ended head => exact attached.terminal_of_tellEnd (by rw [head]; exact List.mem_cons_self ..)
      | left =>
          obtain ⟨awaited, left⟩ := former.exists_leave
          rw [left] at told
          exact informs former f before told

/-! ## Leaving -/

/-- What holds of the cursor and of an iteration throughout a run. -/
structure Lending (o : PromiseId) (k : IterationId) (h : List Move) (s : Situation)
    (cursor : Cursor) : Prop where
  attached : Attached o h s cursor
  furnished : Furnished s cursor
  handing : Handing k h s cursor
  informs : Informs k s

theorem Run.lending {e : Engine} (begun : e.Begun o) (unread : e.iterations = #[])
    (sole : c.Sole) (run : Run c ⟨e, []⟩ h s) (k : IterationId) :
    ∃ cursor, Lending o k h s cursor := by
  refine run.invariant (I := fun h s => ∃ cursor, Lending o k h s cursor) ?_ ?_
  · obtain ⟨cursor, attached⟩ := begun.attached
    have stream := begun.stream
    have free : cursor.status = .notInstalled := by
      obtain ⟨runError, release, cursors⟩ := begun.cursors
      obtain rfl : cursor = .fresh runError release o := by
        simpa using attached.cursors.symm.trans cursors
      rfl
    refine ⟨cursor, attached, ⟨.inl ?_, fun taken => absurd free taken⟩,
      .unhanded ?_ (by simp), fun it f found => ?_⟩
    · show e.stream.summaryConsumer.isSome = true
      rw [stream]
      rfl
    · rintro ⟨receiver, r, mem⟩
      cases mem
    · simp [unread] at found
  · rintro h s s' m ⟨cursor, attached, furnished, handing, informs⟩ step permitted
    obtain ⟨next, attached'⟩ := attached.step sole step permitted
    have hnext := attached'.cursors
    exact ⟨next, attached', furnished.step attached step permitted hnext,
      handing.step attached step permitted hnext, informs.step attached step permitted⟩

/-- How an iteration comes to be closed. -/
inductive ClosingCause (k : IterationId) (it : Iteration) (s : Situation) : Prop
  /-- it is asked to close -/
  | asked (t : TaskId) {rest : List Instruction} (head : s.agenda = .iteration k t .close :: rest)
  /-- it reads of the end -/
  | ended (f : Option Failure) (told : .finish f ∈ it.signals)
  /-- something thrown leaves it -/
  | left (th : Thrown) {rest : List Instruction}
      (head : s.agenda = .caught (.iteration k) th :: rest)

theorem Closes.closing {s₁ s₂ : Situation} (closes : Closes k it s₁ m s₂) :
    ClosingCause k it s₁ := by
  obtain ⟨it', found, tended⟩ := closes.step.tended closes.found
  have closed := closes.closed it' found
  cases tended with
  | apart | record | ended => exact absurd closed closes.unclosed
  | left head => exact .left _ head
  | @stepped t a rest head =>
      cases a with
      | close => exact .asked t head
      | take =>
          cases signals : it.signals with
          | nil => simp [Iteration.step, signals, closes.unclosed] at closed
          | cons signal rest =>
              cases signal with
              | record r => simp [Iteration.step, signals] at closed
              | finish f => exact .ended f (by simp [signals])
      | requested => exact absurd closed closes.unclosed
      | advance =>
          cases phase : it.phase <;> simp [Iteration.step, phase] at closed
          exact absurd phase closes.unclosed
      | fetch =>
          simp only [Iteration.step] at closed
          split at closed <;> exact absurd closed closes.unclosed

/-- A stream is given up or over, or is given up next, which is not refused. -/
def Lapses (s : Situation) : Prop :=
  s.engine.stream.GivenUp ∨ GivesUpNext s.agenda ∧ s.engine.stream.lacksConsumer = false

theorem Stream.GivenUp.of_terminal {st : Stream} (terminal : st.phase.isTerminal = true) :
    st.GivenUp := .inr terminal

/-- Giving up a stream that has its consumers gives it up. -/
theorem Stream.Steps.givenUp_of_cancel {x : Stream.Surroundings} {st st' : Stream}
    {effects : List Stream.Effect} (steps : Stream.Steps x st .cancel st' effects) :
    st'.GivenUp := by
  cases steps with
  | discard | giveUp => exact .inl rfl
  | ignoreCancel present ready streaming =>
      cases phase : st.phase with
      | cancelled => exact .inl phase
      | ready => exact absurd phase ready
      | streaming => exact absurd phase streaming
      | succeeded | failed => exact .inr (by rw [phase]; rfl)

theorem Lapses.step (lapses : Lapses s) (attached : Attached o h s cursor) (step : Step s m s')
    (permitted : c.Permits h m) : Lapses s' := by
  rcases lapses with given | ⟨⟨i, rest, first, gives⟩, present⟩
  · exact .inl (step.givenUp permitted given)
  · rcases step.pastLines_or_head permitted first with ⟨-, same, first⟩ | head
    · exact .inr ⟨⟨i, rest, first, gives⟩, same ▸ present⟩
    · unfold Instruction.givesUp at gives
      split at gives
      · have found : s.engine.cursors[0]? = some cursor := by simp [attached.cursors]
        obtain ⟨-, rfl⟩ := step.exec_of_head head rfl
        rw [s.engine.exec_cursor found rfl]
        exact .inr ⟨⟨.channel .cancel, rest, rfl, rfl⟩, present⟩
      · obtain ⟨-, rfl⟩ := step.exec_of_head head rfl
        simp only [Engine.exec, attached.hasStream, if_true, Engine.goOn]
        exact .inr ⟨⟨.stream .cancel, rest, rfl, rfl⟩, present⟩
      · obtain ⟨after, effects, stream⟩ :=
          step.exists_stream permitted head (Stream.step_cancel_ne_error _ present)
        left
        rw [stream.engine]
        exact stream.steps.givenUp_of_cancel
      · cases gives

theorem Lapses.abandons (lapses : Lapses s) : Abandons s := by
  have next := lapses.imp_right And.left
  have given : ¬ GivesUpNext s.agenda → s.engine.stream.GivenUp := next.resolve_right
  refine ⟨next, fun t d rest head => given ?_, fun th rest head => given ?_, fun idle => given ?_⟩
  · rintro ⟨i, tail, first, gives⟩
    rw [head, pastLines_cons_other rfl] at first
    obtain ⟨rfl, -⟩ := List.cons.inj first
    cases gives
  · rintro ⟨i, tail, first, gives⟩
    rw [head, pastLines_cons_other rfl] at first
    obtain ⟨rfl, -⟩ := List.cons.inj first
    cases gives
  · rintro ⟨i, tail, first, gives⟩
    rw [idle] at first
    cases first

/-- The stream of an iteration that was handed out has its consumers, or is over, when anything
is carried out that has it take none. -/
theorem Lending.present (lending : Lending o k h s cursor) (handed : HandedOut k h)
    (found : s.engine.iterations[k]? = some it) (own : it.cursor = 0) {i : Instruction}
    {rest : List Instruction} (head : s.agenda = i :: rest) (other : i.isLine = false)
    (takes : i.taken? = none) : s.engine.stream.lacksConsumer = false := by
  have status := lending.handing.status handed found own
  refine (lending.furnished.present status).resolve_right ?_
  rintro ⟨j, tail, rc, first, taken⟩
  rw [head, pastLines_cons_other other] at first
  obtain ⟨rfl, -⟩ := List.cons.inj first
  rw [takes] at taken
  cases taken

theorem Iteration.leave_of_unclosed (it : Iteration) (unclosed : it.phase ≠ .closed) :
    it.leave = ({ it with phase := .closed, awaited := none }, leaveEffects) := by
  cases phase : it.phase <;> simp_all [leave]

/-- Closing an iteration that was begun gives up the stream next, unless that is over. -/
theorem Closes.lapses {s₁ s₂ : Situation} (closes : Closes k it s₁ m s₂)
    (permitted : c.Permits h m) (lending : Lending o k h s₁ cursor) (handed : HandedOut k h)
    (own : it.cursor = 0) (begun : it.phase ≠ .fresh)
    (unread : ∀ t r, m = .carried (.iteration k t .close) r → it.phase ≠ .reading) :
    Lapses s₂ := by
  cases closes.closing with
  | ended f told =>
      have terminal := lending.informs it f closes.found told
      exact .inl (.of_terminal (closes.step.terminal permitted terminal))
  | @asked t rest head =>
      have present := lending.present handed closes.found own head rfl rfl
      obtain ⟨rfl, rfl⟩ := closes.step.exec_of_head head rfl
      have paused : it.phase = .paused := by
        cases phase : it.phase with
        | fresh => exact absurd phase begun
        | reading => exact absurd phase (unread t _ rfl)
        | paused => rfl
        | closed => exact absurd phase closes.unclosed
      rw [Engine.exec_iteration .close closes.found]
      refine .inr ⟨⟨.cursor 0 .cancel, .finish t .nothing :: rest, ?_, rfl⟩, present⟩
      simp only [Iteration.step, paused, ← own]
      rfl
  | @left th rest head =>
      have present := lending.present handed closes.found own head rfl rfl
      obtain ⟨rfl, rfl⟩ := closes.step.exec_of_head head rfl
      rw [Engine.exec_left closes.found, it.leave_of_unclosed closes.unclosed]
      refine .inr ⟨⟨.cursor 0 .cancel, .throw th :: rest, ?_, rfl⟩, present⟩
      rw [← own]
      rfl

/-- Closing an iteration of which nothing was read comes to its end, and leaves the stream as it
was. -/
theorem Closes.of_fresh {s₁ s₂ : Situation} {t : TaskId} {r : Reply}
    (closes : Closes k it s₁ (.carried (.iteration k t .close) r) s₂) (fresh : it.phase = .fresh) :
    s₂.engine.stream = s₁.engine.stream ∧ ∃ rest, s₂.agenda = .finish t .nothing :: rest := by
  obtain ⟨rest, head⟩ := closes.step.head_of_carried
  obtain ⟨-, rfl⟩ := closes.step.exec_of_head head rfl
  rw [Engine.exec_iteration .close closes.found]
  exact ⟨rfl, rest, by simp [Iteration.step, fresh, Instruction.ofIteration]⟩

/-- An iteration that is closed after a record was asked for, and not while it is being read,
gives up its stream; one of which nothing was read leaves it as it was. -/
theorem Run.leavesEarly {e : Engine} {later earlier : List Move} {s₁ s₂ : Situation}
    (begun : e.Begun o) (unread : e.iterations = #[]) (sole : c.Sole)
    (run : Run c ⟨e, []⟩ (later ++ m :: earlier) s) (before : Run c ⟨e, []⟩ earlier s₁)
    (closes : Closes k it s₁ m s₂) (own : it.cursor = 0) (handed : HandedOut k earlier)
    (inTurn : ∀ t r, m = .carried (.iteration k t .close) r → it.phase ≠ .reading) :
    LeavesEarly k it s₁ m s₂ s := by
  refine ⟨fun asked => Lapses.abandons ?_, fun t r close fresh => ?_⟩
  · refine before.followingMove (I := fun _ s => Lapses s) (fun step permitted => ?_)
      (fun lapses run step permitted => ?_) run
    · obtain rfl := closes.step.unique step
      obtain ⟨cursor, lending⟩ := before.lending begun unread sole k
      exact closes.lapses permitted lending handed own asked inTurn
    · obtain ⟨cursor, lending⟩ := run.lending begun unread sole k
      exact lapses.step lending.attached step permitted
  · subst close
    exact closes.of_fresh fresh

end Steps

/-! ## Two iterations that are closed -/

/-- The records are asked for and one of them is read; then the iteration is to be closed. -/
def readOnce : List Act :=
  [.calls [.records 0 .null .null (.caller "records")], .calls [.spawn (.next 0) .nobody], .job,
    .calls [.stream (.deliver (.list []))], .job, .calls [.spawn (.close 0) .nobody]]

/-- Where that leads, with its history. -/
def readOncePoint : List Move × Situation :=
  Situation.acts 24 readOnce ([], ⟨oneByOneEngine, []⟩)

/-- Where the task that closes the iteration starts. -/
def closingPoint : List Move × Situation := Situation.acts 1 [.job] readOncePoint

/-- Where it ends. -/
def closedPoint : List Move × Situation := Situation.advances 24 closingPoint

theorem leavesEarly_closedPoint :
    ∃ it later m s₂, closedPoint.1 = later ++ m :: closingPoint.1 ∧
      Closes 0 it closingPoint.2 m s₂ ∧ it.phase = .paused ∧
      LeavesEarly 0 it closingPoint.2 m s₂ closedPoint.2 ∧
      closedPoint.2.engine.stream.phase = .cancelled ∧ closedPoint.2.agenda.isEmpty = true := by
  have read : Run .discreet ⟨oneByOneEngine, []⟩ readOncePoint.1 readOncePoint.2 :=
    .of_acts rfl (by decide +kernel) (by decide +kernel)
  have before : Run .discreet ⟨oneByOneEngine, []⟩ closingPoint.1 closingPoint.2 :=
    read.acts_of_isDiscreet rfl rfl (by decide +kernel)
  have run : Run .discreet ⟨oneByOneEngine, []⟩ closedPoint.1 closedPoint.2 :=
    before.advances_of_allAdmitted rfl (by decide +kernel)
  have phase : closingPoint.2.engine.iterations[0]?.map Iteration.phase = some .paused := by
    decide +kernel
  have closed : closingPoint.2.advance.2.engine.iterations[0]?.map Iteration.phase
      = some .closed := by decide +kernel
  have own : closingPoint.2.engine.iterations[0]?.map Iteration.cursor = some 0 := by decide +kernel
  obtain ⟨it, found, paused⟩ := Option.map_eq_some_iff.1 phase
  have busy : closingPoint.2.agenda.isEmpty = false := by decide +kernel
  obtain ⟨m, move, step, -⟩ := Situation.exists_step_advance busy
  have closes : Closes 0 it closingPoint.2 m closingPoint.2.advance.2 :=
    { step, found
      unclosed := by simp [paused]
      closed := fun it' found' => by simpa [found'] using closed }
  obtain ⟨later, split⟩ : m :: closingPoint.1 <:+ closedPoint.1 := by
    rw [closedPoint, Situation.advances_succ, move]
    exact Situation.suffix_advances 23 _ _
  have split := split.symm
  rw [split] at run
  have handed : HandedOut 0 closingPoint.1 := by decide +kernel
  have leaves := run.leavesEarly unread_oneByOneEngine.toBegun unread_oneByOneEngine.iterations
    Conduct.discreet_sole before closes (by simpa [found] using own) handed
    fun t r _ => by simp [paused]
  exact ⟨it, later, m, _, split, closes, paused, leaves, by decide +kernel, by decide +kernel⟩

/-- The records are asked for, and the iteration is closed before anything is read. -/
def closedUnbegun : List Act :=
  [.calls [.records 0 .null .null (.caller "records")], .calls [.spawn (.close 0) .nobody], .job]

/-- Where that leads. -/
def closedUnbegunPoint : List Move × Situation :=
  Situation.acts 24 closedUnbegun ([], ⟨oneByOneEngine, []⟩)

/-- The stream of an iteration that was closed unread is ready to be requested, and nothing was
written. -/
theorem ready_closedUnbegun :
    Run .discreet ⟨oneByOneEngine, []⟩ closedUnbegunPoint.1 closedUnbegunPoint.2 ∧
      closedUnbegunPoint.2.engine.iterations[0]?.any (fun it => it.phase == .closed) = true ∧
      closedUnbegunPoint.2.engine.stream.phase = .ready ∧
      closedUnbegunPoint.1.countP Move.isWrite = 0 ∧
      closedUnbegunPoint.2.agenda.isEmpty = true :=
  ⟨.of_acts rfl (by decide +kernel) (by decide +kernel), by decide +kernel, by decide +kernel,
    by decide +kernel, by decide +kernel⟩

end QueryStream
