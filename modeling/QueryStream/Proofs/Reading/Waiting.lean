/-
  Proofs/Reading/Waiting.lean --- what an iteration waits for.

  An iteration that reads has something to read, something outstanding, or is about to
  fetch a batch (`Occupied`).  Whoever is not sent the records has nothing outstanding
  (`Unfed`), and who is sent them is told of the end (`Informed`).
-/
import QueryStream.Proofs.Reading.Account

set_option autoImplicit false

namespace QueryStream

/-! ## What an iteration has to read -/

/-- The iteration is about to fetch a batch, or to be left. -/
inductive Fetches (cursor : Cursor) (n : Int) : List Instruction → Prop
  | fetch (t : TaskId) (rest : List Instruction) :
      Fetches cursor n (.iteration 0 t .fetch :: .guarded (.iteration 0) :: rest)
  | request {before : List Instruction} (t : TaskId) (rest : List Instruction)
      (request : Request cursor n before) :
      Fetches cursor n (before ++ .iteration 0 t .requested :: .guarded (.iteration 0) :: rest)
  | caught (th : Thrown) (rest : List Instruction) :
      Fetches cursor n (.caught (.iteration 0) th :: rest)

theorem Fetches.of_iteration {cursor : Cursor} {n : Int} {t : TaskId} {a : Iteration.Action}
    {rest : List Instruction} (fetches : Fetches cursor n (.iteration 0 t a :: rest)) :
    a = .fetch ∧ ∃ tail, rest = .guarded (.iteration 0) :: tail := by
  generalize hagenda : Instruction.iteration 0 t a :: rest = agenda at fetches
  cases fetches with
  | fetch t' rest' =>
      cases hagenda
      exact ⟨rfl, rest', rfl⟩
  | request t' rest' request => cases request <;> cases hagenda
  | caught th rest' => cases hagenda

/-- An iteration that reads has something to read, something outstanding, or fetches. -/
def Occupied (s : Situation) (cursor : Cursor) (v : Int) : Prop :=
  s.engine.reader.phase = .reading → s.engine.reader.signals ≠ [] ∨ v ≠ 0 ∨
    Fetches cursor s.engine.reader.fetchSize.value s.agenda

theorem Engine.phase_of_unread {e : Engine} (unread : e.iterations = #[]) :
    e.reader.phase = .fresh := by
  simp [reader, unread, Iteration.ofCursor]

section Occupied

variable {c : Conduct} {o : PromiseId} {h : List Move} {s s' : Situation} {m : Move}
  {cursor next : Cursor} {v v' : Int}

/-- Where the iteration stands first, what is outstanding is what it counts. -/
theorem Asking.eq_outstanding (asking : Asking s cursor v) {t : TaskId} {a : Iteration.Action}
    {rest : List Instruction} (head : s.agenda = .iteration 0 t a :: rest)
    (other : a ≠ .requested) : v = s.engine.reader.outstanding := by
  cases asking with
  | still still => rfl
  | asking t' request agenda still made outstanding signals =>
      rw [head] at agenda
      cases request <;> cases agenda
  | @asked before rest' t' agenda shield still made =>
      rw [head] at agenda
      cases before with
      | nil => exact absurd (by simpa using (List.cons.inj agenda).1) fun heq : _ ∧ _ => other heq.2
      | cons i before =>
          obtain ⟨rfl, -⟩ := List.cons.inj agenda
          simpa [Instruction.isPlain] using shield.plain (.iteration 0 t a) (by simp)

/-- What is outstanding stays so while the iteration reads. -/
theorem Declares.ne_zero (declares : Declares s m s' v v')
    (reading : s'.engine.reader.phase = .reading) (outstanding : v ≠ 0) : v' ≠ 0 := by
  cases declares with
  | same _ _ => exact outstanding
  | declared _ _ _ _ => exact FetchSize.value_ne_zero _
  | taken t head queued phase => simp [phase] at reading

/-- Asking for a batch goes on, and what goes wrong leaves the iteration. -/
theorem fetches_of_request {before rest : List Instruction} (t : TaskId)
    (request : Request cursor s.engine.reader.fetchSize.value before)
    (agenda : s.agenda = before ++ .iteration 0 t .requested :: .guarded (.iteration 0) :: rest)
    (served : Served o h s cursor) (step : Step s m s') (permitted : c.Permits h m)
    (hnext : s'.engine.cursors = #[next]) (declares : Declares s m s' v v') :
    v' ≠ 0 ∨ Fetches next s'.engine.reader.fetchSize.value s'.agenda := by
  cases request.goes served step permitted hnext agenda with
  | on request' agenda' iterations other =>
      rw [Engine.reader_eq iterations, agenda']
      exact .inr (.request t rest request')
  | refused th agenda' iterations other =>
      rw [agenda']
      exact .inr (.caught th rest)
  | declared stream =>
      cases declares with
      | same declares _ => exact absurd stream.move (declares _ _)
      | declared _ _ _ _ => exact .inl (FetchSize.value_ne_zero _)
      | taken t head queued phase =>
          rw [stream.head] at head
          cases head

theorem Occupied.apart (occupied : Occupied s cursor v) (declares : Declares s m s' v v')
    (served : Served o h s cursor) (step : Step s m s') (permitted : c.Permits h m)
    (hnext : s'.engine.cursors = #[next]) (awaited : Option PromiseId)
    (reader : s'.engine.reader = { s.engine.reader with awaited })
    (other : ∀ i rest, s.agenda = i :: rest → i.isReaders = true → s.engine.iterations = #[]) :
    Occupied s' next v' := by
  intro reading
  have before : s.engine.reader.phase = .reading := by
    rw [reader] at reading
    exact reading
  have made : s.engine.iterations ≠ #[] := by
    intro unread
    simp [Engine.phase_of_unread unread] at before
  rcases occupied before with signals | outstanding | fetches
  · exact .inl (by rw [reader]; exact signals)
  · exact .inr (.inl (declares.ne_zero reading outstanding))
  · generalize hagenda : s.agenda = agenda at fetches
    cases fetches with
    | fetch t rest => exact absurd (other _ _ hagenda rfl) made
    | request t rest request =>
        exact .inr (fetches_of_request t request hagenda served step permitted hnext declares)
    | caught th rest => exact absurd (other _ _ hagenda rfl) made

/-- An iteration about to do anything but fetch waits for something. -/
theorem Occupied.waits (occupied : Occupied s cursor v)
    (reading : s.engine.reader.phase = .reading) {t : TaskId} {a : Iteration.Action}
    {rest : List Instruction} (head : s.agenda = .iteration 0 t a :: rest) (other : a ≠ .fetch) :
    s.engine.reader.signals ≠ [] ∨ v ≠ 0 := by
  rcases occupied reading with signals | outstanding | fetches
  · exact .inl signals
  · exact .inr outstanding
  · rw [head] at fetches
    exact absurd fetches.of_iteration.1 other

theorem Occupied.fetch (occupied : Occupied s cursor v) (asking : Asking s cursor v)
    (declares : Declares s m s' v v') (recipient : Recipient s cursor) {t : TaskId}
    {rest : List Instruction} (head : s.agenda = .iteration 0 t .fetch :: rest)
    (reader : s'.engine.reader = (s.engine.reader.step .fetch).1)
    (agenda : s'.agenda = (s.engine.reader.step .fetch).2.flatMap
      (Instruction.ofIteration 0 (s.engine.reader.step .fetch).1 t) ++ rest) :
    Occupied s' next v' := by
  intro reading
  have counted := asking.eq_outstanding head (by simp)
  by_cases empty : s.engine.reader.signals.isEmpty && s.engine.reader.outstanding == 0
  · simp only [Iteration.step, empty, if_true] at reader agenda
    simp only [Bool.and_eq_true, List.isEmpty_iff, beq_iff_eq] at empty
    rw [reader] at reading
    rcases occupied reading with signals | outstanding | fetches
    · exact absurd empty.1 signals
    · exact absurd (counted.trans empty.2) outstanding
    · rw [head] at fetches
      obtain ⟨-, tail, rfl⟩ := fetches.of_iteration
      have hcursor := recipient.sole.cursor_eq
      rw [agenda, reader]
      simp only [List.flatMap_cons, List.flatMap_nil, Instruction.ofIteration, hcursor]
      exact .inr (.inr (.request t tail (.line _)))
  · have reader : s'.engine.reader = s.engine.reader := by
      simpa [Iteration.step, empty] using reader
    simp only [Bool.and_eq_true, List.isEmpty_iff, beq_iff_eq, not_and] at empty
    by_cases signals : s.engine.reader.signals = []
    · exact .inr (.inl (declares.ne_zero reading (by rw [counted]; exact empty signals)))
    · exact .inl (by rw [reader]; exact signals)

theorem Occupied.stepped (occupied : Occupied s cursor v) (asking : Asking s cursor v)
    (declares : Declares s m s' v v') (recipient : Recipient s cursor) {t : TaskId}
    {a : Iteration.Action} {rest : List Instruction}
    (head : s.agenda = .iteration 0 t a :: rest)
    (reader : s'.engine.reader = (s.engine.reader.step a).1)
    (agenda : s'.agenda = (s.engine.reader.step a).2.flatMap
      (Instruction.ofIteration 0 (s.engine.reader.step a).1 t) ++ rest) :
    Occupied s' next v' := by
  intro reading
  cases a with
  | advance =>
      cases phase : s.engine.reader.phase with
      | closed =>
          simp only [Iteration.step, phase] at reader
          rw [reader, phase] at reading
          cases reading
      | _ =>
          simp only [Iteration.step, phase] at agenda
          rw [agenda]
          exact .inr (.inr (.fetch t rest))
  | close =>
      have closed : s'.engine.reader.phase = .closed := by
        rw [reader]
        simp only [Iteration.step]
        split <;> rfl
      simp [closed] at reading
  | fetch => exact occupied.fetch asking declares recipient head reader agenda reading
  | requested =>
      have before : s.engine.reader.phase = .reading := by
        rw [reader] at reading
        exact reading
      rcases occupied.waits before head (by simp) with signals | outstanding
      · exact .inl (by rw [reader]; exact signals)
      · exact .inr (.inl (declares.ne_zero reading outstanding))
  | take =>
      cases hsignals : s.engine.reader.signals with
      | nil =>
          have before : s.engine.reader.phase = .reading := by
            simp only [Iteration.step, hsignals] at reader
            rwa [reader] at reading
          have waits := occupied.waits before head (by simp)
          exact .inr (.inl (declares.ne_zero reading (waits.resolve_left (absurd hsignals))))
      | cons signal signals =>
          -- what is taken is handed over, and the iteration reads no more until asked
          exfalso
          rw [reader] at reading
          cases signal with
          | record r => simp [Iteration.step, hsignals] at reading
          | finish f => cases f <;> simp [Iteration.step, hsignals] at reading

theorem occupied_step (occupied : Occupied s cursor v) (asking : Asking s cursor v)
    (declares : Declares s m s' v v') (recipient : Recipient s cursor)
    (served : Served o h s cursor) (step : Step s m s') (permitted : c.Permits h m)
    (hnext : s'.engine.cursors = #[next]) : Occupied s' next v' := by
  obtain ⟨reads, -⟩ :=
    step.reads permitted served.known recipient.unopened recipient.sole
  cases reads with
  | apart awaited reader other =>
      exact occupied.apart declares served step permitted hnext awaited reader other
  | made size unread reader =>
      intro reading
      rw [reader] at reading
      cases reading
  | stepped t a head made reader agenda =>
      exact occupied.stepped asking declares recipient head reader agenda
  | signalled signal head sort reader agenda => exact fun _ => .inl (by simp [reader])
  | left th head reader agenda =>
      intro reading
      have closed : s'.engine.reader.phase = .closed := by
        rw [reader]
        unfold Iteration.leave
        split
        · assumption
        · rfl
      simp [closed] at reading

end Occupied

/-! ## Who is not sent the records -/

section Unfed

variable {c : Conduct} {o : PromiseId} {h : List Move} {s s' : Situation} {m : Move}
  {cursor next : Cursor} {v v' : Int}

/-- The stream takes demand from a cursor that is not consumed, while the iteration goes on
with it. -/
theorem Asking.of_request (asking : Asking s cursor v) {n : Int} {rest : List Instruction}
    (head : s.agenda = .stream (.request n) :: rest) :
    cursor.isConsumed = false ∧ ∃ t tail, rest = .iteration 0 t .requested :: tail := by
  cases asking with
  | still still =>
      simpa [Instruction.isDemand] using still (.stream (.request n)) (by simp [head])
  | asking t request agenda still made outstanding signals =>
      rw [head] at agenda
      cases request with
      | stream unconsumed =>
          obtain ⟨-, rfl⟩ := List.cons.inj agenda
          exact ⟨unconsumed, t, _, rfl⟩
      | _ => cases agenda
  | @asked before rest' t agenda shield still made =>
      rw [head] at agenda
      cases before with
      | nil => cases agenda
      | cons i before =>
          obtain ⟨rfl, -⟩ := List.cons.inj agenda
          simpa [Instruction.isDemand] using still (.stream (.request n)) (by simp)

/-- A stream that takes demand sends the records to the iteration. -/
theorem installed_of_request (asking : Asking s cursor v) (recipient : Recipient s cursor)
    (served : Served o h s cursor) {n : Int} {rest : List Instruction} {after : Stream}
    {effects : List Stream.Effect}
    (stream : StreamStep s m s' (.request n) rest after effects) :
    cursor.status = .installed := by
  obtain ⟨unconsumed, t, tail, rfl⟩ := asking.of_request stream.head
  have head := stream.head
  cases status : cursor.status with
  | installed => rfl
  | notInstalled =>
      obtain ⟨free, ready⟩ := served.absent status
      have present : s.engine.stream.lacksConsumer = false := by
        cases stream.steps <;> assumption
      simp [Stream.lacksConsumer, free, ready, Phase.isTerminal] at present
  | discardInstalled =>
      exfalso
      cases recipient.staged with
      | consumed consumed => simp [consumed] at unconsumed
      | clear other clear => exact other status
      | line line other agenda clear => exact other status
      | begins other agenda clear => exact other status
      | taking free dropping agenda =>
          rw [head] at agenda
          cases dropping <;> cases agenda
      | @staging before rest' present _ agenda shield =>
          rw [head] at agenda
          cases before with
          | nil => cases agenda
          | cons i before =>
              obtain ⟨-, agenda⟩ := List.cons.inj agenda
              cases before with
              | nil => cases agenda
              | cons j before =>
                  obtain ⟨rfl, -⟩ := List.cons.inj agenda
                  simpa [Instruction.isPlain] using
                    shield.plain (.iteration 0 t .requested) (by simp)

/-- A stream that takes no demand starts to stream only what is pending. -/
theorem Stream.Steps.ready_of_streaming {x : Stream.Surroundings} {st st' : Stream}
    {a : Stream.Action} {effects : List Stream.Effect} (steps : Stream.Steps x st a st' effects)
    (phase : st'.phase = .streaming) (before : st.phase ≠ .streaming)
    (request : ∀ n, a ≠ .request n) : st.phase = .ready ∧ st.pending.isPositive = true := by
  cases steps with
  | flush line ready positive => exact ⟨ready, positive⟩
  | pull _ _ _ => exact absurd rfl (request _)
  | _ => first | exact absurd phase before | cases phase

theorem Unfed.step (unfed : Unfed s cursor v) (account : Account h s v)
    (asking : Asking s cursor v) (declares : Declares s m s' v v')
    (recipient : Recipient s cursor) (served : Served o h s cursor)
    (pledged : Pledged o s cursor) (step : Step s m s') (permitted : c.Permits h m)
    (hnext : s'.engine.cursors = #[next]) : Unfed s' next v' := by
  intro status
  have status : cursor.status ≠ .installed := by
    rcases served.status_step step permitted hnext with same | ⟨_, _, free, -⟩
    · rwa [← same]
    · rw [free]
      simp
  obtain ⟨none, unread, phase⟩ := unfed status
  rcases step.stream_or_quiet permitted with ⟨a, rest, after, effects, stream⟩ | ⟨other, quiet⟩
  · have reader : s'.engine.reader = s.engine.reader := by
      rw [stream.engine]
      rfl
    rcases declares_stream declares stream with ⟨rfl, request⟩ | ⟨rfl, -⟩
    · refine ⟨none, by rw [reader, unread], fun streaming => ?_⟩
      rw [stream.engine] at streaming
      obtain ⟨ready, positive⟩ := stream.steps.ready_of_streaming streaming phase request
      cases account with
      | isOver given => simp [ready, Phase.isTerminal] at given
      | ready k _ pending balance bounded settles =>
          have onward := transit_nonneg s.agenda
          -- a stream that pulls had demand pending, which is more than the balance of zero
          have some : 0 < k := by simpa [pending, Demand.isPositive] using positive
          omega
      | endless left streams underway => exact phase streams
      | streaming n left k streams _ _ _ _ _ _ => exact phase streams
    · exact absurd (installed_of_request asking recipient served stream) status
  · rw [quiet.stream]
    cases declares with
    | same declares queued =>
        have feeding : s.agenda.head?.any Instruction.isFeeding = false := by
          cases hagenda : s.agenda with
          | nil => rfl
          | cons i rest =>
              cases hi : i.isFeeding with
              | false => exact hi
              | true =>
                  exact absurd (recipient.installed_of_feeding served pledged hagenda hi) status
        simp only [feeding, Bool.false_eq_true, if_false] at queued
        exact ⟨none, by omega, phase⟩
    | declared stream _ signals queued => exact absurd stream.move (other _ _)
    | taken t head queued _ =>
        have nonneg := s'.engine.reader.queued_nonneg
        omega

end Unfed

/-! ## The end -/

/-- An iteration was told of the end: that is the last it is told of, and once it took that
it is closed. -/
inductive Iteration.Told (it : Iteration) : Prop
  | waits (earlier : List Signal) (f : Option Failure)
      (signals : it.signals = earlier ++ [.finish f])
  | took (phase : it.phase = .closed) (signals : it.signals = [])

/-- Whoever is sent the records is told of the end when the stream lets them go. -/
inductive Informed (o : PromiseId) (s : Situation) (cursor : Cursor) : Prop
  | present (present : ¬ s.engine.stream.Over)
  | dropped (status : cursor.status = .discardInstalled)
  | parting {before rest : List Instruction} (f : Option Failure)
      (made : s.engine.iterations ≠ #[]) (isOver : s.engine.stream.Over)
      (parting : Parting o s.engine f before)
      (agenda : s.agenda = before ++ .tellEnd (.feed 0) f :: rest)
      (cold : ∀ i ∈ rest, i.isHot = false)
  | told (made : s.engine.iterations ≠ #[]) (isOver : s.engine.stream.Over)
      (cold : ∀ i ∈ s.agenda, i.isHot = false) (told : s.engine.reader.Told)

section Informed

variable {c : Conduct} {o : PromiseId} {h : List Move} {s s' : Situation} {m : Move}
  {cursor next : Cursor}

theorem Iteration.Told.leave {it : Iteration} (told : it.Told) : it.leave.1.Told := by
  unfold Iteration.leave
  split
  · exact told
  · cases told with
    | waits earlier f signals => exact .waits earlier f signals
    | took phase signals => exact .took rfl signals

/-- What an iteration was told of it does not forget. -/
theorem Iteration.Told.step {it : Iteration} (told : it.Told) (a : Iteration.Action) :
    (it.step a).1.Told := by
  cases told with
  | waits earlier f signals =>
      cases a with
      | advance | close =>
          simp only [Iteration.step]
          split <;> exact .waits earlier f signals
      | fetch =>
          simp only [Iteration.step]
          split <;> exact .waits earlier f signals
      | requested => exact .waits earlier f signals
      | take =>
          cases earlier with
          | nil =>
              have signals : it.signals = [.finish f] := signals
              cases f <;> simp only [Iteration.step, signals] <;> exact .took rfl rfl
          | cons signal earlier =>
              have signals : it.signals = signal :: (earlier ++ [.finish f]) := signals
              cases signal with
              | record r => simpa only [Iteration.step, signals] using Told.waits earlier f rfl
              | finish g =>
                  cases g <;> simpa only [Iteration.step, signals] using Told.waits earlier f rfl
  | took phase signals =>
      cases a with
      | advance => simpa only [Iteration.step, phase] using Told.took phase signals
      | close =>
          simp only [Iteration.step, phase]
          exact .took rfl signals
      | fetch =>
          simp only [Iteration.step]
          split <;> exact .took phase signals
      | requested => exact .took phase signals
      | take => simpa only [Iteration.step, signals] using Told.took phase signals

theorem informed_of_ends (recipient : Recipient s cursor) (served : Served o h s cursor)
    (opened : Open s) {a : Stream.Action} {rest : List Instruction} {after : Stream}
    {effects : List Stream.Effect} (stream : StreamStep s m s' a rest after effects)
    (ends : s.engine.stream.Ends after effects) : Informed o s' cursor := by
  obtain ⟨rc, sc, summary, f, hrc, hsc, heffects⟩ := ends.ending
  obtain rfl := served.attendant sc hsc
  rcases recipient.suits rc hrc with ⟨rfl, status⟩ | ⟨-, status⟩
  · have made : s'.engine.iterations ≠ #[] := by
      rw [stream.engine]
      exact recipient.read (.inl status)
    have isOver : s'.engine.stream.Over := by
      rw [stream.engine]
      exact ends.over
    refine .parting f made isOver (.telling summary) ?_ (opened.cold stream.head rfl)
    rw [stream.agenda, heffects]
    rfl
  · exact .dropped status

theorem informed_of_tellEnd (recipient : Recipient s cursor) (served : Served o h s cursor)
    (step : Step s m s') (permitted : c.Permits h m) (made : s.engine.iterations ≠ #[])
    (isOver : s.engine.stream.Over) {f : Option Failure} {rest : List Instruction}
    (head : s.agenda = .tellEnd (.feed 0) f :: rest) (cold : ∀ i ∈ rest, i.isHot = false) :
    Informed o s' next := by
  obtain ⟨reads, resumes⟩ :=
    step.reads permitted served.known recipient.unopened recipient.sole
  obtain ⟨records, summaries⟩ := takes_nothing step served.known served.installing isOver.terminal
  obtain ⟨isOver', -, -⟩ := step.of_over permitted isOver records summaries
  cases reads with
  | apart awaited reader other => exact absurd (other _ _ head rfl) made
  | made size unread reader => exact absurd unread made
  | stepped t a head' made reader agenda =>
      rw [head] at head'
      cases head'
  | left th head' reader agenda =>
      rw [head] at head'
      cases head'
  | signalled signal head' sort reader agenda =>
      obtain ⟨hi, rfl⟩ := List.cons.inj (head.symm.trans head')
      subst hi
      rcases sort with ⟨r, hi, -⟩ | ⟨g, hi, rfl⟩
      · cases hi
      · refine .told (resumes.made made) isOver' (by rwa [agenda]) ?_
        rw [reader]
        exact .waits s.engine.reader.signals g rfl

/-- An iteration that was told of the end is told nothing more. -/
theorem informed_of_told (recipient : Recipient s cursor) (served : Served o h s cursor)
    (step : Step s m s') (permitted : c.Permits h m) (made : s.engine.iterations ≠ #[])
    (isOver : s.engine.stream.Over) (cold : ∀ i ∈ s.agenda, i.isHot = false)
    (told : s.engine.reader.Told) : Informed o s' next := by
  obtain ⟨reads, resumes⟩ :=
    step.reads permitted served.known recipient.unopened recipient.sole
  obtain ⟨records, summaries⟩ := takes_nothing step served.known served.installing isOver.terminal
  obtain ⟨isOver', -, hcold⟩ := step.of_over permitted isOver records summaries
  have cold' := hcold (fun i => i.isHot = false) (fun _ hi => hi) cold
  refine .told (resumes.made made) isOver' cold' ?_
  cases reads with
  | apart awaited reader other =>
      rw [reader]
      cases told with
      | waits earlier f signals => exact .waits earlier f signals
      | took phase signals => exact .took phase signals
  | made size unread reader => exact absurd unread made
  | stepped t a head made reader agenda =>
      rw [reader]
      exact told.step a
  | left th head reader agenda =>
      rw [reader]
      exact told.leave
  | @signalled signal i rest head sort reader agenda =>
      have hi := cold i (by simp [head])
      rcases sort with ⟨r, rfl, -⟩ | ⟨f, rfl, -⟩ <;> cases hi

theorem Informed.step (informed : Informed o s cursor) (recipient : Recipient s cursor)
    (served : Served o h s cursor) (pledged : Pledged o s cursor) (step : Step s m s')
    (permitted : c.Permits h m) (hnext : s'.engine.cursors = #[next]) :
    Informed o s' next := by
  cases informed with
  | present present =>
      rcases served.standing with opened | ⟨isOver, -⟩
      · rcases opened.step step permitted with opened' | ⟨a, rest, after, effects, stream, ends⟩
        · refine .present fun isOver => ?_
          rcases opened'.waits with attended | ready
          · have records := attended.1
            simp [isOver.records] at records
          · have terminal := isOver.terminal
            simp [ready, Phase.isTerminal] at terminal
        · obtain rfl := served.cursor_eq_of_stream stream hnext
          exact informed_of_ends recipient served opened stream ends
      · exact absurd isOver present
  | dropped status =>
      refine .dropped ?_
      rcases served.status_step step permitted hnext with same | ⟨_, _, free, -⟩
      · rwa [same]
      · rw [status] at free
        cases free
  | @parting before rest f made isOver parting agenda cold =>
      by_cases waits : before = []
      · subst waits
        exact informed_of_tellEnd recipient served step permitted made isOver agenda cold
      · obtain ⟨-, resumes⟩ :=
          step.reads permitted served.known recipient.unopened recipient.sole
        obtain ⟨before', agenda', parting', same, -⟩ :=
          parting.step served.toAttached pledged.created step agenda waits
        exact .parting f (resumes.made made) (by rwa [same]) parting' agenda' cold
  | told made isOver cold told =>
      exact informed_of_told recipient served step permitted made isOver cold told

end Informed

end QueryStream
