/-
  Proofs/Signals.lean --- the failures that iterations are told of.

  The stream tells records and its end only to an iteration that is there, if not to nobody
  (`Directed`).  What an iteration is told it keeps until a task reads it.  A task that reads a
  failure throws it, inside the iteration, which is closed by then; so the failure goes on to
  the end of the task and settles its promise (`Raising`).  Hence a failure that an iteration was
  told of is unread, or on its way, or was raised by a task that reads (`Reached`).
-/
import QueryStream.Proofs.Reading.Reader
import QueryStream.Proofs.Cursor.Valediction
import QueryStream.Proofs.Consuming

set_option autoImplicit false

namespace QueryStream

/-! ## Who the stream tells -/

/-- The record consumer that an instruction tells something, or has take the place. -/
def Instruction.addressee? : Instruction → Option RecordConsumer
  | .cursor _ (.install rc) => some rc
  | .channel (.installRecord rc) => some rc
  | .stream (.installRecord rc) => some rc
  | .tellRecord rc _ => some rc
  | .tellEnd rc _ => some rc
  | _ => none

/-- A record consumer is nobody, or an iteration that is there. -/
inductive Engine.Reaches (e : Engine) : RecordConsumer → Prop
  | discard : Reaches e .discard
  | feed {k : IterationId} (there : k < e.iterations.size) : Reaches e (.feed k)

/-- The stream tells nobody but iterations that are there. -/
structure Directed (s : Situation) : Prop where
  held : ∀ rc, s.engine.stream.recordConsumer = some rc → s.engine.Reaches rc
  agenda : ∀ i ∈ s.agenda, ∀ rc, i.addressee? = some rc → s.engine.Reaches rc

/-! ## What iterations read -/

/-- What an instruction does to the signals that an iteration has not read: it leaves them,
adds one, or takes the first. -/
inductive Perused (k : IterationId) (i : Instruction) (unread : List Signal) : List Signal → Prop
  | same : Perused k i unread unread
  | told (signal : Signal) : Perused k i unread (unread ++ [signal])
  | taken {t : TaskId} {signal : Signal} {rest : List Signal}
      (takes : i = .iteration k t .take) (split : unread = signal :: rest) : Perused k i unread rest

section Signals

variable {c : Conduct} {h : List Move} {s s' : Situation} {m : Move} {e e' : Engine}
  {i j : Instruction} {k : IterationId} {it : Iteration} {t : TaskId} {task : Task} {f : Failure}
  {rc : RecordConsumer}

theorem Engine.perused_of_iterations (found : e.iterations[k]? = some it)
    (same : e'.iterations = e.iterations) :
    ∃ it', e'.iterations[k]? = some it' ∧ Perused k i it.signals it'.signals :=
  ⟨it, same ▸ found, .same⟩

theorem Engine.perused_modify {n : IterationId} {g : Iteration → Iteration}
    (found : e.iterations[k]? = some it) (reads : Perused k i it.signals (g it).signals) :
    ∃ it', (e.modifyIteration n g).iterations[k]? = some it' ∧
      Perused k i it.signals it'.signals := by
  simp only [Engine.modifyIteration, Array.getElem?_modify]
  split
  · exact ⟨g it, by rw [found]; rfl, reads⟩
  · exact ⟨it, found, .same⟩

theorem Engine.perused_signal (n : IterationId) (signal : Signal)
    (found : e.iterations[k]? = some it) :
    ∃ it', (e.signal n signal).iterations[k]? = some it' ∧ Perused k i it.signals it'.signals := by
  unfold Engine.signal
  split
  · exact ⟨it, found, .same⟩
  · have told := e.perused_modify (n := n) (g := fun iteration =>
      { iteration with signals := iteration.signals ++ [signal], awaited := none })
      found (.told signal : Perused k i it.signals _)
    split <;> exact told

theorem Engine.mem_signal (e : Engine) (there : k < e.iterations.size) (signal : Signal) :
    ∃ it, (e.signal k signal).iterations[k]? = some it ∧ signal ∈ it.signals := by
  have found := Array.getElem?_eq_getElem there
  have told : ∃ it, (e.modifyIteration k fun iteration =>
      { iteration with signals := iteration.signals ++ [signal], awaited := none }).iterations[k]?
        = some it ∧ signal ∈ it.signals := by
    simp [Engine.modifyIteration, Array.getElem?_modify, found]
  simp only [Engine.signal, found]
  split <;> exact told

/-- A step of an iteration takes the first signal, if it takes any. -/
theorem Iteration.perused_step (it : Iteration) (a : Iteration.Action) :
    Perused k (.iteration k t a) it.signals (it.step a).1.signals := by
  cases a with
  | advance =>
      simp only [Iteration.step]
      split <;> exact .same
  | close =>
      simp only [Iteration.step]
      split <;> exact .same
  | fetch =>
      simp only [Iteration.step]
      split <;> exact .same
  | requested => exact .same
  | take =>
      simp only [Iteration.step]
      split
      · exact .same
      all_goals
        rename_i signals
        exact .taken rfl signals

/-- Whatever an instruction changes, an iteration stays, and so does what it has not read. -/
theorem Engine.Alters.perused (alters : e.Alters i e') (found : e.iterations[k]? = some it) :
    ∃ it', e'.iterations[k]? = some it' ∧ Perused k i it.signals it'.signals := by
  have made : k < e.iterations.size := (Array.getElem?_eq_some_iff.1 found).1
  have stepped : ∀ {n : IterationId} {other former : Iteration}, e.iterations[n]? = some former →
      (n = k → Perused k i former.signals other.signals) →
      ∃ it', (e.iterations.setIfInBounds n other)[k]? = some it' ∧
        Perused k i it.signals it'.signals := by
    intro n other former there reads
    rw [Array.getElem?_setIfInBounds]
    split
    · rename_i this
      subst this
      obtain rfl := Option.some.inj (found.symm.trans there)
      exact ⟨other, by rw [if_pos made], reads rfl⟩
    · exact ⟨it, found, .same⟩
  cases alters with
  | iteration t a there =>
      refine stepped there ?_
      rintro rfl
      exact Iteration.perused_step _ a
  | left th there =>
      refine stepped there fun _ => ?_
      unfold Iteration.leave
      split <;> exact .same
  | record n | ended n => exact e.perused_signal n _ found
  | records =>
      refine ⟨it, ?_, .same⟩
      simp only [Array.getElem?_push, if_neg (Nat.ne_of_lt made)]
      exact found
  | awaitSignal n =>
      exact e.perused_modify (n := n) (g := fun it => { it with awaited := some e.loop.nextId })
        found .same
  | cancel p => exact Engine.perused_of_iterations found (e.aloof_cancel p).iterations
  | finish t d st | caught t th st =>
      exact Engine.perused_of_iterations found (e.aloof_endTask t st).iterations
  | _ => exact ⟨it, found, .same⟩

theorem Engine.perused_exec (i : Instruction) (found : e.iterations[k]? = some it) :
    ∃ it', (e.exec i).1.iterations[k]? = some it' ∧ Perused k i it.signals it'.signals :=
  (Engine.alters_exec i).perused found

/-- Whatever happens, an iteration stays, and only what is carried out changes what it has not
read. -/
theorem Step.perused (step : Step s m s') (found : s.engine.iterations[k]? = some it) :
    ∃ it', s'.engine.iterations[k]? = some it' ∧
      (it'.signals = it.signals ∨
        ∃ i r, m = .carried i r ∧ Perused k i it.signals it'.signals) := by
  cases step with
  | @carry e i rest own =>
      obtain ⟨it', found', perused⟩ := e.perused_exec i found
      exact ⟨it', found', .inr ⟨i, _, rfl, perused⟩⟩
  | answer r => exact ⟨it, found, .inl rfl⟩
  | @begin e j loop next =>
      have same : (Engine.runJob { e with loop } j).1.iterations = e.iterations :=
        (Engine.aloof_runJob { e with loop } j).iterations
      exact ⟨it, (congrArg (fun its : Array Iteration => its[k]?) same).trans found, .inl rfl⟩
  | call next => exact ⟨it, found, .inl rfl⟩

theorem Step.reaches (step : Step s m s') (reaches : s.engine.Reaches rc) :
    s'.engine.Reaches rc := by
  cases reaches with
  | discard => exact .discard
  | feed there =>
      obtain ⟨it', found, -⟩ := step.perused (Array.getElem?_eq_getElem there)
      exact .feed (Array.getElem?_eq_some_iff.1 found).1

/-! ## Telling iterations -/

/-- A stream tells only the record consumer that it holds. -/
theorem Stream.Steps.addressee {x : Stream.Surroundings} {st st' : Stream} {a : Stream.Action}
    {effects : List Stream.Effect} {effect : Stream.Effect}
    (steps : Stream.Steps x st a st' effects) (mem : effect ∈ effects)
    (named : (Instruction.ofStream effect).addressee? = some rc) : st.recordConsumer = some rc := by
  have ends : ∀ {summary : Summary} {f : Option Failure}, effect ∈ st.endEffects summary f →
      st.recordConsumer = some rc := by
    intro summary f mem
    rcases List.mem_append.1 mem with mem | mem
    · obtain ⟨sc, -, rfl⟩ := Option.map_eq_some_iff.1 (Option.mem_toList.1 mem)
      cases named
    · obtain ⟨told, held, rfl⟩ := Option.map_eq_some_iff.1 (Option.mem_toList.1 mem)
      exact held.trans named
  cases steps with
  | conclude read => exact ends mem
  | concludeRefused read kind => exact ends mem
  | concludeFailure => exact ends mem
  | deliver line present phase consumer made =>
      simp only [List.mem_cons, List.not_mem_nil, or_false] at mem
      rcases mem with rfl | rfl | rfl
      · cases named
      · exact consumer.trans named
      · cases named
  | _ =>
      cases effect <;> simp_all [Stream.pullEffects, Stream.discardEffects, Stream.debug,
        Instruction.ofStream, Instruction.addressee?]

/-- Whom an instruction leads to telling something is the record consumer of the stream, or whom
the instruction was to tell, or nobody, or an iteration that is made. -/
theorem Engine.Leads.addressee (leads : e.Leads i j) (named : j.addressee? = some rc) :
    e.stream.recordConsumer = some rc ∨ i.addressee? = some rc ∨ rc = .discard ∨
      ∃ q fetchSize former receiver, i = .records q fetchSize former receiver := by
  cases leads with
  | stream accepted mem => exact .inl ((Stream.steps_of_step accepted).addressee mem named)
  | @cursor _ a _ next _ effect _ accepted mem =>
      cases (Cursor.steps_of_step accepted).yields mem with
      | take unconsumed free => exact .inr (.inl named)
      | discard => exact .inr (.inr (.inl (Option.some.inj named).symm))
      | _ => cases named
  | iteration found mem among | left th found mem among =>
      cases puts_of_mem among <;> cases named
  | channel r =>
      refine .inr (.inl ?_)
      cases r <;> exact named
  | hand q receives among => cases hands_of_mem among <;> cases named
  | body among => cases setsOut_of_mem among <;> cases named
  | exhausted among =>
      obtain ⟨d, rfl⟩ := finish_of_mem_exhausted among
      cases named
  | install fetchSize former receiver found =>
      exact .inr (.inr (.inr ⟨_, fetchSize, former, receiver, rfl⟩))
  | _ => cases named

/-- Reading the records of a result gives the stream the iteration that is made for it. -/
theorem Engine.reaches_records {q : ResultId} {fetchSize former : Value} {receiver : Receiver}
    (mem : j ∈ (e.exec (.records q fetchSize former receiver)).2.next)
    (named : j.addressee? = some rc) :
    (e.exec (.records q fetchSize former receiver)).1.Reaches rc := by
  have warned : ∀ {warning : Option String},
      j ∉ warning.toList.map fun text => Instruction.ask (.warn text) := by
    intro warning mem
    obtain ⟨text, -, rfl⟩ := List.mem_map.1 mem
    cases named
  simp only [Engine.exec, Engine.startRecords] at mem ⊢
  split
  · simp_all only [Engine.goOn, Reply.next_go, List.not_mem_nil]
  · rename_i result found
    simp only [found] at mem
    generalize result.start fetchSize former = chosen at mem ⊢
    obtain ⟨warning, chosen⟩ := chosen
    cases chosen with
    | error c =>
        rcases List.mem_append.1 mem with mem | mem
        · exact absurd mem warned
        · rw [List.mem_singleton.1 mem] at named
          cases named
    | ok size =>
        rcases List.mem_append.1 mem with mem | mem
        · exact absurd mem warned
        rcases List.mem_cons.1 mem with rfl | mem
        · obtain rfl := Option.some.inj named
          exact .feed (by simp)
        · rw [List.mem_singleton.1 mem] at named
          cases named

/-- Nobody outside gives the stream a record consumer or tells one something; so it tells nobody
but iterations that are there. -/
theorem Directed.step (directed : Directed s) (step : Step s m s') (permitted : c.Permits h m)
    (foreign : ∀ i ∈ m.outside, i.addressee? = none) : Directed s' := by
  refine ⟨fun rc held => ?_, fun j mem rc named => ?_⟩
  · rcases step.stream_or_quiet permitted with ⟨a, rest, after, effects, stream⟩ | ⟨-, quiet⟩
    · rw [stream.engine] at held
      rcases stream.steps.records held with held | rfl
      · exact step.reaches (directed.held rc held)
      · exact step.reaches (directed.agenda (.stream (.installRecord rc)) (by simp [stream.head])
          rc rfl)
    · rw [quiet.stream] at held
      exact step.reaches (directed.held rc held)
  · have stays : ∀ {i : Instruction}, i ∈ s.agenda → i.addressee? = some rc →
        s'.engine.Reaches rc := fun mem named => step.reaches (directed.agenda _ mem rc named)
    cases step with
    | @carry e i rest own =>
        rcases Reply.mem_onto mem with mem | next | ⟨g, th, rfl⟩
        · exact stays (List.mem_cons_of_mem _ mem) named
        · rcases (Engine.leads_exec next).addressee named with
            held | named | rfl | ⟨q, a, b, receiver, rfl⟩
          · exact (Step.carry own).reaches (directed.held rc held)
          · exact stays (List.mem_cons_self ..) named
          · exact .discard
          · exact Engine.reaches_records next named
        · cases named
    | answer r =>
        rcases Reply.mem_onto mem with mem | next | ⟨g, th, rfl⟩
        · exact stays (List.mem_cons_of_mem _ mem) named
        · rw [foreign j next] at named
          cases named
        · cases named
    | begin next => cases Engine.leadsBy_runJob mem <;> cases named
    | call next =>
        rw [foreign j mem] at named
        cases named

/-! ## Failures that are read -/

/-- Whether a task reads records. -/
def Work.isReading : Work → Bool
  | .next _ => true
  | .collect _ => true
  | _ => false

/-- A task throws a failure that it has read from an iteration, which is closed. -/
inductive Raising (k : IterationId) (f : Failure) (s : Situation) : Prop
  | thrown {t : TaskId} {task : Task} {it : Iteration} (engaged : Engaged s.engine t task)
      (reads : task.work.isReading = true) (found : s.engine.iterations[k]? = some it)
      (closed : it.phase = .closed)
      (agenda : s.agenda =
        [.throw (.failure f), .guarded (.iteration k), .guarded (.task t)])
  | inside {t : TaskId} {task : Task} {it : Iteration} (engaged : Engaged s.engine t task)
      (reads : task.work.isReading = true) (found : s.engine.iterations[k]? = some it)
      (closed : it.phase = .closed)
      (agenda : s.agenda = [.caught (.iteration k) (.failure f), .guarded (.task t)])
  | left {t : TaskId} {task : Task} (engaged : Engaged s.engine t task)
      (reads : task.work.isReading = true)
      (agenda : s.agenda = [.throw (.failure f), .guarded (.task t)])
  | caught {t : TaskId} {task : Task} (engaged : Engaged s.engine t task)
      (reads : task.work.isReading = true)
      (agenda : s.agenda = [.caught (.task t) (.failure f)])

/-- A task of some work ended with a failure. -/
inductive Engine.RaisedBy (e : Engine) (works : Work → Bool) (f : Failure) : Prop
  | intro {t : TaskId} {task : Task} (found : e.tasks[t]? = some task)
      (work : works task.work = true) (failed : e.loop.settlement? task.promise = some (.failure f))

/-- Where a failure stands that an iteration was told of. -/
inductive Reached (k : IterationId) (f : Failure) (s : Situation) : Prop
  | unread {it : Iteration} (found : s.engine.iterations[k]? = some it)
      (mem : .finish (some f) ∈ it.signals)
  | raising (raising : Raising k f s)
  | raised (raised : s.engine.RaisedBy Work.isReading f)

theorem Enrolled.isReading (enrolled : Enrolled e t task)
    (reads : Engine.iterationOf? task = some k) : task.work.isReading = true := by
  unfold Engine.iterationOf? at reads
  split at reads
  · rename_i n work
    rw [work]
    rfl
  · obtain ⟨q, work⟩ := enrolled.reads k reads
    rw [work]
    rfl

theorem Crew.raisedBy {works : Work → Bool} (crew : Crew s) (orderly : Orderly h s)
    (step : Step s m s') (raised : s.engine.RaisedBy works f) : s'.engine.RaisedBy works f := by
  obtain ⟨found, work, failed⟩ := raised
  obtain ⟨task', found', promise, same⟩ := crew.kept step found
  refine ⟨found', same ▸ work, ?_⟩
  rw [promise]
  exact (step.onward orderly.steady).settled failed

/-- A failure that is thrown goes on to the end of its task. -/
theorem Raising.step (raising : Raising k f s) (crew : Crew s) (step : Step s m s') :
    Reached k f s' := by
  cases raising with
  | thrown engaged reads found closed head =>
      obtain ⟨-, rfl⟩ := step.exec_of_head head rfl
      exact .raising (.inside engaged reads found closed rfl)
  | @inside t task it engaged reads found closed head =>
      obtain ⟨-, rfl⟩ := step.exec_of_head head rfl
      have nothing : it.leave = (it, []) := by simp [Iteration.leave, closed]
      have exec : s.engine.exec (.caught (.iteration k) (.failure f))
          = ({ s.engine with iterations := s.engine.iterations.setIfInBounds k it },
            .go [.throw (.failure f)]) := by
        simp [Engine.exec, Engine.caught, found, nothing]
      rw [exec]
      exact .raising (.left (engaged.of_eq rfl rfl) reads rfl)
  | left engaged reads head =>
      obtain ⟨-, rfl⟩ := step.exec_of_head head rfl
      exact .raising (.caught engaged reads rfl)
  | @caught t task engaged reads head =>
      obtain ⟨-, rfl⟩ := step.exec_of_head head rfl
      have created := (crew.roster.enrolled t task engaged.found).created
      have exec : s.engine.exec (.caught (.task t) (.failure f))
          = (s.engine.withLoop fun l => l.settle task.promise (.failure f), .go []) := by
        simp [Engine.exec, Engine.caught, Engine.endTask, engaged.found]
      have settled := Loop.settlement?_settle_self (s := .failure f) created
      rw [engaged.unsettled, Option.none_or] at settled
      rw [exec]
      exact .raised ⟨engaged.found, reads, settled⟩

/-- A task that reads a failure throws it. -/
theorem Crew.raising_of_take {rest : List Instruction} {unread : List Signal} (crew : Crew s)
    (found : s.engine.iterations[k]? = some it) (signals : it.signals = .finish (some f) :: unread)
    (head : s.agenda = .iteration k t .take :: rest) (step : Step s m s') : Raising k f s' := by
  obtain ⟨-, rfl⟩ := step.exec_of_head head rfl
  have taken : it.step .take = ({ it with signals := unread, phase := .closed }, [.fail f]) := by
    simp [Iteration.step, signals]
  have made : k < s.engine.iterations.size := (Array.getElem?_eq_some_iff.1 found).1
  have closed : (s.engine.iterations.setIfInBounds k
      { it with signals := unread, phase := .closed })[k]?
        = some { it with signals := unread, phase := .closed } := by
    simp [made]
  obtain ⟨u, task, inside, engaged, bound, guards⟩ :=
    crew.onDuty.own_of_head head rfl (by simp) (by simp)
  cases bound with
  | inside reads advance close =>
      have reading := (crew.roster.enrolled t _ engaged.found).isReading reads
      rw [guards, Engine.exec_iteration .take found, taken]
      exact .thrown (engaged.of_eq rfl rfl) reading closed rfl rfl

/-- A failure that an iteration was told of stays unread until a task raises it. -/
theorem Reached.step (reached : Reached k f s) (crew : Crew s) (orderly : Orderly h s)
    (step : Step s m s') : Reached k f s' := by
  cases reached with
  | raising raising => exact raising.step crew step
  | raised raised => exact .raised (crew.raisedBy orderly step raised)
  | @unread it found mem =>
      obtain ⟨it', found', same | ⟨i, r, rfl, perused⟩⟩ := step.perused found
      · exact .unread found' (same ▸ mem)
      · generalize signals : it'.signals = after at perused
        cases perused with
        | same => exact .unread found' (signals ▸ mem)
        | told signal =>
            refine .unread found' ?_
            rw [signals]
            exact List.mem_append_left _ mem
        | @taken t signal rest takes split =>
            subst takes
            rw [split] at mem
            rcases List.mem_cons.1 mem with rfl | mem
            · obtain ⟨behind, head⟩ := step.head_of_carried
              exact .raising (crew.raising_of_take found split head step)
            · exact .unread found' (signals ▸ mem)

/-! ## Failures that are told -/

/-- Every failure that somebody was told of with the end reached an iteration. -/
def Delivered (h : List Move) (s : Situation) : Prop :=
  ∀ rc f, (rc, some f) ∈ endsTold h → rc ≠ .discard → ∃ k, rc = .feed k ∧ Reached k f s

theorem Delivered.step (delivered : Delivered h s) (directed : Directed s) (crew : Crew s)
    (orderly : Orderly h s) (step : Step s m s') : Delivered (m :: h) s' := by
  intro rc f mem own
  rw [endsTold_cons] at mem
  rcases List.mem_append.1 mem with told | mem
  · unfold Move.endTold? at told
    split at told
    · rename_i rc' f' r
      obtain ⟨rfl, rfl⟩ := Prod.mk.inj (Option.some.inj (Option.mem_toList.1 told)).symm
      obtain ⟨rest, head⟩ := step.head_of_carried
      obtain ⟨-, rfl⟩ := step.exec_of_head head rfl
      cases directed.agenda (.tellEnd rc (some f)) (by simp [head]) rc rfl with
      | discard => exact absurd rfl own
      | @feed k there =>
          obtain ⟨it, found, mem⟩ := s.engine.mem_signal there (.finish (some f))
          exact ⟨k, rfl, .unread found mem⟩
    · cases told
  · obtain ⟨k, fed, reached⟩ := delivered rc f mem own
    exact ⟨k, fed, reached.step crew orderly step⟩

end Signals

end QueryStream
