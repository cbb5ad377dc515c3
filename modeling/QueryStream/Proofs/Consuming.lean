/-
  Proofs/Consuming.lean --- tasks that wait for the outcome of a cursor.

  A task that consumes a result asks the cursor for the summary and waits for a promise that
  follows the outcome (`Echo`).  What it goes on with, and delivers in the end, is what the
  outcome was settled with (`Consumes`).  So a task that delivers something had no failure to
  raise.
-/
import QueryStream.Proofs.Engine.Ends
import QueryStream.Proofs.Resolution

set_option autoImplicit false

namespace QueryStream

/-! ## What leads to what a task does -/

namespace Engine.Leads

variable {e : Engine} {i j : Instruction} {t : TaskId}

/-- A task waits for what it is handed, for what never comes, or for a signal. -/
theorem of_await {p : PromiseId} (leads : e.Leads i j) (heq : j = .await t p) :
    i.receiver? = some (.task t) ∨ i = .awaitNever t ∨ ∃ k, i = .awaitSignal k t := by
  cases leads with
  | @stream _ _ _ effect => cases effect <;> cases heq
  | @cursor _ _ _ _ _ effect => cases effect <;> cases heq
  | iteration found effects among | left th found effects among =>
      cases puts_of_mem among <;> cases heq
  | hand q receives among =>
      cases hands_of_mem among with
      | caller name => cases heq
      | task u =>
          obtain ⟨rfl, -⟩ := Instruction.await.inj heq
          exact .inl receives
  | body among => cases setsOut_of_mem among <;> cases heq
  | exhausted among =>
      obtain ⟨d, rfl⟩ := finish_of_mem_exhausted among
      cases heq
  | awaitNever u q =>
      cases heq
      exact .inr (.inl rfl)
  | awaitSignal k u q =>
      cases heq
      exact .inr (.inr ⟨k, rfl⟩)
  | _ => cases heq

/-- A task goes on with what it was to wait for. -/
theorem of_woken {st : Settlement Delivery Failure} (leads : e.Leads i j)
    (heq : j = .woken t st) : ∃ p, i = .await t p := by
  cases leads with
  | @stream _ _ _ effect => cases effect <;> cases heq
  | @cursor _ _ _ _ _ effect => cases effect <;> cases heq
  | iteration found effects among | left th found effects among =>
      cases puts_of_mem among <;> cases heq
  | hand q receives among => cases hands_of_mem among <;> cases heq
  | body among => cases setsOut_of_mem among <;> cases heq
  | exhausted among =>
      obtain ⟨d, rfl⟩ := finish_of_mem_exhausted among
      cases heq
  | woken u p =>
      cases heq
      exact ⟨p, rfl⟩
  | _ => cases heq

/-- A task is ended with what it waited for, or by the iteration that it reads or closes. -/
theorem of_finish {d : Delivery} (leads : e.Leads i j) (heq : j = .finish t d) :
    i = .woken t (.value d) ∨ (∃ r, i = .yielded t r) ∨ i = .exhausted t ∨
      ∃ k a, i = .iteration k t a := by
  cases leads with
  | @stream _ _ _ effect => cases effect <;> cases heq
  | @cursor _ _ _ _ _ effect => cases effect <;> cases heq
  | @iteration k u a _ effect _ _ _ among =>
      cases puts_of_mem among <;> cases heq
      exact .inr (.inr (.inr ⟨k, a, rfl⟩))
  | left th found mem among =>
      unfold Iteration.leave at mem
      split at mem
      · cases mem
      · simp only [Iteration.leaveEffects, List.mem_cons, List.not_mem_nil, or_false] at mem
        rcases mem with rfl | rfl <;> cases puts_of_mem among <;> cases heq
  | hand q receives among => cases hands_of_mem among <;> cases heq
  | body among => cases setsOut_of_mem among <;> cases heq
  | exhausted among =>
      obtain ⟨d, rfl⟩ := finish_of_mem_exhausted among
      cases heq
      exact .inr (.inr (.inl rfl))
  | answered u d =>
      cases heq
      exact .inl rfl
  | yielded u r =>
      cases heq
      exact .inr (.inl ⟨r, rfl⟩)
  | _ => cases heq

end Engine.Leads

/-! ## What a task is brought -/

/-- What a task that consumes is brought, and delivers, is what the outcome is. -/
structure Consumes (o : PromiseId) (t : TaskId) (task : Task) (s : Situation) : Prop where
  waits : ∀ p, task.waitingFor = some p → Echo o p s.engine
  await : ∀ p, .await t p ∈ s.agenda → Echo o p s.engine
  woken : ∀ d, .woken t (.value d) ∈ s.agenda → s.engine.loop.settlement? o = some (.value d)
  finish : ∀ d, .finish t d ∈ s.agenda → s.engine.loop.settlement? o = some (.value d)
  settled : ∀ d, s.engine.loop.settlement? task.promise = some (.value d) →
    s.engine.loop.settlement? o = some (.value d)

section Consuming

variable {h : List Move} {s s' : Situation} {m : Move} {o p : PromiseId} {t : TaskId}
  {task task' : Task} {cursor : Cursor} {e : Engine} {d : Delivery}

/-- A promise that follows the outcome delivers what the outcome is. -/
theorem Echo.value (echo : Echo o p e) (promise : e.loop.settlement? p = some (.value d)) :
    e.loop.settlement? o = some (.value d) := by
  cases echo with
  | same heq => exact heq ▸ promise
  | cancelled other => simp [promise] at other
  | shared outcome other => exact outcome.trans (other.symm.trans promise)
  | pending created only pending => simp [pending.unsettled] at promise

theorem Consumes.await_step (consumes : Consumes o t task s) (crew : Crew s)
    (orderly : Orderly h s) (found : s.engine.tasks[t]? = some task)
    (work : task.work = .consume 0) (there : s.engine.cursors[0]? = some cursor)
    (outcome : cursor.outcome = o) (step : Step s m s') (admits : Admits h m)
    (mem : .await t p ∈ s'.agenda) : Echo o p s'.engine := by
  have stays : .await t p ∈ s.agenda → Echo o p s'.engine := fun mem =>
    (consumes.await p mem).step orderly step
  have outside := (crew.roster.enrolled t task found).iterationOf?_eq_none
    (by simp [work]) (by simp [work])
  cases step with
  | @carry e i rest own =>
      rcases Reply.mem_onto mem with mem | next | ⟨g, th, same⟩
      · exact stays (List.mem_cons_of_mem _ mem)
      · have leads := (Engine.leads_exec next).of_await rfl
        have plain : i.isPlain = false := by
          rcases leads with receives | rfl | ⟨k, rfl⟩
          · cases i <;> simp_all [Instruction.receiver?, Instruction.isPlain, Receiver.isTask]
          · rfl
          · rfl
        -- only a task in charge brings a wait, and what it is bound to tells which work it does
        obtain ⟨u, other, inside, engaged, bound⟩ := crew.onDuty.own rfl plain next
        rcases leads with receives | rfl | ⟨k, rfl⟩
        · cases bound <;> cases receives
          rename_i id hwork
          obtain rfl := Option.some.inj (found.symm.trans engaged.found)
          obtain rfl : id = 0 := by simpa [work] using hwork.symm
          have echo := e.echo_relay (.task t) there orderly.bounded
            (List.mem_filterMap.2 ⟨_, next, rfl⟩)
          exact outcome ▸ echo
        · cases bound with
          | awaitNever release =>
              obtain rfl := Option.some.inj (found.symm.trans engaged.found)
              simp [work] at release
        · cases bound with
          | awaitSignal reads =>
              obtain rfl := Option.some.inj (found.symm.trans engaged.found)
              simp [outside] at reads
      · cases same
  | answer r =>
      rcases Reply.mem_onto mem with mem | next | ⟨g, th, same⟩
      · exact stays (List.mem_cons_of_mem _ mem)
      · obtain ⟨u, same | same⟩ := admits.own next rfl <;> cases same
      · cases same
  | begin next => cases Engine.leadsBy_runJob mem
  | call next => obtain ⟨u, same | same⟩ := admits.own mem rfl <;> cases same

theorem Consumes.woken_step (consumes : Consumes o t task s) (crew : Crew s)
    (orderly : Orderly h s) (found : s.engine.tasks[t]? = some task) (step : Step s m s')
    (admits : Admits h m) (mem : .woken t (.value d) ∈ s'.agenda) :
    s.engine.loop.settlement? o = some (.value d) := by
  cases step with
  | @carry e i rest own =>
      rcases Reply.mem_onto mem with mem | next | ⟨g, th, same⟩
      · exact consumes.woken d (List.mem_cons_of_mem _ mem)
      · obtain ⟨p, rfl⟩ := (Engine.leads_exec next).of_woken rfl
        obtain ⟨u, other, inside, engaged, bound⟩ := crew.onDuty.own rfl rfl next
        have echo := consumes.await p (List.mem_cons_self ..)
        cases bound with
        | await awaitable =>
            rcases Engine.await_cases engaged.found awaitable.created with
              ⟨st, settled, awaits⟩ | ⟨e', awaits, -⟩
            · simp only [Engine.exec, awaits] at next
              cases List.mem_singleton.1 next
              exact echo.value settled
            · simp only [Engine.exec, awaits] at next
              cases next
      · cases same
  | answer r =>
      rcases Reply.mem_onto mem with mem | next | ⟨g, th, same⟩
      · exact consumes.woken d (List.mem_cons_of_mem _ mem)
      · obtain ⟨u, same | same⟩ := admits.own next rfl <;> cases same
      · cases same
  | begin next =>
      cases Engine.leadsBy_runJob mem with
      | woken found' value =>
          obtain ⟨p, waits, settled⟩ := value d rfl
          obtain rfl := Option.some.inj (found.symm.trans found')
          rw [(Loop.settlement?_of_next? next).1] at settled
          exact (consumes.waits p waits).value settled
  | call next => obtain ⟨u, same | same⟩ := admits.own mem rfl <;> cases same

theorem Consumes.finish_step (consumes : Consumes o t task s) (crew : Crew s)
    (found : s.engine.tasks[t]? = some task) (work : task.work = .consume 0)
    (step : Step s m s') (admits : Admits h m) (mem : .finish t d ∈ s'.agenda) :
    s.engine.loop.settlement? o = some (.value d) := by
  have outside := (crew.roster.enrolled t task found).iterationOf?_eq_none
    (by simp [work]) (by simp [work])
  cases step with
  | @carry e i rest own =>
      rcases Reply.mem_onto mem with mem | next | ⟨g, th, same⟩
      · exact consumes.finish d (List.mem_cons_of_mem _ mem)
      · have leads := (Engine.leads_exec next).of_finish rfl
        have plain : i.isPlain = false := by
          rcases leads with rfl | ⟨r, rfl⟩ | rfl | ⟨k, a, rfl⟩ <;> rfl
        -- a task that consumes reads no iteration and runs no release, which leaves its being woken
        obtain ⟨u, other, inside, engaged, bound⟩ := crew.onDuty.own rfl plain next
        rcases leads with rfl | ⟨r, rfl⟩ | rfl | ⟨k, a, rfl⟩
        · exact consumes.woken d (List.mem_cons_self ..)
        · cases bound with
          | yielded r reads =>
              obtain rfl := Option.some.inj (found.symm.trans engaged.found)
              simp [outside] at reads
        · cases bound with
          | exhausted reads =>
              obtain rfl := Option.some.inj (found.symm.trans engaged.found)
              simp [outside] at reads
        · cases bound with
          | close closes =>
              obtain rfl := Option.some.inj (found.symm.trans engaged.found)
              simp [work] at closes
          | advance reads =>
              obtain rfl := Option.some.inj (found.symm.trans engaged.found)
              simp [outside] at reads
          | inside reads _ _ =>
              obtain rfl := Option.some.inj (found.symm.trans engaged.found)
              simp [outside] at reads
      · cases same
  | @answer e a rest r =>
      rcases Reply.mem_onto mem with mem | next | ⟨g, th, same⟩
      · exact consumes.finish d (List.mem_cons_of_mem _ mem)
      · cases admits.responds a r rfl with
        | notice told => cases next
        | go control made => cases Instruction.isPlain_of_isForeseen (made _ next)
        | raise th control => cases next
        | released u =>
            cases List.mem_singleton.1 next
            obtain ⟨u, other, inside, engaged, bound, -⟩ :=
              crew.onDuty.own_of_head rfl rfl (by simp) (by simp)
            cases bound with
            | runRelease release =>
                obtain rfl := Option.some.inj (found.symm.trans engaged.found)
                simp [work] at release
        | unending u => cases List.mem_singleton.1 next
      · cases same
  | begin next => cases Engine.leadsBy_runJob mem
  | call next => cases Instruction.isPlain_of_isForeseen (admits.calls _ rfl _ mem)

/-- Every move keeps what a task that consumes is brought. -/
theorem Consumes.step (consumes : Consumes o t task s) (crew : Crew s) (orderly : Orderly h s)
    (found : s.engine.tasks[t]? = some task) (work : task.work = .consume 0)
    (there : s.engine.cursors[0]? = some cursor) (outcome : cursor.outcome = o)
    (step : Step s m s') (admits : Admits h m) (promise : task'.promise = task.promise)
    (waits : ∀ p, task'.waitingFor = some p →
      task.waitingFor = some p ∨ ∃ r, m = .carried (.await t p) r) :
    Consumes o t task' s' := by
  have onward := step.onward orderly.steady
  refine ⟨fun p waiting => ?_, fun p mem => ?_, fun d mem => ?_, fun d mem => ?_,
    fun d settled => ?_⟩
  · rcases waits p waiting with before | ⟨r, rfl⟩
    · exact (consumes.waits p before).step orderly step
    · obtain ⟨rest, head⟩ := step.head_of_carried
      exact (consumes.await p (by simp [head])).step orderly step
  · exact consumes.await_step crew orderly found work there outcome step admits mem
  · exact onward.settled (consumes.woken_step crew orderly found step admits mem)
  · exact onward.settled (consumes.finish_step crew found work step admits mem)
  · rw [promise] at settled
    rcases crew.ends orderly step found settled with settled | ends
    · exact onward.settled (consumes.settled d settled)
    · cases ends with
      | finished d r =>
          obtain ⟨rest, head⟩ := step.head_of_carried
          exact onward.settled (consumes.finish d (by simp [head]))

/-- Every task that consumes is brought what the outcome is. -/
def Consuming (o : PromiseId) (s : Situation) : Prop :=
  ∀ (t : TaskId) (task : Task), s.engine.tasks[t]? = some task → task.work = .consume 0 →
    Consumes o t task s

theorem Consuming.step (consuming : Consuming o s) (crew : Crew s) (orderly : Orderly h s)
    (there : s.engine.cursors[0]? = some cursor) (outcome : cursor.outcome = o)
    (step : Step s m s') (admits : Admits h m) : Consuming o s' := by
  intro t task' found work
  cases crew.heir step found with
  | kept before promise same waits =>
      have consumes := consuming t _ before (same ▸ work)
      exact consumes.step crew orderly before (same ▸ work) there outcome step admits promise
        waits
  | made new tally waits =>
      -- a job is yet to start the task, so nothing was done for it
      have crew' := crew.step orderly step admits
      have idle : ∀ other, ¬ Engaged s'.engine t other := fun other engaged => by
        exact absurd (tally.symm.trans engaged.free) (by decide)
      have unbound {i : Instruction} (mem : i ∈ s'.agenda) (own : i.isPlain = false)
          (binds : ∀ {u other inside}, Bound s'.engine u other inside i → u = t) :
          (∃ g, i = .guarded g) ∨ ∃ u th, i = .caught (.task u) th := by
        refine (crew'.onDuty.bound mem own).resolve_left ?_
        rintro ⟨u, other, inside, engaged, bound⟩
        obtain rfl := binds bound
        exact idle other engaged
      have unsettled := (crew'.roster.enrolled t task' found).unsettled tally
      refine ⟨by simp [waits], fun p mem => ?_, fun d mem => ?_, fun d mem => ?_,
        fun d settled => by simp [unsettled] at settled⟩
      · rcases unbound mem rfl (fun bound => by cases bound; rfl) with ⟨g, same⟩ | ⟨u, th, same⟩ <;>
          cases same
      · rcases unbound mem rfl (fun bound => by cases bound; rfl) with ⟨g, same⟩ | ⟨u, th, same⟩ <;>
          cases same
      · rcases unbound mem rfl (fun bound => by cases bound; rfl) with ⟨g, same⟩ | ⟨u, th, same⟩ <;>
          cases same

/-! ## Who asks for the summary -/

/-- Only a task that consumes asks the one cursor for the summary. -/
structure AskedByTasks (h : List Move) (s : Situation) : Prop where
  agenda : ∀ id receiver, .cursor id (.summary receiver) ∈ s.agenda → receiver.isTask = true
  asked : ∀ receiver r, .carried (.cursor 0 (.summary receiver)) r ∈ h →
    ∃ t task, receiver = .task t ∧ s.engine.tasks[t]? = some task ∧ task.work = .consume 0

/-- Whether something may lead to an action of a cursor.  The summary is asked for only by a
task then, and the failure to start not at all. -/
def Cursor.Action.isInward : Cursor.Action → Bool
  | .summary receiver => receiver.isTask
  | .surfaceError => false
  | _ => true

theorem Engine.Leads.isInward {i j : Instruction} {id : CursorId} {a : Cursor.Action}
    (leads : e.Leads i j) (heq : j = .cursor id a) : a.isInward = true := by
  cases leads with
  | @stream _ _ _ effect => cases effect <;> cases heq
  | @cursor _ b _ next _ effect _ accepted mem =>
      cases (Cursor.steps_of_step accepted).yields mem <;> cases heq <;> rfl
  | iteration found effects among | left th found effects among =>
      cases puts_of_mem among <;> cases heq <;> rfl
  | hand q receives among => cases hands_of_mem among <;> cases heq
  | body among =>
      cases setsOut_of_mem among <;> cases heq
      rfl
  | exhausted among =>
      obtain ⟨d, rfl⟩ := finish_of_mem_exhausted among
      cases heq
  | _ => cases heq <;> rfl

theorem AskedByTasks.step (asked : AskedByTasks h s) (crew : Crew s) (step : Step s m s')
    (foreign : ∀ id receiver, .cursor id (.summary receiver) ∉ m.outside) :
    AskedByTasks (m :: h) s' := by
  refine ⟨fun id receiver mem => ?_, fun receiver r mem => ?_⟩
  · cases step with
    | carry own =>
        rcases Reply.mem_onto mem with mem | next | ⟨g, th, same⟩
        · exact asked.agenda id receiver (List.mem_cons_of_mem _ mem)
        · exact (Engine.leads_exec next).isInward rfl
        · cases same
    | answer r =>
        rcases Reply.mem_onto mem with mem | next | ⟨g, th, same⟩
        · exact asked.agenda id receiver (List.mem_cons_of_mem _ mem)
        · exact absurd next (foreign id receiver)
        · cases same
    | begin next => cases Engine.leadsBy_runJob mem
    | call next => exact absurd mem (foreign id receiver)
  · rcases List.mem_cons.1 mem with rfl | mem
    · obtain ⟨rest, head⟩ := step.head_of_carried
      have task := asked.agenda 0 receiver (by simp [head])
      have own : (Instruction.cursor 0 (.summary receiver)).isPlain = false := by
        simp [Instruction.isPlain, task]
      obtain ⟨t, task, inside, engaged, bound, -⟩ :=
        crew.onDuty.own_of_head head own (by simp) (by simp)
      cases bound with
      | summary work =>
          obtain ⟨task', found, -, same⟩ := crew.kept step engaged.found
          exact ⟨t, task', rfl, found, same.trans work⟩
    · obtain ⟨t, task, rfl, found, work⟩ := asked.asked receiver r mem
      obtain ⟨task', found', -, same⟩ := crew.kept step found
      exact ⟨t, task', rfl, found', same.trans work⟩

end Consuming

end QueryStream
