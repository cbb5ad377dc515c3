/-
  Proofs/Engine/Starts.lean --- how tasks start.

  A task is made with the job that starts it queued.  Until that job begins, the task waits for
  nothing, and it is to be cancelled just if its promise was (`Unbegun`); once it has begun, no
  job starts the task again (`Begun`).  Along a course every task is one or the other
  (`Course.starting`).
-/
import QueryStream.Proofs.Engine.Ends

set_option autoImplicit false

namespace QueryStream

/-! ## Jobs that start a task -/

section Jobs

variable {l l' : EngineLoop} {e e' : Engine} {s s' : Situation} {m : Move} {h : List Move}
  {i : Instruction} {rest : List Instruction} {k : Job} {t u : TaskId} {task task' : Task}
  {p : PromiseId}

/-- Where nothing is done for a task, no job that goes on with one is new. -/
theorem Loop.Drifts.holds {may : PromiseId → Prop} (drifts : l.Drifts may l')
    (task : k.task? = some t) (held : l'.Holds k) : l.Holds k := by
  induction drifts with
  | refl => exact held
  | create _ ih => exact ih (held.of_push rfl)
  | createSettled s _ ih => exact ih (held.of_push rfl)
  | settle s allowed _ ih => exact ih held.of_settle
  | watch p taskless _ ih =>
      rcases held.of_watch with held | rfl
      · exact ih held
      · simp [taskless] at task
  | soon taskless _ ih =>
      rcases held.of_soon with held | rfl
      · exact ih held
      · simp [taskless] at task
  | unwatch p taskless _ ih => exact ih held.of_unwatch

theorem Loop.Evolves.ready (evolves : l.Evolves l') (mem : k ∈ l.ready) : k ∈ l'.ready := by
  induction evolves with
  | refl => exact mem
  | create _ ih => exact ih
  | createSettled s _ ih => exact ih
  | settle p s _ ih =>
      rcases Loop.settle_cases _ p s with heq | ⟨watchers, -, heq⟩
      · rwa [heq]
      · rw [heq]
        exact List.mem_append_left _ ih
  | watch p follows _ ih =>
      rcases Loop.watch_cases _ p _ with ⟨_, -, heq⟩ | ⟨_, -, heq⟩ | ⟨-, heq⟩
      · rwa [heq]
      · rw [heq]
        exact List.mem_append_left _ ih
      · rwa [heq]
  | soon follows _ ih => exact List.mem_append_left _ ih

namespace Engine

theorem holds_start_spawn (w : Work) (held : (e.spawn w).loop.Holds (.start t)) :
    e.loop.Holds (.start t) ∨ t = e.tasks.size ∧ t < (e.spawn w).tasks.size := by
  rcases held.of_soon with held | same
  · exact .inl (held.of_push rfl)
  · obtain rfl := Job.start.inj same
    exact .inr ⟨rfl, by simp [spawn]⟩

/-- A job that starts a task is new only with that task. -/
theorem Alters.holds_start (alters : e.Alters i e') (unqueued : i.isQueuing = false)
    (held : e'.loop.Holds (.start t)) :
    e.loop.Holds (.start t) ∨ t = e.tasks.size ∧ t < e'.tasks.size := by
  cases staffs : i.isStaffing with
  | false => exact .inl ((alters.leavesTasks staffs).drifts.holds rfl held)
  | true =>
      cases alters with
      | same => exact .inl held
      | soon j => simp_all [Instruction.isQueuing, Instruction.isStaffing]
      | spawn w receiver => exact holds_start_spawn w held
      | startRelease r receiver =>
          rcases held.of_watch with held | same
          · exact holds_start_spawn .release held
          · cases same
      | handIteration u k => exact .inl held
      | await p found =>
          rcases held.of_watch with held | same
          · exact .inl held
          · cases same
      | awaitCancelled p found =>
          rcases held.of_settle.of_watch with held | same
          · exact .inl held
          · cases same
      | _ => cases staffs

theorem AltersBy.holds_start (alters : e.AltersBy k e') (held : e'.loop.Holds (.start t)) :
    e.loop.Holds (.start t) ∨ t = e.tasks.size ∧ t < e'.tasks.size := by
  cases alters with
  | same => exact .inl held
  | cancelled u =>
      have leaves : e.LeavesTasks (.finish u .nothing) (e.endTask u .cancelled) :=
        .endTask (beq_self_eq_true u)
      exact .inl (leaves.drifts.holds rfl held)
  | resumed u => exact .inl held
  | relayed target | reported target => exact .inl held.of_settle
  | forgotten source target => exact .inl held.of_unwatch
  | abandoned k => exact holds_start_spawn (.close k) held

end Engine

end Jobs

/-! ## What a job finds that starts a task -/

/-- What a job looks at that starts or resumes a task. -/
def Task.due (task : Task) : PromiseId × Work × Option PromiseId × Bool :=
  (task.promise, task.work, task.waitingFor, task.isCancelRequested)

theorem Task.eq_of_due {task task' : Task} (due : task'.due = task.due) :
    task'.promise = task.promise ∧ task'.work = task.work ∧
      task'.waitingFor = task.waitingFor ∧
      task'.isCancelRequested = task.isCancelRequested := by
  simpa [Task.due] using due

/-- Whether an instruction has a task wait, or cancels a promise. -/
def Instruction.isHalting : Instruction → Bool
  | .await _ _ => true
  | .cancelPromise _ => true
  | _ => false

section Due

variable {e e' : Engine} {s s' : Situation} {m : Move} {h : List Move} {i : Instruction}
  {rest : List Instruction} {k : Job} {t u : TaskId} {task task' : Task} {p : PromiseId}

namespace Engine

theorem tasks_signal (k : IterationId) (signal : Signal) :
    (e.signal k signal).tasks = e.tasks := by
  unfold Engine.signal
  split
  · rfl
  · split <;> rfl

theorem tasks_endTask (t : TaskId) (st : Settlement Delivery Failure) :
    (e.endTask t st).tasks = e.tasks := by
  unfold endTask
  split <;> rfl

theorem due_modifyTask {f : Task → Task} (found : e.tasks[t]? = some task)
    (kept : u = t → (f task).due = task.due) :
    ∃ task', (e.modifyTask u f).tasks[t]? = some task' ∧ task'.due = task.due := by
  simp only [modifyTask, Array.getElem?_modify, found]
  split
  · rename_i this
    exact ⟨f task, rfl, kept this⟩
  · exact ⟨task, rfl, rfl⟩

theorem due_push (found : e.tasks[t]? = some task) (made : Task) :
    ∃ task', (e.tasks.push made)[t]? = some task' ∧ task'.due = task.due := by
  have there : t < e.tasks.size := (Array.getElem?_eq_some_iff.1 found).1
  exact ⟨task, by rw [Array.getElem?_push, if_neg (Nat.ne_of_lt there), found], rfl⟩

/-- What has no task wait and cancels no promise leaves what is due. -/
theorem Alters.due (alters : e.Alters i e') (calm : i.isHalting = false)
    (found : e.tasks[t]? = some task) :
    ∃ task', e'.tasks[t]? = some task' ∧ task'.due = task.due := by
  have same (tasks : e'.tasks = e.tasks) :
      ∃ task', e'.tasks[t]? = some task' ∧ task'.due = task.due := ⟨task, tasks ▸ found, rfl⟩
  cases alters with
  | await | awaitCancelled | cancel => cases calm
  | record k r => exact same (tasks_signal k _)
  | ended k f => exact same (tasks_signal k _)
  | finish u d st => exact same (tasks_endTask u _)
  | caught u th st => exact same (tasks_endTask u _)
  | spawn w receiver => exact due_push found _
  | startRelease r receiver => exact due_push found _
  | handIteration u k => exact due_modifyTask found fun _ => rfl
  | collect u r => exact due_modifyTask found fun _ => rfl
  | _ => exact same rfl

theorem Roster.eq_of_promise (roster : e.Roster) {other : Task}
    (found : e.tasks[t]? = some task) (found' : e.tasks[u]? = some other)
    (promise : other.promise = task.promise) : u = t := by
  rcases (roster.enrolled t task found).solely _ (.task found' promise) with role | ⟨id, role⟩
  · exact Role.task.inj role
  · cases role

/-- Cancelling a promise has a task that waits for nothing cancelled when it goes on, if the
promise is that of the task. -/
theorem Roster.cancel (roster : e.Roster) (found : e.tasks[t]? = some task)
    (unsettled : e.loop.settlement? task.promise = none) (waits : task.waitingFor = none)
    (p : PromiseId) : ∃ task', (e.cancel p).tasks[t]? = some task' ∧
      task'.promise = task.promise ∧ task'.work = task.work ∧ task'.waitingFor = none ∧
      task'.isCancelRequested = (task.isCancelRequested || task.promise == p) := by
  have same {tasks : Array Task} (other : task.promise ≠ p) (kept : tasks[t]? = some task) :
      ∃ task', tasks[t]? = some task' ∧ task'.promise = task.promise ∧ task'.work = task.work ∧
        task'.waitingFor = none ∧
        task'.isCancelRequested = (task.isCancelRequested || task.promise == p) :=
    ⟨task, kept, rfl, rfl, waits, by simp [other]⟩
  unfold Engine.cancel
  split
  · rename_i settled
    refine same ?_ found
    rintro rfl
    simp [Loop.isDone, unsettled] at settled
  · split
    · rename_i taskless
      refine same (fun promise => ?_) found
      have none := Array.findIdx?_eq_none_iff.1 taskless task (Array.mem_of_getElem? found)
      simp [promise] at none
    · rename_i u taskOf
      obtain ⟨bound, promise, -⟩ := Array.findIdx?_eq_some_iff_getElem.1 taskOf
      have found' : e.tasks[u]? = some e.tasks[u] := Array.getElem?_eq_getElem bound
      have promise : e.tasks[u].promise = p := beq_iff_eq.1 promise
      by_cases this : u = t
      · subst this
        have same : e.tasks[u] = task := Option.some.inj (found'.symm.trans found)
        rw [same] at promise
        refine ⟨{ task with isCancelRequested := true }, ?_, rfl, rfl, waits, by simp [promise]⟩
        simp [found, waits, modifyTask, Array.getElem?_modify]
      · have other : task.promise ≠ p := fun heq =>
          this (roster.eq_of_promise found found' (promise.trans heq.symm))
        have apart (f : Task → Task) : (e.modifyTask u f).tasks[t]? = some task := by
          simp only [modifyTask, Array.getElem?_modify, if_neg this, found]
        split
        · split
          · exact same other (apart _)
          · exact same other found
        · exact same other (apart _)

end Engine

/-! ## Tasks that are made -/

/-- What holds of a task once it is made. -/
structure Made (e e' : Engine) (t : TaskId) (task' : Task) : Prop where
  new : t = e.tasks.size
  promise : task'.promise = e.loop.promises.size
  waits : task'.waitingFor = none
  requested : task'.isCancelRequested = false
  queued : .start t ∈ e'.loop.ready

namespace Engine

theorem made_of_push {w : Work} (tasks : e'.tasks = (e.spawn w).tasks)
    (ready : .start e.tasks.size ∈ e'.loop.ready) (found : e'.tasks[t]? = some task') :
    t < e.tasks.size ∨ Made e e' t task' := by
  simp only [tasks, spawn, Array.getElem?_push] at found
  split at found
  · rename_i new
    cases found
    exact .inr ⟨new, rfl, rfl, rfl, new ▸ ready⟩
  · exact .inl (Array.getElem?_eq_some_iff.1 found).1

theorem ready_spawn (w : Work) : .start e.tasks.size ∈ (e.spawn w).loop.ready :=
  List.mem_append_right _ (List.mem_singleton_self _)

/-- A task was there before an instruction, or is made by it. -/
theorem Alters.spawned (alters : e.Alters i e') (found : e'.tasks[t]? = some task') :
    t < e.tasks.size ∨ Made e e' t task' := by
  have there (size : e'.tasks.size = e.tasks.size) : t < e.tasks.size :=
    size ▸ (Array.getElem?_eq_some_iff.1 found).1
  cases alters with
  | spawn w receiver => exact made_of_push rfl (ready_spawn w) found
  | startRelease r receiver =>
      refine made_of_push rfl ?_ found
      have evolves : (e.spawn .release).loop.Evolves
          ((e.spawn .release).loop.watch e.loop.nextId (.noteRelease e.loop.nextId)) :=
        .watch _ (by simp [Job.source?]) .refl
      exact evolves.ready (ready_spawn .release)
  | record k r => exact .inl (there (congrArg Array.size (tasks_signal k _)))
  | ended k f => exact .inl (there (congrArg Array.size (tasks_signal k _)))
  | cancel p => exact .inl (there (LeavesTasks.cancel p).badges.size)
  | finish u d st => exact .inl (there (congrArg Array.size (tasks_endTask u _)))
  | caught u th st => exact .inl (there (congrArg Array.size (tasks_endTask u _)))
  | handIteration | collect => exact .inl (there (by simp [modifyTask]))
  | await | awaitCancelled => exact .inl (there (by simp [waiting]))
  | _ => exact .inl (there rfl)

theorem AltersBy.spawned (alters : e.AltersBy k e') (found : e'.tasks[t]? = some task') :
    t < e.tasks.size ∨ Made e e' t task' := by
  have there (size : e'.tasks.size = e.tasks.size) : t < e.tasks.size :=
    size ▸ (Array.getElem?_eq_some_iff.1 found).1
  cases alters with
  | cancelled u => exact .inl (there (congrArg Array.size (tasks_endTask u _)))
  | resumed u => exact .inl (there (by simp [modifyTask]))
  | abandoned k => exact made_of_push rfl (ready_spawn _) found
  | _ => exact .inl (there rfl)

end Engine

/-! ## Where every task stands -/

/-- A task is yet to begin: the job that starts it is queued, it waits for nothing, and it is to
be cancelled just if its promise was. -/
structure Unbegun (h : List Move) (s : Situation) (t : TaskId) (task : Task) : Prop where
  queued : .start t ∈ s.engine.loop.ready
  unbegun : .began (.start t) ∉ h
  waits : task.waitingFor = none
  requested : task.isCancelRequested = true ↔ ∃ r, .carried (.cancelPromise task.promise) r ∈ h

/-- No job starts a task any more. -/
structure Begun (h : List Move) (s : Situation) (t : TaskId) : Prop where
  unheld : ¬ s.engine.loop.Holds (.start t)
  began : .began (.start t) ∈ h

/-- Every task is yet to begin or has begun, and no job starts a task that was not made. -/
structure Starting (h : List Move) (s : Situation) : Prop where
  tasks : ∀ (t : TaskId) (task : Task), s.engine.tasks[t]? = some task →
    Unbegun h s t task ∨ Begun h s t
  unmade : ∀ t, s.engine.tasks.size ≤ t →
    ¬ s.engine.loop.Holds (.start t) ∧ .began (.start t) ∉ h
  cancelled : ∀ p r, .carried (.cancelPromise p) r ∈ h → p < s.engine.loop.promises.size

/-- Whether an instruction cancels a promise. -/
def Instruction.cancelsPromise (p : PromiseId) : Instruction → Bool
  | .cancelPromise q => p == q
  | _ => false

theorem Loop.Holds.tally_pos {l : EngineLoop} (held : l.Holds k) (goesOn : k.task? = some t) :
    0 < l.tally t := by
  cases held with
  | ready mem =>
      have counted : 0 < tallyOf t l.ready := List.countP_pos_iff.2 ⟨k, mem, by simp [goesOn]⟩
      exact Nat.lt_of_lt_of_le counted (Nat.le_add_right ..)
  | @waiting p pr found mem =>
      have counted : 0 < tallyOf t pr.watchers := List.countP_pos_iff.2 ⟨k, mem, by simp [goesOn]⟩
      have among : tallyOf t pr.watchers ∈ l.promises.toList.map fun pr => tallyOf t pr.watchers :=
        List.mem_map_of_mem (Array.mem_toList_iff.2 (Array.mem_of_getElem? found))
      exact Nat.lt_of_lt_of_le (List.sum_pos_iff_exists_pos_nat.2 ⟨_, among, counted⟩)
        (Nat.le_add_left ..)

/-- A task that is yet to begin has its one job queued, and its promise is not settled. -/
theorem Engine.Roster.unbegun (roster : e.Roster) (found : e.tasks[t]? = some task)
    (queued : .start t ∈ e.loop.ready) :
    e.loop.tally t = 1 ∧ e.loop.settlement? task.promise = none := by
  have enrolled := roster.enrolled t task found
  have held : 0 < e.loop.tally t := Loop.Holds.tally_pos (.ready queued) rfl
  have once : e.loop.tally t = 1 := Nat.le_antisymm enrolled.once held
  exact ⟨once, enrolled.unsettled once⟩

/-- What is carried out leaves a task that is yet to begin as it is, but for having it cancelled
when it begins. -/
theorem Crew.unbegun_exec (crew : Crew s) (head : s.agenda = i :: rest)
    (found : s.engine.tasks[t]? = some task) (queued : .start t ∈ s.engine.loop.ready)
    (waits : task.waitingFor = none) :
    ∃ task', (s.engine.exec i).1.tasks[t]? = some task' ∧ task'.promise = task.promise ∧
      task'.waitingFor = none ∧
      task'.isCancelRequested = (task.isCancelRequested || i.cancelsPromise task.promise) := by
  obtain ⟨counted, unsettled⟩ := crew.roster.unbegun found queued
  cases halts : i.isHalting with
  | false =>
      obtain ⟨task', found', due⟩ := (Engine.alters_exec i).due halts found
      obtain ⟨promise, -, waits', requested⟩ := Task.eq_of_due due
      have other : i.cancelsPromise task.promise = false := by
        cases i <;> first | rfl | cases halts
      exact ⟨task', found', promise, waits'.trans waits, by rw [requested, other, Bool.or_false]⟩
  | true =>
      cases i with
      | cancelPromise p =>
          obtain ⟨task', found', promise, -, waits', requested⟩ :=
            crew.roster.cancel found unsettled waits p
          exact ⟨task', found', promise, waits', requested⟩
      | await u p =>
          obtain ⟨other, engaged, awaitable⟩ := crew.awaiting head
          -- the task that is to wait is under way, so it is not this one
          have apart : u ≠ t := fun same => by
            have free := engaged.free
            rw [same, counted] at free
            cases free
          refine ⟨task, ?_, rfl, waits, by simp [Instruction.cancelsPromise]⟩
          rcases Engine.await_cases engaged.found awaitable.created with
            ⟨s, -, awaits⟩ | ⟨e', awaits, tasks, -⟩
          · simp only [Engine.exec, awaits, found]
          · simp only [Engine.exec, awaits, tasks, Array.getElem?_setIfInBounds,
              if_neg apart, found]
      | _ => cases halts

theorem Engine.AltersBy.ready {j : Job} (alters : e.AltersBy j e') (mem : k ∈ e.loop.ready) :
    k ∈ e'.loop.ready := by
  cases alters with
  | same => exact mem
  | cancelled u => exact (e.frame_endTask u .cancelled).loop.ready mem
  | resumed u => exact mem
  | relayed target | reported target => exact Loop.Evolves.ready (.settle target _ .refl) mem
  | forgotten source target =>
      simp only [Loop.unwatch]
      split <;> exact mem
  | abandoned k => exact List.mem_append_left _ mem

/-- A job leaves a task that is yet to begin as it is, unless it starts that one. -/
theorem Engine.Roster.unbegun_runJob {j : Job} {loop : EngineLoop} (roster : e.Roster)
    (next : e.loop.next? = some (j, loop)) (found : e.tasks[t]? = some task)
    (queued : .start t ∈ loop.ready) :
    ({ e with loop }.runJob j).1.tasks[t]? = some task := by
  have alters := Engine.altersBy_runJob (e := { e with loop }) j
  have held : 0 < loop.tally t := Loop.Holds.tally_pos (.ready queued) rfl
  generalize ({ e with loop }.runJob j).1 = e' at alters
  cases alters with
  | cancelled u => rw [Engine.tasks_endTask, found]
  | resumed u =>
      -- the task that goes on is not queued any more, so it is not this one
      have apart : u ≠ t := fun same => by
        have free := (roster.begins (t := u) next rfl).free
        rw [same] at free
        omega
      simp only [Engine.modifyTask, Array.getElem?_modify, if_neg apart, found]
  | abandoned k =>
      have there : t < e.tasks.size := (Array.getElem?_eq_some_iff.1 found).1
      simp only [Engine.spawn, Array.getElem?_push, if_neg (Nat.ne_of_lt there), found]
  | _ => exact found

theorem Step.holds_start (step : Step s m s') (unqueued : ∀ i ∈ s.agenda, i.isQueuing = false)
    (held : s'.engine.loop.Holds (.start t)) :
    s.engine.loop.Holds (.start t) ∨
      t = s.engine.tasks.size ∧ t < s'.engine.tasks.size := by
  cases step with
  | carry own => exact (Engine.alters_exec _).holds_start (unqueued _ List.mem_cons_self) held
  | answer r => exact .inl held
  | call next => exact .inl held
  | @begin e j loop next =>
      rcases (Engine.altersBy_runJob (e := { e with loop }) j).holds_start held with held | new
      · exact .inl (held.of_next? next)
      · exact .inr new

theorem Step.made_task (step : Step s m s') (found : s'.engine.tasks[t]? = some task') :
    t < s.engine.tasks.size ∨ Made s.engine s'.engine t task' := by
  cases step with
  | carry own => exact (Engine.alters_exec _).spawned found
  | answer r => exact .inl (Array.getElem?_eq_some_iff.1 found).1
  | call next => exact .inl (Array.getElem?_eq_some_iff.1 found).1
  | @begin e j loop next =>
      obtain ⟨-, promises, -⟩ := Loop.settlement?_of_next? (p := 0) next
      rcases (Engine.altersBy_runJob (e := { e with loop }) j).spawned found with there | made
      · exact .inl there
      · exact .inr ⟨made.new, promises ▸ made.promise, made.waits, made.requested, made.queued⟩

/-- A task that is yet to begin is so after a move, unless the job that starts it begins. -/
theorem Unbegun.step (unbegun : Unbegun h s t task) (found : s.engine.tasks[t]? = some task)
    (crew : Crew s) (orderly : Orderly h s) (step : Step s m s')
    (found' : s'.engine.tasks[t]? = some task') (waiting : m ≠ .began (.start t)) :
    Unbegun (m :: h) s' t task' := by
  have unbegun' : .began (.start t) ∉ m :: h := by
    rintro (_ | ⟨_, mem⟩)
    · exact waiting rfl
    · exact unbegun.unbegun mem
  -- a move that carries nothing out cancels nothing
  have kept (same : task' = task) (queued : .start t ∈ s'.engine.loop.ready)
      (other : ∀ i r, m ≠ .carried i r) : Unbegun (m :: h) s' t task' := by
    subst same
    refine ⟨queued, unbegun', unbegun.waits, unbegun.requested.trans ⟨?_, ?_⟩⟩
    · rintro ⟨r, mem⟩
      exact ⟨r, List.mem_cons_of_mem _ mem⟩
    · rintro ⟨r, _ | ⟨_, mem⟩⟩
      · exact absurd rfl (other _ r)
      · exact ⟨r, mem⟩
  cases step with
  | answer r =>
      exact kept (Option.some.inj (found'.symm.trans found)) unbegun.queued (by simp)
  | call next =>
      exact kept (Option.some.inj (found'.symm.trans found)) unbegun.queued (by simp)
  | @carry e i rest own =>
      obtain ⟨task'', found'', promise, waits, requested⟩ :=
        crew.unbegun_exec rfl found unbegun.queued unbegun.waits
      obtain rfl := Option.some.inj (found''.symm.trans found')
      have evolves := e.evolves_exec (orderly.steady i List.mem_cons_self)
      refine ⟨evolves.ready unbegun.queued, unbegun', waits, ?_⟩
      rw [requested, promise, Bool.or_eq_true, unbegun.requested]
      constructor
      · rintro (⟨r, mem⟩ | cancels)
        · exact ⟨r, List.mem_cons_of_mem _ mem⟩
        · unfold Instruction.cancelsPromise at cancels
          split at cancels
          · rename_i q
            obtain rfl := beq_iff_eq.1 cancels
            exact ⟨_, List.mem_cons_self⟩
          · cases cancels
      · rintro ⟨r, _ | ⟨_, mem⟩⟩
        · exact .inr (beq_self_eq_true _)
        · exact .inl ⟨r, mem⟩
  | @begin e j loop next =>
      obtain ⟨-, -, -, ready⟩ := orderly.sound.of_next? next
      have queued : .start t ∈ loop.ready :=
        (ready _ unbegun.queued).resolve_left fun same => waiting (same ▸ rfl)
      have same := crew.roster.unbegun_runJob next found queued
      exact kept (Option.some.inj (found'.symm.trans same))
        ((Engine.altersBy_runJob (e := { e with loop }) j).ready queued) (by simp)

/-- Once the job began that starts a task, no other does. -/
theorem Crew.unheld (crew : Crew s) (found : s.engine.tasks[t]? = some task)
    (step : Step s (.began (.start t)) s') : ¬ s'.engine.loop.Holds (.start t) := by
  intro held
  cases step with
  | @begin e j loop next =>
      have free := (crew.roster.begins (t := t) next rfl).free
      rcases (Engine.altersBy_runJob (e := { e with loop }) _).holds_start held with held | ⟨new, -⟩
      · have counted := held.tally_pos (t := t) rfl
        have free : Loop.tally ({ e with loop } : Engine).loop t = 0 := free
        omega
      · have there : t < e.tasks.size := (Array.getElem?_eq_some_iff.1 found).1
        exact absurd there (Nat.not_lt_of_le (Nat.le_of_eq new.symm))

theorem Starting.step (starting : Starting h s) (crew : Crew s) (orderly : Orderly h s)
    (step : Step s m s') (admits : Admits h m) : Starting (m :: h) s' := by
  have onward := step.onward orderly.steady
  have cancelled : ∀ p r, .carried (.cancelPromise p) r ∈ m :: h →
      p < s.engine.loop.promises.size := by
    intro p r mem
    rcases List.mem_cons.1 mem with rfl | mem
    · obtain ⟨name, handed⟩ := admits.holds p r rfl
      exact orderly.handed name p _ handed
    · exact starting.cancelled p r mem
  -- nobody starts a task before it is made
  have unmade (t : TaskId) (new : s.engine.tasks.size ≤ t) : .began (.start t) ∉ m :: h := by
    obtain ⟨unheld, unbegun⟩ := starting.unmade t new
    intro mem
    rcases List.mem_cons.1 mem with rfl | mem
    · exact unheld (.ready step.mem_ready)
    · exact unbegun mem
  refine ⟨fun t task' found' => ?_, fun t new' => ?_,
    fun p r mem => Nat.lt_of_lt_of_le (cancelled p r mem) onward.size_le⟩
  · rcases step.made_task found' with there | made
    · obtain ⟨task, found⟩ : ∃ task, s.engine.tasks[t]? = some task :=
        ⟨_, Array.getElem?_eq_getElem there⟩
      rcases starting.tasks t task found with unbegun | begun
      · by_cases begins : m = .began (.start t)
        · subst begins
          exact .inr ⟨crew.unheld found step, List.mem_cons_self⟩
        · exact .inl (unbegun.step found crew orderly step found' begins)
      · refine .inr ⟨fun held => ?_, List.mem_cons_of_mem _ begun.began⟩
        rcases step.holds_start crew.unqueued held with held | ⟨new, -⟩
        · exact begun.unheld held
        · exact absurd there (Nat.not_lt_of_le (Nat.le_of_eq new.symm))
    · refine .inl ⟨made.queued, unmade t (Nat.le_of_eq made.new.symm), made.waits, ?_⟩
      rw [made.requested]
      refine ⟨nofun, ?_⟩
      rintro ⟨r, mem⟩
      have there := cancelled _ r mem
      rw [made.promise] at there
      exact absurd there (Nat.lt_irrefl _)
  · have new := Nat.le_trans step.tasks_size_le new'
    refine ⟨fun held => ?_, unmade t new⟩
    rcases step.holds_start crew.unqueued held with held | ⟨-, there⟩
    · exact (starting.unmade t new).1 held
    · exact absurd there (Nat.not_lt_of_le new')

/-- Along a course that began with nothing, every task is yet to begin or has begun. -/
theorem Course.starting {e : Engine} (pristine : e.Pristine) (course : Course ⟨e, []⟩ h s) :
    Crew s ∧ Orderly h s ∧ Starting h s := by
  refine course.invariant (I := fun h s => Crew s ∧ Orderly h s ∧ Starting h s)
    ⟨pristine.unmanned.crew, pristine.orderly, ?_⟩ fun ⟨crew, orderly, starting⟩ step admits =>
      ⟨crew.step orderly step admits, orderly.step step admits,
        starting.step crew orderly step admits⟩
  refine ⟨fun t task found => ?_, fun t _ => ⟨fun held => ?_, by simp⟩, by simp⟩
  · simp [pristine.tasks] at found
  · have counted := held.tally_pos (t := t) rfl
    rw [pristine.unmanned.tally t] at counted
    exact absurd counted (Nat.lt_irrefl _)

end Due

end QueryStream
