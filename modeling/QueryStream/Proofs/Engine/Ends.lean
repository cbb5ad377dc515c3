/-
  Proofs/Engine/Ends.lean --- how tasks come and go.

  The promise of a task is settled by what ends the task, and by nothing else (`Crew.ends`).
  Whatever happens, the tasks that are there were there before, except for one that is yet to
  be started (`Crew.heir`).
-/
import QueryStream.Proofs.Engine.Duty

set_option autoImplicit false

namespace QueryStream

section Crew

variable {h : List Move} {s s' : Situation} {m : Move} {t : TaskId} {task task' : Task}
  {i : Instruction} {rest : List Instruction} {e e' : Engine}

/-! ## How tasks end -/

/-- What stands on the agenda and has to do with tasks is what a task has to do, or a guard, or
something thrown that reached the end of a task. -/
theorem OnDuty.bound (onDuty : OnDuty s) (mem : i ∈ s.agenda) (own : i.isPlain = false) :
    (∃ t task inside, Engaged s.engine t task ∧ Bound s.engine t task inside i) ∨
      (∃ g, i = .guarded g) ∨ ∃ t th, i = .caught (.task t) th := by
  have guard : ∀ {inside : Option IterationId} {t : TaskId}, i ∈ taskGuards inside t →
      ∃ g, i = .guarded g := by
    intro inside t mem
    rcases List.mem_append.1 mem with mem | mem
    · obtain ⟨k, -, rfl⟩ := List.mem_map.1 mem
      exact ⟨_, rfl⟩
    · exact ⟨_, List.mem_singleton.1 mem⟩
  cases onDuty with
  | vacant plain => simp [plain i mem] at own
  | ended inside t agenda => exact .inr (.inl (guard (agenda ▸ mem)))
  | ending th engaged agenda =>
      rw [agenda] at mem
      exact .inr (.inr ⟨_, th, List.mem_singleton.1 mem⟩)
  | working front own' engaged plain one agenda =>
      rw [agenda] at mem
      rcases List.mem_append.1 mem with mem | mem
      · simp [plain i mem] at own
      rcases List.mem_append.1 mem with mem | mem
      · rcases one with rfl | ⟨j, rfl, bound⟩
        · cases mem
        · rw [← List.mem_singleton.1 mem] at bound
          exact .inl ⟨_, _, _, engaged, bound⟩
      · exact .inr (.inl (guard mem))

/-- How a move settles the promise of a task. -/
inductive Ends (t : TaskId) : Settlement Delivery Failure → Move → Prop
  | finished (d : Delivery) (r : Reply) : Ends t (.value d) (.carried (.finish t d) r)
  /-- the task was to be cancelled -/
  | dropped (d : Delivery) (r : Reply) : Ends t .cancelled (.carried (.finish t d) r)
  | failed (f : Failure) (r : Reply) :
      Ends t (.failure f) (.carried (.caught (.task t) (.failure f)) r)
  | cancelled (r : Reply) : Ends t .cancelled (.carried (.caught (.task t) .cancelled) r)
  /-- the task was cancelled before it began -/
  | unbegun : Ends t .cancelled (.began (.start t))

variable {st : Settlement Delivery Failure}

/-- A task is ended with what it delivers or with what was thrown. -/
theorem Engine.settlement?_ends (found : e.tasks[t]? = some task) (ends : i.ends t = true)
    (r : Reply) (settled : (e.exec i).1.loop.settlement? task.promise = some st) :
    e.loop.settlement? task.promise = some st ∨ Ends t st (.carried i r) := by
  unfold Instruction.ends at ends
  split at ends
  · rename_i u d
    obtain rfl := beq_iff_eq.1 ends
    simp only [Engine.exec, Engine.finish, Engine.endTask, found, Engine.withLoop] at settled
    rcases Loop.settlement?_settle settled with settled | ⟨-, rfl⟩
    · exact .inl settled
    · cases task.isCancelRequested with
      | false => exact .inr (.finished d r)
      | true => exact .inr (.dropped d r)
  · rename_i u th
    obtain rfl := beq_iff_eq.1 ends
    simp only [Engine.exec, Engine.caught, Engine.endTask, found, Engine.withLoop] at settled
    rcases Loop.settlement?_settle settled with settled | ⟨-, rfl⟩
    · exact .inl settled
    · cases th with
      | failure f => exact .inr (.failed f r)
      | cancelled => exact .inr (.cancelled r)
  · cases ends

theorem Crew.settlement?_staffing (crew : Crew s) (head : s.agenda = i :: rest)
    (staffs : i.isStaffing = true) (found : s.engine.tasks[t]? = some task) :
    (s.engine.exec i).1.loop.settlement? task.promise
      = s.engine.loop.settlement? task.promise := by
  cases Instruction.staffs_of_isStaffing staffs with
  | soon queues => rfl
  | spawn w receiver => exact Engine.settlement?_spawn _
  | startRelease r receiver =>
      exact (Loop.settlement?_watch _).trans (Engine.settlement?_spawn _)
  | await u p =>
      obtain ⟨other, engaged, awaitable⟩ := crew.awaiting head
      rcases Engine.await_cases engaged.found awaitable.created with
        ⟨s, -, awaits⟩ | ⟨e', awaits, -, -, settlement⟩
      · simp only [Engine.exec, awaits]
      · simp only [Engine.exec, awaits]
        exact settlement _ fun same => awaitable.taskless t (.task found same.symm)
  | handIteration u k => rfl

/-- Of the jobs that start tasks only that of a task which is to be cancelled settles its
promise. -/
theorem Engine.Roster.ends_startTask {u : TaskId} (roster : e.Roster)
    (found : e.tasks[t]? = some task)
    (settled : (e.startTask u).1.loop.settlement? task.promise = some st) :
    e.loop.settlement? task.promise = some st ∨ Ends t st (.began (.start u)) := by
  simp only [Engine.startTask] at settled
  split at settled
  · exact .inl settled
  split at settled
  · exact .inl settled
  · by_cases this : u = t
    · subst this
      simp only [Engine.endTask, found, Engine.withLoop] at settled
      rcases Loop.settlement?_settle settled with settled | ⟨-, rfl⟩
      · exact .inl settled
      · exact .inr .unbegun
    · rw [roster.settlement?_endTask found this] at settled
      exact .inl settled
  · exact .inl settled

/-- The next job settles the promise of a task only by starting the task, which is to be
cancelled. -/
theorem Engine.Roster.ends_runJob {j : Job} {loop : EngineLoop} (roster : e.Roster)
    (found : e.tasks[t]? = some task) (next : e.loop.next? = some (j, loop))
    (settled : ({ e with loop }.runJob j).1.loop.settlement? task.promise = some st) :
    e.loop.settlement? task.promise = some st ∨ Ends t st (.began j) := by
  have enrolled := roster.enrolled t task found
  obtain ⟨same, promises, ready⟩ := Loop.settlement?_of_next? (p := task.promise) next
  rw [← same]
  cases goesOn : j.task? with
  | none =>
      by_cases abandons : ∃ k, j = .abandon k
      · obtain ⟨k, rfl⟩ := abandons
        simp only [Engine.runJob, Engine.abandon] at settled
        split at settled
        · rw [Engine.settlement?_spawn] at settled
          exact .inl settled
        · exact .inl settled
      · obtain ⟨-, drifts⟩ := Engine.leavesTasks_runJob { e with loop } goesOn
          fun k same => abandons ⟨k, same⟩
        have created : task.promise < loop.promises.size := promises ▸ enrolled.created
        rw [drifts.settlement? created fun target => ?_] at settled
        · exact .inl settled
        · -- no job settles the promise of a task in passing
          rcases enrolled.solely _ (.target (.ready ready) target) with role | ⟨id, role⟩ <;>
            cases role
  | some u =>
      cases j with
      | start u' => exact (roster.next? next).ends_startTask found settled
      | resume u' =>
          simp only [Engine.runJob, Engine.resumeTask] at settled
          split at settled <;> exact .inl settled
      | _ => cases goesOn

/-- The promise of a task is settled by what ends the task, and by nothing else. -/
theorem Crew.ends (crew : Crew s) (orderly : Orderly h s) (step : Step s m s')
    (found : s.engine.tasks[t]? = some task)
    (settled : s'.engine.loop.settlement? task.promise = some st) :
    s.engine.loop.settlement? task.promise = some st ∨ Ends t st m := by
  cases step with
  | @carry e i rest own =>
      cases staffs : i.isStaffing with
      | true =>
          have same := crew.settlement?_staffing rfl staffs found
          exact .inl (same ▸ settled)
      | false =>
          cases ends : i.ends t with
          | true => exact Engine.settlement?_ends found ends _ settled
          | false =>
              have same := crew.roster.settlement? found staffs ends
                fun p st settles => orderly.settles p st (by simp [settles])
              exact .inl (same ▸ settled)
  | answer r => exact .inl settled
  | call next => exact .inl settled
  | begin next => exact crew.roster.ends_runJob found next settled

/-! ## Tasks that are made -/

/-- Where a task comes from: it was there before the move, or the move made it. -/
inductive Heir (e : Engine) (m : Move) (e' : Engine) (t : TaskId) (task' : Task) : Prop
  | kept {task : Task} (found : e.tasks[t]? = some task) (promise : task'.promise = task.promise)
      (work : task'.work = task.work)
      (waits : ∀ p, task'.waitingFor = some p →
        task.waitingFor = some p ∨ ∃ r, m = .carried (.await t p) r)
  | made (new : e.tasks.size ≤ t) (tally : e'.loop.tally t = 1) (waits : task'.waitingFor = none)

theorem Heir.of_badge {m : Move} (found : e.tasks[t]? = some task)
    (badge : task'.badge = task.badge) : Heir e m e' t task' := by
  obtain ⟨promise, work, -, waitingFor⟩ := Task.eq_of_badge badge
  exact .kept found promise work fun p waits => .inl (waitingFor ▸ waits)

theorem Heir.of_push {m : Move} {w : Work} {p : PromiseId} (roster : e.Roster)
    (tasks : e'.tasks = e.tasks.push ⟨p, w, none, false, none, []⟩)
    (tally : e'.loop.tally e.tasks.size = e.loop.tally e.tasks.size + 1)
    (found : e'.tasks[t]? = some task') : Heir e m e' t task' := by
  rw [tasks, Array.getElem?_push] at found
  split at found
  · rename_i new
    obtain rfl := Option.some.inj found
    rw [roster.unmade _ (Nat.le_refl _), ← new] at tally
    exact .made (Nat.le_of_eq new.symm) tally rfl
  · exact .of_badge found rfl

theorem Engine.tally_spawn (w : Work) :
    (e.spawn w).loop.tally e.tasks.size = e.loop.tally e.tasks.size + 1 := by
  simp only [Engine.spawn]
  rw [Loop.tally_soon, Loop.create, Loop.tally_push _ rfl, Loop.tallyOf_singleton rfl]

theorem Engine.tally_startRelease (id : ReleaseId) (receiver : Receiver) :
    (e.startRelease id receiver).1.loop.tally e.tasks.size
      = e.loop.tally e.tasks.size + 1 :=
  (Loop.tally_watch_of_ne (by simp [Job.task?])).trans (e.tally_spawn .release)

theorem Crew.heir_exec (crew : Crew s) (head : s.agenda = i :: rest) (r : Reply)
    (found : (s.engine.exec i).1.tasks[t]? = some task') :
    Heir s.engine (.carried i r) (s.engine.exec i).1 t task' := by
  have roster := crew.roster
  cases staffs : i.isStaffing with
  | false =>
      obtain ⟨task, before, badge⟩ := (s.engine.leavesTasks_exec staffs).badges.found found
      exact .of_badge before badge
  | true =>
      cases Instruction.staffs_of_isStaffing staffs with
      | soon queues => exact .of_badge found rfl
      | spawn w receiver => exact .of_push roster rfl (s.engine.tally_spawn _) found
      | startRelease id receiver =>
          exact .of_push roster rfl (s.engine.tally_startRelease _ _) found
      | await u p =>
          obtain ⟨task, engaged, awaitable⟩ := crew.awaiting head
          rcases Engine.await_cases engaged.found awaitable.created with
            ⟨s, -, awaits⟩ | ⟨e', awaits, tasks, -⟩
          · simp only [Engine.exec, awaits] at found
            exact .of_badge found rfl
          · simp only [Engine.exec, awaits, tasks, Array.getElem?_setIfInBounds] at found
            split at found
            · rename_i this
              subst this
              have bound := (Array.getElem?_eq_some_iff.1 engaged.found).1
              rw [if_pos bound] at found
              obtain rfl := Option.some.inj found
              refine .kept engaged.found rfl rfl fun q waits => .inr ?_
              obtain rfl := Option.some.inj waits
              exact ⟨r, rfl⟩
            · exact .of_badge found rfl
      | handIteration u k =>
          simp only [Engine.exec, Engine.modifyTask, Array.getElem?_modify] at found
          split at found
          · obtain ⟨task, before, rfl⟩ := Option.map_eq_some_iff.1 found
            exact .kept before rfl rfl fun p waits => .inl waits
          · exact .of_badge found rfl

theorem Engine.Roster.heir_runJob {j : Job} (roster : e.Roster)
    (found : (e.runJob j).1.tasks[t]? = some task') :
    Heir e (.began j) (e.runJob j).1 t task' := by
  cases goesOn : j.task? with
  | none =>
      by_cases abandons : ∃ k, j = .abandon k
      · obtain ⟨k, rfl⟩ := abandons
        simp only [Engine.runJob, Engine.abandon] at found ⊢
        split at found
        · rename_i paused
          rw [if_pos paused]
          exact .of_push roster rfl (e.tally_spawn _) found
        · exact .of_badge found rfl
      · obtain ⟨badges, -⟩ := e.leavesTasks_runJob goesOn fun k same => abandons ⟨k, same⟩
        obtain ⟨task, before, badge⟩ := badges.found found
        exact .of_badge before badge
  | some u =>
      cases j with
      | start u' =>
          have leaves : e.SameBadges (e.runJob (.start u')).1 := by
            simp only [Engine.runJob, Engine.startTask]
            split
            · exact .of_eq rfl
            · split
              · exact .of_eq rfl
              · have ends : (Instruction.finish u' .nothing).ends u' = true := beq_self_eq_true u'
                exact (Engine.LeavesTasks.endTask ends).badges
              · exact .of_eq rfl
          obtain ⟨task, before, badge⟩ := leaves.found found
          exact .of_badge before badge
      | resume u' =>
          simp only [Engine.runJob, Engine.resumeTask] at found
          split at found
          · exact .of_badge found rfl
          · simp only [Engine.modifyTask, Array.getElem?_modify] at found
            split at found
            · obtain ⟨task, before, rfl⟩ := Option.map_eq_some_iff.1 found
              exact .kept before rfl rfl (by simp)
            · exact .of_badge found rfl
      | _ => cases goesOn

/-- Whatever happens, a task is one that was there, or one that is to be started. -/
theorem Crew.heir (crew : Crew s) (step : Step s m s')
    (found : s'.engine.tasks[t]? = some task') : Heir s.engine m s'.engine t task' := by
  cases step with
  | carry own => exact crew.heir_exec rfl _ found
  | answer r => exact .of_badge found rfl
  | call next => exact .of_badge found rfl
  | begin next =>
      cases (crew.roster.next? next).heir_runJob found with
      | kept before promise work waits => exact .kept before promise work waits
      | made new tally waits => exact .made new tally waits

/-! ## Tasks stay -/

theorem Engine.tasks_size_le_exec (e : Engine) (i : Instruction) :
    e.tasks.size ≤ (e.exec i).1.tasks.size := by
  cases staffs : i.isStaffing with
  | false => exact Nat.le_of_eq (e.leavesTasks_exec staffs).badges.size.symm
  | true =>
      generalize (e.exec i).1 = e', Engine.alters_exec (e := e) i = alters
      cases alters with
      | same | soon => exact Nat.le_refl _
      | spawn | startRelease => simp [Engine.spawn]
      | await | awaitCancelled => simp [Engine.waiting]
      | handIteration => simp [Engine.modifyTask]
      | _ => cases staffs

theorem Engine.tasks_size_le_runJob (e : Engine) (j : Job) :
    e.tasks.size ≤ (e.runJob j).1.tasks.size := by
  generalize (e.runJob j).1 = e', altersBy_runJob (e := e) j = alters
  cases alters with
  | cancelled t =>
      have ends : (Instruction.finish t .nothing).ends t = true := beq_self_eq_true t
      exact Nat.le_of_eq (Engine.LeavesTasks.endTask ends).badges.size.symm
  | resumed => simp [Engine.modifyTask]
  | abandoned => simp [Engine.spawn]
  | _ => exact Nat.le_refl _

theorem Step.tasks_size_le (step : Step s m s') :
    s.engine.tasks.size ≤ s'.engine.tasks.size := by
  cases step with
  | carry own => exact Engine.tasks_size_le_exec _ _
  | answer r => exact Nat.le_refl _
  | @begin e j loop next => exact Engine.tasks_size_le_runJob { e with loop } j
  | call next => exact Nat.le_refl _

theorem Crew.kept (crew : Crew s) (step : Step s m s') (found : s.engine.tasks[t]? = some task) :
    ∃ task', s'.engine.tasks[t]? = some task' ∧ task'.promise = task.promise ∧
      task'.work = task.work := by
  have made : t < s.engine.tasks.size := (Array.getElem?_eq_some_iff.1 found).1
  have found' := Array.getElem?_eq_getElem (Nat.lt_of_lt_of_le made step.tasks_size_le)
  cases crew.heir step found' with
  | kept before promise work waits =>
      obtain rfl := Option.some.inj (before.symm.trans found)
      exact ⟨_, found', promise, work⟩
  | made new tally waits => exact absurd made (Nat.not_lt_of_le new)

end Crew

end QueryStream
