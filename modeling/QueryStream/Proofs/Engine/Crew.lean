/-
  Proofs/Engine/Crew.lean --- what is on the agenda for tasks.

  Jobs begin only when nothing is under way; so what a task has to do stands at the end of the
  agenda, one instruction at a time, behind it the guards of the task and in front of it only
  what has nothing to do with tasks (`OnDuty`).  No job goes on with a task that is on the
  agenda, so whatever is carried out keeps what is known of all tasks (`Crew.roster_exec`,
  `Engine.Roster.runJob`).
-/
import QueryStream.Proofs.Engine.Tasks

set_option autoImplicit false

namespace QueryStream

/-! ## What is on the agenda for tasks -/

/-- A task that is under way: no job goes on with it, and it is not over. -/
structure Engaged (e : Engine) (t : TaskId) (task : Task) : Prop where
  found : e.tasks[t]? = some task
  free : e.loop.tally t = 0
  unsettled : e.loop.settlement? task.promise = none

/-- The guards of a task, inside the iteration that it reads or outside. -/
def taskGuards (inside : Option IterationId) (t : TaskId) : List Instruction :=
  (inside.toList.map fun k => .guarded (.iteration k)) ++ [.guarded (.task t)]

/-- What a task has to do, inside an iteration or outside. -/
inductive Bound (e : Engine) (t : TaskId) (task : Task) :
    Option IterationId → Instruction → Prop
  | body : Bound e t task none (.body t)
  | runRelease (work : task.work = .release) : Bound e t task none (.ask (.runRelease t))
  | awaitNever (work : task.work = .release) : Bound e t task none (.awaitNever t)
  | summary {c : CursorId} (work : task.work = .consume c) :
      Bound e t task none (.cursor c (.summary (.task t)))
  | relay {c : CursorId} (work : task.work = .consume c) :
      Bound e t task none (.relay c (.task t))
  | close {k : IterationId} (work : task.work = .close k) :
      Bound e t task none (.iteration k t .close)
  | records {q : ResultId} (fetchSize former : Value) (work : task.work = .collect q) :
      Bound e t task none (.records q fetchSize former (.task t))
  | handIteration {q : ResultId} (k : IterationId) (work : task.work = .collect q) :
      Bound e t task none (.handIteration (.task t) k)
  | advance {k : IterationId} (reads : Engine.iterationOf? task = some k) :
      Bound e t task none (.iteration k t .advance)
  /-- an iteration is left -/
  | caught (k : IterationId) (th : Thrown) : Bound e t task none (.caught (.iteration k) th)
  | inside {k : IterationId} {a : Iteration.Action} (reads : Engine.iterationOf? task = some k)
      (advance : a ≠ .advance) (close : a ≠ .close) : Bound e t task (some k) (.iteration k t a)
  | awaitSignal {k : IterationId} (reads : Engine.iterationOf? task = some k) :
      Bound e t task (some k) (.awaitSignal k t)
  | yielded {k : IterationId} (r : Record) (reads : Engine.iterationOf? task = some k) :
      Bound e t task (some k) (.yielded t r)
  | exhausted {k : Option IterationId} (reads : (Engine.iterationOf? task).isSome = true) :
      Bound e t task k (.exhausted t)
  | await {p : PromiseId} (awaitable : e.Awaitable p) :
      Bound e t task (Engine.iterationOf? task) (.await t p)
  | woken (s : Settlement Delivery Failure) :
      Bound e t task (Engine.iterationOf? task) (.woken t s)
  | finish {k : Option IterationId} (d : Delivery) : Bound e t task k (.finish t d)

/-- What is on the agenda for tasks: nothing, or what one task has to do, with its guards
behind it; in front there is only what has nothing to do with tasks. -/
inductive OnDuty (s : Situation) : Prop
  | vacant (plain : ∀ i ∈ s.agenda, i.isPlain = true)
  | working {t : TaskId} {task : Task} {inside : Option IterationId}
      (front own : List Instruction) (engaged : Engaged s.engine t task)
      (plain : ∀ i ∈ front, i.isPlain = true)
      (one : own = [] ∨ ∃ i, own = [i] ∧ Bound s.engine t task inside i)
      (agenda : s.agenda = front ++ (own ++ taskGuards inside t))
  /-- something thrown reached the end of the task -/
  | ending {t : TaskId} {task : Task} (th : Thrown) (engaged : Engaged s.engine t task)
      (agenda : s.agenda = [.caught (.task t) th])
  /-- the task is over -/
  | ended (inside : Option IterationId) (t : TaskId) (agenda : s.agenda = taskGuards inside t)

/-- What stands first and has to do with tasks is what a task has to do, or a guard. -/
inductive Foremost (e : Engine) (i : Instruction) (rest : List Instruction) : Prop
  | own {t : TaskId} {task : Task} {inside : Option IterationId} (engaged : Engaged e t task)
      (bound : Bound e t task inside i) (guards : rest = taskGuards inside t)
  | ending {t : TaskId} {task : Task} (th : Thrown) (engaged : Engaged e t task)
      (caught : i = .caught (.task t) th) (last : rest = [])
  | guard (g : Guard) (guarded : i = .guarded g)
      (left : rest = [] ∨ ∃ t, rest = taskGuards none t)

/-- Whether an instruction queues a job that goes on with a task. -/
def Instruction.isQueuing : Instruction → Bool
  | .soon j => j.task?.isSome
  | _ => false

/-- What holds of all tasks, and of what is on the agenda for them. -/
structure Crew (s : Situation) : Prop where
  roster : s.engine.Roster
  unqueued : ∀ i ∈ s.agenda, i.isQueuing = false
  onDuty : OnDuty s

section Crew

variable {c : Conduct} {h : List Move} {s s' : Situation} {m : Move} {t u : TaskId}
  {task task' : Task} {i : Instruction} {rest : List Instruction} {inside : Option IterationId}
  {e e' : Engine}

theorem taskGuards_cases (inside : Option IterationId) (t : TaskId) :
    ∃ g tail, taskGuards inside t = .guarded g :: tail ∧
      (tail = [] ∨ ∃ t, tail = taskGuards none t) := by
  cases inside with
  | none => exact ⟨_, [], rfl, .inl rfl⟩
  | some k => exact ⟨_, _, rfl, .inr ⟨t, rfl⟩⟩

theorem OnDuty.foremost (onDuty : OnDuty s) (head : s.agenda = i :: rest)
    (own : i.isPlain = false) : Foremost s.engine i rest := by
  have guards : ∀ (inside : Option IterationId) (t : TaskId),
      i :: rest = taskGuards inside t → Foremost s.engine i rest := fun inside t same => by
    obtain ⟨g, tail, split, left⟩ := taskGuards_cases inside t
    obtain ⟨rfl, rfl⟩ := List.cons.inj (same.trans split)
    exact .guard g rfl left
  cases onDuty with
  | vacant plain => simp [plain i (by simp [head])] at own
  | ended inside t agenda => exact guards inside t (head.symm.trans agenda)
  | ending th engaged agenda =>
      obtain ⟨rfl, rfl⟩ := List.cons.inj (head.symm.trans agenda)
      exact .ending th engaged rfl rfl
  | @working t task inside front own' engaged plain one agenda =>
      have split := head.symm.trans agenda
      cases front with
      | cons j front =>
          obtain ⟨rfl, -⟩ := List.cons.inj split
          simp [plain i (List.mem_cons_self ..)] at own
      | nil =>
          rcases one with rfl | ⟨j, rfl, bound⟩
          · exact guards inside t split
          · obtain ⟨rfl, rfl⟩ := List.cons.inj split
            exact .own engaged bound rfl

/-- Neither a guard nor anything thrown stands first, so it is what a task has to do. -/
theorem OnDuty.own_of_head (onDuty : OnDuty s) (head : s.agenda = i :: rest)
    (own : i.isPlain = false) (uncaught : ∀ t th, i ≠ .caught (.task t) th)
    (unguarded : ∀ g, i ≠ .guarded g) :
    ∃ t task inside, Engaged s.engine t task ∧ Bound s.engine t task inside i ∧
      rest = taskGuards inside t := by
  cases onDuty.foremost head own with
  | own engaged bound guards => exact ⟨_, _, _, engaged, bound, guards⟩
  | ending th engaged caught last => exact absurd caught (uncaught _ _)
  | guard g guarded left => exact absurd guarded (unguarded g)

theorem Crew.awaiting {p : PromiseId} (crew : Crew s) (head : s.agenda = .await t p :: rest) :
    ∃ task, Engaged s.engine t task ∧ s.engine.Awaitable p := by
  obtain ⟨u, task, inside, engaged, bound, -⟩ :=
    crew.onDuty.own_of_head head rfl (by simp) (by simp)
  cases bound with
  | await awaitable => exact ⟨task, engaged, awaitable⟩

theorem Crew.collecting {k : IterationId} (crew : Crew s)
    (head : s.agenda = .handIteration (.task t) k :: rest) :
    ∃ task q, Engaged s.engine t task ∧ task.work = .collect q := by
  obtain ⟨u, task, inside, engaged, bound, -⟩ :=
    crew.onDuty.own_of_head head rfl (by simp) (by simp)
  cases bound with
  | handIteration k work => exact ⟨task, _, engaged, work⟩

/-- What ends a task stands first only while that task is under way. -/
theorem Crew.tally_of_ends (crew : Crew s) (head : s.agenda = i :: rest)
    (ends : i.ends t = true) : s.engine.loop.tally t = 0 := by
  have own : i.isPlain = false := by
    unfold Instruction.ends at ends
    split at ends <;> first | rfl | cases ends
  cases crew.onDuty.foremost head own with
  | own engaged bound guards =>
      cases bound <;> first
        | cases ends
        | (obtain rfl := beq_iff_eq.1 ends; exact engaged.free)
  | ending th engaged caught last =>
      subst caught
      obtain rfl := beq_iff_eq.1 ends
      exact engaged.free
  | guard g guarded left =>
      subst guarded
      cases ends

/-! ### Instructions -/

/-- A task that is under way waits for a promise. -/
theorem Engine.Roster.waits {p : PromiseId} (roster : e.Roster)
    (engaged : Engaged e t task) (awaitable : e.Awaitable p)
    (same : task'.promise = task.promise ∧ task'.work = task.work ∧
      task'.iteration = task.iteration) (waits : task'.waitingFor = some p)
    (tasks : e'.tasks = e.tasks.setIfInBounds t task')
    (tally : ∀ u, e'.loop.tally u = e.loop.tally u + Loop.tallyOf u [.resume t])
    (settlement : ∀ q, p ≠ q → e'.loop.settlement? q = e.loop.settlement? q)
    (recalls : e.Recalls e') : e'.Roster := by
  have apart : ∀ (u : TaskId) (other : Task), e.tasks[u]? = some other → p ≠ other.promise :=
    fun u other found promise => awaitable.taskless u (promise ▸ .task found rfl)
  have unchanged : ∀ u, t ≠ u → e'.loop.tally u = e.loop.tally u := fun u other => by
    rw [tally, Loop.tallyOf_singleton_of_ne (by simpa [Job.task?] using other), Nat.add_zero]
  have bound : t < e.tasks.size := (Array.getElem?_eq_some_iff.1 engaged.found).1
  refine ⟨fun u other found => ?_, fun u absent => ?_⟩
  · rw [tasks, Array.getElem?_setIfInBounds] at found
    split at found
    · rename_i this
      subst this
      obtain rfl : task' = other := by simpa [bound] using found
      have enrolled := roster.enrolled t task engaged.found
      obtain ⟨promise, work, iteration⟩ := same
      have counted : e'.loop.tally t = 1 := by
        rw [tally, engaged.free, Loop.tallyOf_singleton rfl]
      refine ⟨?_, ?_, ?_, fun q waiting => ?_, Nat.le_of_eq counted, fun _ => ?_⟩
      · rw [promise]
        exact Nat.lt_of_lt_of_le enrolled.created recalls.size_le
      · rw [promise]
        exact fun r plays => enrolled.solely r (recalls.plays_of_lt enrolled.created plays)
      · rw [iteration, work]
        exact enrolled.reads
      · obtain rfl : p = q := Option.some.inj (waits.symm.trans waiting)
        exact awaitable.recalls recalls
      · rw [promise, settlement _ (apart t task engaged.found)]
        exact engaged.unsettled
    · rename_i another
      have enrolled := roster.enrolled u other found
      have same := unchanged u another
      refine enrolled.recalls rfl recalls (Nat.le_of_eq same) fun counted => ?_
      rw [settlement _ (apart u other found)]
      exact enrolled.unsettled (same ▸ counted)
  · rw [tasks, Array.size_setIfInBounds] at absent
    rw [unchanged u (Nat.ne_of_lt (Nat.lt_of_lt_of_le bound absent))]
    exact roster.unmade u absent

theorem Engine.await_cases (found : e.tasks[t]? = some task) {p : PromiseId}
    (created : p < e.loop.promises.size) :
    (∃ s, e.loop.settlement? p = some s ∧ e.await t p = (e, .go [.woken t s])) ∨
      ∃ e', e.await t p = (e', .suspend t) ∧
        e'.tasks = e.tasks.setIfInBounds t
          { task with waitingFor := some p, isCancelRequested := false } ∧
        (∀ u, e'.loop.tally u = e.loop.tally u + Loop.tallyOf u [.resume t]) ∧
        ∀ q, p ≠ q → e'.loop.settlement? q = e.loop.settlement? q := by
  unfold Engine.await
  cases settled : e.loop.settlement? p with
  | some s => exact .inl ⟨s, rfl, rfl⟩
  | none =>
      simp only [found]
      refine .inr ⟨_, rfl, ?_⟩
      cases task.isCancelRequested with
      | false =>
          exact ⟨rfl, fun u => Loop.tally_watch created, fun q _ => Loop.settlement?_watch _⟩
      | true =>
          exact ⟨rfl, fun u => Loop.tally_settle.trans (Loop.tally_watch created),
            fun q other => (Loop.settlement?_settle_of_ne other).trans (Loop.settlement?_watch _)⟩

theorem Engine.Roster.await {p : PromiseId} (roster : e.Roster) (engaged : Engaged e t task)
    (awaitable : e.Awaitable p) : (e.await t p).1.Roster := by
  have recalls : e.Recalls (e.await t p).1 := e.recalls_exec (i := .await t p) rfl
  rcases Engine.await_cases engaged.found awaitable.created with
    ⟨s, -, awaits⟩ | ⟨e', awaits, tasks, tally, settlement⟩
  · rwa [awaits]
  · rw [awaits] at recalls ⊢
    refine roster.waits engaged awaitable ?_ ?_ tasks tally settlement recalls
    · exact ⟨rfl, rfl, rfl⟩
    · rfl

/-- A task that collects records is given the iteration to read. -/
theorem Engine.Roster.handIteration {q : ResultId} (roster : e.Roster)
    (engaged : Engaged e t task) (work : task.work = .collect q) (k : IterationId) :
    (e.exec (.handIteration (.task t) k)).1.Roster := by
  have recalls := e.recalls_exec (i := .handIteration (.task t) k) rfl
  refine ⟨fun u other found => ?_, fun u absent => ?_⟩
  · simp only [Engine.exec, Engine.modifyTask, Array.getElem?_modify] at found
    split at found
    · rename_i this
      subst this
      obtain rfl : { task with iteration := some k } = other := by
        simpa [engaged.found] using found
      obtain ⟨created, solely, -, waits, once, unsettled⟩ := roster.enrolled t task engaged.found
      exact ⟨created, fun r plays => solely r (recalls.plays_of_lt created plays),
        fun _ _ => ⟨q, work⟩, fun p waiting => (waits p waiting).recalls recalls, once, unsettled⟩
    · have enrolled := roster.enrolled u other found
      exact enrolled.recalls rfl recalls (Nat.le_refl _) enrolled.unsettled
  · exact roster.unmade u (by simpa [Engine.exec, Engine.modifyTask] using absent)

/-- Carrying out an instruction keeps what is known of all tasks. -/
theorem Crew.roster_exec (crew : Crew s) (orderly : Orderly h s) (head : s.agenda = i :: rest) :
    (s.engine.exec i).1.Roster := by
  have roster := crew.roster
  have recalls := s.engine.recalls_exec (orderly.steady i (by simp [head]))
  have unqueued := crew.unqueued i (by simp [head])
  have indirect : ∀ p st, i = .settle p st → ∃ id, s.engine.Plays p (.outcome id) :=
    fun p st settles => orderly.settles p st (by simp [head, settles])
  cases other : i.isStaffing with
  | false =>
      have leaves := s.engine.leavesTasks_exec other
      refine roster.recalls leaves.badges recalls (fun t => Nat.le_of_eq leaves.drifts.tally)
        fun t task found counted => ?_
      rw [leaves.drifts.tally] at counted
      cases alive : i.ends t with
      | true => simp [crew.tally_of_ends head alive] at counted
      | false =>
          rw [roster.settlement? found other alive indirect]
          exact (roster.enrolled t task found).unsettled counted
  | true =>
      cases Instruction.staffs_of_isStaffing other with
      | soon queues => simp [Instruction.isQueuing, queues] at unqueued
      | spawn w receiver => exact roster.spawn orderly.bounded _
      | startRelease r receiver => exact roster.startRelease orderly.bounded _ _
      | await t p =>
          obtain ⟨task, engaged, awaitable⟩ := crew.awaiting head
          exact roster.await engaged awaitable
      | handIteration t k =>
          obtain ⟨task, q, engaged, work⟩ := crew.collecting head
          exact roster.handIteration engaged work k

/-! ### Jobs -/

theorem Engine.leavesTasks_runJob (e : Engine) {j : Job} (taskless : j.task? = none)
    (other : ∀ k, j ≠ .abandon k) : e.SameBadges (e.runJob j).1 ∧
      e.loop.Drifts (fun p => j.target? = some p) (e.runJob j).1.loop := by
  generalize (e.runJob j).1 = e', altersBy_runJob (e := e) j = alters
  cases alters with
  | same => exact ⟨.of_eq rfl, .refl⟩
  | cancelled | resumed => cases taskless
  | relayed | reported => exact ⟨.of_eq rfl, .settle _ rfl .refl⟩
  | forgotten source target =>
      refine ⟨.of_eq rfl, .unwatch _ (fun k goes => ?_) .refl⟩
      rw [beq_iff_eq.1 goes]
      rfl
  | abandoned k => exact absurd rfl (other k)

theorem Engine.Roster.settlement?_endTask (roster : e.Roster) {u : TaskId} {other : Task}
    (found : e.tasks[u]? = some other) (apart : t ≠ u) (s : Settlement Delivery Failure) :
    (e.endTask t s).loop.settlement? other.promise = e.loop.settlement? other.promise := by
  unfold Engine.endTask
  split
  · rename_i task this
    refine Loop.settlement?_settle_of_ne fun same => apart ?_
    rcases (roster.enrolled u other found).solely _ (.task this same) with role | ⟨id, role⟩
    · cases role
      rfl
    · cases role
  · rfl

/-- A job that goes on with a task is no longer held once it has begun. -/
structure Begins (e : Engine) (loop : EngineLoop) (t : TaskId) : Prop where
  free : loop.tally t = 0
  held : e.loop.tally t = 1
  others : ∀ u, t ≠ u → loop.tally u = e.loop.tally u

theorem Engine.Roster.begins {j : Job} {loop : EngineLoop} (roster : e.Roster)
    (next : e.loop.next? = some (j, loop)) (task : j.task? = some t) : Begins e loop t := by
  have counted := fun u => Loop.tally_of_next? (t := u) next
  have this := counted t
  rw [Loop.tallyOf_singleton task] at this
  have once : e.loop.tally t ≤ 1 := by
    rcases Nat.lt_or_ge t e.tasks.size with made | absent
    · exact (roster.enrolled t _ (Array.getElem?_eq_getElem made)).once
    · exact Nat.le_of_lt (Nat.lt_succ_of_le (Nat.le_of_eq (roster.unmade t absent)))
  refine ⟨by omega, by omega, fun u apart => ?_⟩
  have other := counted u
  rw [Loop.tallyOf_singleton_of_ne (by simpa [task] using apart)] at other
  omega

/-- A job that goes on with a task finds it as it was enrolled. -/
theorem Engine.Roster.engaged {j : Job} {loop : EngineLoop} (roster : e.Roster)
    (next : e.loop.next? = some (j, loop)) (task : j.task? = some t) :
    ∃ task, Engaged { e with loop } t task := by
  have begins := roster.begins next task
  have made : t < e.tasks.size := by
    refine Nat.lt_of_not_le fun absent => ?_
    have unmade := roster.unmade t absent
    rw [begins.held] at unmade
    cases unmade
  refine ⟨_, Array.getElem?_eq_getElem made, begins.free, ?_⟩
  rw [(Loop.settlement?_of_next? next).1]
  exact (roster.enrolled t _ (Array.getElem?_eq_getElem made)).unsettled begins.held

theorem Engine.Roster.endTask (roster : e.Roster) (free : e.loop.tally t = 0)
    (s : Settlement Delivery Failure) : (e.endTask t s).Roster := by
  have leaves : e.LeavesTasks (.finish t .nothing) (e.endTask t s) :=
    .endTask (beq_self_eq_true t)
  refine roster.recalls leaves.badges (e.recalls_endTask t s)
    (fun u => Nat.le_of_eq leaves.drifts.tally) fun u other found counted => ?_
  rw [leaves.drifts.tally] at counted
  have apart : t ≠ u := fun same => by simp [← same, free] at counted
  rw [roster.settlement?_endTask found apart]
  exact (roster.enrolled u other found).unsettled counted

theorem Engine.Roster.next? {j : Job} {loop : EngineLoop} (roster : e.Roster)
    (next : e.loop.next? = some (j, loop)) : Engine.Roster { e with loop } := by
  obtain ⟨-, promises, -⟩ := Loop.settlement?_of_next? (p := 0) next
  have recalls : e.Recalls { e with loop } :=
    Engine.recalls_loop (Nat.le_of_eq (congrArg Array.size promises.symm))
      fun holds _ => .inl (holds.of_next? next)
  refine roster.recalls (.of_eq rfl) recalls (fun t => ?_) fun t task found counted => ?_
  · rw [Loop.tally_of_next? next]
    exact Nat.le_add_right ..
  · have held := Loop.tally_of_next? (t := t) next
    have enrolled := roster.enrolled t task found
    have counted : loop.tally t = 1 := counted
    have once : e.loop.tally t ≤ 1 := enrolled.once
    rw [(Loop.settlement?_of_next? next).1]
    exact enrolled.unsettled (by omega)

theorem Engine.Roster.resumeTask (roster : e.Roster) (t : TaskId)
    (ahead : e.Recalls (e.resumeTask t).1) : (e.resumeTask t).1.Roster := by
  simp only [Engine.resumeTask] at ahead ⊢
  split
  · exact roster
  · rename_i task found
    simp only [found] at ahead
    refine ⟨fun u other found' => ?_, fun u absent => ?_⟩
    · simp only [Engine.modifyTask, Array.getElem?_modify] at found'
      split at found'
      · rename_i this
        subst this
        have same : { task with waitingFor := none, isCancelRequested := false } = other := by
          simpa [found] using found'
        subst same
        obtain ⟨created, solely, reads, -, once, unsettled⟩ := roster.enrolled _ task found
        exact ⟨created, fun r plays => solely r (ahead.plays_of_lt created plays), reads,
          by simp, once, unsettled⟩
      · have enrolled := roster.enrolled u other found'
        exact enrolled.recalls rfl ahead (Nat.le_refl _) enrolled.unsettled
    · exact roster.unmade u (by simpa [Engine.modifyTask] using absent)

theorem Engine.Roster.runJob {j : Job} {loop : EngineLoop} (roster : e.Roster)
    (bounded : e.Bounded) (next : e.loop.next? = some (j, loop)) :
    ({ e with loop }.runJob j).1.Roster := by
  have taken := roster.next? next
  obtain ⟨-, promises, ready⟩ := Loop.settlement?_of_next? (p := 0) next
  have recalls : e.Recalls { e with loop } :=
    Engine.recalls_loop (Nat.le_of_eq (congrArg Array.size promises.symm))
      fun holds _ => .inl (holds.of_next? next)
  have ahead : Engine.Recalls { e with loop } ({ e with loop }.runJob j).1 :=
    Engine.recalls_runJob _ j
  -- a job of a task was counted for it, and of the others only abandoning an iteration makes one
  cases task : j.task? with
  | some t =>
      have free := (roster.begins next task).free
      cases j with
      | start t' =>
          obtain rfl := Option.some.inj task
          simp only [Engine.runJob, Engine.startTask]
          split
          · exact taken
          · split
            · exact taken
            · exact taken.endTask free .cancelled
            · exact taken
      | resume t' => exact taken.resumeTask t' ahead
      | _ => cases task
  | none =>
      by_cases abandons : ∃ k, j = .abandon k
      · obtain ⟨k, rfl⟩ := abandons
        simp only [Engine.runJob, Engine.abandon]
        split
        · exact taken.spawn (bounded.step recalls) _
        · exact taken
      · obtain ⟨badges, drifts⟩ := Engine.leavesTasks_runJob { e with loop } task
          fun k same => abandons ⟨k, same⟩
        refine taken.recalls badges ahead (fun t => Nat.le_of_eq drifts.tally)
          fun t other found counted => ?_
        have enrolled := roster.enrolled t other found
        rw [drifts.tally] at counted
        rw [drifts.settlement? (taken.enrolled t other found).created fun target => ?_]
        · exact (taken.enrolled t other found).unsettled counted
        · rcases enrolled.solely _ (.target (.ready ready) target) with role | ⟨id, role⟩ <;>
            cases role

end Crew

end QueryStream
