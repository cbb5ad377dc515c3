/-
  Proofs/Engine/Tasks.lean --- what is known of tasks.

  A task is started by a job of the loop, and whenever it waits for a promise another job goes
  on with it.  There is at most one such job for a task, and none once it is over (`Loop.tally`,
  `Enrolled`).  Its promise is that of nothing else, and no other task waits for it; so only what
  ends the task settles it.
-/
import Mathlib.Algebra.GroupWithZero.Nat
import QueryStream.Proofs.Course
import QueryStream.Proofs.Engine.Leads

set_option autoImplicit false

namespace QueryStream

/-- The task that a job starts or goes on with. -/
def Job.task? : Job → Option TaskId
  | .start t => some t
  | .resume t => some t
  | _ => none

/-! ## Jobs of tasks -/

namespace Loop

variable {l l' : EngineLoop} {p q : PromiseId} {s : Settlement Delivery Failure} {k j : Job}
  {t : TaskId}

/-- How many of some jobs go on with a task. -/
def tallyOf (t : TaskId) (jobs : List Job) : Nat := jobs.countP fun k => k.task? == some t

/-- How many jobs that are queued or wait for a promise go on with a task. -/
def tally (l : EngineLoop) (t : TaskId) : Nat :=
  tallyOf t l.ready + (l.promises.toList.map fun pr => tallyOf t pr.watchers).sum

theorem tallyOf_append (t : TaskId) (jobs jobs' : List Job) :
    tallyOf t (jobs ++ jobs') = tallyOf t jobs + tallyOf t jobs' := List.countP_append

theorem tallyOf_singleton_of_ne (other : k.task? ≠ some t) : tallyOf t [k] = 0 := by
  simp [tallyOf, other]

theorem tallyOf_singleton (task : k.task? = some t) : tallyOf t [k] = 1 := by
  simp [tallyOf, task]

theorem tally_set {pr : Promise Delivery Failure Job} (found : l.promises[p]? = some pr)
    (pr' : Promise Delivery Failure Job) (ready : List Job) :
    tally ⟨l.promises.setIfInBounds p pr', ready⟩ t + tallyOf t pr.watchers + tallyOf t l.ready
      = l.tally t + tallyOf t pr'.watchers + tallyOf t ready := by
  have listed : l.promises.toList[p]? = some pr := by simpa using found
  have others := sum_map_set (fun pr => tallyOf t pr.watchers) pr' listed
  simp only [tally, Array.toList_setIfInBounds]
  omega

theorem tally_push (pr : Promise Delivery Failure Job) (fresh : pr.watchers = []) :
    tally ⟨l.promises.push pr, l.ready⟩ t = l.tally t := by
  simp [tally, fresh, tallyOf]

theorem tally_settle : (l.settle p s).tally t = l.tally t := by
  rcases settle_cases l p s with same | ⟨watchers, found, same⟩
  · rw [same]
  · have counted := tally_set (t := t) found ⟨some s, []⟩ (l.ready ++ watchers)
    rw [same]
    rw [tallyOf_append] at counted
    simp only [tallyOf, List.countP_nil] at counted ⊢
    omega

theorem tally_soon : (l.soon k).tally t = l.tally t + tallyOf t [k] := by
  simp only [tally, soon, tallyOf_append]
  omega

/-- A job that waits for a promise that is there is counted once more. -/
theorem tally_watch (created : p < l.promises.size) :
    (l.watch p k).tally t = l.tally t + tallyOf t [k] := by
  rcases watch_cases l p k with ⟨watchers, found, same⟩ | ⟨s, -, same⟩ | ⟨absent, -⟩
  · have counted := tally_set (t := t) found ⟨none, watchers ++ [k]⟩ l.ready
    rw [same]
    simp only [tallyOf_append] at counted
    omega
  · rw [same, tally_soon]
  · exact absurd created (Nat.not_lt_of_le (Array.getElem?_eq_none_iff.1 absent))

theorem tally_watch_of_ne (other : k.task? ≠ some t) : (l.watch p k).tally t = l.tally t := by
  rcases Nat.lt_or_ge p l.promises.size with created | absent
  · rw [tally_watch created, tallyOf_singleton_of_ne other, Nat.add_zero]
  · rw [watch, Array.getElem?_eq_none absent]

theorem tally_unwatch {leaves : Job → Bool} (stays : ∀ k, leaves k = true → k.task? ≠ some t) :
    (l.unwatch p leaves).tally t = l.tally t := by
  unfold unwatch
  split
  · rename_i s watchers found
    have counted :=
      tally_set (t := t) found ⟨s, watchers.filter fun k => !leaves k⟩ l.ready
    have same : tallyOf t (watchers.filter fun k => !leaves k) = tallyOf t watchers := by
      rw [tallyOf, List.countP_filter]
      refine List.countP_congr fun k _ => ?_
      cases goes : leaves k with
      | false => simp
      | true => simpa using stays k goes
    simp only [same] at counted
    omega
  · rfl

theorem tally_of_next? (next : l.next? = some (j, l')) :
    l.tally t = l'.tally t + tallyOf t [j] := by
  unfold next? at next
  split at next
  · cases next
  · rename_i first rest ready
    obtain ⟨rfl, rfl⟩ := Prod.mk.inj (Option.some.inj next)
    have split : first :: rest = [first] ++ rest := rfl
    simp only [tally, ready, split, tallyOf_append]
    omega

/-- One loop comes from another without anything being done for a task, and with only some
promises settled. -/
inductive Drifts (may : PromiseId → Prop) (l : EngineLoop) : EngineLoop → Prop
  | refl : Drifts may l l
  | create {l' : EngineLoop} (drifts : Drifts may l l') : Drifts may l l'.create
  | createSettled {l' : EngineLoop} (s : Settlement Delivery Failure) (drifts : Drifts may l l') :
      Drifts may l (l'.createSettled s)
  | settle {l' : EngineLoop} {p : PromiseId} (s : Settlement Delivery Failure) (allowed : may p)
      (drifts : Drifts may l l') : Drifts may l (l'.settle p s)
  | watch {l' : EngineLoop} (p : PromiseId) {k : Job} (taskless : k.task? = none)
      (drifts : Drifts may l l') : Drifts may l (l'.watch p k)
  | soon {l' : EngineLoop} {k : Job} (taskless : k.task? = none) (drifts : Drifts may l l') :
      Drifts may l (l'.soon k)
  | unwatch {l' : EngineLoop} (p : PromiseId) {leaves : Job → Bool}
      (taskless : ∀ k, leaves k = true → k.task? = none) (drifts : Drifts may l l') :
      Drifts may l (l'.unwatch p leaves)

theorem Drifts.tally {may : PromiseId → Prop} (drifts : l.Drifts may l') :
    l'.tally t = l.tally t := by
  induction drifts with
  | refl => rfl
  | create _ ih => exact (tally_push _ rfl).trans ih
  | createSettled s _ ih => exact (tally_push _ rfl).trans ih
  | settle s allowed _ ih => exact tally_settle.trans ih
  | watch p taskless _ ih => exact (tally_watch_of_ne (by simp [taskless])).trans ih
  | soon taskless _ ih =>
      rw [tally_soon, tallyOf_singleton_of_ne (by simp [taskless]), Nat.add_zero, ih]
  | unwatch p taskless _ ih =>
      exact (tally_unwatch fun k goes => by simp [taskless k goes]).trans ih

theorem Drifts.size_le {may : PromiseId → Prop} (drifts : l.Drifts may l') :
    l.promises.size ≤ l'.promises.size := by
  induction drifts with
  | refl => exact Nat.le_refl _
  | create _ ih => simpa [Loop.create] using Nat.le_succ_of_le ih
  | createSettled s _ ih => simpa [Loop.createSettled] using Nat.le_succ_of_le ih
  | settle s allowed _ ih => rwa [size_settle]
  | watch p taskless _ ih => rwa [size_watch]
  | soon taskless _ ih => exact ih
  | unwatch p taskless _ ih => rwa [Engine.size_unwatch]

/-- A promise that is not to be settled stays as it is. -/
theorem Drifts.settlement? {may : PromiseId → Prop} (drifts : l.Drifts may l')
    (created : p < l.promises.size) (other : ¬ may p) : l'.settlement? p = l.settlement? p := by
  induction drifts with
  | refl => rfl
  | create _ ih => exact settlement?_create.trans ih
  | createSettled s drifts ih =>
      have there := Nat.lt_of_lt_of_le created drifts.size_le
      rw [Loop.createSettled, settlement?_push, if_neg (Nat.ne_of_lt there), ih]
  | @settle l' q s allowed _ ih =>
      have apart : q ≠ p := fun same => other (same ▸ allowed)
      exact (settlement?_settle_of_ne apart).trans ih
  | watch p taskless _ ih => exact (settlement?_watch _).trans ih
  | soon taskless _ ih => exact ih
  | unwatch p taskless _ ih => exact (Engine.settlement?_unwatch _ _ _ _).trans ih

end Loop

/-! ## What leaves tasks alone -/

/-- What stays of a task while others are carried out: its promise, its work, the iteration it
reads and the promise it waits for. -/
def Task.badge (task : Task) : PromiseId × Work × Option IterationId × Option PromiseId :=
  (task.promise, task.work, task.iteration, task.waitingFor)

namespace Instruction

/-- Whether an instruction makes a task, queues a job of one, has one wait or gives it an
iteration to read. -/
def isStaffing : Instruction → Bool
  | .soon j => j.task?.isSome
  | .spawn _ _ => true
  | .startRelease _ _ => true
  | .await _ _ => true
  | .handIteration (.task _) _ => true
  | _ => false

/-- The same, one by one. -/
inductive Staffs : Instruction → Prop
  | soon {j : Job} (queues : j.task?.isSome = true) : Staffs (.soon j)
  | spawn (w : Work) (receiver : Receiver) : Staffs (.spawn w receiver)
  | startRelease (r : ReleaseId) (receiver : Receiver) : Staffs (.startRelease r receiver)
  | await (t : TaskId) (p : PromiseId) : Staffs (.await t p)
  | handIteration (t : TaskId) (k : IterationId) : Staffs (.handIteration (.task t) k)

theorem staffs_of_isStaffing {i : Instruction} (staffing : i.isStaffing = true) : i.Staffs := by
  unfold isStaffing at staffing
  split at staffing
  · exact .soon staffing
  all_goals first | constructor | cases staffing

/-- Whether an instruction ends a task. -/
def ends (t : TaskId) : Instruction → Bool
  | .finish u _ => u == t
  | .caught (.task u) _ => u == t
  | _ => false

end Instruction

namespace Engine

/-- A promise may be settled by an instruction. -/
inductive MaySettle (e : Engine) (i : Instruction) (p : PromiseId) : Prop
  | direct (st : Settlement Delivery Failure) (settles : i = .settle p st)
  | signal {k : IterationId} (plays : e.Plays p (.signal k))
  | cancelled (cancels : i = .cancelPromise p) (taskless : e.taskOf? p = none)
  /-- a task that waits for it is cancelled -/
  | awaited (awaits : e.Awaits p)
  | ended {t : TaskId} (plays : e.Plays p (.task t)) (ends : i.ends t = true)

/-- The tasks of two engines have the same badges. -/
def SameBadges (e e' : Engine) : Prop :=
  ∀ t : TaskId, (e'.tasks[t]?).map Task.badge = (e.tasks[t]?).map Task.badge

/-- What carrying out an instruction leaves as it is, if it does nothing for a task. -/
structure LeavesTasks (e : Engine) (i : Instruction) (e' : Engine) : Prop where
  badges : e.SameBadges e'
  drifts : e.loop.Drifts (e.MaySettle i) e'.loop

variable {e e' : Engine} {i : Instruction} {p : PromiseId} {t : TaskId}

theorem SameBadges.of_eq (tasks : e'.tasks = e.tasks) : e.SameBadges e' := fun t => by rw [tasks]

theorem SameBadges.modifyTask {f : Task → Task} (same : ∀ task, (f task).badge = task.badge) :
    e.SameBadges (e.modifyTask t f) := by
  intro u
  simp only [Engine.modifyTask, Array.getElem?_modify]
  split
  · cases e.tasks[u]? with
    | none => rfl
    | some task => simp [same]
  · rfl

/-- A task that is there afterwards was there, with the same badge. -/
theorem SameBadges.found (badges : e.SameBadges e') {task' : Task}
    (found : e'.tasks[t]? = some task') :
    ∃ task, e.tasks[t]? = some task ∧ task'.badge = task.badge := by
  have same := badges t
  rw [found, Option.map_some] at same
  obtain ⟨task, found, badge⟩ := Option.map_eq_some_iff.1 same.symm
  exact ⟨task, found, badge.symm⟩

theorem SameBadges.kept (badges : e.SameBadges e') {task : Task}
    (found : e.tasks[t]? = some task) :
    ∃ task', e'.tasks[t]? = some task' ∧ task'.badge = task.badge := by
  have same := badges t
  rw [found, Option.map_some] at same
  exact Option.map_eq_some_iff.1 same

theorem SameBadges.size (badges : e.SameBadges e') : e'.tasks.size = e.tasks.size := by
  have none_iff : ∀ t : TaskId, e'.tasks[t]? = none ↔ e.tasks[t]? = none := fun t => by
    have same := badges t
    rw [← Option.map_eq_none_iff (f := Task.badge), same, Option.map_eq_none_iff]
  refine Nat.le_antisymm ?_ ?_ <;> refine Array.getElem?_eq_none_iff.1 ?_
  · exact (none_iff _).2 (Array.getElem?_eq_none_iff.2 (Nat.le_refl _))
  · exact (none_iff _).1 (Array.getElem?_eq_none_iff.2 (Nat.le_refl _))

theorem LeavesTasks.of_eq (tasks : e'.tasks = e.tasks) (loop : e'.loop = e.loop) :
    e.LeavesTasks i e' :=
  ⟨.of_eq tasks, by rw [loop]; exact .refl⟩

theorem LeavesTasks.endTask {s : Settlement Delivery Failure} (ends : i.ends t = true) :
    e.LeavesTasks i (e.endTask t s) := by
  unfold Engine.endTask
  split
  · rename_i task found
    exact ⟨.of_eq rfl, .settle s (.ended (.task found rfl) ends) .refl⟩
  · exact .of_eq rfl rfl

theorem LeavesTasks.signal (k : IterationId) (s : Signal) : e.LeavesTasks i (e.signal k s) := by
  unfold Engine.signal
  split
  · exact .of_eq rfl rfl
  · rename_i it found
    split
    · rename_i q awaited
      exact ⟨.of_eq rfl, .settle _ (.signal (.signal found awaited)) .refl⟩
    · exact .of_eq rfl rfl

theorem LeavesTasks.cancel (p : PromiseId) : e.LeavesTasks (.cancelPromise p) (e.cancel p) := by
  unfold Engine.cancel
  split
  · exact .of_eq rfl rfl
  · split
    · rename_i taskless
      exact ⟨.of_eq rfl, .settle _ (.cancelled rfl taskless) .refl⟩
    · split
      · rename_i q waiting
        split
        · exact ⟨.modifyTask fun _ => rfl, .refl⟩
        · obtain ⟨task, found, waits⟩ := Option.bind_eq_some_iff.1 waiting
          exact ⟨.of_eq rfl, .settle _ (.awaited ⟨_, task, found, waits⟩) .refl⟩
      · exact ⟨.modifyTask fun _ => rfl, .refl⟩

/-- What does nothing for a task leaves all of them as they are, and queues no job of theirs. -/
theorem Alters.leavesTasks (alters : e.Alters i e') (other : i.isStaffing = false) :
    e.LeavesTasks i e' := by
  cases alters with
  | spawn | startRelease | await | awaitCancelled | handIteration => cases other
  | record k | ended k => exact .signal k _
  | settle q s => exact ⟨.of_eq rfl, .settle s (.direct s rfl) .refl⟩
  | relay => exact ⟨.of_eq rfl, .watch _ rfl (.watch _ rfl (.create .refl))⟩
  | reportFailure | openCursor => exact ⟨.of_eq rfl, .watch _ rfl (.create .refl)⟩
  | keep | release => exact ⟨.of_eq rfl, .createSettled _ .refl⟩
  | cancel q => exact .cancel q
  | soon j => exact ⟨.of_eq rfl, .soon (by simpa [Instruction.isStaffing] using other) .refl⟩
  | awaitNever | awaitSignal => exact ⟨.of_eq rfl, .create .refl⟩
  | collect => exact ⟨.modifyTask fun _ => rfl, .refl⟩
  | finish | caught => exact .endTask (by simp [Instruction.ends])
  | _ => exact .of_eq rfl rfl

theorem leavesTasks_exec (e : Engine) {i : Instruction} (other : i.isStaffing = false) :
    e.LeavesTasks i (e.exec i).1 :=
  (alters_exec i).leavesTasks other

end Engine

/-! ## What is known of a task -/

/-- A promise that a task may wait for: it is there, and is that of no task. -/
structure Engine.Awaitable (e : Engine) (p : PromiseId) : Prop where
  created : p < e.loop.promises.size
  taskless : ∀ t, ¬ e.Plays p (.task t)

/-- What holds of a task from when it is made. -/
structure Enrolled (e : Engine) (t : TaskId) (task : Task) : Prop where
  created : task.promise < e.loop.promises.size
  /-- its promise is for nothing else, except that it may be that of a release -/
  solely : ∀ r, e.Plays task.promise r → r = .task t ∨ ∃ id, r = .release id
  reads : ∀ k, task.iteration = some k → ∃ q, task.work = .collect q
  waits : ∀ p, task.waitingFor = some p → e.Awaitable p
  once : e.loop.tally t ≤ 1
  /-- a task that is over is not gone on with -/
  unsettled : e.loop.tally t = 1 → e.loop.settlement? task.promise = none

/-- What holds of all tasks. -/
structure Engine.Roster (e : Engine) : Prop where
  enrolled : ∀ (t : TaskId) (task : Task), e.tasks[t]? = some task → Enrolled e t task
  unmade : ∀ t, e.tasks.size ≤ t → e.loop.tally t = 0

section Roster

variable {e e' : Engine} {t u : TaskId} {task task' : Task} {p : PromiseId} {i : Instruction}

theorem Task.eq_of_badge (badge : task'.badge = task.badge) : task'.promise = task.promise ∧
    task'.work = task.work ∧ task'.iteration = task.iteration ∧
      task'.waitingFor = task.waitingFor := by
  simpa [Task.badge] using badge

theorem Task.iterationOf?_eq (badge : task'.badge = task.badge) :
    Engine.iterationOf? task' = Engine.iterationOf? task := by
  obtain ⟨-, work, iteration, -⟩ := Task.eq_of_badge badge
  simp only [Engine.iterationOf?, work, iteration]

theorem Engine.Awaitable.recalls (awaitable : e.Awaitable p) (recalls : e.Recalls e') :
    e'.Awaitable p :=
  ⟨Nat.lt_of_lt_of_le awaitable.created recalls.size_le,
    fun t plays => awaitable.taskless t (recalls.plays_of_lt awaitable.created plays)⟩

/-- A task goes on as it was enrolled, if only jobs that go on with it are fewer. -/
theorem Enrolled.recalls (enrolled : Enrolled e t task) (badge : task'.badge = task.badge)
    (recalls : e.Recalls e') (fewer : e'.loop.tally t ≤ e.loop.tally t)
    (unsettled : e'.loop.tally t = 1 → e'.loop.settlement? task.promise = none) :
    Enrolled e' t task' := by
  obtain ⟨promise, work, iteration, waitingFor⟩ := Task.eq_of_badge badge
  refine ⟨?_, ?_, ?_, ?_, Nat.le_trans fewer enrolled.once, ?_⟩
  · rw [promise]
    exact Nat.lt_of_lt_of_le enrolled.created recalls.size_le
  · rw [promise]
    exact fun r plays => enrolled.solely r (recalls.plays_of_lt enrolled.created plays)
  · rw [iteration, work]
    exact enrolled.reads
  · rw [waitingFor]
    exact fun p waits => (enrolled.waits p waits).recalls recalls
  · rwa [promise]

theorem Engine.Roster.recalls (roster : e.Roster) (badges : e.SameBadges e')
    (recalls : e.Recalls e') (fewer : ∀ t, e'.loop.tally t ≤ e.loop.tally t)
    (unsettled : ∀ (t : TaskId) (task : Task), e.tasks[t]? = some task →
      e'.loop.tally t = 1 → e'.loop.settlement? task.promise = none) : e'.Roster := by
  refine ⟨fun t task' found' => ?_, fun t absent => ?_⟩
  · obtain ⟨task, found, badge⟩ := badges.found found'
    exact (roster.enrolled t task found).recalls badge recalls (fewer t) (unsettled t task found)
  · have unmade := roster.unmade t (badges.size ▸ absent)
    exact Nat.le_zero.1 (unmade ▸ fewer t)

/-- No task waits for the promise of a task. -/
theorem Engine.Roster.unawaited (roster : e.Roster) (found : e.tasks[t]? = some task) :
    ¬ e.Awaits task.promise := by
  rintro ⟨u, waiting, found', waits⟩
  exact ((roster.enrolled u waiting found').waits _ waits).taskless t (.task found rfl)

theorem Engine.Roster.settlement? (roster : e.Roster) (found : e.tasks[t]? = some task)
    (other : i.isStaffing = false) (alive : i.ends t = false)
    (indirect : ∀ p st, i = .settle p st → ∃ id, e.Plays p (.outcome id)) :
    (e.exec i).1.loop.settlement? task.promise = e.loop.settlement? task.promise := by
  have enrolled := roster.enrolled t task found
  refine (e.leavesTasks_exec other).drifts.settlement? enrolled.created fun may => ?_
  cases may with
  | direct st settles =>
      obtain ⟨id, plays⟩ := indirect _ st settles
      rcases enrolled.solely _ plays with role | ⟨id, role⟩ <;> cases role
  | signal plays => rcases enrolled.solely _ plays with role | ⟨id, role⟩ <;> cases role
  | cancelled cancels taskless =>
      have unmatched := Array.findIdx?_eq_none_iff.1 taskless
      have same := unmatched task (Array.mem_of_getElem? found)
      simp at same
  | awaited awaits => exact roster.unawaited found awaits
  | ended plays ends =>
      rcases enrolled.solely _ plays with role | ⟨id, role⟩
      · cases role
        simp [alive] at ends
      · cases role

theorem Engine.Roster.enlist {w : Work} (roster : e.Roster) (bounded : e.Bounded)
    (tasks : e'.tasks = e.tasks.push ⟨e.loop.nextId, w, none, false, none, []⟩)
    (loop : (e.loop.create.soon (.start e.tasks.size)).Drifts (fun _ => False) e'.loop)
    (iterations : e'.iterations = e.iterations) (cursors : e'.cursors = e.cursors)
    (held : ∀ k p, e'.loop.Holds k → k.target? = some p → e.loop.Holds k)
    (recalls : e.Recalls e') : e'.Roster := by
  have tally : ∀ t, e'.loop.tally t
      = e.loop.tally t + Loop.tallyOf t [.start e.tasks.size] := fun t => by
    rw [loop.tally, Loop.tally_soon, Loop.create, Loop.tally_push _ rfl]
  have unchanged : ∀ t, t ≠ e.tasks.size → e'.loop.tally t = e.loop.tally t := fun t other => by
    rw [tally, Loop.tallyOf_singleton_of_ne (by simpa [Job.task?] using other.symm), Nat.add_zero]
  have size : (e.loop.create.soon (.start e.tasks.size)).promises.size
      = e.loop.promises.size + 1 := by simp [Loop.create, Loop.soon]
  have settlement : ∀ p, p ≤ e.loop.promises.size →
      e'.loop.settlement? p = e.loop.settlement? p := fun p created => by
    rw [loop.settlement? (size ▸ Nat.lt_succ_of_le created) (by simp)]
    exact Loop.settlement?_create
  -- the promise is a new one, so it plays no part but this
  have fresh : ∀ r, ¬ e.Plays e.loop.nextId r := fun r plays =>
    Nat.lt_irrefl _ (bounded _ r plays)
  refine ⟨fun t task found => ?_, fun t absent => ?_⟩
  · rw [tasks, Array.getElem?_push] at found
    split at found
    · rename_i new
      obtain rfl := Option.some.inj found
      have counted : e'.loop.tally t = 1 := by
        rw [tally, new, roster.unmade _ (Nat.le_refl _), Loop.tallyOf_singleton rfl]
      refine ⟨?_, fun r plays => ?_, by simp, by simp, Nat.le_of_eq counted, fun _ => ?_⟩
      · have kept := loop.size_le
        rwa [size] at kept
      · cases plays with
        | @task u other found promise =>
            rw [tasks, Array.getElem?_push] at found
            split at found
            · rename_i last
              exact .inl (by rw [new, last])
            · exact absurd (.task found promise) (fresh _)
        | signal found awaited =>
            rw [iterations] at found
            exact absurd (.signal found awaited) (fresh _)
        | outcome found outcome =>
            rw [cursors] at found
            exact absurd (.outcome found outcome) (fresh _)
        | release found promise => exact .inr ⟨_, rfl⟩
        | target holds target => exact absurd (.target (held _ _ holds target) target) (fresh _)
      · have unsettled := settlement _ (Nat.le_refl _)
        exact unsettled.trans (by simp [Loop.settlement?])
    · rename_i old
      have enrolled := roster.enrolled t task found
      have same := unchanged t old
      refine enrolled.recalls rfl recalls (Nat.le_of_eq same) fun counted => ?_
      rw [settlement _ (Nat.le_of_lt enrolled.created)]
      exact enrolled.unsettled (same ▸ counted)
  · rw [tasks, Array.size_push] at absent
    rw [unchanged t (by omega)]
    exact roster.unmade t (by omega)

theorem Engine.Roster.spawn (roster : e.Roster) (bounded : e.Bounded) (w : Work) :
    (e.spawn w).Roster :=
  roster.enlist bounded rfl .refl rfl rfl
    (fun k p holds target => by
      rcases holds.of_soon with holds | rfl
      · exact holds.of_push rfl
      · cases target)
    (e.recalls_spawn w)

theorem Engine.Roster.startRelease (roster : e.Roster) (bounded : e.Bounded) (id : ReleaseId)
    (receiver : Receiver) : (e.startRelease id receiver).1.Roster :=
  roster.enlist bounded rfl (.watch _ rfl .refl) rfl rfl
    (fun k p holds target => by
      rcases holds.of_watch with holds | rfl
      · rcases holds.of_soon with holds | rfl
        · exact holds.of_push rfl
        · cases target
      · cases target)
    (e.recalls_exec (i := .startRelease id receiver) rfl)

end Roster

end QueryStream
