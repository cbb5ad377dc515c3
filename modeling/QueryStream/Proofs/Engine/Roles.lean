/-
  Proofs/Engine/Roles.lean --- what promises are for.

  A promise is the completion of a task, the signal that an iteration waits for, the
  outcome of a cursor, the completion of a release, or the target of a job that settles it
  when another promise is settled: `Engine.Plays` says which of these it is.  A promise gets
  its role when it is created, and no later move gives it another one (`Engine.Recalls`).
  So whoever may settle a promise is known from the start.
-/
import QueryStream.Proofs.Engine.Turns

set_option autoImplicit false

namespace QueryStream

/-- The promise that a job settles, if it settles one. -/
def Job.target? : Job → Option PromiseId
  | .relay _ target => some target
  | .report _ _ target => some target
  | _ => none

theorem Job.target?_eq_none {k : Job} (h : k.source? = none) : k.target? = none := by
  cases k <;> first | rfl | simp [Job.source?] at h

/-! ## Jobs that a loop holds -/

namespace Loop

/-- A job is queued, or waits for a promise. -/
inductive Holds (l : EngineLoop) (k : Job) : Prop
  | ready (mem : k ∈ l.ready)
  | waiting {p : PromiseId} {pr : Promise Delivery Failure Job} (found : l.promises[p]? = some pr)
      (mem : k ∈ pr.watchers)

variable {l l' : EngineLoop} {p : PromiseId} {s : Settlement Delivery Failure} {k j : Job}

theorem Holds.of_push {pr : Promise Delivery Failure Job} (fresh : pr.watchers = [])
    (h : Holds ⟨l.promises.push pr, l.ready⟩ k) : l.Holds k := by
  cases h with
  | ready mem => exact .ready mem
  | waiting found mem =>
      rw [Array.getElem?_push] at found
      split at found
      · obtain rfl := Option.some.inj found
        simp [fresh] at mem
      · exact .waiting found mem

/-- Where one promise is put in the place of another, only its own jobs are new. -/
theorem Holds.of_set {pr : Promise Delivery Failure Job} {ready : List Job}
    (h : Holds ⟨l.promises.setIfInBounds p pr, ready⟩ k) :
    k ∈ ready ∨ k ∈ pr.watchers ∨ l.Holds k := by
  cases h with
  | ready mem => exact .inl mem
  | waiting found mem =>
      rw [Array.getElem?_setIfInBounds] at found
      split at found
      · split at found
        · obtain rfl := Option.some.inj found
          exact .inr (.inl mem)
        · cases found
      · exact .inr (.inr (.waiting found mem))

theorem Holds.of_settle (h : (l.settle p s).Holds k) : l.Holds k := by
  rcases settle_cases l p s with heq | ⟨watchers, found, heq⟩
  · rwa [heq] at h
  · rw [heq] at h
    rcases h.of_set with mem | mem | held
    · rcases List.mem_append.1 mem with mem | mem
      · exact .ready mem
      · exact .waiting found mem
    · cases mem
    · exact held

theorem Holds.of_soon (h : (l.soon j).Holds k) : l.Holds k ∨ k = j := by
  cases h with
  | ready mem =>
      rcases List.mem_append.1 mem with mem | mem
      · exact .inl (.ready mem)
      · exact .inr (List.mem_singleton.1 mem)
  | waiting found mem => exact .inl (.waiting found mem)

theorem Holds.of_watch (h : (l.watch p j).Holds k) : l.Holds k ∨ k = j := by
  rcases watch_cases l p j with ⟨watchers, found, heq⟩ | ⟨_, _, heq⟩ | ⟨_, heq⟩
  · rw [heq] at h
    rcases h.of_set with mem | mem | held
    · exact .inl (.ready mem)
    · rcases List.mem_append.1 mem with mem | mem
      · exact .inl (.waiting found mem)
      · exact .inr (List.mem_singleton.1 mem)
    · exact .inl held
  · rw [heq] at h
    exact h.of_soon
  · rw [heq] at h
    exact .inl h

theorem Holds.of_unwatch {leaves : Job → Bool} (h : (l.unwatch p leaves).Holds k) :
    l.Holds k := by
  unfold unwatch at h
  split at h
  · rename_i settlement watchers found
    rcases h.of_set with mem | mem | held
    · exact .ready mem
    · exact .waiting found (List.mem_filter.1 mem).1
    · exact held
  · exact h

theorem Holds.of_next? (next : l.next? = some (j, l')) (h : l'.Holds k) : l.Holds k := by
  unfold Loop.next? at next
  split at next
  · cases next
  · rename_i first rest hready
    obtain ⟨rfl, rfl⟩ := Prod.mk.inj (Option.some.inj next)
    cases h with
    | ready mem => exact .ready (by simp [hready, mem])
    | waiting found mem => exact .waiting found mem

end Loop

/-! ## Roles -/

/-- What a promise may be for. -/
inductive Role where
  | task (t : TaskId)
  | signal (i : IterationId)
  | outcome (id : CursorId)
  | release (r : ReleaseId)
  /-- it is settled by a job -/
  | target (k : Job)

namespace Engine

/-- What a promise is for. -/
inductive Plays (e : Engine) (p : PromiseId) : Role → Prop
  | task {t : TaskId} {task : Task} (found : e.tasks[t]? = some task)
      (promise : task.promise = p) : Plays e p (.task t)
  | signal {i : IterationId} {it : Iteration} (found : e.iterations[i]? = some it)
      (awaited : it.awaited = some p) : Plays e p (.signal i)
  | outcome {id : CursorId} {c : Cursor} (found : e.cursors[id]? = some c)
      (outcome : c.outcome = p) : Plays e p (.outcome id)
  | release {r : ReleaseId} {release : Release} (found : e.releases[r]? = some release)
      (promise : release.promise = some p) : Plays e p (.release r)
  | target {k : Job} (held : e.loop.Holds k) (target : k.target? = some p) : Plays e p (.target k)

/-- A promise that is there in the second engine, but not yet in the first. -/
def Created (e e' : Engine) (p : PromiseId) : Prop :=
  e.loop.promises.size ≤ p ∧ p < e'.loop.promises.size

/-- In the second engine, what is there in the first has the roles it had. -/
structure Recalls (e e' : Engine) : Prop where
  size_le : e.loop.promises.size ≤ e'.loop.promises.size
  tasks : ∀ {t : TaskId} {task : Task}, e'.tasks[t]? = some task →
    e.Plays task.promise (.task t) ∨ e.Created e' task.promise
  signals : ∀ {i : IterationId} {it : Iteration} {p : PromiseId}, e'.iterations[i]? = some it →
    it.awaited = some p → e.Plays p (.signal i) ∨ e.Created e' p
  outcomes : ∀ {id : CursorId} {c : Cursor}, e'.cursors[id]? = some c →
    e.Plays c.outcome (.outcome id) ∨ e.Created e' c.outcome
  releases : ∀ {r : ReleaseId} {release : Release} {p : PromiseId}, e'.releases[r]? = some release →
    release.promise = some p → e.Plays p (.release r) ∨ e.Created e' p
  jobs : ∀ {k : Job} {p : PromiseId}, e'.loop.Holds k → k.target? = some p →
    e.Plays p (.target k) ∨ e.Created e' p

variable {e e' e'' : Engine} {p : PromiseId} {r : Role}

theorem Recalls.plays (recalls : e.Recalls e') (plays : e'.Plays p r) :
    e.Plays p r ∨ e.Created e' p := by
  cases plays with
  | task found promise => exact promise ▸ recalls.tasks found
  | signal found awaited => exact recalls.signals found awaited
  | outcome found outcome => exact outcome ▸ recalls.outcomes found
  | release found promise => exact recalls.releases found promise
  | target held target => exact recalls.jobs held target

theorem Recalls.of_plays (size_le : e.loop.promises.size ≤ e'.loop.promises.size)
    (plays : ∀ {p : PromiseId} {r : Role}, e'.Plays p r → e.Plays p r ∨ e.Created e' p) :
    e.Recalls e' where
  size_le := size_le
  tasks found := plays (.task found rfl)
  signals found awaited := plays (.signal found awaited)
  outcomes found := plays (.outcome found rfl)
  releases found promise := plays (.release found promise)
  jobs held target := plays (.target held target)

theorem Recalls.refl (e : Engine) : e.Recalls e := .of_plays (Nat.le_refl _) .inl

theorem Recalls.of_same (loop : e'.loop = e.loop) (tasks : e'.tasks = e.tasks)
    (iterations : e'.iterations = e.iterations) (cursors : e'.cursors = e.cursors)
    (releases : e'.releases = e.releases) : e.Recalls e' :=
  .of_plays (Nat.le_of_eq (by rw [loop])) fun plays => .inl <| by
    cases plays with
    | task found promise => exact .task (tasks ▸ found) promise
    | signal found awaited => exact .signal (iterations ▸ found) awaited
    | outcome found outcome => exact .outcome (cursors ▸ found) outcome
    | release found promise => exact .release (releases ▸ found) promise
    | target held target => exact .target (loop ▸ held) target

theorem Recalls.trans (first : e.Recalls e') (second : e'.Recalls e'') : e.Recalls e'' := by
  refine .of_plays (Nat.le_trans first.size_le second.size_le) fun plays => ?_
  rcases second.plays plays with plays | ⟨low, high⟩
  · exact (first.plays plays).imp_right fun ⟨low, high⟩ =>
      ⟨low, Nat.lt_of_lt_of_le high second.size_le⟩
  · exact .inr ⟨Nat.le_trans first.size_le low, high⟩

theorem Recalls.plays_of_lt (recalls : e.Recalls e') (created : p < e.loop.promises.size)
    (plays : e'.Plays p r) : e.Plays p r :=
  (recalls.plays plays).resolve_right fun fresh => Nat.not_le_of_lt created fresh.1

/-- Whatever has a role was created. -/
def Bounded (e : Engine) : Prop :=
  ∀ (p : PromiseId) (r : Role), e.Plays p r → p < e.loop.promises.size

theorem Bounded.step (bounded : e.Bounded) (recalls : e.Recalls e') : e'.Bounded := by
  intro p r plays
  rcases recalls.plays plays with plays | fresh
  · exact Nat.lt_of_lt_of_le (bounded p r plays) recalls.size_le
  · exact fresh.2

/-! ### Changes of one part -/

theorem recalls_loop {loop : EngineLoop} (size_le : e.loop.promises.size ≤ loop.promises.size)
    (jobs : ∀ {k : Job} {p : PromiseId}, loop.Holds k → k.target? = some p →
      e.loop.Holds k ∨ e.Created { e with loop } p) : e.Recalls { e with loop } where
  size_le := size_le
  tasks found := .inl (.task found rfl)
  signals found awaited := .inl (.signal found awaited)
  outcomes found := .inl (.outcome found rfl)
  releases found promise := .inl (.release found promise)
  jobs held target := (jobs held target).imp_left fun held => .target held target

theorem recalls_settle (p : PromiseId) (s : Settlement Delivery Failure) :
    e.Recalls { e with loop := e.loop.settle p s } :=
  recalls_loop (by simp [Loop.size_settle]) fun held _ => .inl held.of_settle

theorem recalls_create : e.Recalls { e with loop := e.loop.create } :=
  recalls_loop (by simp [Loop.create]) fun held _ => .inl (held.of_push rfl)

theorem recalls_createSettled (s : Settlement Delivery Failure) :
    e.Recalls { e with loop := e.loop.createSettled s } :=
  recalls_loop (by simp [Loop.createSettled]) fun held _ => .inl (held.of_push rfl)

theorem recalls_watch (q : PromiseId) {j : Job} (aimless : j.target? = none) :
    e.Recalls { e with loop := e.loop.watch q j } := by
  refine recalls_loop (by simp [Loop.size_watch]) fun held target => ?_
  rcases held.of_watch with held | rfl
  · exact .inl held
  · simp [aimless] at target

theorem recalls_soon {j : Job} (aimless : j.target? = none) :
    e.Recalls { e with loop := e.loop.soon j } := by
  refine recalls_loop (Nat.le_refl _) fun held target => ?_
  rcases held.of_soon with held | rfl
  · exact .inl held
  · simp [aimless] at target

/-- Tasks keep the promises of their completion, or are new. -/
theorem recalls_tasks {tasks : Array Task}
    (kept : ∀ {t : TaskId} {task : Task}, tasks[t]? = some task →
      ∃ found, e.tasks[t]? = some found ∧ found.promise = task.promise) :
    e.Recalls { e with tasks } :=
  { Recalls.refl e with
    tasks := fun found => by
      obtain ⟨task, found, promise⟩ := kept found
      exact .inl (.task found promise) }

/-- Iterations wait for what they waited for, or no longer wait. -/
theorem recalls_iterations {iterations : Array Iteration}
    (kept : ∀ {i : IterationId} {it : Iteration} {p : PromiseId}, iterations[i]? = some it →
      it.awaited = some p → ∃ found, e.iterations[i]? = some found ∧ found.awaited = some p) :
    e.Recalls { e with iterations } :=
  { Recalls.refl e with
    signals := fun found awaited => by
      obtain ⟨it, found, awaited⟩ := kept found awaited
      exact .inl (.signal found awaited) }

theorem recalls_modifyTask (t : TaskId) {f : Task → Task}
    (kept : ∀ task, (f task).promise = task.promise) : e.Recalls (e.modifyTask t f) := by
  refine recalls_tasks fun {u task} found => ?_
  rw [Array.getElem?_modify] at found
  split at found
  · obtain ⟨task', earlier, rfl⟩ := Option.map_eq_some_iff.1 found
    exact ⟨task', earlier, (kept task').symm⟩
  · exact ⟨task, found, rfl⟩

theorem recalls_modifyIteration (i : IterationId) {f : Iteration → Iteration}
    (kept : ∀ it p, (f it).awaited = some p → it.awaited = some p) :
    e.Recalls (e.modifyIteration i f) := by
  refine recalls_iterations fun {j it p} found awaited => ?_
  rw [Array.getElem?_modify] at found
  split at found
  · obtain ⟨it', earlier, rfl⟩ := Option.map_eq_some_iff.1 found
    exact ⟨it', earlier, kept it' p awaited⟩
  · exact ⟨it, found, awaited⟩

theorem recalls_setIteration {i : IterationId} {it it' : Iteration}
    (found : e.iterations[i]? = some it)
    (kept : ∀ p, it'.awaited = some p → it.awaited = some p) :
    e.Recalls { e with iterations := e.iterations.setIfInBounds i it' } := by
  refine recalls_iterations fun {j it''} {p} hj awaited => ?_
  rw [Array.getElem?_setIfInBounds] at hj
  split at hj
  · rename_i hij
    subst hij
    split at hj
    · obtain rfl := Option.some.inj hj
      exact ⟨it, found, kept p awaited⟩
    · cases hj
  · exact ⟨it'', hj, awaited⟩

theorem recalls_setCursor {id : CursorId} {c c' : Cursor} (found : e.cursors[id]? = some c)
    (outcome : c'.outcome = c.outcome) :
    e.Recalls { e with cursors := e.cursors.setIfInBounds id c' } := by
  refine { Recalls.refl e with outcomes := fun {id' d} hd => ?_ }
  rw [Array.getElem?_setIfInBounds] at hd
  split at hd
  · rename_i heq
    subst heq
    split at hd
    · obtain rfl := Option.some.inj hd
      exact .inl (.outcome found outcome.symm)
    · cases hd
  · exact .inl (.outcome hd rfl)

/-! ### Instructions -/

variable (e)

theorem recalls_signal (i : IterationId) (s : Signal) : e.Recalls (e.signal i s) := by
  unfold signal
  split
  · exact .refl e
  · have modified := e.recalls_modifyIteration i
      (f := fun it => { it with signals := it.signals ++ [s], awaited := none }) (by simp)
    split
    · exact modified.trans (recalls_settle _ _)
    · exact modified

theorem recalls_endTask (t : TaskId) (s : Settlement Delivery Failure) :
    e.Recalls (e.endTask t s) := by
  unfold endTask
  split
  · exact recalls_settle _ s
  · exact .refl e

theorem recalls_cancel (p : PromiseId) : e.Recalls (e.cancel p) := by
  unfold cancel
  split
  · exact .refl e
  · split
    · exact recalls_settle _ _
    · split
      · split
        · exact recalls_modifyTask _ fun _ => rfl
        · exact recalls_settle _ _
      · exact recalls_modifyTask _ fun _ => rfl

theorem awaited_step (it : Iteration) (a : Iteration.Action) :
    (it.step a).1.awaited = it.awaited := by
  unfold Iteration.step
  split <;> first | rfl | (split <;> rfl)

theorem recalls_spawn (w : Work) : e.Recalls (e.spawn w) := by
  have aimless : (Job.start e.tasks.size).target? = none := rfl
  have loop : e.Recalls { e with loop := e.loop.create.soon (.start e.tasks.size) } :=
    recalls_create.trans (recalls_soon aimless)
  refine { loop with tasks := fun {t task} found => ?_ }
  simp only [spawn, Array.getElem?_push] at found
  split at found
  · obtain rfl := Option.some.inj found
    exact .inr ⟨Nat.le_refl _, by simp [spawn, Loop.soon, Loop.create, Loop.nextId]⟩
  · exact .inl (.task found rfl)

/-- A job that follows a promise and settles a new one. -/
theorem recalls_follow {j : Job} (q : PromiseId) (target : j.target? = some e.loop.nextId) :
    e.Recalls { e with loop := e.loop.create.watch q j } := by
  refine recalls_loop (by simp [Loop.size_watch, Loop.create]) fun {k p} held aim => ?_
  rcases held.of_watch with held | rfl
  · exact .inl (held.of_push rfl)
  · obtain rfl := Option.some.inj (target.symm.trans aim)
    exact .inr ⟨Nat.le_refl _, by simp [Loop.size_watch, Loop.create, Loop.nextId]⟩

theorem recalls_chosen {releases : Array Release} (chosen : e.Chosen releases) :
    e.Recalls { e with releases } := by
  refine { Recalls.refl e with releases := fun {r release p} found promise => ?_ }
  rcases chosen with rfl | ⟨fresh, idle, rfl⟩
  · exact .inl (.release found promise)
  · simp only [Array.getElem?_push] at found
    split at found
    · obtain rfl := Option.some.inj found
      simp [idle] at promise
    · exact .inl (.release found promise)

theorem recalls_waiting {t : TaskId} {task : Task} (p : PromiseId)
    (found : e.tasks[t]? = some task) : e.Recalls (e.waiting t task p) := by
  refine (recalls_watch p (j := .resume t) rfl).trans (recalls_tasks fun {u task'} hu => ?_)
  rw [Array.getElem?_setIfInBounds] at hu
  split at hu
  · rename_i heq
    subst heq
    split at hu
    · obtain rfl := Option.some.inj hu
      exact ⟨task, found, rfl⟩
    · cases hu
  · exact ⟨task', hu, rfl⟩

/-! ### What is given a new promise -/

/-- A release without a connection has a promise that is there at once. -/
theorem recalls_promised (r : ReleaseId) (hasConnection : Bool) :
    e.Recalls { e with
      loop := e.loop.createSettled (.value .nothing)
      releases := e.releases.setIfInBounds r ⟨hasConnection, some e.loop.nextId⟩ } := by
  have settled : e.Recalls { e with loop := e.loop.createSettled (.value .nothing) } :=
    recalls_createSettled _
  refine { settled with releases := fun {r release p} found promise => ?_ }
  simp only [Array.getElem?_setIfInBounds] at found
  split at found
  · split at found
    · obtain rfl := Option.some.inj found
      obtain rfl := Option.some.inj promise
      exact .inr ⟨Nat.le_refl _, by simp [Loop.createSettled, Loop.nextId]⟩
    · cases found
  · exact .inl (.release found promise)

/-- A release with a connection has the promise of the task that gives it back. -/
theorem recalls_startRelease (r : ReleaseId) :
    e.Recalls { e.spawn .release with
      loop := (e.spawn .release).loop.watch e.loop.nextId (.noteRelease e.loop.nextId)
      releases := e.releases.modify r fun release =>
        { release with promise := some e.loop.nextId } } := by
  have watched : e.Recalls { e.spawn .release with
      loop := (e.spawn .release).loop.watch e.loop.nextId (.noteRelease e.loop.nextId) } :=
    (e.recalls_spawn .release).trans (recalls_watch _ rfl)
  refine { watched with releases := fun {r release p} found promise => ?_ }
  rw [Array.getElem?_modify] at found
  split at found
  · obtain ⟨earlier, _, rfl⟩ := Option.map_eq_some_iff.1 found
    obtain rfl := Option.some.inj promise
    refine .inr ⟨Nat.le_refl _, ?_⟩
    simp [Engine.spawn, Loop.size_watch, Loop.soon, Loop.create, Loop.nextId]
  · exact .inl (.release found promise)

theorem recalls_records (results : Array QueryResult) (id : CursorId) (size : FetchSize) :
    e.Recalls { e with results, iterations := e.iterations.push (.ofCursor id size) } := by
  refine { Recalls.refl e with signals := fun {i it p} found awaited => ?_ }
  simp only [Array.getElem?_push] at found
  split at found
  · obtain rfl := Option.some.inj found
    simp [Iteration.ofCursor] at awaited
  · exact .inl (.signal found awaited)

theorem recalls_openCursor {releases : Array Release} (runError : Option Failure)
    (release : ReleaseId) (chosen : e.Chosen releases) :
    e.Recalls { e with
      releases
      loop := e.loop.create.watch e.loop.nextId (.noteOutcome e.loop.nextId)
      cursors := e.cursors.push (.fresh runError release e.loop.nextId) } := by
  have noted := (e.recalls_chosen chosen).trans
    (recalls_create.trans (recalls_watch e.loop.nextId (j := .noteOutcome e.loop.nextId) rfl))
  refine { noted with outcomes := fun {id c} found => ?_ }
  simp only [Array.getElem?_push] at found
  split at found
  · obtain rfl := Option.some.inj found
    refine .inr ⟨Nat.le_refl _, ?_⟩
    simp [Cursor.fresh, Loop.size_watch, Loop.create, Loop.nextId]
  · exact .inl (.outcome found rfl)

theorem recalls_awaitSignal (k : IterationId) :
    e.Recalls { e with
      loop := e.loop.create
      iterations := e.iterations.modify k fun it =>
        { it with awaited := some e.loop.nextId } } := by
  have created : e.Recalls { e with loop := e.loop.create } := recalls_create
  refine { created with signals := fun {j it p} found awaited => ?_ }
  rw [Array.getElem?_modify] at found
  split at found
  · obtain ⟨earlier, _, rfl⟩ := Option.map_eq_some_iff.1 found
    obtain rfl := Option.some.inj awaited
    refine .inr ⟨Nat.le_refl _, ?_⟩
    simp [Loop.create, Loop.nextId]
  · exact .inl (.signal found awaited)

variable {e}

/-- Whatever an instruction changes, it gives roles to new promises only. -/
theorem Alters.recalls {i : Instruction} (alters : e.Alters i e') (steady : i.isStray = false) :
    e.Recalls e' := by
  cases alters with
  | same => exact .refl e
  | stream | runSucceed | runFail | bookmark | openResult => exact .of_same rfl rfl rfl rfl rfl
  | cursor found accepted =>
      exact recalls_setCursor found (Cursor.steps_of_step accepted).outcome
  | iteration t a found =>
      exact recalls_setIteration found fun p awaited => by rwa [awaited_step] at awaited
  | left th found =>
      refine recalls_setIteration found fun p awaited => ?_
      unfold Iteration.leave at awaited
      split at awaited
      · exact awaited
      · cases awaited
  | record k | ended k => exact e.recalls_signal k _
  | settle p st => exact recalls_settle p st
  | relay receiver found => exact (e.recalls_follow _ rfl).trans (recalls_watch _ rfl)
  | reportFailure receiver found => exact e.recalls_follow _ rfl
  | keep => exact recalls_createSettled _
  | release receiver found => exact e.recalls_promised _ _
  | startRelease id receiver => exact e.recalls_startRelease id
  | handIteration t | collect t => exact recalls_modifyTask t fun _ => rfl
  | records fetchSize former receiver found => exact e.recalls_records _ _ _
  | openCursor plan release chosen => exact e.recalls_openCursor _ release chosen
  | spawn w => exact e.recalls_spawn w
  | cancel p => exact e.recalls_cancel p
  | soon j => exact recalls_soon (Job.target?_eq_none (by simpa [Instruction.isStray] using steady))
  | await p found => exact e.recalls_waiting p found
  | awaitCancelled p found => exact (e.recalls_waiting p found).trans (recalls_settle _ _)
  | awaitNever => exact recalls_create
  | awaitSignal k t => exact e.recalls_awaitSignal k
  | finish t | caught t => exact e.recalls_endTask t _

variable (e)

theorem recalls_exec {i : Instruction} (steady : i.isStray = false) : e.Recalls (e.exec i).1 :=
  (alters_exec i).recalls steady

/-! ### Jobs -/

theorem recalls_runJob (j : Job) : e.Recalls (e.runJob j).1 := by
  generalize (e.runJob j).1 = e', altersBy_runJob (e := e) j = alters
  cases alters with
  | same => exact .refl _
  | cancelled t => exact e.recalls_endTask t _
  | resumed t => exact recalls_modifyTask t fun _ => rfl
  | relayed target | reported target => exact recalls_settle target _
  | forgotten source target =>
      exact recalls_loop (Nat.le_of_eq (size_unwatch _ _ _).symm) fun held _ => .inl held.of_unwatch
  | abandoned k => exact e.recalls_spawn _

end Engine

theorem Step.recalls {s s' : Situation} {m : Move} (step : Step s m s')
    (steady : ∀ i ∈ s.agenda, i.isStray = false) : s.engine.Recalls s'.engine := by
  cases step with
  | @carry e i rest own => exact e.recalls_exec (steady i (by simp))
  | answer r => exact .refl _
  | call body => exact .refl _
  | @begin e j loop next =>
      have size : e.loop.promises.size ≤ loop.promises.size := by
        unfold Loop.next? at next
        split at next
        · cases next
        · obtain ⟨-, rfl⟩ := Prod.mk.inj (Option.some.inj next)
          exact Nat.le_refl _
      have taken : e.Recalls { e with loop } :=
        Engine.recalls_loop size fun held _ => .inl (held.of_next? next)
      exact taken.trans (Engine.recalls_runJob _ j)

end QueryStream
