/-
  Proofs/Engine/Settling.lean --- who settles a promise.

  A promise that a move settles was to be settled by it, or it was cancelled, or the move
  has to do with what the promise is for (`Step.settler`).  So a promise that is for one
  thing only, and that nobody can cancel, is settled in one way only.
-/
import QueryStream.Proofs.Engine.Roles

set_option autoImplicit false

namespace QueryStream

/-! ## Who settles a promise -/

namespace Engine

/-- A task waits for a promise. -/
def Awaits (e : Engine) (p : PromiseId) : Prop :=
  ∃ (t : TaskId) (task : Task), e.tasks[t]? = some task ∧ task.waitingFor = some p

/-- How a move comes to settle a promise. -/
inductive Settler (e : Engine) (p : PromiseId) : Settlement Delivery Failure → Move → Prop
  /-- the promise was to be settled so -/
  | direct (st : Settlement Delivery Failure) (r : Reply) :
      Settler e p st (.carried (.settle p st) r)
  /-- the promise was cancelled -/
  | cancelled (r : Reply) : Settler e p .cancelled (.carried (.cancelPromise p) r)
  /-- a task that waits for the promise was cancelled -/
  | awaited {i : Instruction} (r : Reply) (awaits : e.Awaits p) :
      Settler e p .cancelled (.carried i r)
  /-- a task that is to be cancelled would wait for the promise -/
  | await (t : TaskId) (r : Reply) : Settler e p .cancelled (.carried (.await t p) r)
  /-- a task came to its end -/
  | ended {t : TaskId} (st : Settlement Delivery Failure) (m : Move)
      (plays : e.Plays p (.task t)) : Settler e p st m
  /-- an iteration was told something -/
  | signalled {i : IterationId} (st : Settlement Delivery Failure) (m : Move)
      (plays : e.Plays p (.signal i)) : Settler e p st m
  /-- the promise follows another one -/
  | relayed {source : PromiseId} {st : Settlement Delivery Failure}
      (settled : e.loop.settlement? source = some st) :
      Settler e p st (.began (.relay source p))
  /-- the promise is that of a failure nobody was told of -/
  | reported {id : CursorId} {source : PromiseId} {outcome st : Settlement Delivery Failure}
      (settled : e.loop.settlement? source = some outcome) (reports : e.Reports id outcome st) :
      Settler e p st (.began (.report id source p))
  /-- the promise is new -/
  | created (st : Settlement Delivery Failure) (m : Move) (fresh : e.loop.promises.size ≤ p) :
      Settler e p st m

variable {e : Engine} {p q : PromiseId} {st : Settlement Delivery Failure} {m : Move}

theorem settler_endTask {t : TaskId} {s : Settlement Delivery Failure}
    (h : (e.endTask t s).loop.settlement? p = some st) :
    e.loop.settlement? p = some st ∨ e.Settler p st m := by
  unfold endTask at h
  split at h
  · rename_i task found
    rcases Loop.settlement?_settle h with h | ⟨promise, rfl⟩
    · exact .inl h
    · exact .inr (.ended _ _ (.task found promise))
  · exact .inl h

theorem settler_signal {i : IterationId} {s : Signal}
    (h : (e.signal i s).loop.settlement? p = some st) :
    e.loop.settlement? p = some st ∨ e.Settler p st m := by
  unfold signal at h
  split at h
  · exact .inl h
  · rename_i it found
    split at h
    · rename_i q awaited
      rcases Loop.settlement?_settle h with h | ⟨rfl, rfl⟩
      · exact .inl h
      · exact .inr (.signalled _ _ (.signal found awaited))
    · exact .inl h

theorem settler_cancel {r : Reply} (h : (e.cancel q).loop.settlement? p = some st) :
    e.loop.settlement? p = some st ∨ e.Settler p st (.carried (.cancelPromise q) r) := by
  unfold cancel at h
  split at h
  · exact .inl h
  · split at h
    · rcases Loop.settlement?_settle h with h | ⟨rfl, rfl⟩
      · exact .inl h
      · exact .inr (.cancelled r)
    · split at h
      · rename_i awaited waiting
        split at h
        · exact .inl h
        · rcases Loop.settlement?_settle h with h | ⟨rfl, rfl⟩
          · exact .inl h
          · obtain ⟨task, found, waits⟩ := Option.bind_eq_some_iff.1 waiting
            exact .inr (.awaited r ⟨_, task, found, waits⟩)
      · exact .inl h

theorem settlement?_spawn (w : Work) : (e.spawn w).loop.settlement? p = e.loop.settlement? p :=
  Loop.settlement?_create

/-- Whatever an instruction changes, it settles a promise in one of the known ways. -/
theorem Alters.settler {e' : Engine} {i : Instruction} (alters : e.Alters i e') (r : Reply)
    (h : e'.loop.settlement? p = some st) :
    e.loop.settlement? p = some st ∨ e.Settler p st (.carried i r) := by
  cases alters with
  | record | ended => exact settler_signal h
  | settle q s =>
      rcases Loop.settlement?_settle h with h | ⟨rfl, rfl⟩
      · exact .inl h
      · exact .inr (.direct _ r)
  | relay | reportFailure | openCursor =>
      simp only [Loop.settlement?_watch, Loop.settlement?_create] at h
      exact .inl h
  | keep | release =>
      exact (Loop.settlement?_createSettled h).imp_right fun fresh => .created _ _ fresh
  | startRelease =>
      simp only [Loop.settlement?_watch, settlement?_spawn] at h
      exact .inl h
  | spawn w => exact .inl ((settlement?_spawn w).symm.trans h)
  | cancel q => exact settler_cancel h
  | await =>
      simp only [waiting, Loop.settlement?_watch] at h
      exact .inl h
  | @awaitCancelled t task =>
      rcases Loop.settlement?_settle h with h | ⟨rfl, rfl⟩
      · simp only [waiting, Loop.settlement?_watch] at h
        exact .inl h
      · exact .inr (.await t r)
  | awaitNever | awaitSignal => exact .inl (Loop.settlement?_create.symm.trans h)
  | finish | caught => exact settler_endTask h
  | _ => exact .inl h

theorem settler_exec {i : Instruction} (h : (e.exec i).1.loop.settlement? p = some st) :
    e.loop.settlement? p = some st ∨ e.Settler p st (.carried i (e.exec i).2) :=
  (alters_exec i).settler _ h

theorem settlement?_openCursor (plan : CursorPlan) :
    (e.openCursor plan).1.loop.settlement? p = e.loop.settlement? p := by
  unfold openCursor
  split
  · rfl
  · split
    · rfl
    · rename_i chosen
      obtain ⟨releases, rfl, -⟩ := exists_of_chooseRelease chosen
      exact (Loop.settlement?_watch _).trans Loop.settlement?_create

theorem settler_runJob {j : Job} (h : (e.runJob j).1.loop.settlement? p = some st) :
    e.loop.settlement? p = some st ∨ e.Settler p st (.began j) := by
  generalize (e.runJob j).1 = e', altersBy_runJob (e := e) j = alters at h
  cases alters with
  | same | resumed => exact .inl h
  | cancelled => exact settler_endTask h
  | relayed target settled =>
      rcases Loop.settlement?_settle h with h | ⟨rfl, rfl⟩
      · exact .inl h
      · exact .inr (.relayed settled)
  | reported target settled reports =>
      rcases Loop.settlement?_settle h with h | ⟨rfl, rfl⟩
      · exact .inl h
      · exact .inr (.reported settled reports)
  | forgotten => exact .inl (by rwa [settlement?_unwatch] at h)
  | abandoned => exact .inl ((settlement?_spawn _).symm.trans h)

end Engine

/-! ## Moves -/

section Steps

variable {s s' : Situation} {m : Move} {p : PromiseId} {st : Settlement Delivery Failure}

/-- Who settles a promise after the next job was taken settles it before. -/
theorem Engine.Settler.of_next? {e : Engine} {loop : EngineLoop} {j : Job}
    (next : e.loop.next? = some (j, loop)) (settler : Engine.Settler { e with loop } p st m) :
    e.Settler p st m := by
  obtain ⟨-, hpromises, -⟩ := Loop.settlement?_of_next? (p := p) next
  have settled : ∀ {q : PromiseId} {st : Settlement Delivery Failure},
      loop.settlement? q = some st → e.loop.settlement? q = some st := fun h => by
    rwa [(Loop.settlement?_of_next? next).1] at h
  cases settler with
  | direct st r => exact .direct st r
  | cancelled r => exact .cancelled r
  | awaited r awaits => exact .awaited r awaits
  | await t r => exact .await t r
  | ended st m plays =>
      cases plays with
      | task found promise => exact .ended st m (.task found promise)
  | signalled st m plays =>
      cases plays with
      | signal found awaited => exact .signalled st m (.signal found awaited)
  | relayed source => exact .relayed (settled source)
  | reported source reports =>
      refine .reported (settled source) ?_
      cases reports with
      | failure found => exact .failure found
      | value d => exact .value d
      | cancelled => exact .cancelled
  | created st m fresh => exact .created st m (by rwa [← hpromises])

/-- A promise that a move settles is settled by somebody. -/
theorem Step.settler (step : Step s m s') (h : s'.engine.loop.settlement? p = some st) :
    s.engine.loop.settlement? p = some st ∨ s.engine.Settler p st m := by
  cases step with
  | carry own => exact Engine.settler_exec h
  | answer r => exact .inl h
  | call next => exact .inl h
  | @begin e j loop next =>
      rcases Engine.settler_runJob h with h | settler
      · exact .inl ((Loop.settlement?_of_next? next).1.symm.trans h)
      · exact .inr (settler.of_next? next)

/-! ## Promises for one thing only -/

/-- A promise is for one thing only. -/
def Engine.Only (e : Engine) (p : PromiseId) (r : Role) : Prop := ∀ r', e.Plays p r' → r' = r

theorem Engine.Recalls.only {e e' : Engine} {r : Role} (recalls : e.Recalls e')
    (created : p < e.loop.promises.size) (only : e.Only p r) : e'.Only p r :=
  fun r' plays => only r' (recalls.plays_of_lt created plays)

/-- Where nothing but the loop changes, a new promise is for the jobs that settle it. -/
theorem Engine.only_of_loop {e : Engine} {loop : EngineLoop} {k : Job} (bounded : e.Bounded)
    (fresh : e.loop.promises.size ≤ p)
    (jobs : ∀ j, loop.Holds j → j.target? = some p → j = k) :
    Engine.Only { e with loop } p (.target k) := by
  have absent : ∀ r, ¬ e.Plays p r := fun r plays => Nat.not_le_of_lt (bounded p r plays) fresh
  intro r plays
  cases plays with
  | task found promise => exact absurd (.task found promise) (absent _)
  | signal found awaited => exact absurd (.signal found awaited) (absent _)
  | outcome found outcome => exact absurd (.outcome found outcome) (absent _)
  | release found promise => exact absurd (.release found promise) (absent _)
  | target held target => rw [jobs _ held target]

/-- A job that settles one promise when another one is settled waits for that one, or is
queued. -/
structure Engine.Pending (e : Engine) (k : Job) (o p : PromiseId) : Prop where
  unsettled : e.loop.settlement? p = none
  waits : e.loop.Watches o k ∨ k ∈ e.loop.ready

/-- The job that a move begins with was queued. -/
theorem Step.mem_ready {j : Job} (step : Step s (.began j) s') : j ∈ s.engine.loop.ready := by
  cases step with
  | begin next => exact (Loop.settlement?_of_next? (p := 0) next).2.2

/-- A job that waits goes on waiting until it begins. -/
theorem Step.waits {k : Job} {o : PromiseId} (step : Step s m s')
    (steady : ∀ i ∈ s.agenda, i.isStray = false) (sound : s.engine.loop.Sound)
    (target : k.target? = some p) (pending : s.engine.Pending k o p) :
    m = .began k ∨ s'.engine.loop.Watches o k ∨ k ∈ s'.engine.loop.ready := by
  cases step with
  | @carry e i rest own =>
      exact .inr ((e.evolves_exec (steady i (by simp))).watches pending.waits)
  | answer r => exact .inr pending.waits
  | call next => exact .inr pending.waits
  | @begin e j loop next =>
      obtain ⟨_, hj, hpromises, hready⟩ := sound.of_next? next
      by_cases same : j = k
      · exact .inl (same ▸ rfl)
      refine .inr ?_
      have waits : loop.Watches o k ∨ k ∈ loop.ready := by
        rcases pending.waits with ⟨watchers, found, mem⟩ | mem
        · exact .inl ⟨watchers, hpromises ▸ found, mem⟩
        · exact .inr ((hready k mem).resolve_left fun heq => same heq.symm)
      have began := Engine.began_runJob { e with loop } j
      by_cases unrelay : ∃ source forgotten, j = .unrelay source forgotten
      · obtain ⟨source, forgotten, rfl⟩ := unrelay
        have stays : (k == Job.relay source forgotten) = false := by
          refine beq_false_of_ne ?_
          rintro rfl
          -- what is forgotten is settled, and this one is not
          have done := sound.queued hj forgotten rfl
          obtain rfl := Option.some.inj target
          simp [Loop.isDone, pending.unsettled] at done
        simp only [Engine.runJob, Engine.forget]
        split
        · exact waits
        · refine waits.imp (fun watches => Loop.watches_unwatch watches stays) fun mem => ?_
          simp only [Engine.withLoop, Loop.unwatch]
          split <;> exact mem
      · exact (began.loop fun source target heq => unrelay ⟨source, target, heq⟩).watches waits

/-- How a move cancels a promise that is for no task. -/
inductive Engine.Cancels (e : Engine) (p : PromiseId) : Move → Prop
  | called (r : Reply) : Cancels e p (.carried (.cancelPromise p) r)
  /-- a task that waits for it is cancelled -/
  | awaited {i : Instruction} (r : Reply) (awaits : e.Awaits p) : Cancels e p (.carried i r)
  /-- a task that is to be cancelled would wait for it -/
  | await (t : TaskId) (r : Reply) : Cancels e p (.carried (.await t p) r)

/-- A promise that a job is to settle, and that nobody else settles, stays unsettled until
the job begins, unless it is cancelled. -/
theorem Step.pending {k : Job} {o : PromiseId} (step : Step s m s')
    (steady : ∀ i ∈ s.agenda, i.isStray = false) (sound : s.engine.loop.Sound)
    (target : k.target? = some p) (only : s.engine.Only p (.target k))
    (created : p < s.engine.loop.promises.size) (indirect : ∀ st r, m ≠ .carried (.settle p st) r)
    (pending : s.engine.Pending k o p) :
    m = .began k ∨ s'.engine.loop.settlement? p = some .cancelled ∧ s.engine.Cancels p m ∨
      s'.engine.Pending k o p := by
  rcases step.waits steady sound target pending with began | waits
  · exact .inl began
  cases settled : s'.engine.loop.settlement? p with
  | none => exact .inr (.inr ⟨settled, waits⟩)
  | some st =>
      rcases step.settler settled with earlier | settler
      · simp [pending.unsettled] at earlier
      cases settler with
      | direct st r => exact absurd rfl (indirect st r)
      | cancelled r => exact .inr (.inl ⟨rfl, .called r⟩)
      | awaited r awaits => exact .inr (.inl ⟨rfl, .awaited r awaits⟩)
      | await t r => exact .inr (.inl ⟨rfl, .await t r⟩)
      | ended st m plays => cases only _ plays
      | signalled st m plays => cases only _ plays
      | relayed source =>
          have held := Loop.Holds.ready step.mem_ready
          obtain rfl := Role.target.inj (only _ (.target held rfl))
          exact .inl rfl
      | reported source reports =>
          have held := Loop.Holds.ready step.mem_ready
          obtain rfl := Role.target.inj (only _ (.target held rfl))
          exact .inl rfl
      | created st m fresh => exact absurd created (Nat.not_lt_of_le fresh)

/-- A job that has a promise follow another settles it as that one was settled. -/
theorem Step.settles_relay {o : PromiseId} (step : Step s (.began (.relay o p)) s')
    (sound : s.engine.loop.Sound) (created : p < s.engine.loop.promises.size)
    (unsettled : s.engine.loop.settlement? p = none) :
    ∃ st, s.engine.loop.settlement? o = some st ∧ s'.engine.loop.settlement? p = some st := by
  obtain ⟨st, hst⟩ := Option.isSome_iff_exists.1 (sound.queued step.mem_ready o rfl)
  refine ⟨st, hst, ?_⟩
  cases step with
  | @begin e j loop next =>
      obtain ⟨source, hpromises, _⟩ := Loop.settlement?_of_next? (p := o) next
      have target := (Loop.settlement?_of_next? (p := p) next).1
      have settles : ({ e with loop }.runJob (.relay o p)).1.loop = loop.settle p st := by
        simp [Engine.runJob, Engine.relaySettlement, source.trans hst, Engine.withLoop]
      have created' : p < loop.promises.size := hpromises ▸ created
      simp only [settles, Loop.settlement?_settle_self created', target, unsettled]
      rfl

theorem Step.settles_report {id : CursorId} {c : Cursor} {o : PromiseId}
    (step : Step s (.began (.report id o p)) s') (sound : s.engine.loop.Sound)
    (created : p < s.engine.loop.promises.size)
    (unsettled : s.engine.loop.settlement? p = none) (found : s.engine.cursors[id]? = some c) :
    ∃ outcome st, s.engine.loop.settlement? o = some outcome ∧
      s.engine.Reports id outcome st ∧ s'.engine.loop.settlement? p = some st := by
  obtain ⟨outcome, houtcome⟩ := Option.isSome_iff_exists.1 (sound.queued step.mem_ready o rfl)
  cases step with
  | @begin e j loop next =>
      obtain ⟨source, hpromises, _⟩ := Loop.settlement?_of_next? (p := o) next
      have target := (Loop.settlement?_of_next? (p := p) next).1
      have created' : p < loop.promises.size := hpromises ▸ created
      have settled : ∀ st, ({ e with loop }.runJob (.report id o p)).1.loop = loop.settle p st →
          ({ e with loop }.runJob (.report id o p)).1.loop.settlement? p = some st := by
        intro st heq
        rw [heq, Loop.settlement?_settle_self created', target, unsettled]
        rfl
      cases outcome with
      | value d =>
          refine ⟨.value d, _, houtcome, .value d, settled _ ?_⟩
          simp [Engine.runJob, Engine.reportSettlement, source.trans houtcome, Engine.withLoop]
      | failure f =>
          refine ⟨.failure f, _, houtcome, .failure found, settled _ ?_⟩
          have found' : ({ e with loop } : Engine).cursors[id]? = some c := found
          simp only [Engine.runJob, Engine.reportSettlement, source.trans houtcome, found',
            Engine.withLoop]
      | cancelled =>
          refine ⟨.cancelled, _, houtcome, .cancelled, settled _ ?_⟩
          simp [Engine.runJob, Engine.reportSettlement, source.trans houtcome, Engine.withLoop]

end Steps

end QueryStream
