/-
  Proofs/Engine/Duty.lean --- tasks that are under way.

  Whatever is carried out leaves what a task has to do at the end of the agenda, with the guards
  of the task behind it, until the task waits or is over (`Crew.step`).  Hence what a task throws
  reaches the end of that task, and settles its promise.
-/
import QueryStream.Proofs.Engine.Crew

set_option autoImplicit false

namespace QueryStream

section Crew

variable {c : Conduct} {h : List Move} {s s' : Situation} {m : Move} {t u : TaskId}
  {task task' : Task} {i : Instruction} {rest : List Instruction} {inside : Option IterationId}
  {e e' : Engine}

/-! ### The agenda -/

theorem unwind_append_of_forall {before : List Instruction} (rest : List Instruction)
    (unguarded : ∀ g, .guarded g ∉ before) : unwind (before ++ rest) = unwind rest := by
  induction before with
  | nil => rfl
  | cons j before ih =>
      have others := ih fun g mem => unguarded g (List.mem_cons_of_mem _ mem)
      cases j with
      | guarded g => exact absurd (List.mem_cons_self ..) (unguarded g)
      | _ => exact others

theorem OnDuty.of_raise_of_plain (th : Thrown) (plain : ∀ i ∈ rest, i.isPlain = true) :
    OnDuty ⟨e, (Reply.raise th).onto rest⟩ := by
  simp only [Reply.onto]
  split
  · rename_i g tail unwound
    obtain ⟨before, rfl⟩ := exists_of_unwind unwound
    refine .vacant fun i mem => ?_
    rcases List.mem_cons.1 mem with rfl | mem
    · exact plain (.guarded g) (by simp)
    · exact plain i (by simp [mem])
  · exact .vacant (by simp)

/-- Something is thrown while a task is under way. -/
theorem OnDuty.of_raise (th : Thrown) {front own : List Instruction}
    (engaged : Engaged e t task) (plain : ∀ i ∈ front, i.isPlain = true)
    (one : own = [] ∨ ∃ i, own = [i] ∧ Bound e t task inside i) :
    OnDuty ⟨e, (Reply.raise th).onto (front ++ (own ++ taskGuards inside t))⟩ := by
  by_cases guards : ∃ g, .guarded g ∈ front
  · obtain ⟨g, mem⟩ := guards
    obtain ⟨before, g', middle, rfl, unwound⟩ :=
      unwind_append (own ++ taskGuards inside t) mem
    have agenda : (Reply.raise th).onto (before ++ .guarded g' :: middle ++
        (own ++ taskGuards inside t))
          = .caught g' th :: middle ++ (own ++ taskGuards inside t) := by
      simp only [Reply.onto, unwound]
      rfl
    refine .working (.caught g' th :: middle) own engaged (fun i mem => ?_) one agenda
    rcases List.mem_cons.1 mem with rfl | mem
    · exact plain (.guarded g') (by simp)
    · exact plain i (by simp [mem])
  · have unguarded : ∀ g, .guarded g ∉ front ++ own := fun g mem => by
      rcases List.mem_append.1 mem with mem | mem
      · exact guards ⟨g, mem⟩
      · rcases one with rfl | ⟨i, rfl, bound⟩
        · cases mem
        · rw [← List.mem_singleton.1 mem] at bound
          cases bound
    have unwound := unwind_append_of_forall (taskGuards inside t) unguarded
    rw [List.append_assoc] at unwound
    simp only [Reply.onto, unwound]
    cases inside with
    | none => exact .ending th engaged rfl
    | some k =>
        have caught : Bound e t task none (.caught (.iteration k) th) := .caught k th
        exact .working [] [_] engaged (by simp) (.inr ⟨_, rfl, caught⟩) rfl

theorem Engaged.enlist {w : Work} (engaged : Engaged e t task) (roster : e.Roster)
    (tasks : e'.tasks = e.tasks.push ⟨e.loop.nextId, w, none, false, none, []⟩)
    (loop : (e.loop.create.soon (.start e.tasks.size)).Drifts (fun _ => False) e'.loop) :
    Engaged e' t task := by
  have made : t < e.tasks.size := (Array.getElem?_eq_some_iff.1 engaged.found).1
  have created := (roster.enrolled t task engaged.found).created
  refine ⟨?_, ?_, ?_⟩
  · rw [tasks, Array.getElem?_push, if_neg (Nat.ne_of_lt made)]
    exact engaged.found
  · have other : (Job.start e.tasks.size).task? ≠ some t := by
      simpa [Job.task?] using (Nat.ne_of_lt made).symm
    rw [loop.tally, Loop.tally_soon, Loop.create, Loop.tally_push _ rfl,
      Loop.tallyOf_singleton_of_ne other, engaged.free]
  · have there : task.promise < (e.loop.create.soon (.start e.tasks.size)).promises.size := by
      simpa [Loop.create, Loop.soon] using Nat.lt_succ_of_lt created
    rw [loop.settlement? there (by simp)]
    exact Loop.settlement?_create.trans engaged.unsettled

theorem Crew.engaged_exec (crew : Crew s) (orderly : Orderly h s) (head : s.agenda = i :: rest)
    (engaged : Engaged s.engine t task) (alive : i.ends t = false)
    (stays : ∀ u p, i ≠ .await u p) (reads : ∀ u k, i ≠ .handIteration (.task u) k) :
    ∃ task', Engaged (s.engine.exec i).1 t task' ∧ task'.badge = task.badge := by
  cases other : i.isStaffing with
  | false =>
      have leaves := s.engine.leavesTasks_exec other
      obtain ⟨task', found, badge⟩ := leaves.badges.kept engaged.found
      refine ⟨task', ⟨found, leaves.drifts.tally.trans engaged.free, ?_⟩, badge⟩
      rw [(Task.eq_of_badge badge).1, crew.roster.settlement? engaged.found other alive
        fun p st settles => orderly.settles p st (by simp [head, settles])]
      exact engaged.unsettled
  | true =>
      have unqueued := crew.unqueued i (by simp [head])
      cases Instruction.staffs_of_isStaffing other with
      | soon queues => simp [Instruction.isQueuing, queues] at unqueued
      | spawn w receiver => exact ⟨task, engaged.enlist crew.roster rfl .refl, rfl⟩
      | startRelease r receiver =>
          exact ⟨task, engaged.enlist crew.roster rfl (.watch _ rfl .refl), rfl⟩
      | await u p => exact absurd rfl (stays u p)
      | handIteration u k => exact absurd rfl (reads u k)

/-- What a task has to do goes on being that. -/
theorem Bound.recalls (bound : Bound e t task inside i) (badge : task'.badge = task.badge)
    (recalls : e.Recalls e') : Bound e' t task' inside i := by
  obtain ⟨-, work, -, -⟩ := Task.eq_of_badge badge
  have reads := Task.iterationOf?_eq badge
  cases bound with
  | body => exact .body
  | runRelease hwork => exact .runRelease (work ▸ hwork)
  | awaitNever hwork => exact .awaitNever (work ▸ hwork)
  | summary hwork => exact .summary (work.trans hwork)
  | relay hwork => exact .relay (work.trans hwork)
  | close hwork => exact .close (work.trans hwork)
  | records a b hwork => exact .records a b (work.trans hwork)
  | handIteration k hwork => exact .handIteration k (work.trans hwork)
  | advance hreads => exact .advance (reads.trans hreads)
  | caught k th => exact .caught k th
  | inside hreads advance close => exact .inside (reads.trans hreads) advance close
  | awaitSignal hreads => exact .awaitSignal (reads.trans hreads)
  | yielded r hreads => exact .yielded r (reads.trans hreads)
  | exhausted hreads => exact .exhausted (reads ▸ hreads)
  | await awaitable => exact reads ▸ .await (awaitable.recalls recalls)
  | woken s => exact reads ▸ .woken s
  | finish d => exact .finish d

/-- What an instruction of a task puts in front of the guards of the task. -/
theorem OnDuty.of_go {own : List Instruction} (front : List Instruction)
    (engaged : Engaged e t task) (plain : ∀ i ∈ front, i.isPlain = true)
    (one : own = [] ∨ ∃ i, own = [i] ∧ Bound e t task inside i) :
    OnDuty ⟨e, (Reply.go (front ++ own)).onto (taskGuards inside t)⟩ :=
  .working front own engaged plain one (List.append_assoc ..)

theorem OnDuty.of_one (engaged : Engaged e t task) (bound : Bound e t task inside i) :
    OnDuty ⟨e, (Reply.go [i]).onto (taskGuards inside t)⟩ :=
  .of_go [] engaged (by simp) (.inr ⟨i, rfl, bound⟩)

theorem OnDuty.of_front (front : List Instruction) (engaged : Engaged e t task)
    (plain : ∀ i ∈ front, i.isPlain = true) :
    OnDuty ⟨e, (Reply.go front).onto (taskGuards inside t)⟩ := by
  have agenda : OnDuty ⟨e, (Reply.go (front ++ [])).onto (taskGuards inside t)⟩ :=
    .of_go front engaged plain (.inl rfl)
  rwa [List.append_nil] at agenda

theorem Engine.exec_iteration_of_none {k : IterationId} (a : Iteration.Action)
    (absent : e.iterations[k]? = none) : e.exec (.iteration k t a) = (e, .go []) := by
  simp [Engine.exec, Engine.stepIteration, absent, Engine.goOn]

theorem Engine.exec_iteration {k : IterationId} {it : Iteration} (a : Iteration.Action)
    (found : e.iterations[k]? = some it) : e.exec (.iteration k t a)
      = ({ e with iterations := e.iterations.setIfInBounds k (it.step a).1 },
        .go ((it.step a).2.flatMap (Instruction.ofIteration k (it.step a).1 t))) := by
  simp [Engine.exec, Engine.stepIteration, found]

theorem OnDuty.of_inside {k : IterationId} {a : Iteration.Action}
    (engaged : Engaged (e.exec (.iteration k t a)).1 t task)
    (reads : Engine.iterationOf? task = some k) (advance : a ≠ .advance) (close : a ≠ .close) :
    OnDuty ⟨(e.exec (.iteration k t a)).1,
      (e.exec (.iteration k t a)).2.onto (taskGuards (some k) t)⟩ := by
  cases found : e.iterations[k]? with
  | none =>
      rw [Engine.exec_iteration_of_none a found] at engaged ⊢
      exact .of_front [] engaged (by simp)
  | some it =>
      rw [Engine.exec_iteration a found] at engaged ⊢
      cases a with
      | advance => exact absurd rfl advance
      | close => exact absurd rfl close
      | fetch =>
          by_cases empty : (it.signals.isEmpty && it.outstanding == 0) = true
          · have fetched : (it.step .fetch).2 = _ := congrArg Prod.snd (if_pos empty)
            rw [fetched]
            exact .of_go [.ask (.log _), .cursor _ (.request _)] engaged
              (by simp [Instruction.isPlain]) (.inr ⟨_, rfl, .inside reads (by simp) (by simp)⟩)
          · have fetched : (it.step .fetch).2 = _ := congrArg Prod.snd (if_neg empty)
            rw [fetched]
            exact .of_one engaged (.inside reads (by simp) (by simp))
      | requested => exact .of_one engaged (.inside reads (by simp) (by simp))
      | take =>
          unfold Iteration.step at engaged ⊢
          cases signals : it.signals with
          | nil =>
              simp only [signals] at engaged ⊢
              exact .of_one engaged (.awaitSignal reads)
          | cons signal tail =>
              cases signal with
              | record r =>
                  simp only [signals] at engaged ⊢
                  exact .of_one engaged (.yielded r reads)
              | finish f =>
                  cases f with
                  | none =>
                      simp only [signals] at engaged ⊢
                      exact .of_one engaged (.exhausted (by simp [reads]))
                  | some f =>
                      simp only [signals] at engaged ⊢
                      exact .of_front [.throw (.failure f)] engaged (by simp [Instruction.isPlain])

theorem OnDuty.of_advance {k : IterationId}
    (engaged : Engaged (e.exec (.iteration k t .advance)).1 t task)
    (reads : Engine.iterationOf? task = some k) :
    OnDuty ⟨(e.exec (.iteration k t .advance)).1,
      (e.exec (.iteration k t .advance)).2.onto (taskGuards none t)⟩ := by
  cases found : e.iterations[k]? with
  | none =>
      rw [Engine.exec_iteration_of_none _ found] at engaged ⊢
      exact .of_front [] engaged (by simp)
  | some it =>
      rw [Engine.exec_iteration _ found] at engaged ⊢
      have fetch : ∀ e' : Engine, Engaged e' t task →
          OnDuty ⟨e', [.iteration k t .fetch, .guarded (.iteration k), .guarded (.task t)]⟩ :=
        fun e' engaged => .working [] [.iteration k t .fetch] engaged (by simp)
          (.inr ⟨_, rfl, .inside reads (by simp) (by simp)⟩) rfl
      unfold Iteration.step at engaged ⊢
      cases phase : it.phase <;> simp only [phase] at engaged ⊢
      · exact fetch _ engaged
      · exact fetch _ engaged
      · exact fetch _ engaged
      · exact .of_one engaged (.exhausted (by simp [reads]))

theorem OnDuty.of_close {k : IterationId}
    (engaged : Engaged (e.exec (.iteration k t .close)).1 t task) :
    OnDuty ⟨(e.exec (.iteration k t .close)).1,
      (e.exec (.iteration k t .close)).2.onto (taskGuards none t)⟩ := by
  cases found : e.iterations[k]? with
  | none =>
      rw [Engine.exec_iteration_of_none _ found] at engaged ⊢
      exact .of_front [] engaged (by simp)
  | some it =>
      rw [Engine.exec_iteration _ found] at engaged ⊢
      unfold Iteration.step at engaged ⊢
      cases phase : it.phase <;> simp only [phase] at engaged ⊢
      · exact .of_one engaged (.finish _)
      · exact .of_one engaged (.finish _)
      · exact .of_go [.ask (.log _), .cursor _ .cancel] engaged (by simp [Instruction.isPlain])
          (.inr ⟨_, rfl, .finish _⟩)
      · exact .of_one engaged (.finish _)

theorem OnDuty.of_body (engaged : Engaged e t task)
    (reads : ∀ k, task.work = .next k → Engine.iterationOf? task = some k) :
    OnDuty ⟨e, (Reply.go (e.body t)).onto (taskGuards none t)⟩ := by
  unfold Engine.body
  rw [engaged.found, Option.map_some]
  cases work : task.work with
  | release => exact .of_one engaged (.runRelease work)
  | consume c => exact .of_one engaged (.summary work)
  | next k => exact .of_one engaged (.advance (reads k work))
  | close k => exact .of_one engaged (.close work)
  | collect q => exact .of_one engaged (.records .null .null work)

theorem OnDuty.of_summary {id : CursorId}
    (engaged : Engaged (e.exec (.cursor id (.summary (.task t)))).1 t task)
    (work : task.work = .consume id) :
    OnDuty ⟨(e.exec (.cursor id (.summary (.task t)))).1,
      (e.exec (.cursor id (.summary (.task t)))).2.onto (taskGuards none t)⟩ := by
  cases found : e.cursors[id]? with
  | none =>
      rw [Engine.exec_cursor_of_none _ _ found] at engaged ⊢
      exact .of_front [] engaged (by simp)
  | some cursor =>
      rw [e.exec_cursor found rfl] at engaged ⊢
      rw [List.map_append]
      refine .of_go _ engaged (fun i mem => ?_) (.inr ⟨_, rfl, .relay work⟩)
      obtain ⟨effect, staged, rfl⟩ := List.mem_map.1 mem
      unfold Cursor.stage at staged
      split at staged
      · cases staged
      · simp only [Cursor.line, List.mem_cons, List.not_mem_nil, or_false] at staged
        rcases staged with rfl | rfl | rfl | rfl <;> rfl

/-- A promise that was just made is that of no task. -/
theorem Engine.Roster.awaitable_nextId (roster : e.Roster) (tasks : e'.tasks = e.tasks)
    (more : e.loop.promises.size < e'.loop.promises.size) : e'.Awaitable e.loop.nextId := by
  refine ⟨more, fun u plays => ?_⟩
  cases plays with
  | task found promise =>
      rw [tasks] at found
      have created := (roster.enrolled _ _ found).created
      rw [promise] at created
      exact Nat.lt_irrefl _ created

/-- The outcome of a cursor is the promise of no task. -/
theorem Engine.Roster.awaitable_outcome (roster : e.Roster) (bounded : e.Bounded)
    {id : CursorId} {cursor : Cursor} (found : e.cursors[id]? = some cursor) :
    e.Awaitable cursor.outcome := by
  have plays : e.Plays cursor.outcome (.outcome id) := .outcome found rfl
  refine ⟨bounded _ _ plays, fun u task => ?_⟩
  cases task with
  | task made promise =>
      rcases (roster.enrolled _ _ made).solely _ (promise ▸ plays) with role | ⟨r, role⟩ <;>
        cases role

/-- A task that does not read waits outside of iterations. -/
theorem Bound.await_outside {p : PromiseId} (reads : Engine.iterationOf? task = none)
    (awaitable : e.Awaitable p) : Bound e t task none (.await t p) := by
  have bound : Bound e t task (Engine.iterationOf? task) (.await t p) := .await awaitable
  rwa [reads] at bound

/-- A task is handed a promise of the outcome of a cursor. -/
theorem OnDuty.of_relay {id : CursorId} (roster : e.Roster) (bounded : e.Bounded)
    (engaged : Engaged (e.exec (.relay id (.task t))).1 t task)
    (reads : Engine.iterationOf? task = none) :
    OnDuty ⟨(e.exec (.relay id (.task t))).1,
      (e.exec (.relay id (.task t))).2.onto (taskGuards none t)⟩ := by
  simp only [Engine.exec, Engine.relay] at engaged ⊢
  split
  · simp_all only
    exact .of_front [] engaged (by simp)
  · rename_i cursor found
    simp only [found] at engaged
    split
    · rename_i done
      simp only [done, if_true] at engaged
      exact .of_one engaged (.await_outside reads (roster.awaitable_outcome bounded found))
    · rename_i undone
      simp only [undone] at engaged
      refine .of_one engaged (.await_outside reads (roster.awaitable_nextId rfl ?_))
      simp [Loop.size_watch, Loop.create]

theorem Engaged.of_eq (engaged : Engaged e t task) (tasks : e'.tasks = e.tasks)
    (loop : e'.loop = e.loop) : Engaged e' t task :=
  ⟨tasks ▸ engaged.found, loop ▸ engaged.free, loop ▸ engaged.unsettled⟩

/-- What a task throws reaches the nearest of its guards. -/
theorem OnDuty.of_thrown (th : Thrown) (engaged : Engaged e t task) :
    OnDuty ⟨e, (Reply.raise th).onto (taskGuards inside t)⟩ := by
  have none : ∀ i ∈ ([] : List Instruction), i.isPlain = true := by simp
  exact OnDuty.of_raise th engaged none (.inl rfl)

theorem OnDuty.of_records {q : ResultId} {fetchSize former : Value}
    (engaged : Engaged e t task) (work : task.work = .collect q) :
    OnDuty ⟨(e.exec (.records q fetchSize former (.task t))).1,
      (e.exec (.records q fetchSize former (.task t))).2.onto (taskGuards none t)⟩ := by
  have warned : ∀ (warning : Option String) (i : Instruction),
      i ∈ (warning.toList.map fun text => Instruction.ask (.warn text)) → i.isPlain = true := by
    intro warning i mem
    obtain ⟨text, -, rfl⟩ := List.mem_map.1 mem
    rfl
  simp only [Engine.exec, Engine.startRecords]
  split
  · exact .of_front [] engaged (by simp)
  · rename_i result _
    obtain ⟨warning, chosen⟩ := result.start fetchSize former
    cases chosen with
    | error c =>
        refine .of_front _ engaged fun i mem => ?_
        rcases List.mem_append.1 mem with mem | mem
        · exact warned warning i mem
        · rw [List.mem_singleton.1 mem]
          rfl
    | ok size =>
        have split : ∀ (warns : List Instruction) (a b : Instruction),
            warns ++ [a, b] = (warns ++ [a]) ++ [b] := by simp
        simp only [split]
        refine .of_go _ (engaged.of_eq rfl rfl) (fun i mem => ?_)
          (.inr ⟨_, rfl, .handIteration _ work⟩)
        rcases List.mem_append.1 mem with mem | mem
        · exact warned warning i mem
        · rw [List.mem_singleton.1 mem]
          rfl

theorem OnDuty.of_caught (k : IterationId) (th : Thrown) (engaged : Engaged e t task) :
    OnDuty ⟨(e.exec (.caught (.iteration k) th)).1,
      (e.exec (.caught (.iteration k) th)).2.onto (taskGuards none t)⟩ := by
  simp only [Engine.exec, Engine.caught]
  split
  · exact .of_thrown th engaged
  · rename_i it _
    refine .of_front _ (engaged.of_eq rfl rfl) fun i mem => ?_
    rcases List.mem_append.1 mem with mem | mem
    · unfold Iteration.leave at mem
      split at mem
      · cases mem
      · simp only [Iteration.leaveEffects, Instruction.ofIteration, List.flatMap_cons,
          List.flatMap_nil, List.append_nil, List.cons_append, List.nil_append, List.mem_cons,
          List.not_mem_nil, or_false] at mem
        rcases mem with rfl | rfl <;> rfl
    · rw [List.mem_singleton.1 mem]
      rfl

theorem afterTask_taskGuards : afterTask t (taskGuards inside t) = [] := by
  cases inside <;> simp [taskGuards, afterTask]

theorem OnDuty.of_await {p : PromiseId} (engaged : Engaged e t task)
    (awaitable : e.Awaitable p) :
    OnDuty ⟨(e.exec (.await t p)).1,
      (e.exec (.await t p)).2.onto (taskGuards (Engine.iterationOf? task) t)⟩ := by
  simp only [Engine.exec]
  rcases Engine.await_cases engaged.found awaitable.created with
    ⟨s, -, awaits⟩ | ⟨e', awaits, -⟩
  · rw [awaits]
    exact .of_one engaged (.woken s)
  · rw [awaits]
    refine .vacant fun i mem => ?_
    simp only [Reply.onto, afterTask_taskGuards] at mem
    cases mem

theorem OnDuty.of_woken (st : Settlement Delivery Failure) (engaged : Engaged e t task) :
    OnDuty ⟨(e.exec (.woken t st)).1,
      (e.exec (.woken t st)).2.onto (taskGuards (Engine.iterationOf? task) t)⟩ := by
  cases st with
  | failure f => exact .of_thrown _ engaged
  | cancelled => exact .of_thrown _ engaged
  | value d =>
      simp only [Engine.exec, Engine.woken, engaged.found]
      cases reads : Engine.iterationOf? task with
      | none => exact .of_one engaged (.finish d)
      | some k => exact .of_one engaged (.inside reads (by simp) (by simp))

theorem OnDuty.of_yielded {k : IterationId} (r : Record)
    (engaged : Engaged (e.exec (.yielded t r)).1 t task') (found : e.tasks[t]? = some task)
    (badge : task'.badge = task.badge) (reads : Engine.iterationOf? task = some k) :
    OnDuty ⟨(e.exec (.yielded t r)).1,
      (e.exec (.yielded t r)).2.onto (taskGuards (some k) t)⟩ := by
  simp only [Engine.exec, Engine.yielded, found] at engaged ⊢
  split
  · rename_i q k' work iteration
    obtain rfl : k' = k := by
      simpa [Engine.iterationOf?, work, iteration] using reads
    simp only [work, iteration] at engaged
    exact .working [] [.iteration k' t .advance] engaged (by simp)
      (.inr ⟨_, rfl, .advance ((Task.iterationOf?_eq badge).trans reads)⟩) rfl
  · rename_i other
    split at engaged
    · rename_i work iteration
      exact absurd iteration (other _ _ work)
    · exact .of_one engaged (.finish _)

theorem OnDuty.of_exhausted (engaged : Engaged e t task) :
    OnDuty ⟨e, (Reply.go (e.exhausted t)).onto (taskGuards inside t)⟩ := by
  unfold Engine.exhausted
  simp only [engaged.found]
  split <;> exact .of_one engaged (.finish _)

/-- A task that neither reads an iteration nor collects records is in none. -/
theorem Enrolled.iterationOf?_eq_none (enrolled : Enrolled e t task)
    (next : ∀ k, task.work ≠ .next k) (collect : ∀ q, task.work ≠ .collect q) :
    Engine.iterationOf? task = none := by
  have none : task.iteration = none := Option.eq_none_iff_forall_ne_some.2 fun k reads => by
    obtain ⟨q, work⟩ := enrolled.reads k reads
    exact collect q work
  unfold Engine.iterationOf?
  split
  · rename_i k work
    exact absurd work (next k)
  · exact none

theorem OnDuty.of_handed {q : ResultId} (k : IterationId) (engaged : Engaged e t task)
    (work : task.work = .collect q) :
    OnDuty ⟨(e.exec (.handIteration (.task t) k)).1,
      (e.exec (.handIteration (.task t) k)).2.onto (taskGuards none t)⟩ := by
  have given : Engaged (e.exec (.handIteration (.task t) k)).1 t
      { task with iteration := some k } :=
    ⟨by simp [Engine.exec, Engine.modifyTask, Array.getElem?_modify, engaged.found],
      engaged.free, engaged.unsettled⟩
  exact .of_one given (.advance (by simp [Engine.iterationOf?, work]))

/-- What a task does when its turn comes leaves it under way. -/
theorem Crew.onDuty_own (crew : Crew s) (orderly : Orderly h s) (head : s.agenda = i :: rest)
    (engaged : Engaged s.engine t task) (bound : Bound s.engine t task inside i)
    (own : i.isAsk = false) :
    OnDuty ⟨(s.engine.exec i).1, (s.engine.exec i).2.onto (taskGuards inside t)⟩ := by
  have enrolled := crew.roster.enrolled t task engaged.found
  have goesOn := crew.engaged_exec orderly head engaged
  -- only what is carried out under the guards can end the task, the rest leaves it engaged
  cases bound with
  | body => exact .of_body engaged fun k work => by simp [Engine.iterationOf?, work]
  | runRelease work => cases own
  | awaitNever work =>
      obtain ⟨task', engaged', badge⟩ := goesOn rfl (by simp) (by simp)
      have outside := enrolled.iterationOf?_eq_none (by simp [work]) (by simp [work])
      refine .of_one engaged' (.await_outside ((Task.iterationOf?_eq badge).trans outside)
        (crew.roster.awaitable_nextId rfl ?_))
      simp [Engine.exec, Engine.withLoop, Loop.create]
  | summary work =>
      obtain ⟨task', engaged', badge⟩ := goesOn rfl (by simp) (by simp)
      exact .of_summary engaged' ((Task.eq_of_badge badge).2.1.trans work)
  | relay work =>
      obtain ⟨task', engaged', badge⟩ := goesOn rfl (by simp) (by simp)
      have outside := enrolled.iterationOf?_eq_none (by simp [work]) (by simp [work])
      exact .of_relay crew.roster orderly.bounded engaged'
        ((Task.iterationOf?_eq badge).trans outside)
  | close work =>
      obtain ⟨task', engaged', -⟩ := goesOn rfl (by simp) (by simp)
      exact .of_close engaged'
  | records fetchSize former work => exact .of_records engaged work
  | handIteration k work => exact .of_handed k engaged work
  | advance reads =>
      obtain ⟨task', engaged', badge⟩ := goesOn rfl (by simp) (by simp)
      exact .of_advance engaged' ((Task.iterationOf?_eq badge).trans reads)
  | caught k th => exact .of_caught k th engaged
  | inside reads advance close =>
      obtain ⟨task', engaged', badge⟩ := goesOn rfl (by simp) (by simp)
      exact .of_inside engaged' ((Task.iterationOf?_eq badge).trans reads) advance close
  | @awaitSignal k reads =>
      obtain ⟨task', engaged', badge⟩ := goesOn rfl (by simp) (by simp)
      have awaitable : (s.engine.exec (.awaitSignal k t)).1.Awaitable s.engine.loop.nextId :=
        crew.roster.awaitable_nextId rfl
          (by simp [Engine.exec, Engine.awaitSignal, Engine.goOn, Engine.withLoop,
            Engine.modifyIteration, Loop.create])
      rw [← reads, ← Task.iterationOf?_eq badge]
      exact .of_one engaged' (.await awaitable)
  | yielded r reads =>
      obtain ⟨task', engaged', badge⟩ := goesOn rfl (by simp) (by simp)
      exact .of_yielded r engaged' engaged.found badge reads
  | exhausted reads => exact .of_exhausted engaged
  | await awaitable => exact .of_await engaged awaitable
  | woken st => exact .of_woken st engaged
  | finish d => exact .ended inside t rfl

/-! ### Moves -/

/-- What stands behind something that has nothing to do with tasks. -/
inductive Standby (e : Engine) (rest : List Instruction) : Prop
  | vacant (plain : ∀ i ∈ rest, i.isPlain = true)
  | working {t : TaskId} {task : Task} {inside : Option IterationId}
      (front own : List Instruction) (engaged : Engaged e t task)
      (plain : ∀ i ∈ front, i.isPlain = true)
      (one : own = [] ∨ ∃ i, own = [i] ∧ Bound e t task inside i)
      (split : rest = front ++ (own ++ taskGuards inside t))

theorem Bound.isPlain (bound : Bound e t task inside i) : i.isPlain = false := by
  cases bound <;> rfl

theorem isPlain_of_mem_taskGuards (mem : i ∈ taskGuards inside t) : i.isPlain = false := by
  unfold taskGuards at mem
  rcases List.mem_append.1 mem with mem | mem
  · obtain ⟨k, -, rfl⟩ := List.mem_map.1 mem
    rfl
  · rw [List.mem_singleton.1 mem]
    rfl

theorem OnDuty.standby (onDuty : OnDuty s) (head : s.agenda = i :: rest)
    (plain : i.isPlain = true) : Standby s.engine rest := by
  cases onDuty with
  | vacant all => exact .vacant fun j mem => all j (by simp [head, mem])
  | ended inside t agenda =>
      have mem : i ∈ taskGuards inside t := by simp [← agenda, head]
      simp [isPlain_of_mem_taskGuards mem] at plain
  | ending th engaged agenda =>
      obtain ⟨rfl, -⟩ := List.cons.inj (head.symm.trans agenda)
      cases plain
  | @working t task inside front own engaged others one agenda =>
      have split := head.symm.trans agenda
      cases front with
      | cons j front =>
          obtain ⟨rfl, rfl⟩ := List.cons.inj split
          exact .working front own engaged (fun j mem => others j (by simp [mem])) one rfl
      | nil =>
          rcases one with rfl | ⟨j, rfl, bound⟩
          · have mem : i ∈ taskGuards inside t := by
              simp only [List.nil_append] at split
              simp [← split]
            simp [isPlain_of_mem_taskGuards mem] at plain
          · obtain ⟨rfl, -⟩ := List.cons.inj split
            simp [bound.isPlain] at plain

/-- What has nothing to do with tasks leads to nothing that has, or throws something. -/
theorem Standby.onDuty {r : Reply} (standby : Standby e rest)
    (reply : (∃ next, r = .go next ∧ ∀ j ∈ next, j.isPlain = true) ∨ ∃ th, r = .raise th) :
    OnDuty ⟨e, r.onto rest⟩ := by
  cases standby with
  | vacant plain =>
      rcases reply with ⟨next, rfl, nextPlain⟩ | ⟨th, rfl⟩
      · exact .vacant fun j mem => (List.mem_append.1 mem).elim (nextPlain j) (plain j)
      · exact .of_raise_of_plain th plain
  | working front own engaged plain one split =>
      subst split
      rcases reply with ⟨next, rfl, nextPlain⟩ | ⟨th, rfl⟩
      · refine .working (next ++ front) own engaged (fun j mem => ?_) one
          (List.append_assoc ..).symm
        exact (List.mem_append.1 mem).elim (nextPlain j) (plain j)
      · exact .of_raise th engaged plain one

/-- What leads to something and has to do with tasks is what a task has to do. -/
theorem OnDuty.own {j : Instruction} (onDuty : OnDuty s)
    (head : s.agenda = i :: rest) (own : i.isPlain = false)
    (mem : j ∈ (s.engine.exec i).2.next) :
    ∃ t task inside, Engaged s.engine t task ∧ Bound s.engine t task inside i := by
  cases onDuty.foremost head own with
  | own engaged bound guards => exact ⟨_, _, _, engaged, bound⟩
  | ending th engaged caught last =>
      subst caught
      cases mem
  | guard g guarded left =>
      subst guarded
      cases mem

theorem Crew.onDuty_exec (crew : Crew s) (orderly : Orderly h s) (head : s.agenda = i :: rest)
    (own : i.isAsk = false) :
    OnDuty ⟨(s.engine.exec i).1, (s.engine.exec i).2.onto rest⟩ := by
  cases plain : i.isPlain with
  | false =>
      cases crew.onDuty.foremost head plain with
      | own engaged bound guards =>
          subst guards
          exact crew.onDuty_own orderly head engaged bound own
      | ending th engaged caught last =>
          subst caught last
          exact .vacant (by simp [Engine.exec, Engine.caught, Reply.onto])
      | guard g guarded left =>
          subst guarded
          rcases left with rfl | ⟨t, rfl⟩
          · exact .vacant (by simp [Engine.exec, Engine.goOn, Reply.onto])
          · exact .ended none t rfl
  | true =>
      refine Standby.onDuty ?_ (s.engine.isPlain_exec plain)
      cases crew.onDuty.standby head plain with
      | vacant others => exact .vacant others
      | @working t task inside front own engaged others one split =>
          have recalls := s.engine.recalls_exec (orderly.steady i (by simp [head]))
          have alive : i.ends t = false := by
            unfold Instruction.ends
            split <;> first | rfl | cases plain
          obtain ⟨task', engaged', badge⟩ := crew.engaged_exec orderly head engaged alive
            (fun u p same => by simp [same, Instruction.isPlain] at plain)
            (fun u k same => by simp [same, Instruction.isPlain, Receiver.isTask] at plain)
          refine .working front own engaged' others (one.imp_right ?_) split
          rintro ⟨j, rfl, bound⟩
          exact ⟨j, rfl, bound.recalls badge recalls⟩

theorem Engine.isQueuing_exec {j : Instruction} (mem : j ∈ (e.exec i).2.next) :
    j.isQueuing = false := by
  cases Engine.leads_exec mem with
  | @stream _ _ _ effect => cases effect <;> rfl
  | @cursor _ _ _ _ _ effect => cases effect <;> rfl
  | iteration found effects among | left th found effects among =>
      cases Engine.puts_of_mem among <;> rfl
  | hand p receives among => cases Engine.hands_of_mem among <;> rfl
  | body among => cases Engine.setsOut_of_mem among <;> rfl
  | exhausted among =>
      obtain ⟨d, rfl⟩ := Engine.finish_of_mem_exhausted among
      rfl
  | _ => rfl

theorem Instruction.isPlain_of_isForeseen (foreseen : i.isForeseen = true) : i.isPlain = true := by
  rcases Bool.or_eq_true_iff.1 foreseen with call | tidings
  · exact i.isPlain_of_isCall call
  · unfold Instruction.isTidings at tidings
    split at tidings <;> first | rfl | cases tidings

theorem Instruction.isQueuing_of_isForeseen (foreseen : i.isForeseen = true) :
    i.isQueuing = false := by
  rcases Bool.or_eq_true_iff.1 foreseen with call | tidings
  · cases i with
    | soon j => cases j <;> first | rfl | cases call
    | _ => rfl
  · unfold Instruction.isTidings at tidings
    split at tidings <;> first | rfl | cases tidings

/-- What comes from outside and has to do with tasks ends the task that gives the connection
back, or has it wait for ever. -/
theorem Admits.own (admits : Admits h m) (mem : i ∈ m.outside)
    (own : i.isPlain = false) : ∃ t, i = .finish t .nothing ∨ i = .awaitNever t := by
  rcases admits.outside mem with foreseen | ⟨u, rfl⟩ | ⟨u, rfl⟩
  · simp [i.isPlain_of_isForeseen foreseen] at own
  · exact ⟨u, .inl rfl⟩
  · exact ⟨u, .inr rfl⟩

/-- What is answered leaves what a task has to do at the end of the agenda. -/
theorem Crew.onDuty_answer {a : Ask} {r : Reply} (crew : Crew s)
    (head : s.agenda = .ask a :: rest) (responds : Responds a r) :
    OnDuty ⟨s.engine, r.onto rest⟩ := by
  cases plain : (Instruction.ask a).isPlain with
  | true =>
      refine (crew.onDuty.standby head plain).onDuty ?_
      cases responds with
      | notice told => exact .inl ⟨[], rfl, by simp⟩
      | go control made => exact .inl ⟨_, rfl, fun j mem => j.isPlain_of_isForeseen (made j mem)⟩
      | raise th control => exact .inr ⟨th, rfl⟩
      | released t => cases plain
      | unending t => cases plain
  | false =>
      obtain ⟨t, task, inside, engaged, bound, rfl⟩ :=
        crew.onDuty.own_of_head head plain (by simp) (by simp)
      cases bound with
      | runRelease work =>
          cases responds with
          | notice told => cases told
          | go control made =>
              exact .of_front _ engaged fun j mem => j.isPlain_of_isForeseen (made j mem)
          | raise th control => exact .of_thrown th engaged
          | released => exact .of_one engaged (.finish _)
          | unending => exact .of_one engaged (.awaitNever work)

theorem Engine.isQueuing_runJob {j : Job} (mem : i ∈ (e.runJob j).2) : i.isQueuing = false := by
  cases Engine.leadsBy_runJob mem <;> rfl

theorem Engine.isPlain_runJob {j : Job} (taskless : j.task? = none)
    (mem : i ∈ (e.runJob j).2) : i.isPlain = true := by
  cases Engine.leadsBy_runJob mem <;> first | rfl | cases taskless

/-- A task whose promise is settled goes on inside the iteration that it reads. -/
theorem Engine.runJob_resume (found : e.tasks[t]? = some task) :
    ∃ st, (e.runJob (.resume t)).2 = .woken t st :: taskGuards (Engine.iterationOf? task) t := by
  simp only [Engine.runJob, Engine.resumeTask, found, taskGuards]
  cases Engine.iterationOf? task <;> exact ⟨_, rfl⟩

/-- A job that goes on with a task puts it on the agenda. -/
theorem OnDuty.of_job {j : Job} (engaged : Engaged e t task) (goesOn : j.task? = some t) :
    OnDuty ⟨(e.runJob j).1, (e.runJob j).2⟩ := by
  cases j with
  | start t' =>
      obtain rfl := Option.some.inj goesOn
      simp only [Engine.runJob, Engine.startTask, engaged.found]
      have begun : OnDuty ⟨e, [.body t', .guarded (.task t')]⟩ :=
        .working [] [_] engaged (by simp) (.inr ⟨_, rfl, .body⟩) rfl
      split
      · exact begun
      · exact .vacant (by simp)
      · exact begun
  | resume t' =>
      obtain rfl := Option.some.inj goesOn
      have woken : Engaged (e.runJob (.resume t')).1 t'
          { task with waitingFor := none, isCancelRequested := false } := by
        simp only [Engine.runJob, Engine.resumeTask, engaged.found]
        exact ⟨by simp [Engine.modifyTask, Array.getElem?_modify, engaged.found], engaged.free,
          engaged.unsettled⟩
      obtain ⟨st, agenda⟩ := Engine.runJob_resume engaged.found
      exact .working [] [.woken t' st] woken (by simp) (.inr ⟨_, rfl, .woken st⟩) agenda
  | _ => cases goesOn

/-- Every move keeps what is known of all tasks, and what is on the agenda for them. -/
theorem Crew.step (crew : Crew s) (orderly : Orderly h s) (step : Step s m s')
    (admits : Admits h m) : Crew s' := by
  have foreign : ∀ j ∈ m.outside, j.isQueuing = false := fun j mem => by
    rcases admits.outside mem with foreseen | ⟨t, rfl⟩ | ⟨t, rfl⟩
    · exact j.isQueuing_of_isForeseen foreseen
    · rfl
    · rfl
  cases step with
  | @carry e i rest own =>
      refine ⟨crew.roster_exec orderly rfl, fun j mem => ?_, crew.onDuty_exec orderly rfl own⟩
      rcases Reply.mem_onto mem with mem | mem | ⟨g, th, rfl⟩
      · exact crew.unqueued j (List.mem_cons_of_mem _ mem)
      · exact Engine.isQueuing_exec mem
      · rfl
  | @answer e a rest r =>
      refine ⟨crew.roster, fun j mem => ?_, crew.onDuty_answer rfl (admits.responds a r rfl)⟩
      rcases Reply.mem_onto mem with mem | mem | ⟨g, th, rfl⟩
      · exact crew.unqueued j (List.mem_cons_of_mem _ mem)
      · exact foreign j mem
      · rfl
  | @begin e j loop next =>
      refine ⟨crew.roster.runJob orderly.bounded next, fun i mem => Engine.isQueuing_runJob mem, ?_⟩
      cases goesOn : j.task? with
      | none => exact .vacant fun i mem => Engine.isPlain_runJob goesOn mem
      | some t =>
          obtain ⟨task, engaged⟩ := crew.roster.engaged next goesOn
          exact .of_job engaged goesOn
  | @call e next =>
      refine ⟨crew.roster, foreign, .vacant fun i mem => ?_⟩
      exact i.isPlain_of_isForeseen (admits.calls next rfl i mem)

/-- Nobody asked for anything that takes a task. -/
structure Engine.Unmanned (e : Engine) : Prop where
  tasks : e.tasks = #[]
  tally : ∀ t, e.loop.tally t = 0

theorem Engine.Unmanned.crew (unmanned : e.Unmanned) : Crew ⟨e, []⟩ where
  roster := ⟨fun t task found => by simp [unmanned.tasks] at found, fun t _ => unmanned.tally t⟩
  unqueued := by simp
  onDuty := .vacant (by simp)

theorem Engine.Pristine.unmanned {e : Engine} (pristine : e.Pristine) : e.Unmanned where
  tasks := pristine.tasks
  tally t := by simp [pristine.loop, Loop.idle, Loop.tally, Loop.tallyOf]

/-- Along a course that began with nothing, every task that is under way is on duty. -/
theorem Course.crew {e : Engine} (pristine : e.Pristine) (course : Course ⟨e, []⟩ h s) :
    Crew s := by
  have kept : Crew s ∧ Orderly h s :=
    course.invariant (I := fun h s => Crew s ∧ Orderly h s)
      ⟨pristine.unmanned.crew, pristine.orderly⟩ fun ⟨crew, orderly⟩ step admits =>
        ⟨crew.step orderly step admits, orderly.step step admits⟩
  exact kept.1

end Crew

end QueryStream
