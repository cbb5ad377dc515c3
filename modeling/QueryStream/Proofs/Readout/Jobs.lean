/-
  Proofs/Readout/Jobs.lean --- the jobs of a reading, and those apart from it.

  Jobs are carried out in the order in which they were queued.  Those apart from the reading
  come to their end without touching it (`Comes.pass`), so the next one that counts is
  reached (`Comes.due`); and once none that counts is left, the rest come to an end too
  (`Comes.idle`): one that starts a task may queue lines to be written, and a line queues
  nothing.
-/
import QueryStream.Proofs.Readout.Rules

set_option autoImplicit false

namespace QueryStream

variable {Q : World → Prop} {e₀ e : Engine} {o p : PromiseId} {s : Spot} {x : Wire}
  {rest : List Instruction}

/-! ### Tasks that give the connection back -/

/-- The promise of another task is settled, which queues lines at most. -/
theorem At.endTask (stands : At e₀ o p s e) (t : TaskId) (st : Settlement Delivery Failure) :
    ∃ notes : List Job, At e₀ o p s (e.endTask (t + 1) st) ∧
      (e.endTask (t + 1) st).loop.ready = e.loop.ready ++ notes ∧
      ∀ k ∈ notes, k.isNote = true := by
  unfold Engine.endTask
  cases found : e.tasks[t + 1]? with
  | none => exact ⟨[], stands, by simp, by simp⟩
  | some task =>
      obtain ⟨-, -, other, noted⟩ := stands.others t task found
      obtain ⟨notes, apart, lines⟩ := Loop.Apart.settle st other noted
      exact ⟨notes, stands.withLoop apart, apart.ready, lines⟩

theorem At.awaitNever (stands : At e₀ o p s e) {t : TaskId} {task : Task}
    (found : e.tasks[t + 1]? = some task) : At e₀ o p s { e with
      loop := e.loop.create.watch e.loop.nextId (.resume (t + 1))
      tasks := e.tasks.setIfInBounds (t + 1)
        { task with waitingFor := some e.loop.nextId, isCancelRequested := false } } := by
  have calm := stands.toCalm.of_apart (.neverComes (.resume (t + 1)))
  obtain ⟨work, -, other, noted⟩ := calm.others t task found
  have first : (e.tasks.setIfInBounds (t + 1) { task with
      waitingFor := some e.loop.nextId, isCancelRequested := false })[0]? = some s.task := by
    rw [Array.getElem?_setIfInBounds, if_neg (by omega)]
    exact stands.task
  exact { stands with
    toCalm := { calm with
      others := fun u task' present => by
        rw [Array.getElem?_setIfInBounds] at present
        split at present
        · split at present
          · obtain rfl := Option.some.inj present
            exact ⟨work, rfl, other, noted⟩
          · cases present
        · exact calm.others u task' present }
    task := first }

namespace Comes

theorem guarded {g : Guard} (next : Comes Q e x rest) : Comes Q e x (.guarded g :: rest) :=
  go _ [] rfl rfl next

/-- A task that gives the connection back comes to its end, or waits for good. -/
theorem runReleaseTask {t : TaskId} {task : Task} (stands : At e₀ o p s e)
    (found : e.tasks[t + 1]? = some task)
    (next : ∀ e' notes, At e₀ o p s e' → e'.loop.ready = e.loop.ready ++ notes →
      (∀ k ∈ notes, Job.isNote k = true) → Comes Q e' x []) :
    Comes Q e x [.body (t + 1), .guarded (.task (t + 1))] := by
  obtain ⟨work, going, -⟩ := stands.others t task found
  have ended : ∀ st, Comes Q (e.endTask (t + 1) st) x [] := fun st => by
    obtain ⟨notes, stands, queued, lines⟩ := stands.endTask t st
    exact next _ notes stands queued lines
  refine go e [.ask (.runRelease (t + 1))] rfl ?_ (runRelease ?_)
  · simp [Engine.exec, Engine.body, found, work, Engine.goOn]
  · have finishes : Comes Q e x [.finish (t + 1) .nothing, .guarded (.task (t + 1))] := by
      refine go (e.endTask (t + 1) (.value .nothing)) [] rfl ?_
        (guarded (ended _))
      simp [Engine.exec, Engine.finish, found, going]
    cases conduct : x.script.release with
    | completes => exact finishes
    | refused f => exact finishes
    | fails f =>
        exact carry (i := .caught (.task (t + 1)) (.failure f)) (r := .go []) rfl rfl
          (ended (.failure f))
    | neverEnds =>
        refine go { e with loop := e.loop.create } [.await (t + 1) e.loop.nextId] rfl rfl ?_
        have unsettled : e.loop.create.settlement? e.loop.nextId = none := by
          simp [Loop.settlement?, Loop.create, Loop.nextId]
        have waits : Comes Q { e with
            loop := e.loop.create.watch e.loop.nextId (.resume (t + 1))
            tasks := e.tasks.setIfInBounds (t + 1)
              { task with waitingFor := some e.loop.nextId, isCancelRequested := false } } x
            ((Reply.suspend (t + 1)).onto [.guarded (.task (t + 1))]) := by
          have none : (Reply.suspend (t + 1)).onto [.guarded (.task (t + 1))] = [] := by
            simp [Reply.onto, afterTask]
          rw [none]
          have apart := Loop.Apart.neverComes (p := p) (l := e.loop) (.resume (t + 1))
          exact next _ [] (stands.awaitNever found) apart.ready (by simp)
        refine carry rfl ?_ waits
        simp [Engine.exec, Engine.await, unsettled, found, going]

/-! ### Jobs -/

/-- A job apart from the reading is carried out.  It queues lines at most, and if it is one,
nothing. -/
theorem pass {k : Job} {ready : List Job} (stands : At e₀ o p s e)
    (first : e.loop.ready = k :: ready) (apart : k.isApart = true)
    (next : ∀ e' notes, At e₀ o p s e' → e'.loop.ready = ready ++ notes →
      (∀ k ∈ notes, Job.isNote k = true) → (k.isNote = true → notes = []) → Comes Q e' x []) :
    Comes Q e x [] := by
  have stands : At e₀ o p s { e with loop := { e.loop with ready } } :=
    { stands with toCalm := stands.toCalm.skip first apart }
  have still : Comes Q { e with loop := { e.loop with ready } } x [] :=
    next _ [] stands (by simp) (by simp) fun _ => rfl
  refine begin first ?_
  cases k with
  | noteOutcome q =>
      simp only [Engine.runJob]
      cases Loop.settlement? _ q with
      | none => exact still
      | some st => exact log still
  | noteRelease q =>
      simp only [Engine.runJob]
      cases Engine.releaseLine? _ q with
      | none => exact still
      | some line => exact log still
  | start t =>
      cases t with
      | zero => cases apart
      | succ t =>
          simp only [Engine.runJob, Engine.startTask]
          cases found : e.tasks[t + 1]? with
          | none => exact still
          | some task =>
              obtain ⟨-, going, -⟩ := stands.others t task found
              simp only [going]
              exact runReleaseTask stands found fun e' notes stands queued lines =>
                next e' notes stands queued lines fun note => by cases note
  | _ => cases apart

theorem due {k : Job} {due : List Job} (stands : At e₀ o p s e) (first : s.due = k :: due)
    (next : ∀ e', At e₀ o p { s with due } e' → Comes Q (e'.runJob k).1 x (e'.runJob k).2) :
    Comes Q e x [] := by
  have split := stands.due
  rw [first, List.filter_eq_cons_iff] at split
  obtain ⟨before, after, ready, others, mine, -⟩ := split
  induction before generalizing e after with
  | nil =>
      have mine : k.isApart = false := by simpa using mine
      exact begin ready (next _ { stands with toCalm := stands.toCalm.begin ready mine first })
  | cons j before ih =>
      refine pass stands ready (by simpa using others j (by simp))
        fun e' notes stands queued _ _ => ?_
      exact ih stands (after ++ notes) (by simp [queued]) fun j mem => others j (by simp [mem])

/-- With no job of the reading queued, everything comes to its end.  The induction is on the
tasks to be started, and for those on the jobs before the next one. -/
theorem idle (stands : At e₀ o p s e) (nothing : s.due = [])
    (done : ∀ e', At e₀ o p s e' → e'.loop.ready = [] → Comes Q e' x []) : Comes Q e x [] := by
  generalize starts : e.loop.ready.countP (fun k => !k.isNote) = n
  induction n using Nat.strongRecOn generalizing e with
  | _ n outer =>
      generalize hready : e.loop.ready = ready at starts
      induction ready generalizing e with
      | nil => exact done e stands hready
      | cons k ready inner =>
          have apart : k.isApart = true := by
            have due := stands.due
            rw [nothing, List.filter_eq_nil_iff] at due
            simpa using due k (by simp [hready])
          refine pass stands hready apart fun e' notes stands queued lines silent => ?_
          cases note : k.isNote with
          | true =>
              rw [silent note, List.append_nil] at queued
              refine inner stands queued ?_
              rwa [List.countP_cons_of_neg (by simp [note])] at starts
          | false =>
              have none : notes.countP (fun k => !k.isNote) = 0 := by
                simpa [List.countP_eq_zero] using lines
              rw [List.countP_cons_of_pos (by simp [note])] at starts
              refine outer (ready.countP fun k => !k.isNote) (by omega) stands ?_
              rw [queued, List.countP_append, none, Nat.add_zero]

end Comes

end QueryStream
