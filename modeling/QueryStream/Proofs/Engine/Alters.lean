/-
  Proofs/Engine/Alters.lean --- what an instruction changes.

  Carrying out an instruction changes an engine in few ways.  `Engine.Alters` says which: one
  case for each of them, with what it comes from.  So what every instruction keeps is shown by
  going through these cases (`Engine.alters_exec`), and not through all that an instruction looks
  at before it changes anything.
-/
import QueryStream.Engine.Step

set_option autoImplicit false

namespace QueryStream

theorem eq_of_getElem?_singleton {α : Type} {i : Nat} {one found : α}
    (h : (#[one] : Array α)[i]? = some found) : i = 0 ∧ found = one := by
  cases i with
  | zero => exact ⟨rfl, (Option.some.inj h).symm⟩
  | succ i => simp at h

namespace Engine

/-- A task waits for a promise. -/
def waiting (e : Engine) (t : TaskId) (task : Task) (p : PromiseId) : Engine :=
  { e with
    loop := e.loop.watch p (.resume t)
    tasks := e.tasks.setIfInBounds t
      { task with waitingFor := some p, isCancelRequested := false } }

/-- The releases once one is chosen: what there was, and perhaps a new one. -/
def Chosen (e : Engine) (releases : Array Release) : Prop :=
  releases = e.releases ∨
    ∃ fresh : Release, fresh.promise = none ∧ releases = e.releases.push fresh

theorem exists_of_chooseRelease {e e' : Engine} {choice : ReleaseChoice} {release : ReleaseId}
    (chosen : e.chooseRelease choice = .ok (e', release)) :
    ∃ releases, e' = { e with releases } ∧ e.Chosen releases := by
  unfold chooseRelease at chosen
  split at chosen
  · cases chosen
  all_goals (split at chosen <;> cases chosen)
  all_goals first | exact ⟨_, rfl, .inl rfl⟩ | exact ⟨_, rfl, .inr ⟨_, rfl, rfl⟩⟩

/-- A release that is invoked changes the engine, and leads to something. -/
inductive Invokes (e : Engine) (r : ReleaseId) (receiver : Receiver) :
    Engine → List Instruction → Prop
  | absent (found : e.releases[r]? = none) : Invokes e r receiver e []
  /-- it was invoked before -/
  | reused {release : Release} {p : PromiseId} (found : e.releases[r]? = some release)
      (promise : release.promise = some p) :
      Invokes e r receiver e [.ask (.log Release.reuseLine), .hand receiver p]
  /-- there is no connection to give back -/
  | made (found : e.releases[r]? = some ⟨false, none⟩) :
      Invokes e r receiver
        { e with
          loop := e.loop.createSettled (.value .nothing)
          releases := e.releases.setIfInBounds r ⟨false, some e.loop.nextId⟩ }
        [.hand receiver e.loop.nextId]
  /-- its action is to be called -/
  | called (found : e.releases[r]? = some ⟨true, none⟩) :
      Invokes e r receiver e
        [.ask (.log Release.startLine), .ask .release, .startRelease r receiver]

theorem exec_release (e : Engine) (r : ReleaseId) (receiver : Receiver) :
    ∃ e' next, e.exec (.release r receiver) = (e', .go next) ∧ e.Invokes r receiver e' next := by
  simp only [exec, invokeRelease]
  cases found : e.releases[r]? with
  | none => exact ⟨_, _, rfl, .absent found⟩
  | some release =>
      obtain ⟨hasConnection, promise⟩ := release
      cases promise with
      | some p => exact ⟨_, _, rfl, .reused found rfl⟩
      | none =>
          cases hasConnection with
          | false => exact ⟨_, _, rfl, .made found⟩
          | true => exact ⟨_, _, rfl, .called found⟩

/-- An instruction changes an engine to another one. -/
inductive Alters (e : Engine) : Instruction → Engine → Prop
  /-- nothing changes -/
  | same (i : Instruction) : Alters e i e
  | stream {a : Stream.Action} {next : Stream} {effects : List Stream.Effect}
      (accepted : e.stream.step e.surroundings a = .ok (next, effects)) :
      Alters e (.stream a) { e with stream := next }
  | cursor {id : CursorId} {a : Cursor.Action} {c next : Cursor} {effects : List Cursor.Effect}
      (found : e.cursors[id]? = some c)
      (accepted : c.step (e.isResolved c) a = .ok (next, effects)) :
      Alters e (.cursor id a) { e with cursors := e.cursors.setIfInBounds id next }
  | iteration {k : IterationId} {it : Iteration} (t : TaskId) (a : Iteration.Action)
      (found : e.iterations[k]? = some it) :
      Alters e (.iteration k t a)
        { e with iterations := e.iterations.setIfInBounds k (it.step a).1 }
  /-- an iteration is left -/
  | left {k : IterationId} {it : Iteration} (th : Thrown) (found : e.iterations[k]? = some it) :
      Alters e (.caught (.iteration k) th)
        { e with iterations := e.iterations.setIfInBounds k it.leave.1 }
  | runSucceed (metadata : Value) :
      Alters e (.runSucceed metadata) { e with run := (e.run.succeed metadata).1 }
  | runFail (f : Failure) : Alters e (.runFail f) { e with run := e.run.fail f }
  | bookmark (metadata bookmark : Value) : Alters e (.ownerSucceeded metadata) { e with bookmark }
  | record (k : IterationId) (r : Record) :
      Alters e (.tellRecord (.feed k) r) (e.signal k (.record r))
  | ended (k : IterationId) (f : Option Failure) :
      Alters e (.tellEnd (.feed k) f) (e.signal k (.finish f))
  | settle (p : PromiseId) (st : Settlement Delivery Failure) :
      Alters e (.settle p st) { e with loop := e.loop.settle p st }
  | relay {id : CursorId} {c : Cursor} (receiver : Receiver) (found : e.cursors[id]? = some c)
      (pending : e.isResolved c = false) :
      Alters e (.relay id receiver)
        { e with
          loop := (e.loop.create.watch c.outcome (.relay c.outcome e.loop.nextId)).watch
            e.loop.nextId (.unrelay c.outcome e.loop.nextId) }
  | reportFailure {id : CursorId} {c : Cursor} (receiver : Receiver)
      (found : e.cursors[id]? = some c) :
      Alters e (.reportFailure id receiver)
        { e with loop := e.loop.create.watch c.outcome (.report id c.outcome e.loop.nextId) }
  | keep (receiver : Receiver) (d : Delivery) :
      Alters e (.keep receiver d) { e with loop := e.loop.createSettled (.value d) }
  /-- a release with no connection is kept at once -/
  | release {r : ReleaseId} {release : Release} (receiver : Receiver)
      (found : e.releases[r]? = some release) :
      Alters e (.release r receiver)
        { e with
          loop := e.loop.createSettled (.value .nothing)
          releases := e.releases.setIfInBounds r { release with promise := some e.loop.nextId } }
  | startRelease (r : ReleaseId) (receiver : Receiver) :
      Alters e (.startRelease r receiver)
        { e.spawn .release with
          loop := (e.spawn .release).loop.watch e.loop.nextId (.noteRelease e.loop.nextId)
          releases := e.releases.modify r fun release =>
            { release with promise := some e.loop.nextId } }
  | handIteration (t : TaskId) (k : IterationId) :
      Alters e (.handIteration (.task t) k)
        (e.modifyTask t fun task => { task with iteration := some k })
  | records {q : ResultId} {result : QueryResult} {size : FetchSize}
      (fetchSize former : Value) (receiver : Receiver) (found : e.results[q]? = some result) :
      Alters e (.records q fetchSize former receiver)
        { e with
          results := e.results.setIfInBounds q { result with isStarted := true }
          iterations := e.iterations.push (.ofCursor result.cursor size) }
  | openCursor (plan : CursorPlan) {releases : Array Release} (release : ReleaseId)
      (chosen : e.Chosen releases) :
      Alters e (.openCursor plan)
        { e with
          releases
          loop := e.loop.create.watch e.loop.nextId (.noteOutcome e.loop.nextId)
          cursors := e.cursors.push
            (.fresh (e.chooseRunError plan.runError) release e.loop.nextId) }
  | openResult (c : CursorId) (o : FullOptions) :
      Alters e (.openResult c o) { e with results := e.results.push ⟨c, o, false⟩ }
  | spawn (w : Work) (receiver : Receiver) : Alters e (.spawn w receiver) (e.spawn w)
  | cancel (p : PromiseId) : Alters e (.cancelPromise p) (e.cancel p)
  | soon (j : Job) : Alters e (.soon j) { e with loop := e.loop.soon j }
  | await {t : TaskId} {task : Task} (p : PromiseId) (found : e.tasks[t]? = some task) :
      Alters e (.await t p) (e.waiting t task p)
  /-- a task that is to be cancelled waits for nothing -/
  | awaitCancelled {t : TaskId} {task : Task} (p : PromiseId) (found : e.tasks[t]? = some task) :
      Alters e (.await t p)
        { e.waiting t task p with loop := (e.waiting t task p).loop.settle p .cancelled }
  | awaitNever (t : TaskId) : Alters e (.awaitNever t) { e with loop := e.loop.create }
  | awaitSignal (k : IterationId) (t : TaskId) :
      Alters e (.awaitSignal k t)
        { e with
          loop := e.loop.create
          iterations := e.iterations.modify k fun it => { it with awaited := some e.loop.nextId } }
  /-- a task that reads everything keeps a record -/
  | collect (t : TaskId) (r : Record) :
      Alters e (.yielded t r)
        (e.modifyTask t fun task => { task with collected := r :: task.collected })
  | finish (t : TaskId) (d : Delivery) (st : Settlement Delivery Failure) :
      Alters e (.finish t d) (e.endTask t st)
  /-- a task ends with what was thrown in it -/
  | caught (t : TaskId) (th : Thrown) (st : Settlement Delivery Failure) :
      Alters e (.caught (.task t) th) (e.endTask t st)

variable {e : Engine}

theorem alters_stepStream (a : Stream.Action) : e.Alters (.stream a) (e.stepStream a).1 := by
  unfold stepStream
  split
  · rename_i accepted
    exact .stream accepted
  · exact .same _

theorem alters_stepCursor (id : CursorId) (a : Cursor.Action) :
    e.Alters (.cursor id a) (e.stepCursor id a).1 := by
  unfold stepCursor
  split
  · exact .same _
  · rename_i found
    split
    · rename_i accepted
      exact .cursor found accepted
    · exact .same _

theorem alters_stepIteration (k : IterationId) (t : TaskId) (a : Iteration.Action) :
    e.Alters (.iteration k t a) (e.stepIteration k t a).1 := by
  unfold stepIteration
  split
  · exact .same _
  · rename_i found
    exact .iteration t a found

theorem alters_ownerSucceeded (metadata : Value) :
    e.Alters (.ownerSucceeded metadata) (e.ownerSucceeded metadata).1 := by
  unfold ownerSucceeded
  split
  · exact .same _
  · split
    · exact .same _
    · split
      · exact .same _
      · exact .bookmark metadata _

theorem alters_relay (id : CursorId) (receiver : Receiver) :
    e.Alters (.relay id receiver) (e.relay id receiver).1 := by
  unfold relay
  split
  · exact .same _
  · rename_i found
    split
    · exact .same _
    · rename_i pending
      exact .relay receiver found (Bool.not_eq_true _ ▸ pending)

theorem alters_reportFailure (id : CursorId) (receiver : Receiver) :
    e.Alters (.reportFailure id receiver) (e.reportFailure id receiver).1 := by
  unfold reportFailure
  split
  · exact .same _
  · rename_i found
    exact .reportFailure receiver found

theorem alters_release (r : ReleaseId) (receiver : Receiver) :
    e.Alters (.release r receiver) (e.exec (.release r receiver)).1 := by
  obtain ⟨e', next, exec, invokes⟩ := e.exec_release r receiver
  rw [exec]
  cases invokes with
  | made found => exact .release receiver found
  | absent | reused | called => exact .same _

theorem alters_records (q : ResultId) (fetchSize former : Value) (receiver : Receiver) :
    e.Alters (.records q fetchSize former receiver)
      (e.startRecords q fetchSize former receiver).1 := by
  unfold startRecords
  split
  · exact .same _
  · rename_i result found
    obtain ⟨warning, chosen⟩ := result.start fetchSize former
    cases chosen with
    | error c => exact .same _
    | ok size => exact .records fetchSize former receiver found

theorem alters_openCursor (plan : CursorPlan) :
    e.Alters (.openCursor plan) (e.openCursor plan).1 := by
  unfold openCursor
  split
  · exact .same _
  · split
    · exact .same _
    · rename_i made
      obtain ⟨releases, rfl, chosen⟩ := exists_of_chooseRelease made
      exact .openCursor plan _ chosen

theorem alters_await (t : TaskId) (p : PromiseId) : e.Alters (.await t p) (e.await t p).1 := by
  unfold await
  split
  · exact .same _
  · rename_i found
    split
    · exact .awaitCancelled p found
    · exact .await p found
  · exact .same _

theorem alters_woken (t : TaskId) (st : Settlement Delivery Failure) :
    e.Alters (.woken t st) (e.woken t st).1 := by
  unfold woken
  split
  · exact .same _
  · exact .same _
  · split <;> exact .same _
  · exact .same _

theorem alters_yielded (t : TaskId) (r : Record) : e.Alters (.yielded t r) (e.yielded t r).1 := by
  unfold yielded
  split
  · exact .same _
  · split
    · exact .collect t r
    · exact .same _

theorem alters_caught (g : Guard) (th : Thrown) : e.Alters (.caught g th) (e.caught g th).1 := by
  cases g with
  | task t => exact .caught t th _
  | iteration k =>
      simp only [caught]
      split
      · exact .same _
      · rename_i found
        exact .left th found
  | job | command => cases th <;> exact .same _

/-- Whatever is carried out changes the engine so. -/
theorem alters_exec (i : Instruction) : e.Alters i (e.exec i).1 := by
  cases i with
  | stream a => exact alters_stepStream a
  | cursor id a => exact alters_stepCursor id a
  | iteration k t a => exact alters_stepIteration k t a
  | runSucceed metadata =>
      simp only [exec, succeedRun]
      split <;> exact .runSucceed metadata
  | runFail f => exact .runFail f
  | channel r =>
      simp only [exec]
      split <;> exact .same _
  | ownerSucceeded metadata => exact alters_ownerSucceeded metadata
  | ownerFailed f =>
      simp only [exec, ownerFailed]
      split <;> exact .same _
  | tellRecord rc r =>
      cases rc with
      | feed k => exact .record k r
      | _ => exact .same _
  | tellEnd rc f =>
      cases rc with
      | feed k => exact .ended k f
      | _ => exact .same _
  | tellSummary sc s f => cases sc <;> exact .same _
  | settle p st => exact .settle p st
  | relay id receiver => exact alters_relay id receiver
  | reportFailure id receiver => exact alters_reportFailure id receiver
  | keep receiver d => exact .keep receiver d
  | release r receiver => exact alters_release r receiver
  | startRelease r receiver => exact .startRelease r receiver
  | handIteration receiver k =>
      cases receiver with
      | task t => exact .handIteration t k
      | _ => exact .same _
  | records q fetchSize former receiver => exact alters_records q fetchSize former receiver
  | openCursor plan => exact alters_openCursor plan
  | openResult c o => exact .openResult c o
  | spawn w receiver => exact .spawn w receiver
  | cancelPromise p => exact .cancel p
  | soon j => exact .soon j
  | await t p => exact alters_await t p
  | awaitNever t => exact .awaitNever t
  | awaitSignal k t => exact .awaitSignal k t
  | woken t st => exact alters_woken t st
  | yielded t r => exact alters_yielded t r
  | finish t d =>
      simp only [exec, finish]
      split
      · exact .finish t d _
      · exact .same _
  | caught g th => exact alters_caught g th
  | _ => exact .same _

/-! ## Jobs -/

/-- What a promise of the failure nobody was told of is settled with, once the outcome
is. -/
inductive Reports (e : Engine) (id : CursorId) :
    Settlement Delivery Failure → Settlement Delivery Failure → Prop
  | failure {f : Failure} {c : Cursor} (found : e.cursors[id]? = some c) :
      Reports e id (.failure f) (.value (c.unreported f))
  | value (d : Delivery) : Reports e id (.value d) (.value .nothing)
  | cancelled : Reports e id .cancelled .cancelled

/-- A job changes an engine to another one. -/
inductive AltersBy (e : Engine) : Job → Engine → Prop
  /-- nothing changes -/
  | same (j : Job) : AltersBy e j e
  /-- a task that was cancelled before never begins -/
  | cancelled (t : TaskId) : AltersBy e (.start t) (e.endTask t .cancelled)
  | resumed (t : TaskId) :
      AltersBy e (.resume t)
        (e.modifyTask t fun task => { task with waitingFor := none, isCancelRequested := false })
  | relayed {source : PromiseId} {st : Settlement Delivery Failure} (target : PromiseId)
      (settled : e.loop.settlement? source = some st) :
      AltersBy e (.relay source target) { e with loop := e.loop.settle target st }
  | forgotten (source target : PromiseId) :
      AltersBy e (.unrelay source target)
        { e with loop := e.loop.unwatch source fun job => job == .relay source target }
  | reported {id : CursorId} {source : PromiseId} {outcome st : Settlement Delivery Failure}
      (target : PromiseId) (settled : e.loop.settlement? source = some outcome)
      (reports : e.Reports id outcome st) :
      AltersBy e (.report id source target) { e with loop := e.loop.settle target st }
  | abandoned (k : IterationId) : AltersBy e (.abandon k) (e.spawn (.close k))

theorem altersBy_runJob (j : Job) : e.AltersBy j (e.runJob j).1 := by
  cases j with
  | start t =>
      simp only [runJob, startTask]
      split
      · exact .same _
      · split
        · exact .same _
        · exact .cancelled t
        · exact .same _
  | resume t =>
      simp only [runJob, resumeTask]
      split
      · exact .same _
      · exact .resumed t
  | relay source target =>
      simp only [runJob, relaySettlement]
      split
      · rename_i settled
        exact .relayed target settled
      · exact .same _
  | unrelay source target =>
      simp only [runJob, forget]
      split
      · exact .same _
      · exact .forgotten source target
  | report id source target =>
      simp only [runJob, reportSettlement]
      split
      · rename_i settled found
        exact .reported target settled (.failure found)
      · rename_i settled
        exact .reported target settled (.value _)
      · rename_i settled
        exact .reported target settled .cancelled
      · exact .same _
  | abandon k =>
      simp only [runJob, abandon]
      split
      · exact .abandoned k
      · exact .same _
  | _ => exact .same _

end Engine

end QueryStream
