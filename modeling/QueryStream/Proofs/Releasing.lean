/-
  Proofs/Releasing.lean --- a release runs its action once.

  The main result (`Course.runsOnce`) is about every release of an engine, with any number of
  owners, along every course on which actions do not call in while they are called.  Its action
  is called until it does not throw, and never again; every invocation that does not throw
  returns the same promise; and the task of that promise gives the connection back at most once.
  Once nothing is under way, it has done so unless the promise was cancelled before the task
  began.  So an action that does not throw, and a promise that is not cancelled so early, make it
  exactly once.

  Otherwise a release that says it was invoked may never have begun (`unbegun_cancelledEarly`),
  and its action is called as often as it throws (`calledTwice_refusedOnce`).
-/
import QueryStream.Proofs.Engine.Origin
import QueryStream.Proofs.Engine.Starts
import QueryStream.Proofs.Releasing.Invocations

set_option autoImplicit false

namespace QueryStream

/-! ## The task of a release -/

/-- Whether a move has the task of a release give the connection back. -/
def Move.runs (t : TaskId) : Move → Bool
  | .answered (.runRelease u) _ => u == t
  | _ => false

/-- How often the task of a release gave the connection back. -/
def timesRun (t : TaskId) (h : List Move) : Nat := h.countP (Move.runs t)

/-- Whether an instruction has the task of a release give the connection back. -/
def Instruction.isRunning (t : TaskId) : Instruction → Bool
  | .body u => u == t
  | .ask (.runRelease u) => u == t
  | _ => false

/-- A promise was cancelled before the job began that starts its task. -/
def CancelledFirst (p : PromiseId) (t : TaskId) (h : List Move) : Prop :=
  ∃ later reply earlier, h = later ++ .carried (.cancelPromise p) reply :: earlier ∧
    .began (.start t) ∉ earlier

section Cancelling

variable {h : List Move} {m : Move} {p : PromiseId} {t : TaskId}

theorem cancelledFirst_cons (began : .began (.start t) ∈ h) :
    CancelledFirst p t (m :: h) ↔ CancelledFirst p t h := by
  constructor
  · rintro ⟨later, reply, earlier, split, unbegun⟩
    cases later with
    | nil =>
        obtain ⟨-, rfl⟩ := List.cons.inj split
        exact absurd began unbegun
    | cons m' later =>
        obtain ⟨-, rfl⟩ := List.cons.inj split
        exact ⟨later, reply, earlier, rfl, unbegun⟩
  · rintro ⟨later, reply, earlier, rfl, unbegun⟩
    exact ⟨m :: later, reply, earlier, rfl, unbegun⟩

/-- Where the task begins, a promise was cancelled early just if it was cancelled. -/
theorem cancelledFirst_began (unbegun : .began (.start t) ∉ h) :
    CancelledFirst p t (.began (.start t) :: h)
      ↔ ∃ reply, .carried (.cancelPromise p) reply ∈ h := by
  constructor
  · rintro ⟨later, reply, earlier, split, -⟩
    cases later with
    | nil => cases (List.cons.inj split).1
    | cons m' later =>
        obtain ⟨-, rfl⟩ := List.cons.inj split
        exact ⟨reply, List.mem_append_right _ List.mem_cons_self⟩
  · rintro ⟨reply, mem⟩
    obtain ⟨later, earlier, rfl⟩ := List.append_of_mem mem
    refine ⟨_ :: later, reply, earlier, rfl, fun mem => unbegun ?_⟩
    exact List.mem_append_right _ (List.mem_cons_of_mem _ mem)

end Cancelling

/-- How far the task of a release got. -/
inductive Fate (h : List Move) (s : Situation) (t : TaskId) (task : Task) : Prop
  /-- it is yet to begin -/
  | unbegun (run : timesRun t h = 0) (clear : ∀ i ∈ s.agenda, i.isRunning t = false)
      (unbegun : Unbegun h s t task) : Fate h s t task
  /-- giving the connection back comes next -/
  | beginning {i : Instruction} {rest : List Instruction} (run : timesRun t h = 0)
      (begun : Begun h s t) (uncancelled : ¬ CancelledFirst task.promise t h)
      (head : s.agenda = i :: rest) (running : i.isRunning t = true)
      (clear : ∀ j ∈ rest, j.isRunning t = false) : Fate h s t task
  /-- the connection was given back -/
  | ran (run : timesRun t h = 1) (begun : Begun h s t)
      (uncancelled : ¬ CancelledFirst task.promise t h)
      (clear : ∀ i ∈ s.agenda, i.isRunning t = false) : Fate h s t task
  /-- the task was cancelled before it began -/
  | dropped (run : timesRun t h = 0) (begun : Begun h s t)
      (cancelled : CancelledFirst task.promise t h)
      (clear : ∀ i ∈ s.agenda, i.isRunning t = false) : Fate h s t task

section Steps

variable {e : Engine} {h : List Move} {s s' : Situation} {m : Move} {i j : Instruction}
  {t : TaskId} {task task' : Task}

namespace Engine

theorem Leads.isRunning (leads : e.Leads i j) (running : j.isRunning t = true) : i = .body t := by
  cases leads with
  | @stream _ _ _ effect => cases effect <;> cases running
  | @cursor _ _ _ _ _ effect => cases effect <;> cases running
  | iteration found effects among | left th found effects among =>
      cases puts_of_mem among <;> cases running
  | hand q receives among => cases hands_of_mem among <;> cases running
  | body among =>
      cases setsOut_of_mem among with
      | release => rw [← beq_iff_eq.1 running]
      | _ => cases running
  | exhausted among =>
      obtain ⟨d, rfl⟩ := finish_of_mem_exhausted among
      cases running
  | _ => cases running

end Engine

/-- What has a task give the connection back was on the agenda, is led to by what stood first, or
comes with the job that starts the task. -/
theorem Step.isRunning (step : Step s m s') (admits : Admits h m) (mem : j ∈ s'.agenda)
    (running : j.isRunning t = true) :
    j ∈ s.agenda.tail ∨ (∃ rest, s.agenda = .body t :: rest) ∨ m = .began (.start t) := by
  cases step.origin mem with
  | behind mem => exact .inl mem
  | led head leads => exact .inr (.inl ⟨_, leads.isRunning running ▸ head⟩)
  | job began leads =>
      cases leads with
      | body u =>
          rw [← beq_iff_eq.1 running]
          exact .inr (.inr began)
      | _ => cases running
  | outside mem =>
      rcases admits.outside mem with foreseen | ⟨u, rfl⟩ | ⟨u, rfl⟩
      · cases j with
        | ask a => cases a <;> first | cases running | cases foreseen
        | _ => first | cases running | cases foreseen
      · cases running
      · cases running
  | caught g th same =>
      subst same
      cases running

/-- What stands on the agenda that has nothing to do with the task leads to nothing that has,
unless the task begins. -/
theorem Step.clear_running (step : Step s m s') (admits : Admits h m)
    (clear : ∀ i ∈ s.agenda, i.isRunning t = false) (calm : m ≠ .began (.start t)) :
    ∀ j ∈ s'.agenda, j.isRunning t = false := by
  intro j mem
  cases running : j.isRunning t with
  | false => rfl
  | true =>
      rcases step.isRunning admits mem running with behind | ⟨rest, head⟩ | began
      · rw [clear j (List.mem_of_mem_tail behind)] at running
        cases running
      · have body := clear (.body t) (by rw [head]; exact List.mem_cons_self)
        simp [Instruction.isRunning] at body
      · exact absurd began calm

theorem timesRun_of_clear (step : Step s m s')
    (clear : ∀ i ∈ s.agenda, i.isRunning t = false) : timesRun t (m :: h) = timesRun t h := by
  refine List.countP_cons_of_neg fun runs => ?_
  unfold Move.runs at runs
  split at runs
  · cases step with
    | answer r =>
        have running := clear _ List.mem_cons_self
        rw [Instruction.isRunning, runs] at running
        cases running
  · cases runs

theorem Begun.calm (begun : Begun h s t) (step : Step s m s') : m ≠ .began (.start t) := by
  rintro rfl
  exact begun.unheld (.ready step.mem_ready)

theorem Starting.begun (starting : Starting h s) (found : s.engine.tasks[t]? = some task)
    (began : .began (.start t) ∈ h) : Begun h s t :=
  (starting.tasks t task found).resolve_left fun unbegun => unbegun.unbegun began

/-- The task of a release begins, unless it was cancelled. -/
theorem fate_of_began (unbegun : Unbegun h s t task) (found : s.engine.tasks[t]? = some task)
    (work : task.work = .release) (run : timesRun t h = 0)
    (step : Step s (.began (.start t)) s') (begun : Begun (.began (.start t) :: h) s' t)
    (promise : task'.promise = task.promise) : Fate (.began (.start t) :: h) s' t task' := by
  have run' : timesRun t (.began (.start t) :: h) = 0 := run
  have early := (cancelledFirst_began (p := task.promise) unbegun.unbegun).trans
    unbegun.requested.symm
  rw [← promise] at early
  cases step with
  | @begin e j loop next =>
      have found : e.tasks[t]? = some task := found
      cases requested : task.isCancelRequested with
      | true =>
          have agenda : (({ e with loop } : Engine).runJob (.start t)).2 = [] := by
            simp [Engine.runJob, Engine.startTask, found, requested, work]
          exact .dropped run' begun (early.2 requested) (by simp [agenda])
      | false =>
          have agenda : (({ e with loop } : Engine).runJob (.start t)).2
              = [.body t, .guarded (.task t)] := by
            simp [Engine.runJob, Engine.startTask, found, requested]
          refine .beginning run' begun (fun cancelled => ?_) agenda (beq_self_eq_true t) ?_
          · rw [early.1 cancelled] at requested
            cases requested
          · intro j mem
            rw [List.mem_singleton.1 mem]
            rfl

/-- The task of a release that has begun gives the connection back next. -/
theorem fate_of_beginning {rest : List Instruction} (found : s.engine.tasks[t]? = some task)
    (work : task.work = .release) (run : timesRun t h = 0) (begun : Begun (m :: h) s' t)
    (uncancelled : ¬ CancelledFirst task'.promise t (m :: h)) (head : s.agenda = i :: rest)
    (running : i.isRunning t = true) (clear : ∀ j ∈ rest, j.isRunning t = false)
    (step : Step s m s') (admits : Admits h m) : Fate (m :: h) s' t task' := by
  obtain ⟨e, agenda⟩ := s
  obtain rfl : agenda = i :: rest := head
  unfold Instruction.isRunning at running
  split at running
  · rename_i u
    obtain rfl := beq_iff_eq.1 running
    obtain ⟨rfl, rfl⟩ := step.exec_of_head rfl rfl
    have found : e.tasks[u]? = some task := found
    have exec : e.exec (.body u) = (e, .go [.ask (.runRelease u)]) := by
      simp [Engine.exec, Engine.goOn, Engine.body, found, work]
    refine .beginning run begun uncancelled (i := .ask (.runRelease u)) ?_
      (beq_self_eq_true u) clear
    simp only [exec]
    rfl
  · rename_i u
    obtain rfl := beq_iff_eq.1 running
    cases step with
    | carry own => cases own
    | answer r =>
        refine .ran ?_ begun uncancelled fun j mem => ?_
        · have runs : Move.runs u (.answered (.runRelease u) r) = true := beq_self_eq_true u
          rw [timesRun, List.countP_cons_of_pos runs]
          exact congrArg (· + 1) run
        · cases again : j.isRunning u with
          | false => rfl
          | true =>
              rcases Step.isRunning (.answer r) admits mem again with behind | ⟨_, head⟩ | began
              · rw [clear j behind] at again
                cases again
              · cases head
              · cases began
  · cases running

theorem Fate.step (fate : Fate h s t task) (found : s.engine.tasks[t]? = some task)
    (work : task.work = .release) (crew : Crew s) (orderly : Orderly h s)
    (starting : Starting (m :: h) s') (step : Step s m s') (admits : Admits h m)
    (found' : s'.engine.tasks[t]? = some task') (promise : task'.promise = task.promise) :
    Fate (m :: h) s' t task' := by
  have goes_on (begun : Begun h s t) : Begun (m :: h) s' t :=
    starting.begun found' (List.mem_cons_of_mem _ begun.began)
  have early (begun : Begun h s t) :
      CancelledFirst task'.promise t (m :: h) ↔ CancelledFirst task.promise t h := by
    rw [promise]
    exact cancelledFirst_cons begun.began
  cases fate with
  | unbegun run clear unbegun =>
      by_cases begins : m = .began (.start t)
      · subst begins
        exact fate_of_began unbegun found work run step
          (starting.begun found' List.mem_cons_self) promise
      · exact .unbegun ((timesRun_of_clear step clear).trans run)
          (step.clear_running admits clear begins)
          (unbegun.step found crew orderly step found' begins)
  | beginning run begun uncancelled head running clear =>
      exact fate_of_beginning found work run (goes_on begun)
        (fun cancelled => uncancelled ((early begun).1 cancelled)) head running clear step admits
  | ran run begun uncancelled clear =>
      exact .ran ((timesRun_of_clear step clear).trans run) (goes_on begun)
        (fun cancelled => uncancelled ((early begun).1 cancelled))
        (step.clear_running admits clear (begun.calm step))
  | dropped run begun cancelled clear =>
      exact .dropped ((timesRun_of_clear step clear).trans run) (goes_on begun)
        ((early begun).2 cancelled) (step.clear_running admits clear (begun.calm step))

/-- How far the tasks of all releases got; one that was not made did nothing. -/
structure Fates (h : List Move) (s : Situation) : Prop where
  tasks : ∀ (t : TaskId) (task : Task), s.engine.tasks[t]? = some task → task.work = .release →
    Fate h s t task
  unmade : ∀ t, s.engine.tasks.size ≤ t →
    timesRun t h = 0 ∧ ∀ i ∈ s.agenda, i.isRunning t = false

theorem Fates.step (fates : Fates h s) (crew : Crew s) (orderly : Orderly h s)
    (starting : Starting (m :: h) s') (unmade : ∀ t, s.engine.tasks.size ≤ t →
      m ≠ .began (.start t)) (step : Step s m s') (admits : Admits h m) : Fates (m :: h) s' := by
  -- a task that is not there before the move has done nothing after it
  have idle (t : TaskId) (new : s.engine.tasks.size ≤ t) :
      timesRun t (m :: h) = 0 ∧ ∀ i ∈ s'.agenda, i.isRunning t = false := by
    obtain ⟨run, clear⟩ := fates.unmade t new
    exact ⟨(timesRun_of_clear step clear).trans run,
      step.clear_running admits clear (unmade t new)⟩
  refine ⟨fun t task' found' work' => ?_, fun t new' =>
    idle t (Nat.le_trans step.tasks_size_le new')⟩
  rcases Nat.lt_or_ge t s.engine.tasks.size with there | new
  · have found : s.engine.tasks[t]? = some s.engine.tasks[t] := Array.getElem?_eq_getElem there
    obtain ⟨task'', found'', promise, work⟩ := crew.kept step found
    obtain rfl := Option.some.inj (found''.symm.trans found')
    have work := work.symm.trans work'
    exact (fates.tasks t _ found work).step found work crew orderly starting step admits found'
      promise
  · obtain ⟨run, clear⟩ := idle t new
    rcases step.made_task found' with there | made
    · exact absurd there (Nat.not_lt_of_le new)
    · refine .unbegun run clear ((starting.tasks t task' found').resolve_right fun begun => ?_)
      exact begun.unheld (.ready made.queued)

/-! ## The promise of a release -/

/-- The promise of a release with a connection is that of a task which gives it back. -/
def Staffed (e : Engine) : Prop :=
  ∀ (r : ReleaseId) (p : PromiseId), (e.releaseAt r).hasConnection = true →
    (e.releaseAt r).promise = some p →
    ∃ (t : TaskId) (task : Task), e.tasks[t]? = some task ∧ task.promise = p ∧
      task.work = .release

theorem Engine.releaseAt_runJob (e : Engine) (j : Job) (r : ReleaseId) :
    (e.runJob j).1.releaseAt r = e.releaseAt r := by
  rw [releaseAt, (holding_runJob j).releases]
  rfl

theorem Engine.promise_exec (e : Engine) (i : Instruction) (r : ReleaseId) {p : PromiseId}
    (connected : ((e.exec i).1.releaseAt r).hasConnection = true)
    (promise : ((e.exec i).1.releaseAt r).promise = some p) :
    (e.releaseAt r).hasConnection = true ∧ (e.releaseAt r).promise = some p ∨
      ∃ receiver, i = .startRelease r receiver ∧ p = e.loop.nextId := by
  by_cases released : ∃ r' receiver, i = .release r' receiver
  · obtain ⟨r', receiver, rfl⟩ := released
    obtain ⟨e', next, exec, invokes⟩ := e.exec_release r' receiver
    rw [exec] at connected promise
    cases invokes with
    | absent | reused | called => exact .inl ⟨connected, promise⟩
    | made found =>
        have there : r' < e.releases.size := (Array.getElem?_eq_some_iff.1 found).1
        by_cases same : r' = r
        · subst same
          simp [releaseAt, there] at connected
        · simp only [releaseAt, Array.getElem?_setIfInBounds, if_neg same] at connected promise
          exact .inl ⟨connected, promise⟩
  by_cases started : ∃ r' receiver, i = .startRelease r' receiver
  · obtain ⟨r', receiver, rfl⟩ := started
    simp only [exec, startRelease, goOn, spawn, releaseAt, Array.getElem?_modify]
      at connected promise
    split at promise
    · rename_i same
      subst same
      cases found : e.releases[r']? with
      | none => simp [found, Release.ofNothing] at promise
      | some release =>
          simp only [found, Option.map_some, Option.getD_some, Option.some.injEq] at promise
          exact .inr ⟨receiver, rfl, promise.symm⟩
    · rename_i other
      rw [if_neg other] at connected
      exact .inl ⟨connected, promise⟩
  · rcases Engine.releaseAt_exec (e := e) (i := i)
      (fun r' receiver same => released ⟨r', receiver, same⟩)
      (fun r' receiver same => started ⟨r', receiver, same⟩) r with same | ⟨-, unpromised⟩
    · rw [same] at connected promise
      exact .inl ⟨connected, promise⟩
    · rw [unpromised] at promise
      cases promise

theorem Staffed.step (staffed : Staffed s.engine) (crew : Crew s) (step : Step s m s') :
    Staffed s'.engine := by
  intro r p connected promise
  have lasting (connected : (s.engine.releaseAt r).hasConnection = true)
      (promise : (s.engine.releaseAt r).promise = some p) :
      ∃ (t : TaskId) (task : Task), s'.engine.tasks[t]? = some task ∧ task.promise = p ∧
        task.work = .release := by
    obtain ⟨t, task, found, same, work⟩ := staffed r p connected promise
    obtain ⟨task', found', promise', work'⟩ := crew.kept step found
    exact ⟨t, task', found', promise'.trans same, work'.trans work⟩
  cases step with
  | answer reply => exact lasting connected promise
  | call next => exact lasting connected promise
  | begin next =>
      rw [Engine.releaseAt_runJob] at connected promise
      exact lasting connected promise
  | @carry e i rest own =>
      rcases e.promise_exec i r connected promise with ⟨connected, promise⟩ | ⟨receiver, rfl, rfl⟩
      · exact lasting connected promise
      · refine ⟨e.tasks.size, ⟨e.loop.nextId, .release, none, false, none, []⟩, ?_, rfl, rfl⟩
        simp [Engine.exec, Engine.startRelease, Engine.goOn, Engine.spawn]

end Steps

/-! ## All courses -/

/-- Nothing is under way, and no job is queued. -/
def Situation.IsIdle (s : Situation) : Prop := s.agenda = [] ∧ s.engine.loop.ready = []

/-- A release runs its action once. -/
structure RunsOnce (r : ReleaseId) (h : List Move) (s : Situation) : Prop where
  /-- once the action was called and did not throw, it is not called again -/
  calls : ∃ raises, (∀ reply ∈ raises, reply.isRaise = true) ∧
    (actionCalls r h = raises ∨ actionCalls r h = .go [] :: raises)
  /-- every invocation threw, or returned a promise -/
  answered : s.IsOutside →
    timesInvoked r h = (returned r h).length + (actionCalls r h).countP Reply.isRaise
  /-- all the same -/
  same : ∀ p ∈ returned r h, ∀ p' ∈ returned r h, p = p'
  /-- the release was invoked, it says, if one returned -/
  invoked : (s.engine.releaseAt r).isInvoked = true ↔ returned r h ≠ []
  /-- the connection is given back at most once, and is once nothing is left to do, unless the
  promise was cancelled before its task began -/
  ran : (s.engine.releaseAt r).hasConnection = true → ∀ p ∈ returned r h,
    ∃ t, s.engine.taskOf? p = some t ∧ timesRun t h ≤ 1 ∧
      (s.IsIdle → (timesRun t h = 1 ↔ ¬ CancelledFirst p t h))
  /-- so if no call of the action threw and no promise was cancelled so early, the action was
  called once at most, and it was, with the connection given back once, if the release was
  invoked and nothing is left to do -/
  inFull : (∀ reply ∈ actionCalls r h, reply.isRaise = false) →
    (∀ p ∈ returned r h, ∀ t, s.engine.taskOf? p = some t → ¬ CancelledFirst p t h) →
    (actionCalls r h).length ≤ 1 ∧
      (s.IsIdle → timesInvoked r h ≠ 0 → (s.engine.releaseAt r).hasConnection = true →
        (actionCalls r h).length = 1 ∧ timesInvoked r h = (returned r h).length ∧
        ∃ p t, (s.engine.releaseAt r).promise = some p ∧ s.engine.taskOf? p = some t ∧
          timesRun t h = 1)

section Courses

variable {e : Engine} {h : List Move} {s s' : Situation} {m : Move} {r : ReleaseId} {t : TaskId}
  {task : Task}

theorem Engine.Roster.taskOf? (roster : e.Roster) (found : e.tasks[t]? = some task) :
    e.taskOf? task.promise = some t := by
  obtain ⟨there, at_t⟩ := Array.getElem?_eq_some_iff.1 found
  refine Array.findIdx?_eq_some_iff_getElem.2 ⟨there, by simp [at_t], fun u below => ?_⟩
  have found' : e.tasks[u]? = some e.tasks[u] :=
    Array.getElem?_eq_getElem (Nat.lt_trans below there)
  intro same
  exact Nat.ne_of_lt below (roster.eq_of_promise found found' (beq_iff_eq.1 same))

/-- Along a course, what is known of the tasks of releases and of their promises. -/
theorem Course.fates (pristine : e.Pristine) (course : Course ⟨e, []⟩ h s) :
    Crew s ∧ Fates h s ∧ Staffed s.engine := by
  have kept : (Crew s ∧ Orderly h s ∧ Starting h s) ∧ Fates h s ∧ Staffed s.engine := by
    induction course with
    | nil =>
        refine ⟨Course.starting pristine .nil, ⟨fun t task found => ?_, fun t _ => ⟨rfl, by simp⟩⟩,
          fun r p connected promise => ?_⟩
        · simp [pristine.tasks] at found
        · simp [pristine.promise_eq] at promise
    | snoc course step admits ih =>
        obtain ⟨⟨crew, orderly, starting⟩, fates, staffed⟩ := ih
        have known := Course.starting pristine (course.snoc step admits)
        refine ⟨known, fates.step crew orderly known.2.2 (fun t new began => ?_) step admits,
          staffed.step crew step⟩
        exact (starting.unmade t new).1 (.ready (began ▸ step).mem_ready)
  exact ⟨kept.1.1, kept.2⟩

theorem Fate.timesRun_le (fate : Fate h s t task) : timesRun t h ≤ 1 := by
  cases fate with
  | unbegun run | beginning run | dropped run => omega
  | ran run => omega

theorem Fate.of_isIdle (fate : Fate h s t task) (idle : s.IsIdle) :
    timesRun t h = 1 ↔ ¬ CancelledFirst task.promise t h := by
  cases fate with
  | unbegun run clear unbegun =>
      have queued := unbegun.queued
      rw [idle.2] at queued
      cases queued
  | beginning run begun uncancelled head =>
      rw [idle.1] at head
      cases head
  | ran run begun uncancelled clear => simp [run, uncancelled]
  | dropped run begun cancelled clear => simp [run, cancelled]

/-- Along every course on which actions do not call in, every release runs its action once: the
action is called until it does not throw, all invocations that return do so with one promise,
and the connection is given back once, unless that promise is cancelled before its task begins. -/
theorem Course.runsOnce (pristine : e.Pristine) (course : Course ⟨e, []⟩ h s)
    (direct : h.all Move.isDirect = true) (r : ReleaseId) : RunsOnce r h s := by
  obtain ⟨crew, fates, staffed⟩ := course.fates pristine
  obtain ⟨due, raises, ledger, outside⟩ := (course.invoking pristine direct).exists_ledger r
  have ran (connected : (s.engine.releaseAt r).hasConnection = true) (p : PromiseId)
      (mem : p ∈ returned r h) : ∃ t, s.engine.taskOf? p = some t ∧ timesRun t h ≤ 1 ∧
        (s.IsIdle → (timesRun t h = 1 ↔ ¬ CancelledFirst p t h)) := by
    obtain ⟨t, task, found, rfl, work⟩ := staffed r p connected (ledger.returns p mem)
    have fate := fates.tasks t task found work
    exact ⟨t, crew.roster.taskOf? found, fate.timesRun_le, fate.of_isIdle⟩
  have answered (control : s.IsOutside) :
      timesInvoked r h = (returned r h).length + (actionCalls r h).countP Reply.isRaise := by
    rw [ledger.invoked, outside control, ledger.countP_calls, Nat.add_comm raises.length]
    rfl
  refine ⟨⟨raises, ledger.raised, ledger.calls_cases⟩, answered, fun p mem p' mem' => ?_,
    ledger.isInvoked_iff, ran, fun calm late => ?_⟩
  · exact Option.some.inj ((ledger.returns p mem).symm.trans (ledger.returns p' mem'))
  · obtain rfl := ledger.raises_eq_nil calm
    refine ⟨?_, fun idle invoked connected => ?_⟩
    · rcases ledger.calls_cases with calls | calls <;> simp [calls]
    · have all := answered (.inl idle.1)
      rw [ledger.countP_calls, List.length_nil, Nat.add_zero] at all
      rw [all] at invoked
      have some : returned r h ≠ [] := fun none => invoked (by rw [none]; rfl)
      obtain ⟨p, mem⟩ := List.exists_mem_of_ne_nil _ some
      obtain ⟨t, taskOf, -, once⟩ := ran connected p mem
      refine ⟨?_, all, p, t, ledger.returns p mem, taskOf, (once idle).2 (late p mem t taskOf)⟩
      rw [ledger.calls, connected, ledger.isInvoked_iff.2 some]
      rfl

end Courses

/-! ## Three releases -/

/-- An engine of a session that gives a connection back. -/
def heldEngine : Engine :=
  .overStream ⟨.text "", .null⟩ ⟨.null, .null, .null⟩ (.int 0) (.session 0) .pending
    (some .ofConnection)

theorem pristine_heldEngine : heldEngine.Pristine where
  cursors := rfl
  tasks := rfl
  iterations := rfl
  releases := by simp [heldEngine, Engine.overStream, Release.ofConnection]
  loop := rfl

/-- Two owners invoke the release, and the second cancels its promise once the task began. -/
def releasedTwice : List Act :=
  [.calls [.release 0 (.caller "first")], .calls [.release 0 (.caller "second")], .job,
    .calls [.cancelPromise 0], .job]

/-- Where that leads, with its history. -/
def releasedTwicePoint : List Move × Situation :=
  Situation.acts 8 releasedTwice ([], ⟨heldEngine, []⟩)

theorem runsOnce_releasedTwice :
    heldEngine.Pristine ∧
      Course ⟨heldEngine, []⟩ releasedTwicePoint.1 releasedTwicePoint.2 ∧
      releasedTwicePoint.1.all Move.isDirect = true ∧
      RunsOnce 0 releasedTwicePoint.1 releasedTwicePoint.2 ∧
      returned 0 releasedTwicePoint.1 = [0, 0] ∧ timesRun 0 releasedTwicePoint.1 = 1 := by
  have course : Course ⟨heldEngine, []⟩ releasedTwicePoint.1 releasedTwicePoint.2 :=
    .of_acts rfl (by decide +kernel)
  have direct : releasedTwicePoint.1.all Move.isDirect = true := by decide +kernel
  exact ⟨pristine_heldEngine, course, direct, course.runsOnce pristine_heldEngine direct 0,
    by decide +kernel, by decide +kernel⟩

/-- The release is invoked, and its promise is cancelled at once. -/
def cancelledEarlyPoint : List Move × Situation :=
  Situation.acts 8 [.calls [.release 0 (.caller "first")], .calls [.cancelPromise 0], .job, .job]
    ([], ⟨heldEngine, []⟩)

/-- A release that says it was invoked, with nothing left to do, has not begun. -/
theorem unbegun_cancelledEarly :
    Course ⟨heldEngine, []⟩ cancelledEarlyPoint.1 cancelledEarlyPoint.2 ∧
      cancelledEarlyPoint.2.agenda.isEmpty = true ∧
      cancelledEarlyPoint.2.engine.loop.ready.isEmpty = true ∧
      (cancelledEarlyPoint.2.engine.releaseAt 0).isInvoked = true ∧
      cancelledEarlyPoint.2.engine.taskOf? 0 = some 0 ∧ timesRun 0 cancelledEarlyPoint.1 = 0 :=
  ⟨.of_acts rfl (by decide +kernel), by decide +kernel, by decide +kernel, by decide +kernel,
    by decide +kernel, by decide +kernel⟩

/-- Where the action of the release is called. -/
def actingPoint : List Move × Situation :=
  Situation.acts 2 [.calls [.release 0 (.caller "first")]] ([], ⟨heldEngine, []⟩)

/-- Where that leads if it throws. -/
def refusedPoint : List Move × Situation :=
  let th : Thrown := .arising .nested
  (.answered .release (.raise th) :: actingPoint.1,
    ⟨actingPoint.2.engine, (Reply.raise th).onto actingPoint.2.agenda.tail⟩)

/-- Where it leads if the release is invoked again. -/
def refusedOncePoint : List Move × Situation :=
  Situation.acts 8 [.calls [.release 0 (.caller "second")]] refusedPoint

/-- An action that threw is called again. -/
theorem calledTwice_refusedOnce :
    Course ⟨heldEngine, []⟩ refusedOncePoint.1 refusedOncePoint.2 ∧
      (actionCalls 0 refusedOncePoint.1).length = 2 ∧
      returned 0 refusedOncePoint.1 = [0] := by
  have acting : Course ⟨heldEngine, []⟩ actingPoint.1 actingPoint.2 :=
    .of_acts rfl (by decide +kernel)
  have step : Step actingPoint.2 (.answered .release (.raise (.arising .nested)))
      refusedPoint.2 := .answer (.raise (.arising .nested))
  have refused : Course ⟨heldEngine, []⟩ refusedPoint.1 refusedPoint.2 :=
    acting.snoc step (.of_isAdmitted rfl)
  exact ⟨refused.acts 8 _ (by decide +kernel), by decide +kernel, by decide +kernel⟩

end QueryStream
