/-
  Proofs/Raised.lean --- failures that the discard path withholds.

  The discard path withholds a failure that somebody was told of (`Told`).  Where an application
  reads a result, that is a task that consumes it and asked for the summary, an iteration that
  was told of the end, or the keys, which throw the failure to start (`Facing`).  So a failure
  that is withheld was raised, if every task that asked for the summary waited for the outcome
  and every iteration was read to its end (`Run.raisedWhenWithheld`).

  It need not have been raised if a task was cancelled before the failure came, or if an
  iteration was closed with the failure unread.
-/
import QueryStream.Proofs.Disclosure
import QueryStream.Proofs.Signals

set_option autoImplicit false

namespace QueryStream

/-! ## Applications -/

/-- Whether an instruction is what a result asks of its cursor: a record consumer is taken, or
the summary is asked for. -/
def Instruction.isBehindResult : Instruction → Bool
  | .cursor _ (.install _) => true
  | .cursor _ (.summary _) => true
  | _ => false

/-- Whoever asks the cursor for the failure of its query to start throws it next. -/
def ThrowsNext (f : Failure) (agenda : List Instruction) : Prop :=
  ∀ front rest, agenda = front ++ .cursor 0 .surfaceError :: rest →
    ∃ tail, rest = .throw (.failure f) :: tail

/-- An application that reads a result over the one cursor: its records, its keys and its end.
The result takes the record consumer and asks for the summary, and the keys throw the failure of
the query to start, if there is one. -/
structure Conduct.Faces (c : Conduct) (runError : Option Failure) : Prop where
  sole : c.Sole
  holds : c.Holds
  behind : ∀ i, c.Calls i → i.isBehindResult = false
  throws : ∀ h m, c.keeps h m → ∀ f, runError = some f → ThrowsNext f m.outside

/-- In a history the keys threw the failure of the query to start. -/
def ThrownByKeys (f : Failure) (h : List Move) : Prop :=
  ∃ later r r' earlier, h = later ++ .carried (.throw (.failure f)) r ::
    .carried (.cursor 0 .surfaceError) r' :: earlier

section Keys

variable {c : Conduct} {h : List Move} {s s' : Situation} {m : Move} {f : Failure}
  {i j : Instruction} {rest next : List Instruction} {e : Engine}

theorem throwsNext_of_forall (others : ∀ i ∈ next, i ≠ .cursor 0 .surfaceError) :
    ThrowsNext f next := by
  rintro front rest rfl
  exact absurd rfl (others (.cursor 0 .surfaceError) (by simp))

theorem ThrowsNext.append (first : ThrowsNext f next) (second : ThrowsNext f rest) :
    ThrowsNext f (next ++ rest) := by
  intro front back split
  rcases List.append_eq_append_iff.1 split with ⟨middle, -, later⟩ | ⟨middle, rfl, here⟩
  · exact second middle back later
  · cases middle with
    | nil => exact second [] back here.symm
    | cons i middle =>
        obtain ⟨rfl, rfl⟩ := List.cons.inj here
        obtain ⟨tail, rfl⟩ := first front middle rfl
        exact ⟨tail ++ rest, rfl⟩

theorem ThrowsNext.suffix {tail : List Instruction} (throws : ThrowsNext f rest)
    (suffix : tail <:+ rest) : ThrowsNext f tail := by
  obtain ⟨before, rfl⟩ := suffix
  rintro front back rfl
  exact throws (before ++ front) back (List.append_assoc ..).symm

/-- What is thrown by the keys is on the agenda right behind the asking, and in the history right
after it. -/
structure Surfacing (f : Failure) (h : List Move) (s : Situation) : Prop where
  throws : ThrowsNext f s.agenda
  asked : h.any (Move.asksError 0) = true → ThrownByKeys f h ∨
    ∃ r earlier tail, h = .carried (.cursor 0 .surfaceError) r :: earlier ∧
      s.agenda = .throw (.failure f) :: tail

theorem ThrownByKeys.cons (thrown : ThrownByKeys f h) (m : Move) : ThrownByKeys f (m :: h) := by
  obtain ⟨later, r, r', earlier, rfl⟩ := thrown
  exact ⟨m :: later, r, r', earlier, rfl⟩

/-- What is put in front of what is left surfaces the failure as before. -/
theorem ThrowsNext.onto {r : Reply} (throws : ThrowsNext f rest) (brought : ThrowsNext f r.next) :
    ThrowsNext f (r.onto rest) := by
  obtain ⟨front, tail, agenda, leaves, fronts⟩ := r.exists_onto rest
  rw [agenda]
  refine .append ?_ (throws.suffix leaves.suffix)
  rcases fronts with rfl | ⟨g, th, rfl, -⟩
  · exact brought
  · exact throwsNext_of_forall (by simp)

theorem Surfacing.step (surfacing : Surfacing f h s) (step : Step s m s')
    (outside : ThrowsNext f m.outside) : Surfacing f (m :: h) s' := by
  refine ⟨?_, fun asked => ?_⟩
  · cases step with
    | @carry e i rest own =>
        have behind : ThrowsNext f rest := surfacing.throws.suffix (List.suffix_cons i rest)
        refine behind.onto (throwsNext_of_forall fun j mem => ?_)
        rintro rfl
        cases (Engine.leads_exec mem).isInward rfl
    | @answer e a rest r =>
        have behind : ThrowsNext f rest := surfacing.throws.suffix (List.suffix_cons _ rest)
        exact behind.onto outside
    | begin next =>
        refine throwsNext_of_forall fun i mem => ?_
        cases Engine.leadsBy_runJob mem <;> nofun
    | call next => exact outside
  · rw [List.any_cons] at asked
    cases now : m.asksError 0 with
    | true =>
        unfold Move.asksError at now
        split at now
        · rename_i id r
          obtain rfl := beq_iff_eq.1 now
          obtain ⟨rest, head⟩ := step.head_of_carried
          obtain ⟨tail, rfl⟩ := surfacing.throws [] rest head
          obtain ⟨-, rfl⟩ := step.exec_of_head head rfl
          have nothing : (s.engine.exec (.cursor 0 .surfaceError)).2 = .go [] := by
            simp only [Engine.exec, Engine.stepCursor, Engine.goOn]
            split <;> rfl
          refine .inr ⟨r, h, tail, rfl, ?_⟩
          rw [nothing]
          rfl
        · cases now
    | false =>
        rw [now, Bool.false_or] at asked
        rcases surfacing.asked asked with thrown | ⟨r, earlier, tail, rfl, agenda⟩
        · exact .inl (thrown.cons m)
        · obtain ⟨rfl, -⟩ := step.exec_of_head agenda rfl
          exact .inl ⟨[], _, r, earlier, rfl⟩

end Keys

/-! ## Applications that face a failure -/

/-- What holds where an application reads a result over the one cursor, in a history and where
it led. -/
structure Facing (o : PromiseId) (runError : Option Failure) (h : List Move) (s : Situation)
    (cursor : Cursor) : Prop where
  disclosing : Disclosing o runError h s cursor
  crew : Crew s
  consuming : Consuming o s
  asked : AskedByTasks h s
  directed : Directed s
  delivered : Delivered h s
  surfacing : ∀ f, runError = some f → Surfacing f h s

/-- The failure of a query was raised to the application. -/
inductive Raised (runError : Option Failure) (f : Failure) (h : List Move) (e : Engine) : Prop
  /-- the keys threw it -/
  | keys (failed : runError = some f) (thrown : ThrownByKeys f h)
  /-- a task that reads records ended with it -/
  | iterator (raised : e.RaisedBy Work.isReading f)
  /-- a task that consumes the result ended with it -/
  | consume (raised : e.RaisedBy (fun work => work == .consume 0) f)

/-- Nobody left before the failure of a query was raised. -/
structure SeenThrough (f : Failure) (h : List Move) (e : Engine) : Prop where
  /-- a task that asked for the summary ended, and neither by being cancelled nor with another
  failure -/
  consumed : ∀ t r (task : Task), .carried (.cursor 0 (.summary (.task t))) r ∈ h →
    e.tasks[t]? = some task → ∃ st, e.loop.settlement? task.promise = some st ∧
      st ≠ .cancelled ∧ ∀ g, st = .failure g → g = f
  /-- no iteration was left with a failure that it has not read -/
  read : ∀ (k : IterationId) (it : Iteration), e.iterations[k]? = some it →
    ∀ g, .finish (some g) ∉ it.signals

section Facing

variable {c : Conduct} {o p : PromiseId} {h : List Move} {s s' : Situation} {m : Move}
  {cursor : Cursor} {runError : Option Failure} {f : Failure} {i : Instruction} {e : Engine}

/-- An application takes no record consumer and tells none anything. -/
theorem Conduct.Faces.addressee (faces : c.Faces runError) (permitted : c.Permits h m)
    (mem : i ∈ m.outside) : i.addressee? = none := by
  rcases permitted.outside mem with calls | ⟨t, rfl⟩ | ⟨t, rfl⟩
  · have behind := faces.behind i calls
    have attaches := faces.sole i calls
    have call := calls.1
    cases i with
    | cursor id a => cases a <;> first | rfl | cases behind
    | stream a => cases a <;> first | rfl | cases attaches
    | channel r => cases attaches
    | tellRecord rc r => cases call
    | tellEnd rc f => cases call
    | _ => rfl
  · rfl
  · rfl

theorem Conduct.Faces.ne_summary {id : CursorId} {receiver : Receiver} (faces : c.Faces runError)
    (permitted : c.Permits h m) : .cursor id (.summary receiver) ∉ m.outside := by
  intro mem
  rcases permitted.outside mem with calls | ⟨t, same⟩ | ⟨t, same⟩
  · cases faces.behind _ calls
  · cases same
  · cases same

theorem Facing.step (facing : Facing o runError h s cursor) (faces : c.Faces runError)
    (step : Step s m s') (permitted : c.Permits h m) :
    ∃ next, Facing o runError (m :: h) s' next := by
  have paired := facing.disclosing.paired
  have orderly := paired.orderly
  have admits := permitted.admits faces.holds
  have there : s.engine.cursors[0]? = some cursor := by simp [paired.attached.cursors]
  obtain ⟨next, disclosing⟩ := facing.disclosing.step faces.sole faces.holds step permitted
  exact ⟨next, disclosing, facing.crew.step orderly step admits,
    facing.consuming.step facing.crew orderly there paired.attached.outcome_eq step admits,
    facing.asked.step facing.crew step fun id receiver => faces.ne_summary permitted,
    facing.directed.step step permitted fun i mem => faces.addressee permitted mem,
    facing.delivered.step facing.directed facing.crew orderly step,
    fun f failed => (facing.surfacing f failed).step step (faces.throws h m permitted.1 f failed)⟩

theorem Run.facing {release : ReleaseId} (secluded : e.Secluded o) (unmanned : e.Unmanned)
    (cursors : e.cursors = #[.fresh runError release o]) (faces : c.Faces runError)
    (run : Run c ⟨e, []⟩ h s) : ∃ cursor, Facing o runError h s cursor := by
  refine run.invariant (I := fun h s => ∃ cursor, Facing o runError h s cursor) ?_
    fun ⟨_, facing⟩ step permitted => facing.step faces step permitted
  obtain ⟨cursor, disclosing⟩ := secluded.disclosing cursors
  refine ⟨cursor, disclosing, unmanned.crew, fun t task found => ?_, ⟨by simp, by simp⟩,
    ⟨fun rc held => ?_, by simp⟩, fun rc f told => ?_, fun f failed => ⟨?_, by simp⟩⟩
  · simp [unmanned.tasks] at found
  · simp [secluded.stream, Stream.fresh] at held
  · simp [endsTold] at told
  · exact throwsNext_of_forall (by simp)

/-- If the discard path withholds the failure of a query, the failure was raised to the
application, unless somebody left before: a task that had asked for the summary was cancelled or
had failed otherwise, or an iteration was closed with the failure unread. -/
theorem Run.raisedWhenWithheld {release : ReleaseId} (secluded : e.Secluded o)
    (unmanned : e.Unmanned) (cursors : e.cursors = #[.fresh runError release o])
    (faces : c.Faces runError) (run : Run c ⟨e, []⟩ h s) (idle : s.agenda = [])
    (failed : s.engine.loop.settlement? o = some (.failure f)) (handed : p ∈ reportPromises 0 h)
    (withheld : s.engine.loop.settlement? p = some (.value .nothing))
    (seen : SeenThrough f h s.engine) : Raised runError f h s.engine := by
  obtain ⟨cursor, facing⟩ := run.facing secluded unmanned cursors faces
  obtain ⟨earlier, within, told⟩ : ∃ earlier, earlier <:+ h ∧ Told 0 runError f earlier := by
    cases facing.disclosing.reporting p handed with
    | cancelled cancels promise => simp [withheld] at promise
    | pending created only pending => simp [pending.unsettled] at withheld
    | unfailed d outcome => simp [failed] at outcome
    | settled outcome promise disclosed =>
        obtain rfl := Settlement.failure.inj (Option.some.inj (failed.symm.trans outcome))
        obtain rfl := Option.some.inj (withheld.symm.trans promise)
        obtain ⟨later, rfl⟩ := disclosed.ran
        exact ⟨_, List.suffix_append_of_suffix (List.suffix_cons ..), disclosed.withheld.1 rfl⟩
  -- the failure was told to whoever asked for the summary, to the record consumer, or with the keys
  cases told with
  | summary asked =>
      obtain ⟨m, mem, asks⟩ := List.any_eq_true.1 asked
      unfold Move.asksSummary at asks
      split at asks
      · rename_i id receiver r
        obtain rfl := beq_iff_eq.1 asks
        have mem := within.mem mem
        obtain ⟨t, task, rfl, found, work⟩ := facing.asked.asked receiver r mem
        obtain ⟨st, settled, finished, only⟩ := seen.consumed t r task mem found
        cases st with
        | value d =>
            have outcome := (facing.consuming t task found work).settled d settled
            simp [failed] at outcome
        | cancelled => exact absurd rfl finished
        | failure g =>
            obtain rfl := only g rfl
            exact .consume ⟨found, by simp [work], settled⟩
      · cases asks
  | consumer rc own told =>
      have told : (rc, some f) ∈ endsTold h := by
        obtain ⟨later, rfl⟩ := within
        rw [endsTold, List.filterMap_append]
        exact List.mem_append_right _ told
      obtain ⟨k, -, reached⟩ := facing.delivered rc f told own
      cases reached with
      | unread found mem => exact absurd mem (seen.read k _ found f)
      | raising raising => cases raising <;> simp_all
      | raised raised => exact .iterator raised
  | error failed asked =>
      have asked : h.any (Move.asksError 0) = true := by
        obtain ⟨m, mem, asks⟩ := List.any_eq_true.1 asked
        exact List.any_eq_true.2 ⟨m, within.mem mem, asks⟩
      rcases (facing.surfacing f failed).asked asked with thrown | ⟨r, earlier, tail, -, agenda⟩
      · exact .keys failed thrown
      · simp [idle] at agenda

end Facing

/-! ## Failures that are worked out -/

/-- An application that reads a result whose query has started, and that cancels only what it was
handed. -/
def Conduct.facing : Conduct where
  refrains i := i.attaches = true ∨ i.isBehindResult = true
  tame _ := False
  keeps h m := m.isAdmitted h = true

theorem Conduct.facing_faces : Conduct.facing.Faces none where
  sole i calls := by simpa using fun attaches => calls.2 (.inl attaches)
  holds _ p r keeps := (Admits.of_isAdmitted keeps).holds p r rfl
  behind i calls := by simpa using fun behind => calls.2 (.inr behind)
  throws _ _ _ _ failed := by cases failed

/-- Whether what is called is an application's to call. -/
def Act.isFacing : Act → Bool
  | .calls next => next.all fun i => i.isCall && !i.attaches && !i.isBehindResult
  | .job => true

theorem Run.of_facing {n : Nat} {acts : List Act} {point : List Move × Situation}
    {start : Situation} (worked : point = Situation.acts n acts ([], start))
    (made : acts.all Act.isFacing = true) (admitted : allAdmitted point.1 = true) :
    Run .facing start point.1 point.2 := by
  subst worked
  have keeps : Conduct.facing.KeepsAll (Situation.acts n acts ([], start)).1 := by
    refine Conduct.keepsAll_of_cons (allAdmitted · = true) (fun m h all => ?_) admitted
    exact Bool.and_eq_true_iff.1 all
  refine .acts n acts (fun next mem i hi => ?_) keeps .nil
  have facing := List.all_eq_true.1 made _ mem
  simp only [Act.isFacing, List.all_eq_true, Bool.and_eq_true] at facing
  obtain ⟨⟨call, attaches⟩, behind⟩ := facing i hi
  exact ⟨call, by simpa [Conduct.facing] using And.intro attaches behind⟩

theorem unmanned_soleEngine : soleEngine.Unmanned where
  tasks := rfl
  tally t := by
    have loop : soleEngine.loop = ⟨#[⟨none, [.noteOutcome 0]⟩], []⟩ := rfl
    simp [loop, Loop.tally, Loop.tallyOf, Job.task?]

/-- Whether a promise was kept with nothing. -/
def Engine.keepsNothing (e : Engine) (p : PromiseId) : Bool :=
  match e.loop.settlement? p with
  | some (.value .nothing) => true
  | _ => false

theorem Engine.kept_of_keepsNothing {e : Engine} {p : PromiseId}
    (kept : e.keepsNothing p = true) : e.loop.settlement? p = some (.value .nothing) := by
  unfold keepsNothing at kept
  split at kept
  · assumption
  · cases kept

/-- Records are read one by one. -/
def singly : FullOptions := ⟨⟨1, FetchSize.one_valid⟩, .int 0⟩

/-- The first record is waited for; the stream fails, which is read; then the failure is asked
for. -/
def readThrough : List Act :=
  [.calls [.openResult 0 singly, .records 0 .null .null (.caller "records")],
    .calls [.spawn (.next 0) (.caller "next")], .job, .calls [.stream (.fail brokenLink)], .job,
    .job, .calls [.cursor 0 (.discardAll (.caller "report"))], .job, .job]

/-- Where reading the failure leads, with its history. -/
def readThroughPoint : List Move × Situation :=
  Situation.acts 24 readThrough ([], ⟨soleEngine, []⟩)

theorem raisedWhenWithheld_readThrough :
    readThroughPoint.2.engine.keepsNothing 3 = true ∧
      ∃ f, Raised none f readThroughPoint.1 readThroughPoint.2.engine := by
  have run : Run .facing ⟨soleEngine, []⟩ readThroughPoint.1 readThroughPoint.2 :=
    .of_facing rfl (by decide +kernel) (by decide +kernel)
  have idle : readThroughPoint.2.agenda.isEmpty = true := by decide +kernel
  have failure : (readThroughPoint.2.engine.failure? 0).isSome = true := by decide +kernel
  obtain ⟨f, failed⟩ := Engine.failed_of_failure? failure
  have handed : 3 ∈ reportPromises 0 readThroughPoint.1 := by decide +kernel
  have kept : readThroughPoint.2.engine.keepsNothing 3 = true := by decide +kernel
  have unasked : readThroughPoint.1.any (Move.asksSummary 0) = false := by decide +kernel
  have read : (readThroughPoint.2.engine.iterations.all fun it => it.signals.isEmpty) = true := by
    decide +kernel
  have seen : SeenThrough f readThroughPoint.1 readThroughPoint.2.engine := by
    refine ⟨fun t r task mem _ => ?_, fun k it found g unread => ?_⟩
    · have asked : readThroughPoint.1.any (Move.asksSummary 0) = true :=
        List.any_eq_true.2 ⟨_, mem, rfl⟩
      simp [unasked] at asked
    · have empty := Array.all_eq_true'.1 read it (Array.mem_of_getElem? found)
      rw [List.isEmpty_iff.1 empty] at unread
      cases unread
  exact ⟨kept, f, run.raisedWhenWithheld secluded_soleEngine unmanned_soleEngine rfl
    Conduct.facing_faces (List.isEmpty_iff.1 idle) failed handed
    (Engine.kept_of_keepsNothing kept) seen⟩

/-- Where no task ended with a failure, and the query has started, no failure was raised. -/
theorem not_raised {f : Failure} {h : List Move} {e : Engine}
    (unfailed : (e.tasks.all fun task => (e.failure? task.promise).isNone) = true) :
    ¬ Raised none f h e := by
  have unraised : ∀ works, ¬ e.RaisedBy works f := by
    rintro works ⟨found, -, failed⟩
    have kept := Array.all_eq_true'.1 unfailed _ (Array.mem_of_getElem? found)
    simp [Engine.failure?, failed] at kept
  rintro (⟨failed, -⟩ | raised | raised)
  · cases failed
  · exact unraised _ raised
  · exact unraised _ raised

/-- A task that consumes the result is cancelled; then the stream fails, and the failure is asked
for. -/
def cancelledConsume : List Act :=
  [.calls [.spawn (.consume 0) (.caller "consume")], .job, .calls [.cancelPromise 1], .job, .job,
    .calls [.stream (.fail brokenLink)], .job, .job,
    .calls [.cursor 0 (.discardAll (.caller "report"))], .job, .job]

/-- Where cancelling what consumes leads, with its history. -/
def cancelledConsumePoint : List Move × Situation :=
  Situation.acts 24 cancelledConsume ([], ⟨soleEngine, []⟩)

/-- A failure is withheld and was never raised where a task that had asked for the summary is
cancelled. -/
theorem unraised_cancelledConsume :
    Run .facing ⟨soleEngine, []⟩ cancelledConsumePoint.1 cancelledConsumePoint.2 ∧
      3 ∈ reportPromises 0 cancelledConsumePoint.1 ∧
      cancelledConsumePoint.2.engine.loop.settlement? 3 = some (.value .nothing) ∧
      ∃ f, cancelledConsumePoint.2.engine.loop.settlement? 0 = some (.failure f) ∧
        ¬ Raised none f cancelledConsumePoint.1 cancelledConsumePoint.2.engine := by
  have run : Run .facing ⟨soleEngine, []⟩ cancelledConsumePoint.1 cancelledConsumePoint.2 :=
    .of_facing rfl (by decide +kernel) (by decide +kernel)
  have failure : (cancelledConsumePoint.2.engine.failure? 0).isSome = true := by decide +kernel
  obtain ⟨f, failed⟩ := Engine.failed_of_failure? failure
  exact ⟨run, by decide +kernel, Engine.kept_of_keepsNothing (by decide +kernel), f, failed,
    not_raised (by decide +kernel)⟩

/-- A record is read; the stream fails, and the iteration is closed; then the failure is asked
for. -/
def closedUnread : List Act :=
  [.calls [.openResult 0 singly, .records 0 .null .null (.caller "records")],
    .calls [.spawn (.next 0) (.caller "next")], .job, .calls [.stream (.deliver (.list []))], .job,
    .calls [.stream (.fail brokenLink)], .job, .calls [.spawn (.close 0) (.caller "close")], .job,
    .calls [.cursor 0 (.discardAll (.caller "report"))], .job, .job]

/-- Where closing the iteration leads, with its history. -/
def closedUnreadPoint : List Move × Situation :=
  Situation.acts 24 closedUnread ([], ⟨soleEngine, []⟩)

/-- A failure is withheld and was never raised where an iteration is closed that has not read
it. -/
theorem unraised_closedUnread :
    Run .facing ⟨soleEngine, []⟩ closedUnreadPoint.1 closedUnreadPoint.2 ∧
      4 ∈ reportPromises 0 closedUnreadPoint.1 ∧
      closedUnreadPoint.2.engine.loop.settlement? 4 = some (.value .nothing) ∧
      ∃ f, closedUnreadPoint.2.engine.loop.settlement? 0 = some (.failure f) ∧
        ¬ Raised none f closedUnreadPoint.1 closedUnreadPoint.2.engine := by
  have run : Run .facing ⟨soleEngine, []⟩ closedUnreadPoint.1 closedUnreadPoint.2 :=
    .of_facing rfl (by decide +kernel) (by decide +kernel)
  have failure : (closedUnreadPoint.2.engine.failure? 0).isSome = true := by decide +kernel
  obtain ⟨f, failed⟩ := Engine.failed_of_failure? failure
  exact ⟨run, by decide +kernel, Engine.kept_of_keepsNothing (by decide +kernel), f, failed,
    not_raised (by decide +kernel)⟩

end QueryStream
