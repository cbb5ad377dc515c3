/-
  Proofs/Disclosure.lean --- the failures that the discard path reports.

  A promise of the discard path is settled one turn after the outcome, by a job of the loop.
  If the outcome failed, that job withholds the failure exactly if somebody was told of it by
  then: the summary was asked for, the caller's own record consumer was told of this failure,
  or it is the failure of the query to start and that was asked for (`Told`).  Otherwise the
  promise is kept with the failure itself (`Run.disclosed`).

  Flags of the cursor stand for who was told.  Two of them are set when somebody asks
  (`Noted`); the third is set before the record consumer is told, which nothing can come in
  between (`Valediction`).
-/
import QueryStream.Proofs.Cursor.Valediction

set_option autoImplicit false

namespace QueryStream

/-! ## Who was told -/

/-- Whether a move asks a cursor for the summary. -/
def Move.asksSummary (id : CursorId) : Move → Bool
  | .carried (.cursor i (.summary _)) _ => i == id
  | _ => false

/-- Whether a move asks a cursor for the failure of its query to start. -/
def Move.asksError (id : CursorId) : Move → Bool
  | .carried (.cursor i .surfaceError) _ => i == id
  | _ => false

/-- In a history somebody was told of a failure that the outcome of a cursor is. -/
inductive Told (id : CursorId) (runError : Option Failure) (f : Failure) (h : List Move) : Prop
  /-- the summary was asked for -/
  | summary (asked : h.any (Move.asksSummary id) = true)
  /-- the caller's own record consumer was told of it -/
  | consumer (rc : RecordConsumer) (own : rc ≠ .discard) (told : (rc, some f) ∈ endsTold h)
  /-- it is the failure to start, which was asked for -/
  | error (failed : runError = some f) (asked : h.any (Move.asksError id) = true)

/-- The promises of the discard path that a move hands out. -/
def Move.reportPromises (id : CursorId) : Move → List PromiseId
  | .carried (.reportFailure i _) r => if i = id then r.next.filterMap Instruction.offered? else []
  | _ => []

/-- The promises of the discard path that a cursor handed out in a history. -/
def reportPromises (id : CursorId) (h : List Move) : List PromiseId :=
  h.flatMap (Move.reportPromises id)

/-- A promise of the discard path was settled by its job as who was told by then has it. -/
structure Disclosed (o p : PromiseId) (runError : Option Failure) (f : Failure) (h : List Move)
    (st : Settlement Delivery Failure) (earlier : List Move) : Prop where
  /-- the job ran, for the first time, after this history -/
  ran : ∃ later, h = later ++ .began (.report 0 o p) :: earlier
  first : .began (.report 0 o p) ∉ earlier
  withheld : st = .value .nothing ↔ Told 0 runError f earlier
  disclosed : ¬ Told 0 runError f earlier → st = .value (.failure f)

section Flags

variable {c : Conduct} {o p : PromiseId} {h : List Move} {s s' : Situation} {m : Move}
  {cursor next : Cursor} {runError : Option Failure}

/-- What a cursor notes of what was asked for. -/
structure Noted (runError : Option Failure) (h : List Move) (cursor : Cursor) : Prop where
  summary : cursor.isSummaryExposed = h.any (Move.asksSummary 0)
  error : cursor.isErrorSurfaced = h.any (Move.asksError 0)
  runError : cursor.runError = runError

/-- A cursor notes what it is asked for, and nothing else. -/
theorem Cursor.Steps.noted {done : Bool} {c c' : Cursor} {a : Cursor.Action}
    {effects : List Cursor.Effect} (steps : Cursor.Steps done c a c' effects) (r : Reply) :
    c'.isSummaryExposed = ((Move.carried (.cursor 0 a) r).asksSummary 0 || c.isSummaryExposed) ∧
      c'.isErrorSurfaced = ((Move.carried (.cursor 0 a) r).asksError 0 || c.isErrorSurfaced) ∧
      c'.runError = c.runError := by
  cases steps <;> exact ⟨rfl, rfl, rfl⟩

/-- A cursor that is there is asked only by a step of it. -/
theorem Step.asks_nothing (step : Step s m s') (attached : Attached o h s cursor)
    (still : ∀ a rest next effects, ¬ CursorStep s m s' cursor a rest next effects) :
    m.asksSummary 0 = false ∧ m.asksError 0 = false := by
  have found : s.engine.cursors[0]? = some cursor := by simp [attached.cursors]
  have asked : ∀ a r after effects, m = .carried (.cursor 0 a) r →
      cursor.step (s.engine.isResolved cursor) a ≠ .ok (after, effects) := by
    rintro a r after effects rfl accepted
    obtain ⟨rest, head⟩ := step.head_of_carried
    obtain ⟨move, rfl⟩ := step.exec_of_head head rfl
    rw [s.engine.exec_cursor found accepted] at move still
    refine still a rest after effects ⟨head, move, Cursor.steps_of_step accepted, ?_, rfl⟩
    simp [attached.cursors]
  constructor
  · unfold Move.asksSummary
    split
    · rename_i i receiver r
      cases same : i == 0 with
      | false => rfl
      | true =>
          obtain rfl := beq_iff_eq.1 same
          exact absurd rfl (asked _ r _ _ rfl)
    · rfl
  · unfold Move.asksError
    split
    · rename_i i r
      cases same : i == 0 with
      | false => rfl
      | true =>
          obtain rfl := beq_iff_eq.1 same
          exact absurd rfl (asked _ r _ _ rfl)
    · rfl

theorem Noted.step (noted : Noted runError h cursor) (attached : Attached o h s cursor)
    (step : Step s m s') (permitted : c.Permits h m) (hnext : s'.engine.cursors = #[next]) :
    Noted runError (m :: h) next := by
  by_cases taken : ∃ a rest after effects, CursorStep s m s' cursor a rest after effects
  · obtain ⟨a, rest, after, effects, taken⟩ := taken
    obtain rfl : after = next := by
      rw [taken.engine] at hnext
      simpa using hnext
    obtain ⟨summary, error, same⟩ := taken.steps.noted (.go (effects.map (.ofCursor 0 after)))
    rw [taken.move]
    exact ⟨by rw [summary, noted.summary, List.any_cons], by rw [error, noted.error, List.any_cons],
      same.trans noted.runError⟩
  · have still : ∀ a rest after effects, ¬ CursorStep s m s' cursor a rest after effects :=
      fun a rest after effects step => taken ⟨a, rest, after, effects, step⟩
    obtain ⟨summary, error⟩ := step.asks_nothing attached still
    obtain rfl : cursor = next := by
      rcases attached.cursor_or_eq step permitted hnext with ⟨a, rest, effects, step⟩ | same
      · exact absurd step (still a rest next effects)
      · exact same
    exact ⟨by rw [noted.summary, List.any_cons, summary, Bool.false_or],
      by rw [noted.error, List.any_cons, error, Bool.false_or], noted.runError⟩

/-- With nothing under way, what a cursor reports of the failure that its outcome is goes by
who was told. -/
theorem Paired.unreported (paired : Paired o h s cursor) (noted : Noted runError h cursor)
    (idle : s.agenda = []) {f : Failure}
    (failed : s.engine.loop.settlement? o = some (.failure f)) :
    (Told 0 runError f h → cursor.unreported f = .nothing) ∧
      (¬ Told 0 runError f h → cursor.unreported f = .failure f) := by
  have delivered : cursor.isErrorDelivered = true ↔
      ∃ rc, rc ≠ .discard ∧ (rc, some f) ∈ endsTold h := by
    cases paired.valediction with
    | before opened clear untold kept unfailed => exact absurd failed (unfailed f)
    | parting front agenda isOver clear untold status bidding => simp [idle] at agenda
    | said rc g isOver clear told delivered done verdict =>
        obtain rfl := verdict f failed
        rw [delivered, told]
        cases rc <;> simp [getsFailure]
  have surfaced : (cursor.isErrorSurfaced && (cursor.runError.any fun e => f.isSame e)) = true ↔
      runError = some f ∧ h.any (Move.asksError 0) = true := by
    rw [noted.error, noted.runError, Bool.and_eq_true]
    cases runError <;> simp [and_comm, eq_comm (a := f)]
  have told : Told 0 runError f h ↔
      (cursor.isSummaryExposed || cursor.isErrorDelivered) = true ∨
        (cursor.isErrorSurfaced && (cursor.runError.any fun e => f.isSame e)) = true := by
    rw [surfaced, Bool.or_eq_true, delivered, noted.summary]
    constructor
    · rintro (asked | ⟨rc, own, told⟩ | ⟨failed, asked⟩)
      · exact .inl (.inl asked)
      · exact .inl (.inr ⟨rc, own, told⟩)
      · exact .inr ⟨failed, asked⟩
    · rintro ((asked | ⟨rc, own, told⟩) | ⟨failed, asked⟩)
      · exact .summary asked
      · exact .consumer rc own told
      · exact .error failed asked
  rw [told]
  unfold Cursor.unreported
  constructor
  · rintro (exposed | surfaced)
    · rw [if_pos exposed]
    · rw [if_pos surfaced, ite_self]
  · intro untold
    rw [not_or] at untold
    rw [if_neg untold.1, if_neg untold.2]

end Flags

/-! ## Who holds a promise -/

/-- The promise that an instruction has a task wait for. -/
def Instruction.tasked? : Instruction → Option PromiseId
  | .hand (.task _) p => some p
  | .await _ p => some p
  | _ => none

/-- Whether an instruction has a task handed a promise of the discard path. -/
def Instruction.isForward : Instruction → Bool
  | .cursor _ (.discardAll receiver) => receiver.isTask
  | .cursor _ (.pullAll receiver) => receiver.isTask
  | .reportFailure _ receiver => receiver.isTask
  | _ => false

section Holders

variable {c : Conduct} {o p : PromiseId} {h : List Move} {s s' : Situation} {m : Move}
  {i j : Instruction}

theorem Instruction.offered?_of_tasked? (tasked : i.tasked? = some p) : i.offered? = some p := by
  cases i with
  | hand receiver q =>
      cases receiver with
      | task t => exact tasked
      | _ => cases tasked
  | await t q => exact tasked
  | _ => cases tasked

theorem Engine.tasked?_exec {e : Engine} (mem : j ∈ (e.exec i).2.next)
    (tasked : j.tasked? = some p) (offered : i.offered? = some p) : i.tasked? = some p := by
  cases i with
  | hand receiver q =>
      cases receiver with
      | task t => exact offered
      | nobody => cases mem
      | caller name =>
          obtain rfl := List.mem_singleton.1 mem
          cases tasked
  | await t q => exact offered
  | ask a => cases mem
  | _ => cases offered

theorem Engine.awaits_tasked {e : Engine} (awaits : (e.exec i).1.Awaits p) :
    e.Awaits p ∨ i.tasked? = some p := by
  rcases Engine.awaits_exec awaits with earlier | offered
  · exact .inl earlier
  · cases i with
    | hand receiver q => exact .inl awaits
    | await t q => exact .inr offered
    | ask a => exact .inl awaits
    | _ => cases offered

/-- No task is to wait for a promise. -/
structure Untasked (p : PromiseId) (s : Situation) : Prop where
  untasked : ∀ i ∈ s.agenda, i.tasked? ≠ some p
  unawaited : ¬ s.engine.Awaits p

theorem Untasked.step {k : Job} (untasked : Untasked p s) (step : Step s m s')
    (admits : Admits h m) (created : p < s.engine.loop.promises.size)
    (only : s.engine.Only p (.target k)) (unsettled : s.engine.loop.settlement? p = none) :
    Untasked p s' := by
  refine ⟨fun j mem tasked => ?_, fun awaits => ?_⟩
  · have offered := Instruction.offered?_of_tasked? tasked
    cases step with
    | @carry e i rest own =>
        rcases Reply.mem_onto mem with mem | mem | ⟨g, th, rfl⟩
        · exact untasked.untasked j (List.mem_cons_of_mem _ mem) tasked
        · cases Engine.offering_exec mem offered with
          | passed passed =>
              exact untasked.untasked i (List.mem_cons_self ..)
                (Engine.tasked?_exec mem tasked passed)
          | release plays => cases only _ plays
          | resolved done =>
              have unsettled : e.loop.settlement? p = none := unsettled
              simp [Loop.isDone, unsettled] at done
          | created fresh => exact absurd created (Nat.not_lt_of_le fresh.1)
        · cases tasked
    | answer r =>
        rcases Reply.mem_onto mem with mem | mem | ⟨g, th, rfl⟩
        · exact untasked.untasked j (List.mem_cons_of_mem _ mem) tasked
        · cases (admits.plain mem).offered.symm.trans offered
        · cases tasked
    | begin next => cases (Engine.offered?_runJob mem).symm.trans offered
    | call next => cases (admits.plain mem).offered.symm.trans offered
  · cases step with
    | carry own =>
        rcases Engine.awaits_tasked awaits with earlier | tasked
        · exact untasked.unawaited earlier
        · exact untasked.untasked _ (List.mem_cons_self ..) tasked
    | answer r => exact untasked.unawaited awaits
    | @begin e j loop next =>
        exact untasked.unawaited (Engine.awaits_runJob (e := { e with loop }) awaits)
    | call next => exact untasked.unawaited awaits

/-- No task is handed a promise of the discard path. -/
theorem forward_step (step : Step s m s') (permitted : c.Permits h m)
    (known : ∀ i ∈ s.agenda, i.isForeign = false)
    (forward : ∀ i ∈ s.agenda, i.isForward = false) : ∀ i ∈ s'.agenda, i.isForward = false := by
  intro i hi
  rcases (step.turn permitted).mem hi with hi | brought
  · exact forward i (List.mem_of_mem_tail hi)
  cases brought with
  | @stream a rest next effects effect head steps mem => cases effect <;> rfl
  | @cursor id a rest cursor next effects effect head found steps mem =>
      have asked := forward (.cursor id a) (by simp [head])
      cases steps.yields mem with
      | report | discardAll => exact asked
      | _ => rfl
  | channel head => rfl
  | @opened plan rest j head =>
      simpa [Instruction.isForeign] using known (.openCursor plan) (by simp [head])
  | notify head => rfl
  | outer inner piped =>
      cases i with
      | cursor id a => cases a <;> first | rfl | exact inner
      | reportFailure id receiver => cases inner
      | _ => rfl
  | called calls =>
      have call := calls.1
      cases i with
      | cursor id a =>
          cases a with
          | discardAll receiver | pullAll receiver =>
              simpa [Instruction.isCall, Cursor.Action.isPublic, Instruction.isForward] using call
          | _ => rfl
      | reportFailure id receiver => cases call
      | _ => rfl

end Holders

/-! ## Promises of the discard path -/

/-- Where a promise of the discard path stands. -/
inductive Reporting (o p : PromiseId) (runError : Option Failure) (h : List Move)
    (s : Situation) : Prop
  | cancelled {r : Reply} (cancels : .carried (.cancelPromise p) r ∈ h)
      (promise : s.engine.loop.settlement? p = some .cancelled)
  /-- its job waits for the outcome, or is queued -/
  | pending (created : p < s.engine.loop.promises.size)
      (only : s.engine.Only p (.target (.report 0 o p)))
      (pending : s.engine.Pending (.report 0 o p) o p) (untasked : Untasked p s)
      (unbegun : .began (.report 0 o p) ∉ h)
  /-- the outcome is none that could be reported -/
  | unfailed (d : Delivery) (outcome : s.engine.loop.settlement? o = some (.value d))
  | settled {f : Failure} {st : Settlement Delivery Failure} {earlier : List Move}
      (outcome : s.engine.loop.settlement? o = some (.failure f))
      (promise : s.engine.loop.settlement? p = some st)
      (disclosed : Disclosed o p runError f h st earlier)

/-- What holds of the discard path of the one cursor, in a history and where it led. -/
structure Disclosing (o : PromiseId) (runError : Option Failure) (h : List Move) (s : Situation)
    (cursor : Cursor) : Prop where
  paired : Paired o h s cursor
  noted : Noted runError h cursor
  forward : ∀ i ∈ s.agenda, i.isForward = false
  /-- jobs that began were for promises that were created -/
  began : ∀ k p, .began k ∈ h → k.target? = some p → p < s.engine.loop.promises.size
  reporting : ∀ p ∈ reportPromises 0 h, Reporting o p runError h s

section Reports

variable {c : Conduct} {o p : PromiseId} {h : List Move} {s s' : Situation} {m : Move}
  {cursor next : Cursor} {runError : Option Failure}

theorem reportPromises_cons (id : CursorId) (m : Move) (h : List Move) :
    reportPromises id (m :: h) = m.reportPromises id ++ reportPromises id h :=
  List.flatMap_cons

theorem Disclosed.cons {f : Failure} {st : Settlement Delivery Failure} {earlier : List Move}
    (disclosed : Disclosed o p runError f h st earlier) :
    Disclosed o p runError f (m :: h) st earlier := by
  obtain ⟨⟨later, rfl⟩, first, withheld, shown⟩ := disclosed
  exact ⟨⟨m :: later, rfl⟩, first, withheld, shown⟩

theorem Reserved.uncancelled (reserved : Reserved 0 o h s) :
    s.engine.loop.settlement? o ≠ some .cancelled := fun cancelled =>
  cancelled_not_mem_verdicts (List.mem_of_getLast? (reserved.deciding.getLast? cancelled))

/-- The job of a promise of the discard path settles it as who was told has it. -/
theorem Paired.reports (paired : Paired o h s cursor) (noted : Noted runError h cursor)
    (step : Step s (.began (.report 0 o p)) s') (created : p < s.engine.loop.promises.size)
    (unsettled : s.engine.loop.settlement? p = none)
    (unbegun : .began (.report 0 o p) ∉ h) :
    Reporting o p runError (.began (.report 0 o p) :: h) s' := by
  have onward := step.onward paired.orderly.steady
  have found : s.engine.cursors[0]? = some cursor := by simp [paired.attached.cursors]
  have idle : s.agenda = [] := by cases step; rfl
  obtain ⟨outcome, st, houtcome, reports, promise⟩ :=
    step.settles_report paired.orderly.sound created unsettled found
  cases reports with
  | value d => exact .unfailed d (onward.settled houtcome)
  | cancelled => exact absurd houtcome paired.reserved.uncancelled
  | @failure f c found' =>
      obtain rfl : cursor = c := Option.some.inj (found.symm.trans found')
      obtain ⟨withheld, shown⟩ := paired.unreported noted idle houtcome
      refine .settled (onward.settled houtcome) promise
        ⟨⟨[], rfl⟩, unbegun, ⟨fun nothing => ?_, fun told => by rw [withheld told]⟩,
          fun untold => by rw [shown untold]⟩
      refine Classical.byContradiction fun untold => ?_
      rw [shown untold] at nothing
      cases nothing

theorem Reporting.step (reporting : Reporting o p runError h s) (paired : Paired o h s cursor)
    (noted : Noted runError h cursor) (step : Step s m s') (admits : Admits h m) :
    Reporting o p runError (m :: h) s' := by
  have orderly := paired.orderly
  have onward := step.onward orderly.steady
  cases reporting with
  | cancelled cancels promise =>
      exact .cancelled (List.mem_cons_of_mem _ cancels) (onward.settled promise)
  | unfailed d outcome => exact .unfailed d (onward.settled outcome)
  | settled outcome promise disclosed =>
      exact .settled (onward.settled outcome) (onward.settled promise) disclosed.cons
  | pending created only pending untasked unbegun =>
      have indirect : ∀ st r, m ≠ .carried (.settle p st) r := by
        rintro st r rfl
        obtain ⟨rest, head⟩ := step.head_of_carried
        obtain ⟨id, plays⟩ := orderly.settles p st (by simp [head])
        cases only _ plays
      by_cases begins : m = .began (.report 0 o p)
      · subst begins
        exact paired.reports noted step created pending.unsettled unbegun
      rcases step.pending orderly.steady orderly.sound rfl only created indirect pending with
        began | ⟨cancelled, cancels⟩ | pending'
      · exact absurd began begins
      · cases cancels with
        | called r => exact .cancelled (List.mem_cons_self ..) cancelled
        | awaited r awaits => exact absurd awaits untasked.unawaited
        | await t r =>
            obtain ⟨rest, head⟩ := step.head_of_carried
            exact absurd rfl (untasked.untasked (.await t p) (by simp [head]))
      · refine .pending (Nat.lt_of_lt_of_le created onward.size_le)
          ((step.recalls orderly.steady).only created only) pending'
          (untasked.step step admits created only pending.unsettled) fun mem => ?_
        rcases List.mem_cons.1 mem with began | mem
        · exact begins began.symm
        · exact unbegun mem

/-- A promise of the discard path waits for the outcome from the start. -/
theorem Disclosing.reports (disclosing : Disclosing o runError h s cursor) (step : Step s m s')
    (hp : p ∈ m.reportPromises 0) : Reporting o p runError (m :: h) s' := by
  obtain ⟨paired, noted, forward, began, reporting⟩ := disclosing
  have found : s.engine.cursors[0]? = some cursor := by simp [paired.attached.cursors]
  have created := paired.orderly.bounded _ _ paired.reserved.plays
  unfold Move.reportPromises at hp
  split at hp
  case h_2 => cases hp
  rename_i i receiver r
  split at hp
  case isFalse => cases hp
  rename_i same
  subst same
  obtain ⟨rest, head⟩ := step.head_of_carried
  obtain ⟨move, rfl⟩ := step.exec_of_head head rfl
  obtain rfl := (Move.carried.inj move).2
  have direct : receiver.isTask = false := forward (.reportFailure 0 receiver) (by simp [head])
  have hexec : s.engine.exec (.reportFailure 0 receiver) = ({ s.engine with
      loop := s.engine.loop.create.watch o (.report 0 o s.engine.loop.nextId) },
      .go (Engine.hand receiver s.engine.loop.nextId)) := by
    simp [Engine.exec, Engine.reportFailure, found, paired.attached.outcome_eq]
  rw [hexec] at hp ⊢
  obtain rfl := eq_of_mem_offered hp
  have orderly := paired.orderly
  have created' : o < s.engine.loop.create.promises.size := by
    rw [Loop.create, Array.size_push]
    exact Nat.lt_succ_of_lt created
  refine .pending ?_ (Engine.only_of_loop orderly.bounded (Nat.le_refl _) fun j held target => ?_)
    ⟨?_, ?_⟩ ⟨fun i mem tasked => ?_, fun awaits => ?_⟩ fun mem => ?_
  · simp [Loop.size_watch, Loop.create, Loop.nextId]
  · -- the promise is made by this move, so nothing that was there before refers to it
    rcases held.of_watch with held | rfl
    · exact absurd (orderly.bounded _ _ (.target (held.of_push rfl) target)) (Nat.lt_irrefl _)
    · rfl
  · rw [Loop.settlement?_watch, Loop.settlement?_create]
    simp [Loop.settlement?, Loop.nextId]
  · exact Loop.watches_watch created' _
  · rcases List.mem_append.1 mem with mem | mem
    · cases receiver with
      | nobody => cases mem
      | caller name =>
          obtain rfl := List.mem_singleton.1 mem
          cases tasked
      | task t => cases direct
    · have old := orderly.offered i (by simp [head, mem]) _ (Instruction.offered?_of_tasked? tasked)
      exact Nat.lt_irrefl _ old
  · exact Nat.lt_irrefl _ (orderly.awaited _ awaits)
  · rcases List.mem_cons.1 mem with began' | mem
    · cases began'
    · exact Nat.lt_irrefl _ (began _ _ mem rfl)

theorem Disclosing.step (disclosing : Disclosing o runError h s cursor) (sole : c.Sole)
    (holds : c.Holds) (step : Step s m s') (permitted : c.Permits h m) :
    ∃ next, Disclosing o runError (m :: h) s' next := by
  have paired := disclosing.paired
  have admits := permitted.admits holds
  have onward := step.onward paired.orderly.steady
  obtain ⟨next, paired'⟩ := paired.step sole holds step permitted
  refine ⟨next, paired', disclosing.noted.step paired.attached step permitted
    paired'.attached.cursors, forward_step step permitted paired.attached.known disclosing.forward,
    fun k p mem target => Nat.lt_of_lt_of_le ?_ onward.size_le, fun p hp => ?_⟩
  · rcases List.mem_cons.1 mem with rfl | mem
    · exact paired.orderly.bounded _ _ (.target (.ready step.mem_ready) target)
    · exact disclosing.began k p mem target
  · rw [reportPromises_cons] at hp
    rcases List.mem_append.1 hp with hp | hp
    · exact disclosing.reports step hp
    · exact (disclosing.reporting p hp).step paired disclosing.noted step admits

theorem Engine.Secluded.disclosing {e : Engine} {release : ReleaseId} (secluded : e.Secluded o)
    (cursors : e.cursors = #[.fresh runError release o]) :
    ∃ cursor, Disclosing o runError [] ⟨e, []⟩ cursor := by
  obtain ⟨cursor, paired⟩ := secluded.paired
  obtain rfl : cursor = .fresh runError release o := by
    simpa using paired.attached.cursors.symm.trans cursors
  exact ⟨_, paired, ⟨rfl, rfl, rfl⟩, by simp, by simp, by simp [reportPromises]⟩

theorem Run.disclosing {e : Engine} (secluded : e.Secluded o) (sole : c.Sole)
    (holds : c.Holds) (run : Run c ⟨e, []⟩ h s) :
    ∃ runError cursor, Disclosing o runError h s cursor := by
  obtain ⟨runError, release, cursors⟩ := secluded.cursors
  refine ⟨runError, run.invariant (I := fun h s => ∃ cursor, Disclosing o runError h s cursor)
    (secluded.disclosing cursors) ?_⟩
  exact fun ⟨_, disclosing⟩ step permitted => disclosing.step sole holds step permitted

/-- In a history and where it led, a promise of the discard path of a cursor whose outcome is
a failure. -/
structure Disclosure (o p : PromiseId) (runError : Option Failure) (f : Failure) (h : List Move)
    (s : Situation) : Prop where
  /-- only who cancels it has it cancelled -/
  cancelled : s.engine.loop.settlement? p = some .cancelled →
    ∃ r, .carried (.cancelPromise p) r ∈ h
  /-- it is settled otherwise only as who was told by then has it -/
  settled : ∀ st, s.engine.loop.settlement? p = some st → st ≠ .cancelled →
    ∃ earlier, Disclosed o p runError f h st earlier
  /-- it is settled once the loop is idle -/
  resolves : s.agenda = [] → s.engine.loop.ready = [] → s.engine.loop.isDone p = true

/-- The discard path withholds the failure of an outcome exactly if that failure was told to
somebody else. -/
theorem Run.disclosed {e : Engine} (secluded : e.Secluded o) (sole : c.Sole)
    (holds : c.Holds) (run : Run c ⟨e, []⟩ h s) (found : s.engine.cursors[0]? = some cursor)
    {f : Failure} (failed : s.engine.loop.settlement? o = some (.failure f))
    (handed : p ∈ reportPromises 0 h) : Disclosure o p cursor.runError f h s := by
  obtain ⟨runError, cursor', disclosing⟩ := run.disclosing secluded sole holds
  obtain rfl : cursor' = cursor := by
    have cursors := disclosing.paired.attached.cursors
    simpa [cursors] using found
  obtain rfl := disclosing.noted.runError
  cases disclosing.reporting p handed with
  | cancelled cancels promise =>
      refine ⟨fun _ => ⟨_, cancels⟩, fun st settled other => ?_, fun _ _ => ?_⟩
      · rw [promise] at settled
        exact absurd (Option.some.inj settled).symm other
      · simp [Loop.isDone, promise]
  | pending created only pending untasked unbegun =>
      have unsettled := pending.unsettled
      refine ⟨fun cancelled => ?_, fun st settled => ?_, fun _ quiet => ?_⟩
      · simp [unsettled] at cancelled
      · simp [unsettled] at settled
      · rcases pending.waits with ⟨watchers, waiting, _⟩ | mem
        · simp [Loop.settlement?_of_unsettled waiting] at failed
        · simp [quiet] at mem
  | unfailed d outcome => simp [outcome] at failed
  | @settled g st earlier outcome promise disclosed =>
      obtain rfl : g = f := by simpa using outcome.symm.trans failed
      refine ⟨fun cancelled => ?_, fun st' settled _ => ⟨earlier, ?_⟩, fun _ _ => ?_⟩
      · obtain rfl : st = .cancelled := by simpa using promise.symm.trans cancelled
        by_cases told : Told 0 cursor'.runError g earlier
        · cases disclosed.withheld.2 told
        · cases disclosed.disclosed told
      · obtain rfl : st = st' := by simpa using promise.symm.trans settled
        exact disclosed
      · simp [Loop.isDone, promise]

end Reports

/-- The failure is asked for twice, and one of the promises cancelled; the stream fails; after
that the summary is asked for, and the failure once more. -/
def lateSummary : List Act :=
  [.calls [.cursor 0 (.discardAll (.caller "kept")), .cursor 0 (.discardAll (.caller "dropped")),
      .cancelPromise 2, .stream (.fail brokenLink)],
    .job, .job, .job,
    .calls [.cursor 0 (.summary .nobody), .cursor 0 (.discardAll (.caller "late"))], .job, .job]

/-- Where asking for the summary late leads, with its history. -/
def lateSummaryPoint : List Move × Situation := Situation.acts 24 lateSummary ([], ⟨soleEngine, []⟩)

/-- Whether a promise was kept with a failure as its value. -/
def Engine.keepsFailure (e : Engine) (p : PromiseId) : Bool :=
  match e.loop.settlement? p with
  | some (.value (.failure _)) => true
  | _ => false

/-- The failure that a promise was settled with. -/
def Engine.failure? (e : Engine) (p : PromiseId) : Option Failure :=
  match e.loop.settlement? p with
  | some (.failure f) => some f
  | _ => none

theorem Engine.failed_of_failure? {e : Engine} {p : PromiseId}
    (failure : (e.failure? p).isSome = true) :
    ∃ f, e.loop.settlement? p = some (.failure f) := by
  unfold failure? at failure
  split at failure
  · exact ⟨_, by assumption⟩
  · cases failure

theorem disclosed_lateSummary :
    (∃ f, Disclosure 0 1 none f lateSummaryPoint.1 lateSummaryPoint.2 ∧
      Disclosure 0 3 none f lateSummaryPoint.1 lateSummaryPoint.2) ∧
      [1, 2, 3].map lateSummaryPoint.2.engine.keepsFailure = [true, false, false] ∧
      [1, 2, 3].map lateSummaryPoint.2.engine.loop.isDone = [true, true, true] := by
  have run : Run .discreet ⟨soleEngine, []⟩ lateSummaryPoint.1 lateSummaryPoint.2 :=
    .of_acts rfl (by decide +kernel) (by decide +kernel)
  have handed : reportPromises 0 lateSummaryPoint.1 = [3, 2, 1] := by decide +kernel
  have noError : lateSummaryPoint.2.engine.cursors[0]?.map Cursor.runError = some none := by
    decide +kernel
  obtain ⟨cursor, found, runError⟩ := Option.map_eq_some_iff.1 noError
  have failure : (lateSummaryPoint.2.engine.failure? 0).isSome = true := by decide +kernel
  obtain ⟨f, failed⟩ := Engine.failed_of_failure? failure
  have disclosed : ∀ p ∈ [3, 2, 1],
      Disclosure 0 p none f lateSummaryPoint.1 lateSummaryPoint.2 := by
    intro p hp
    have disclosure := run.disclosed secluded_soleEngine Conduct.discreet_sole
      Conduct.discreet_holds found failed (handed ▸ hp)
    rwa [runError] at disclosure
  exact ⟨⟨f, disclosed 1 (by simp), disclosed 3 (by simp)⟩, by decide +kernel, by decide +kernel⟩

end QueryStream
