/-
  Proofs/FailedStart/Passing.lean --- the failure to start, passed on.

  A cursor that takes its first consumer attaches it and at once has its stream fail.  The
  stream tells its owner, lets its consumers go and tells the cursor, which settles its outcome;
  all of that in a bounded number of moves with which nobody outside can interfere but the owner,
  while it is told (`Attempt.step`).  After that the stream ignores whatever is asked of it
  (`Spent.step`).
-/
import Mathlib.Algebra.GroupWithZero.Nat
import QueryStream.Proofs.FailedStart.Reading
import QueryStream.Proofs.FailedStart.Unopened

set_option autoImplicit false

namespace QueryStream

/-! ## The failure is passed on -/

namespace Stream

/-- A stream that was given a record consumer, and of which nothing else was asked. -/
def attendedBy (rc : RecordConsumer) : Stream := { waiting with recordConsumer := some rc }

/-- A stream that failed before anything was asked of it. -/
def failing (rc : RecordConsumer) : Stream := { attendedBy rc with phase := .failed }

/-- The same, once its consumers were let go. -/
def spent : Stream := { fresh with phase := .failed }

end Stream

namespace Instruction

/-- Whether an instruction is part of what an owner does that is told of a failure. -/
def isChore : Instruction → Bool
  | .release _ .nobody => true
  | .startRelease _ .nobody => true
  | .hand .nobody _ => true
  | .ask (.log _) => true
  | .ask .release => true
  | .ask (.terminate _) => true
  | _ => false

/-- How many moves it takes at most. -/
def toll : Instruction → Nat
  | .release _ _ => 5
  | .startRelease _ _ => 2
  | _ => 1

end Instruction

/-- How many moves all of it takes at most. -/
def toll (chores : List Instruction) : Nat := (chores.map Instruction.toll).sum

/-- From when a cursor takes its first consumer until its outcome is settled: in how many moves
that is at most, with the stream, what the cursor resolved on, what the owner was told, and what
is on the agenda in front of the rest. -/
inductive Failing (f : Failure) (o : PromiseId) (rc : RecordConsumer) :
    Nat → Stream → List (Settlement Delivery Failure) → List Ending → List Instruction → Prop
  | line (line : Log.Line) : Failing f o rc 17 .waiting [] []
      [.ask (.log line), .channel (.installRecord rc), .cursor 0 .injectError]
  | attach : Failing f o rc 16 .waiting [] [] [.channel (.installRecord rc), .cursor 0 .injectError]
  | attaching : Failing f o rc 15 .waiting [] []
      [.stream (.installRecord rc), .cursor 0 .injectError]
  | inject : Failing f o rc 14 (.attendedBy rc) [] [] [.cursor 0 .injectError]
  | pass : Failing f o rc 13 (.attendedBy rc) [] [] [.channel (.fail f)]
  | fail : Failing f o rc 12 (.attendedBy rc) [] [] [.stream (.fail f)]
  | failed (line : Log.Line) : Failing f o rc 11 (.failing rc) [] []
      [.ask (.log line), .ownerFailed f, .stream (.concludeFailure f)]
  | tellOwner : Failing f o rc 10 (.failing rc) [] [] [.ownerFailed f, .stream (.concludeFailure f)]
  | owner (chores : List Instruction) (all : ∀ i ∈ chores, i.isChore = true) :
      Failing f o rc (toll chores + 4) (.failing rc) [] [.failure f]
        (chores ++ [.stream (.concludeFailure f)])
  | tellCursor (summary : Summary) : Failing f o rc 3 .spent [] [.failure f]
      [.tellSummary (.cursor 0) (some summary) (some f), .tellEnd rc (some f)]
  | notify (summary : Summary) : Failing f o rc 2 .spent [] [.failure f]
      [.cursor 0 (.notify (some summary) (some f)), .tellEnd rc (some f)]
  | settle : Failing f o rc 1 .spent [.failure f] [.failure f]
      [.settle o (.failure f), .tellEnd rc (some f)]
  | settled : Failing f o rc 0 .spent [.failure f] [.failure f] [.tellEnd rc (some f)]

/-- The cursor took its first consumer and has its outcome settled next. -/
structure Fails (f : Failure) (o : PromiseId) (rc : RecordConsumer) (rest : List Instruction)
    (iterations : Array Iteration) (left : Nat) (h : List Move) (s : Situation)
    (cursor : Cursor) : Prop extends Muted o h s cursor where
  failed : cursor.runError = some f
  taken : cursor.status = .ofConsumer rc
  untold : Untold rc iterations s.engine
  stage : ∃ front, Failing f o rc left s.engine.stream (verdicts 0 h) (notices h) front ∧
    s.agenda = front ++ rest

/-- The owner is being told of the failure: what it has done first comes before the stream goes
on, and nothing that is thrown in it gets past it. -/
structure TellingOwner (f : Failure) (o : PromiseId) (rc : RecordConsumer) (rest : List Instruction)
    (iterations : Array Iteration) (before : List Instruction) (h : List Move) (s : Situation)
    (cursor : Cursor) : Prop extends Muted o h s cursor where
  failed : cursor.runError = some f
  taken : cursor.status = .ofConsumer rc
  untold : Untold rc iterations s.engine
  stream : s.engine.stream = .failing rc
  silent : verdicts 0 h = []
  told : notices h = [.failure f]
  agenda : s.agenda = before ++ .stream (.concludeFailure f) :: rest
  shield : Shield (fun i => i.isErrand = true) before
  bare : ∀ i ∈ before, i.isBare = true

/-- Whether a move is one with which an owner that is told of the end does more than return. -/
def Move.IsOwners (m : Move) : Prop :=
  ∃ a r, m = .answered a r ∧ a.isErrand = true ∧ r ≠ .go []

section Passing

variable {c : Conduct} {f : Failure} {o : PromiseId} {h : List Move} {s s' : Situation} {m : Move}
  {cursor next : Cursor} {rest : List Instruction} {rc : RecordConsumer}
  {iterations : Array Iteration} {left : Nat} {e : Engine} {i : Instruction}

theorem Instruction.plain_of_isChore (chore : i.isChore = true) :
    i.isPlain = true ∧ i.isErrand = true ∧ i.isBare = true := by
  unfold isChore at chore
  split at chore <;> first | exact ⟨rfl, rfl, rfl⟩ | cases chore

/-- What an owner does throws nothing of its own accord. -/
theorem shield_of_chores {chores : List Instruction} (all : ∀ i ∈ chores, i.isChore = true) :
    Shield (fun i => i.isErrand = true) chores :=
  ⟨fun i mem => (Instruction.plain_of_isChore (all i mem)).1,
    sealed_of_forall fun i mem => (Instruction.plain_of_isChore (all i mem)).2.1⟩

theorem toll_append (first second : List Instruction) :
    toll (first ++ second) = toll first + toll second := by
  simp [toll]

/-- What an owner does leads to less of it, and changes neither the stream nor an iteration. -/
theorem Engine.exec_chore (e : Engine) (chore : i.isChore = true) (own : i.isAsk = false) :
    ∃ next, (e.exec i).2 = .go next ∧ (∀ j ∈ next, j.isChore = true) ∧ toll next < i.toll ∧
      (e.exec i).1.stream = e.stream ∧ (e.exec i).1.iterations = e.iterations := by
  cases i with
  | release r receiver =>
      cases receiver with
      | nobody =>
          obtain ⟨e', next, exec, invokes⟩ := e.exec_release r .nobody
          rw [exec]
          cases invokes <;>
            exact ⟨_, rfl, by simp [Instruction.isChore],
              by simp [QueryStream.toll, Instruction.toll], rfl, rfl⟩
      | _ => cases chore
  | startRelease r receiver =>
      cases receiver with
      | nobody =>
          exact ⟨_, rfl, by simp [Instruction.isChore],
            by simp [QueryStream.toll, Instruction.toll], rfl, rfl⟩
      | _ => cases chore
  | hand receiver p =>
      cases receiver with
      | nobody => exact ⟨[], rfl, by simp, by simp [QueryStream.toll, Instruction.toll], rfl, rfl⟩
      | _ => cases chore
  | ask a => cases own
  | _ => cases chore

theorem Engine.exec_ownerFailed (e : Engine) (f : Failure) :
    ∃ next, e.exec (.ownerFailed f) = (e, .go next) ∧ (∀ j ∈ next, j.isChore = true) ∧
      toll next + 4 < 10 := by
  simp only [exec, ownerFailed]
  split <;>
    exact ⟨_, rfl, by simp [Instruction.isChore], by simp [QueryStream.toll, Instruction.toll]⟩

/-- A stream that failed tells the cursor and the record consumer. -/
theorem Engine.exec_conclude_failing (e : Engine) (f : Failure) (stream : e.stream = .failing rc) :
    ∃ summary, e.exec (.stream (.concludeFailure f))
      = ({ e with stream := .spent },
        .go [.tellSummary (.cursor 0) (some summary) (some f), .tellEnd rc (some f)]) := by
  simp only [exec, stepStream, stream]
  exact ⟨_, rfl⟩

theorem Fails.goOn (fails : Fails f o rc rest iterations left h s cursor) (unserved : c.Unserved)
    (step : Step s m s') (permitted : c.Permits h m) {fewer : Nat} {st : Stream}
    {vs : List (Settlement Delivery Failure)} {ns : List Ending} {front : List Instruction}
    (stage : Failing f o rc fewer st vs ns front) (less : fewer < left)
    (agenda : s'.agenda = front ++ rest) (stream : s'.engine.stream = st)
    (same : s'.engine.iterations = s.engine.iterations)
    (verdict : (m.verdict? 0).toList ++ verdicts 0 h = vs)
    (notice : m.notice?.toList ++ notices h = ns) (unwritten : m.isWrite = false) :
    ∃ fewer next, fewer < left ∧ Fails f o rc rest iterations fewer (m :: h) s' next := by
  obtain ⟨next, muted⟩ := fails.toMuted.step unserved step permitted unwritten
  refine ⟨fewer, next, less, { muted with
    failed := ?_
    taken := ?_
    untold := ?_
    stage := ⟨front, ?_, agenda⟩ }⟩
  · rcases fails.attached.cursor_or_eq step permitted muted.attached.cursors with
      ⟨a, rest, effects, taken⟩ | rfl
    · exact taken.steps.runError.trans fails.failed
    · exact fails.failed
  · rcases fails.attached.status_step step permitted muted.attached.cursors with
      status | ⟨consumer, rest, free, -⟩
    · exact status.trans fails.taken
    · rw [fails.taken] at free
      exact absurd free (ConsumerStatus.ofConsumer_ne rc)
  · simpa only [Untold, same] using fails.untold
  · rw [verdicts_cons, notices_cons, stream, verdict, notice]
    exact stage

/-- An owner that is told of a failure does what it does, and then the stream goes on, unless the
owner does more. -/
theorem Fails.owner_step {chores : List Instruction}
    (fails : Fails f o rc rest iterations (toll (i :: chores) + 4) h s cursor)
    (unserved : c.Unserved) (step : Step s m s') (permitted : c.Permits h m)
    (all : ∀ j ∈ i :: chores, j.isChore = true)
    (agenda : s.agenda = i :: chores ++ [.stream (.concludeFailure f)] ++ rest)
    (stream : s.engine.stream = .failing rc) (verdicts_eq : verdicts 0 h = [])
    (notices_eq : notices h = [.failure f]) :
    (m.outside = [] ∧ ∃ fewer next, fewer < toll (i :: chores) + 4 ∧
      Fails f o rc rest iterations fewer (m :: h) s' next) ∨ m.IsOwners := by
  have chore := all i (List.mem_cons_self ..)
  have others : ∀ j ∈ chores, j.isChore = true := fun j mem => all j (List.mem_cons_of_mem _ mem)
  cases own : i.isAsk with
  | false =>
      obtain ⟨first, reply, among, few, same, iterations⟩ := s.engine.exec_chore chore own
      obtain ⟨rfl, rfl⟩ := step.exec_of_head agenda own
      have all' : ∀ j ∈ first ++ chores, j.isChore = true := fun j mem =>
        (List.mem_append.1 mem).elim (among j) (others j)
      have less : toll (first ++ chores) + 4 < toll (i :: chores) + 4 := by
        rw [toll_append]
        simp only [toll, List.map_cons, List.sum_cons] at few ⊢
        omega
      exact .inl ⟨rfl, fails.goOn unserved step permitted (.owner _ all') less (by simp [reply])
        (same.trans stream) iterations (by cases i <;> first | exact verdicts_eq | cases chore)
        (by cases i <;> first | exact notices_eq | cases chore) rfl⟩
  | true =>
      cases i with
      | ask a =>
          have answered : (m = .answered a (.go []) ∧
              s' = ⟨s.engine, chores ++ [.stream (.concludeFailure f)] ++ rest⟩) ∨
              m.IsOwners := by
            by_cases notice : a.isNotice = true
            · exact .inl (step.of_notice permitted agenda notice)
            · obtain ⟨e, todo⟩ := s
              obtain rfl : todo = _ := agenda
              cases step with
              | carry own => cases own
              | answer r =>
                  by_cases returns : r = .go []
                  · subst returns
                    exact .inl ⟨rfl, rfl⟩
                  · have errand : a.isErrand = true := by
                      cases a <;> first | exact absurd rfl notice | rfl | cases chore
                    exact .inr ⟨a, r, rfl, errand, returns⟩
          rcases answered with ⟨rfl, rfl⟩ | owners
          · have less : toll chores + 4 < toll (.ask a :: chores) + 4 := by
              simp [toll, Instruction.toll]
            exact .inl ⟨rfl, fails.goOn unserved step permitted (.owner _ others) less rfl stream
              rfl verdicts_eq notices_eq (by cases a <;> first | rfl | cases chore)⟩
          · exact .inr owners
      | _ => cases own

/-- Every move passes the failure on: to the stream, to its owner, and to the cursor; unless the
owner does more than return. -/
theorem Fails.step (fails : Fails f o rc rest iterations left h s cursor) (unserved : c.Unserved)
    (step : Step s m s') (permitted : c.Permits h m) (unsettled : 0 < left) :
    (m.outside = [] ∧ ∃ fewer next, fewer < left ∧
      Fails f o rc rest iterations fewer (m :: h) s' next) ∨
    m.IsOwners ∧ ∃ before, TellingOwner f o rc rest iterations before h s cursor := by
  obtain ⟨front, stage, agenda⟩ := fails.stage
  have own := fails.attached.hasStream
  have goOn := @fails.goOn _ _ _ _ _ _ _ _ _ _ _ _ unserved step permitted
  -- The stages are about these three, which are named so that the cases fix them.
  generalize hstream : s.engine.stream = st, hverdicts : verdicts 0 h = vs,
    hnotices : notices h = ns at stage
  cases stage with
  | line line =>
      obtain ⟨rfl, rfl⟩ := step.of_notice permitted agenda rfl
      exact .inl ⟨rfl, goOn .attach (by decide) rfl hstream rfl hverdicts hnotices rfl⟩
  | attach =>
      obtain ⟨rfl, rfl⟩ := step.exec_of_head agenda rfl
      rw [s.engine.exec_channel own] at goOn ⊢
      exact .inl ⟨rfl, goOn .attaching (by decide) rfl hstream rfl hverdicts hnotices rfl⟩
  | attaching =>
      have hexec := s.engine.exec_installRecord rc (by rw [hstream]; rfl)
      rw [hstream] at hexec
      obtain ⟨rfl, rfl⟩ := step.exec_of_head agenda rfl
      rw [hexec] at goOn ⊢
      exact .inl ⟨rfl, goOn .inject (by decide) rfl rfl rfl hverdicts hnotices rfl⟩
  | inject =>
      have accepted := cursor.step_injectError (s.engine.isResolved cursor)
      rw [fails.failed] at accepted
      obtain ⟨rfl, rfl⟩ := fails.attached.accepted step agenda accepted
      exact .inl ⟨rfl, goOn .pass (by decide) rfl hstream rfl hverdicts hnotices rfl⟩
  | pass =>
      obtain ⟨rfl, rfl⟩ := step.exec_of_head agenda rfl
      rw [s.engine.exec_channel own] at goOn ⊢
      exact .inl ⟨rfl, goOn .fail (by decide) rfl hstream rfl hverdicts hnotices rfl⟩
  | fail =>
      obtain ⟨line, hexec⟩ : ∃ line, s.engine.exec (.stream (.fail f))
          = ({ s.engine with stream := .failing rc },
            .go [.ask (.log line), .ownerFailed f, .stream (.concludeFailure f)]) := by
        simp only [Engine.exec, Engine.stepStream, hstream]
        exact ⟨_, rfl⟩
      obtain ⟨rfl, rfl⟩ := step.exec_of_head agenda rfl
      rw [hexec] at goOn ⊢
      exact .inl ⟨rfl, goOn (.failed line) (by decide) rfl rfl rfl hverdicts hnotices rfl⟩
  | failed line =>
      obtain ⟨rfl, rfl⟩ := step.of_notice permitted agenda rfl
      exact .inl ⟨rfl, goOn .tellOwner (by decide) rfl hstream rfl hverdicts hnotices rfl⟩
  | tellOwner =>
      obtain ⟨chores, hexec, all, few⟩ := s.engine.exec_ownerFailed f
      obtain ⟨rfl, rfl⟩ := step.exec_of_head agenda rfl
      rw [hexec] at goOn ⊢
      refine .inl ⟨rfl, goOn (.owner chores all) few (by simp) hstream rfl hverdicts ?_ rfl⟩
      rw [hnotices]
      rfl
  | owner chores all =>
      cases chores with
      | nil =>
          obtain ⟨summary, hexec⟩ := s.engine.exec_conclude_failing f hstream
          obtain ⟨rfl, rfl⟩ := step.exec_of_head agenda rfl
          rw [hexec] at goOn ⊢
          exact .inl ⟨rfl,
            goOn (.tellCursor summary) (by decide) rfl rfl rfl hverdicts hnotices rfl⟩
      | cons i chores =>
          refine (fails.owner_step unserved step permitted all agenda hstream hverdicts
            hnotices).imp_right fun owners => ⟨owners, i :: chores, { fails with
              stream := hstream
              silent := hverdicts
              told := hnotices
              agenda := by simpa using agenda
              shield := shield_of_chores all
              bare := fun j mem => (Instruction.plain_of_isChore (all j mem)).2.2 }⟩
  | tellCursor summary =>
      obtain ⟨rfl, rfl⟩ := step.exec_of_head agenda rfl
      exact .inl ⟨rfl, goOn (.notify summary) (by decide) rfl hstream rfl hverdicts hnotices rfl⟩
  | notify summary =>
      obtain ⟨rfl, rfl⟩ := fails.attached.accepted step agenda (by rfl)
      refine .inl ⟨rfl, goOn .settle (by decide) ?_ hstream rfl ?_ hnotices rfl⟩
      · simp [Instruction.ofCursor, fails.attached.outcome_eq]
      · rw [hverdicts]
        rfl
  | settle =>
      obtain ⟨rfl, rfl⟩ := step.exec_of_head agenda rfl
      exact .inl ⟨rfl, goOn .settled (by decide) rfl hstream rfl hverdicts hnotices rfl⟩
  | settled => omega

/-! ## An operation from its beginning -/

/-- What stands first of an operation that is to have a cursor take its first consumer, and in
how many moves the outcome is settled then at most. -/
inductive Beginning : RecordConsumer → Nat → List Instruction → Prop
  | install (rc : RecordConsumer) : Beginning rc 18 [.cursor 0 (.install rc)]
  | line (line : Log.Line) : Beginning .discard 19 [.ask (.log line), .cursor 0 (.install .discard)]
  | summary (receiver : Receiver) : Beginning .discard 20 [.cursor 0 (.summary receiver)]
  | discardAll (receiver : Receiver) : Beginning .discard 20 [.cursor 0 (.discardAll receiver)]
  | pullAll (receiver : Receiver) : Beginning .discard 21 [.cursor 0 (.pullAll receiver)]

/-- Such an operation is under way: the consumer is to be taken, or the failure is passed on
since. -/
inductive Attempt (f : Failure) (o : PromiseId) (rc : RecordConsumer) (rest : List Instruction)
    (iterations : Array Iteration) (left : Nat) (h : List Move) (s : Situation) : Prop
  | beginning {cursor : Cursor} {front : List Instruction} (behind : List Instruction)
      (untouched : Untouched f o h s cursor) (stage : Beginning rc left front)
      (agenda : s.agenda = front ++ (behind ++ rest)) (bare : ∀ i ∈ behind, i.isBare = true)
      (same : s.engine.iterations = iterations) : Attempt f o rc rest iterations left h s
  | failing {cursor : Cursor} (behind : List Instruction)
      (fails : Fails f o rc (behind ++ rest) iterations left h s cursor)
      (bare : ∀ i ∈ behind, i.isBare = true) : Attempt f o rc rest iterations left h s

/-- With the outcome open and the result not consumed, the stream is brought to its end. -/
theorem Untouched.stage (untouched : Untouched f o h s cursor) :
    ∃ line, cursor.stage (s.engine.isResolved cursor) =
      [.log line, .andThen (.install .discard), .andThen .cancel, .andThen .markConsumed] := by
  simp only [Cursor.stage, untouched.pending, untouched.unconsumed, Bool.false_or,
    Bool.false_eq_true, if_false]
  exact ⟨_, rfl⟩

/-- An operation goes on until the consumer is taken. -/
theorem Untouched.attempt_step {front : List Instruction} (behind : List Instruction)
    (untouched : Untouched f o h s cursor) (stage : Beginning rc left front)
    (agenda : s.agenda = front ++ (behind ++ rest)) (bare : ∀ i ∈ behind, i.isBare = true)
    (unserved : c.Unserved) (step : Step s m s') (permitted : c.Permits h m) :
    m.outside = [] ∧ ∃ fewer < left, Attempt f o rc rest s.engine.iterations fewer (m :: h) s' := by
  have goOn := fun stream kept verdict notice passes unwritten =>
    untouched.goOn unserved step permitted stream kept verdict notice passes unwritten
  cases stage with
  | install =>
      obtain ⟨rfl, rfl⟩ := untouched.attached.accepted step agenda
        (Cursor.step_install untouched.unconsumed untouched.free)
      obtain ⟨next, muted⟩ := untouched.toMuted.step unserved step permitted rfl
      obtain rfl := by simpa using muted.attached.cursors
      refine ⟨rfl, 17, by decide, .failing behind { muted with
        failed := untouched.failed
        taken := rfl
        untold := untold_self rc _
        stage := ⟨_, ?_, rfl⟩ } bare⟩
      rw [verdicts_cons, notices_cons, untouched.silent, untouched.unheard]
      exact untouched.stream ▸ .line _
  | line line =>
      obtain ⟨rfl, rfl⟩ := step.of_notice permitted agenda rfl
      obtain ⟨next, untouched'⟩ := goOn rfl (fun next cursors => by
        obtain rfl := by simpa using untouched.attached.cursors.symm.trans cursors
        exact ⟨rfl, rfl, rfl⟩) rfl rfl rfl rfl
      exact ⟨rfl, 18, by decide, .beginning behind untouched' (.install .discard) rfl bare rfl⟩
  | summary receiver =>
      obtain ⟨line, stage⟩ := untouched.stage
      obtain ⟨rfl, rfl⟩ := untouched.attached.accepted step agenda (by rfl)
      obtain ⟨next, untouched'⟩ := goOn rfl (fun next cursors => by
        obtain rfl := by simpa using cursors
        exact ⟨rfl, rfl, rfl⟩) (by simp [Move.verdict?, stage]; rfl) rfl rfl rfl
      refine ⟨rfl, 19, by decide, .beginning
        (.cursor 0 .cancel :: .cursor 0 .markConsumed :: .relay 0 receiver :: behind) untouched'
        (.line line) ?_ (by simpa [Instruction.isBare] using bare) rfl⟩
      rw [stage]
      rfl
  | discardAll receiver =>
      obtain ⟨line, stage⟩ := untouched.stage
      obtain ⟨rfl, rfl⟩ := untouched.attached.accepted step agenda (by rfl)
      obtain ⟨next, untouched'⟩ := goOn rfl (fun next cursors => by
        obtain rfl := by simpa using cursors
        exact ⟨rfl, rfl, rfl⟩) (by simp [Move.verdict?, stage]; rfl) rfl rfl rfl
      refine ⟨rfl, 19, by decide, .beginning
        (.cursor 0 .cancel :: .cursor 0 .markConsumed :: .reportFailure 0 receiver :: behind)
        untouched' (.line line) ?_ (by simpa [Instruction.isBare] using bare) rfl⟩
      rw [stage]
      rfl
  | pullAll receiver =>
      have accepted : cursor.step (s.engine.isResolved cursor) (.pullAll receiver)
          = .ok (cursor, [.andThen (.discardAll receiver)]) := by
        simp [Cursor.step, untouched.free, ConsumerStatus.isInstalled]
      obtain ⟨rfl, rfl⟩ := untouched.attached.accepted step agenda accepted
      obtain ⟨next, untouched'⟩ := goOn rfl (fun next cursors => by
        obtain rfl := by simpa using cursors
        exact ⟨rfl, rfl, rfl⟩) rfl rfl rfl rfl
      exact ⟨rfl, 20, by decide, .beginning behind untouched' (.discardAll receiver) rfl bare rfl⟩

/-- An operation that is under way goes on, and nobody has control but the owner, while it is
told. -/
theorem Attempt.step (attempt : Attempt f o rc rest iterations left h s) (unserved : c.Unserved)
    (step : Step s m s') (permitted : c.Permits h m) (unsettled : 0 < left) :
    (m.outside = [] ∧ ∃ fewer < left, Attempt f o rc rest iterations fewer (m :: h) s') ∨
    m.IsOwners ∧ ∃ before behind cursor, (∀ i ∈ behind, i.isBare = true) ∧
      TellingOwner f o rc (behind ++ rest) iterations before h s cursor := by
  cases attempt with
  | beginning behind untouched stage agenda bare same =>
      subst same
      exact .inl (untouched.attempt_step behind stage agenda bare unserved step permitted)
  | failing behind fails bare =>
      rcases fails.step unserved step permitted unsettled with
        ⟨silent, fewer, next, less, fails'⟩ | ⟨owners, before, telling⟩
      · exact .inl ⟨silent, fewer, less, .failing behind fails' bare⟩
      · exact .inr ⟨owners, before, behind, _, bare, telling⟩

/-- An operation that is under way reads no iteration. -/
theorem Attempt.ne_iteration {t : TaskId} {k : IterationId} {a : Iteration.Action}
    {behind : List Instruction} (attempt : Attempt f o rc rest iterations left h s) :
    s.agenda ≠ .iteration k t a :: behind := by
  intro head
  cases attempt with
  | beginning behind untouched stage agenda bare same =>
      rw [head] at agenda
      cases stage <;> cases agenda
  | failing behind fails bare =>
      obtain ⟨front, stage, agenda⟩ := fails.stage
      rw [head] at agenda
      generalize s.engine.stream = st, verdicts 0 h = vs, notices h = ns at stage
      cases stage with
      | owner chores all =>
          cases chores with
          | nil => cases agenda
          | cons i chores =>
              obtain ⟨rfl, -⟩ := List.cons.inj agenda
              cases all _ (List.mem_cons_self ..)
      | _ => cases agenda

/-! ## Afterwards -/

/-- The stream failed and told so. -/
structure FailedWith (f : Failure) (o : PromiseId) (h : List Move) (s : Situation) : Prop where
  outcome : s.engine.loop.settlement? o = some (.failure f)
  phase : s.engine.stream.phase = .failed
  told : notices h = [.failure f]

/-- The stream failed and told so, but for its record consumer, which it tells next. -/
structure Spent (f : Failure) (o : PromiseId) (h : List Move) (s : Situation) (cursor : Cursor) :
    Prop extends Muted o h s cursor, FailedWith f o h s where
  stream : s.engine.stream = .spent
  taken : cursor.status ≠ .notInstalled

theorem Fails.spent (fails : Fails f o rc rest iterations left h s cursor) (settled : left = 0) :
    Spent f o h s cursor ∧ s.agenda = .tellEnd rc (some f) :: rest := by
  obtain ⟨front, stage, agenda⟩ := fails.stage
  have deciding := fails.reserved.deciding
  generalize hstream : s.engine.stream = st, hverdicts : verdicts 0 h = vs,
    hnotices : notices h = ns at stage
  cases stage with
  | settled =>
      have outcome : s.engine.loop.settlement? o = some (.failure f) := by
        rw [hverdicts] at deciding
        generalize htodo : s.agenda = todo, s.engine.loop.settlement? o = now at deciding
        cases deciding with
        | settled clear => rfl
        | settling st clear | noting line st clear =>
            rw [agenda] at htodo
            cases htodo
      refine ⟨{ fails.toMuted with
        outcome := outcome
        phase := by rw [hstream]; rfl
        told := hnotices
        stream := hstream
        taken := ?_ }, agenda⟩
      rw [fails.taken]
      exact ConsumerStatus.ofConsumer_ne rc
  | _ => omega

/-- What tells the owner nothing and leaves the stream as it is leaves a stream that failed as
it is. -/
theorem Spent.goOn (spent : Spent f o h s cursor) (unserved : c.Unserved) (step : Step s m s')
    (permitted : c.Permits h m) (stream : s'.engine.stream = s.engine.stream)
    (notice : m.notice? = none) (unwritten : m.isWrite = false) :
    ∃ next, Spent f o (m :: h) s' next := by
  obtain ⟨next, muted⟩ := spent.toMuted.step unserved step permitted unwritten
  refine ⟨next, { muted with
    outcome := (step.onward spent.orderly.steady).settled spent.outcome
    phase := by rw [stream, spent.phase]
    told := notices_of_none notice spent.told
    stream := stream.trans spent.stream
    taken := ?_ }⟩
  rcases spent.attached.status_step step permitted muted.attached.cursors with
    status | ⟨consumer, rest, free, -⟩
  · rw [status]
    exact spent.taken
  · exact absurd free spent.taken

/-- Nothing is asked of a stream that failed that it does not ignore. -/
theorem Spent.step (spent : Spent f o h s cursor) (bare : ∀ i ∈ s.agenda, i.isBare = true)
    (unserved : c.Unserved) (step : Step s m s') (permitted : c.Permits h m) :
    (∃ next, Spent f o (m :: h) s' next) ∧ ∀ i ∈ s'.agenda, i.isBare = true := by
  have dull : s.engine.stream.Dull := .inr (by rw [spent.stream]; rfl)
  obtain ⟨unwritten, unheard, -⟩ :=
    step.unheard_of_bare fun i head => bare i (List.mem_of_mem_head? head)
  obtain ⟨stream, bare'⟩ := spent.attached.bare_step unserved step permitted bare dull
    fun _ _ _ => .inr spent.taken
  exact ⟨spent.goOn unserved step permitted stream unheard unwritten, bare'⟩

/-- What a record consumer is told of the end leads to nothing but a caller's own code. -/
theorem Engine.exec_tellEnd (e : Engine) (rc : RecordConsumer) (g : Option Failure) :
    (e.exec (.tellEnd rc g)).1.stream = e.stream ∧
      ∃ next, (e.exec (.tellEnd rc g)).2 = .go next ∧ ∀ i ∈ next, i.isBare = true := by
  have keeps := e.keeps_exec (i := .tellEnd rc g) rfl
  refine ⟨keeps.stream, ?_⟩
  cases rc with
  | client id name => exact ⟨_, rfl, by simp [Instruction.isBare]⟩
  | discard | feed => exact ⟨[], rfl, by simp⟩

theorem Spent.tellEnd_step (spent : Spent f o h s cursor)
    (agenda : s.agenda = .tellEnd rc (some f) :: rest) (bare : ∀ i ∈ rest, i.isBare = true)
    (unserved : c.Unserved) (step : Step s m s') (permitted : c.Permits h m) :
    (∃ next, Spent f o (m :: h) s' next) ∧ ∀ i ∈ s'.agenda, i.isBare = true := by
  obtain ⟨stream, next, reply, bare'⟩ := s.engine.exec_tellEnd rc (some f)
  obtain ⟨rfl, rfl⟩ := step.exec_of_head agenda rfl
  refine ⟨spent.goOn unserved step permitted stream rfl rfl, fun i mem => ?_⟩
  simp only [reply, Reply.onto_go] at mem
  exact (List.mem_append.1 mem).elim (bare' i) (bare i)

end Passing

end QueryStream
