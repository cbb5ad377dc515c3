/-
  Proofs/Granting/Taking.lean --- from a call for the records to where it ends.

  A call that is refused throws, with the engine as it was (`Rebuffed.step`).  Another one has
  the cursor take the iteration that was made.  Of a result that is consumed the cursor refuses
  to take it.  Otherwise it takes it at once, unless there is a record consumer already, and then
  passes on the failure of the query to start, if that is what it has: the owner is told, the
  cursor, and the iteration itself.  Outside code has control only while the owner is told.  It
  may call whatever it likes meanwhile, this call for the records again included, and nothing of
  it comes in the way, unless what it throws leaves the telling (`Taking.step`).
-/
import QueryStream.Proofs.Buffered
import QueryStream.Proofs.Conclusion
import QueryStream.Proofs.FailedStart.Passing
import QueryStream.Proofs.Granting.Calls

set_option autoImplicit false

namespace QueryStream

/-! ## What is thrown -/

/-- Whether something is thrown with a move. -/
def Move.throws (th : Thrown) : Move → Prop
  | .carried _ r => r = .raise th
  | .answered _ r => r = .raise th
  | _ => False

/-- In what follows a call something was thrown that left the call: nothing guarded what was to
be done in front, the given part of the call among it, and so what stood behind the call goes
on. -/
structure Leaves (c : Conduct) (start : Situation) (th : Thrown) (behind rest : List Instruction)
    (since before : List Move) (s₃ : Situation) : Prop where
  thrown : ∃ after m during s₂ i front, since = after ++ m :: during ∧
    Run c start (during ++ before) s₂ ∧ Step s₂ m s₃ ∧ m.throws th ∧
    s₂.agenda = i :: (front ++ behind ++ rest) ∧ ∀ g, .guarded g ∉ front
  agenda : s₃.agenda = (Reply.raise th).onto rest

/-- What follows a call that is refused: the warnings, and then the cause is thrown, with the
engine as it was. -/
inductive Rebuffed (c : Conduct) (start : Situation) (cause : Cause) (warned : Nat)
    (rest : List Instruction) (e : Engine) (since before : List Move) (s : Situation) : Prop
  | underWay (left : List String)
      (agenda : s.agenda = warns left ++ .throw (.arising cause) :: rest) (same : s.engine = e)
      (moves : since.length + left.length = warned) :
      Rebuffed c start cause warned rest e since before s
  | thrown {s₃ : Situation} (leaves : Leaves c start (.arising cause) [] rest since before s₃)
      (same : s₃.engine = e) : Rebuffed c start cause warned rest e since before s

section Throwing

variable {c : Conduct} {start : Situation} {h : List Move} {s s' : Situation} {m : Move}
  {i x : Instruction} {front behind rest : List Instruction} {th : Thrown}
  {since before : List Move} {s₃ : Situation}

/-- Where a move leads that carries out what has nothing to do with a task. -/
inductive Proceeds (front : List Instruction) (x : Instruction) (rest : List Instruction)
    (m : Move) (s' : Situation) : Prop
  | goes (agenda : s'.agenda = m.next ++ (front ++ x :: rest))
      (plain : ∀ j ∈ m.next, j.isPlain = true) : Proceeds front x rest m s'
  /-- what is thrown is caught in front -/
  | catches {g : Guard} (th : Thrown) {passed middle : List Instruction}
      (split : front = passed ++ .guarded g :: middle)
      (agenda : s'.agenda = .caught g th :: middle ++ x :: rest) : Proceeds front x rest m s'
  | leaves {th : Thrown} (throws : m.throws th) (unguarded : ∀ g, .guarded g ∉ front)
      (agenda : s'.agenda = (Reply.raise th).onto (x :: rest)) : Proceeds front x rest m s'

theorem Step.proceeds (step : Step s m s') (permitted : c.Permits h m)
    (agenda : s.agenda = i :: (front ++ x :: rest)) (plain : i.isPlain = true) :
    Proceeds front x rest m s' := by
  have raised : ∀ th, m.throws th → s'.agenda = (Reply.raise th).onto (front ++ x :: rest) →
      Proceeds front x rest m s' := by
    intro th throws agenda
    by_cases guards : ∃ g, .guarded g ∈ front
    · obtain ⟨g, mem⟩ := guards
      obtain ⟨passed, g', middle, split, unwound⟩ := unwind_append (x :: rest) mem
      exact .catches th split (by rw [agenda]; simp only [Reply.onto, unwound]; rfl)
    · have unguarded : ∀ g, .guarded g ∉ front := fun g mem => guards ⟨g, mem⟩
      refine .leaves throws unguarded ?_
      rw [agenda]
      simp only [Reply.onto, unwind_append_of_forall _ unguarded]
  cases step with
  | @carry e j tail own =>
      obtain ⟨rfl, rfl⟩ := List.cons.inj agenda
      rcases e.isPlain_exec plain with ⟨next, reply, among⟩ | ⟨th, reply⟩
      · exact .goes (by simp [reply, Move.next]) (by simpa [reply, Move.next] using among)
      · exact raised th reply (by rw [reply])
  | @answer e a tail r =>
      obtain ⟨rfl, rfl⟩ := List.cons.inj agenda
      cases permitted.2 with
      | notice => exact .goes rfl (by simp [Move.next])
      | calls _ made _ =>
          exact .goes rfl fun j mem => Instruction.isPlain_of_isCall (made j mem).1
      | raise th => exact raised th rfl rfl
      | released t | unending t => cases plain
  | begin next => cases agenda
  | call next => cases agenda

theorem Leaves.cons (leaves : Leaves c start th behind rest since before s₃) (m : Move) :
    Leaves c start th behind rest (m :: since) before s₃ := by
  obtain ⟨⟨after, m', during, s₂, i, front, rfl, thrown⟩, agenda⟩ := leaves
  exact ⟨⟨m :: after, m', during, s₂, i, front, rfl, thrown⟩, agenda⟩

/-- What is thrown with a move leaves the call there. -/
theorem Step.leaves (step : Step s m s') (run : Run c start (since ++ before) s)
    (throws : m.throws th) (head : s.agenda = i :: (front ++ behind ++ rest))
    (unguarded : ∀ g, .guarded g ∉ front) (agenda : s'.agenda = (Reply.raise th).onto rest) :
    Leaves c start th behind rest (m :: since) before s' :=
  ⟨⟨[], m, since, s, i, front, rfl, run, step, throws, head, unguarded⟩, agenda⟩

theorem Rebuffed.step {cause : Cause} {warned : Nat} {e : Engine}
    (rebuffed : Rebuffed c start cause warned rest e since before s)
    (run : Run c start (since ++ before) s) (step : Step s m s')
    (permitted : c.Permits (since ++ before) m) :
    Rebuffed c start cause warned rest e (m :: since) before s' := by
  cases rebuffed with
  | thrown leaves same => exact .thrown (leaves.cons m) same
  | underWay left agenda same moves =>
      cases left with
      | cons text left =>
          obtain ⟨rfl, rfl⟩ := step.of_notice permitted agenda rfl
          refine .underWay left rfl same ?_
          simp only [List.length_cons] at moves ⊢
          omega
      | nil =>
          have agenda : s.agenda = .throw (.arising cause) :: rest := agenda
          have head : s.agenda = .throw (.arising cause) :: ([] ++ [] ++ rest) := agenda
          obtain ⟨rfl, rfl⟩ := step.exec_of_head agenda rfl
          exact .thrown (step.leaves run rfl head (by simp) rfl) same

end Throwing

/-! ## The first call -/

/-- The failure that a cursor passes on when it takes a record consumer: that of the query to
start, unless it takes none, or has one already. -/
def Cursor.passesOn? (cursor : Cursor) : Option Failure :=
  if cursor.isConsumed || cursor.status.isInstalled then none else cursor.runError

/-- In what follows a call the iteration was handed out, and what stood behind the call goes
on. -/
def Returned (c : Conduct) (start : Situation) (k : IterationId) (receiver : Receiver)
    (rest : List Instruction) (since before : List Move) : Prop :=
  ∃ after r during s₂, since = after ++ .carried (.handIteration receiver k) r :: during ∧
    Run c start (during ++ before) s₂ ∧ s₂.agenda = .handIteration receiver k :: rest

/-- What follows the first call for the records that is not refused for its values, the cursor
being as given then. -/
inductive FirstCall (c : Conduct) (start : Situation) (k : IterationId) (receiver : Receiver)
    (warned : Nat) (rest : List Instruction) (cursor : Cursor) (since before : List Move)
    (s : Situation) : Prop
  /-- it is under way: for few moves, as long as outside code makes no calls meanwhile, which it
  can only while a failure is passed on -/
  | underWay (front : List Instruction)
      (agenda : s.agenda = front ++ .handIteration receiver k :: rest)
      (kept : ¬ HandedOut k (since ++ before))
      (brief : (∀ m ∈ since, m.outside = []) → since.length ≤ warned + 19)
      (undisturbed : cursor.passesOn? = none → ∀ m ∈ since, m.outside = []) :
      FirstCall c start k receiver warned rest cursor since before s
  | returned (unconsumed : cursor.isConsumed = false)
      (returned : Returned c start k receiver rest since before) :
      FirstCall c start k receiver warned rest cursor since before s
  /-- the result was consumed -/
  | refused (consumed : cursor.isConsumed = true) (kept : ¬ HandedOut k (since ++ before))
      (leaves : ∃ s₃, Leaves c start (.arising .resultConsumed) [.handIteration receiver k] rest
        since before s₃) :
      FirstCall c start k receiver warned rest cursor since before s
  /-- the owner was told of the failure of the query to start, and something was thrown then -/
  | failed {f : Failure} {th : Thrown} (passes : cursor.passesOn? = some f)
      (kept : ¬ HandedOut k (since ++ before))
      (leaves : ∃ s₃, Leaves c start th
        [.stream (.concludeFailure f), .handIteration receiver k] rest since before s₃) :
      FirstCall c start k receiver warned rest cursor since before s

/-! ## Taking the iteration -/

/-- A stream that is ready, with the cursor for its summary consumer and the given record
consumer. -/
structure Stream.Ready (st : Stream) (rc : Option RecordConsumer) : Prop where
  phase : st.phase = .ready
  record : st.recordConsumer = rc
  summary : st.summaryConsumer = some (.cursor 0)

/-- A stream that is over and has not told its consumers: the cursor and an iteration. -/
structure Stream.Closing (st : Stream) (k : IterationId) : Prop where
  terminal : st.phase.isTerminal = true
  record : st.recordConsumer = some (.feed k)
  summary : st.summaryConsumer = some (.cursor 0)

/-- How far it has come with the taking of an iteration: the number of moves it has to go at
most, if nothing comes in between, with the stream and what stands in front of the handing
out. -/
inductive Taking (k : IterationId) (runError : Option Failure) (calm : Prop) :
    Nat → Stream → List Instruction → Prop
  | line {st : Stream} (line : Log.Line) (ready : st.Ready none) : Taking k runError calm 18 st
      [.ask (.log line), .channel (.installRecord (.feed k)), .cursor 0 .injectError]
  | attach {st : Stream} (ready : st.Ready none) : Taking k runError calm 17 st
      [.channel (.installRecord (.feed k)), .cursor 0 .injectError]
  | attaching {st : Stream} (ready : st.Ready none) : Taking k runError calm 16 st
      [.stream (.installRecord (.feed k)), .cursor 0 .injectError]
  | inject {st : Stream} (ready : st.Ready (some (.feed k))) : Taking k runError calm 15 st
      [.cursor 0 .injectError]
  | pass {st : Stream} {f : Failure} (failed : runError = some f)
      (ready : st.Ready (some (.feed k))) : Taking k runError calm 14 st [.channel (.fail f)]
  | fail {st : Stream} {f : Failure} (failed : runError = some f)
      (ready : st.Ready (some (.feed k))) : Taking k runError calm 13 st [.stream (.fail f)]
  | failed {st : Stream} {f : Failure} (failed : runError = some f) (line : Log.Line)
      (closing : st.Closing k) : Taking k runError calm 12 st
      [.ask (.log line), .ownerFailed f, .stream (.concludeFailure f)]
  | tellOwner {st : Stream} {f : Failure} (failed : runError = some f) (closing : st.Closing k) :
      Taking k runError calm 11 st [.ownerFailed f, .stream (.concludeFailure f)]
  /-- the owner is being told -/
  | owner {left : Nat} {st : Stream} {f : Failure} (failed : runError = some f)
      (closing : st.Closing k) (front : List Instruction)
      (plain : ∀ i ∈ front, i.isPlain = true) (others : ∀ i ∈ front, i.isSequel = false)
      (brief : calm → (∀ i ∈ front, i.isChore = true) ∧ toll front + 5 ≤ left) :
      Taking k runError calm left st (front ++ [.stream (.concludeFailure f)])
  | tellCursor {st : Stream} {f : Failure} (failed : runError = some f) (summary : Summary) :
      Taking k runError calm 4 st
        [.tellSummary (.cursor 0) (some summary) (some f), .tellEnd (.feed k) (some f)]
  | notify {st : Stream} {f : Failure} (failed : runError = some f) (summary : Summary) :
      Taking k runError calm 3 st
        [.cursor 0 (.notify (some summary) (some f)), .tellEnd (.feed k) (some f)]
  | settle {st : Stream} {f : Failure} (failed : runError = some f) (p : PromiseId) :
      Taking k runError calm 2 st [.settle p (.failure f), .tellEnd (.feed k) (some f)]
  | tellEnd {st : Stream} {f : Failure} (failed : runError = some f) :
      Taking k runError calm 1 st [.tellEnd (.feed k) (some f)]
  | taken {st : Stream} : Taking k runError calm 0 st []

/-- Where the taking of an iteration leads with a move: on, or what is thrown while the owner is
told leaves it. -/
inductive TakenOn (k : IterationId) (runError : Option Failure) (calm : Prop) (left : Nat)
    (receiver : Receiver) (rest : List Instruction) (s : Situation) (m : Move) (s' : Situation) :
    Prop
  | goes {fewer : Nat} {front : List Instruction} (less : calm → fewer < left)
      (taking : Taking k runError calm fewer s'.engine.stream front)
      (agenda : s'.agenda = front ++ .handIteration receiver k :: rest)
      (undisturbed : runError = none → m.outside = []) :
      TakenOn k runError calm left receiver rest s m s'
  | leaves {f : Failure} {th : Thrown} {i : Instruction} {front : List Instruction}
      (failed : runError = some f) (throws : m.throws th)
      (head : s.agenda =
        i :: (front ++ [.stream (.concludeFailure f), .handIteration receiver k] ++ rest))
      (unguarded : ∀ g, .guarded g ∉ front) (agenda : s'.agenda = (Reply.raise th).onto rest) :
      TakenOn k runError calm left receiver rest s m s'

section Steps

variable {c : Conduct} {start : Situation} {o : PromiseId} {h : List Move} {s s' : Situation}
  {m : Move} {cursor next : Cursor} {k : IterationId} {e : Engine} {f : Failure}
  {receiver : Receiver} {rest front : List Instruction} {i : Instruction} {left : Nat}
  {runError : Option Failure} {calm calm' : Prop}

namespace Engine

/-- A stream that is ready takes the failure and has its owner told. -/
theorem exec_fail (ready : e.stream.Ready (some (.feed k))) (f : Failure) :
    ∃ line, e.exec (.stream (.fail f)) = ({ e with stream := { e.stream with phase := .failed } },
      .go [.ask (.log line), .ownerFailed f, .stream (.concludeFailure f)]) := by
  have accepted : e.stream.step e.surroundings (.fail f) =
      .ok ({ e.stream with phase := .failed },
        [Stream.debug (s!"pull failure in state {Phase.ready.name}: " ++ f.literal),
          .ownerFailed f, .andThen (.concludeFailure f)]) := by
    simp [Stream.step, Stream.fail, Stream.ensureConsumers, Stream.lacksConsumer, ready.record,
      ready.summary, ready.phase, Phase.isTerminal, bind, Except.bind, pure, Except.pure]
  exact ⟨_, e.exec_stream accepted⟩

/-- A stream that is over tells the cursor and the iteration, and lets them go. -/
theorem exec_concludeFailure (closing : e.stream.Closing k) (f : Failure) :
    ∃ st summary, e.exec (.stream (.concludeFailure f)) = ({ e with stream := st },
      .go [.tellSummary (.cursor 0) (some summary) (some f), .tellEnd (.feed k) (some f)]) := by
  simp only [exec, stepStream, Stream.step, Stream.complete, closing.record, closing.summary]
  exact ⟨_, _, rfl⟩

end Engine

/-- What does not belong to the end leaves a stream that is over with its consumers. -/
theorem Stream.Closing.step (closing : s.engine.stream.Closing k)
    (attached : Attached o h s cursor) (step : Step s m s') (permitted : c.Permits h m)
    (head : s.agenda = i :: rest) (other : i.isSequel = false) :
    s'.engine.stream.Closing k ∧ ∀ j ∈ m.next, j.isSequel = false := by
  have attended : s.engine.stream.Attended := by
    simp [Stream.Attended, closing.record, closing.summary]
  obtain ⟨attended', brought⟩ := step.of_terminal permitted closing.terminal attended
    fun j tail head' => by
      obtain ⟨rfl, -⟩ := List.cons.inj (head.symm.trans head')
      exact other
  obtain ⟨rc, record⟩ := Option.isSome_iff_exists.1 attended'.1
  obtain ⟨sc, summary⟩ := Option.isSome_iff_exists.1 attended'.2
  obtain rfl : sc = .cursor 0 :=
    attendant_step step permitted attached.known attached.attendant sc summary
  obtain rfl : rc = .feed k := by
    rcases step.stream_or_quiet permitted with ⟨a, tail, after, effects, stream⟩ | ⟨-, quiet⟩
    · rw [stream.engine] at record
      rcases stream.steps.records record with before | rfl
      · exact Option.some.inj (before.symm.trans closing.record)
      · have installing := attached.installing
        rw [stream.head] at installing
        have terminal := closing.terminal
        rw [installing.ready_of_stream] at terminal
        cases terminal
    · rw [quiet.stream] at record
      exact Option.some.inj (record.symm.trans closing.record)
  exact ⟨⟨step.terminal permitted closing.terminal, record, summary⟩, brought⟩

theorem Instruction.isSequel_of_isChore (chore : i.isChore = true) : i.isSequel = false := by
  unfold Instruction.isChore at chore
  split at chore <;> first | rfl | cases chore

/-- What an owner does that is told of a failure leads to less of it, as long as outside code
makes no calls. -/
theorem Step.chores (step : Step s m s') (head : s.agenda = i :: rest)
    (chore : i.isChore = true) (undisturbed : m.outside = []) :
    (∀ j ∈ m.next, j.isChore = true) ∧ toll m.next < i.toll := by
  cases own : i.isAsk with
  | false =>
      obtain ⟨next, reply, among, fewer, -⟩ := s.engine.exec_chore chore own
      obtain ⟨rfl, -⟩ := step.exec_of_head head own
      simpa only [Move.next, reply, Reply.next_go] using ⟨among, fewer⟩
  | true =>
      obtain ⟨e, agenda⟩ := s
      obtain rfl : agenda = i :: rest := head
      cases step with
      | carry other => simp [other] at own
      | @answer e a tail r =>
          have nothing : Move.next (.answered a r) = [] := undisturbed
          rw [nothing]
          exact ⟨by simp, by simp [toll, Instruction.toll]⟩

/-- While the owner is told, what the stream has to tell the others stays on the agenda. -/
theorem Taking.owner_step (failed : runError = some f) (closing : s.engine.stream.Closing k)
    (agenda : s.agenda = i :: (front ++ .stream (.concludeFailure f) ::
      .handIteration receiver k :: rest))
    (plain : ∀ j ∈ i :: front, j.isPlain = true) (others : ∀ j ∈ i :: front, j.isSequel = false)
    (brief : calm → (∀ j ∈ i :: front, j.isChore = true) ∧ toll (i :: front) + 5 ≤ left)
    (attached : Attached o h s cursor) (step : Step s m s') (permitted : c.Permits h m)
    (still : calm' → calm ∧ m.outside = []) :
    TakenOn k runError calm' left receiver rest s m s' := by
  obtain ⟨closing', brought⟩ :=
    closing.step attached step permitted agenda (others i (List.mem_cons_self ..))
  have disturbs : runError = none → m.outside = [] := fun none => by
    rw [failed] at none
    cases none
  cases step.proceeds permitted agenda (plain i (List.mem_cons_self ..)) with
  | goes agenda' plain' =>
      have split : s'.agenda = (m.next ++ front) ++ [.stream (.concludeFailure f)] ++
          .handIteration receiver k :: rest := by simp [agenda']
      have few : calm' → (∀ j ∈ m.next ++ front, j.isChore = true) ∧
          toll (m.next ++ front) + 5 < left := by
        intro calm'
        obtain ⟨calm, undisturbed⟩ := still calm'
        obtain ⟨chores, bound⟩ := brief calm
        obtain ⟨among, fewer⟩ :=
          step.chores agenda (chores i (List.mem_cons_self ..)) undisturbed
        refine ⟨fun j mem => ?_, ?_⟩
        · rcases List.mem_append.1 mem with mem | mem
          · exact among j mem
          · exact chores j (List.mem_cons_of_mem _ mem)
        · rw [toll_append]
          simp only [toll, List.map_cons, List.sum_cons] at bound fewer ⊢
          omega
      have telling : Taking k runError calm' (toll (m.next ++ front) + 5) s'.engine.stream
          (m.next ++ front ++ [.stream (.concludeFailure f)]) := by
        refine .owner failed closing' (m.next ++ front) (fun j mem => ?_) (fun j mem => ?_)
          fun calm' => ⟨(few calm').1, Nat.le_refl _⟩
        · rcases List.mem_append.1 mem with mem | mem
          · exact plain' j mem
          · exact plain j (List.mem_cons_of_mem _ mem)
        · rcases List.mem_append.1 mem with mem | mem
          · exact brought j mem
          · exact others j (List.mem_cons_of_mem _ mem)
      exact .goes (fun calm' => (few calm').2) telling split disturbs
  | @catches g th passed middle front_eq agenda' =>
      subst front_eq
      have guarded : calm' → False := fun calm' => by
        have chore := (brief (still calm').1).1 (.guarded g) (by simp)
        cases chore
      have split : s'.agenda = (.caught g th :: middle) ++ [.stream (.concludeFailure f)] ++
          .handIteration receiver k :: rest := by simp [agenda']
      have telling : Taking k runError calm' 0 s'.engine.stream
          (.caught g th :: middle ++ [.stream (.concludeFailure f)]) := by
        refine .owner failed closing' (.caught g th :: middle) (fun j mem => ?_) (fun j mem => ?_)
          fun calm' => (guarded calm').elim
        · rcases List.mem_cons.1 mem with rfl | mem
          · exact plain (.guarded g) (by simp)
          · exact plain j (by simp [mem])
        · rcases List.mem_cons.1 mem with rfl | mem
          · rfl
          · exact others j (by simp [mem])
      exact .goes (fun calm' => (guarded calm').elim) telling split disturbs
  | leaves throws unguarded agenda' =>
      have head : s.agenda = i :: (front ++ [.stream (.concludeFailure f),
          .handIteration receiver k] ++ rest) := by simp [agenda]
      exact .leaves failed throws head unguarded agenda'

/-- Every move goes on with the taking of an iteration, unless something is thrown while the
owner is told. -/
theorem Taking.step (taking : Taking k runError calm left s.engine.stream front)
    (unfinished : front ≠ [])
    (agenda : s.agenda = front ++ .handIteration receiver k :: rest)
    (attached : Attached o h s cursor) (same : cursor.runError = runError) (step : Step s m s')
    (permitted : c.Permits h m) (still : calm' → calm ∧ m.outside = []) :
    TakenOn k runError calm' left receiver rest s m s' := by
  have own := attached.hasStream
  generalize hstream : s.engine.stream = st at taking
  cases taking with
  | line line ready =>
      obtain ⟨rfl, rfl⟩ := step.of_notice permitted agenda rfl
      exact .goes (fun _ => by decide) (.attach (hstream ▸ ready)) rfl fun _ => rfl
  | attach ready =>
      obtain ⟨rfl, rfl⟩ := step.exec_of_head agenda rfl
      rw [s.engine.exec_channel own]
      exact .goes (fun _ => by decide) (.attaching (hstream ▸ ready)) rfl fun _ => rfl
  | attaching ready =>
      have free := hstream ▸ ready.record
      obtain ⟨rfl, rfl⟩ := step.exec_of_head agenda rfl
      rw [s.engine.exec_installRecord _ free]
      exact .goes (fun _ => by decide)
        (.inject ⟨hstream ▸ ready.phase, rfl, hstream ▸ ready.summary⟩) rfl fun _ => rfl
  | inject ready =>
      have accepted := cursor.step_injectError (s.engine.isResolved cursor)
      obtain ⟨rfl, rfl⟩ := attached.accepted step agenda accepted
      cases failed : cursor.runError with
      | none => exact .goes (fun _ => by decide) .taken rfl fun _ => rfl
      | some f =>
          exact .goes (fun _ => by decide) (.pass (same.symm.trans failed) (hstream ▸ ready)) rfl
            fun _ => rfl
  | pass failed ready =>
      obtain ⟨rfl, rfl⟩ := step.exec_of_head agenda rfl
      rw [s.engine.exec_channel own]
      exact .goes (fun _ => by decide) (.fail failed (hstream ▸ ready)) rfl fun _ => rfl
  | fail failed ready =>
      obtain ⟨line, exec⟩ := Engine.exec_fail (hstream.symm ▸ ready) _
      obtain ⟨rfl, rfl⟩ := step.exec_of_head agenda rfl
      rw [exec]
      exact .goes (fun _ => by decide)
        (.failed failed line ⟨rfl, hstream ▸ ready.record, hstream ▸ ready.summary⟩) rfl
        fun _ => rfl
  | failed failed line closing =>
      obtain ⟨rfl, rfl⟩ := step.of_notice permitted agenda rfl
      exact .goes (fun _ => by decide) (.tellOwner failed (hstream ▸ closing)) rfl fun _ => rfl
  | @tellOwner _ f failed closing =>
      obtain ⟨chores, exec, all, few⟩ := s.engine.exec_ownerFailed f
      obtain ⟨rfl, rfl⟩ := step.exec_of_head agenda rfl
      rw [exec]
      have telling : Taking k runError calm' (toll chores + 5) s.engine.stream
          (chores ++ [.stream (.concludeFailure f)]) :=
        .owner failed (hstream ▸ closing) chores
          (fun j mem => (Instruction.plain_of_isChore (all j mem)).1)
          (fun j mem => Instruction.isSequel_of_isChore (all j mem))
          fun _ => ⟨all, Nat.le_refl _⟩
      exact .goes (fun _ => by omega) telling (by simp) fun _ => rfl
  | owner failed closing before plain others brief =>
      cases before with
      | nil =>
          obtain ⟨st', summary, exec⟩ := Engine.exec_concludeFailure (hstream.symm ▸ closing) _
          obtain ⟨rfl, rfl⟩ := step.exec_of_head agenda rfl
          rw [exec]
          refine .goes (fun calm' => ?_) (.tellCursor failed summary) rfl fun _ => rfl
          have bound := (brief (still calm').1).2
          simp only [toll, List.map_nil, List.sum_nil] at bound
          omega
      | cons i before =>
          exact Taking.owner_step failed (hstream.symm ▸ closing) (by simp [agenda]) plain others
            brief attached step permitted still
  | tellCursor failed summary =>
      obtain ⟨rfl, rfl⟩ := step.exec_of_head agenda rfl
      exact .goes (fun _ => by decide) (.notify failed summary) rfl fun _ => rfl
  | notify failed summary =>
      obtain ⟨rfl, rfl⟩ := attached.accepted step agenda (by rfl)
      exact .goes (fun _ => by decide) (.settle failed _) rfl fun _ => rfl
  | settle failed p =>
      obtain ⟨rfl, rfl⟩ := step.exec_of_head agenda rfl
      exact .goes (fun _ => by decide) (.tellEnd failed) rfl fun _ => rfl
  | tellEnd failed =>
      obtain ⟨rfl, rfl⟩ := step.exec_of_head agenda rfl
      exact .goes (fun _ => by decide) .taken rfl fun _ => rfl
  | taken => exact absurd rfl unfinished

end Steps

end QueryStream
