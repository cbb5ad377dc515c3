/-
  Proofs/Granting.lean --- a result grants one iteration.

  The records of a result may be asked for any number of times, with any values for the number to
  request at a time, and in between the result may be consumed, discarded and rolled back.  Of all
  these calls one at most hands out an iteration.  A call with values that do not count throws
  that, with everything as it was.  The first of the others hands out an iteration if the result
  is not consumed by then, and throws that it is if it is; whichever it does, those after it
  throw that the records were asked for (`Run.grantsOnce`).

  There is one way for the first call to hand out nothing although the result is not consumed.  If
  the query failed to start, the call passes the failure on, and what the owner throws who is told
  of it leaves the call.  That was the one call then (`not_returnsFirst`).
-/
import QueryStream.Proofs.FailedStart
import QueryStream.Proofs.Granting.Taking

set_option autoImplicit false

namespace QueryStream

/-- A call for the records of a result: the values given under the two names of the parameter,
and who is handed the iteration. -/
structure RecordsCall where
  id : ResultId
  fetchSize : Value
  former : Value
  receiver : Receiver

namespace RecordsCall

/-- The instruction that a call is. -/
def instruction (call : RecordsCall) : Instruction :=
  .records call.id call.fetchSize call.former call.receiver

/-- What a call settles on. -/
def batch (call : RecordsCall) (result : QueryResult) : Except Cause FetchSize :=
  result.batch call.fetchSize call.former

/-- How many warnings are due to a call. -/
def warned (call : RecordsCall) : Nat :=
  (QueryResult.warnings call.fetchSize call.former).length

end RecordsCall

/-- In a history the records of a result over the one cursor were asked for, with the given rest
behind the call. -/
structure Called (c : Conduct) (start : Situation) (h : List Move) (call : RecordsCall)
    (since : List Move) (m : Move) (earlier : List Move) (s₁ : Situation)
    (rest : List Instruction) (result : QueryResult) (cursor : Cursor) : Prop where
  history : h = since ++ m :: earlier
  move : ∃ r, m = .carried call.instruction r
  run : Run c start earlier s₁
  agenda : s₁.agenda = call.instruction :: rest
  found : s₁.engine.results[call.id]? = some result
  own : result.cursor = 0
  cursors : s₁.engine.cursors = #[cursor]

/-- In a history the records of a result were asked for with values that count. -/
def Accepted (c : Conduct) (start : Situation) (q : ResultId) (h : List Move) : Prop :=
  ∃ (call : RecordsCall) (later earlier : List Move) (r : Reply) (s₁ : Situation)
      (result : QueryResult) (size : FetchSize),
    call.id = q ∧ h = later ++ .carried call.instruction r :: earlier ∧
    Run c start earlier s₁ ∧ s₁.engine.results[q]? = some result ∧ call.batch result = .ok size

/-- What follows a call for the records. -/
inductive CallEnds (c : Conduct) (start : Situation) (call : RecordsCall) (since : List Move)
    (m : Move) (earlier : List Move) (s₁ : Situation) (rest : List Instruction)
    (result : QueryResult) (cursor : Cursor) (s : Situation) : Prop
  /-- its values do not count -/
  | refused {cause : Cause} (batch : call.batch result = .error cause)
      (kind : cause.kind = .value)
      (rebuffed : Rebuffed c start cause call.warned rest s₁.engine since (m :: earlier) s) :
      CallEnds c start call since m earlier s₁ rest result cursor s
  /-- it is not the first with values that count -/
  | again {size : FetchSize} (batch : call.batch result = .ok size)
      (accepted : Accepted c start call.id earlier)
      (rebuffed : Rebuffed c start .alreadyIterated call.warned rest s₁.engine since
        (m :: earlier) s) : CallEnds c start call since m earlier s₁ rest result cursor s
  | first {size : FetchSize} (batch : call.batch result = .ok size)
      (unaccepted : ¬ Accepted c start call.id earlier)
      (granted : granted call.id (m :: earlier) = [s₁.engine.iterations.size])
      (ends : FirstCall c start s₁.engine.iterations.size call.receiver call.warned rest cursor
        since (m :: earlier) s) : CallEnds c start call since m earlier s₁ rest result cursor s

/-- What holds of the calls for the records in a run. -/
structure GrantsOnce (c : Conduct) (start : Situation) (h : List Move) (s : Situation) : Prop where
  /-- the calls for the records of a result hand out one iteration at most -/
  once : ∀ q, handings q h ≤ 1
  /-- and nothing else hands out one -/
  owned : ∀ k, HandedOut k h → ∃ q, k ∈ granted q h
  calls : ∀ call since m earlier s₁ rest result cursor,
    Called c start h call since m earlier s₁ rest result cursor →
      CallEnds c start call since m earlier s₁ rest result cursor s

section Runs

variable {c : Conduct} {start : Situation} {o : PromiseId} {h : List Move} {s s' : Situation}
  {m : Move} {cursor next : Cursor} {k : IterationId} {e : Engine} {q : ResultId}
  {receiver : Receiver} {rest front : List Instruction} {i : Instruction} {th : Thrown}
  {since before earlier : List Move} {warned : Nat}

/-! ## Calls with values that count -/

theorem Accepted.append (accepted : Accepted c start q h) (later : List Move) :
    Accepted c start q (later ++ h) := by
  obtain ⟨call, after, earlier, r, s₁, result, size, id, rfl, others⟩ := accepted
  exact ⟨call, later ++ after, earlier, r, s₁, result, size, id,
    (List.append_assoc ..).symm, others⟩

/-- If the records of a result were asked for with values that count, an iteration was made for
it. -/
theorem Run.granted_of_accepted (fresh : ∀ q, e.isStarted q = false) (run : Run c ⟨e, []⟩ h s)
    (accepted : Accepted c ⟨e, []⟩ q h) : granted q h ≠ [] := by
  obtain ⟨call, later, earlier, r, s₁, result, size, rfl, rfl, before, found, batch⟩ := accepted
  obtain ⟨s, s₂, before', step, -⟩ := run.exists_step_of_append
  obtain rfl := before.unique before'
  have begins : s₁.engine.Begins call.id call.fetchSize call.former call.receiver
    (s₂.engine, r) := step.begins
  have made : granted call.id (.carried call.instruction r :: earlier) ≠ [] := by
    rw [granted_cons]
    generalize reached : (s₂.engine, r) = after at begins
    cases begins with
    | absent none => simp [found] at none
    | refused found' refused =>
        obtain rfl := Option.some.inj (found.symm.trans found')
        cases batch.symm.trans refused
    | again found' batch' started =>
        -- the result is marked, so the iteration was made before
        obtain rfl := Option.some.inj (found.symm.trans found')
        have marked : s₁.engine.isStarted call.id = true := by
          simp [Engine.isStarted, found, started]
        obtain ⟨k, one⟩ := (before.recorded fresh call.id).started marked
        simp [one]
    | first found' batch' unstarted =>
        obtain ⟨-, rfl⟩ := Prod.mk.inj reached
        simp [RecordsCall.instruction, Move.granted_records]
  intro nothing
  simp only [granted, List.flatMap_append, List.append_eq_nil_iff] at nothing
  exact made nothing.2

/-- An iteration that was made for a result was asked for with values that count. -/
theorem Run.accepted_of_granted (run : Run c ⟨e, []⟩ h s) (made : granted q h ≠ []) :
    Accepted c ⟨e, []⟩ q h := by
  induction run with
  | nil => exact absurd rfl made
  | @snoc h s s' m run step permitted ih =>
      by_cases before : granted q h = []
      · rw [granted_cons, before, List.append_nil] at made
        unfold Move.granted at made
        split at made
        · rename_i q' fetchSize former receiver r
          by_cases same : q' = q
          · subst same
            have begins := step.begins
            generalize reached : (s'.engine, r) = after at begins
            cases begins with
            | @first result size found batch unstarted =>
                exact ⟨⟨q', fetchSize, former, receiver⟩, [], h, r, s, result, size, rfl, rfl,
                  run, found, batch⟩
            | absent | refused | again =>
                obtain ⟨-, rfl⟩ := Prod.mk.inj reached
                exact absurd (by simp [Instruction.handsOut?]) made
          · exact absurd (if_neg same) made
        · exact absurd rfl made
      · exact (ih before).append [m]

/-- An iteration was made for a result exactly if its records were asked for with values that
count. -/
theorem Run.accepted_iff (fresh : ∀ q, e.isStarted q = false) (run : Run c ⟨e, []⟩ h s) :
    Accepted c ⟨e, []⟩ q h ↔ granted q h ≠ [] :=
  ⟨run.granted_of_accepted fresh, run.accepted_of_granted⟩

/-! ## The first call -/

/-- How far it has come with the first call that is not refused for its values. -/
inductive FirstCourse (c : Conduct) (start : Situation) (k : IterationId) (receiver : Receiver)
    (warned : Nat) (rest : List Instruction) (cursor : Cursor) (since before : List Move)
    (s : Situation) : Prop
  /-- the cursor is to take the iteration -/
  | due (left : List String)
      (agenda : s.agenda =
        warns left ++ .cursor 0 (.install (.feed k)) :: .handIteration receiver k :: rest)
      (cursors : s.engine.cursors = #[cursor]) (moves : since.length + left.length = warned)
      (undisturbed : ∀ m ∈ since, m.outside = []) :
      FirstCourse c start k receiver warned rest cursor since before s
  | taking {left : Nat} {front : List Instruction} (unconsumed : cursor.isConsumed = false)
      (taking : Taking k cursor.passesOn? (∀ m ∈ since, m.outside = []) left s.engine.stream
        front)
      (agenda : s.agenda = front ++ .handIteration receiver k :: rest)
      (same : front ≠ [] → ∀ next, s.engine.cursors = #[next] →
        next.runError = cursor.passesOn?)
      (brief : (∀ m ∈ since, m.outside = []) → since.length + left ≤ warned + 19)
      (undisturbed : cursor.passesOn? = none → ∀ m ∈ since, m.outside = []) :
      FirstCourse c start k receiver warned rest cursor since before s
  | returned (unconsumed : cursor.isConsumed = false)
      (returned : Returned c start k receiver rest since before) :
      FirstCourse c start k receiver warned rest cursor since before s
  | refused (consumed : cursor.isConsumed = true) (withheld : Withheld k (since ++ before) s)
      (leaves : ∃ s₃, Leaves c start (.arising .resultConsumed) [.handIteration receiver k] rest
        since before s₃) : FirstCourse c start k receiver warned rest cursor since before s
  | failed {f : Failure} {th : Thrown} (passes : cursor.passesOn? = some f)
      (withheld : Withheld k (since ++ before) s)
      (leaves : ∃ s₃, Leaves c start th
        [.stream (.concludeFailure f), .handIteration receiver k] rest since before s₃) :
      FirstCourse c start k receiver warned rest cursor since before s

/-- What is thrown in front of the handing out of an iteration, and not caught there, withholds
it. -/
theorem Run.withheld (run : Run c ⟨e, []⟩ h s)
    (agenda : s.agenda = i :: (front ++ .handIteration receiver k :: rest))
    (step : Step s m s') (throws : m.throws th) (left : s'.agenda = (Reply.raise th).onto rest) :
    Withheld k (m :: h) s' := by
  have due : s.agenda = (i :: front) ++ .handIteration receiver k :: rest := agenda
  obtain ⟨made, kept, clear⟩ := run.of_due due
  have never : ¬ HandedOut k (m :: h) := not_handedOut_cons kept fun receiver' r same => by
    subst same
    obtain ⟨tail, head⟩ := step.head_of_carried
    obtain ⟨rfl, -⟩ := List.cons.inj (head.symm.trans agenda)
    -- a second entry behind the one that was carried out
    have due : s.agenda = [] ++ .handIteration receiver' k ::
      (front ++ .handIteration receiver k :: rest) := agenda
    exact (run.of_due due).2.2 receiver (by simp)
  refine ⟨Nat.lt_of_lt_of_le made step.size_le, ?_⟩
  have nowhere : s'.agenda.countP (Instruction.hands k) = 0 :=
    List.countP_eq_zero.2 fun j mem hands => by
      rw [left] at mem
      rcases Reply.mem_onto mem with mem | mem | ⟨g, th', rfl⟩
      · cases j with
        | handIteration receiver' k' =>
            obtain rfl : k' = k := Option.some.inj (eq_of_beq hands)
            exact clear receiver' mem
        | _ => cases hands
      · cases mem
      · cases hands
  have unhanded : (m :: h).countP (Move.handsOut k) = 0 :=
    List.countP_eq_zero.2 fun m' mem hands =>
      never (handedOut_iff.2 (List.any_eq_true.2 ⟨m', mem, hands⟩))
  simp [entries, nowhere, unhanded]

/-- Of a result that is consumed the cursor refuses to take the iteration; otherwise it begins
with it, or has a record consumer already. -/
theorem FirstCourse.install
    (agenda : s.agenda = .cursor 0 (.install (.feed k)) :: .handIteration receiver k :: rest)
    (moves : since.length = warned) (undisturbed : ∀ m ∈ since, m.outside = [])
    (run : Run c ⟨e, []⟩ (since ++ before) s) (lending : Lending o k (since ++ before) s cursor)
    (step : Step s m s') :
    FirstCourse c ⟨e, []⟩ k receiver warned rest cursor (m :: since) before s' := by
  have attached := lending.attached
  cases consumed : cursor.isConsumed with
  | true =>
      obtain ⟨rfl, rfl⟩ := step.exec_of_head agenda rfl
      have refused := attached.exec_install_of_consumed consumed (.feed k)
      have throws : Move.throws (.arising .resultConsumed)
          (.carried (.cursor 0 (.install (.feed k)))
            (s.engine.exec (.cursor 0 (.install (.feed k)))).2) := by rw [refused]; rfl
      have left : (s.engine.exec (.cursor 0 (.install (.feed k)))).2.onto
          (.handIteration receiver k :: rest)
            = (Reply.raise (.arising .resultConsumed)).onto rest := by rw [refused]; rfl
      have head : s.agenda = .cursor 0 (.install (.feed k)) ::
          ([] ++ [.handIteration receiver k] ++ rest) := agenda
      have due : s.agenda = .cursor 0 (.install (.feed k)) ::
          ([] ++ .handIteration receiver k :: rest) := agenda
      exact .refused consumed (run.withheld due step throws left)
        ⟨_, step.leaves run throws head (by simp) left⟩
  | false =>
      have calm : ∀ {m' : Move}, m'.outside = [] → ∀ n ∈ m' :: since, n.outside = [] :=
        fun silent => List.forall_mem_cons.2 ⟨silent, undisturbed⟩
      -- a cursor without a record consumer takes this one, and any other keeps the one it has
      by_cases free : cursor.status = .notInstalled
      · obtain ⟨record, phase⟩ := attached.absent free
        have summarized := lending.furnished.summarized.resolve_right (by simp [phase,
          Phase.isTerminal])
        obtain ⟨sc, summary⟩ := Option.isSome_iff_exists.1 summarized
        obtain rfl := attached.attendant sc summary
        have passes : cursor.passesOn? = cursor.runError := by
          simp [Cursor.passesOn?, consumed, free, ConsumerStatus.isInstalled]
        obtain ⟨rfl, rfl⟩ :=
          attached.accepted step agenda (Cursor.step_install consumed free)
        refine .taking consumed (.line _ ⟨phase, record, summary⟩) rfl (fun _ next cursors => ?_)
          (fun _ => ?_) fun _ => calm rfl
        · obtain rfl := by simpa using cursors
          exact passes.symm
        · rw [List.length_cons]
          omega
      · obtain ⟨rfl, rfl⟩ :=
          attached.accepted step agenda (Cursor.step_install_of_taken consumed free _)
        refine .taking consumed .taken rfl (fun unfinished => absurd rfl unfinished)
          (fun _ => ?_) fun _ => calm rfl
        rw [List.length_cons]
        omega

/-- The taking of an iteration goes on, or it is handed out. -/
theorem FirstCourse.goOn {left : Nat} (unconsumed : cursor.isConsumed = false)
    (taking : Taking k cursor.passesOn? (∀ m ∈ since, m.outside = []) left s.engine.stream front)
    (agenda : s.agenda = front ++ .handIteration receiver k :: rest)
    (same : front ≠ [] → ∀ next, s.engine.cursors = #[next] → next.runError = cursor.passesOn?)
    (brief : (∀ m ∈ since, m.outside = []) → since.length + left ≤ warned + 19)
    (undisturbed : cursor.passesOn? = none → ∀ m ∈ since, m.outside = [])
    (run : Run c ⟨e, []⟩ (since ++ before) s)
    (lending : Lending o k (since ++ before) s next) (step : Step s m s')
    (permitted : c.Permits (since ++ before) m) :
    FirstCourse c ⟨e, []⟩ k receiver warned rest cursor (m :: since) before s' := by
  cases front with
  | nil =>
      obtain ⟨rfl, -⟩ := step.exec_of_head agenda (by cases receiver <;> rfl)
      exact .returned unconsumed ⟨[], _, since, s, rfl, run, agenda⟩
  | cons j front =>
      have attached := lending.attached
      have failing := same (by simp) next attached.cursors
      have still : (∀ n ∈ m :: since, n.outside = []) →
          (∀ n ∈ since, n.outside = []) ∧ m.outside = [] := fun calm =>
        (List.forall_mem_cons.1 calm).symm
      cases taking.step (by simp) agenda attached failing step permitted still with
      | goes less taking' agenda' silent =>
          refine .taking unconsumed taking' agenda' (fun _ after cursors => ?_) (fun calm => ?_)
            fun none => List.forall_mem_cons.2 ⟨silent none, undisturbed none⟩
          · rcases attached.cursor_or_eq step permitted cursors with
              ⟨a, tail, effects, taken⟩ | rfl
            · exact taken.steps.runError.trans failing
            · exact failing
          · have fewer := less calm
            have bound := brief (still calm).1
            rw [List.length_cons]
            omega
      | @leaves f th i passed failed throws head unguarded agenda' =>
          have split : s.agenda = i :: ((passed ++ [.stream (.concludeFailure f)]) ++
              .handIteration receiver k :: rest) := by simp [head]
          exact .failed failed (run.withheld split step throws agenda')
            ⟨_, step.leaves run throws head unguarded agenda'⟩

theorem FirstCourse.step
    (course : FirstCourse c ⟨e, []⟩ k receiver warned rest cursor since before s)
    (run : Run c ⟨e, []⟩ (since ++ before) s) (lending : Lending o k (since ++ before) s next)
    (step : Step s m s') (permitted : c.Permits (since ++ before) m) :
    FirstCourse c ⟨e, []⟩ k receiver warned rest cursor (m :: since) before s' := by
  cases course with
  | due left agenda cursors moves undisturbed =>
      cases left with
      | cons text left =>
          obtain ⟨rfl, rfl⟩ := step.of_notice permitted agenda rfl
          refine .due left rfl cursors ?_ (List.forall_mem_cons.2 ⟨rfl, undisturbed⟩)
          simp only [List.length_cons] at moves ⊢
          omega
      | nil =>
          obtain rfl : next = cursor := by
            simpa using lending.attached.cursors.symm.trans cursors
          exact .install agenda moves undisturbed run lending step
  | taking unconsumed taking agenda same brief undisturbed =>
      exact .goOn unconsumed taking agenda same brief undisturbed run lending step permitted
  | returned unconsumed returned =>
      obtain ⟨after, r, during, s₂, rfl, handed⟩ := returned
      exact .returned unconsumed ⟨m :: after, r, during, s₂, rfl, handed⟩
  | refused consumed withheld leaves =>
      exact .refused consumed (withheld.step step permitted)
        (leaves.imp fun s₃ leaves => leaves.cons m)
  | failed passes withheld leaves =>
      exact .failed passes (withheld.step step permitted)
        (leaves.imp fun s₃ leaves => leaves.cons m)

/-- How far it has come says how the call ends. -/
theorem FirstCourse.firstCall
    (course : FirstCourse c ⟨e, []⟩ k receiver warned rest cursor since before s)
    (run : Run c ⟨e, []⟩ (since ++ before) s) :
    FirstCall c ⟨e, []⟩ k receiver warned rest cursor since before s := by
  cases course with
  | due left agenda cursors moves undisturbed =>
      have split : s.agenda = (warns left ++ [.cursor 0 (.install (.feed k))]) ++
          .handIteration receiver k :: rest := by simp [agenda]
      exact .underWay _ split (run.of_due split).2.1 (fun _ => by omega)
        fun _ => undisturbed
  | taking unconsumed taking agenda same brief undisturbed =>
      refine .underWay _ agenda (run.of_due agenda).2.1 (fun calm => ?_) undisturbed
      have bound := brief calm
      omega
  | returned unconsumed returned => exact .returned unconsumed returned
  | refused consumed withheld leaves => exact .refused consumed withheld.not_handedOut leaves
  | failed passes withheld leaves => exact .failed passes withheld.not_handedOut leaves

/-! ## Runs -/

/-- What follows a call that is to throw a cause, with its warnings in front. -/
theorem Run.rebuffed {texts : List String} {cause : Cause} {e' : Engine}
    (called : Run c start before ⟨e', warns texts ++ .throw (.arising cause) :: rest⟩)
    (run : Run c start (since ++ before) s) :
    Rebuffed c start cause texts.length rest e' since before s :=
  called.following
    (I := fun since s => Rebuffed c start cause texts.length rest e' since before s)
    (.underWay texts rfl rfl (Nat.zero_add _))
    (fun rebuffed run step permitted => rebuffed.step run step permitted) run

theorem Run.firstCall {texts : List String} {e' : Engine}
    (called : Run c ⟨e, []⟩ before
      ⟨e', warns texts ++ .cursor 0 (.install (.feed k)) :: .handIteration receiver k :: rest⟩)
    (begun : e.Begun o) (unread : e.iterations = #[]) (sole : c.Sole)
    (cursors : e'.cursors = #[cursor])
    (run : Run c ⟨e, []⟩ (since ++ before) s) :
    FirstCall c ⟨e, []⟩ k receiver texts.length rest cursor since before s := by
  have course := called.following
    (I := fun since s =>
      FirstCourse c ⟨e, []⟩ k receiver texts.length rest cursor since before s)
    (.due texts rfl cursors (Nat.zero_add _) (by simp))
    (fun course run step permitted =>
      have ⟨_, lending⟩ := run.lending begun unread sole k
      course.step run lending step permitted) run
  exact course.firstCall run

/-- Whatever the calls for the records of a result, one hands out an iteration at most; one whose
values do not count changes nothing and says so; the first of the others hands out an iteration if
the result is not consumed and says that it is otherwise, unless the query failed to start and
something is thrown when the owner is told; all others throw that the records were asked for. -/
theorem Run.grantsOnce (begun : e.Begun o) (unread : e.iterations = #[])
    (fresh : ∀ q, e.isStarted q = false) (sole : c.Sole) (run : Run c ⟨e, []⟩ h s) :
    GrantsOnce c ⟨e, []⟩ h s := by
  refine ⟨run.handings_le fresh, fun k handed => run.exists_granted (.inl handed), ?_⟩
  rintro call since m earlier s₁ rest ⟨id, options, isStarted⟩ cursor
    ⟨rfl, ⟨r, rfl⟩, before, agenda, found, own, cursors⟩
  obtain rfl : id = 0 := own
  obtain ⟨s₁', s₂, before', step, permitted⟩ := run.exists_step_of_append
  obtain rfl := before.unique before'
  have called := before.snoc step permitted
  have accepted_iff := before.accepted_iff (q := call.id) fresh
  have recorded := before.recorded fresh call.id
  have marked : s₁.engine.isStarted call.id = isStarted := by
    simp [Engine.isStarted, found]
  obtain ⟨same, rfl⟩ := step.exec_of_head agenda rfl
  have begins : s₁.engine.Begins call.id call.fetchSize call.former call.receiver
    (s₁.engine.exec call.instruction) := s₁.engine.begins_exec ..
  generalize s₁.engine.exec call.instruction = after at begins called same
  obtain rfl : r = after.2 := (Move.carried.inj same).2
  cases begins with
  | absent none => simp [found] at none
  | refused found' batch =>
      obtain rfl := Option.some.inj (found.symm.trans found')
      exact .refused batch (QueryResult.kind_of_batch batch)
        (Run.rebuffed (by simpa using called) run)
  | again found' batch started =>
      obtain rfl := Option.some.inj (found.symm.trans found')
      obtain ⟨k, one⟩ := recorded.started (marked.trans started)
      exact .again batch (accepted_iff.2 (by simp [one])) (Run.rebuffed (by simpa using called) run)
  | first found' batch unstarted =>
      obtain rfl := Option.some.inj (found.symm.trans found')
      have nothing := recorded.unstarted (marked.trans unstarted)
      simp only [Reply.onto_go, List.append_assoc, List.cons_append, List.nil_append]
        at called run
      refine .first batch (fun accepted => accepted_iff.1 accepted nothing) ?_
        (called.firstCall begun unread sole cursors run)
      rw [granted_cons, nothing, List.append_nil]
      exact Move.granted_records ..

end Runs

/-! ## Calls that are worked out -/

/-- The records are asked for one after the other: with a value that does not count, with one
under the former name, once more, and again when the result is rolled back. -/
def askedOften : List Act :=
  [.calls [.records 0 (.text "many") .null (.caller "refused"), .guarded .command],
    .calls [.records 0 .null (.int 2) (.caller "records")],
    .calls [.records 0 .null .null (.caller "again"), .guarded .command],
    .calls [.cursor 0 (.rollback (.caller "rolled back"))],
    .calls [.records 0 .null .null (.caller "late"), .guarded .command]]

/-- Where that leads, with its history. -/
def askedOftenPoint : List Move × Situation :=
  Situation.acts 12 askedOften ([], ⟨oneByOneEngine, []⟩)

theorem grantsOnce_askedOften :
    GrantsOnce .discreet ⟨oneByOneEngine, []⟩ askedOftenPoint.1 askedOftenPoint.2 ∧
      granted 0 askedOftenPoint.1 = [0] ∧ handings 0 askedOftenPoint.1 = 1 ∧
      askedOftenPoint.2.agenda.isEmpty = true ∧
      askedOftenPoint.2.engine.cursors.all Cursor.isConsumed = true := by
  have run : Run .discreet ⟨oneByOneEngine, []⟩ askedOftenPoint.1 askedOftenPoint.2 :=
    .of_acts rfl (by decide +kernel) (by decide +kernel)
  have fresh : ∀ q, oneByOneEngine.isStarted q = false := fun q => by
    cases q <;> rfl
  exact ⟨run.grantsOnce unread_oneByOneEngine.toBegun unread_oneByOneEngine.iterations fresh
    Conduct.discreet_sole, by decide +kernel, by decide +kernel, by decide +kernel,
    by decide +kernel⟩

/-! ## A query that failed to start -/

/-- The first call for the records of a result, with values that count, hands out an iteration by
the time that nothing is under way, if the result is not consumed. -/
def ReturnsFirst (c : Conduct) (start : Situation) (h : List Move) (s : Situation) : Prop :=
  ∀ call since m earlier s₁ rest result cursor size,
    Called c start h call since m earlier s₁ rest result cursor →
    call.batch result = .ok size → ¬ Accepted c start call.id earlier →
    cursor.isConsumed = false → s.agenda = [] → HandedOut s₁.engine.iterations.size h

/-- Where the records are asked for of a query that failed to start. -/
def unstartedCall : List Move × Situation :=
  Situation.acts 0 [.calls [.records 0 .null .null (.caller "records")]]
    (Situation.acts 2 [.calls [.openResult 0 .standard]] ([], ⟨unstartedEngine, []⟩))

/-- Where the transaction is to be marked as terminated. -/
def terminatingPoint : List Move × Situation := Situation.advances 11 unstartedCall

/-- Where it leads if that throws. -/
def unterminatedPoint : List Move × Situation :=
  let th : Thrown := .arising .nested
  (.answered (.terminate brokenLink) (.raise th) :: terminatingPoint.1,
    ⟨terminatingPoint.2.engine, (Reply.raise th).onto terminatingPoint.2.agenda.tail⟩)

/-- What is thrown when the owner is told leaves the call, and no iteration is handed out. -/
theorem not_returnsFirst :
    Run .discreet ⟨unstartedEngine, []⟩ unterminatedPoint.1 unterminatedPoint.2 ∧
      ¬ ReturnsFirst .discreet ⟨unstartedEngine, []⟩ unterminatedPoint.1
        unterminatedPoint.2 := by
  have opened : Run .discreet ⟨unstartedEngine, []⟩ unstartedCall.1 unstartedCall.2 :=
    have made : Run .discreet ⟨unstartedEngine, []⟩
        (Situation.acts 2 [.calls [.openResult 0 .standard]] ([], ⟨unstartedEngine, []⟩)).1
        (Situation.acts 2 [.calls [.openResult 0 .standard]] ([], ⟨unstartedEngine, []⟩)).2 :=
      .of_acts rfl (by decide +kernel) (by decide +kernel)
    made.acts_of_isDiscreet rfl (by decide +kernel) (by decide +kernel)
  have terminating : Run .discreet ⟨unstartedEngine, []⟩ terminatingPoint.1 terminatingPoint.2 :=
    opened.advances_of_allAdmitted rfl (by decide +kernel)
  have step : Step terminatingPoint.2
      (.answered (.terminate brokenLink) (.raise (.arising .nested))) unterminatedPoint.2 :=
    .answer (.raise (.arising .nested))
  have run : Run .discreet ⟨unstartedEngine, []⟩ unterminatedPoint.1 unterminatedPoint.2 :=
    terminating.snoc step ⟨rfl, .raise _ rfl id⟩
  refine ⟨run, fun returns => ?_⟩
  obtain ⟨since, history⟩ : unstartedCall.2.advance.1 ++ unstartedCall.1 <:+ unterminatedPoint.1 :=
    (Situation.suffix_advances 10 _ _).trans (List.suffix_cons _ _)
  have called : Called .discreet ⟨unstartedEngine, []⟩ unterminatedPoint.1
      ⟨0, .null, .null, .caller "records"⟩ since _ unstartedCall.1 unstartedCall.2 []
      ⟨0, .standard, false⟩ (.fresh (some brokenLink) 0 0) :=
    { history := history.symm
      move := ⟨_, rfl⟩
      run := opened
      agenda := rfl
      found := rfl
      own := rfl
      cursors := rfl }
  have fresh : ∀ q, unstartedEngine.isStarted q = false := fun q => rfl
  have unaccepted : ¬ Accepted .discreet ⟨unstartedEngine, []⟩ 0 unstartedCall.1 :=
    fun accepted => (opened.accepted_iff fresh).1 accepted rfl
  have handed := returns _ _ _ _ _ _ _ _ FullOptions.standard.fetchSize called rfl unaccepted rfl
    rfl
  have never : ¬ HandedOut 0 unterminatedPoint.1 := by decide +kernel
  exact never handed

end QueryStream
