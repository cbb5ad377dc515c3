/-
  Proofs/FailedStart.lean --- a query that failed to start.

  A cursor that was made with the failure of its query to start passes it on as soon as it
  takes a record consumer, be it asked to take one, for the summary, or to bring the stream to
  its end.  So the stream fails before anything was written, within that one call, and ignores
  whatever comes after (`FailingCourse.step`).  A result that is rolled back first is consumed;
  it takes no consumer any more, and nothing is passed on (`RollingBack.step`).

  The owner is told of the failure before the cursor is.  What it throws then leaves the call
  before the outcome failed (`not_startFails`), and what it rolls back has nothing for its outcome
  by the time that the cursor is told; `Broken` says that one of the two happened.
-/
import QueryStream.Proofs.Disclosure
import QueryStream.Proofs.FailedStart.Telling

set_option autoImplicit false

namespace QueryStream

/-! ## Operations -/

/-- In a history an operation was the first of its kind: it stood first on the agenda of a
situation, with the rest behind it, and was carried out with the first move of what follows. -/
structure OpenedFirst (c : Conduct) (start : Situation) (h : List Move) (a : Cursor.Action)
    (later former : List Move) (s₁ : Situation) (rest : List Instruction) : Prop where
  history : h = later ++ former
  opens : a.opens = true
  first : ∃ r earlier, former = .carried (.cursor 0 a) r :: earlier ∧
    (∀ m ∈ earlier, m.opens = false) ∧ Run c start earlier s₁
  agenda : s₁.agenda = .cursor 0 a :: rest

/-- A call is under way still, what stood behind it being on the agenda: it has been for fewer
moves than a bound, and outside code has not had control since. -/
structure UnderWay (bound : Nat) (rest : List Instruction) (later : List Move) (s : Situation) :
    Prop where
  brief : later.length < bound
  undisturbed : ∀ m ∈ later, m.outside = []
  agenda : ∃ front, front ≠ [] ∧ s.agenda = front ++ rest

/-- At every moment since a call began it was under way: what stood behind it was on the agenda
still, with something in front of it. -/
def Within (c : Conduct) (start : Situation) (rest : List Instruction) (former later : List Move) :
    Prop :=
  ∀ after during s, later = after ++ during → Run c start (during ++ former) s →
    ∃ front, front ≠ [] ∧ s.agenda = front ++ rest

/-- Whenever the owner was told of the end, it did nothing but return. -/
def OwnerReturns (later : List Move) : Prop := ∀ m ∈ later, ¬ m.IsOwners

/-- While a call was under way and the owner was told of the end, it let something be thrown or
the result was rolled back. -/
inductive Broken (c : Conduct) (start : Situation) (rest : List Instruction)
    (former later : List Move) : Prop
  | intro {after during : List Move} {m : Move} (split : later = after ++ m :: during)
      (within : Within c start rest former during) (owners : ¬ OwnerReturns (m :: during))
      (breaks : m.Breaks) : Broken c start rest former later

/-- What stood first is under way, or has thrown a failure by now: after a few moves the failure
was raised in front of what stood behind. -/
inductive Throws (c : Conduct) (start : Situation) (f : Failure) (bound : Nat)
    (behind : List Instruction) (since former : List Move) (s : Situation) : Prop
  | underWay (underWay : UnderWay bound behind since s) :
      Throws c start f bound behind since former s
  | thrown {after during : List Move} {s' : Situation} (split : since = after ++ during)
      (moves : during.length = bound) (run : Run c start (during ++ former) s')
      (agenda : s'.agenda = (Reply.raise (.failure f)).onto behind) :
      Throws c start f bound behind since former s

/-- What holds in a run over a cursor that was made with the failure of its query to start. -/
structure StartFails (c : Conduct) (start : Situation) (f : Failure) (o : PromiseId)
    (h : List Move) (s : Situation) : Prop where
  /-- no request is written -/
  unwritten : ∀ request r, .answered (.write request) r ∉ h
  /-- before a consumer is taken nothing happens -/
  untouched : (∀ m ∈ h, m.opens = false) →
    s.engine.loop.settlement? o = none ∧ s.engine.stream.phase = .ready ∧ notices h = []
  /-- the first operation that has the cursor take a consumer fails the outcome, within that
  call, unless the owner throws something or the result is rolled back meanwhile -/
  fails : ∀ a later former s₁ rest, OpenedFirst c start h a later former s₁ rest →
    (∀ receiver, a ≠ .rollback receiver) →
    Within c start rest former later ∨ FailedWith f o h s ∨ Broken c start rest former later
  /-- it does so in a few moves, if the owner does nothing but return -/
  prompt : ∀ a later former s₁ rest, OpenedFirst c start h a later former s₁ rest →
    (∀ receiver, a ≠ .rollback receiver) → OwnerReturns later →
    UnderWay 20 rest later s ∨ FailedWith f o h s
  /-- whatever the owner does, within that call the stream fails and the owner is told of the
  failure, and of nothing else -/
  told : ∀ a later former s₁ rest, OpenedFirst c start h a later former s₁ rest →
    (∀ receiver, a ≠ .rollback receiver) →
    s.engine.stream.phase = .failed ∧ notices h = [.failure f] ∨
      notices h = [] ∧ Within c start rest former later
  /-- if the result is rolled back first, the outcome is nothing, and no failure is passed on -/
  rollsBack : ∀ receiver later former s₁ rest,
    OpenedFirst c start h (.rollback receiver) later former s₁ rest →
    (UnderWay 2 rest later s ∨ s.engine.loop.settlement? o = some (.value .nothing)) ∧
      s.engine.stream.phase = .ready ∧ notices h = [] ∧ ∀ g r, .carried (.stream (.fail g)) r ∉ h
  /-- an iteration that is the first consumer hands out no record -/
  yieldsNone : ∀ k size later former s₁ rest,
    OpenedFirst c start h (.install (.feed k)) later former s₁ rest →
    s₁.engine.iterations[k]? = some (.ofCursor 0 size) →
    ∀ t r, .carried (.iteration k t .take) r ∈ later → ∀ u record, .yielded u record ∉ r.next
  /-- and throws the failure when it is first read, with the same exception -/
  raises : ∀ k size later former s₁ rest,
    OpenedFirst c start h (.install (.feed k)) later former s₁ rest →
    s₁.engine.iterations[k]? = some (.ofCursor 0 size) →
    ∀ since t r between s₂ behind,
      later = since ++ .carried (.iteration k t .advance) r :: between →
      (∀ m ∈ between, m.reads k = false) → Run c start (between ++ former) s₂ →
      s₂.agenda = .iteration k t .advance :: behind →
      Throws c start f 5 behind since
        (.carried (.iteration k t .advance) r :: (between ++ former)) s ∨
      Broken c start rest former between

section Runs

variable {c : Conduct} {start : Situation} {former later : List Move} {f : Failure}
  {o : PromiseId} {h : List Move} {s s' : Situation} {m : Move} {cursor next : Cursor}
  {rest : List Instruction} {rc : RecordConsumer} {iterations : Array Iteration} {left : Nat}
  {e : Engine} {i : Instruction}

/-! ## A result that is rolled back -/

/-- A cursor over a stream of which nothing was asked, its result being rolled back. -/
structure Abandoned (o : PromiseId) (h : List Move) (s : Situation) (cursor : Cursor) : Prop
    extends Muted o h s cursor where
  stream : s.engine.stream = .waiting
  unheard : notices h = []
  unpassed : ∀ m ∈ h, m.passes = false

/-- Where the rolling back stands: the outcome is settled next, or is, and the result is
consumed. -/
inductive RollingBack (o : PromiseId) (rest : List Instruction) (later h : List Move)
    (s : Situation) : Prop
  | line {cursor : Cursor} (behind : List Instruction) (abandoned : Abandoned o h s cursor)
      (line : Log.Line) (agenda : s.agenda = .ask (.log line) :: .settle o (.value .nothing) ::
        .cursor 0 .markConsumed :: (behind ++ rest))
      (bare : ∀ i ∈ behind ++ rest, i.isBare = true)
      (unsettled : s.engine.loop.settlement? o = none) (since : later = []) :
      RollingBack o rest later h s
  | settle {cursor : Cursor} {behind : List Instruction} (abandoned : Abandoned o h s cursor)
      (agenda : s.agenda = .settle o (.value .nothing) :: .cursor 0 .markConsumed ::
        (behind ++ rest))
      (bare : ∀ i ∈ behind ++ rest, i.isBare = true)
      (unsettled : s.engine.loop.settlement? o = none)
      (since : ∃ m, later = [m] ∧ m.outside = []) : RollingBack o rest later h s
  | mark {cursor : Cursor} {behind : List Instruction} (abandoned : Abandoned o h s cursor)
      (agenda : s.agenda = .cursor 0 .markConsumed :: behind)
      (bare : ∀ i ∈ behind, i.isBare = true)
      (settled : s.engine.loop.settlement? o = some (.value .nothing)) :
      RollingBack o rest later h s
  | finished {cursor : Cursor} (abandoned : Abandoned o h s cursor)
      (bare : ∀ i ∈ s.agenda, i.isBare = true) (consumed : cursor.isConsumed = true)
      (settled : s.engine.loop.settlement? o = some (.value .nothing)) :
      RollingBack o rest later h s

theorem Abandoned.goOn (abandoned : Abandoned o h s cursor) (unserved : c.Unserved)
    (step : Step s m s') (permitted : c.Permits h m) (stream : s'.engine.stream = s.engine.stream)
    (notice : m.notice? = none) (passes : m.passes = false) (unwritten : m.isWrite = false) :
    ∃ next, Abandoned o (m :: h) s' next := by
  obtain ⟨next, muted⟩ := abandoned.toMuted.step unserved step permitted unwritten
  exact ⟨next, { muted with
    stream := stream.trans abandoned.stream
    unheard := notices_of_none notice abandoned.unheard
    unpassed := List.forall_mem_cons.2 ⟨passes, abandoned.unpassed⟩ }⟩

theorem Untouched.rollingBack {receiver : Receiver} (untouched : Untouched f o h s cursor)
    (agenda : s.agenda = .cursor 0 (.rollback receiver) :: rest)
    (bare : ∀ i ∈ rest, i.isBare = true) (unserved : c.Unserved) (step : Step s m s')
    (permitted : c.Permits h m) : RollingBack o rest [] (m :: h) s' := by
  have outcome := untouched.attached.outcome_eq
  subst outcome
  obtain ⟨rfl, rfl⟩ := untouched.attached.accepted step agenda (by rfl)
  obtain ⟨next, muted⟩ := untouched.toMuted.step unserved step permitted rfl
  have abandoned : Abandoned cursor.outcome _ _ next :=
    { muted with
      stream := untouched.stream
      unheard := notices_of_none rfl untouched.unheard
      unpassed := List.forall_mem_cons.2 ⟨rfl, untouched.unpassed⟩ }
  exact .line [.release cursor.release receiver] abandoned _ rfl
    (by simpa [Instruction.isBare] using bare) untouched.unsettled rfl

theorem RollingBack.step {later : List Move} (rolling : RollingBack o rest later h s)
    (unserved : c.Unserved) (step : Step s m s') (permitted : c.Permits h m) :
    RollingBack o rest (m :: later) (m :: h) s' := by
  cases rolling with
  | line behind abandoned line agenda bare unsettled since =>
      subst since
      obtain ⟨rfl, rfl⟩ := step.of_notice permitted agenda rfl
      obtain ⟨next, abandoned'⟩ := abandoned.goOn unserved step permitted rfl rfl rfl rfl
      exact .settle abandoned' rfl bare unsettled ⟨_, rfl, rfl⟩
  | settle abandoned agenda bare unsettled since =>
      have created := abandoned.orderly.bounded _ _ abandoned.reserved.plays
      have settled := Loop.settlement?_settle_self (s := .value .nothing) created
      rw [unsettled, Option.none_or] at settled
      obtain ⟨rfl, rfl⟩ := step.exec_of_head agenda rfl
      obtain ⟨next, abandoned'⟩ := abandoned.goOn unserved step permitted rfl rfl rfl rfl
      exact .mark abandoned' rfl bare settled
  | mark abandoned agenda bare settled =>
      have settled' := (step.onward abandoned.orderly.steady).settled settled
      obtain ⟨rfl, rfl⟩ := abandoned.attached.accepted step agenda (by rfl)
      obtain ⟨next, abandoned'⟩ := abandoned.goOn unserved step permitted rfl rfl rfl rfl
      obtain rfl := by simpa using abandoned'.attached.cursors
      exact .finished abandoned' bare rfl settled'
  | finished abandoned bare consumed settled =>
      have dull : s.engine.stream.Dull := abandoned.stream ▸ Stream.dull_waiting
      obtain ⟨unwritten, unheard, unpassed⟩ := step.unheard_of_bare fun i head =>
        bare i (List.mem_of_mem_head? head)
      obtain ⟨stream, bare'⟩ := abandoned.attached.bare_step unserved step permitted bare dull
        fun _ _ _ => .inl consumed
      obtain ⟨next, abandoned'⟩ := abandoned.goOn unserved step permitted stream unheard
        (Move.passes_eq_false unpassed) unwritten
      exact .finished abandoned' bare'
        (abandoned.attached.isConsumed_step step permitted abandoned'.attached.cursors consumed)
        ((step.onward abandoned.orderly.steady).settled settled)

/-! ## Runs -/

theorem Within.cons (within : Within c start rest former later)
    (run : Run c start (m :: later ++ former) s')
    (agenda : ∃ front, front ≠ [] ∧ s'.agenda = front ++ rest) :
    Within c start rest former (m :: later) := by
  intro after during s split run'
  cases after with
  | nil =>
      obtain rfl : m :: later = during := split
      obtain rfl := run.unique run'
      exact agenda
  | cons m' after => exact within after during s (List.cons.inj split).2 run'

theorem within_nil (run : Run c start former s)
    (agenda : ∃ front, front ≠ [] ∧ s.agenda = front ++ rest) :
    Within c start rest former [] := by
  intro after during s' split run'
  obtain ⟨rfl, rfl⟩ := List.append_eq_nil_iff.1 split.symm
  obtain rfl := run.unique run'
  exact agenda

theorem Broken.cons (broken : Broken c start rest former later) (m : Move) :
    Broken c start rest former (m :: later) := by
  obtain @⟨after, during, m', rfl, within, owners, breaks⟩ := broken
  have split : m :: (after ++ m' :: during) = (m :: after) ++ m' :: during := rfl
  exact .intro split within owners breaks

theorem OwnerReturns.of_cons (returns : OwnerReturns (m :: later)) : OwnerReturns later :=
  fun m mem => returns m (List.mem_cons_of_mem _ mem)

/-- With an owner that does nothing but return a call is not disturbed. -/
theorem Broken.not_returns (broken : Broken c start rest former later) : ¬ OwnerReturns later := by
  obtain ⟨rfl, -, owners, -⟩ := broken
  exact fun returns => owners fun m mem => returns m (List.mem_append_right _ mem)

/-- What follows the first operation that has the cursor take a consumer. -/
inductive FailingCourse (c : Conduct) (start : Situation) (f : Failure) (o : PromiseId)
    (rc : RecordConsumer) (rest : List Instruction) (iterations : Array Iteration)
    (former later : List Move) (s : Situation) : Prop
  | underWay {left : Nat} (attempt : Attempt f o rc rest iterations left (later ++ former) s)
      (unsettled : 0 < left) (within : Within c start rest former later)
      (prompt : OwnerReturns later →
        later.length + left ≤ 20 ∧ ∀ m ∈ later, m.outside = []) :
      FailingCourse c start f o rc rest iterations former later s
  | owner {cursor : Cursor} {before behind : List Instruction}
      (telling : TellingOwner f o rc (behind ++ rest) iterations before (later ++ former) s cursor)
      (bare : ∀ i ∈ behind, i.isBare = true) (within : Within c start rest former later)
      (owners : ¬ OwnerReturns later) :
      FailingCourse c start f o rc rest iterations former later s
  | telling {cursor : Cursor} {behind : List Instruction}
      (spent : Spent f o (later ++ former) s cursor)
      (agenda : s.agenda = .tellEnd rc (some f) :: behind) (bare : ∀ i ∈ behind, i.isBare = true)
      (untold : Untold rc iterations s.engine) :
      FailingCourse c start f o rc rest iterations former later s
  | told {cursor : Cursor} (spent : Spent f o (later ++ former) s cursor)
      (bare : ∀ i ∈ s.agenda, i.isBare = true)
      (primed : ∀ k size, rc = .feed k → iterations[k]? = some (.ofCursor 0 size) →
        Primed f k later s) : FailingCourse c start f o rc rest iterations former later s
  | broken {cursor : Cursor} (stray : Stray f o rc iterations (later ++ former) s cursor)
      (broken : Broken c start rest former later) :
      FailingCourse c start f o rc rest iterations former later s

/-- Of an operation that is under way something is on the agenda. -/
theorem Attempt.agenda (attempt : Attempt f o rc rest iterations left h s) :
    ∃ front, front ≠ [] ∧ s.agenda = front ++ rest := by
  cases attempt with
  | @beginning cursor front behind untouched stage agenda bare same =>
      refine ⟨front ++ behind, ?_, by rw [agenda, List.append_assoc]⟩
      cases stage <;> simp
  | @failing cursor behind fails bare =>
      obtain ⟨front, stage, agenda⟩ := fails.stage
      refine ⟨front ++ behind, ?_, by rw [agenda, List.append_assoc]⟩
      generalize s.engine.stream = st, verdicts 0 h = vs, notices h = ns at stage
      cases stage <;> simp

theorem Attempt.notices (attempt : Attempt f o rc rest iterations left h s) :
    s.engine.stream.phase = .failed ∧ notices h = [.failure f] ∨ notices h = [] := by
  cases attempt with
  | beginning behind untouched => exact .inr untouched.unheard
  | failing behind fails bare =>
      obtain ⟨front, stage, agenda⟩ := fails.stage
      generalize s.engine.stream = st, verdicts 0 h = vs, QueryStream.notices h = ns at stage ⊢
      cases stage <;> first | exact .inr rfl | exact .inl ⟨rfl, rfl⟩

theorem Attempt.course (attempt : Attempt f o rc rest iterations left (later ++ former) s)
    (bare : ∀ i ∈ rest, i.isBare = true)
    (within : (∃ front, front ≠ [] ∧ s.agenda = front ++ rest) → Within c start rest former later)
    (prompt : OwnerReturns later → later.length + left ≤ 20 ∧ ∀ m ∈ later, m.outside = []) :
    FailingCourse c start f o rc rest iterations former later s := by
  rcases Nat.eq_zero_or_pos left with settled | unsettled
  · cases attempt with
    | beginning behind untouched stage agenda _ same => cases stage <;> cases settled
    | failing behind fails bare' =>
        obtain ⟨spent, agenda⟩ := fails.spent settled
        exact .telling spent agenda (fun i mem => (List.mem_append.1 mem).elim (bare' i) (bare i))
          fails.untold
  · exact .underWay attempt unsettled (within attempt.agenda) prompt

/-- An owner that is told of the failure does what it does, the stream goes on behind it, or one
of them breaks the call off. -/
theorem TellingOwner.course {before behind : List Instruction}
    (telling : TellingOwner f o rc (behind ++ rest) iterations before (later ++ former) s cursor)
    (bare' : ∀ i ∈ behind, i.isBare = true) (bare : ∀ i ∈ rest, i.isBare = true)
    (within : Within c start rest former later) (owners : ¬ OwnerReturns (m :: later))
    (unserved : c.Unserved) (run : Run c start (m :: later ++ former) s') (step : Step s m s')
    (permitted : c.Permits (later ++ former) m) :
    FailingCourse c start f o rc rest iterations former (m :: later) s' := by
  cases before with
  | nil =>
      rcases telling.fails.step unserved step permitted (by decide) with
        ⟨-, fewer, next, -, fails⟩ | ⟨⟨a, r, rfl, -⟩, -⟩
      · have attempt : Attempt f o rc rest iterations fewer (m :: later ++ former) s' :=
          .failing behind fails bare'
        exact attempt.course bare (within.cons run) fun returns => absurd returns owners
      · cases (step.exec_of_head telling.agenda rfl).1
  | cons i before =>
      by_cases breaks : m.Breaks
      · have stray := telling.stray fun i mem => (List.mem_append.1 mem).elim (bare' i) (bare i)
        obtain ⟨next, stray'⟩ := stray.step unserved step permitted
        exact .broken stray' (.intro (List.nil_append _).symm within owners breaks)
      · obtain ⟨before', next, telling'⟩ := telling.step unserved step permitted breaks
        refine .owner telling' bare' (within.cons run ?_) owners
        exact ⟨before' ++ .stream (.concludeFailure f) :: behind, by simp,
          by simp [telling'.agenda]⟩

theorem FailingCourse.step (course : FailingCourse c start f o rc rest iterations former later s)
    (bare : ∀ i ∈ rest, i.isBare = true) (unserved : c.Unserved)
    (run : Run c start (m :: later ++ former) s') (step : Step s m s')
    (permitted : c.Permits (later ++ former) m) :
    FailingCourse c start f o rc rest iterations former (m :: later) s' := by
  cases course with
  | underWay attempt unsettled within prompt =>
      rcases attempt.step unserved step permitted unsettled with
        ⟨silent, fewer, less, attempt'⟩ | ⟨owners, before, behind, cursor, bare', telling⟩
      · refine attempt'.course bare (within.cons run) fun returns => ?_
        obtain ⟨brief, undisturbed⟩ := prompt returns.of_cons
        refine ⟨?_, List.forall_mem_cons.2 ⟨silent, undisturbed⟩⟩
        rw [List.length_cons]
        omega
      · exact telling.course bare' bare within
          (fun returns => returns m (List.mem_cons_self ..) owners) unserved run step permitted
  | owner telling bare' within owners =>
      exact telling.course bare' bare within (fun returns => owners returns.of_cons) unserved run
        step permitted
  | telling spent agenda behind untold =>
      obtain ⟨⟨next, spent'⟩, bare'⟩ := spent.tellEnd_step agenda behind unserved step permitted
      refine .told spent' bare' fun k size fed found => ?_
      subst fed
      obtain ⟨-, rfl⟩ := step.exec_of_head agenda rfl
      exact untold.primed found
  | told spent bare primed =>
      obtain ⟨⟨next, spent'⟩, bare'⟩ := spent.step bare unserved step permitted
      exact .told spent' bare' fun k size fed found => (primed k size fed found).step step bare
  | broken stray broken =>
      obtain ⟨next, stray'⟩ := stray.step unserved step permitted
      exact .broken stray' (broken.cons m)

theorem Attempt.muted (attempt : Attempt f o rc rest iterations left h s) :
    ∃ cursor, Muted o h s cursor := by
  cases attempt with
  | beginning behind untouched => exact ⟨_, untouched.toMuted⟩
  | failing behind fails => exact ⟨_, fails.toMuted⟩

theorem FailingCourse.muted
    (course : FailingCourse c start f o rc rest iterations former later s) :
    ∃ cursor, Muted o (later ++ former) s cursor := by
  cases course with
  | underWay attempt => exact attempt.muted
  | owner telling => exact ⟨_, telling.toMuted⟩
  | telling spent | told spent => exact ⟨_, spent.toMuted⟩
  | broken stray => exact ⟨_, stray.toMuted⟩

theorem FailingCourse.notices
    (course : FailingCourse c start f o rc rest iterations former later s) :
    s.engine.stream.phase = .failed ∧ notices (later ++ former) = [.failure f] ∨
      notices (later ++ former) = [] ∧ Within c start rest former later := by
  cases course with
  | underWay attempt _ within => exact attempt.notices.imp_right fun none => ⟨none, within⟩
  | owner telling => exact .inl ⟨by rw [telling.stream]; rfl, telling.told⟩
  | telling spent | told spent => exact .inl ⟨spent.phase, spent.told⟩
  | broken stray =>
      refine .inl ⟨?_, stray.told⟩
      rcases stray.stream with failing | spent
      · rw [failing]; rfl
      · rw [spent]; rfl

/-- While the owner is told, no iteration is read. -/
theorem TellingOwner.ne_iteration {before behind : List Instruction} {k : IterationId} {t : TaskId}
    {a : Iteration.Action} (telling : TellingOwner f o rc rest iterations before h s cursor) :
    s.agenda ≠ .iteration k t a :: behind := by
  intro head
  have agenda := telling.agenda
  rw [head] at agenda
  cases before with
  | nil => cases agenda
  | cons i before =>
      obtain ⟨rfl, -⟩ := List.cons.inj agenda
      cases telling.shield.plain _ (List.mem_cons_self ..)

/-- Whoever reads an iteration does so once the failure was told, or the call was broken off. -/
theorem FailingCourse.primed {k : IterationId} {size : FetchSize} {t : TaskId}
    {a : Iteration.Action} {behind : List Instruction}
    (course : FailingCourse c start f o (.feed k) rest iterations former later s)
    (found : iterations[k]? = some (.ofCursor 0 size))
    (agenda : s.agenda = .iteration k t a :: behind) :
    Primed f k later s ∨ Broken c start rest former later := by
  cases course with
  | underWay attempt => exact absurd agenda attempt.ne_iteration
  | owner telling => exact absurd agenda telling.ne_iteration
  | telling spent agenda' =>
      rw [agenda] at agenda'
      cases agenda'
  | told spent bare primed => exact .inl (primed k size rfl found)
  | broken stray broken => exact .inr broken

theorem FailingCourse.recordless {k : IterationId} {t : TaskId} {a : Iteration.Action}
    {behind : List Instruction}
    (course : FailingCourse c start f o rc rest iterations former later s)
    (agenda : s.agenda = .iteration k t a :: behind) : Recordless rc iterations s.engine := by
  cases course with
  | underWay attempt => exact absurd agenda attempt.ne_iteration
  | owner telling => exact telling.untold.recordless
  | telling spent agenda' bare untold => exact untold.recordless
  | told spent bare primed =>
      intro k size fed found
      obtain ⟨there, recordless, -⟩ := primed k size fed found
      exact ⟨_, there, recordless⟩
  | broken stray => exact stray.recordless

/-- An operation that opens rolls the result back, or has the cursor take a consumer. -/
theorem Cursor.Action.beginning {a : Cursor.Action} (opens : a.opens = true)
    (other : ∀ receiver, a ≠ .rollback receiver) :
    ∃ rc left, Beginning rc left [.cursor 0 a] ∧ left ≤ 21 ∧
      ∀ consumer, a = .install consumer → rc = consumer := by
  cases a with
  | install consumer =>
      exact ⟨consumer, 18, .install consumer, by decide, fun _ same => (Action.install.inj same)⟩
  | summary receiver =>
      exact ⟨.discard, 20, .summary receiver, by decide, fun _ same => by cases same⟩
  | discardAll receiver =>
      exact ⟨.discard, 20, .discardAll receiver, by decide, fun _ same => by cases same⟩
  | pullAll receiver =>
      exact ⟨.discard, 21, .pullAll receiver, by decide, fun _ same => by cases same⟩
  | rollback receiver => exact absurd rfl (other receiver)
  | _ => cases opens

theorem Run.failingCourse {s₁ : Situation} {a : Cursor.Action} {r : Reply}
    {earlier : List Move} (before : Run c start earlier s₁)
    (unopened : Unopened f o earlier s₁ cursor) (agenda : s₁.agenda = .cursor 0 a :: rest)
    (beginning : Beginning rc left [.cursor 0 a]) (few : left ≤ 21) (unserved : c.Unserved)
    {later : List Move} {s : Situation}
    (run : Run c start (later ++ .carried (.cursor 0 a) r :: earlier) s) :
    FailingCourse c start f o rc rest s₁.engine.iterations
      (.carried (.cursor 0 a) r :: earlier) later s := by
  have bare : ∀ i ∈ rest, i.isBare = true := fun i mem => unopened.bare i (by simp [agenda, mem])
  refine before.followingMove
    (I := fun later s => FailingCourse c start f o rc rest s₁.engine.iterations
      (.carried (.cursor 0 a) r :: earlier) later s)
    (fun step permitted => ?_)
    (fun course run step permitted =>
      course.step bare unserved (run.snoc step permitted) step permitted) run
  obtain ⟨-, fewer, less, attempt⟩ := unopened.toUntouched.attempt_step [] beginning
    agenda (by simp) unserved step permitted
  have attempt' : Attempt f o rc rest s₁.engine.iterations fewer
      ([] ++ .carried (.cursor 0 a) r :: earlier) _ := attempt
  refine attempt'.course bare (within_nil (before.snoc step permitted)) fun _ => ⟨?_, by simp⟩
  rw [List.length_nil]
  omega

theorem Run.rollingBack {start s₁ : Situation} {receiver : Receiver} {r : Reply}
    {earlier : List Move} (before : Run c start earlier s₁)
    (unopened : Unopened f o earlier s₁ cursor)
    (agenda : s₁.agenda = .cursor 0 (.rollback receiver) :: rest) (unserved : c.Unserved)
    {later : List Move} {s : Situation}
    (run : Run c start (later ++ .carried (.cursor 0 (.rollback receiver)) r :: earlier) s) :
    RollingBack o rest later
      (later ++ .carried (.cursor 0 (.rollback receiver)) r :: earlier) s := by
  have bare : ∀ i ∈ rest, i.isBare = true := fun i mem => unopened.bare i (by simp [agenda, mem])
  exact before.followingMove
    (I := fun later s => RollingBack o rest later
      (later ++ .carried (.cursor 0 (.rollback receiver)) r :: earlier) s)
    (fun step permitted =>
      unopened.toUntouched.rollingBack agenda bare unserved step permitted)
    (fun rolling _ step permitted => rolling.step unserved step permitted) run

theorem Run.throws {start s₁ : Situation} {k : IterationId} {behind : List Instruction}
    {former : List Move} (before : Run c start former s₁) (emerging : Emerging f k behind 5 s₁)
    {since : List Move} {s : Situation} (run : Run c start (since ++ former) s) :
    Throws c start f 5 behind since former s := by
  -- The reading has so many moves to go, or the failure was raised after some of what followed.
  have goesOn :
      (∃ n, since.length + n = 5 ∧ (∀ m ∈ since, m.outside = []) ∧ Emerging f k behind n s) ∨
      ∃ after during s', since = after ++ during ∧ during.length = 5 ∧
        Run c start (during ++ former) s' ∧ s'.agenda = (Reply.raise (.failure f)).onto behind := by
    induction since generalizing s with
    | nil =>
        obtain rfl := before.unique run
        exact .inl ⟨5, rfl, by simp, emerging⟩
    | cons m since ih =>
        cases run with
        | snoc run step permitted =>
            rcases ih run with ⟨n, moves, undisturbed, emerging⟩ | ⟨after, during, s', rfl, thrown⟩
            · cases n with
              | zero =>
                  cases emerging with
                  | raised agenda => exact .inr ⟨[m], since, _, rfl, moves, run, agenda⟩
              | succ n =>
                  obtain ⟨silent, emerging'⟩ := emerging.step step
                  refine .inl ⟨n, ?_, List.forall_mem_cons.2 ⟨silent, undisturbed⟩, emerging'⟩
                  rw [List.length_cons]
                  omega
            · exact .inr ⟨m :: after, during, s', rfl, thrown⟩
  rcases goesOn with ⟨n, moves, undisturbed, emerging⟩ |
    ⟨after, during, s', split, moves, run', agenda⟩
  · cases n with
    | zero =>
        cases emerging with
        | raised agenda => exact .thrown (List.nil_append since).symm moves run agenda
    | succ n => exact .underWay ⟨by omega, undisturbed, emerging.agenda⟩
  · exact .thrown split moves run' agenda

/-- In a run either nothing opens, or something was the first to. -/
theorem Run.exists_openedFirst {start : Situation} (run : Run c start h s) :
    (∀ m ∈ h, m.opens = false) ∨
      ∃ a later former s₁ rest, OpenedFirst c start h a later former s₁ rest := by
  induction run with
  | nil => exact .inl (by simp)
  | @snoc h s s' m run step permitted ih =>
      rcases ih with none | ⟨a, later, former, s₁, rest, opened⟩
      · cases opens : m.opens with
        | false => exact .inl (List.forall_mem_cons.2 ⟨opens, none⟩)
        | true =>
            unfold Move.opens at opens
            split at opens
            · rename_i id a r
              obtain ⟨here, opens⟩ := Bool.and_eq_true_iff.1 opens
              obtain rfl : id = 0 := by simpa using here
              obtain ⟨rest, head⟩ := step.head_of_carried
              exact .inr ⟨a, [], _, s, rest, rfl, opens, ⟨r, h, rfl, none, run⟩, head⟩
            · cases opens
      · exact .inr ⟨a, m :: later, former, s₁, rest, by rw [opened.history]; rfl, opened.opens,
          opened.first, opened.agenda⟩

section Main

variable {start s₁ : Situation} {release : ReleaseId} {a : Cursor.Action} {later former : List Move}

theorem OpenedFirst.failingCourse (opened : OpenedFirst c ⟨e, []⟩ h a later former s₁ rest)
    (other : ∀ receiver, a ≠ .rollback receiver) (secluded : e.Secluded o)
    (cursors : e.cursors = #[.fresh (some f) release o]) (unserved : c.Unserved) :
    ∃ rc, (∀ consumer, a = .install consumer → rc = consumer) ∧
      ∀ {since : List Move} {s : Situation}, Run c ⟨e, []⟩ (since ++ former) s →
        FailingCourse c ⟨e, []⟩ f o rc rest s₁.engine.iterations former since s := by
  obtain ⟨r, earlier, rfl, first, before⟩ := opened.first
  obtain ⟨cursor, unopened⟩ := before.unopened secluded cursors unserved first
  obtain ⟨rc, left, beginning, few, same⟩ := Cursor.Action.beginning opened.opens other
  exact ⟨rc, same, fun run =>
    before.failingCourse unopened opened.agenda beginning few unserved run⟩

theorem OpenedFirst.rollingBack {receiver : Receiver}
    (opened : OpenedFirst c ⟨e, []⟩ h (.rollback receiver) later former s₁ rest)
    (secluded : e.Secluded o) (cursors : e.cursors = #[.fresh (some f) release o])
    (unserved : c.Unserved) (run : Run c ⟨e, []⟩ h s) : RollingBack o rest later h s := by
  obtain ⟨r, earlier, rfl, first, before⟩ := opened.first
  obtain ⟨cursor, unopened⟩ := before.unopened secluded cursors unserved first
  rw [opened.history] at run ⊢
  exact before.rollingBack unopened opened.agenda unserved run

theorem RollingBack.abandoned (rolling : RollingBack o rest later h s) :
    ∃ cursor, Abandoned o h s cursor := by
  cases rolling with
  | line _ abandoned | settle abandoned | mark abandoned | finished abandoned =>
      exact ⟨_, abandoned⟩

/-- The outcome is nothing at the latest after two moves. -/
theorem RollingBack.outcome (rolling : RollingBack o rest later h s) :
    UnderWay 2 rest later s ∨ s.engine.loop.settlement? o = some (.value .nothing) := by
  cases rolling with
  | @line cursor behind abandoned line agenda bare unsettled since =>
      subst since
      exact .inl ⟨by decide, by simp, .ask (.log line) :: .settle o (.value .nothing) ::
        .cursor 0 .markConsumed :: behind, by simp, agenda⟩
  | @settle cursor behind abandoned agenda bare unsettled since =>
      obtain ⟨m, rfl, silent⟩ := since
      exact .inl ⟨by simp, by simpa using silent, .settle o (.value .nothing) ::
        .cursor 0 .markConsumed :: behind, by simp, agenda⟩
  | mark _ _ _ settled | finished _ _ _ settled => exact .inr settled

/-- By the time that the call is over the stream failed, unless it was broken off. -/
theorem FailingCourse.outcome
    (course : FailingCourse c start f o rc rest iterations former later s) :
    Within c start rest former later ∨ FailedWith f o (later ++ former) s ∨
      Broken c start rest former later := by
  cases course with
  | underWay _ _ within => exact .inl within
  | owner _ _ within => exact .inl within
  | telling spent | told spent => exact .inr (.inl spent.toFailedWith)
  | broken _ broken => exact .inr (.inr broken)

/-- With an owner that does nothing but return that is at the latest after twenty moves. -/
theorem FailingCourse.prompt
    (course : FailingCourse c start f o rc rest iterations former later s)
    (returns : OwnerReturns later) :
    UnderWay 20 rest later s ∨ FailedWith f o (later ++ former) s := by
  cases course with
  | underWay attempt unsettled within prompt =>
      obtain ⟨brief, undisturbed⟩ := prompt returns
      exact .inl ⟨by omega, undisturbed, attempt.agenda⟩
  | owner _ _ _ owners => exact absurd returns owners
  | telling spent | told spent => exact .inr spent.toFailedWith
  | broken _ broken => exact absurd returns broken.not_returns

/-- Whatever comes first, a cursor being taken or rolled back or neither, nothing is written. -/
theorem Run.muted (secluded : e.Secluded o)
    (cursors : e.cursors = #[.fresh (some f) release o]) (unserved : c.Unserved)
    (run : Run c ⟨e, []⟩ h s) : ∃ cursor, Muted o h s cursor := by
  rcases run.exists_openedFirst with none | ⟨a, later, former, s₁, rest, opened⟩
  · obtain ⟨cursor, unopened⟩ := run.unopened secluded cursors unserved none
    exact ⟨cursor, unopened.toMuted⟩
  · by_cases other : ∀ receiver, a ≠ .rollback receiver
    · obtain ⟨rc, -, course⟩ := opened.failingCourse other secluded cursors unserved
      have history := opened.history
      subst history
      exact (course run).muted
    · obtain ⟨receiver, rfl⟩ : ∃ receiver, a = .rollback receiver := by simpa using other
      obtain ⟨cursor, abandoned⟩ := (opened.rollingBack secluded cursors unserved run).abandoned
      exact ⟨cursor, abandoned.toMuted⟩

/-- A cursor that was made with the failure of its query to start, over a stream that no server
answers: nothing is written; what first has the cursor take a record consumer fails the outcome
at once, unless the result was rolled back before; an iteration that is that consumer hands out
nothing and throws the failure. -/
theorem Run.startFails (secluded : e.Secluded o)
    (cursors : e.cursors = #[.fresh (some f) release o]) (unserved : c.Unserved)
    (run : Run c ⟨e, []⟩ h s) : StartFails c ⟨e, []⟩ f o h s := by
  have courses : ∀ {k later former s₁ rest},
      OpenedFirst c ⟨e, []⟩ h (.install (.feed k)) later former s₁ rest →
      ∀ {since : List Move} {s : Situation}, Run c ⟨e, []⟩ (since ++ former) s →
        FailingCourse c ⟨e, []⟩ f o (.feed k) rest s₁.engine.iterations former since s := by
    intro k later former s₁ rest opened since s run
    obtain ⟨rc, same, course⟩ := opened.failingCourse (by simp) secluded cursors unserved
    obtain rfl := same _ rfl
    exact course run
  have course : ∀ {a later former s₁ rest}, OpenedFirst c ⟨e, []⟩ h a later former s₁ rest →
      (∀ receiver, a ≠ .rollback receiver) →
      ∃ rc, FailingCourse c ⟨e, []⟩ f o rc rest s₁.engine.iterations former later s := by
    intro a later former s₁ rest opened other
    obtain ⟨rc, -, course⟩ := opened.failingCourse other secluded cursors unserved
    have history := opened.history
    subst history
    exact ⟨rc, course run⟩
  refine ⟨fun request r mem => ?_, fun none => ?_, ?_, ?_, ?_, ?_, ?_, ?_⟩
  · obtain ⟨cursor, muted⟩ := run.muted secluded cursors unserved
    cases muted.unwritten _ mem
  · obtain ⟨cursor, unopened⟩ := run.unopened secluded cursors unserved none
    exact ⟨unopened.unsettled, by rw [unopened.stream]; rfl, unopened.unheard⟩
  · intro a later former s₁ rest opened other
    obtain ⟨rc, course⟩ := course opened other
    rw [opened.history]
    exact course.outcome
  · intro a later former s₁ rest opened other returns
    obtain ⟨rc, course⟩ := course opened other
    rw [opened.history]
    exact course.prompt returns
  · intro a later former s₁ rest opened other
    obtain ⟨rc, course⟩ := course opened other
    rw [opened.history]
    exact course.notices
  · intro receiver later former s₁ rest opened
    have rolling := opened.rollingBack secluded cursors unserved run
    obtain ⟨cursor, abandoned⟩ := rolling.abandoned
    refine ⟨rolling.outcome, by rw [abandoned.stream]; rfl, abandoned.unheard, fun g r mem => ?_⟩
    cases abandoned.unpassed _ mem
  · intro k size later former s₁ rest opened found t r mem
    obtain ⟨after, since, rfl⟩ := List.append_of_mem mem
    have history := opened.history
    subst history
    rw [List.append_assoc, List.cons_append] at run
    obtain ⟨s₂, s₃, run', step, permitted⟩ := run.exists_step_of_append
    obtain ⟨behind, head⟩ := step.head_of_carried
    exact ((courses opened run').recordless head).yields_none found head step
  · intro k size later former s₁ rest opened found since t r between s₂ behind split unread
      run' head
    have history := opened.history
    subst history split
    rw [List.append_assoc, List.cons_append] at run
    obtain ⟨s₂', s₃, run₂, step, permitted⟩ := run.exists_step_of_append
    obtain rfl := run'.unique run₂
    refine ((courses opened run').primed found head).imp_left fun primed => ?_
    obtain @⟨it, present, recordless, primed⟩ := primed
    obtain ⟨unended, signals⟩ := primed unread
    have emerging := emerging_of_advance present unended signals head step
    exact (run'.snoc step permitted).throws emerging run

end Main

end Runs

/-! ## A run that is worked out -/

/-- A cursor of a query that failed to start, of which nothing was asked. -/
def unstartedEngine : Engine := soleEngineOf (.given brokenLink)

/-- A request is refused while there is no record consumer; then the records are to be read. -/
def unstartedPoint : List Move × Situation :=
  Situation.acts 1 [.calls [.records 0 .null .null (.caller "reading")]]
    (Situation.acts 12
      [.calls [.openResult 0 .standard], .calls [.cursor 0 (.request 1), .guarded .command]]
      ([], ⟨unstartedEngine, []⟩))

/-- The iteration becomes the record consumer, and a record is read of it. -/
def readUnstarted : List Move × Situation :=
  Situation.acts 20 [.calls [.spawn (.next 0) (.caller "record")], .job, .job]
    (Situation.advances 20 unstartedPoint)

theorem startFails_readUnstarted :
    StartFails .unserved ⟨unstartedEngine, []⟩ brokenLink 0 readUnstarted.1 readUnstarted.2 ∧
      (∃ later former rest, OpenedFirst .unserved ⟨unstartedEngine, []⟩ readUnstarted.1
        (.install (.feed 0)) later former unstartedPoint.2 rest) ∧
      unstartedPoint.2.engine.iterations[0]? = some (.ofCursor 0 FullOptions.standard.fetchSize) ∧
      readUnstarted.2.engine.failure? 1 = some brokenLink := by
  have made : Run .unserved ⟨unstartedEngine, []⟩ unstartedPoint.1 unstartedPoint.2 :=
    .acts_of_isUnserved (.acts_of_isUnserved .nil rfl (by decide) (by decide +kernel)) rfl
      (by decide) (by decide +kernel)
  have begun : Run .unserved ⟨unstartedEngine, []⟩ (Situation.advances 20 unstartedPoint).1
      (Situation.advances 20 unstartedPoint).2 :=
    made.advances_to 20 rfl (Conduct.unserved_keepsAll (by decide +kernel))
  have run : Run .unserved ⟨unstartedEngine, []⟩ readUnstarted.1 readUnstarted.2 :=
    begun.acts_of_isUnserved rfl (by decide) (by decide +kernel)
  have cursors : unstartedEngine.cursors = #[.fresh (some brokenLink) 0 0] := rfl
  refine ⟨run.startFails (secluded_soleEngineOf _) cursors Conduct.unserved_unserved, ?_, rfl,
    by decide +kernel⟩
  have agenda : unstartedPoint.2.agenda
      = [.cursor 0 (.install (.feed 0)), .handIteration (.caller "reading") 0] := rfl
  obtain ⟨later, history⟩ : unstartedPoint.2.advance.1 ++ unstartedPoint.1 <:+ readUnstarted.1 :=
    (Situation.suffix_advances 19 _ _).trans (Situation.suffix_acts 20 _ _ _)
  refine ⟨later, _, _, ⟨history.symm, rfl,
    ⟨(unstartedPoint.2.engine.exec (.cursor 0 (.install (.feed 0)))).2, unstartedPoint.1, ?_, ?_,
      made⟩, agenda⟩⟩
  · simp only [Situation.advance, agenda, List.singleton_append]
  · have none : (unstartedPoint.1.all fun m => !m.opens) = true := by decide +kernel
    simpa using none

/-! ## An owner that does more than return -/

/-- The first operation that has the cursor take a consumer fails the outcome by the time that
nothing is under way. -/
def FailsAtOnce (c : Conduct) (start : Situation) (f : Failure) (o : PromiseId) (h : List Move)
    (s : Situation) : Prop :=
  ∀ a later former s₁ rest, OpenedFirst c start h a later former s₁ rest →
    (∀ receiver, a ≠ .rollback receiver) → s.agenda = [] → FailedWith f o h s

/-- The cursor takes its first consumer. -/
def installing : List Instruction := [.cursor 0 (.install (.client 0 "records"))]

/-- Where the transaction is to be marked as terminated. -/
def markingPoint : List Move × Situation :=
  Situation.advances 10 ([.called installing], ⟨unstartedEngine, installing⟩)

/-- Where it leads if that throws. -/
def unmarkedPoint : List Move × Situation :=
  let th : Thrown := .arising .nested
  (.answered (.terminate brokenLink) (.raise th) :: markingPoint.1,
    ⟨markingPoint.2.engine, (Reply.raise th).onto markingPoint.2.agenda.tail⟩)

/-- The result is rolled back. -/
def withdrawing : List Instruction := [.cursor 0 (.rollback .nobody)]

/-- Where it leads if that is done meanwhile. -/
def withdrawnPoint : List Move × Situation :=
  Situation.advances 14 (.answered (.terminate brokenLink) (.go withdrawing) :: markingPoint.1,
    ⟨markingPoint.2.engine, withdrawing ++ markingPoint.2.agenda.tail⟩)

/-- The history with which it does. -/
def installed : List Move :=
  [.carried (.cursor 0 (.install (.client 0 "records")))
    (unstartedEngine.exec (.cursor 0 (.install (.client 0 "records")))).2, .called installing]

theorem called_installing : Run .unserved ⟨unstartedEngine, []⟩ [.called installing]
    ⟨unstartedEngine, installing⟩ := by
  refine Run.nil.call rfl (fun i mem => ?_) rfl
  obtain rfl := List.mem_singleton.1 mem
  exact ⟨rfl, nofun⟩

theorem openedFirst_installing {h : List Move} (since : installed <:+ h) :
    ∃ later, OpenedFirst .unserved ⟨unstartedEngine, []⟩ h (.install (.client 0 "records")) later
      installed ⟨unstartedEngine, installing⟩ [] := by
  obtain ⟨later, history⟩ := since
  exact ⟨later, history.symm, rfl, ⟨_, _, rfl, by decide, called_installing⟩, rfl⟩

/-- What is thrown when the owner is told leaves the call before the outcome failed; and what is
rolled back then has nothing for its outcome. -/
theorem not_startFails :
    (Run .unserved ⟨unstartedEngine, []⟩ unmarkedPoint.1 unmarkedPoint.2 ∧
      ¬ FailsAtOnce .unserved ⟨unstartedEngine, []⟩ brokenLink 0 unmarkedPoint.1
        unmarkedPoint.2) ∧
    Run .unserved ⟨unstartedEngine, []⟩ withdrawnPoint.1 withdrawnPoint.2 ∧
      ¬ FailsAtOnce .unserved ⟨unstartedEngine, []⟩ brokenLink 0 withdrawnPoint.1
        withdrawnPoint.2 := by
  have marking : Run .unserved ⟨unstartedEngine, []⟩ markingPoint.1 markingPoint.2 :=
    called_installing.advances_to 10 rfl (Conduct.unserved_keepsAll (by decide +kernel))
  have since : installed <:+ markingPoint.1 := Situation.suffix_advances 9 _ _
  have unmarked : Run .unserved ⟨unstartedEngine, []⟩ unmarkedPoint.1 unmarkedPoint.2 :=
    marking.snoc (.answer (.raise (.arising .nested))) ⟨rfl, .raise _ rfl id⟩
  have withdrawn : Run .unserved ⟨unstartedEngine, []⟩ withdrawnPoint.1 withdrawnPoint.2 := by
    have calls : ∀ i ∈ withdrawing, Conduct.unserved.Calls i := by
      intro i mem
      obtain rfl := List.mem_singleton.1 mem
      exact ⟨rfl, nofun⟩
    exact (marking.answer rfl rfl calls False.elim rfl).advances_to 14 rfl
      (Conduct.unserved_keepsAll (by decide +kernel))
  refine ⟨⟨unmarked, fun fails => ?_⟩, withdrawn, fun fails => ?_⟩
  · obtain ⟨later, opened⟩ := openedFirst_installing (since.trans (List.suffix_cons _ _))
    have failed := fails _ _ _ _ _ opened nofun rfl
    have pending : unmarkedPoint.2.engine.loop.settlement? 0 = none := by decide +kernel
    rw [failed.outcome] at pending
    cases pending
  · obtain ⟨later, opened⟩ := openedFirst_installing
      ((since.trans (List.suffix_cons _ _)).trans (Situation.suffix_advances 14 _ _))
    have failed := fails _ _ _ _ _ opened nofun (List.isEmpty_iff.1 (by decide +kernel))
    have nothing : withdrawnPoint.2.engine.loop.settlement? 0 = some (.value .nothing) := rfl
    rw [failed.outcome] at nothing
    cases nothing

end QueryStream
