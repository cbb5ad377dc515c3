/-
  Proofs/FailedStart/Reading.lean --- an iteration that is told of nothing but a failure.

  It hands out no record (`Recordless.yields_none`).  The first time a task reads it, it is closed
  and raises the failure in front of what stood behind the reading (`Emerging.step`).
-/
import QueryStream.Proofs.Unserved
import QueryStream.Proofs.Engine.Tending

set_option autoImplicit false

namespace QueryStream

/-- Whether an instruction reads an iteration, closes it or leaves it. -/
def Instruction.reads (k : IterationId) : Instruction → Bool
  | .iteration i _ _ => i == k
  | .caught (.iteration i) _ => i == k
  | _ => false

/-- Whether a move does so. -/
def Move.reads (k : IterationId) : Move → Bool
  | .carried i _ => i.reads k
  | _ => false

/-- A record consumer was told of no record since, if it is an iteration that was just made
then. -/
def Recordless (rc : RecordConsumer) (iterations : Array Iteration) (e : Engine) : Prop :=
  ∀ k size, rc = .feed k → iterations[k]? = some (.ofCursor 0 size) →
    ∃ it, e.iterations[k]? = some it ∧ ∀ r, .record r ∉ it.signals

/-- It was told of nothing at all since, and nobody left it. -/
def Untold (rc : RecordConsumer) (iterations : Array Iteration) (e : Engine) : Prop :=
  ∀ k size, rc = .feed k → iterations[k]? = some (.ofCursor 0 size) →
    ∃ it, e.iterations[k]? = some it ∧ it.phase ≠ .closed ∧ it.signals = []

section Reading

variable {f : Failure} {s s' : Situation} {m : Move} {rest : List Instruction} {i : Instruction}
  {rc : RecordConsumer} {iterations : Array Iteration} {k : IterationId} {it : Iteration}

/-- An iteration was told of the failure and of nothing else, and so it waits until it is
read. -/
inductive Primed (f : Failure) (k : IterationId) (since : List Move) (s : Situation) : Prop
  | intro {it : Iteration} (found : s.engine.iterations[k]? = some it)
      (recordless : ∀ r, .record r ∉ it.signals)
      (unread : (∀ m ∈ since, m.reads k = false) →
        it.phase ≠ .closed ∧ it.signals = [.finish (some f)])

/-- An iteration keeps an end of what it has not read. -/
theorem Iteration.suffix_step (it : Iteration) (a : Iteration.Action) :
    (it.step a).1.signals <:+ it.signals := by
  cases a with
  | advance | close | fetch =>
      simp only [Iteration.step]
      split <;> exact List.suffix_refl _
  | requested => exact List.suffix_refl _
  | take =>
      simp only [Iteration.step]
      split
      · exact List.suffix_refl _
      all_goals
        rename_i signals
        rw [signals]
        exact List.suffix_cons _ _

theorem untold_self (rc : RecordConsumer) (e : Engine) : Untold rc e.iterations e :=
  fun _ size _ found => ⟨_, found, by simp [Iteration.ofCursor], rfl⟩

theorem Untold.recordless {e : Engine} (untold : Untold rc iterations e) :
    Recordless rc iterations e := by
  intro k size fed made
  obtain ⟨it, found, -, signals⟩ := untold k size fed made
  exact ⟨it, found, by simp [signals]⟩

theorem Untold.step (untold : Untold rc iterations s.engine) (step : Step s m s')
    (other : ∀ k, ∀ i ∈ s.agenda.head?, i.tends k = false) :
    Untold rc iterations s'.engine := by
  intro k size fed made
  obtain ⟨it, found, unended, signals⟩ := untold k size fed made
  obtain ⟨it', found', tended⟩ := step.tended found
  have apart : ∀ i ∈ s.agenda.head?, i.tends k = false := other k
  cases tended with
  | apart awaited _ => exact ⟨_, found', unended, signals⟩
  | stepped head | record head | ended head | left head =>
      simp [head, Instruction.tends] at apart

theorem Recordless.step (recordless : Recordless rc iterations s.engine) (step : Step s m s')
    (other : ∀ rc r rest, s.agenda ≠ .tellRecord rc r :: rest) :
    Recordless rc iterations s'.engine := by
  intro k size fed made
  obtain ⟨it, found, none⟩ := recordless k size fed made
  obtain ⟨it', found', tended⟩ := step.tended found
  cases tended with
  | apart awaited _ => exact ⟨_, found', none⟩
  | stepped head => exact ⟨_, found', fun r mem => none r ((it.suffix_step _).mem mem)⟩
  | record head => exact absurd head (other _ _ _)
  | ended head => exact ⟨_, found', by simpa using none⟩
  | left head =>
      obtain ⟨awaited, after⟩ := it.exists_leave
      exact ⟨_, found', by rw [after]; exact none⟩

/-- With nothing but what is bare on the agenda, an iteration stays told of nothing else. -/
theorem Primed.step {k : IterationId} {since : List Move} (primed : Primed f k since s)
    (step : Step s m s') (bare : ∀ i ∈ s.agenda, i.isBare = true) : Primed f k (m :: since) s' := by
  obtain @⟨it, found, recordless, unread⟩ := primed
  have goOn : ∀ {it'}, s'.engine.iterations[k]? = some it' → it'.signals <:+ it.signals →
      (m.reads k = false → it'.phase = it.phase ∧ it'.signals = it.signals) →
      Primed f k (m :: since) s' := by
    intro it' found' fewer same
    refine ⟨found', fun r mem => recordless r (fewer.mem mem), fun others => ?_⟩
    obtain ⟨phase, signals⟩ := same (others m (List.mem_cons_self ..))
    rw [phase, signals]
    exact unread fun m mem => others m (List.mem_cons_of_mem _ mem)
  obtain ⟨it', found', tended⟩ := step.tended found
  cases tended with
  | apart awaited other => exact goOn found' (List.suffix_refl _) fun _ => ⟨rfl, rfl⟩
  | @stepped t a rest head =>
      obtain ⟨rfl, -⟩ := step.exec_of_head head rfl
      exact goOn found' (it.suffix_step a) fun other => by
        simp [Move.reads, Instruction.reads] at other
  | record head => cases bare _ (by rw [head]; exact List.mem_cons_self ..)
  | ended head => cases bare _ (by rw [head]; exact List.mem_cons_self ..)
  | left head =>
      obtain ⟨rfl, -⟩ := step.exec_of_head head rfl
      obtain ⟨awaited, after⟩ := it.exists_leave
      rw [after] at found'
      exact goOn found' (List.suffix_refl _) fun other => by
        simp [Move.reads, Instruction.reads] at other

theorem Untold.primed {size : FetchSize} {since : List Move} {e : Engine}
    {todo : List Instruction} (untold : Untold (.feed k) iterations e)
    (made : iterations[k]? = some (.ofCursor 0 size)) :
    Primed f k since ⟨(e.exec (.tellEnd (.feed k) (some f))).1, todo⟩ := by
  obtain ⟨it, found, unended, signals⟩ := untold k size rfl made
  have told : (e.exec (.tellEnd (.feed k) (some f))).1.iterations[k]?
      = some { it with signals := it.signals ++ [.finish (some f)], awaited := none } :=
    Engine.getElem?_signal found _
  exact ⟨told, by simp [signals], fun _ => ⟨unended, by simp [signals]⟩⟩

/-- A task reads an iteration that was told of the failure: in how many moves it is raised in
front of what stood behind. -/
inductive Emerging (f : Failure) (k : IterationId) (behind : List Instruction) :
    Nat → Situation → Prop
  | fetch {s : Situation} (it : Iteration) {t : TaskId}
      (found : s.engine.iterations[k]? = some it) (unread : it.signals = [.finish (some f)])
      (agenda : s.agenda = .iteration k t .fetch :: .guarded (.iteration k) :: behind) :
      Emerging f k behind 5 s
  | take {s : Situation} (it : Iteration) {t : TaskId}
      (found : s.engine.iterations[k]? = some it) (unread : it.signals = [.finish (some f)])
      (agenda : s.agenda = .iteration k t .take :: .guarded (.iteration k) :: behind) :
      Emerging f k behind 4 s
  | throw {s : Situation} (it : Iteration) (found : s.engine.iterations[k]? = some it)
      (closed : it.phase = .closed)
      (agenda : s.agenda = .throw (.failure f) :: .guarded (.iteration k) :: behind) :
      Emerging f k behind 3 s
  | caught {s : Situation} {it : Iteration} (found : s.engine.iterations[k]? = some it)
      (closed : it.phase = .closed)
      (agenda : s.agenda = .caught (.iteration k) (.failure f) :: behind) :
      Emerging f k behind 2 s
  | rethrow {s : Situation} (agenda : s.agenda = .throw (.failure f) :: behind) :
      Emerging f k behind 1 s
  | raised {s : Situation} (agenda : s.agenda = (Reply.raise (.failure f)).onto behind) :
      Emerging f k behind 0 s

theorem emerging_of_advance {k : IterationId} {it : Iteration} {t : TaskId}
    {behind : List Instruction} (found : s.engine.iterations[k]? = some it)
    (unended : it.phase ≠ .closed) (unread : it.signals = [.finish (some f)])
    (agenda : s.agenda = .iteration k t .advance :: behind) (step : Step s m s') :
    Emerging f k behind 5 s' := by
  have made : k < s.engine.iterations.size := (Array.getElem?_eq_some_iff.1 found).1
  obtain ⟨-, rfl⟩ := step.exec_of_head agenda rfl
  have advance : it.step .advance = ({ it with phase := .reading }, [.guarded .fetch]) := by
    cases phase : it.phase with
    | closed => exact absurd phase unended
    | _ => simp [Iteration.step, phase]
  rw [Engine.exec_iteration .advance found, advance]
  exact .fetch { it with phase := .reading } (by simp [made]) unread rfl

theorem Emerging.step {k : IterationId} {behind : List Instruction} {n : Nat}
    (emerging : Emerging f k behind (n + 1) s) (step : Step s m s') :
    m.outside = [] ∧ Emerging f k behind n s' := by
  cases emerging with
  | fetch it found unread agenda =>
      have made : k < s.engine.iterations.size := (Array.getElem?_eq_some_iff.1 found).1
      obtain ⟨rfl, rfl⟩ := step.exec_of_head agenda rfl
      have fetch : it.step .fetch = (it, [.andThen .take]) := by simp [Iteration.step, unread]
      rw [Engine.exec_iteration .fetch found, fetch]
      exact ⟨rfl, .take it (by simp [made]) unread rfl⟩
  | take it found unread agenda =>
      have made : k < s.engine.iterations.size := (Array.getElem?_eq_some_iff.1 found).1
      obtain ⟨rfl, rfl⟩ := step.exec_of_head agenda rfl
      have take : it.step .take = ({ it with signals := [], phase := .closed }, [.fail f]) := by
        simp [Iteration.step, unread]
      rw [Engine.exec_iteration .take found, take]
      exact ⟨rfl, .throw { it with signals := [], phase := .closed } (by simp [made]) rfl rfl⟩
  | throw it found closed agenda =>
      obtain ⟨rfl, rfl⟩ := step.exec_of_head agenda rfl
      exact ⟨rfl, .caught found closed rfl⟩
  | @caught _ it found closed agenda =>
      obtain ⟨rfl, rfl⟩ := step.exec_of_head agenda rfl
      have leave : it.leave = (it, []) := by simp [Iteration.leave, closed]
      have exec : s.engine.exec (.caught (.iteration k) (.failure f))
          = ({ s.engine with iterations := s.engine.iterations.setIfInBounds k it },
            .go [.throw (.failure f)]) := by
        simp [Engine.exec, Engine.caught, found, leave]
      rw [exec]
      exact ⟨rfl, .rethrow rfl⟩
  | rethrow agenda =>
      obtain ⟨rfl, rfl⟩ := step.exec_of_head agenda rfl
      exact ⟨rfl, .raised rfl⟩

/-- Until the failure is raised, something of the reading is on the agenda. -/
theorem Emerging.agenda {k : IterationId} {behind : List Instruction} {n : Nat}
    (emerging : Emerging f k behind (n + 1) s) :
    ∃ front, front ≠ [] ∧ s.agenda = front ++ behind := by
  cases emerging with
  | @fetch _ _ t _ _ agenda =>
      exact ⟨[.iteration k t .fetch, .guarded (.iteration k)], by simp, agenda⟩
  | @take _ _ t _ _ agenda =>
      exact ⟨[.iteration k t .take, .guarded (.iteration k)], by simp, agenda⟩
  | throw _ _ _ agenda =>
      exact ⟨[.throw (.failure f), .guarded (.iteration k)], by simp, agenda⟩
  | caught _ _ agenda => exact ⟨[.caught (.iteration k) (.failure f)], by simp, agenda⟩
  | rethrow agenda => exact ⟨[.throw (.failure f)], by simp, agenda⟩

/-- Of an iteration that was told of no record none is taken. -/
theorem Recordless.yields_none {size : FetchSize} {t : TaskId} {r : Reply}
    (recordless : Recordless (.feed k) iterations s.engine)
    (made : iterations[k]? = some (.ofCursor 0 size))
    (agenda : s.agenda = .iteration k t .take :: rest)
    (step : Step s (.carried (.iteration k t .take) r) s') (u : TaskId) (record : Record) :
    .yielded u record ∉ r.next := by
  obtain ⟨it, found, none⟩ := recordless k size rfl made
  obtain ⟨same, -⟩ := step.exec_of_head agenda rfl
  obtain ⟨-, rfl⟩ := Move.carried.inj same
  rw [Engine.exec_iteration .take found]
  cases signals : it.signals with
  | nil => simp [Iteration.step, signals, Instruction.ofIteration, Reply.next]
  | cons first others =>
      cases first with
      | record r => exact absurd (by simp [signals]) (none r)
      | finish g => cases g <;> simp [Iteration.step, signals, Instruction.ofIteration, Reply.next]

end Reading

end QueryStream
