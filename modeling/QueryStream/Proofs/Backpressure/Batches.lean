/-
  Proofs/Backpressure/Batches.lean --- the batches that an iteration asks for.

  An iteration asks for a batch when it has nothing to read and nothing outstanding, and only
  when a record is asked of it.  So of the records of all batches but the last that it asked for,
  every one was read before it asked for the last (`Balance`, `Run.prompted`).

  A batch counts as outstanding only once asking for it came to its end.  In between control may
  be handed out, but what a task has to do waits behind (`Crew`), so the iteration is not read
  meanwhile.  An iteration for which the asking did not come to its end is left, and closed;
  it never asks again, even if a task that waits for a record is handed one.
-/
import QueryStream.Proofs.Engine.Ends
import QueryStream.Proofs.Engine.Tending

set_option autoImplicit false

namespace QueryStream

/-! ## Batches and records in a history -/

/-- Whether an instruction hands out a record to a task. -/
def Instruction.isYield : Instruction → Bool
  | .yielded _ _ => true
  | _ => false

namespace Move

/-- Whether a move is an iteration asking for a batch. -/
def asksBatch (k : IterationId) : Move → Bool
  | .carried (.iteration j _ .fetch) r => j == k && r.next.any Instruction.isDemand
  | _ => false

/-- Whether a move has an iteration hand out a record. -/
def handsRecord (k : IterationId) : Move → Bool
  | .carried (.iteration j _ .take) r => j == k && r.next.any Instruction.isYield
  | _ => false

end Move

/-- How many batches an iteration asked for. -/
def batchesAsked (k : IterationId) (h : List Move) : Nat := h.countP (Move.asksBatch k)

/-- How many records an iteration handed out. -/
def recordsRead (k : IterationId) (h : List Move) : Nat := h.countP (Move.handsRecord k)

/-- Nothing on an agenda goes on inside an iteration with a batch. -/
structure Idle (k : IterationId) (agenda : List Instruction) : Prop where
  unasked : ∀ t, .iteration k t .requested ∉ agenda
  unfetched : ∀ t, .iteration k t .fetch ∉ agenda

/-- The batches that an iteration asked for and the records that it handed out. -/
inductive Balance (k : IterationId) (f : Nat) (h : List Move) (s : Situation) (it : Iteration) :
    Prop
  /-- what is outstanding is what was not read yet of the batches -/
  | settled (unasked : ∀ t, .iteration k t .requested ∉ s.agenda) (most : it.outstanding ≤ f)
      (balance : (f : Int) * batchesAsked k h ≤ recordsRead k h + it.outstanding) :
      Balance k f h s it
  /-- a batch is being asked for -/
  | asking (t : TaskId) (asks : .iteration k t .requested ∈ s.agenda)
      (nothing : it.outstanding = 0)
      (allowed : (f : Int) * batchesAsked k h ≤ recordsRead k h + f) : Balance k f h s it
  /-- asking for a batch did not come to its end -/
  | leaving {th : Thrown} {rest : List Instruction}
      (head : s.agenda = .caught (.iteration k) th :: rest) (idle : Idle k rest)
      (nothing : it.outstanding = 0)
      (allowed : (f : Int) * batchesAsked k h ≤ recordsRead k h + f) : Balance k f h s it
  | left (idle : Idle k s.agenda) (closed : it.phase = .closed) (nothing : it.outstanding = 0)
      (allowed : (f : Int) * batchesAsked k h ≤ recordsRead k h + f) : Balance k f h s it
  /-- a record was handed out that was not accounted for -/
  | spent (unasked : ∀ t, .iteration k t .requested ∉ s.agenda) (negative : it.outstanding < 0)
      (allowed : (f : Int) * batchesAsked k h ≤ recordsRead k h + f) : Balance k f h s it

section Batches

variable {h : List Move} {s s' : Situation} {m : Move} {i : Instruction} {k : IterationId}
  {it it' : Iteration} {t : TaskId} {f : Nat} {rest : List Instruction}

theorem batchesAsked_cons (k : IterationId) (m : Move) (h : List Move) :
    batchesAsked k (m :: h) = batchesAsked k h + if m.asksBatch k then 1 else 0 := by
  simp [batchesAsked, List.countP_cons]

theorem recordsRead_cons (k : IterationId) (m : Move) (h : List Move) :
    recordsRead k (m :: h) = recordsRead k h + if m.handsRecord k then 1 else 0 := by
  simp [recordsRead, List.countP_cons]

theorem counts_same (asks : m.asksBatch k = false) (hands : m.handsRecord k = false) :
    batchesAsked k (m :: h) = batchesAsked k h ∧ recordsRead k (m :: h) = recordsRead k h := by
  simp [batchesAsked_cons, recordsRead_cons, asks, hands]

theorem counts_asked (asks : m.asksBatch k = true) (hands : m.handsRecord k = false) :
    batchesAsked k (m :: h) = batchesAsked k h + 1 ∧ recordsRead k (m :: h) = recordsRead k h := by
  simp [batchesAsked_cons, recordsRead_cons, asks, hands]

theorem counts_handed (asks : m.asksBatch k = false) (hands : m.handsRecord k = true) :
    batchesAsked k (m :: h) = batchesAsked k h ∧ recordsRead k (m :: h) = recordsRead k h + 1 := by
  simp [batchesAsked_cons, recordsRead_cons, asks, hands]

/-- No more was asked for than what was read and one batch. -/
theorem Balance.allowed (balance : Balance k f h s it) :
    f * batchesAsked k h ≤ recordsRead k h + f := by
  cases balance with
  | settled unasked most balance => omega
  | asking t asks nothing allowed | leaving head idle nothing allowed
  | left idle closed nothing allowed | spent unasked negative allowed => omega

/-- Only an iteration itself asks for a batch and hands out records. -/
theorem Step.uncounted (step : Step s m s')
    (other : ∀ t a rest, s.agenda ≠ .iteration k t a :: rest) :
    m.asksBatch k = false ∧ m.handsRecord k = false := by
  have uncarried : ∀ t a r, m ≠ .carried (.iteration k t a) r := by
    rintro t a r rfl
    obtain ⟨rest, head⟩ := step.head_of_carried
    exact other t a rest head
  unfold Move.asksBatch Move.handsRecord
  constructor
  · split
    · rename_i j t r
      by_cases same : j = k
      · subst same
        exact absurd rfl (uncarried _ _ _)
      · simp [same]
    · rfl
  · split
    · rename_i j t r
      by_cases same : j = k
      · subst same
        exact absurd rfl (uncarried _ _ _)
      · simp [same]
    · rfl

/-- An iteration that is not there asks for no batch and hands out no record. -/
theorem Step.uncounted_of_none (step : Step s m s') (absent : s.engine.iterations[k]? = none) :
    m.asksBatch k = false ∧ m.handsRecord k = false := by
  by_cases carried : ∃ t a rest, s.agenda = .iteration k t a :: rest
  · obtain ⟨t, a, rest, head⟩ := carried
    obtain ⟨rfl, -⟩ := step.exec_of_head head rfl
    rw [Engine.exec_iteration_of_none a absent]
    cases a <;> simp [Move.asksBatch, Move.handsRecord, Reply.next]
  · exact step.uncounted fun t a rest head => carried ⟨t, a, rest, head⟩

/-- The fetching of a batch and what follows it come onto the agenda only through the
iteration itself. -/
theorem Step.mem_tail_of_inside {a : Iteration.Action} (step : Step s m s') (admits : Admits h m)
    (inside : a = .fetch ∨ a = .requested)
    (other : ∀ t a rest, s.agenda ≠ .iteration k t a :: rest)
    (mem : .iteration k t a ∈ s'.agenda) : .iteration k t a ∈ s.agenda.tail := by
  rcases step.of_inside admits inside mem with mem | ⟨b, rest, it, head, -⟩
  · exact mem
  · exact absurd head (other _ _ _)

/-- What a task does inside an iteration stands behind what has nothing to do with tasks, and
in front of the guards of both. -/
theorem OnDuty.inside {a : Iteration.Action} (onDuty : OnDuty s)
    (mem : .iteration k t a ∈ s.agenda) (inside : a = .fetch ∨ a = .requested) :
    ∃ front u, s.agenda = front ++ (.iteration k t a :: taskGuards (some k) u) ∧
      ∀ i ∈ front, i.isPlain = true := by
  have guard : ∀ {n : Option IterationId} {u : TaskId}, .iteration k t a ∉ taskGuards n u := by
    intro n u mem
    rcases List.mem_append.1 mem with mem | mem
    · obtain ⟨n, -, same⟩ := List.mem_map.1 mem
      cases same
    · cases List.mem_singleton.1 mem
  cases onDuty with
  | vacant plain => cases plain _ mem
  | ended n u agenda => exact absurd (agenda ▸ mem) guard
  | ending th engaged agenda =>
      rw [agenda] at mem
      cases List.mem_singleton.1 mem
  | working front own engaged plain one agenda =>
      rw [agenda] at mem
      rcases List.mem_append.1 mem with mem | mem
      · cases plain _ mem
      rcases List.mem_append.1 mem with mem | mem
      · rcases one with rfl | ⟨j, rfl, bound⟩
        · cases mem
        · rw [← List.mem_singleton.1 mem] at bound agenda
          cases bound with
          | advance | close => rcases inside with same | same <;> cases same
          | inside => exact ⟨front, _, agenda, plain⟩
      · exact absurd mem guard

theorem Step.reply_of_plain (step : Step s m s') (admits : Admits h m)
    (head : s.agenda = i :: rest) (plain : i.isPlain = true) :
    (∃ next, s'.agenda = next ++ rest) ∨ ∃ th, s'.agenda = (Reply.raise th).onto rest := by
  obtain ⟨e, agenda⟩ := s
  obtain rfl : agenda = i :: rest := head
  cases step with
  | carry own =>
      rcases e.isPlain_exec plain with ⟨next, reply, -⟩ | ⟨th, reply⟩
      · exact .inl ⟨next, by rw [reply]; rfl⟩
      · exact .inr ⟨th, by rw [reply]⟩
  | answer r =>
      cases admits.responds _ _ rfl with
      | notice told => exact .inl ⟨[], rfl⟩
      | go control made => exact .inl ⟨_, rfl⟩
      | raise th control => exact .inr ⟨th, rfl⟩
      | released t | unending t => cases plain

/-- While a batch is asked for, what stands in front of what follows goes on, or the asking
does not come to its end. -/
theorem Crew.asking_step (crew : Crew s) (asks : .iteration k t .requested ∈ s.agenda)
    (step : Step s m s') (admits : Admits h m)
    (other : ∀ t a rest, s.agenda ≠ .iteration k t a :: rest) :
    .iteration k t .requested ∈ s'.agenda ∨
      ∃ th rest, s'.agenda = .caught (.iteration k) th :: rest ∧ Idle k rest := by
  obtain ⟨front, u, agenda, plain⟩ := crew.onDuty.inside asks (.inr rfl)
  cases front with
  | nil => exact absurd agenda (other _ _ _)
  | cons i front =>
      rw [List.cons_append] at agenda
      rcases step.reply_of_plain admits agenda (plain i (List.mem_cons_self ..)) with
        ⟨next, after⟩ | ⟨th, after⟩
      · exact .inl (by simp [after])
      · by_cases guards : ∃ g, .guarded g ∈ front
        · obtain ⟨g, mem⟩ := guards
          obtain ⟨before, g', middle, rfl, unwound⟩ :=
            unwind_append (.iteration k t .requested :: taskGuards (some k) u) mem
          simp only [Reply.onto, unwound] at after
          exact .inl (by simp [after])
        · have unguarded : ∀ g, .guarded g ∉ front ++ [.iteration k t .requested] := by
            intro g mem
            rcases List.mem_append.1 mem with mem | mem
            · exact guards ⟨g, mem⟩
            · cases List.mem_singleton.1 mem
          have unwound := unwind_append_of_forall (taskGuards (some k) u) unguarded
          rw [List.append_assoc, List.singleton_append] at unwound
          simp only [Reply.onto, unwound] at after
          exact .inr ⟨th, _, after, fun t mem => by simp at mem, fun t mem => by simp at mem⟩

/-- A move that is nothing that the iteration does, and does not leave it, leaves the balance
as it is, or the asking for a batch does not come to its end. -/
theorem Balance.aside (balance : Balance k f h s it) (crew : Crew s) (step : Step s m s')
    (admits : Admits h m) (other : ∀ t a rest, s.agenda ≠ .iteration k t a :: rest)
    (stays : ∀ th rest, s.agenda ≠ .caught (.iteration k) th :: rest)
    (outstanding : it'.outstanding = it.outstanding) (phase : it'.phase = it.phase) :
    Balance k f (m :: h) s' it' := by
  obtain ⟨asks, hands⟩ := step.uncounted other
  have behind : ∀ {t a}, a = .fetch ∨ a = .requested → .iteration k t a ∈ s'.agenda →
      .iteration k t a ∈ s.agenda := fun inside mem =>
    List.mem_of_mem_tail (step.mem_tail_of_inside admits inside other mem)
  have same := counts_same (h := h) asks hands
  have unasked' : (∀ t, .iteration k t .requested ∉ s.agenda) →
      ∀ t, .iteration k t .requested ∉ s'.agenda := fun unasked t mem =>
    unasked t (behind (.inr rfl) mem)
  cases balance with
  | settled unasked most balance =>
      refine .settled (unasked' unasked) (by rw [outstanding]; exact most) ?_
      rw [same.1, same.2, outstanding]
      exact balance
  | asking t asks nothing allowed =>
      rw [← same.1, ← same.2] at allowed
      rcases crew.asking_step asks step admits other with asks | ⟨th, rest, head, idle⟩
      · exact .asking t asks (outstanding.trans nothing) allowed
      · exact .leaving head idle (outstanding.trans nothing) allowed
  | leaving head => exact absurd head (stays _ _)
  | left idle closed nothing allowed =>
      rw [← same.1, ← same.2] at allowed
      exact .left ⟨unasked' idle.unasked, fun t mem => idle.unfetched t (behind (.inl rfl) mem)⟩
        (phase.trans closed) (outstanding.trans nothing) allowed
  | spent unasked negative allowed =>
      rw [← same.1, ← same.2] at allowed
      exact .spent (unasked' unasked) (by rw [outstanding]; exact negative) allowed

/-- What a step of an iteration does to what it has outstanding. -/
inductive Draws (k : IterationId) (m : Move) (s' : Situation) (it : Iteration)
    (a : Iteration.Action) (it' : Iteration) : Prop
  | same (asks : m.asksBatch k = false) (hands : m.handsRecord k = false)
      (outstanding : it'.outstanding = it.outstanding) (other : a ≠ .requested)
      (busy : a = .fetch → it.signals = [] → it.outstanding ≠ 0)
      (closed : it.phase = .closed → it'.phase = .closed) : Draws k m s' it a it'
  | asked (t : TaskId) (asks : m.asksBatch k = true) (hands : m.handsRecord k = false)
      (nothing : it.outstanding = 0) (outstanding : it'.outstanding = it.outstanding)
      (fetches : a = .fetch) (asking : .iteration k t .requested ∈ s'.agenda) :
      Draws k m s' it a it'
  | granted (asks : m.asksBatch k = false) (hands : m.handsRecord k = false)
      (outstanding : it'.outstanding = it.fetchSize.value) (requested : a = .requested) :
      Draws k m s' it a it'
  | taken (asks : m.asksBatch k = false) (hands : m.handsRecord k = true)
      (outstanding : it'.outstanding = it.outstanding - 1) (takes : a = .take) :
      Draws k m s' it a it'

theorem Step.draws {a : Iteration.Action} (step : Step s m s')
    (head : s.agenda = .iteration k t a :: rest) (found : s.engine.iterations[k]? = some it)
    (limited : it.fetchSize.value ≠ unlimited) : Draws k m s' it a (it.step a).1 := by
  obtain ⟨rfl, rfl⟩ := step.exec_of_head head rfl
  rw [Engine.exec_iteration a found]
  cases a with
  | advance =>
      refine .same rfl rfl ?_ (by simp) (by simp) ?_
      · simp only [Iteration.step]
        split <;> rfl
      · intro closed
        simp [Iteration.step, closed]
  | close =>
      refine .same rfl rfl ?_ (by simp) (by simp) fun _ => ?_
      · simp only [Iteration.step]
        split <;> rfl
      · simp only [Iteration.step]
        split <;> rfl
  | fetch =>
      by_cases idle : it.signals.isEmpty && it.outstanding == 0
      · have nothing : it.outstanding = 0 := by simpa using (Bool.and_eq_true_iff.1 idle).2
        refine .asked t ?_ rfl nothing ?_ rfl ?_ <;>
          simp [Iteration.step, idle, Move.asksBatch, Instruction.ofIteration, Instruction.isDemand,
            Reply.next, Reply.onto]
      · have busy : it.signals = [] → it.outstanding ≠ 0 := by
          intro signals
          simpa [signals] using idle
        refine .same ?_ rfl ?_ (by simp) (fun _ => busy) ?_ <;>
          simp [Iteration.step, idle, Move.asksBatch, Instruction.ofIteration, Instruction.isDemand,
            Reply.next]
  | requested => exact .granted rfl rfl rfl rfl
  | take =>
      cases signals : it.signals with
      | nil =>
          refine .same rfl ?_ ?_ (by simp) (by simp) ?_ <;>
            simp [Iteration.step, signals, Move.handsRecord, Instruction.ofIteration,
              Instruction.isYield, Reply.next]
      | cons signal signals' =>
          cases signal with
          | record r =>
              refine .taken rfl ?_ ?_ rfl <;>
                simp [Iteration.step, signals, limited, Move.handsRecord, Instruction.ofIteration,
                  Instruction.isYield, Reply.next]
          | finish g =>
              refine .same rfl ?_ ?_ (by simp) (by simp) ?_ <;>
                cases g <;> simp [Iteration.step, signals, Move.handsRecord,
                  Instruction.ofIteration, Instruction.isYield, Reply.next]

theorem Step.requested_mem_tail (step : Step s m s') (admits : Admits h m)
    (quiet : m.asksBatch k = false) (asks : .iteration k t .requested ∈ s'.agenda) :
    .iteration k t .requested ∈ s.agenda.tail := by
  rcases step.of_requested admits asks with among | ⟨rest, it, head, found, signals, nothing⟩
  · exact among
  · obtain ⟨rfl, -⟩ := step.exec_of_head head rfl
    rw [Engine.exec_iteration .fetch found] at quiet
    simp [Iteration.step, signals, nothing, Move.asksBatch, Instruction.ofIteration,
      Instruction.isDemand, Reply.next] at quiet

theorem Step.unasked (step : Step s m s') (admits : Admits h m) (quiet : m.asksBatch k = false)
    (unasked : ∀ t, .iteration k t .requested ∉ s.agenda) :
    ∀ t, .iteration k t .requested ∉ s'.agenda := fun t asks =>
  unasked t (List.mem_of_mem_tail (step.requested_mem_tail admits quiet asks))

section Draws

variable {a : Iteration.Action} {u : TaskId}

/-- What is outstanding goes on being what was not read yet of the batches. -/
theorem Draws.of_settled (draws : Draws k m s' it a it') (step : Step s m s') (admits : Admits h m)
    (mem : .iteration k t a ∈ s.agenda) (unasked : ∀ t, .iteration k t .requested ∉ s.agenda)
    (most : it.outstanding ≤ f)
    (balance : (f : Int) * batchesAsked k h ≤ recordsRead k h + it.outstanding) :
    Balance k f (m :: h) s' it' := by
  cases draws with
  | same asks hands outstanding other busy closed =>
      obtain ⟨batches, records⟩ := counts_same (h := h) asks hands
      refine .settled (step.unasked admits asks unasked) (by rw [outstanding]; exact most) ?_
      rw [batches, records, outstanding]
      exact balance
  | asked u asks hands nothing outstanding fetches asking =>
      obtain ⟨batches, records⟩ := counts_asked (h := h) asks hands
      refine .asking u asking (outstanding.trans nothing) ?_
      rw [batches, records, Int.natCast_add, Int.mul_add]
      omega
  | granted asks hands outstanding requested => exact absurd (requested ▸ mem) (unasked t)
  | taken asks hands outstanding takes =>
      obtain ⟨batches, records⟩ := counts_handed (h := h) asks hands
      refine .settled (step.unasked admits asks unasked) (by omega) ?_
      rw [batches, records, outstanding]
      omega

/-- An iteration that was left asks for nothing more, even if it is handed a record. -/
theorem Draws.of_left (draws : Draws k m s' it a it') (step : Step s m s') (admits : Admits h m)
    (mem : .iteration k t a ∈ s.agenda) (found : s.engine.iterations[k]? = some it)
    (idle : Idle k s.agenda) (closed : it.phase = .closed) (nothing : it.outstanding = 0)
    (allowed : (f : Int) * batchesAsked k h ≤ recordsRead k h + f) :
    Balance k f (m :: h) s' it' := by
  cases draws with
  | same asks hands outstanding other busy stays =>
      obtain ⟨batches, records⟩ := counts_same (h := h) asks hands
      refine .left ⟨step.unasked admits asks idle.unasked, fun u fetches => ?_⟩ (stays closed)
        (outstanding.trans nothing) (by rw [batches, records]; exact allowed)
      rcases step.of_fetch admits fetches with among | ⟨rest, it', head, found', unended⟩
      · exact idle.unfetched u (List.mem_of_mem_tail among)
      · obtain rfl := Option.some.inj (found.symm.trans found')
        exact unended closed
  | asked u asks hands nothing outstanding fetches asking =>
      exact absurd (fetches ▸ mem) (idle.unfetched t)
  | granted asks hands outstanding requested => exact absurd (requested ▸ mem) (idle.unasked t)
  | taken asks hands outstanding takes =>
      obtain ⟨batches, records⟩ := counts_handed (h := h) asks hands
      refine .spent (step.unasked admits asks idle.unasked) (by omega) ?_
      rw [batches, records]
      omega

/-- An iteration that handed out a record that was not accounted for asks for nothing more. -/
theorem Draws.of_spent (draws : Draws k m s' it a it') (step : Step s m s') (admits : Admits h m)
    (mem : .iteration k t a ∈ s.agenda) (unasked : ∀ t, .iteration k t .requested ∉ s.agenda)
    (negative : it.outstanding < 0)
    (allowed : (f : Int) * batchesAsked k h ≤ recordsRead k h + f) :
    Balance k f (m :: h) s' it' := by
  cases draws with
  | same asks hands outstanding other busy closed =>
      obtain ⟨batches, records⟩ := counts_same (h := h) asks hands
      refine .spent (step.unasked admits asks unasked) (by omega) ?_
      rw [batches, records]
      exact allowed
  | asked u asks hands nothing outstanding fetches asking => omega
  | granted asks hands outstanding requested => exact absurd (requested ▸ mem) (unasked t)
  | taken asks hands outstanding takes =>
      obtain ⟨batches, records⟩ := counts_handed (h := h) asks hands
      refine .spent (step.unasked admits asks unasked) (by omega) ?_
      rw [batches, records]
      omega

/-- What a batch was asked for with stands behind the step that counts it as outstanding, and
nothing more of the kind. -/
theorem Draws.of_asking (draws : Draws k m s' it a it') (crew : Crew s) (step : Step s m s')
    (admits : Admits h m) (head : s.agenda = .iteration k t a :: rest)
    (asks : .iteration k u .requested ∈ s.agenda) (size : it.fetchSize.value = f)
    (allowed : (f : Int) * batchesAsked k h ≤ recordsRead k h + f) :
    Balance k f (m :: h) s' it' := by
  obtain ⟨front, v, agenda, plain⟩ := crew.onDuty.inside asks (.inr rfl)
  rw [head] at agenda
  cases front with
  | cons i front =>
      obtain ⟨rfl, -⟩ := List.cons.inj agenda
      cases plain _ (List.mem_cons_self ..)
  | nil =>
      obtain ⟨same, rfl⟩ := List.cons.inj agenda
      cases same
      cases draws with
      | same asks hands outstanding other => exact absurd rfl other
      | asked u asks hands nothing outstanding fetches => cases fetches
      | taken asks hands outstanding takes => cases takes
      | granted asks hands outstanding requested =>
          obtain ⟨batches, records⟩ := counts_same (h := h) asks hands
          refine .settled (fun w mem => ?_) (by omega) ?_
          · have among := step.requested_mem_tail admits asks mem
            simp [head, taskGuards] at among
          · rw [batches, records, outstanding, size]
            exact allowed

end Draws

theorem Balance.stepped {a : Iteration.Action} (balance : Balance k f h s it) (crew : Crew s)
    (step : Step s m s') (admits : Admits h m) (head : s.agenda = .iteration k t a :: rest)
    (found : s.engine.iterations[k]? = some it) (size : it.fetchSize.value = f) (positive : 0 < f) :
    Balance k f (m :: h) s' (it.step a).1 := by
  have limited : it.fetchSize.value ≠ unlimited := by
    rw [size, unlimited]
    omega
  have draws := step.draws head found limited
  have mem : .iteration k t a ∈ s.agenda := by simp [head]
  cases balance with
  | settled unasked most balance => exact draws.of_settled step admits mem unasked most balance
  | asking u asks nothing allowed =>
      exact draws.of_asking crew step admits head asks size allowed
  | leaving head' => cases head.symm.trans head'
  | left idle closed nothing allowed =>
      exact draws.of_left step admits mem found idle closed nothing allowed
  | spent unasked negative allowed => exact draws.of_spent step admits mem unasked negative allowed

theorem Balance.leave {th : Thrown} (balance : Balance k f h s it) (crew : Crew s)
    (step : Step s m s') (admits : Admits h m)
    (head : s.agenda = .caught (.iteration k) th :: rest) :
    Balance k f (m :: h) s' it.leave.1 := by
  obtain ⟨awaited, after⟩ := it.exists_leave
  have closed : it.leave.1.phase = .closed := by rw [after]
  have outstanding : it.leave.1.outstanding = it.outstanding := by rw [after]
  have other : ∀ t a rest, s.agenda ≠ .iteration k t a :: rest := by simp [head]
  obtain ⟨asks, hands⟩ := step.uncounted other
  have same := counts_same (h := h) asks hands
  have idle' : Idle k s.agenda.tail → Idle k s'.agenda := fun idle =>
    ⟨fun t mem => idle.unasked t (step.mem_tail_of_inside admits (.inr rfl) other mem),
      fun t mem => idle.unfetched t (step.mem_tail_of_inside admits (.inl rfl) other mem)⟩
  have unasked' : (∀ t, .iteration k t .requested ∉ s.agenda) →
      ∀ t, .iteration k t .requested ∉ s'.agenda := fun unasked t mem =>
    unasked t (List.mem_of_mem_tail (step.mem_tail_of_inside admits (.inr rfl) other mem))
  cases balance with
  | settled unasked most balance =>
      refine .settled (unasked' unasked) (by rw [outstanding]; exact most) ?_
      rw [same.1, same.2, outstanding]
      exact balance
  | asking t asks nothing allowed =>
      -- the iteration that asks is at its turn, so its guard has nothing to catch yet
      obtain ⟨front, u, agenda, plain⟩ := crew.onDuty.inside asks (.inr rfl)
      rw [head] at agenda
      cases front with
      | nil => cases agenda
      | cons i front =>
          obtain ⟨rfl, -⟩ := List.cons.inj agenda
          cases plain _ (List.mem_cons_self ..)
  | leaving head' idle nothing allowed =>
      obtain ⟨-, rfl⟩ := List.cons.inj (head.symm.trans head')
      rw [← same.1, ← same.2] at allowed
      exact .left (idle' (by rw [head]; exact idle)) closed (outstanding.trans nothing) allowed
  | left idle _ nothing allowed =>
      rw [← same.1, ← same.2] at allowed
      refine .left (idle' ⟨fun t mem => ?_, fun t mem => ?_⟩) closed (outstanding.trans nothing)
        allowed
      · exact idle.unasked t (List.mem_of_mem_tail mem)
      · exact idle.unfetched t (List.mem_of_mem_tail mem)
  | spent unasked negative allowed =>
      rw [← same.1, ← same.2] at allowed
      exact .spent (unasked' unasked) (by rw [outstanding]; exact negative) allowed

theorem Balance.step (balance : Balance k f h s it) (crew : Crew s) (step : Step s m s')
    (admits : Admits h m) (found : s.engine.iterations[k]? = some it)
    (found' : s'.engine.iterations[k]? = some it') (size : it.fetchSize.value = f)
    (positive : 0 < f) :
    Balance k f (m :: h) s' it' := by
  obtain ⟨after, there, tended⟩ := step.tended found
  obtain rfl := Option.some.inj (there.symm.trans found')
  have apart : ∀ {i : Instruction} {rest : List Instruction}, s.agenda = i :: rest →
      (∀ t a, i ≠ .iteration k t a) → ∀ t a rest, s.agenda ≠ .iteration k t a :: rest := by
    intro i rest head other t a rest' head'
    exact other t a (List.cons.inj (head.symm.trans head')).1
  have stays : ∀ {i : Instruction} {rest : List Instruction}, s.agenda = i :: rest →
      (∀ th, i ≠ .caught (.iteration k) th) →
      ∀ th rest, s.agenda ≠ .caught (.iteration k) th :: rest := by
    intro i rest head other th rest' head'
    exact other th (List.cons.inj (head.symm.trans head')).1
  cases tended with
  | apart awaited other =>
      refine balance.aside crew step admits (fun t a rest head => ?_)
        (fun th rest head => ?_) rfl rfl
      · simp [head, Instruction.tends] at other
      · simp [head, Instruction.tends] at other
  | stepped head => exact balance.stepped crew step admits head found size positive
  | record head | ended head =>
      exact balance.aside crew step admits (apart head (by simp)) (stays head (by simp)) rfl rfl
  | left head => exact balance.leave crew step admits head

/-! ## When a batch is asked for -/

/-- What is about to fetch a batch stands first, a record having been asked of the iteration just
before. -/
def Fetching (k : IterationId) (h : List Move) (s : Situation) : Prop :=
  ∀ t, .iteration k t .fetch ∈ s.agenda → ∃ rest r earlier,
    s.agenda = .iteration k t .fetch :: rest ∧ (∀ u, .iteration k u .fetch ∉ rest) ∧
      h = .carried (.iteration k t .advance) r :: earlier

theorem Fetching.step (fetching : Fetching k h s) (step : Step s m s') (admits : Admits h m) :
    Fetching k (m :: h) s' := by
  have none : ∀ {i : Instruction} {rest : List Instruction}, s.agenda = i :: rest →
      ∀ u, .iteration k u .fetch ∉ rest := by
    intro i rest head u mem
    obtain ⟨rest', r, earlier, head', clear, -⟩ := fetching u (by simp [head, mem])
    obtain ⟨-, rfl⟩ := List.cons.inj (head.symm.trans head')
    exact clear u mem
  intro t mem
  rcases step.of_fetch admits mem with behind | ⟨rest, it, head, found, unended⟩
  · cases agenda : s.agenda with
    | nil =>
        rw [agenda] at behind
        cases behind
    | cons i rest =>
        rw [agenda] at behind
        exact absurd behind (none agenda t)
  · obtain ⟨rfl, rfl⟩ := step.exec_of_head head rfl
    have advance : (it.step .advance).2 = [.guarded .fetch] := by
      cases phase : it.phase <;> simp_all [Iteration.step]
    rw [Engine.exec_iteration .advance found, advance]
    refine ⟨_, _, h, rfl, fun u among => ?_, rfl⟩
    rcases List.mem_cons.1 among with same | among
    · cases same
    · exact none head u among

/-- When it last asked for a batch, an iteration had just been asked for a record, with all
records of the batches before handed out. -/
def Prompted (k : IterationId) (f : Nat) (h : List Move) : Prop :=
  0 < batchesAsked k h → ∃ since t r before,
    h = since ++ .carried (.iteration k t .advance) r :: before ∧
      f * batchesAsked k h ≤ recordsRead k before + f

theorem Prompted.cons (prompted : Prompted k f h) (asks : m.asksBatch k = false) :
    Prompted k f (m :: h) := by
  intro some
  rw [batchesAsked_cons, asks] at some ⊢
  obtain ⟨since, t, r, before, rfl, most⟩ := prompted some
  exact ⟨m :: since, t, r, before, rfl, most⟩

/-- A batch is asked for once all records of the batches before were handed out. -/
theorem Balance.of_asks {r : Reply} (balance : Balance k f h s it) (crew : Crew s)
    (step : Step s (.carried (.iteration k t .fetch) r) s')
    (found : s.engine.iterations[k]? = some it) (size : it.fetchSize.value = f) (positive : 0 < f)
    (asks : (Move.carried (.iteration k t .fetch) r).asksBatch k = true) :
    f * batchesAsked k h ≤ recordsRead k h := by
  have limited : it.fetchSize.value ≠ unlimited := by
    rw [size, unlimited]
    omega
  obtain ⟨rest, head⟩ := step.head_of_carried
  have mem : .iteration k t .fetch ∈ s.agenda := by simp [head]
  have nothing : it.outstanding = 0 := by
    cases step.draws head found limited with
    | asked u asks hands nothing => exact nothing
    | same quiet | granted quiet | taken quiet =>
        rw [asks] at quiet
        cases quiet
  cases balance with
  | settled unasked most balance => omega
  | asking u asking =>
      obtain ⟨front, v, agenda, plain⟩ := crew.onDuty.inside mem (.inl rfl)
      rw [agenda] at asking
      rcases List.mem_append.1 asking with asking | asking
      · cases plain _ asking
      · simp [taskGuards] at asking
  | leaving head' => cases head.symm.trans head'
  | left idle => exact absurd mem (idle.unfetched t)
  | spent unasked negative => omega

theorem Prompted.step (prompted : Prompted k f h) (balance : Balance k f h s it) (crew : Crew s)
    (fetching : Fetching k h s) (step : Step s m s') (found : s.engine.iterations[k]? = some it)
    (size : it.fetchSize.value = f) (positive : 0 < f) : Prompted k f (m :: h) := by
  cases asks : m.asksBatch k with
  | false => exact prompted.cons asks
  | true =>
      intro _
      have carried : ∃ t r, m = .carried (.iteration k t .fetch) r := by
        unfold Move.asksBatch at asks
        split at asks
        · obtain ⟨same, -⟩ := Bool.and_eq_true_iff.1 asks
          obtain rfl := beq_iff_eq.1 same
          exact ⟨_, _, rfl⟩
        · cases asks
      obtain ⟨t, r, rfl⟩ := carried
      obtain ⟨rest, head⟩ := step.head_of_carried
      have before := balance.of_asks crew step found size positive asks
      obtain ⟨rest', r', earlier, -, -, rfl⟩ := fetching t (by simp [head])
      refine ⟨[_], t, r', earlier, rfl, ?_⟩
      rw [batchesAsked_cons, asks, if_pos rfl, Nat.mul_add, Nat.mul_one]
      exact Nat.add_le_add_right before f

/-! ## Along a run -/

/-- What holds of the batches that an iteration asked for, whether it is there or not yet. -/
structure Batches (k : IterationId) (f : Nat) (h : List Move) (s : Situation) : Prop where
  fetching : Fetching k h s
  prompted : Prompted k f h
  unmade : s.engine.iterations[k]? = none →
    batchesAsked k h = 0 ∧ recordsRead k h = 0 ∧ Idle k s.agenda
  made : ∀ it, s.engine.iterations[k]? = some it → Balance k f h s it

theorem Batches.step (batches : Batches k f h s) (crew : Crew s) (step : Step s m s')
    (admits : Admits h m) (size : ∀ it, s.engine.iterations[k]? = some it → it.fetchSize.value = f)
    (positive : 0 < f) : Batches k f (m :: h) s' := by
  cases found : s.engine.iterations[k]? with
  | some it =>
      have balance := batches.made it found
      obtain ⟨it', found', -⟩ := step.tended found
      refine ⟨batches.fetching.step step admits,
        batches.prompted.step balance crew batches.fetching step found (size it found) positive,
        fun absent => ?_, fun it'' found'' => ?_⟩
      · rw [found'] at absent
        cases absent
      · exact balance.step crew step admits found found'' (size it found) positive
  | none =>
      obtain ⟨none, unread, idle⟩ := batches.unmade found
      have uncounted := step.uncounted_of_none found
      have idle' : Idle k s'.agenda := by
        refine ⟨fun t mem => ?_, fun t mem => ?_⟩
        · rcases step.of_requested admits mem with mem | ⟨rest, it, head, found', -⟩
          · exact idle.unasked t (List.mem_of_mem_tail mem)
          · cases found.symm.trans found'
        · rcases step.of_fetch admits mem with mem | ⟨rest, it, head, found', -⟩
          · exact idle.unfetched t (List.mem_of_mem_tail mem)
          · cases found.symm.trans found'
      have nothing : batchesAsked k (m :: h) = 0 ∧ recordsRead k (m :: h) = 0 := by
        rw [batchesAsked_cons, recordsRead_cons, uncounted.1, uncounted.2, none, unread]
        exact ⟨rfl, rfl⟩
      refine ⟨batches.fetching.step step admits, batches.prompted.cons uncounted.1,
        fun _ => ⟨nothing.1, nothing.2, idle'⟩, fun it made => ?_⟩
      obtain ⟨id, size, rfl⟩ := step.made found made
      refine .settled idle'.unasked ?_ ?_
      · exact Int.natCast_nonneg f
      · simp [nothing, Iteration.ofCursor]

theorem Batches.allowed (batches : Batches k f h s) :
    f * batchesAsked k h ≤ recordsRead k h + f := by
  cases found : s.engine.iterations[k]? with
  | none =>
      obtain ⟨none, -⟩ := batches.unmade found
      simp [none]
  | some it => exact (batches.made it found).allowed

end Batches

end QueryStream
