/-
  Proofs/Readout/Taking.lean --- how the task takes what its iteration is told.

  While it has something to read, the task takes one record after the other; at the end it is
  settled with what it read, or with the failure.  With nothing to read it requests a batch if
  none is outstanding, and otherwise waits for a signal.
-/
import QueryStream.Proofs.Readout.Jobs

set_option autoImplicit false

namespace QueryStream

/-! ## Spots at which the task reads -/

namespace Spot

/-- The task is reading: what its iteration has outstanding and has not read yet, and what was
collected, latest first. -/
def reading (p : PromiseId) (size : FetchSize) (st : Stream) (outstanding : Int)
    (signals : List Signal) (collected : List Record) (due : List Job) : Spot where
  stream := st
  iteration := ⟨0, size, .reading, outstanding, signals, none⟩
  task := ⟨p, .collect 0, none, false, some 0, collected⟩
  due := due
  verdict := none

/-- The task waits for the promise `q` of a signal. -/
def waiting (p : PromiseId) (size : FetchSize) (st : Stream) (outstanding : Int)
    (collected : List Record) (due : List Job) (q : PromiseId) : Spot where
  stream := st
  iteration := ⟨0, size, .reading, outstanding, [], some q⟩
  task := ⟨p, .collect 0, some q, false, some 0, collected⟩
  due := due
  verdict := none

/-- The task was told something, and is to go on. -/
def woken (p : PromiseId) (size : FetchSize) (st : Stream) (outstanding : Int)
    (signals : List Signal) (collected : List Record) (due : List Job) (q : PromiseId) : Spot where
  stream := st
  iteration := ⟨0, size, .reading, outstanding, signals, none⟩
  task := ⟨p, .collect 0, some q, false, some 0, collected⟩
  due := due
  verdict := none

/-- The task came to its end. -/
def ended (p : PromiseId) (size : FetchSize) (st : Stream) (outstanding : Int)
    (collected : List Record) (verdict : Settlement Delivery Failure) : Spot where
  stream := st
  iteration := ⟨0, size, .closed, outstanding, [], none⟩
  task := ⟨p, .collect 0, none, false, some 0, collected⟩
  due := []
  verdict := some verdict

end Spot

/-- What a job asks the connection for, if it is its turn. -/
def Job.ask? : Job → Option Ask
  | .answer m => some (.answer m)
  | .sendOn pull => some (.sendOn pull)
  | _ => none

/-- What follows the inside of the iteration, on the agenda of the task. -/
def inside : List Instruction := [.guarded (.iteration 0), .guarded (.task 0)]

variable {Q : World → Prop} {e₀ e : Engine} {o p q : PromiseId} {s : Spot} {x : Wire}
  {rest : List Instruction} {size : FetchSize} {st : Stream} {outstanding : Int}
  {told : List Signal} {collected : List Record} {due : List Job}

theorem At.withTask (stands : At e₀ o p s e) (f : Task → Task)
    (same : (f s.task).waitingFor = s.task.waitingFor) :
    At e₀ o p { s with task := f s.task } (e.modifyTask 0 f) := by
  have others : ∀ t, (e.tasks.modify 0 f)[t + 1]? = e.tasks[t + 1]? := fun t => by
    simp [Array.getElem?_modify]
  have first : (e.tasks.modify 0 f)[0]? = some (f s.task) := by
    simp [Array.getElem?_modify, stands.task]
  exact { stands with
    others := fun t task found => stands.others t task (others t ▸ found)
    waits := fun q awaited => same ▸ stands.waits q awaited
    woken := fun nobody q waiting => stands.woken nobody q (same ▸ waiting)
    task := first }

/-- A task that goes on waits for nothing. -/
def Task.goingOn (task : Task) : Task :=
  { task with waitingFor := none, isCancelRequested := false }

namespace Comes

theorem iterate {a : Iteration.Action} {it : Iteration} {effects : List Iteration.Effect}
    (stands : At e₀ o p s e) (step : s.iteration.step a = (it, effects))
    (same : it.awaited = s.iteration.awaited)
    (next : ∀ e', At e₀ o p { s with iteration := it } e' →
      Comes Q e' x (effects.flatMap (Instruction.ofIteration 0 it 0) ++ rest)) :
    Comes Q e x (.iteration 0 0 a :: rest) := by
  have exec : e.exec (.iteration 0 0 a) = ({ e with
      iterations := e.iterations.setIfInBounds 0 it },
      .go (effects.flatMap (Instruction.ofIteration 0 it 0))) := by
    simp only [Engine.exec, Engine.stepIteration, stands.iteration, step]
  exact go _ _ rfl exec (next _ (stands.withIteration it same))

theorem fetch {g : Signal} (stands : At e₀ o p (.reading p size st outstanding (g :: told)
      collected due) e)
    (next : ∀ e', At e₀ o p (.reading p size st outstanding (g :: told) collected due) e' →
      Comes Q e' x (.iteration 0 0 .take :: rest)) :
    Comes Q e x (.iteration 0 0 .fetch :: rest) :=
  iterate stands rfl rfl next

/-- A record is collected, and the next one is read. -/
theorem takeRecord {r : Record} (stands : At e₀ o p (.reading p size st outstanding
      (.record r :: told) collected due) e)
    (next : ∀ e', At e₀ o p (.reading p size st
        (if size.value = unlimited then outstanding else outstanding - 1) told (r :: collected)
        due) e' → Comes Q e' x (.iteration 0 0 .fetch :: inside)) :
    Comes Q e x (.iteration 0 0 .take :: inside) := by
  refine iterate stands rfl rfl fun e' stands => ?_
  have exec : e'.exec (.yielded 0 r) = (e'.modifyTask 0 fun task =>
      { task with collected := r :: task.collected }, .exit [.iteration 0 0 .advance]) := by
    simp only [Engine.exec, Engine.yielded, stands.task, Spot.reading]
  refine carry rfl exec ?_
  exact iterate (stands.withTask _ rfl) rfl rfl next

theorem drain (records : List Record) : ∀ {outstanding : Int} {collected : List Record}
    {e : Engine}, At e₀ o p (.reading p size st outstanding (records.map .record ++ told)
      collected due) e →
    (∀ e', At e₀ o p (.reading p size st
        (if size.value = unlimited then outstanding else outstanding - records.length) told
        (records.reverse ++ collected) due) e' →
      Comes Q e' x (.iteration 0 0 .fetch :: inside)) →
    Comes Q e x (.iteration 0 0 .fetch :: inside) := by
  induction records with
  | nil =>
      intro outstanding collected e stands next
      exact next e (by simpa using stands)
  | cons r records ih =>
      intro outstanding collected e stands next
      refine fetch stands fun e' stands => takeRecord stands fun e' stands => ?_
      refine ih stands fun e' stands => next e' ?_
      have same : (if size.value = unlimited then
            (if size.value = unlimited then outstanding else outstanding - 1)
          else (if size.value = unlimited then outstanding else outstanding - 1) - records.length)
          = if size.value = unlimited then outstanding
            else outstanding - (r :: records).length := by
        split
        · rfl
        · simp only [List.length_cons]
          omega
      simpa [same] using stands

/-! ### The end -/

/-- The task ends with what it read. -/
theorem takeEnd (stands : At e₀ o p (.reading p size st outstanding (.finish none :: told)
      collected []) e) (other : o ≠ p) (nothing : told = [])
    (next : ∀ e', At e₀ o p (.ended p size st outstanding collected
      (.value (.records collected.reverse))) e' → Comes Q e' x []) :
    Comes Q e x (.iteration 0 0 .take :: inside) := by
  subst nothing
  refine iterate stands rfl rfl fun e' stands => ?_
  have read : e'.exec (.exhausted 0) = (e', .go [.finish 0 (.records collected.reverse)]) := by
    simp only [Engine.exec, Engine.goOn, Engine.exhausted, stands.task, Spot.reading]
  have finish : e'.exec (.finish 0 (.records collected.reverse)) = ({ e' with
      loop := e'.loop.settle p (.value (.records collected.reverse)) }, .go []) := by
    simp [Engine.exec, Engine.finish, Engine.endTask, Engine.withLoop, stands.task, Spot.reading]
  refine go _ _ rfl read (go _ _ rfl finish (guarded (guarded (next _ ?_))))
  exact { stands with toCalm := stands.toCalm.finish _ other rfl rfl }

theorem takeFailure {f : Failure} (stands : At e₀ o p (.reading p size st outstanding
      (.finish (some f) :: told) collected []) e) (other : o ≠ p) (nothing : told = [])
    (next : ∀ e', At e₀ o p (.ended p size st outstanding collected (.failure f)) e' →
      Comes Q e' x []) :
    Comes Q e x (.iteration 0 0 .take :: inside) := by
  subst nothing
  refine iterate stands rfl rfl fun e' stands => ?_
  have thrown : e'.exec (.throw (.failure f)) = (e', .raise (.failure f)) := rfl
  refine carry rfl thrown ?_
  have left : e'.exec (.caught (.iteration 0) (.failure f)) = ({ e' with
      iterations := e'.iterations.setIfInBounds 0 ⟨0, size, .closed, outstanding, [], none⟩ },
      .go [.throw (.failure f)]) := by
    simp [Engine.exec, Engine.caught, stands.iteration, Spot.reading, Iteration.leave]
  have stands := stands.withIteration ⟨0, size, .closed, outstanding, [], none⟩ rfl
  refine go _ _ rfl left (carry rfl (r := .raise (.failure f)) rfl ?_)
  have finish : ∀ e' : Engine, e'.tasks[0]?
      = some ⟨p, .collect 0, none, false, some 0, collected⟩ →
      e'.exec (.caught (.task 0) (.failure f)) = ({ e' with
        loop := e'.loop.settle p (.failure f) }, .go []) := fun e' found => by
    simp [Engine.exec, Engine.caught, Engine.endTask, Engine.withLoop, found]
  refine go _ _ rfl (finish _ stands.task) (next _ ?_)
  exact { stands with toCalm := stands.toCalm.finish _ other rfl rfl }

/-- How a task ends that read records until the stream ended. -/
def verdict (records : List Record) : Option Failure → Settlement Delivery Failure
  | none => .value (.records records)
  | some f => .failure f

/-- What is left is read, and then the task ends. -/
theorem takeOut {f : Option Failure} (room : List Record) (stands : At e₀ o p
      (.reading p size st outstanding (room.map Signal.record ++ [.finish f]) collected []) e)
    (other : o ≠ p)
    (next : ∀ e' outstanding, At e₀ o p (.ended p size st outstanding (room.reverse ++ collected)
      (verdict (room.reverse ++ collected).reverse f)) e' → Comes Q e' x []) :
    Comes Q e x (.iteration 0 0 .take :: inside) := by
  have finish : ∀ (e : Engine) (outstanding : Int), At e₀ o p (.reading p size st outstanding
      [.finish f] (room.reverse ++ collected) []) e →
      Comes Q e x (.iteration 0 0 .take :: inside) := by
    intro e outstanding stands
    cases f with
    | none => exact takeEnd stands other rfl fun e' => next e' outstanding
    | some f => exact takeFailure stands other rfl fun e' => next e' outstanding
  cases room with
  | nil => exact finish e outstanding stands
  | cons r room =>
      have same : (r :: room).reverse ++ collected = room.reverse ++ (r :: collected) := by simp
      rw [same] at finish
      refine takeRecord stands fun e' stands => drain room stands fun e' stands => ?_
      exact fetch stands fun e' stands => finish e' _ stands

/-! ### Requests -/

/-- What a request of an iteration asks for can be demanded. -/
theorem demand (size : FetchSize) : ∃ d, Demand.ofInt? (Cursor.capped size.value) = some d ∧
    d.toInt = Cursor.capped size.value ∧ d.isPositive = true ∧ Demand.zero.join d = d := by
  rcases size.capped_cases with all | ⟨same, low, high⟩
  · exact ⟨.all, by rw [all]; rfl, by rw [all]; rfl, rfl, rfl⟩
  · have limited : ¬ (size.value > maxDemand ∨ size.value = unlimited) := by
      unfold unlimited
      omega
    refine ⟨.records size.value.toNat, ?_, ?_, ?_, ?_⟩
    · rw [same, Demand.ofInt?, if_neg limited, if_neg (by omega)]
    · rw [same]
      exact Int.toNat_of_nonneg (by omega)
    · simp only [Demand.isPositive, decide_eq_true_eq]
      omega
    · simp only [Demand.zero, Demand.join, Demand.records.injEq]
      omega

/-- With nothing to read and nothing outstanding, a batch is requested of the stream. -/
theorem askForBatch (stands : At e₀ o p (.reading p size st 0 [] collected due) e)
    (next : ∀ e', At e₀ o p (.reading p size st 0 [] collected due) e' →
      Comes Q e' x (.stream (.request (Cursor.capped size.value)) ::
        .iteration 0 0 .requested :: rest)) :
    Comes Q e x (.iteration 0 0 .fetch :: rest) :=
  iterate stands rfl rfl fun _ stands => log (requestRecords stands next)

theorem fetchNothing (stands : At e₀ o p (.reading p size st outstanding [] collected due) e)
    (pending : outstanding ≠ 0)
    (next : ∀ e', At e₀ o p (.reading p size st outstanding [] collected due) e' →
      Comes Q e' x (.iteration 0 0 .take :: rest)) :
    Comes Q e x (.iteration 0 0 .fetch :: rest) := by
  have step : (Spot.reading p size st outstanding [] collected due).iteration.step .fetch
      = (⟨0, size, .reading, outstanding, [], none⟩, [.andThen .take]) := by
    simp [Spot.reading, Iteration.step, pending]
  exact iterate stands step rfl next

theorem requested (stands : At e₀ o p (.reading p size st outstanding told collected due) e)
    (next : ∀ e', At e₀ o p (.reading p size st size.value told collected due) e' →
      Comes Q e' x (.iteration 0 0 .take :: rest)) :
    Comes Q e x (.iteration 0 0 .requested :: rest) :=
  iterate stands rfl rfl next

/-- A stream that is ready requests a batch of the server. -/
theorem pull {n : Nat} (stands : At e₀ o p s e) (fed : s.stream = .fed .ready .zero n)
    (next : ∀ e', At e₀ o p { s with stream := .fed .streaming .zero n } e' → Comes Q e' x
      (.ask (.write (.pull (Cursor.capped size.value) e₀.run.query)) :: rest)) :
    Comes Q e x (.stream (.request (Cursor.capped size.value)) :: rest) := by
  obtain ⟨d, demand, same, -⟩ := demand size
  have step : s.stream.step e.surroundings (.request (Cursor.capped size.value))
      = .ok (.fed .streaming .zero n, Stream.pullEffects e.surroundings d) := by
    rw [fed]
    simp only [Stream.step, Stream.request, Stream.ensureConsumers_fed, demand, bind, Except.bind]
    rfl
  refine stream stands step fun e' stands' => log ?_
  have query : e.surroundings.run.query = e₀.run.query := congrArg RunOutcome.query stands.run
  rw [query, same]
  exact next e' stands'

/-- A stream with a batch under way keeps what is requested for when it is over. -/
theorem join {q : Demand} {n : Nat} (stands : At e₀ o p s e)
    (fed : s.stream = .fed .streaming q n)
    (next : ∀ e' d, Demand.ofInt? (Cursor.capped size.value) = some d →
      At e₀ o p { s with stream := .fed .streaming (q.join d) n } e' → Comes Q e' x rest) :
    Comes Q e x (.stream (.request (Cursor.capped size.value)) :: rest) := by
  obtain ⟨d, demand, -⟩ := demand size
  have step : s.stream.step e.surroundings (.request (Cursor.capped size.value))
      = .ok (.fed .streaming (q.join d) n, []) := by
    rw [fed]
    simp only [Stream.step, Stream.request, Stream.ensureConsumers_fed, demand, bind, Except.bind]
    rfl
  exact stream stands step fun e' stands => next e' d demand stands

/-- A stream that gave up ignores what is requested. -/
theorem ignore {q : Demand} {n : Nat} (stands : At e₀ o p s e)
    (fed : s.stream = .fed .cancelled q n)
    (next : ∀ e', At e₀ o p s e' → Comes Q e' x rest) :
    Comes Q e x (.stream (.request (Cursor.capped size.value)) :: rest) := by
  obtain ⟨d, demand, -⟩ := demand size
  have step : s.stream.step e.surroundings (.request (Cursor.capped size.value)) = .ok (s.stream,
      [Stream.debug s!"ignoring request({d.toInt}) in state {Phase.cancelled.name}"]) := by
    rw [fed]
    simp only [Stream.step, Stream.request, Stream.ensureConsumers_fed, demand, bind, Except.bind]
    rfl
  exact stream stands step fun e' stands => log (next e' stands)

/-! ### Waiting -/

theorem suspend (stands : At e₀ o p (.reading p size st outstanding [] collected due) e)
    (next : ∀ e' q, At e₀ o p (.waiting p size st outstanding collected due q) e' →
      Comes Q e' x []) :
    Comes Q e x (.iteration 0 0 .take :: inside) := by
  refine iterate stands rfl rfl fun e' stands => ?_
  have signal : e'.exec (.awaitSignal 0 0) = ({ e' with
      loop := e'.loop.create
      iterations := e'.iterations.modify 0 fun it => { it with awaited := some e'.loop.nextId } },
      .go [.await 0 e'.loop.nextId]) := rfl
  have unsettled : e'.loop.create.settlement? e'.loop.nextId = none := by
    simp [Loop.settlement?, Loop.create, Loop.nextId]
  have await : ({ e' with
      loop := e'.loop.create
      iterations := e'.iterations.modify 0 fun it =>
        { it with awaited := some e'.loop.nextId } } : Engine).exec (.await 0 e'.loop.nextId)
      = ({ e' with
        loop := e'.loop.create.watch e'.loop.nextId (.resume 0)
        iterations := e'.iterations.modify 0 fun it => { it with awaited := some e'.loop.nextId }
        tasks := e'.tasks.setIfInBounds 0
          ⟨p, .collect 0, some e'.loop.nextId, false, some 0, collected⟩ }, .suspend 0) := by
    simp [Engine.exec, Engine.await, unsettled, stands.task, Spot.reading]
  refine go _ _ rfl signal (carry rfl await (next _ e'.loop.nextId ?_))
  have inside : 0 < e'.tasks.size := (Array.getElem?_eq_some_iff.1 stands.task).1
  have calm := stands.toCalm.await
  exact { stands with
    toCalm := { calm with
      others := fun t task found => calm.others t task (by simpa using found) }
    iteration := by simp [Array.getElem?_modify, stands.iteration, Spot.reading, Spot.waiting]
    task := by simp [inside, Spot.waiting] }

theorem resume (stands : At e₀ o p (.woken p size st outstanding told collected
      (.resume 0 :: due) q) e)
    (next : ∀ e', At e₀ o p (.reading p size st outstanding told collected due) e' →
      Comes Q e' x (.iteration 0 0 .take :: inside)) : Comes Q e x [] := by
  refine Comes.due stands rfl fun e' stands => ?_
  have told : e'.loop.settlement? q = some (.value .nothing) := stands.woken rfl q rfl
  have begun : e'.runJob (.resume 0)
      = (e'.modifyTask 0 Task.goingOn, .woken 0 (.value .nothing) :: inside) := by
    simp [Engine.runJob, Engine.resumeTask, stands.task, Spot.woken, told, Engine.iterationOf?,
      inside]
    rfl
  rw [begun]
  have others : ∀ t, (e'.tasks.modify 0 Task.goingOn)[t + 1]? = e'.tasks[t + 1]? :=
    fun t => by simp [Array.getElem?_modify]
  have first : (e'.tasks.modify 0 Task.goingOn)[0]?
      = some ⟨p, .collect 0, none, false, some 0, collected⟩ := by
    simp [Array.getElem?_modify, stands.task, Spot.woken, Task.goingOn]
  have goes : (e'.modifyTask 0 Task.goingOn).exec (.woken 0 (.value .nothing))
      = (e'.modifyTask 0 Task.goingOn, .go [.iteration 0 0 .take]) := by
    simp only [Engine.exec, Engine.woken, Engine.modifyTask, first, Engine.iterationOf?,
      Engine.goOn]
  refine go _ _ rfl goes (next _ ?_)
  exact { stands with
    own := stands.own
    due := stands.due
    others := fun t task found => stands.others t task (others t ▸ found)
    waits := fun q awaited => by cases awaited
    woken := fun _ q waiting => by cases waiting
    task := first }

/-- The connection has its turn, in a job of its own. -/
theorem turn {k : Job} {a : Ask} (stands : At e₀ o p s e) (first : s.due = k :: due)
    (asks : k.ask? = some a)
    (next : ∀ e', At e₀ o p { s with due } e' → Comes Q e' x [.ask a, .guarded .job]) :
    Comes Q e x [] := by
  refine Comes.due stands first fun e' stands => ?_
  cases k with
  | answer m | sendOn pull =>
      cases asks
      exact next e' stands
  | _ => cases asks

end Comes

end QueryStream
