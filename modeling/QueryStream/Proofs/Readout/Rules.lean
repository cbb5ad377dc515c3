/-
  Proofs/Readout/Rules.lean --- what a reading comes to, step by step.

  There is one rule for each thing that the stream, the cursor, the iteration and the task are
  asked to do in the course of a reading.  It takes the instruction off the agenda, and the
  spot it leads to says what there is to go on from.
-/
import QueryStream.Proofs.Cursor.Steps
import QueryStream.Proofs.Readout.Comes
import QueryStream.Proofs.Readout.Spot
import QueryStream.Proofs.Readout.Transcript
import QueryStream.Proofs.Stream.Steps

set_option autoImplicit false

namespace QueryStream

/-- A stream whose records go to the iteration, and its summary to the cursor. -/
def Stream.fed (phase : Phase) (pending : Demand) (delivered : Nat) : Stream :=
  ⟨phase, pending, delivered, some (.feed 0), some (.cursor 0)⟩

/-- A stream whose consumers were let go. -/
def Stream.left (phase : Phase) (pending : Demand) (delivered : Nat) : Stream :=
  ⟨phase, pending, delivered, none, none⟩

@[simp] theorem Stream.fed_delivered (phase : Phase) (q : Demand) (n : Nat) :
    (Stream.fed phase q n).delivered = n := rfl

@[simp] theorem Stream.ensureConsumers_fed (x : Surroundings) (phase : Phase) (q : Demand)
    (n : Nat) : (Stream.fed phase q n).ensureConsumers x = .ok () :=
  ensureConsumers_eq_ok x (by simp [lacksConsumer, fed])

/-- A cap is reached by as many records as it says, unless it is no cap. -/
theorem Stream.reaches_int (m : Int) (n : Nat) :
    reaches (.int m) n = .ok (decide (0 < m ∧ m ≤ n)) := by
  simp only [reaches, Value.magnitude?, Value.Magnitude.less, Value.Magnitude.atMost,
    Value.Magnitude.same, Except.ok.injEq]
  rw [Bool.eq_iff_iff]
  simp
  omega

/-- The phase in which a stream is while a batch is under way, with so many records
delivered. -/
def Phase.underCap (m : Int) (n : Nat) : Phase :=
  if 0 < m ∧ m ≤ (n : Int) then .cancelled else .streaming

/-- What can be looked into at one name can be looked into at every other. -/
theorem Value.exists_field {metadata found : Value} {name : String} (other : String)
    (field : metadata.field name = .ok found) : ∃ found, metadata.field other = .ok found := by
  cases metadata with
  | map entries => exact ⟨_, rfl⟩
  | _ => cases field

namespace At

variable {e₀ e : Engine} {o p : PromiseId} {s : Spot}

theorem withStream (stands : At e₀ o p s e) (st : Stream) :
    At e₀ o p { s with stream := st } { e with stream := st } :=
  { stands with stream := rfl }

/-- What happens to the loop apart from the reading keeps the spot. -/
theorem withLoop {l : EngineLoop} {extra : List Job} (stands : At e₀ o p s e)
    (apart : Loop.Apart p extra e.loop l) : At e₀ o p s { e with loop := l } :=
  { stands with toCalm := stands.toCalm.of_apart apart }

theorem withIteration (stands : At e₀ o p s e) (it : Iteration)
    (same : it.awaited = s.iteration.awaited) :
    At e₀ o p { s with iteration := it } { e with iterations := e.iterations.setIfInBounds 0 it } :=
  { stands with
    iteration := by
      simp [(Array.getElem?_eq_some_iff.1 stands.iteration).1]
    waits := fun q awaited => stands.waits q (same ▸ awaited)
    woken := fun nobody => stands.woken (same ▸ nobody) }

theorem withCursor (stands : At e₀ o p s e) {c : Cursor} (unconsumed : c.isConsumed = false)
    (outcome : c.outcome = o) :
    At e₀ o p s { e with cursors := e.cursors.setIfInBounds 0 c } :=
  { stands with
    cursor := by
      obtain ⟨_, found, -⟩ := stands.cursor
      exact ⟨c, by simp [(Array.getElem?_eq_some_iff.1 found).1], unconsumed, outcome⟩ }

theorem signal (stands : At e₀ o p s e) (g : Signal) :
    At e₀ o p (s.signal g) (e.signal 0 g) := by
  have modified : (e.iterations.modify 0 fun it =>
      { it with signals := it.signals ++ [g], awaited := none })[0]?
      = some (s.signal g).iteration := by
    simp [Array.getElem?_modify, stands.iteration, Spot.signal]
  unfold Engine.signal
  simp only [stands.iteration]
  cases awaited : s.iteration.awaited with
  | none => exact { stands with toCalm := stands.toCalm.keep g awaited, iteration := modified }
  | some q => exact { stands with toCalm := stands.toCalm.wake g awaited, iteration := modified }

theorem resolve (stands : At e₀ o p s e) (other : o ≠ p) (st : Settlement Delivery Failure) :
    At e₀ o p s (e.withLoop fun l => l.settle o st) := by
  obtain ⟨extra, apart, -⟩ := Loop.Apart.settle st other stands.outcome
  exact stands.withLoop apart

theorem withReleases (stands : At e₀ o p s e) (releases : Array Release) :
    At e₀ o p s { e with releases } :=
  { stands with }

/-- A task that gives the connection back is started. -/
theorem startRelease (stands : At e₀ o p s e) (id : ReleaseId) :
    At e₀ o p s (e.startRelease id .nobody).1 := by
  have others : 0 < e.tasks.size := (Array.getElem?_eq_some_iff.1 stands.task).1
  have first : (e.tasks.push ⟨e.loop.nextId, .release, none, false, none, []⟩)[0]?
      = some s.task := by
    rw [Array.getElem?_push, if_neg (Nat.ne_of_lt others)]
    exact stands.task
  exact { stands with toCalm := stands.toCalm.spawn others, task := first }

end At

namespace Comes

variable {Q : World → Prop} {e₀ e : Engine} {o p : PromiseId} {s : Spot} {x : Wire}
  {rest : List Instruction}

/-! ### The stream -/

theorem stream {a : Stream.Action} {st : Stream} {effects : List Stream.Effect}
    (stands : At e₀ o p s e) (step : s.stream.step e.surroundings a = .ok (st, effects))
    (next : ∀ e', At e₀ o p { s with stream := st } e' →
      Comes Q e' x (effects.map .ofStream ++ rest)) :
    Comes Q e x (.stream a :: rest) := by
  have step : e.stream.step e.surroundings a = .ok (st, effects) := stands.stream ▸ step
  exact go _ _ rfl (e.exec_stream step) (next _ (stands.withStream st))

theorem channel {r : ChannelRequest} (stands : At e₀ o p s e)
    (next : Comes Q e x (.stream (Instruction.ofChannelRequest r) :: rest)) :
    Comes Q e x (.channel r :: rest) :=
  go e [.stream (Instruction.ofChannelRequest r)] rfl (e.exec_channel stands.hasStream r) next

theorem soon {k : Job} (stands : At e₀ o p s e) (mine : k.isApart = false)
    (next : ∀ e', At e₀ o p { s with due := s.due ++ [k] } e' → Comes Q e' x rest) :
    Comes Q e x (.soon k :: rest) :=
  go _ [] rfl rfl (next _ { stands with toCalm := stands.toCalm.soon mine })

/-! ### The cursor -/

theorem requestRecords {n : Int} (stands : At e₀ o p s e)
    (next : ∀ e', At e₀ o p s e' →
      Comes Q e' x (.stream (.request (Cursor.capped n)) :: rest)) :
    Comes Q e x (.cursor 0 (.request n) :: rest) := by
  obtain ⟨c, found, unconsumed, outcome⟩ := stands.cursor
  have exec : e.exec (.cursor 0 (.request n)) = ({ e with cursors := e.cursors.setIfInBounds 0 c },
      .go [.channel (.request (Cursor.capped n))]) := by
    simp [Engine.exec, Engine.stepCursor, found, Cursor.step, Cursor.ensureOpen, unconsumed,
      Instruction.ofCursor, Cursor.capped, pure, Except.pure, bind, Except.bind]
  have stands := stands.withCursor unconsumed outcome
  exact go _ _ rfl exec (channel stands (next _ stands))

theorem tellSummary {summary : Option Summary} {f : Option Failure} (stands : At e₀ o p s e)
    (other : o ≠ p) (next : ∀ e', At e₀ o p s e' → Comes Q e' x rest) :
    Comes Q e x (.tellSummary (.cursor 0) summary f :: rest) := by
  refine go e [.cursor 0 (.notify summary f)] rfl rfl ?_
  obtain ⟨c, found, unconsumed, outcome⟩ := stands.cursor
  have settles : ∀ (e' : Engine) (st : Settlement Delivery Failure), At e₀ o p s e' →
      Comes Q e' x (.settle o st :: rest) := fun e' st stands =>
    go _ [] rfl rfl (next _ (stands.resolve other st))
  cases f with
  | some f =>
      have exec : e.exec (.cursor 0 (.notify summary (some f))) = ({ e with
          cursors := e.cursors.setIfInBounds 0 { c with
            isErrorDelivered := c.isErrorDelivered || c.status == .installed } },
          .go [.settle o (.failure f)]) := by
        simp [Engine.exec, Engine.stepCursor, found, Cursor.step, Instruction.ofCursor, outcome]
      exact go _ _ rfl exec (settles _ _ (stands.withCursor unconsumed outcome))
  | none =>
      cases summary with
      | some summary =>
          have exec : e.exec (.cursor 0 (.notify (some summary) none)) = ({ e with
              cursors := e.cursors.setIfInBounds 0 c },
              .go [.settle o (.value (.summary summary))]) := by
            simp [Engine.exec, Engine.stepCursor, found, Cursor.step, Instruction.ofCursor, outcome]
          exact go _ _ rfl exec (settles _ _ (stands.withCursor unconsumed outcome))
      | none =>
          have exec : e.exec (.cursor 0 (.notify none none)) = ({ e with
              cursors := e.cursors.setIfInBounds 0 c }, .go []) := by
            simp [Engine.exec, Engine.stepCursor, found, Cursor.step]
          exact go _ _ rfl exec (next _ (stands.withCursor unconsumed outcome))

/-! ### The iteration is told something -/

theorem tellRecord {r : Record} (stands : At e₀ o p s e)
    (next : ∀ e', At e₀ o p (s.signal (.record r)) e' → Comes Q e' x rest) :
    Comes Q e x (.tellRecord (.feed 0) r :: rest) :=
  go _ [] rfl rfl (next _ (stands.signal _))

theorem tellEnd {f : Option Failure} (stands : At e₀ o p s e)
    (next : ∀ e', At e₀ o p (s.signal (.finish f)) e' → Comes Q e' x rest) :
    Comes Q e x (.tellEnd (.feed 0) f :: rest) :=
  go _ [] rfl rfl (next _ (stands.signal _))

/-! ### The owner of the stream is told of its end -/

theorem invoke {id : ReleaseId} (stands : At e₀ o p s e)
    (releases : ∀ f, x.script.release ≠ .refused f)
    (next : ∀ e', At e₀ o p s e' → Comes Q e' x rest) :
    Comes Q e x (.release id .nobody :: rest) := by
  have handed : ∀ e' q, At e₀ o p s e' → Comes Q e' x (.hand .nobody q :: rest) :=
    fun e' q stands => go e' [] rfl rfl (next e' stands)
  obtain ⟨e', next', exec, invokes⟩ := e.exec_release id .nobody
  refine go e' next' rfl exec ?_
  cases invokes with
  | absent found => exact next e stands
  | reused found promise => exact log (handed e _ stands)
  | made found => exact handed _ _ ((stands.withLoop (.createSettled _)).withReleases _)
  | called found =>
      refine log (release releases ?_)
      exact go _ [.hand .nobody e.loop.nextId] rfl rfl (handed _ _ (stands.startRelease id))

theorem ownerSucceeded {metadata bookmark : Value} (stands : At e₀ o p s e) (serves : x.Serves e₀)
    (field : metadata.field "bookmark" = .ok bookmark)
    (next : ∀ e', At e₀ o p s e' → Comes Q e' x rest) :
    Comes Q e x (.ownerSucceeded metadata :: rest) := by
  have bears := serves.bears
  rw [← stands.owner] at bears
  cases owner : e.owner with
  | transaction =>
      refine go e [] rfl ?_ (next e stands)
      simp [Engine.exec, Engine.ownerSucceeded, owner, Engine.goOn]
  | session id =>
      rw [owner] at bears
      have exec : e.exec (.ownerSucceeded metadata)
          = (if bookmark.isNull then e else { e with bookmark },
            .go [.release id .nobody]) := by
        simp [Engine.exec, Engine.ownerSucceeded, owner, field, Engine.goOn]
      have stands : At e₀ o p s (if bookmark.isNull then e else { e with bookmark }) := by
        split
        · exact stands
        · exact { stands with }
      exact go _ _ rfl exec (invoke stands bears next)

theorem ownerFailed {f : Failure} (stands : At e₀ o p s e) (serves : x.Serves e₀)
    (next : ∀ e', At e₀ o p s e' → Comes Q e' x rest) :
    Comes Q e x (.ownerFailed f :: rest) := by
  have bears := serves.bears
  rw [← stands.owner] at bears
  cases owner : e.owner with
  | transaction =>
      rw [owner] at bears
      have exec : e.exec (.ownerFailed f) = (e, .go [.ask (.log ⟨.info, .completion,
          "marking transaction as terminated after failure: " ++ f.literal⟩),
          .ask (.terminate f)]) := by
        simp only [Engine.exec, Engine.ownerFailed, owner, Engine.goOn]
      exact go _ _ rfl exec (log (terminate bears (next e stands)))
  | session id =>
      rw [owner] at bears
      refine go e [.release id .nobody] rfl ?_ (invoke stands bears next)
      simp [Engine.exec, Engine.ownerFailed, owner, Engine.goOn]

/-! ### The end of the stream -/

theorem conclude {phase : Phase} {q : Demand} {n : Nat} {a : Stream.Action} (summary : Summary)
    {f : Option Failure} (stands : At e₀ o p s e) (other : o ≠ p)
    (fed : s.stream = .fed phase q n)
    (step : s.stream.step e.surroundings a = .ok (s.stream.complete summary f))
    (next : ∀ e', At e₀ o p ({ s with stream := .left phase q n }.signal (.finish f)) e' →
      Comes Q e' x rest) :
    Comes Q e x (.stream a :: rest) := by
  refine stream stands step fun e' stands => ?_
  rw [fed] at stands ⊢
  exact tellSummary stands other fun e' stands => tellEnd stands next

theorem succeed {phase : Phase} {q : Demand} {n : Nat} {metadata : Value} (stands : At e₀ o p s e)
    (other : o ≠ p) (serves : x.Serves e₀) (fed : s.stream = .fed phase q n)
    (running : phase = .streaming ∨ phase = .cancelled) (closes : e₀.Closes metadata)
    (next : ∀ e', At e₀ o p ({ s with stream := .left .succeeded q n }.signal (.finish none)) e' →
      Comes Q e' x rest) :
    Comes Q e x (.stream (.succeed metadata) :: rest) := by
  obtain ⟨raw, field, last⟩ := closes.last
  obtain ⟨summary, read⟩ := closes.read
  obtain ⟨bookmark, bookmarked⟩ := Value.exists_field "bookmark" field
  have step : s.stream.step e.surroundings (.succeed metadata)
      = .ok (.fed .succeeded q n, [.andThen (.settle phase false metadata)]) := by
    rw [fed]
    rcases running with rfl | rfl <;>
      simp [Stream.step, Stream.succeed, Phase.isTerminal, field, last, bind, Except.bind, pure,
        Except.pure] <;> rfl
  refine stream stands step fun e' stands => ?_
  refine stream stands rfl fun e' stands => ?_
  refine log (ownerSucceeded stands serves bookmarked fun e' stands => ?_)
  refine conclude summary stands other rfl ?_ next
  have read : Stream.summaryOf e'.surroundings metadata = .ok summary := by
    rw [← read]
    simp only [Stream.summaryOf, Engine.surroundings, stands.query, stands.server, stands.run]
  simp only [Stream.step, Stream.conclude, read]

theorem fail {phase : Phase} {q : Demand} {n : Nat} {f : Failure} (stands : At e₀ o p s e)
    (other : o ≠ p) (serves : x.Serves e₀) (fed : s.stream = .fed phase q n)
    (running : phase = .streaming ∨ phase = .cancelled)
    (next : ∀ e', At e₀ o p ({ s with stream := .left .failed q n }.signal (.finish (some f))) e' →
      Comes Q e' x rest) :
    Comes Q e x (.stream (.fail f) :: rest) := by
  have step : s.stream.step e.surroundings (.fail f) = .ok (.fed .failed q n,
      [Stream.debug (s!"pull failure in state {phase.name}: " ++ f.literal), .ownerFailed f,
        .andThen (.concludeFailure f)]) := by
    rw [fed]
    rcases running with rfl | rfl <;> rfl
  refine stream stands step fun e' stands => ?_
  refine log (ownerFailed stands serves fun e' stands => ?_)
  exact conclude _ stands other rfl rfl next

/-! ### The rows of a batch -/

/-- A row is delivered while there is room under the cap. -/
theorem deliver {m : Int} {q : Demand} {n : Nat} {row : Value} {r : Record} (stands : At e₀ o p s e)
    (cap : e₀.cap = .int m) (fed : s.stream = .fed .streaming q n)
    (made : Record.ofSequences? (.list e₀.run.keys) row = .ok r)
    (next : ∀ e', At e₀ o p ({ s with
        stream := .fed (Phase.underCap m (n + 1)) q (n + 1) }.signal (.record r)) e' →
      Comes Q e' x rest) :
    Comes Q e x (.stream (.deliver row) :: rest) := by
  have step : s.stream.step e.surroundings (.deliver row) = .ok (.fed .streaming q n,
      [Stream.trace ("delivering record " ++ r.literal), .tellRecord (.feed 0) r,
        .andThen .count]) := by
    have made : Record.ofSequences? (.list e.surroundings.run.keys) row = .ok r := by
      rw [← made, ← stands.run]
      rfl
    rw [fed]
    simp only [Stream.step, Stream.deliver, Stream.ensureConsumers_fed, bind, Except.bind]
    simp only [Stream.fed, made]
    rfl
  refine stream stands step fun e' stands => ?_
  refine log (tellRecord stands fun e' stands => ?_)
  refine stream stands rfl fun e' stands => ?_
  have cap : e'.surroundings.cap = .int m := stands.cap.trans cap
  have reached := Stream.reaches_int m (n + 1)
  by_cases full : 0 < m ∧ m ≤ ((n + 1 : Nat) : Int)
  · have step : (Stream.fed .streaming q (n + 1)).step e'.surroundings .checkCap
        = .ok (.fed .streaming q (n + 1), [.log ⟨.info, .stream, "max record count ("
          ++ e'.surroundings.cap.plain ++ ") reached, discarding the rest of the stream"⟩,
          .andThen .cancel]) := by
      rw [decide_eq_true full] at reached
      simp [Stream.step, Stream.checkCap, cap, reached, bind, Except.bind, pure, Except.pure]
    refine stream stands step fun e' stands => ?_
    refine log (stream stands rfl fun e' stands => ?_)
    refine stream stands rfl fun e' stands => ?_
    rw [Phase.underCap, if_pos full] at next
    exact log (next e' stands)
  · have step : (Stream.fed .streaming q (n + 1)).step e'.surroundings .checkCap
        = .ok (.fed .streaming q (n + 1), []) := by
      rw [decide_eq_false full] at reached
      simp [Stream.step, Stream.checkCap, cap, reached, bind, Except.bind, pure, Except.pure]
    refine stream stands step fun e' stands => ?_
    rw [Phase.underCap, if_neg full] at next
    exact next e' stands

/-- Once the cap is reached, a row is dropped. -/
theorem drop {q : Demand} {n : Nat} {row : Value} (stands : At e₀ o p s e)
    (fed : s.stream = .fed .cancelled q n)
    (next : ∀ e', At e₀ o p s e' → Comes Q e' x rest) :
    Comes Q e x (.stream (.deliver row) :: rest) := by
  have step : s.stream.step e.surroundings (.deliver row)
      = .ok (s.stream, [Stream.trace s!"dropping record in state {Phase.cancelled.name}"]) := by
    rw [fed]
    rfl
  exact stream stands step fun e' stands => log (next e' stands)

/-- The rows of a batch are delivered as far as there is room. -/
theorem deliverAll {m : Int} {make : Value → Record} (cap : e₀.cap = .int m) :
    ∀ (rows : List Value) {q : Demand} {n : Nat} {s : Spot} {e : Engine},
      At e₀ o p s e → s.stream = .fed (Phase.underCap m n) q n →
      (∀ row ∈ rows, Record.ofSequences? (.list e₀.run.keys) row = .ok (make row)) →
      (∀ e', At e₀ o p ({ s with
          stream := .fed (Phase.underCap m (n + (underCap m n rows).length)) q
            (n + (underCap m n rows).length) }.signals
          (((underCap m n rows).map make).map .record)) e' → Comes Q e' x rest) →
      Comes Q e x (rows.map (fun row => .stream (.deliver row)) ++ rest)
  | [], q, n, s, e, stands, fed, _, next => by
      have nothing : underCap m n ([] : List Value) = [] := by simp [underCap]
      refine next e ?_
      rw [nothing]
      simpa [← fed] using stands
  | row :: rows, q, n, s, e, stands, fed, made, next => by
      have later : ∀ row ∈ rows, Record.ofSequences? (.list e₀.run.keys) row = .ok (make row) :=
        fun row mem => made row (by simp [mem])
      by_cases full : 0 < m ∧ m ≤ (n : Int)
      · have nothing : ∀ rows : List Value, underCap m n rows = [] := fun rows => by
          simp [underCap, full.1]
          omega
        have cancelled : Phase.underCap m n = .cancelled := if_pos full
        refine drop stands (fed.trans (by rw [cancelled])) fun e' stands => ?_
        refine deliverAll cap rows stands fed later fun e' stands => next e' ?_
        simpa [nothing] using stands
      · have one : underCap m n (row :: rows) = row :: underCap m (n + 1) rows := by
          unfold underCap
          split
          · rename_i capped
            obtain ⟨room, hroom⟩ : ∃ room, m.toNat - n = room + 1 := ⟨m.toNat - n - 1, by omega⟩
            rw [hroom, List.take_succ_cons]
            congr 2
            omega
          · rfl
        have streaming : Phase.underCap m n = .streaming := if_neg full
        refine deliver stands cap (fed.trans (by rw [streaming])) (made row (by simp))
          fun e' stands => ?_
        refine deliverAll cap rows stands rfl later fun e' stands => next e' ?_
        rw [one, List.length_cons, List.map_cons, List.map_cons, Spot.signals_cons,
          Nat.add_comm _ 1, ← Nat.add_assoc]
        exact stands

/-! ### A batch with more rows behind it -/

/-- The cursor is told of a batch, unless the stream is over by then. -/
theorem announce {st : Stream} (stands : At e₀ o p s e) (other : o ≠ p) (stream' : s.stream = st)
    (attends : st.summaryConsumer = some (.cursor 0) ∨ st.summaryConsumer = none)
    (next : ∀ e', At e₀ o p s e' → Comes Q e' x rest) :
    Comes Q e x (.stream .announce :: rest) := by
  have step : s.stream.step e.surroundings .announce
      = .ok (s.stream, (st.summaryConsumer.map Stream.Effect.tellMore).toList) := by
    rw [stream']
    rfl
  refine stream stands step fun e' stands => ?_
  rcases attends with attends | attends
  · rw [attends]
    exact tellSummary stands other next
  · rw [attends]
    exact next e' stands

/-- The batch is over, and more can be requested. -/
theorem more {n : Nat} (stands : At e₀ o p s e) (other : o ≠ p)
    (fed : s.stream = .fed .streaming .zero n)
    (next : ∀ e', At e₀ o p { s with stream := .fed .ready .zero n } e' → Comes Q e' x rest) :
    Comes Q e x (.stream (.succeed Connection.moreMetadata) :: rest) := by
  have step : s.stream.step e.surroundings (.succeed Connection.moreMetadata)
      = .ok (.fed .ready .zero n,
        [.andThen (.settle .streaming true Connection.moreMetadata)]) := by
    rw [fed]
    rfl
  refine stream stands step fun e' stands => ?_
  refine stream stands rfl fun e' stands => log ?_
  exact announce stands other rfl (.inl rfl) next

/-- The batch is over, and what was demanded in the meantime is requested. -/
theorem flush {q : Demand} {n : Nat} (stands : At e₀ o p s e)
    (fed : s.stream = .fed .streaming q n) (pending : q.isPositive = true)
    (next : ∀ e', At e₀ o p { s with stream := .fed .streaming .zero n } e' →
      Comes Q e' x (.ask (.write (.pull q.toInt e₀.run.query)) :: .stream .announce :: rest)) :
    Comes Q e x (.stream (.succeed Connection.moreMetadata) :: rest) := by
  have step : s.stream.step e.surroundings (.succeed Connection.moreMetadata)
      = .ok (.fed .ready q n, [.andThen (.settle .streaming true Connection.moreMetadata)]) := by
    rw [fed]
    rfl
  refine stream stands step fun e' stands => ?_
  have settle : ∃ line, (Stream.fed .ready q n).step e'.surroundings
      (.settle .streaming true Connection.moreMetadata) = .ok (.fed .streaming .zero n,
        .log line :: Stream.pullEffects e'.surroundings q ++ [.andThen .announce]) := by
    simp only [Stream.step, Stream.settle, Stream.fed, pending, if_true]
    exact ⟨_, rfl⟩
  obtain ⟨line, settle⟩ := settle
  refine stream stands settle fun e'' stands' => log (log ?_)
  have query : e'.surroundings.run.query = e₀.run.query := congrArg RunOutcome.query stands.run
  rw [query]
  exact next e'' stands'

/-- The batch of a stream that gave up is over, and what is left is to be dropped. -/
theorem giveUp {q : Demand} {n : Nat} (stands : At e₀ o p s e)
    (fed : s.stream = .fed .cancelled q n)
    (next : ∀ e', At e₀ o p s e' → Comes Q e' x (.ask (.write (.discardAll e₀.run.query)) ::
      .stream (.settle .cancelled true Connection.moreMetadata) :: rest)) :
    Comes Q e x (.stream (.succeed Connection.moreMetadata) :: rest) := by
  have step : s.stream.step e.surroundings (.succeed Connection.moreMetadata)
      = .ok (s.stream, Stream.discardEffects e.surroundings
        ++ [.andThen (.settle .cancelled true Connection.moreMetadata)]) := by
    rw [fed]
    rfl
  refine stream stands step fun e' stands' => log ?_
  have same : e.surroundings.run.query = e₀.run.query := congrArg RunOutcome.query stands.run
  rw [same]
  exact next e' stands'

/-- What is left of the response once dropping the rest was requested, and not answered. -/
theorem settleCancelled {q : Demand} {n : Nat} {before : Phase} {more : Bool} {metadata : Value}
    (stands : At e₀ o p s e) (fed : s.stream = .fed .cancelled q n)
    (next : ∀ e', At e₀ o p s e' → Comes Q e' x rest) :
    Comes Q e x (.stream (.settle before more metadata) :: rest) := by
  have step : ∃ line, s.stream.step e.surroundings (.settle before more metadata)
      = .ok (s.stream, [.log line]) := by
    rw [fed]
    exact ⟨_, rfl⟩
  obtain ⟨line, step⟩ := step
  exact stream stands step fun e' stands => log (next e' stands)

/-- What is left of the response once dropping the rest was requested and answered: the owner
is told once more, but no consumer. -/
theorem settleLeft {q : Demand} {n : Nat} {before : Phase} {more : Bool} (stands : At e₀ o p s e)
    (serves : x.Serves e₀) (gone : s.stream = .left .succeeded q n)
    (next : ∀ e', At e₀ o p s e' → Comes Q e' x rest) :
    Comes Q e x (.stream (.settle before more Connection.moreMetadata) :: rest) := by
  have step : ∀ x : Stream.Surroundings, ∃ line,
      s.stream.step x (.settle before more Connection.moreMetadata) = .ok (s.stream,
        [.log line, .ownerSucceeded Connection.moreMetadata,
          .andThen (.conclude Connection.moreMetadata)]) := by
    intro x
    rw [gone]
    exact ⟨_, rfl⟩
  have empty : ∀ x : Stream.Surroundings,
      s.stream.step x (.conclude Connection.moreMetadata) = .ok (s.stream, []) := by
    intro x
    rw [gone]
    rfl
  obtain ⟨line, step⟩ := step e.surroundings
  refine stream stands step fun e' stands => log ?_
  refine ownerSucceeded stands serves rfl fun e' stands => ?_
  exact stream stands (empty _) next

end Comes

end QueryStream
