/-
  Proofs/Reading/Account.lean --- the records that an iteration has outstanding.

  What an iteration has outstanding is accounted for (`Account`): the records that wait for
  it, the one it is being told of, what is left of the batch under way, and what was
  demanded since.  While the stream is ready nothing is under way, so nothing that is
  outstanding waits for it.  The batch under way is the last request that was written, less
  the rows that came since (`Underway`).
-/
import QueryStream.Proofs.Reading.Demand

set_option autoImplicit false

namespace QueryStream

/-! ## The batch under way -/

/-- Whether an instruction writes a certain request. -/
def Instruction.isWriteOf (request : Message) : Instruction → Bool
  | .ask (.write written) => written == request
  | _ => false

/-- Whether a move is a row that arrives. -/
def Move.isRow : Move → Bool
  | .carried (.stream (.deliver _)) _ => true
  | _ => false

/-- The pull under way asked for `n` records, and so many are left to be sent. -/
inductive Underway (h : List Move) (agenda : List Instruction) (n : Int) : Int → Prop
  | due (query : Int) (write : 0 < agenda.countP (Instruction.isWriteOf (.pull n query))) :
      Underway h agenda n n
  | sent (query : Int) (last : lastRequest h = some (.pull n query)) (written : writes agenda = 0) :
      Underway h agenda n (n - sentRows h)

section Underway

variable {c : Conduct} {h : List Move} {s s' : Situation} {m : Move} {n left : Int}

theorem lastRequest_cons (h : List Move) (write : m.isWrite = false) :
    lastRequest (m :: h) = lastRequest h := by
  cases m with
  | answered a r => cases a <;> first | rfl | simp [Move.isWrite] at write
  | _ => rfl

theorem sentRows_cons (h : List Move) (write : m.isWrite = false) :
    sentRows (m :: h) = sentRows h + if m.isRow then 1 else 0 := by
  cases m with
  | answered a r =>
      cases a <;> first | (simp [sentRows, Move.isRow]; done) | simp [Move.isWrite] at write
  | carried i r =>
      cases i with
      | stream a => cases a <;> simp [sentRows, Move.isRow]
      | _ => simp [sentRows, Move.isRow]
  | _ => simp [sentRows, Move.isRow]

theorem Instruction.eq_of_isWriteOf {request : Message} {i : Instruction}
    (h : i.isWriteOf request = true) : i = .ask (.write request) := by
  cases i with
  | ask a =>
      cases a with
      | write written => simpa [isWriteOf] using h
      | _ => cases h
  | _ => cases h

theorem Move.exists_of_isRow (row : m.isRow = true) :
    ∃ fields r, m = .carried (.stream (.deliver fields)) r := by
  unfold Move.isRow at row
  split at row
  · exact ⟨_, _, rfl⟩
  · cases row

theorem Conduct.FeedsCalmly.not_isRow (feeds : c.FeedsCalmly) (permitted : c.Permits h m)
    (other : ∀ a next, m ≠ .carried (.stream a) (.go next)) : m.isRow = false := by
  cases row : m.isRow with
  | false => rfl
  | true =>
      obtain ⟨fields, r, rfl⟩ := Move.exists_of_isRow row
      obtain ⟨-, next, rfl⟩ := feeds.rows _ _ _ permitted.1
      exact absurd rfl (other _ _)

theorem Underway.quiet (underway : Underway h s.agenda n left) (opened : Open s)
    (step : Step s m s') (quiet : Quiet s m s') (row : m.isRow = false) :
    Underway (m :: h) s'.agenda n left := by
  have written := writes_quiet (.inl opened) step quiet
  cases underway with
  | due query write =>
      have count := quiet.countP_add (p := Instruction.isWriteOf (.pull n query))
        (fun i hi => by rw [Instruction.eq_of_isWriteOf hi]; rfl) (.inl opened)
      cases hagenda : s.agenda with
      | nil => simp [hagenda] at write
      | cons i rest =>
          have hm := step.isWrite_eq hagenda
          cases hi : i.isWriteOf (.pull n query) with
          | false =>
              simp only [hagenda, List.head?_cons, Option.any_some, hi] at count
              exact .due query (by simpa [hagenda, ← count] using write)
          | true =>
              obtain rfl := Instruction.eq_of_isWriteOf hi
              have cold : writes rest = 0 :=
                writes_eq_zero fun j hj => isWrite_of_isHot (opened.cold hagenda rfl j hj)
              have head : writes (.ask (.write (.pull n query)) :: rest) = 1 + writes rest := by
                simp [writes, Instruction.isWrite, List.countP_cons, Int.add_comm]
              obtain ⟨r, rfl⟩ : ∃ r, m = .answered (.write (.pull n query)) r := by
                obtain ⟨e, agenda⟩ := s
                obtain rfl : agenda = _ := hagenda
                cases step with
                | carry own => simp [Instruction.isAsk] at own
                | answer r => exact ⟨r, rfl⟩
              have sent : Underway (.answered (.write (.pull n query)) r :: h) s'.agenda n
                  (n - sentRows (.answered (.write (.pull n query)) r :: h)) := by
                refine .sent query rfl ?_
                simp only [Move.isWrite, if_true, hagenda] at written
                omega
              simpa [sentRows] using sent
  | sent query last none =>
      have nonneg := writes_nonneg s'.agenda
      have write : m.isWrite = false := by
        cases hm : m.isWrite with
        | false => rfl
        | true =>
            simp only [hm, if_true] at written
            omega
      have sent : Underway (m :: h) s'.agenda n (n - sentRows (m :: h)) := by
        refine .sent query ?_ (by simp only [write] at written; omega)
        rw [lastRequest_cons h write]
        exact last
      simpa [sentRows_cons h write, row] using sent

/-- At a step of the stream a pull that is under way was written. -/
theorem Underway.exists_request (underway : Underway h s.agenda n left) (opened : Open s)
    {a : Stream.Action} {rest : List Instruction} (head : s.agenda = .stream a :: rest) :
    ∃ query, lastRequest h = some (.pull n query) ∧ left = n - sentRows h := by
  cases underway with
  | due query write =>
      obtain ⟨i, mem, hi⟩ := List.countP_pos_iff.1 write
      obtain rfl := Instruction.eq_of_isWriteOf hi
      rw [head] at mem
      rcases List.mem_cons.1 mem with heq | mem
      · cases heq
      · simpa [Instruction.isHot] using opened.cold head rfl _ mem
  | sent query last written => exact ⟨query, last, rfl⟩

end Underway

/-! ## A step of the stream -/

section Streams

/-- A step of a stream that leaves it where it is, requests nothing and tells nobody of a
record. -/
structure Stream.Stays (st : Stream) (a : Stream.Action) (st' : Stream)
    (effects : List Stream.Effect) : Prop where
  phase : st'.phase = st.phase
  pending : st'.pending = st.pending
  apart : ∀ effect ∈ effects, (Instruction.ofStream effect).isFeeding = false ∧
    (Instruction.ofStream effect).isWrite = false
  row : ∀ fields, a = .deliver fields → st.phase ≠ .streaming
  request : ∀ n, a = .request n → st.phase ≠ .ready ∧ st.phase ≠ .streaming
  settle : ∀ before more metadata, a = .settle before more metadata → st.phase = .ready →
    st.pending.isPositive = false

/-- What a step of a stream does to the demand that was declared. -/
inductive Stream.Trades (x : Stream.Surroundings) (st : Stream) :
    Stream.Action → Stream → List Stream.Effect → Prop
  /-- the demand is given up -/
  | isOver {a : Stream.Action} {st' : Stream} {effects : List Stream.Effect}
      (given : st'.phase = .cancelled ∨ st'.phase.isTerminal = true) : Trades x st a st' effects
  /-- the demand stays as it is -/
  | stays {a : Stream.Action} {st' : Stream} {effects : List Stream.Effect}
      (stays : st.Stays a st' effects) : Trades x st a st' effects
  /-- demand is requested at once -/
  | pull {n : Int} {d : Demand} (demand : Demand.ofInt? n = some d) (phase : st.phase = .ready) :
      Trades x st (.request n) { st with phase := .streaming } (Stream.pullEffects x d)
  /-- demand is joined to what is pending -/
  | join {n : Int} {d : Demand} (demand : Demand.ofInt? n = some d)
      (phase : st.phase = .streaming) :
      Trades x st (.request n) { st with pending := st.pending.join d } []
  /-- a batch is over -/
  | endBatch {metadata : Value} (phase : st.phase = .streaming) (more : metadata.HasMore) :
      Trades x st (.succeed metadata) { st with phase := .ready }
        [.andThen (.settle .streaming true metadata)]
  /-- what is pending is requested -/
  | flush {before : Phase} {more : Bool} {metadata : Value} (line : Log.Line)
      (phase : st.phase = .ready) (positive : st.pending.isPositive = true) :
      Trades x st (.settle before more metadata)
        { st with phase := .streaming, pending := .zero }
        (.log line :: Stream.pullEffects x st.pending ++ [.andThen .announce])
  /-- a record is delivered -/
  | deliver {fields : Value} {rc : RecordConsumer} {r : Record} (line : Log.Line)
      (phase : st.phase = .streaming) (consumer : st.recordConsumer = some rc) :
      Trades x st (.deliver fields) st [.log line, .tellRecord rc r, .andThen .count]

/-- Every step of a stream that is not over is one of these. -/
theorem Stream.Steps.trades {x : Stream.Surroundings} {st st' : Stream} {a : Stream.Action}
    {effects : List Stream.Effect} (steps : Stream.Steps x st a st' effects)
    (fits : st.Fits (.stream a)) : Stream.Trades x st a st' effects := by
  cases steps with
  | pull present demand phase => exact .pull demand phase
  | join present demand phase => exact .join demand phase
  | endBatch present phase field more => exact .endBatch phase ⟨_, field, more⟩
  | flush line phase positive => exact .flush line phase positive
  | deliver line present phase consumer made => exact .deliver line phase consumer
  | discard present phase | giveUp present phase => exact .isOver (.inl rfl)
  | discardAgain present phase field more => exact .isOver (.inl phase)
  | lateSuccess line terminal | lateFailure line terminal | succeed present running field last
  | fail line present running => exact .isOver (.inr rfl)
  | conclude read | concludeRefused read kind | concludeFailure =>
      exact .isOver (.inr (fits rfl).2)
  | settleSucceeded line phase => exact .isOver (.inr (by simp [phase, Phase.isTerminal]))
  | announce =>
      refine .stays ⟨rfl, rfl, ?_, by simp, by simp, by simp⟩
      cases st.summaryConsumer <;>
        simp [Instruction.ofStream, Instruction.isFeeding, Instruction.isWrite]
  | drop line present phase =>
      refine .stays ⟨rfl, rfl, ?_, fun _ _ => phase, by simp, by simp⟩
      simp [Instruction.ofStream, Instruction.isFeeding, Instruction.isWrite]
  | ignoreRequest line present demand ready streaming =>
      refine .stays ⟨rfl, rfl, ?_, by simp, fun _ _ => ⟨ready, streaming⟩, by simp⟩
      simp [Instruction.ofStream, Instruction.isFeeding, Instruction.isWrite]
  | rest line phase idle =>
      refine .stays ⟨rfl, rfl, ?_, by simp, by simp, fun _ _ _ _ _ => idle⟩
      simp [Instruction.ofStream, Instruction.isFeeding, Instruction.isWrite]
  | settleOther line succeeded ready =>
      refine .stays ⟨rfl, rfl, ?_, by simp, by simp, fun _ _ _ _ phase => absurd phase ready⟩
      simp [Instruction.ofStream, Instruction.isFeeding, Instruction.isWrite]
  | _ =>
      refine .stays ⟨rfl, rfl, ?_, by simp, by simp, by simp⟩
      simp [Instruction.ofStream, Instruction.isFeeding, Instruction.isWrite]

end Streams

/-! ## What is outstanding -/

/-- What the iteration has outstanding is accounted for, while records may come. -/
inductive Account (h : List Move) (s : Situation) (v : Int) : Prop
  | isOver (given : s.engine.stream.phase = .cancelled ∨ s.engine.stream.phase.isTerminal = true)
  | ready (k : Nat) (phase : s.engine.stream.phase = .ready)
      (pending : s.engine.stream.pending = .records k)
      (balance : v = s.engine.reader.queued + transit s.agenda + k)
      (bounded : Cursor.capped s.engine.reader.fetchSize.value = unlimited → v = 0)
      (settles : 0 < k → ∃ before more metadata rest,
        s.agenda = .stream (.settle before more metadata) :: rest)
  /-- all of the records come -/
  | endless (left : Int) (phase : s.engine.stream.phase = .streaming)
      (underway : Underway h s.agenda unlimited left)
  | streaming (n left : Int) (k : Nat) (phase : s.engine.stream.phase = .streaming)
      (pending : s.engine.stream.pending = .records k) (finite : n ≠ unlimited)
      (limited : Cursor.capped s.engine.reader.fetchSize.value ≠ unlimited)
      (underway : Underway h s.agenda n left) (nonneg : 0 ≤ left)
      (balance : v = s.engine.reader.queued + transit s.agenda + left + k)

/-- Whoever is not sent the records declared no demand and has none to read. -/
def Unfed (s : Situation) (cursor : Cursor) (v : Int) : Prop :=
  cursor.status ≠ .installed →
    v = 0 ∧ s.engine.reader.queued = 0 ∧ s.engine.stream.phase ≠ .streaming

section Account

variable {c : Conduct} {o : PromiseId} {h : List Move} {s s' : Situation} {m : Move}
  {cursor next : Cursor} {v v' : Int}

theorem Iteration.queued_nonneg (it : Iteration) : 0 ≤ it.queued := Int.natCast_nonneg _

theorem transit_nonneg (agenda : List Instruction) : 0 ≤ transit agenda := Int.natCast_nonneg _

theorem transit_append (first second : List Instruction) :
    transit (first ++ second) = transit first + transit second := by
  simp [transit]

theorem transit_eq_zero {agenda : List Instruction} (cold : ∀ i ∈ agenda, i.isHot = false) :
    transit agenda = 0 := by
  simp only [transit, Int.natCast_eq_zero, List.countP_eq_zero]
  intro i hi feeding
  have hot := cold i hi
  unfold Instruction.isFeeding at feeding
  split at feeding
  · simp [Instruction.isHot, Instruction.isTelling] at hot
  · cases feeding

/-- A record that the iteration is about to be told of is told off. -/
theorem transit_quiet (opened : Open s) (quiet : Quiet s m s') :
    transit s'.agenda + (if s.agenda.head?.any Instruction.isFeeding then 1 else 0)
      = transit s.agenda := by
  have hot : ∀ i : Instruction, i.isFeeding = true → i.isHot = true := by
    intro i hi
    unfold Instruction.isFeeding at hi
    split at hi
    · rfl
    · cases hi
  have count := quiet.countP_add hot (.inl opened)
  rw [transit, transit, ← count]
  split <;> simp

theorem fetchSize_step (recipient : Recipient s cursor) (served : Served o h s cursor)
    (step : Step s m s') (permitted : c.Permits h m) :
    s'.engine.reader.fetchSize = s.engine.reader.fetchSize ∨ s.engine.iterations = #[] := by
  obtain ⟨reads, -⟩ := step.reads permitted served.known recipient.unopened recipient.sole
  cases reads with
  | apart awaited reader other => exact .inl (by rw [reader])
  | made size unread reader => exact .inr unread
  | stepped t a head made reader agenda =>
      rw [reader]
      refine .inl ?_
      cases a with
      | advance | close =>
          simp only [Iteration.step]
          split <;> rfl
      | fetch =>
          simp only [Iteration.step]
          split <;> rfl
      | requested => rfl
      | take =>
          simp only [Iteration.step]
          split <;> rfl
  | signalled signal head sort reader agenda => exact .inl (by rw [reader])
  | left th head reader agenda =>
      rw [reader]
      refine .inl ?_
      unfold Iteration.leave
      split <;> rfl

theorem Engine.unlimited_of_unread {e : Engine} (unread : e.iterations = #[]) :
    Cursor.capped e.reader.fetchSize.value = unlimited := by
  simp only [reader, unread]
  rfl

/-! ### Moves that are no step of the stream -/

/-- Off the stream, records only change from being on their way to waiting, and then to
being read. -/
theorem balance_quiet (declares : Declares s m s' v v') (opened : Open s) (quiet : Quiet s m s')
    (other : ∀ a next, m ≠ .carried (.stream a) (.go next)) :
    v' ≤ v ∧ (v' - s'.engine.reader.queued - transit s'.agenda
        = v - s.engine.reader.queued - transit s.agenda ∨
      s.engine.reader.fetchSize.value = unlimited ∧ v' = v ∧ 0 < s.engine.reader.queued) := by
  have count := transit_quiet opened quiet
  cases declares with
  | same declares queued =>
      refine ⟨Int.le_refl v, .inl ?_⟩
      rw [queued]
      omega
  | declared stream none signals queued => exact absurd stream.move (other _ _)
  | taken t head queued phase =>
      have nonneg := s'.engine.reader.queued_nonneg
      have hfeeding : s.agenda.head?.any Instruction.isFeeding = false := by
        rw [head]
        rfl
      simp only [hfeeding, Bool.false_eq_true, if_false] at count
      by_cases all : s.engine.reader.fetchSize.value = unlimited
      · rw [if_pos all]
        exact ⟨Int.le_refl v, .inr ⟨all, rfl, by omega⟩⟩
      · rw [if_neg all]
        exact ⟨by omega, .inl (by omega)⟩

theorem account_quiet (account : Account h s v) (declares : Declares s m s' v v')
    (recipient : Recipient s cursor) (served : Served o h s cursor) (feeds : c.FeedsCalmly)
    (step : Step s m s') (permitted : c.Permits h m) (quiet : Quiet s m s')
    (other : ∀ a next, m ≠ .carried (.stream a) (.go next)) : Account (m :: h) s' v' := by
  have size := fetchSize_step recipient served step permitted
  have nonneg := s.engine.reader.queued_nonneg
  have nonneg' := s'.engine.reader.queued_nonneg
  have onward := transit_nonneg s.agenda
  have onward' := transit_nonneg s'.agenda
  cases account with
  | isOver given => exact .isOver (by rwa [quiet.stream])
  | ready k phase pending balance bounded settles =>
      have opened := served.open_of_running (by rw [phase]; rfl)
      obtain ⟨fewer, balance'⟩ := balance_quiet declares opened quiet other
      have none : k = 0 := by
        rcases Nat.eq_zero_or_pos k with none | some
        · exact none
        · obtain ⟨before, more, metadata, rest, head⟩ := settles some
          obtain ⟨hm, -⟩ := step.exec_of_head head rfl
          exact absurd hm (other _ _)
      subst none
      have unread : Cursor.capped s.engine.reader.fetchSize.value = unlimited → v' = 0 := by
        intro all
        have := bounded all
        omega
      refine .ready 0 (by rwa [quiet.stream]) (by rwa [quiet.stream]) ?_ ?_ (by simp)
      · rcases balance' with balance' | ⟨all, rfl, waiting⟩
        · omega
        · have := bounded (by rw [all]; rfl)
          omega
      · rcases size with same | unmade
        · rwa [same]
        · exact fun _ => unread (Engine.unlimited_of_unread unmade)
  | endless left phase underway =>
      have opened := served.open_of_running (by rw [phase]; rfl)
      exact .endless left (by rwa [quiet.stream])
        (underway.quiet opened step quiet (feeds.not_isRow permitted other))
  | streaming n left k phase pending finite limited underway none balance =>
      have opened := served.open_of_running (by rw [phase]; rfl)
      refine .streaming n left k (by rwa [quiet.stream]) (by rwa [quiet.stream]) finite ?_
        (underway.quiet opened step quiet (feeds.not_isRow permitted other)) none ?_
      · rcases size with same | unmade
        · rwa [same]
        · exact absurd (Engine.unlimited_of_unread unmade) limited
      · rcases (balance_quiet declares opened quiet other).2 with balance' | ⟨all, -, -⟩
        · omega
        · exact absurd (by rw [all]; rfl) limited

/-! ### Steps of the stream -/

/-- What the iteration declares while the stream makes a step. -/
theorem declares_stream {a : Stream.Action} {rest : List Instruction} {after : Stream}
    {effects : List Stream.Effect} (declares : Declares s m s' v v')
    (stream : StreamStep s m s' a rest after effects) :
    v' = v ∧ (∀ n, a ≠ .request n) ∨
      a = .request (Cursor.capped s.engine.reader.fetchSize.value) ∧ v = 0 ∧
        s.engine.reader.queued = 0 ∧ v' = s.engine.reader.fetchSize.value := by
  cases declares with
  | same declares queued =>
      refine .inl ⟨rfl, ?_⟩
      rintro n rfl
      exact absurd stream.move (declares _ _)
  | declared declared none signals queued =>
      have head := stream.head.symm.trans declared.head
      obtain ⟨hi, -⟩ := List.cons.inj head
      exact .inr ⟨by simpa using hi, none, by simp [Iteration.queued, signals], rfl⟩
  | taken t head queued phase =>
      rw [stream.head] at head
      cases head

/-- What a step of an open stream finds, and where it leads. -/
structure Turned (s : Situation) (m : Move) (s' : Situation) (effects : List Stream.Effect) :
    Prop where
  reader : s'.engine.reader = s.engine.reader
  before : transit s.agenda = 0
  transit : QueryStream.transit s'.agenda = QueryStream.transit (effects.map .ofStream)
  writes : QueryStream.writes s'.agenda = QueryStream.writes (effects.map .ofStream)
  write : m.isWrite = false

theorem turned {a : Stream.Action} {rest : List Instruction} {after : Stream}
    {effects : List Stream.Effect} (opened : Open s)
    (stream : StreamStep s m s' a rest after effects) : Turned s m s' effects := by
  have cold := opened.cold stream.head rfl
  have hrest : transit rest = 0 := transit_eq_zero cold
  have hwrites : writes rest = 0 := writes_eq_zero fun i hi => isWrite_of_isHot (cold i hi)
  refine ⟨by rw [stream.engine]; rfl, ?_, ?_, ?_, by rw [stream.move]; rfl⟩
  · rw [stream.head, ← List.singleton_append, transit_append, hrest]
    rfl
  · rw [stream.agenda, transit_append, hrest, Int.add_zero]
  · rw [stream.agenda, writes_append, hwrites, Int.add_zero]

theorem Stream.Stays.transit {st st' : Stream} {a : Stream.Action}
    {effects : List Stream.Effect} (stays : st.Stays a st' effects) :
    QueryStream.transit (effects.map .ofStream) = 0 := by
  simp only [QueryStream.transit, Int.natCast_eq_zero, List.countP_eq_zero]
  intro i hi
  obtain ⟨effect, mem, rfl⟩ := List.mem_map.1 hi
  simp [(stays.apart effect mem).1]

theorem Stream.Stays.writes {st st' : Stream} {a : Stream.Action}
    {effects : List Stream.Effect} (stays : st.Stays a st' effects) :
    QueryStream.writes (effects.map .ofStream) = 0 := by
  refine writes_eq_zero fun i hi => ?_
  obtain ⟨effect, mem, rfl⟩ := List.mem_map.1 hi
  exact (stays.apart effect mem).2

theorem Underway.of_pull {x : Stream.Surroundings} {d : Demand} {after : List Instruction}
    (h : List Move) (before : List Instruction) : Underway h
      (before ++ ((Stream.pullEffects x d).map Instruction.ofStream ++ after)) d.toInt d.toInt := by
  refine .due x.run.query ?_
  simp only [Stream.pullEffects, Stream.debug, Instruction.ofStream, List.map_cons, List.map_nil,
    List.countP_append, List.countP_cons, List.countP_nil, Instruction.isWriteOf, beq_self_eq_true,
    if_true]
  omega

/-- Nothing waits to be requested while the stream is ready, but what it settles. -/
theorem pending_eq_zero {a : Stream.Action} {rest : List Instruction} {after : Stream}
    {effects : List Stream.Effect} {k : Nat} (stream : StreamStep s m s' a rest after effects)
    (settles : 0 < k → ∃ before more metadata rest,
      s.agenda = .stream (.settle before more metadata) :: rest)
    (other : ∀ before more metadata, a ≠ .settle before more metadata) : k = 0 := by
  rcases Nat.eq_zero_or_pos k with none | some
  · exact none
  · obtain ⟨before, more, metadata, rest', head⟩ := settles some
    rw [stream.head] at head
    obtain ⟨hi, -⟩ := List.cons.inj head
    exact absurd (by simpa using hi) (other before more metadata)

/-- A pull that the iteration asks for is accounted for. -/
theorem account_of_pull {rest : List Instruction} {d : Demand}
    (size : FetchSize) (demand : Demand.ofInt? (Cursor.capped size.value) = some d)
    (hsize : s'.engine.reader.fetchSize = size) (none : s'.engine.reader.queued = 0)
    (phase : s'.engine.stream.phase = .streaming)
    (pending : s'.engine.stream.pending = .records 0) (transit : transit s'.agenda = 0)
    (agenda : s'.agenda
      = (Stream.pullEffects s.engine.surroundings d).map .ofStream ++ rest) :
    Account h s' size.value := by
  have underway : Underway h s'.agenda d.toInt d.toInt := by
    rw [agenda]
    exact .of_pull h []
  rcases size.capped_cases with all | ⟨same, low, high⟩
  · obtain rfl : d = .all := by
      rw [all] at demand
      exact (Option.some.inj demand).symm
    exact .endless _ phase underway
  · have hd : d.toInt = size.value := by
      have := Demand.toInt_ofInt? low (by omega)
      rw [← same, demand, same] at this
      exact Option.some.inj this
    rw [hd] at underway
    refine .streaming size.value size.value 0 phase pending ?_ ?_ underway (by omega) ?_
    · unfold unlimited
      omega
    · rw [hsize, same]
      unfold unlimited
      omega
    · rw [none, transit]
      omega

theorem account_of_flush {before : Phase} {more : Bool} {metadata : Value} {line : Log.Line}
    {rest : List Instruction} {k : Nat} (stream : StreamStep s m s' (.settle before more metadata)
      rest { s.engine.stream with phase := .streaming, pending := .zero }
      (.log line :: Stream.pullEffects s.engine.surroundings s.engine.stream.pending ++
        [.andThen .announce]))
    (opened : Open s) (pending : s.engine.stream.pending = .records k)
    (balance : v = s.engine.reader.queued + transit s.agenda + k)
    (bounded : Cursor.capped s.engine.reader.fetchSize.value = unlimited → v = 0)
    (positive : s.engine.stream.pending.isPositive = true) : Account h s' v := by
  have turned := turned opened stream
  have none := turned.before
  have hstream := congrArg Engine.stream stream.engine
  have some : 0 < k := by simpa [pending, Demand.isPositive] using positive
  have waiting := s.engine.reader.queued_nonneg
  have underway : Underway h s'.agenda k k := by
    rw [stream.agenda, pending]
    have := @Underway.of_pull s.engine.surroundings (.records k)
      (Instruction.ofStream (.andThen .announce) :: rest) h [Instruction.ofStream (.log line)]
    simpa [Demand.toInt] using this
  have fed : transit s'.agenda = 0 := by
    rw [turned.transit]
    rfl
  refine .streaming k k 0 (by rw [hstream]) (by rw [hstream]; rfl) ?_ ?_ underway (by omega) ?_
  · unfold unlimited
    omega
  · rw [turned.reader]
    intro all
    have := bounded all
    omega
  · rw [turned.reader, fed]
    omega

theorem account_of_ready {a : Stream.Action} {rest : List Instruction} {after : Stream}
    {effects : List Stream.Effect} {k : Nat} (stream : StreamStep s m s' a rest after effects)
    (opened : Open s) (declares : Declares s m s' v v')
    (phase : s.engine.stream.phase = .ready)
    (pending : s.engine.stream.pending = .records k)
    (balance : v = s.engine.reader.queued + transit s.agenda + k)
    (bounded : Cursor.capped s.engine.reader.fetchSize.value = unlimited → v = 0)
    (settles : 0 < k → ∃ before more metadata rest,
      s.agenda = .stream (.settle before more metadata) :: rest) : Account h s' v' := by
  have turned := turned opened stream
  have reader := turned.reader
  have none := turned.before
  have fits := opened.fits (.stream a) (by simp [stream.head])
  have declares := declares_stream declares stream
  have hstream : s'.engine.stream = after := by rw [stream.engine]
  cases stream.steps.trades fits with
  | isOver given => exact .isOver (by rwa [hstream])
  | stays stays =>
      rcases declares with ⟨rfl, -⟩ | ⟨rfl, -⟩
      · have none : k = 0 := by
          cases a with
          | settle before more metadata =>
              have idle := stays.settle _ _ _ rfl phase
              simpa [pending, Demand.isPositive] using idle
          | _ => exact pending_eq_zero stream settles (by simp)
        subst none
        refine .ready 0 (by rw [hstream, stays.phase, phase])
          (by rw [hstream, stays.pending, pending]) ?_ (by rwa [reader]) (by simp)
        rw [reader, turned.transit, stays.transit]
        omega
      · exact absurd phase (stays.request _ rfl).1
  | pull demand _ =>
      rcases declares with ⟨-, other⟩ | ⟨ha, rfl, unread, rfl⟩
      · exact absurd rfl (other _)
      · have nothing : k = 0 := pending_eq_zero stream settles (by simp)
        subst nothing
        obtain rfl : _ = Cursor.capped s.engine.reader.fetchSize.value := by simpa using ha
        refine account_of_pull _ demand (by rw [reader]) (by rw [reader, unread])
          (by rw [hstream]) (by rw [hstream]; exact pending) ?_ stream.agenda
        rw [turned.transit]
        rfl
  | flush line _ positive =>
      rcases declares with ⟨rfl, -⟩ | ⟨ha, -⟩
      · exact account_of_flush stream opened pending balance bounded positive
      · cases ha
  | join _ streaming | endBatch streaming _ | deliver _ streaming _ =>
      rw [phase] at streaming
      cases streaming

/-- A step of the stream that writes nothing leaves the pull under way. -/
theorem Underway.of_stream {n left : Int} {a : Stream.Action} {rest : List Instruction}
    {after : Stream} {effects : List Stream.Effect} (underway : Underway h s.agenda n left)
    (opened : Open s) (stream : StreamStep s m s' a rest after effects)
    (silent : writes (effects.map .ofStream) = 0) :
    Underway (m :: h) s'.agenda n (left - if m.isRow then 1 else 0) := by
  have turned := turned opened stream
  obtain ⟨query, last, rfl⟩ := underway.exists_request opened stream.head
  have sent : Underway (m :: h) s'.agenda n (n - sentRows (m :: h)) := by
    refine .sent query ?_ (by rw [turned.writes, silent])
    rw [lastRequest_cons h turned.write]
    exact last
  rw [sentRows_cons h turned.write] at sent
  rwa [Int.sub_sub]

theorem account_of_endless {a : Stream.Action} {rest : List Instruction} {after : Stream}
    {effects : List Stream.Effect} {left : Int} (stream : StreamStep s m s' a rest after effects)
    (opened : Open s) (feeds : c.FeedsCalmly) (permitted : c.Permits h m)
    (phase : s.engine.stream.phase = .streaming)
    (underway : Underway h s.agenda unlimited left) : Account (m :: h) s' v' := by
  have fits := opened.fits (.stream a) (by simp [stream.head])
  have hstream : s'.engine.stream = after := by rw [stream.engine]
  have onward := underway.of_stream opened stream
  cases stream.steps.trades fits with
  | isOver given => exact .isOver (by rwa [hstream])
  | stays stays =>
      exact .endless _ (by rw [hstream, stays.phase, phase]) (onward stays.writes)
  | join _ _ => exact .endless _ (by rw [hstream]; exact phase) (onward rfl)
  | deliver _ _ _ => exact .endless _ (by rw [hstream, phase]) (onward rfl)
  | endBatch _ more =>
      obtain ⟨query, last, -⟩ := underway.exists_request opened stream.head
      have keeps := permitted.1
      rw [stream.move] at keeps
      exact absurd rfl (feeds.batches _ _ _ _ _ keeps more last).1
  | pull _ ready | flush _ ready _ =>
      rw [phase] at ready
      cases ready

/-- While the stream streams, `left` records of a batch of `n` are to come, and `k` more are
to be requested. -/
structure Flowing (h : List Move) (s : Situation) (v n left : Int) (k : Nat) : Prop where
  phase : s.engine.stream.phase = .streaming
  pending : s.engine.stream.pending = .records k
  finite : n ≠ unlimited
  limited : Cursor.capped s.engine.reader.fetchSize.value ≠ unlimited
  underway : Underway h s.agenda n left
  nonneg : 0 ≤ left
  balance : v = s.engine.reader.queued + transit s.agenda + left + k

section Flowing

variable {rest : List Instruction} {after : Stream} {effects : List Stream.Effect}
  {n left : Int} {k : Nat}

theorem Flowing.account (flowing : Flowing h s v n left k) : Account h s v :=
  .streaming n left k flowing.phase flowing.pending flowing.finite flowing.limited
    flowing.underway flowing.nonneg flowing.balance

theorem Flowing.stay {a : Stream.Action} (flowing : Flowing h s v n left k) (opened : Open s)
    (stream : StreamStep s m s' a rest after effects)
    (stays : s.engine.stream.Stays a after effects) : Flowing (m :: h) s' v n left k := by
  have turned := turned opened stream
  have none := turned.before
  have balance := flowing.balance
  have hstream : s'.engine.stream = after := by rw [stream.engine]
  have row : m.isRow = false := by
    rw [stream.move]
    cases a with
    | deliver fields => exact absurd flowing.phase (stays.row fields rfl)
    | _ => rfl
  have underway := flowing.underway.of_stream opened stream stays.writes
  simp only [row, Bool.false_eq_true, if_false, Int.sub_zero] at underway
  refine ⟨by rw [hstream, stays.phase, flowing.phase],
    by rw [hstream, stays.pending, flowing.pending], flowing.finite,
    by rw [turned.reader]; exact flowing.limited, underway, flowing.nonneg, ?_⟩
  rw [turned.reader, turned.transit, stays.transit]
  omega

/-- A fetch size that is no request for all of the records is a demand of so many. -/
theorem FetchSize.demand_of_limited {size : FetchSize} {d : Demand}
    (limited : Cursor.capped size.value ≠ unlimited)
    (demand : Demand.ofInt? (Cursor.capped size.value) = some d) :
    ∃ amount : Nat, size.value = amount ∧ amount ≤ maxDemand ∧ d = .records amount := by
  rcases size.capped_cases with all | ⟨same, low, high⟩
  · exact absurd all limited
  · refine ⟨size.value.toNat, (Int.toNat_of_nonneg (by omega)).symm, by omega, ?_⟩
    have asked := Demand.toInt_ofInt? low (by omega)
    rw [← same, demand, same] at asked
    cases d with
    | all =>
        simp only [Option.map_some, Demand.toInt, unlimited, Option.some.injEq] at asked
        omega
    | records amount =>
        simp only [Option.map_some, Demand.toInt, Option.some.injEq] at asked
        congr 1
        omega

/-- Demand is joined when the iteration has nothing outstanding. -/
theorem Flowing.join {amount : Int} {d : Demand} (flowing : Flowing h s 0 n left k)
    (opened : Open s)
    (stream : StreamStep s m s' (.request amount) rest
      { s.engine.stream with pending := s.engine.stream.pending.join d } [])
    (demand : Demand.ofInt? amount = some d)
    (asked : amount = Cursor.capped s.engine.reader.fetchSize.value)
    (unread : s.engine.reader.queued = 0) :
    ∃ joined, Flowing (m :: h) s' s.engine.reader.fetchSize.value n 0 joined := by
  subst asked
  have turned := turned opened stream
  have none := turned.before
  have balance := flowing.balance
  have nonneg := flowing.nonneg
  have hstream := congrArg Engine.stream stream.engine
  obtain ⟨size, hsize, bounded, rfl⟩ := FetchSize.demand_of_limited flowing.limited demand
  -- an empty balance leaves nothing of the batch, and nothing that is pending
  obtain rfl : left = 0 := by omega
  obtain rfl : k = 0 := by omega
  have row : m.isRow = false := by
    rw [stream.move]
    rfl
  have underway := flowing.underway.of_stream opened stream rfl
  simp only [row, Bool.false_eq_true, if_false, Int.sub_zero] at underway
  refine ⟨size, by rw [hstream]; exact flowing.phase, ?_, flowing.finite,
    by rw [turned.reader]; exact flowing.limited, underway, Int.le_refl 0, ?_⟩
  · rw [hstream]
    simp only [flowing.pending, Demand.join, Nat.zero_add, Nat.min_eq_left bounded]
  · have fed : transit s'.agenda = 0 := by
      rw [turned.transit]
      rfl
    rw [turned.reader, unread, fed]
    omega

/-- A batch is over when all of it came: what is outstanding is pending. -/
theorem Flowing.endBatch {metadata : Value} (flowing : Flowing h s v n left k) (opened : Open s)
    (stream : StreamStep s m s' (.succeed metadata) rest
      { s.engine.stream with phase := .ready } [.andThen (.settle .streaming true metadata)])
    (feeds : c.FeedsCalmly) (permitted : c.Permits h m) (more : metadata.HasMore) :
    Account (m :: h) s' v := by
  have turned := turned opened stream
  have none := turned.before
  have balance := flowing.balance
  have hstream := congrArg Engine.stream stream.engine
  obtain ⟨query, last, hleft⟩ := flowing.underway.exists_request opened stream.head
  have keeps := permitted.1
  rw [stream.move] at keeps
  have batch := (feeds.batches _ _ _ _ _ keeps more last).2
  have fed : transit s'.agenda = 0 := by
    rw [turned.transit]
    rfl
  refine .ready k (by rw [hstream]) (by rw [hstream]; exact flowing.pending) ?_ ?_
    fun _ => ⟨_, _, _, rest, stream.agenda⟩
  · rw [turned.reader, fed]
    omega
  · rw [turned.reader]
    exact fun all => absurd all flowing.limited

/-- A row comes while some of its batch are left, and the iteration is told of it. -/
theorem Flowing.deliver {fields : Value} {r : Record} {line : Log.Line}
    (flowing : Flowing h s v n left k) (opened : Open s)
    (stream : StreamStep s m s' (.deliver fields) rest s.engine.stream
      [.log line, .tellRecord (.feed 0) r, .andThen .count])
    (feeds : c.FeedsCalmly) (permitted : c.Permits h m) :
    Flowing (m :: h) s' v n (left - 1) k := by
  have turned := turned opened stream
  have none := turned.before
  have balance := flowing.balance
  have hstream := congrArg Engine.stream stream.engine
  obtain ⟨query, last, hleft⟩ := flowing.underway.exists_request opened stream.head
  have keeps := permitted.1
  rw [stream.move] at keeps
  obtain ⟨⟨amount, query', last', room⟩, -⟩ := feeds.rows _ _ _ keeps
  obtain ⟨rfl, rfl⟩ : amount = n ∧ query' = query := by
    rw [last] at last'
    simpa [eq_comm] using last'
  have room := room.resolve_left flowing.finite
  have row : m.isRow = true := by
    rw [stream.move]
    rfl
  have underway := flowing.underway.of_stream opened stream rfl
  simp only [row, if_true] at underway
  have fed : transit s'.agenda = 1 := by
    rw [turned.transit]
    rfl
  refine ⟨by rw [hstream]; exact flowing.phase, by rw [hstream]; exact flowing.pending,
    flowing.finite, by rw [turned.reader]; exact flowing.limited, underway, by omega, ?_⟩
  rw [turned.reader, fed]
  omega

theorem Flowing.step {a : Stream.Action} (flowing : Flowing h s v n left k)
    (stream : StreamStep s m s' a rest after effects) (opened : Open s)
    (declares : Declares s m s' v v') (recipient : Recipient s cursor) (unfed : Unfed s cursor v)
    (feeds : c.FeedsCalmly) (permitted : c.Permits h m) : Account (m :: h) s' v' := by
  have fits := opened.fits (.stream a) (by simp [stream.head])
  have declared := declares_stream declares stream
  cases stream.steps.trades fits with
  | isOver given => exact .isOver (by rwa [stream.engine])
  | stays stays =>
      rcases declared with ⟨rfl, -⟩ | ⟨rfl, -⟩
      · exact (flowing.stay opened stream stays).account
      · exact absurd flowing.phase (stays.request _ rfl).2
  | join demand _ =>
      rcases declared with ⟨-, other⟩ | ⟨ha, rfl, unread, rfl⟩
      · exact absurd rfl (other _)
      · obtain ⟨joined, flowing⟩ :=
          flowing.join opened stream demand (by simpa using ha) unread
        exact flowing.account
  | endBatch _ more =>
      rcases declared with ⟨rfl, -⟩ | ⟨ha, -⟩
      · exact flowing.endBatch opened stream feeds permitted more
      · cases ha
  | @deliver fields rc r line _ consumer =>
      rcases declared with ⟨rfl, -⟩ | ⟨ha, -⟩
      · obtain rfl : rc = .feed 0 := by
          rcases recipient.suits rc consumer with ⟨rfl, -⟩ | ⟨-, status⟩
          · rfl
          · exact absurd flowing.phase (unfed (by rw [status]; simp)).2.2
        exact (flowing.deliver opened stream feeds permitted).account
      · cases ha
  | pull _ ready | flush _ ready _ =>
      rw [flowing.phase] at ready
      cases ready

end Flowing

/-! ### All moves -/

theorem Account.step (account : Account h s v) (declares : Declares s m s' v v')
    (recipient : Recipient s cursor) (unfed : Unfed s cursor v) (served : Served o h s cursor)
    (feeds : c.FeedsCalmly) (step : Step s m s') (permitted : c.Permits h m) :
    Account (m :: h) s' v' := by
  rcases step.stream_or_quiet permitted with ⟨a, rest, after, effects, stream⟩ | ⟨other, quiet⟩
  · cases account with
    | isOver given =>
        refine .isOver ?_
        rw [stream.engine]
        exact stream.steps.givenUp given
    | ready k phase pending balance bounded settles =>
        exact account_of_ready stream (served.open_of_running (by rw [phase]; rfl)) declares
          phase pending balance bounded settles
    | endless left phase underway =>
        exact account_of_endless stream (served.open_of_running (by rw [phase]; rfl)) feeds
          permitted phase underway
    | streaming n left k phase pending finite limited underway nonneg balance =>
        exact Flowing.step ⟨phase, pending, finite, limited, underway, nonneg, balance⟩ stream
          (served.open_of_running (by rw [phase]; rfl)) declares recipient unfed feeds permitted
  · exact account_quiet account declares recipient served feeds step permitted quiet other

end Account

end QueryStream
