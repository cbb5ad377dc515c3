/-
  Proofs/Rows/Demand.lean --- what was demanded covers what is delivered.

  A server has rows to send: to a request for `n` records it sends at most the next `n` of them,
  one after the other, and then says whether any are left, or fails (`Conduct.SendsRows`).  Of a
  history it can be told which records were delivered, how much was demanded and whether the
  stream was given up.

  While the stream goes on, what was demanded covers what was delivered or is about to be, what
  is left of the batch under way and what is pending (`Batch`, `Going.batch_of_stream`).
-/
import QueryStream.Proofs.GivingUp
import QueryStream.Proofs.Reading.Account
import QueryStream.Proofs.Engine.Origin

set_option autoImplicit false

namespace QueryStream

/-! ## What can be told from a history -/

/-- Demand added to demand, with no greatest one. -/
def Demand.plus : Demand → Demand → Demand
  | .records m, .records n => .records (m + n)
  | _, _ => .all

/-- Whether a demand allows so many records. -/
def Demand.Allows : Demand → Nat → Prop
  | .records n, k => k ≤ n
  | .all, _ => True

/-- The record that a move delivers. -/
def Move.record? : Move → Option Record
  | .carried (.tellRecord _ record) _ => some record
  | _ => none

/-- The records that were delivered in a history, in order. -/
def deliveries : List Move → List Record
  | [] => []
  | m :: h => deliveries h ++ m.record?.toList

/-- Whether a move counts a record that was delivered, which is the first thing done once the
record consumer returned from it. -/
def Move.isCount : Move → Bool
  | .carried (.stream .count) _ => true
  | _ => false

/-- Whether a move gives the stream up. -/
def Move.gaveUp : Move → Bool
  | .carried (.stream .cancel) (.go _) => true
  | _ => false

/-- Whether the stream was given up in a history before it ended. -/
def gaveUp : List Move → Bool
  | [] => false
  | m :: h => gaveUp h || m.gaveUp && (endings h).isEmpty

/-- The demand that a move declares. -/
def Move.demand? : Move → Option Demand
  | .carried (.stream (.request n)) (.go _) => Demand.ofInt? n
  | _ => none

/-- The demand that was accepted in a history: what was declared before the stream was given up
or ended. -/
def demanded : List Move → Demand
  | [] => .zero
  | m :: h =>
      match m.demand? with
      | some d => if !gaveUp h && (endings h).isEmpty then (demanded h).plus d else demanded h
      | none => demanded h

/-- Whether the record consumer had returned from all records before when the next row came. -/
def returnedFirst : List Move → Bool
  | [] => true
  | m :: h => returnedFirst h && (!m.isRow || (deliveries h).length == h.countP Move.isCount)

/-- A server that has rows to send, and callers that leave the run request alone. -/
structure Conduct.SendsRows (c : Conduct) (rows : List Record) : Prop where
  started : ∀ metadata, ¬ c.Calls (.runSucceed metadata)
  /-- a row is the next one, and comes while a request is unanswered that has room for it -/
  inTurn : ∀ h fields r, c.keeps h (.carried (.stream (.deliver fields)) r) →
    0 < unanswered h ∧
    (∃ n query, lastRequest h = some (.pull n query) ∧ (n = unlimited ∨ sentRows h < n)) ∧
    ∃ row, rows[h.countP Move.isRow]? = some row ∧ fields = .list row.values
  /-- a success answers a request, and says whether rows are left if records were asked for -/
  successes : ∀ h metadata r, c.keeps h (.carried (.stream (.succeed metadata)) r) →
    0 < unanswered h ∧ ∀ n query, lastRequest h = some (.pull n query) →
      metadata.tellsMore = decide (h.countP Move.isRow < rows.length)
  /-- a failure answers a request -/
  failures : ∀ h f r, c.keeps h (.carried (.stream (.fail f)) r) →
    0 < unanswered h ∧ passesFailure h = false

/-- Rows that the query of an engine can have. -/
structure Engine.Yields (e : Engine) (rows : List Record) : Prop where
  keyed : e.run.keys.all Value.isKey = true
  keys : ∀ row ∈ rows, row.keys = e.run.keys

/-- What was delivered in a history, with a cap on the records. -/
structure RowsInOrder (rows : List Record) (cap : Value) (h : List Move) (s : Situation) :
    Prop where
  inOrder : deliveries h <+: rows
  demanded : (demanded h).Allows (deliveries h).length
  /-- a record is counted when its consumer returns, so the cap bounds those that are handed out
  one after the other -/
  capped : returnedFirst h = true → ∀ m : Nat, 0 < m → cap = .int m → (deliveries h).length ≤ m
  complete : s.engine.stream.phase = .succeeded → gaveUp h = false → deliveries h = rows

theorem returnedFirst_of_cons {m : Move} {h : List Move}
    (returned : returnedFirst (m :: h) = true) : returnedFirst h = true := by
  simp only [returnedFirst, Bool.and_eq_true] at returned
  exact returned.1

/-! ## What is about to be delivered -/

/-- The record that an instruction delivers. -/
def Instruction.record? : Instruction → Option Record
  | .tellRecord _ record => some record
  | _ => none

/-- The records on an agenda that are to be delivered. -/
def dueRecords (agenda : List Instruction) : List Record := agenda.filterMap Instruction.record?

/-- The records that were delivered or are about to be. -/
def dealt (h : List Move) (s : Situation) : List Record := deliveries h ++ dueRecords s.agenda

/-- Whether an action counts a record that was delivered. -/
def Stream.Action.isCount : Stream.Action → Bool
  | .count => true
  | _ => false

/-- Whether an instruction counts a record that was delivered. -/
def Instruction.isCount : Instruction → Bool
  | .stream a => a.isCount
  | _ => false

/-- The cap was reached: the stream is about to be given up. -/
structure StopsNext (s : Situation) : Prop where
  attended : s.engine.stream.Attended
  next : ∃ rest, pastLines s.agenda = .stream .checkCap :: rest ∨
    pastLines s.agenda = .stream .cancel :: rest

/-- The stream was neither given up nor ended.  What was demanded covers what was dealt, what is
left of the batch under way and what is pending. -/
inductive Batch (h : List Move) (s : Situation) : Prop
  | ready (phase : s.engine.stream.phase = .ready)
      (covered : ∀ n, demanded h = .records n → ∃ k : Nat,
        s.engine.stream.pending = .records k ∧ (dealt h s).length + k ≤ n)
  | streaming (pull left : Int) (phase : s.engine.stream.phase = .streaming)
      (underway : Underway h s.agenda pull left)
      (covered : ∀ n, demanded h = .records n → ∃ k : Nat,
        s.engine.stream.pending = .records k ∧ pull ≠ unlimited ∧ 0 ≤ left ∧
          (dealt h s).length + left + k ≤ n)

/-- The stream goes on, and so far everything that was sent was dealt. -/
structure Going (rows : List Record) (cap : Value) (h : List Move) (s : Situation) : Prop where
  batch : Batch h s
  kept : gaveUp h = false
  unended : endings h = []
  inOrder : dealt h s = rows.take (h.countP Move.isRow)
  counted : s.engine.stream.delivered = h.countP Move.isCount
  /-- at most what was dealt is counted or is to be counted -/
  counting : h.countP Move.isCount + s.agenda.countP Instruction.isCount ≤ (dealt h s).length
  capped : returnedFirst h = true → ∀ m : Nat, 0 < m → cap = .int m →
    (dealt h s).length ≤ m ∧ (h.countP Move.isCount < m ∨ StopsNext s)

/-- The stream was given up or ended, and nothing is delivered any more. -/
structure Stopped (rows : List Record) (cap : Value) (h : List Move) (s : Situation) : Prop
    extends RowsInOrder rows cap h s where
  given : s.engine.stream.phase = .cancelled ∨ s.engine.stream.phase.isTerminal = true
  stopped : gaveUp h = true ∨ endings h ≠ []
  cancelled : s.engine.stream.phase = .cancelled → gaveUp h = true
  silent : ∀ rc record, .tellRecord rc record ∉ s.agenda

/-- A stream that is sent rows. -/
structure Sending (rows : List Record) (e : Engine) (h : List Move) (s : Situation) : Prop where
  poised : Poised s
  query : e.SameQuery s.engine
  calm : ∀ i ∈ s.agenda, i.startsRun = false
  balance : unanswered h + writes s.agenda ≤ s.engine.stream.phase.owed
  course : Going rows e.cap h s ∨ Stopped rows e.cap h s

section Steps

variable {c : Conduct} {h : List Move} {s s' : Situation} {m : Move} {rows : List Record}
  {e : Engine} {cap : Value} {a : Stream.Action} {rest : List Instruction} {after : Stream}
  {effects : List Stream.Effect}

/-! ## Records -/

theorem Record.ofSequences?_values (row : Record) (keyed : row.keys.all Value.isKey = true) :
    Record.ofSequences? (.list row.keys) (.list row.values) = .ok row := by
  simp [ofSequences?, Value.parts?, make?, row.lengths, keyed]

theorem record?_eq_none {i : Instruction} (cold : i.isHot = false) : i.record? = none := by
  cases i <;> first | rfl | cases cold

theorem dueRecords_eq_nil {agenda : List Instruction} (cold : ∀ i ∈ agenda, i.isHot = false) :
    dueRecords agenda = [] :=
  List.filterMap_eq_nil_iff.2 fun i mem => record?_eq_none (cold i mem)

theorem dueRecords_append (first second : List Instruction) :
    dueRecords (first ++ second) = dueRecords first ++ dueRecords second :=
  List.filterMap_append

theorem Step.record?_eq {i : Instruction} (step : Step s m s') (head : s.agenda = i :: rest) :
    m.record? = i.record? := by
  cases step with
  | @carry e i' rest' own =>
      obtain ⟨rfl, -⟩ := List.cons.inj head
      cases i' <;> rfl
  | answer r =>
      obtain ⟨rfl, -⟩ := List.cons.inj head
      rfl
  | begin next => cases head
  | call next => cases head

/-- Off the stream, records only change from being due to being delivered. -/
theorem dealt_quiet (opened : Open s) (step : Step s m s') (quiet : Quiet s m s') :
    dealt (m :: h) s' = dealt h s := by
  obtain ⟨front, tail, agenda, behind, fronts⟩ := quiet.agenda
  have cool : ∀ i ∈ front, i.isHot = false :=
    fun i mem => Instruction.isHot_eq_false (fronts i mem)
  unfold dealt
  rw [deliveries, List.append_assoc]
  congr 1
  cases head : s.agenda with
  | nil =>
      rw [head] at behind
      obtain rfl := List.suffix_nil.1 behind
      have silent : m.record? = none := by
        obtain ⟨e, agenda⟩ := s
        obtain rfl : agenda = [] := head
        cases step <;> rfl
      rw [silent, agenda, List.append_nil, dueRecords_eq_nil cool]
      rfl
  | cons i rest =>
      have same := step.record?_eq head
      cases line : i.isLine with
      | true =>
          obtain ⟨text, rfl⟩ := isAsk_of_isLine line
          rw [same, quiet.line _ rest head line]
          rfl
      | false =>
          have cold := opened.cold head line
          have none : dueRecords s'.agenda = [] := by
            rw [head] at behind
            rw [agenda]
            refine dueRecords_eq_nil fun j mem => ?_
            rcases List.mem_append.1 mem with mem | mem
            · exact cool j mem
            · exact cold j (behind.mem mem)
          have due : dueRecords (i :: rest) = i.record?.toList := by
            rw [← List.singleton_append, dueRecords_append, dueRecords_eq_nil cold]
            cases record : i.record? <;> simp [dueRecords, record]
          rw [none, same, due, List.append_nil]

/-- At a step of the stream nothing else is due than what the step brings about. -/
theorem dealt_stream (opened : Open s) (stream : StreamStep s m s' a rest after effects) :
    dealt h s = deliveries h ∧
      dealt (m :: h) s' = deliveries h ++ dueRecords (effects.map .ofStream) := by
  have cold := opened.cold stream.head rfl
  have hrest := dueRecords_eq_nil cold
  constructor
  · rw [dealt, stream.head, ← List.singleton_append, dueRecords_append, hrest]
    exact List.append_nil _
  · rw [dealt, deliveries, stream.move, stream.agenda, dueRecords_append, hrest]
    simp [Move.record?]

/-! ## Steps of the stream -/

theorem Stream.dueRecords_endEffects (st : Stream) (summary : Summary) (f : Option Failure) :
    QueryStream.dueRecords ((st.endEffects summary f).map .ofStream) = [] ∧
      ((st.endEffects summary f).map .ofStream).countP Instruction.isCount = 0 := by
  unfold Stream.endEffects
  cases st.summaryConsumer <;> cases st.recordConsumer <;> exact ⟨rfl, rfl⟩

theorem Stream.Steps.dueRecords {x : Stream.Surroundings} {st st' : Stream}
    (steps : Stream.Steps x st a st' effects) :
    dueRecords (effects.map .ofStream) = [] ∧ (∀ fields, a = .deliver fields →
        st.phase ≠ .streaming) ∨
      ∃ fields record, a = .deliver fields ∧ st.phase = .streaming ∧
        Record.ofSequences? (.list x.run.keys) fields = .ok record ∧
        dueRecords (effects.map .ofStream) = [record] := by
  cases steps with
  | deliver line present phase consumer made => exact .inr ⟨_, _, rfl, phase, made, rfl⟩
  | conclude | concludeRefused | concludeFailure =>
      exact .inl ⟨(st.dueRecords_endEffects _ _).1, nofun⟩
  | announce =>
      refine .inl ⟨?_, nofun⟩
      cases st.summaryConsumer <;> rfl
  | drop line present phase => exact .inl ⟨rfl, fun _ _ => phase⟩
  | _ => exact .inl ⟨rfl, nofun⟩

theorem Stream.Steps.eq_cancel {x : Stream.Surroundings} {st st' : Stream}
    (steps : Stream.Steps x st a st' effects)
    (running : st.phase = .ready ∨ st.phase = .streaming) (given : st'.phase = .cancelled) :
    a = .cancel := by
  cases steps <;> first | rfl | simp_all [Stream.released]

/-- A stream succeeds with a success that tells of no more records, if a batch is under way. -/
theorem Stream.Steps.exists_of_succeeded {x : Stream.Surroundings} {st st' : Stream}
    (steps : Stream.Steps x st a st' effects) (running : st.phase.isTerminal = false)
    (succeeded : st'.phase = .succeeded) :
    ∃ metadata, a = .succeed metadata ∧ (st.phase = .streaming → metadata.tellsMore = false) := by
  cases steps with
  | @succeed metadata raw present _ field last =>
      refine ⟨metadata, rfl, fun streaming => ?_⟩
      rw [Value.tellsMore_eq field]
      cases more : raw.isTrue with
      | false => rfl
      | true => simp [last more] at streaming
  | _ => simp_all [Phase.isTerminal, Stream.released]

theorem reaches_int {m : Nat} (positive : 0 < m) (k : Nat) :
    Stream.reaches (.int m) k = .ok (decide (m ≤ k)) := by
  have less : (Value.Magnitude.fraction 0 1).less (.fraction m 1) = true := by
    simpa [Value.Magnitude.less] using positive
  have atMost : (Value.Magnitude.fraction m 1).atMost (.fraction k 1) = decide (m ≤ k) := by
    rw [Bool.eq_iff_iff]
    simp only [Value.Magnitude.atMost, Value.Magnitude.less, Value.Magnitude.same,
      Bool.or_eq_true, decide_eq_true_eq, beq_iff_eq]
    omega
  simp [Stream.reaches, Value.magnitude?, less, atMost]

/-! ## The balance -/

/-- A server that answers requests only leaves no more of them unanswered than the stream waits
for. -/
theorem balance_answering (poised : Poised s) (sends : c.SendsRows rows)
    (balance : unanswered h + writes s.agenda ≤ s.engine.stream.phase.owed)
    (step : Step s m s') (permitted : c.Permits h m) :
    unanswered (m :: h) + writes s'.agenda ≤ s'.engine.stream.phase.owed := by
  have atMost := s.engine.stream.phase.owed_le_one
  have nonneg := writes_nonneg s.agenda
  rcases step.stream_or_quiet permitted with ⟨a, rest, next, effects, stream⟩ | ⟨other, quiet⟩
  · have owed := stream.owed
    have hwrite := stream.isWrite
    have hmove := stream.move
    cases response : a.isResponse with
    | false =>
        have silent : m.responds h = false := by
          rw [hmove]
          cases responds : Move.responds h (.carried (.stream a) _) with
          | false => rfl
          | true =>
              have answer := (Move.responds_iff.1 responds).1
              rw [response] at answer
              cases answer
        have hun : unanswered (m :: h) = unanswered h := by simp [unanswered, hwrite, silent]
        rw [if_neg (by simp [response])] at owed
        omega
    | true =>
        have answered : 0 < unanswered h ∧ m.responds h = true := by
          cases a with
          | succeed metadata =>
              subst hmove
              exact ⟨(sends.successes _ _ _ permitted.1).1, rfl⟩
          | fail f =>
              subst hmove
              obtain ⟨waiting, response⟩ := sends.failures _ _ _ permitted.1
              exact ⟨waiting, by simp [Move.responds, response]⟩
          | _ => cases response
        have hun : unanswered (m :: h) = unanswered h - 1 := by
          simp [unanswered, hwrite, answered.2]
        rw [if_pos response] at owed
        omega
  · have hwrites := writes_quiet poised.first step quiet
    have hphase : s'.engine.stream.phase.owed = s.engine.stream.phase.owed := by
      rw [quiet.stream]
    have hun : unanswered (m :: h) ≤ unanswered h + if m.isWrite then 1 else 0 := by
      simp only [unanswered]
      split <;> split <;> omega
    omega

theorem Sending.owed (sending : Sending rows e h s) (waiting : 0 < unanswered h) :
    s.engine.stream.phase.owed = 1 := by
  have balance := sending.balance
  have := s.engine.stream.phase.owed_le_one
  have := writes_nonneg s.agenda
  omega

theorem Batch.running (batch : Batch h s) :
    s.engine.stream.phase = .ready ∨ s.engine.stream.phase = .streaming := by
  cases batch with
  | ready phase covered => exact .inl phase
  | streaming pull left phase underway covered => exact .inr phase

theorem Batch.isTerminal (batch : Batch h s) : s.engine.stream.phase.isTerminal = false := by
  rcases batch.running with phase | phase <;> simp [phase, Phase.isTerminal]

theorem Batch.streaming_of_owed (batch : Batch h s) (owed : s.engine.stream.phase.owed = 1) :
    s.engine.stream.phase = .streaming := by
  rcases batch.running with phase | phase
  · simp [phase, Phase.owed] at owed
  · exact phase

/-! ## Demand -/

theorem Demand.Allows.plus {d : Demand} {k : Nat} (allows : d.Allows k) (d' : Demand) :
    (d.plus d').Allows k := by
  cases d <;> cases d' <;> simp_all [Demand.plus, Demand.Allows]
  omega

theorem Demand.Allows.cons {k : Nat} (allows : (demanded h).Allows k) (m : Move) :
    (demanded (m :: h)).Allows k := by
  rw [demanded]
  split
  · split
    · exact allows.plus _
    · exact allows
  · exact allows

theorem demanded_cons (m : Move) (h : List Move) (silent : m.demand? = none) :
    demanded (m :: h) = demanded h := by
  simp [demanded, silent]

theorem demand?_of_stream (stream : StreamStep s m s' a rest after effects)
    (other : ∀ n, a ≠ .request n) : m.demand? = none := by
  rw [stream.move]
  cases a <;> first | rfl | exact absurd rfl (other _)

theorem isRow_of_stream (stream : StreamStep s m s' a rest after effects)
    (other : ∀ fields, a ≠ .deliver fields) : m.isRow = false := by
  rw [stream.move]
  cases a <;> first | rfl | exact absurd rfl (other _)

/-- Demand that a stream takes that goes on is accepted. -/
theorem demanded_of_request {n : Int} {d : Demand} (going : Going rows cap h s)
    (stream : StreamStep s m s' (.request n) rest after effects)
    (demand : Demand.ofInt? n = some d) : demanded (m :: h) = (demanded h).plus d := by
  rw [stream.move]
  simp [demanded, Move.demand?, demand, going.kept, going.unended]

theorem Demand.records_of_plus {d d' : Demand} {n : Nat} (sum : d.plus d' = .records n) :
    ∃ k k', d = .records k ∧ d' = .records k' ∧ n = k + k' := by
  cases d with
  | all => cases sum
  | records k =>
      cases d' with
      | all => cases sum
      | records k' => exact ⟨k, k', rfl, rfl, (Demand.records.inj sum).symm⟩

theorem dealt_same (opened : Open s) (stream : StreamStep s m s' a rest after effects)
    (other : ∀ fields, a = .deliver fields → s.engine.stream.phase ≠ .streaming) :
    dealt (m :: h) s' = dealt h s := by
  obtain ⟨former, latter⟩ := dealt_stream (h := h) opened stream
  rcases stream.steps.dueRecords with ⟨none, -⟩ | ⟨fields, record, row, streaming, -, -⟩
  · rw [latter, former, none, List.append_nil]
  · exact absurd streaming (other fields row)

theorem Batch.of_stays (batch : Batch h s) (opened : Open s)
    (stream : StreamStep s m s' a rest after effects)
    (stays : s.engine.stream.Stays a after effects) : Batch (m :: h) s' := by
  have hstream : s'.engine.stream = after := by rw [stream.engine]
  have same : dealt (m :: h) s' = dealt h s := dealt_same opened stream stays.row
  have undemanded : demanded (m :: h) = demanded h := by
    refine demanded_cons m h (demand?_of_stream stream ?_)
    rintro n rfl
    obtain ⟨unready, unstreamed⟩ := stays.request n rfl
    exact batch.running.elim unready unstreamed
  cases batch with
  | ready phase covered =>
      refine .ready (by rw [hstream, stays.phase, phase]) ?_
      rwa [undemanded, same, hstream, stays.pending]
  | streaming pull left phase underway covered =>
      have row : m.isRow = false := isRow_of_stream stream fun fields same =>
        absurd phase (stays.row fields same)
      have underway' := underway.of_stream opened stream stays.writes
      rw [row, if_neg (by simp), Int.sub_zero] at underway'
      refine .streaming pull left (by rw [hstream, stays.phase, phase]) underway' ?_
      rwa [undemanded, same, hstream, stays.pending]

/-- What is demanded of a stream that is ready is under way. -/
theorem Going.batch_of_pull {n : Int} {d : Demand} (going : Going rows cap h s) (opened : Open s)
    (stream : StreamStep s m s' (.request n) rest { s.engine.stream with phase := .streaming }
      (Stream.pullEffects s.engine.surroundings d))
    (demand : Demand.ofInt? n = some d) (ready : s.engine.stream.phase = .ready) :
    Batch (m :: h) s' := by
  have same : dealt (m :: h) s' = dealt h s := dealt_same opened stream nofun
  cases going.batch with
  | streaming pull left phase underway covered => simp [ready] at phase
  | ready phase covered =>
      have underway : Underway (m :: h) s'.agenda d.toInt d.toInt := by
        rw [stream.agenda]
        exact .of_pull (m :: h) []
      refine .streaming d.toInt d.toInt (by rw [stream.engine]) underway fun total sum => ?_
      rw [demanded_of_request going stream demand] at sum
      obtain ⟨former, fresh, before, rfl, rfl⟩ := Demand.records_of_plus sum
      obtain ⟨k, pending, bound⟩ := covered former before
      refine ⟨k, by rw [stream.engine]; exact pending, ?_, ?_, ?_⟩ <;>
        simp only [same, Demand.toInt, unlimited] <;> omega

/-- What is demanded while a batch is under way is pending. -/
theorem Going.batch_of_join {n : Int} {d : Demand} (going : Going rows cap h s) (opened : Open s)
    (stream : StreamStep s m s' (.request n) rest
      { s.engine.stream with pending := s.engine.stream.pending.join d } [])
    (demand : Demand.ofInt? n = some d) (streaming : s.engine.stream.phase = .streaming) :
    Batch (m :: h) s' := by
  have same : dealt (m :: h) s' = dealt h s := dealt_same opened stream nofun
  cases going.batch with
  | ready phase covered => simp [streaming] at phase
  | streaming pull left phase underway covered =>
      have underway' := underway.of_stream opened stream rfl
      rw [isRow_of_stream stream (by simp), if_neg (by simp), Int.sub_zero] at underway'
      refine .streaming pull left (by rw [stream.engine, ← phase]) underway' fun total sum => ?_
      rw [demanded_of_request going stream demand] at sum
      obtain ⟨former, fresh, before, rfl, rfl⟩ := Demand.records_of_plus sum
      obtain ⟨k, pending, finite, nonneg, bound⟩ := covered former before
      refine ⟨min (k + fresh) maxDemand, by rw [stream.engine, pending]; rfl, finite, nonneg, ?_⟩
      rw [same]
      omega

/-- When a batch is over, what is pending is what was not dealt yet. -/
theorem Batch.of_endBatch {metadata : Value} (batch : Batch h s) (opened : Open s)
    (stream : StreamStep s m s' (.succeed metadata) rest
      { s.engine.stream with phase := .ready } [.andThen (.settle .streaming true metadata)])
    (streaming : s.engine.stream.phase = .streaming) : Batch (m :: h) s' := by
  have same : dealt (m :: h) s' = dealt h s := dealt_same opened stream nofun
  cases batch with
  | ready phase covered => simp [streaming] at phase
  | streaming pull left phase underway covered =>
      refine .ready (by rw [stream.engine]) fun n before => ?_
      rw [demanded_cons m h (demand?_of_stream stream (by simp))] at before
      obtain ⟨k, pending, finite, nonneg, bound⟩ := covered n before
      exact ⟨k, by rw [stream.engine]; exact pending, by rw [same]; omega⟩

/-- What is pending when a batch is over is under way next. -/
theorem Batch.of_flush {before : Phase} {more : Bool} {metadata : Value} {line : Log.Line}
    (batch : Batch h s) (opened : Open s)
    (stream : StreamStep s m s' (.settle before more metadata) rest
      { s.engine.stream with phase := .streaming, pending := .zero }
      (.log line :: Stream.pullEffects s.engine.surroundings s.engine.stream.pending
        ++ [.andThen .announce]))
    (ready : s.engine.stream.phase = .ready) : Batch (m :: h) s' := by
  have same : dealt (m :: h) s' = dealt h s := dealt_same opened stream nofun
  cases batch with
  | streaming pull left phase underway covered => simp [ready] at phase
  | ready phase covered =>
      have underway := @Underway.of_pull s.engine.surroundings s.engine.stream.pending
        (.stream .announce :: rest) (m :: h) [.ask (.log line)]
      refine .streaming _ _ (by rw [stream.engine]) (by rw [stream.agenda]; exact underway)
        fun n before => ?_
      rw [demanded_cons m h (demand?_of_stream stream (by simp))] at before
      obtain ⟨k, pending, bound⟩ := covered n before
      refine ⟨0, by rw [stream.engine]; rfl, ?_, ?_, ?_⟩ <;>
        simp only [same, pending, Demand.toInt, unlimited] <;> omega

/-- A row that is delivered is one of the batch under way. -/
theorem Batch.of_deliver {fields : Value} {rc : RecordConsumer} {record : Record}
    {line : Log.Line} (batch : Batch h s) (sends : c.SendsRows rows) (opened : Open s)
    (stream : StreamStep s m s' (.deliver fields) rest s.engine.stream
      [.log line, .tellRecord rc record, .andThen .count])
    (permitted : c.Permits h m) (streaming : s.engine.stream.phase = .streaming) :
    Batch (m :: h) s' := by
  have more : (dealt (m :: h) s').length = (dealt h s).length + 1 := by
    obtain ⟨former, latter⟩ := dealt_stream (h := h) opened stream
    rw [latter, former, List.length_append]
    rfl
  cases batch with
  | ready phase covered => simp [streaming] at phase
  | streaming pull left phase underway covered =>
      have row : m.isRow = true := by rw [stream.move]; rfl
      obtain ⟨query, last, rfl⟩ := underway.exists_request opened stream.head
      have underway' := underway.of_stream opened stream rfl
      rw [row, if_pos rfl] at underway'
      refine .streaming pull _ (by rw [stream.engine, phase]) underway' fun n before => ?_
      rw [demanded_cons m h (demand?_of_stream stream (by simp))] at before
      obtain ⟨k, pending, finite, nonneg, bound⟩ := covered n before
      have room : sentRows h < pull := by
        have hmove := stream.move
        subst hmove
        obtain ⟨n', query', last', room⟩ := (sends.inTurn _ _ _ permitted.1).2.1
        rw [last] at last'
        obtain rfl : pull = n' := by simpa using (Message.pull.inj (Option.some.inj last')).1
        exact room.resolve_left finite
      exact ⟨k, by rw [stream.engine]; exact pending, finite, by omega, by omega⟩

/-- What was demanded goes on to cover what was dealt, step by step. -/
theorem Going.batch_of_stream (going : Going rows cap h s) (sends : c.SendsRows rows)
    (opened : Open s) (stream : StreamStep s m s' a rest after effects)
    (permitted : c.Permits h m)
    (goesOn : ¬ (after.phase = .cancelled ∨ after.phase.isTerminal = true)) :
    Batch (m :: h) s' := by
  have fits := opened.fits (.stream a) (by simp [stream.head])
  cases stream.steps.trades fits with
  | isOver given => exact absurd given goesOn
  | stays stays => exact going.batch.of_stays opened stream stays
  | pull demand ready => exact going.batch_of_pull opened stream demand ready
  | join demand streaming => exact going.batch_of_join opened stream demand streaming
  | endBatch streaming more => exact going.batch.of_endBatch opened stream streaming
  | flush line ready positive => exact going.batch.of_flush opened stream ready
  | deliver line streaming consumer =>
      exact going.batch.of_deliver sends opened stream permitted streaming

end Steps

end QueryStream
