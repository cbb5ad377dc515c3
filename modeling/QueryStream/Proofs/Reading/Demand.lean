/-
  Proofs/Reading/Demand.lean --- the demand that an iteration declares.

  An iteration that has nothing to read and nothing outstanding asks for a batch, and
  counts the batch as outstanding only once it was asked for.  In between the connection
  may send the batch and end it.  So what is outstanding is counted here from the moment
  the stream takes the demand: `Asking s cursor v` says so of the count `v`.  From one move
  to the next the count stays, a record is taken off it, or a batch comes onto it
  (`Declares`).
-/
import QueryStream.Proofs.Reading.Recipient

set_option autoImplicit false

namespace QueryStream

namespace Instruction

/-- Whether an instruction tells the iteration of a record. -/
def isFeeding : Instruction → Bool
  | .tellRecord (.feed 0) _ => true
  | _ => false

/-- Whether an instruction writes a request, or is one that an owner is told something
with, and throws nothing. -/
def isWriting : Instruction → Bool
  | .ask (.write _) => true
  | i => i.isErrand

end Instruction

/-- Whether a signal is a record. -/
def Signal.isRecord : Signal → Bool
  | .record _ => true
  | .finish _ => false

/-- How many records wait for the iteration. -/
def Iteration.queued (it : Iteration) : Int := it.signals.countP Signal.isRecord

/-- How many records the iteration is about to be told of. -/
def transit (agenda : List Instruction) : Int := agenda.countP Instruction.isFeeding

/-- How an iteration asks its cursor for records, one step after the other. -/
inductive Request (cursor : Cursor) (n : Int) : List Instruction → Prop
  | line (line : Log.Line) : Request cursor n [.ask (.log line), .cursor 0 (.request n)]
  | cursor : Request cursor n [.cursor 0 (.request n)]
  | channel (unconsumed : cursor.isConsumed = false) :
      Request cursor n [.channel (.request (Cursor.capped n))]
  | stream (unconsumed : cursor.isConsumed = false) :
      Request cursor n [.stream (.request (Cursor.capped n))]

/-- What the iteration has outstanding, from when the stream takes its demand. -/
inductive Asking (s : Situation) (cursor : Cursor) : Int → Prop
  | still (still : ∀ i ∈ s.agenda, i.isDemand = false) :
      Asking s cursor s.engine.reader.outstanding
  | asking {before rest : List Instruction} (t : TaskId)
      (request : Request cursor s.engine.reader.fetchSize.value before)
      (agenda : s.agenda = before ++ .iteration 0 t .requested :: rest)
      (still : ∀ i ∈ rest, i.isDemand = false) (made : s.engine.iterations ≠ #[])
      (outstanding : s.engine.reader.outstanding = 0) (signals : s.engine.reader.signals = []) :
      Asking s cursor 0
  | asked {before rest : List Instruction} (t : TaskId)
      (agenda : s.agenda = before ++ .iteration 0 t .requested :: rest)
      (shield : Shield (fun i => i.isWriting = true) before)
      (still : ∀ i ∈ before ++ rest, i.isDemand = false) (made : s.engine.iterations ≠ #[]) :
      Asking s cursor s.engine.reader.fetchSize.value

/-- What a move does to what is outstanding and to the records that wait. -/
inductive Declares (s : Situation) (m : Move) (s' : Situation) (v : Int) : Int → Prop
  /-- nothing is declared and no record is taken -/
  | same (declares : ∀ n next, m ≠ .carried (.stream (.request n)) (.go next))
      (queued : s'.engine.reader.queued
        = s.engine.reader.queued + if s.agenda.head?.any Instruction.isFeeding then 1 else 0) :
      Declares s m s' v v
  /-- the stream takes demand -/
  | declared {after : Stream} {rest : List Instruction} {effects : List Stream.Effect}
      (stream : StreamStep s m s' (.request (Cursor.capped s.engine.reader.fetchSize.value)) rest
        after effects)
      (none : v = 0) (signals : s.engine.reader.signals = [])
      (queued : s'.engine.reader.queued = 0) : Declares s m s' v s.engine.reader.fetchSize.value
  /-- a record is taken -/
  | taken (t : TaskId) {rest : List Instruction} (head : s.agenda = .iteration 0 t .take :: rest)
      (queued : s'.engine.reader.queued = s.engine.reader.queued - 1)
      (phase : s'.engine.reader.phase = .paused) :
      Declares s m s' v (if s.engine.reader.fetchSize.value = unlimited then v else v - 1)

section Steps

variable {c : Conduct} {o : PromiseId} {h : List Move} {s s' : Situation} {m : Move}
  {cursor next : Cursor}

/-! ## Asking for a batch -/

/-- How asking for a batch goes on. -/
inductive Request.Goes (s : Situation) (m : Move) (s' : Situation) (next : Cursor) (n : Int)
    (rest : List Instruction) : Prop
  | on {before : List Instruction} (request : Request next n before)
      (agenda : s'.agenda = before ++ rest)
      (iterations : s'.engine.iterations = s.engine.iterations)
      (other : ∀ a next, m ≠ .carried (.stream a) (.go next))
  | refused (th : Thrown) (agenda : s'.agenda = (Reply.raise th).onto rest)
      (iterations : s'.engine.iterations = s.engine.iterations)
      (other : ∀ a next, m ≠ .carried (.stream a) (.go next))
  | declared {after : Stream} {effects : List Stream.Effect}
      (stream : StreamStep s m s' (.request (Cursor.capped n)) rest after effects)

theorem Request.goes {n : Int} {before rest : List Instruction}
    (request : Request cursor n before) (served : Served o h s cursor) (step : Step s m s')
    (permitted : c.Permits h m) (hnext : s'.engine.cursors = #[next])
    (agenda : s.agenda = before ++ rest) : Request.Goes s m s' next n rest := by
  have found : s.engine.cursors[0]? = some cursor := by simp [served.cursors]
  cases request with
  | line line =>
      obtain ⟨rfl, rfl⟩ := step.of_notice permitted agenda rfl
      exact .on .cursor rfl rfl fun _ _ heq => (by cases heq)
  | cursor =>
      cases consumed : cursor.isConsumed with
      | true =>
          have hstep : cursor.step (s.engine.isResolved cursor) (.request n)
              = .error .resultConsumed := by
            simp [Cursor.step, Cursor.ensureOpen, consumed, bind, Except.bind]
          obtain ⟨rfl, rfl⟩ := step.exec_of_head agenda rfl
          rw [s.engine.exec_cursor_of_error found hstep]
          exact .refused _ rfl rfl fun _ _ heq => (by cases heq)
      | false =>
          have hstep : cursor.step (s.engine.isResolved cursor) (.request n)
              = .ok (cursor, [.channel (.request (Cursor.capped n))]) := by
            simp [Cursor.step, Cursor.ensureOpen, consumed, bind, Except.bind, pure, Except.pure,
              Cursor.capped]
          obtain ⟨rfl, rfl⟩ := step.exec_of_head agenda rfl
          rw [s.engine.exec_cursor found hstep] at hnext ⊢
          obtain rfl : cursor = next := by simpa [served.cursors] using hnext
          exact .on (.channel consumed) rfl rfl fun _ _ heq => (by cases heq)
  | channel unconsumed =>
      obtain ⟨rfl, rfl⟩ := step.exec_of_head agenda rfl
      rw [s.engine.exec_channel served.hasStream] at hnext ⊢
      obtain rfl : cursor = next := by simpa [served.cursors] using hnext
      exact .on (.stream unconsumed) rfl rfl fun _ _ heq => (by cases heq)
  | stream unconsumed =>
      rcases step.stream_or_quiet permitted with ⟨a, rest', after, effects, stream⟩ | ⟨other, _⟩
      · have head := stream.head
        rw [agenda] at head
        obtain ⟨hi, rfl⟩ := List.cons.inj head
        cases hi
        exact .declared stream
      · obtain ⟨hm, rfl⟩ := step.exec_of_head agenda rfl
        cases hstep : s.engine.stream.step s.engine.surroundings
            (.request (Cursor.capped n)) with
        | ok after =>
            rw [s.engine.exec_stream hstep] at hm
            exact absurd hm (other _ _)
        | error cause =>
            rw [s.engine.exec_stream_of_error hstep]
            exact .refused _ rfl rfl other

/-! ## One move -/

/-- What is carried out while a request is written throws nothing. -/
theorem mild_isWriting (feeds : c.FeedsCalmly) (e : Engine) :
    Mild c e fun i => i.isWriting = true := by
  have errand : ∀ i : Instruction, i.isErrand = true → i.isWriting = true := by
    intro i hi
    unfold Instruction.isWriting
    split <;> first | rfl | exact hi
  have mild := mild_isErrand feeds.toErrands e
  refine ⟨fun i hi own => ?_, fun a ha => ?_, fun g hg => errand _ hg, fun g th hg => errand _ hg⟩
  · unfold Instruction.isWriting at hi
    split at hi
    · simp [Instruction.isAsk] at own
    · obtain ⟨next, hexec, hnext⟩ := mild.carried i hi own
      exact ⟨next, hexec, fun j hj => errand j (hnext j hj)⟩
  · cases a with
    | write request => exact .inr (feeds.writes request)
    | _ => exact mild.asked _ ha

/-- A move that leaves the iteration as it is, and tells it nothing, declares nothing. -/
theorem Declares.of_apart {v : Int} (reader : s'.engine.reader.signals = s.engine.reader.signals)
    (head : ∀ i rest, s.agenda = i :: rest → i.isFeeding = false)
    (declares : ∀ n next, m ≠ .carried (.stream (.request n)) (.go next)) :
    Declares s m s' v v := by
  refine .same declares ?_
  have hfeeding : s.agenda.head?.any Instruction.isFeeding = false := by
    cases hagenda : s.agenda with
    | nil => rfl
    | cons i rest => exact head i rest hagenda
  simp [Iteration.queued, reader, hfeeding]

/-- A stream that let its consumers go tells nobody of a record. -/
theorem Outlook.head_ne_tellRecord {e : Engine} {agenda : List Instruction}
    (outlook : Outlook o e agenda) (isOver : e.stream.Over) (rc : RecordConsumer) (r : Record)
    (rest : List Instruction) : agenda ≠ .tellRecord rc r :: rest := by
  intro head
  cases outlook with
  | running phase => simp [isOver.terminal] at phase
  | deciding before more phase attended wellFormed =>
      have present := attended.1
      simp [isOver.records] at present
  | concluding terminal attended shield concluding =>
      have present := attended.1
      simp [isOver.records] at present
  | parting rc f _ parting cold => cases parting <;> simp at head
  | ended _ done cold =>
      have hcold := cold (.tellRecord rc r) (by simp [head])
      simp [Instruction.isHot, Instruction.isTelling] at hcold

/-- An iteration that is told of a record is the one that the cursor has. -/
theorem Recipient.installed_of_feeding (recipient : Recipient s cursor)
    (served : Served o h s cursor) (pledged : Pledged o s cursor) {i : Instruction}
    {rest : List Instruction} (head : s.agenda = i :: rest) (feeding : i.isFeeding = true) :
    cursor.status = .installed := by
  obtain ⟨r, rfl⟩ : ∃ r, i = .tellRecord (.feed 0) r := by
    unfold Instruction.isFeeding at feeding
    split at feeding
    · exact ⟨_, rfl⟩
    · cases feeding
  rcases served.standing with opened | ⟨isOver, cold⟩
  · obtain ⟨-, due⟩ := opened.fits (.tellRecord (.feed 0) r) (by simp [head]) rfl
    rcases recipient.suits _ due with ⟨-, installed⟩ | ⟨discard, -⟩
    · exact installed
    · cases discard
  · exact absurd head (pledged.outlook.head_ne_tellRecord isOver _ _ _)

theorem Recipient.made_of_feeding (recipient : Recipient s cursor) (served : Served o h s cursor)
    (pledged : Pledged o s cursor) {i : Instruction} {rest : List Instruction}
    (head : s.agenda = i :: rest) (feeding : i.isFeeding = true) :
    s.engine.iterations ≠ #[] :=
  recipient.read (.inl (recipient.installed_of_feeding served pledged head feeding))

theorem Recipient.isFeeding_eq_false (recipient : Recipient s cursor) (served : Served o h s cursor)
    (pledged : Pledged o s cursor)
    (unread : ∀ {i rest}, s.agenda = i :: rest → i.isFeeding = true → s.engine.iterations = #[]) :
    ∀ i rest, s.agenda = i :: rest → i.isFeeding = false := by
  intro i rest head
  cases feeding : i.isFeeding with
  | false => rfl
  | true =>
      exact absurd (unread head feeding) (recipient.made_of_feeding served pledged head feeding)

theorem Instruction.isReaders_of_isFeeding {i : Instruction} (h : i.isFeeding = true) :
    i.isReaders = true := by
  unfold isFeeding at h
  split at h
  · rfl
  · cases h

/-- What declares demand to the stream is demand on the agenda. -/
theorem ne_declares_of_still (still : ∀ i ∈ s.agenda, i.isDemand = false) (step : Step s m s') :
    ∀ n after, m ≠ .carried (.stream (.request n)) (.go after) := by
  rintro n after rfl
  obtain ⟨rest, head⟩ := step.head_of_carried
  simpa [Instruction.isDemand] using still (.stream (.request n)) (by simp [head])

/-- Where no demand is on the agenda and no batch is fetched, what is outstanding stays so. -/
theorem Asking.goesOn (still : ∀ i ∈ s.agenda, i.isDemand = false)
    (recipient : Recipient s cursor) (served : Served o h s cursor) (feeds : c.FeedsCalmly)
    (step : Step s m s') (permitted : c.Permits h m)
    (fetches : s.engine.iterations = #[] ∨ ∀ t rest, s.agenda ≠ .iteration 0 t .fetch :: rest)
    (outstanding : s'.engine.reader.outstanding = s.engine.reader.outstanding) :
    Asking s' next s.engine.reader.outstanding :=
  outstanding ▸ .still (step.still feeds permitted served.known recipient.unopened recipient.sole
    served.cursors still fetches)

section Stepped

variable {t : TaskId} {rest : List Instruction}

theorem ne_fetch_of_head {a : Iteration.Action} (head : s.agenda = .iteration 0 t a :: rest)
    (other : a ≠ .fetch) : ∀ t rest, s.agenda ≠ .iteration 0 t .fetch :: rest := by
  intro t rest heq
  rw [head] at heq
  exact other (Instruction.iteration.inj (List.cons.inj heq).1).2.2

theorem isFeeding_of_head {a : Iteration.Action} (head : s.agenda = .iteration 0 t a :: rest) :
    ∀ i tail, s.agenda = i :: tail → i.isFeeding = false := by
  intro i tail heq
  rw [head] at heq
  obtain ⟨rfl, -⟩ := List.cons.inj heq
  rfl

/-- A fetch asks for a batch, if nothing is there to read and nothing is outstanding. -/
theorem asking_of_fetch (still : ∀ i ∈ s.agenda, i.isDemand = false)
    (recipient : Recipient s cursor) (served : Served o h s cursor) (step : Step s m s')
    (permitted : c.Permits h m) (head : s.agenda = .iteration 0 t .fetch :: rest)
    (made : s.engine.iterations ≠ #[])
    (reader : s'.engine.reader = (s.engine.reader.step .fetch).1)
    (agenda : s'.agenda = (s.engine.reader.step .fetch).2.flatMap
      (Instruction.ofIteration 0 (s.engine.reader.step .fetch).1 t) ++ rest) :
    ∃ v, Asking s' next v ∧ Declares s m s' s.engine.reader.outstanding v := by
  have declares := ne_declares_of_still still step
  have apart := isFeeding_of_head head
  have hrest : ∀ i ∈ rest, i.isDemand = false := fun i hi => still i (by simp [head, hi])
  by_cases empty : s.engine.reader.signals.isEmpty && s.engine.reader.outstanding == 0
  · simp only [Iteration.step, empty, if_true] at reader agenda
    simp only [Bool.and_eq_true, List.isEmpty_iff, beq_iff_eq] at empty
    have hcursor := recipient.sole.cursor_eq
    have hmade : s'.engine.iterations ≠ #[] :=
      (step.reads permitted served.known recipient.unopened recipient.sole).2.made made
    obtain ⟨line, hagenda⟩ : ∃ line, s'.agenda
        = [.ask (.log line), .cursor 0 (.request s'.engine.reader.fetchSize.value)]
          ++ .iteration 0 t .requested :: rest := by
      rw [agenda, reader]
      simp only [List.flatMap_cons, List.flatMap_nil, Instruction.ofIteration, hcursor,
        List.cons_append, List.nil_append]
      exact ⟨_, rfl⟩
    rw [empty.2]
    exact ⟨0, .asking t (.line line) hagenda hrest hmade (by rw [reader]; exact empty.2)
      (by rw [reader]; exact empty.1), .of_apart (by rw [reader]) apart declares⟩
  · simp only [Iteration.step, empty] at reader agenda
    refine ⟨_, ?_, .of_apart (by rw [reader]; rfl) apart declares⟩
    have still' : ∀ i ∈ s'.agenda, i.isDemand = false := by
      intro i hi
      simp only [agenda, Bool.false_eq_true, if_false, List.flatMap_cons, List.flatMap_nil,
        Instruction.ofIteration, List.cons_append, List.nil_append, List.mem_cons] at hi
      rcases hi with rfl | hi
      · rfl
      · exact hrest i hi
    have outstanding : s'.engine.reader.outstanding = s.engine.reader.outstanding := by
      rw [reader]
      rfl
    rw [← outstanding]
    exact .still still'

/-- What is taken is a record, which is outstanding no longer, or the end. -/
theorem asking_of_take (still : ∀ i ∈ s.agenda, i.isDemand = false)
    (recipient : Recipient s cursor) (served : Served o h s cursor) (feeds : c.FeedsCalmly)
    (step : Step s m s') (permitted : c.Permits h m)
    (head : s.agenda = .iteration 0 t .take :: rest)
    (reader : s'.engine.reader = (s.engine.reader.step .take).1) :
    ∃ v, Asking s' next v ∧ Declares s m s' s.engine.reader.outstanding v := by
  have declares := ne_declares_of_still still step
  have fetches := ne_fetch_of_head head (by simp)
  have goesOn : s'.engine.reader.outstanding = s.engine.reader.outstanding →
      Asking s' next s.engine.reader.outstanding :=
    Asking.goesOn still recipient served feeds step permitted (.inr fetches)
  cases hsignals : s.engine.reader.signals with
  | nil =>
      simp only [Iteration.step, hsignals] at reader
      exact ⟨_, goesOn (by rw [reader]),
        .of_apart (by rw [reader]) (isFeeding_of_head head) declares⟩
  | cons signal signals =>
      cases signal with
      | record r =>
          simp only [Iteration.step, hsignals] at reader
          refine ⟨_, .still (step.still feeds permitted served.known recipient.unopened
            recipient.sole served.cursors still (.inr fetches)), ?_⟩
          have taken : s'.engine.reader.outstanding
              = if s.engine.reader.fetchSize.value = unlimited then
                  s.engine.reader.outstanding
                else s.engine.reader.outstanding - 1 := by rw [reader]
          rw [taken]
          refine .taken t head ?_ (by rw [reader])
          simp [reader, Iteration.queued, hsignals, Signal.isRecord, List.countP_cons]
      | finish f =>
          have kept : s'.engine.reader.outstanding = s.engine.reader.outstanding ∧
              s'.engine.reader.signals = signals := by
            rw [reader]
            cases f <;> simp [Iteration.step, hsignals]
          refine ⟨_, goesOn kept.1, .same declares ?_⟩
          simp [Iteration.queued, kept.2, hsignals, Signal.isRecord, head, Instruction.isFeeding]

end Stepped

/-- Where no demand is on the agenda, the iteration fetches a batch, takes a record, or
nothing is declared. -/
theorem asking_of_still (still : ∀ i ∈ s.agenda, i.isDemand = false)
    (recipient : Recipient s cursor) (served : Served o h s cursor)
    (pledged : Pledged o s cursor) (feeds : c.FeedsCalmly) (step : Step s m s')
    (permitted : c.Permits h m) :
    ∃ v, Asking s' next v ∧ Declares s m s' s.engine.reader.outstanding v := by
  have declares := ne_declares_of_still still step
  have goesOn : (s.engine.iterations = #[] ∨ ∀ t rest, s.agenda ≠ .iteration 0 t .fetch :: rest) →
      s'.engine.reader.outstanding = s.engine.reader.outstanding →
        Asking s' next s.engine.reader.outstanding :=
    Asking.goesOn still recipient served feeds step permitted
  obtain ⟨reads, -⟩ :=
    step.reads permitted served.known recipient.unopened recipient.sole
  cases reads with
  | apart awaited reader other =>
      have fetches : s.engine.iterations = #[] ∨
          ∀ t rest, s.agenda ≠ .iteration 0 t .fetch :: rest := by
        by_cases head : ∃ t rest, s.agenda = .iteration 0 t .fetch :: rest
        · obtain ⟨t, rest, head⟩ := head
          exact .inl (other _ _ head rfl)
        · exact .inr fun t rest heq => head ⟨t, rest, heq⟩
      exact ⟨_, goesOn fetches (by rw [reader]), .of_apart (by rw [reader])
        (recipient.isFeeding_eq_false served pledged fun head feeding =>
          other _ _ head (Instruction.isReaders_of_isFeeding feeding)) declares⟩
  | made size unread reader =>
      have before : s.engine.reader = .ofCursor 0 default := by simp [Engine.reader, unread]
      exact ⟨_, goesOn (.inl unread) (by rw [reader, before]; rfl),
        .of_apart (by rw [reader, before]; rfl)
        (recipient.isFeeding_eq_false served pledged fun _ _ => unread) declares⟩
  | signalled signal head sort reader agenda =>
      have fetches : ∀ t rest, s.agenda ≠ .iteration 0 t .fetch :: rest := by
        intro t rest heq
        rw [head] at heq
        rcases sort with ⟨r, rfl, -⟩ | ⟨f, rfl, -⟩ <;> simp at heq
      refine ⟨_, goesOn (.inr fetches) (by rw [reader]), .same declares ?_⟩
      rcases sort with ⟨r, rfl, rfl⟩ | ⟨f, rfl, rfl⟩ <;>
        simp [reader, Iteration.queued, head, Instruction.isFeeding, Signal.isRecord]
  | left th head reader agenda =>
      have kept : s.engine.reader.leave.1.outstanding = s.engine.reader.outstanding ∧
          s.engine.reader.leave.1.signals = s.engine.reader.signals := by
        unfold Iteration.leave
        split <;> exact ⟨rfl, rfl⟩
      have fetches : ∀ t rest, s.agenda ≠ .iteration 0 t .fetch :: rest := by
        intro t rest heq
        simp [head] at heq
      refine ⟨_, goesOn (.inr fetches) (by rw [reader, kept.1]),
        .of_apart (by rw [reader, kept.2]) ?_ declares⟩
      intro i rest heq
      rw [head] at heq
      obtain ⟨rfl, -⟩ := List.cons.inj heq
      rfl
  | @stepped t a rest head made reader agenda =>
      cases a with
      | fetch => exact asking_of_fetch still recipient served step permitted head made reader agenda
      | take => exact asking_of_take still recipient served feeds step permitted head reader
      | requested =>
          simpa [Instruction.isDemand] using still (.iteration 0 t .requested) (by simp [head])
      | advance | close =>
          have kept : s'.engine.reader.outstanding = s.engine.reader.outstanding ∧
              s'.engine.reader.signals = s.engine.reader.signals := by
            rw [reader]
            simp only [Iteration.step]
            split <;> exact ⟨rfl, rfl⟩
          exact ⟨_, goesOn (.inr (ne_fetch_of_head head (by simp))) kept.1,
            .of_apart kept.2 (isFeeding_of_head head) declares⟩

/-- What a stream brings about that takes demand writes a request at most. -/
theorem Stream.Steps.shield_of_request {x : Stream.Surroundings} {st st' : Stream} {n : Int}
    {effects : List Stream.Effect} (steps : Stream.Steps x st (.request n) st' effects) :
    Shield (fun i => i.isWriting = true) (effects.map .ofStream) := by
  cases steps with
  | pull present demand phase =>
      refine ⟨?_, sealed_of_forall ?_⟩ <;> simp [Stream.pullEffects, Stream.debug,
        Instruction.ofStream, Instruction.isPlain, Instruction.isWriting, Instruction.isErrand,
        Ask.isNotice]
  | join present demand phase => exact .nil
  | ignoreRequest line present demand ready streaming =>
      refine ⟨?_, sealed_of_forall ?_⟩ <;> simp [Instruction.ofStream, Instruction.isPlain,
        Instruction.isWriting, Instruction.isErrand, Ask.isNotice]

theorem Request.not_feeding {n : Int} {before rest : List Instruction}
    (request : Request cursor n before) (agenda : s.agenda = before ++ rest) :
    ∀ i tail, s.agenda = i :: tail → i.isFeeding = false := by
  intro i tail head
  rw [agenda] at head
  cases request <;> (obtain ⟨rfl, -⟩ := List.cons.inj head; rfl)

theorem Engine.reader_eq {e e' : Engine} (iterations : e'.iterations = e.iterations) :
    e'.reader = e.reader := by
  simp [reader, iterations]

/-- Asking for a batch goes on, is refused, or the stream takes the demand. -/
theorem asking_of_request {before rest : List Instruction} (t : TaskId)
    (request : Request cursor s.engine.reader.fetchSize.value before)
    (agenda : s.agenda = before ++ .iteration 0 t .requested :: rest)
    (still : ∀ i ∈ rest, i.isDemand = false) (made : s.engine.iterations ≠ #[])
    (outstanding : s.engine.reader.outstanding = 0) (signals : s.engine.reader.signals = [])
    (served : Served o h s cursor) (step : Step s m s') (permitted : c.Permits h m)
    (hnext : s'.engine.cursors = #[next]) : ∃ v, Asking s' next v ∧ Declares s m s' 0 v := by
  have apart := request.not_feeding agenda
  cases request.goes served step permitted hnext agenda with
  | on request' agenda' iterations other =>
      have reader := Engine.reader_eq iterations
      rw [← reader] at request' outstanding signals
      exact ⟨0, .asking t request' agenda' still (by rwa [iterations]) outstanding signals,
        .of_apart (by rw [reader]) apart fun _ _ => other _ _⟩
  | refused th agenda' iterations other =>
      have reader := Engine.reader_eq iterations
      have still' : ∀ i ∈ s'.agenda, i.isDemand = false := by
        have hagenda : s'.agenda = (Reply.raise th).onto rest := agenda'
        obtain ⟨front, tail, heq, htail, hfront⟩ :=
          Reply.exists_onto_of_forall (p := fun i => i.isDemand = false) (r := .raise th)
            (by simp) (fun _ _ => rfl) rest
        intro i hi
        rw [hagenda, heq] at hi
        rcases List.mem_append.1 hi with hi | hi
        · exact hfront i hi
        · exact still i (htail.mem hi)
      have asking : Asking s' next s'.engine.reader.outstanding := .still still'
      rw [reader, outstanding] at asking
      exact ⟨0, asking, .of_apart (by rw [reader]) apart fun _ _ => other _ _⟩
  | @declared after effects stream =>
      have reader : s'.engine.reader = s.engine.reader := by rw [stream.engine]; rfl
      have hmade : s'.engine.iterations ≠ #[] := by rw [stream.engine]; exact made
      have demandless : ∀ i ∈ effects.map Instruction.ofStream, i.isDemand = false := by
        intro i hi
        obtain ⟨effect, mem, rfl⟩ := List.mem_map.1 hi
        have claim := stream.steps.isClaim_eq_false effect mem
        simp only [Instruction.isClaim, Bool.or_eq_false_iff] at claim
        exact claim.1.1
      have asking : Asking s' next s'.engine.reader.fetchSize.value := by
        refine .asked t stream.agenda stream.steps.shield_of_request (fun i hi => ?_) hmade
        rcases List.mem_append.1 hi with hi | hi
        · exact demandless i hi
        · exact still i hi
      rw [reader] at asking
      exact ⟨_, asking, .declared stream rfl signals (by simp [reader, Iteration.queued, signals])⟩

section Asked

variable {before rest : List Instruction} {t : TaskId}

/-- A batch that was asked for is counted, once all that its request brought about is carried
out. -/
theorem asking_of_counted (agenda : s.agenda = .iteration 0 t .requested :: rest)
    (still : ∀ i ∈ rest, i.isDemand = false)
    (declares : ∀ n after, m ≠ .carried (.stream (.request n)) (.go after))
    (reads : Reads s m s') (made : s.engine.iterations ≠ #[]) :
    ∃ v, Asking s' next v ∧ Declares s m s' s.engine.reader.fetchSize.value v := by
  cases reads with
  | apart awaited reader other => exact absurd (other _ _ agenda rfl) made
  | made size unread reader => exact absurd unread made
  | stepped t' a head _ reader agenda' =>
      obtain ⟨hi, rfl⟩ := List.cons.inj (agenda.symm.trans head)
      cases hi
      have asking : Asking s' next s'.engine.reader.outstanding := by
        refine .still fun i hi => ?_
        rw [agenda'] at hi
        rcases List.mem_cons.1 hi with rfl | hi
        · rfl
        · exact still i hi
      rw [reader] at asking
      exact ⟨_, asking, .of_apart (by rw [reader]; rfl) (isFeeding_of_head agenda) declares⟩
  | signalled signal head sort reader agenda' =>
      rw [agenda] at head
      rcases sort with ⟨r, rfl, -⟩ | ⟨f, rfl, -⟩ <;> cases head
  | left th head reader agenda' =>
      rw [agenda] at head
      cases head

/-- No demand comes onto the agenda while a request is written. -/
theorem isDemand_of_asked {i : Instruction}
    (agenda : s.agenda = i :: before ++ .iteration 0 t .requested :: rest)
    (shield : Shield (fun i => i.isWriting = true) (i :: before))
    (still : ∀ j ∈ i :: before ++ rest, j.isDemand = false) (recipient : Recipient s cursor)
    (served : Served o h s cursor) (feeds : c.FeedsCalmly) (step : Step s m s')
    (permitted : c.Permits h m) {j : Instruction} (mem : j ∈ s'.agenda)
    (jplain : j.isPlain = true) : j.isDemand = false := by
  have plain := shield.plain i (by simp)
  cases demand : j.isDemand with
  | false => rfl
  | true =>
      have claim : j.isClaim = true := Instruction.isClaim_eq_true.2 (.inl demand)
      rcases step.claims feeds permitted served.known recipient.unopened recipient.sole
        served.cursors mem claim with htail | claimed
      · rw [agenda] at htail
        rcases List.mem_append.1 htail with htail | htail
        · simp [still j (by simp [htail])] at demand
        · rcases List.mem_cons.1 htail with rfl | htail
          · simp [Instruction.isPlain] at jplain
          · simp [still j (by simp [htail])] at demand
      · cases claimed with
        | fetched head _ _ =>
            obtain ⟨rfl, -⟩ := List.cons.inj (agenda.symm.trans head)
            simp [Instruction.isPlain] at plain
        | passed head passed _ =>
            obtain ⟨rfl, -⟩ := List.cons.inj (agenda.symm.trans head)
            simp [still i (by simp)] at passed
        | staged head stages taking => simp [taking, Instruction.isDemand] at demand
        | reading head taking => simp [taking, Instruction.isDemand] at demand

theorem asking_of_writing {i : Instruction}
    (agenda : s.agenda = i :: before ++ .iteration 0 t .requested :: rest)
    (shield : Shield (fun i => i.isWriting = true) (i :: before))
    (still : ∀ j ∈ i :: before ++ rest, j.isDemand = false) (made : s'.engine.iterations ≠ #[])
    (recipient : Recipient s cursor) (served : Served o h s cursor) (feeds : c.FeedsCalmly)
    (step : Step s m s') (permitted : c.Permits h m)
    (size : s'.engine.reader.fetchSize = s.engine.reader.fetchSize) :
    Asking s' next s.engine.reader.fetchSize.value := by
  obtain ⟨before', agenda', shield', _⟩ :=
    step.of_shield permitted (mild_isWriting feeds s.engine) agenda shield
  rw [← size]
  refine .asked t agenda' shield' (fun j hj => ?_) made
  rcases List.mem_append.1 hj with hj | hj
  · exact isDemand_of_asked agenda shield still recipient served feeds step permitted
      (by rw [agenda']; simp [hj]) (shield'.plain j hj)
  · exact still j (by simp [hj])

theorem asking_of_asked (agenda : s.agenda = before ++ .iteration 0 t .requested :: rest)
    (shield : Shield (fun i => i.isWriting = true) before)
    (still : ∀ i ∈ before ++ rest, i.isDemand = false) (made : s.engine.iterations ≠ #[])
    (recipient : Recipient s cursor) (served : Served o h s cursor) (feeds : c.FeedsCalmly)
    (step : Step s m s') (permitted : c.Permits h m) :
    ∃ v, Asking s' next v ∧ Declares s m s' s.engine.reader.fetchSize.value v := by
  obtain ⟨reads, resumes⟩ :=
    step.reads permitted served.known recipient.unopened recipient.sole
  have demandless : ∀ i ∈ s.agenda, i.isDemand = true → i = .iteration 0 t .requested := by
    intro i hi demand
    rw [agenda] at hi
    rcases List.mem_append.1 hi with hi | hi
    · simp [still i (by simp [hi])] at demand
    · rcases List.mem_cons.1 hi with rfl | hi
      · rfl
      · simp [still i (by simp [hi])] at demand
  have declares : ∀ n after, m ≠ .carried (.stream (.request n)) (.go after) := by
    rintro n after rfl
    obtain ⟨tail, head⟩ := step.head_of_carried
    cases demandless (.stream (.request n)) (by simp [head]) rfl
  cases before with
  | nil => exact asking_of_counted agenda (by simpa using still) declares reads made
  | cons i before =>
      have plain := shield.plain i (by simp)
      have asked : s'.engine.reader.fetchSize = s.engine.reader.fetchSize →
          Asking s' next s.engine.reader.fetchSize.value :=
        asking_of_writing agenda shield still (resumes.made made) recipient served feeds step
          permitted
      cases reads with
      | apart awaited reader other =>
          refine ⟨_, asked (by rw [reader]), .of_apart (by rw [reader]) (fun j tail head => ?_)
            declares⟩
          cases feeding : j.isFeeding with
          | false => rfl
          | true =>
              exact absurd (other j tail head (Instruction.isReaders_of_isFeeding feeding)) made
      | made size unread reader => exact absurd unread made
      | stepped t' a head _ reader agenda' =>
          obtain ⟨rfl, -⟩ := List.cons.inj (agenda.symm.trans head)
          simp [Instruction.isPlain] at plain
      | signalled signal head sort reader agenda' =>
          refine ⟨_, asked (by rw [reader]), .same declares ?_⟩
          rcases sort with ⟨r, rfl, rfl⟩ | ⟨f, rfl, rfl⟩ <;>
            simp [reader, Iteration.queued, head, Instruction.isFeeding, Signal.isRecord]
      | left th head reader agenda' =>
          obtain ⟨rfl, -⟩ := List.cons.inj (agenda.symm.trans head)
          simp [Instruction.isPlain, Guard.isOutside] at plain

end Asked

/-- Whatever is outstanding stays so, unless a record is taken or demand is declared. -/
theorem Asking.step {v : Int} (asking : Asking s cursor v) (recipient : Recipient s cursor)
    (served : Served o h s cursor) (pledged : Pledged o s cursor) (feeds : c.FeedsCalmly)
    (step : Step s m s') (permitted : c.Permits h m) (hnext : s'.engine.cursors = #[next]) :
    ∃ v', Asking s' next v' ∧ Declares s m s' v v' := by
  cases asking with
  | still still => exact asking_of_still still recipient served pledged feeds step permitted
  | asking t request agenda still made outstanding signals =>
      exact asking_of_request t request agenda still made outstanding signals served step
        permitted hnext
  | asked t agenda shield still made =>
      exact asking_of_asked agenda shield still made recipient served feeds step permitted

end Steps

end QueryStream
