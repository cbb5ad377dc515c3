/-
  Proofs/Backpressure/Records.lean --- the records that wait to be read.

  A row is delivered only while the stream streams, and then a pull was the last request
  (`Pulling`).  So the records that an iteration was told of, those that it handed out and those
  that wait in it, come to no more than the rows that answered pulls (`Stocked`).  What the rows
  that answer pulls come to is the server's to say: if it never sends more of them than a pull
  asks for, they come to no more than all pulls together (`pulledRows_le`).
-/
import Mathlib.Algebra.Ring.Int.Defs
import QueryStream.Proofs.Backpressure.Requests
import QueryStream.Proofs.Reading.Account

set_option autoImplicit false

namespace QueryStream

/-! ## Rows that answer pulls -/

/-- Whether the last request that was written is a pull. -/
def pullsLast (h : List Move) : Bool :=
  match lastRequest h with
  | some (.pull _ _) => true
  | _ => false

/-- How many rows were sent that answer a pull. -/
def pulledRows : List Move → Nat
  | [] => 0
  | m :: h => pulledRows h + if m.isRow && pullsLast h then 1 else 0

/-- Whether a move is none of a server that sends more rows than a pull asks for. -/
def Move.isSparing (h : List Move) (m : Move) : Bool :=
  !m.isRow || match lastRequest h with
    | some (.pull n _) => decide (sentRows h < n)
    | _ => true

/-- Whether the server never sends more rows than a pull asks for. -/
def allSparing : List Move → Bool
  | [] => true
  | m :: h => m.isSparing h && allSparing h

section History

variable {h : List Move} {m : Move}

/-- A request that is written is the last one, and no row was sent since. -/
theorem Move.exists_of_isWrite (write : m.isWrite = true) :
    ∃ request r, m = .answered (.write request) r := by
  unfold Move.isWrite at write
  split at write
  · exact ⟨_, _, rfl⟩
  · cases write

theorem pullsLast_cons (write : m.isWrite = false) : pullsLast (m :: h) = pullsLast h := by
  simp only [pullsLast, lastRequest_cons h write]

/-- The rows that answer pulls come to no more than the pulls, less what is left of the last
one. -/
theorem pulledRows_le (sparing : allSparing h = true) (written : ∀ n ∈ pulls h, 1 ≤ n) :
    pulledRows h ≤ (pulls h).sum ∧ ∀ n query, lastRequest h = some (.pull n query) →
      sentRows h ≤ n ∧ pulledRows h + (n - sentRows h) ≤ (pulls h).sum := by
  induction h with
  | nil => exact ⟨Int.le_refl 0, fun n query last => by cases last⟩
  | cons m h ih =>
      obtain ⟨spares, sparing⟩ := Bool.and_eq_true_iff.1 sparing
      obtain ⟨within, left⟩ :=
        ih sparing fun n mem => written n (by
          cases asked : m.pull? <;> simp [pulls, asked] at mem ⊢ <;> simp [mem])
      cases write : m.isWrite with
      | true =>
          obtain ⟨request, r, rfl⟩ := Move.exists_of_isWrite write
          have rows : pulledRows (.answered (.write request) r :: h) = pulledRows h := rfl
          cases request with
          | pull n query =>
              have one : 1 ≤ n := written n (by simp [pulls, Move.pull?])
              have sum : (pulls (.answered (.write (.pull n query)) r :: h)).sum
                  = n + (pulls h).sum := by simp [pulls, Move.pull?]
              rw [rows, sum]
              refine ⟨by omega, fun n' query' last => ?_⟩
              obtain ⟨rfl, -⟩ := Message.pull.inj (Option.some.inj last)
              simp only [sentRows]
              omega
          | _ => exact ⟨rows ▸ within, fun n query last => by cases last⟩
      | false =>
          have sum : pulls (m :: h) = pulls h := by
            have none : m.pull? = none := by
              cases m with
              | answered a r => cases a <;> first | rfl | cases write
              | _ => rfl
            simp [pulls, none]
          rw [sum, lastRequest_cons h write, sentRows_cons h write]
          have counts : (pulledRows (m :: h) : Int)
              = pulledRows h + if m.isRow && pullsLast h then 1 else 0 := by
            simp only [pulledRows]
            split <;> simp
          rw [counts]
          cases row : m.isRow with
          | false => simpa using And.intro within left
          | true =>
              cases last : lastRequest h with
              | none => simpa [pullsLast, last] using within
              | some request =>
                  cases request with
                  | pull n query =>
                      -- a row comes while the last pull has room for it, which is what it takes up
                      have room : sentRows h < n := by
                        simpa [Move.isSparing, row, last] using spares
                      obtain ⟨most, total⟩ := left n query last
                      simp only [pullsLast, last, Bool.and_self, if_true]
                      refine ⟨by omega, fun n' query' same => ?_⟩
                      obtain ⟨rfl, -⟩ := Message.pull.inj (Option.some.inj same)
                      omega
                  | _ => simpa [pullsLast, last] using within

end History

/-! ## While the stream streams -/

/-- While the stream streams, a pull is about to be written or was the last request. -/
def Pulling (h : List Move) (s : Situation) : Prop :=
  s.engine.stream.phase = .streaming →
    (∀ i ∈ s.agenda, i.isWrite = true → ∃ n query, i = .ask (.write (.pull n query))) ∧
      (writes s.agenda = 0 → pullsLast h = true)

section Streaming

variable {c : Conduct} {h : List Move} {s s' : Situation} {m : Move} {k : IterationId}
  {it it' : Iteration} {rest : List Instruction} {t : TaskId}

/-- A step that leaves the stream streaming writes nothing but a pull, and found it streaming if
it writes nothing. -/
theorem Stream.Steps.pulls {x : Stream.Surroundings} {st st' : Stream} {a : Stream.Action}
    {effects : List Stream.Effect} (steps : Stream.Steps x st a st' effects)
    (streaming : st'.phase = .streaming) :
    (∀ i ∈ effects.map Instruction.ofStream, i.isWrite = true →
        ∃ n query, i = .ask (.write (.pull n query))) ∧
      (writes (effects.map .ofStream) = 0 → st.phase = .streaming) := by
  have calm : ∀ {effects : List Effect}, st.phase = .streaming →
      (∀ effect ∈ effects, (Instruction.ofStream effect).isWrite = false) →
      (∀ i ∈ effects.map Instruction.ofStream, i.isWrite = true →
        ∃ n query, i = .ask (.write (.pull n query))) ∧
      (writes (effects.map .ofStream) = 0 → st.phase = .streaming) := by
    intro effects phase quiet
    refine ⟨fun i mem write => ?_, fun _ => phase⟩
    obtain ⟨effect, among, rfl⟩ := List.mem_map.1 mem
    rw [quiet effect among] at write
    cases write
  cases steps with
  | pull present demand phase =>
      simp [pullEffects, Stream.debug, Instruction.ofStream, Instruction.isWrite, writes]
  | flush line phase positive =>
      simp [pullEffects, Stream.debug, Instruction.ofStream, Instruction.isWrite, writes]
  | discard | giveUp | lateSuccess | endBatch | succeed | lateFailure | fail => cases streaming
  | discardAgain present phase => cases phase.symm.trans streaming
  | announce => exact calm streaming (st.forall_announcement fun _ => rfl)
  | conclude | concludeRefused | concludeFailure =>
      exact calm streaming (st.forall_endEffects (fun _ => rfl) fun _ => rfl)
  | _ => exact calm streaming (by simp [Instruction.ofStream, Instruction.isWrite])

/-- What the stream has to write is written before it takes a step. -/
theorem Poised.writes_of_head {a : Stream.Action} (poised : Poised s)
    (running : s.engine.stream.phase.isTerminal = false) (head : s.agenda = .stream a :: rest) :
    writes s.agenda = 0 ∧ writes rest = 0 := by
  have cold := (poised.open_of_running running).cold head rfl
  have none := writes_eq_zero fun j mem => isWrite_of_isHot (cold j mem)
  exact ⟨by rw [head, writes_cons_of_not rfl, none], none⟩

theorem Pulling.step (pulling : Pulling h s) (poised : Poised s) (step : Step s m s')
    (permitted : c.Permits h m) : Pulling (m :: h) s' := by
  intro streaming
  rcases step.stream_or_quiet permitted with ⟨a, rest, after, effects, stream⟩ | ⟨other, quiet⟩
  · have running : s.engine.stream.phase.isTerminal = false := by
      cases terminal : s.engine.stream.phase.isTerminal with
      | false => rfl
      | true =>
          -- a stream that is over does not come to stream again
          have ended := step.terminal permitted terminal
          rw [streaming] at ended
          cases ended
    obtain ⟨unwritten, cold⟩ := poised.writes_of_head running stream.head
    have write := stream.isWrite
    rw [stream.engine] at streaming
    obtain ⟨due, none⟩ := stream.steps.pulls streaming
    refine ⟨fun i mem writes => ?_, fun none' => ?_⟩
    · rw [stream.agenda] at mem
      rcases List.mem_append.1 mem with mem | mem
      · exact due i mem writes
      · have quiet := (poised.open_of_running running).cold stream.head rfl i mem
        rw [isWrite_of_isHot quiet] at writes
        cases writes
    · have all : writes s'.agenda = writes (effects.map .ofStream) + writes rest := by
        simp [stream.agenda, writes]
      have before := none (by omega)
      rw [pullsLast_cons write]
      exact (pulling before).2 unwritten
  · rw [quiet.stream] at streaming
    obtain ⟨due, last⟩ := pulling streaming
    obtain ⟨front, tail, agenda, kept, undriven⟩ := quiet.agenda
    refine ⟨fun i mem writes => ?_, fun none => ?_⟩
    · rw [agenda] at mem
      rcases List.mem_append.1 mem with mem | mem
      · rw [isWrite_of_isHot (Instruction.isHot_eq_false (undriven i mem))] at writes
        cases writes
      · exact due i (List.mem_of_mem_tail (kept.mem mem)) writes
    · have count := writes_quiet poised.first step quiet
      cases write : m.isWrite with
      | false =>
          rw [pullsLast_cons write]
          rw [write, none] at count
          exact last count.symm
      | true =>
          obtain ⟨request, r, rfl⟩ := Move.exists_of_isWrite write
          obtain ⟨e, agenda⟩ := s
          cases step with
          | answer =>
              obtain ⟨n, query, same⟩ := due _ (List.mem_cons_self ..) rfl
              cases same
              rfl

/-! ## What an iteration was told of -/

/-- Whether an instruction tells an iteration of a record. -/
def Instruction.tells (k : IterationId) : Instruction → Bool
  | .tellRecord (.feed j) _ => j == k
  | _ => false

/-- How many records wait in an iteration, if it is there. -/
def Engine.unread (e : Engine) (k : IterationId) : Int :=
  (e.iterations[k]?).elim 0 Iteration.queued

/-- The records that an iteration was told of, is told of and will be come to no more than the
rows that answered pulls. -/
structure Stocked (k : IterationId) (h : List Move) (s : Situation) : Prop where
  told : s.engine.unread k + recordsRead k h + s.agenda.countP (Instruction.tells k) ≤ pulledRows h
  pulling : Pulling h s

theorem Step.queued_of_stepped {a : Iteration.Action} (step : Step s m s')
    (head : s.agenda = .iteration k t a :: rest) (found : s.engine.iterations[k]? = some it) :
    (it.step a).1.queued + (if m.handsRecord k then 1 else 0) = it.queued := by
  obtain ⟨rfl, -⟩ := step.exec_of_head head rfl
  rw [Engine.exec_iteration a found]
  cases a with
  | advance | close =>
      simp only [Iteration.step]
      split <;> simp [Iteration.queued, Move.handsRecord]
  | fetch =>
      simp only [Iteration.step]
      split <;> simp [Iteration.queued, Move.handsRecord]
  | requested => simp [Iteration.step, Iteration.queued, Move.handsRecord]
  | take =>
      cases signals : it.signals with
      | nil =>
          simp [Iteration.step, signals, Iteration.queued, Move.handsRecord,
            Instruction.ofIteration, Instruction.isYield, Reply.next]
      | cons signal signals' =>
          cases signal with
          | record r =>
              simp [Iteration.step, signals, Iteration.queued, Move.handsRecord, List.countP_cons,
                Instruction.ofIteration, Instruction.isYield, Reply.next, Signal.isRecord]
          | finish g =>
              cases g <;> simp [Iteration.step, signals, Iteration.queued, Move.handsRecord,
                Instruction.ofIteration, Instruction.isYield, Reply.next, Signal.isRecord]

/-- What waits in an iteration grows by what it is told of and shrinks by what it hands out. -/
theorem Step.unread (step : Step s m s') :
    s'.engine.unread k + (if m.handsRecord k then 1 else 0) ≤
      s.engine.unread k + if s.agenda.head?.any (Instruction.tells k) then 1 else 0 := by
  cases found : s.engine.iterations[k]? with
  | none =>
      have nothing : s'.engine.unread k = 0 := by
        cases made : s'.engine.iterations[k]? with
        | none => simp [Engine.unread, made]
        | some it =>
            obtain ⟨id, size, rfl⟩ := step.made found made
            simp [Engine.unread, made, Iteration.ofCursor, Iteration.queued]
      have hands := (step.uncounted_of_none found).2
      have before : s.engine.unread k = 0 := by simp [Engine.unread, found]
      simp only [nothing, hands, before, Bool.false_eq_true, if_false]
      split <;> omega
  | some it =>
      obtain ⟨it', found', tended⟩ := step.tended found
      have before : s.engine.unread k = it.queued := by simp [Engine.unread, found]
      have after : s'.engine.unread k = it'.queued := by simp [Engine.unread, found']
      rw [before, after]
      cases tended with
      | apart awaited other =>
          have hands := (step.uncounted (k := k) fun t a rest head => by
            simp [head, Instruction.tends] at other).2
          simp only [hands, Iteration.queued, Bool.false_eq_true, if_false]
          split <;> omega
      | stepped head =>
          rw [step.queued_of_stepped head found]
          split <;> omega
      | record head =>
          have hands := (step.uncounted (k := k) (by simp [head])).2
          simp [hands, head, Instruction.tells, Iteration.queued, Signal.isRecord]
      | ended head =>
          have hands := (step.uncounted (k := k) (by simp [head])).2
          simp [hands, head, Instruction.tells, Iteration.queued, Signal.isRecord]
      | left head =>
          have hands := (step.uncounted (k := k) (by simp [head])).2
          obtain ⟨awaited, after⟩ := it.exists_leave
          simp [hands, head, Instruction.tells, Iteration.queued, after]

theorem Stream.Steps.tells_le {x : Stream.Surroundings} {st st' : Stream} {a : Stream.Action}
    {effects : List Stream.Effect} (steps : Stream.Steps x st a st' effects) :
    (∀ i ∈ effects.map Instruction.ofStream, i.tells k = false) ∨
      st.phase = .streaming ∧ (∃ fields, a = .deliver fields) ∧
        (effects.map Instruction.ofStream).countP (Instruction.tells k) ≤ 1 := by
  cases steps with
  | @deliver fields rc r line present phase consumer made =>
      refine .inr ⟨phase, ⟨_, rfl⟩, ?_⟩
      cases rc <;> simp [Instruction.ofStream, Instruction.tells, List.countP_cons]
      split <;> simp
  | announce => exact .inl (List.forall_mem_map.2 (st.forall_announcement fun _ => rfl))
  | conclude | concludeRefused | concludeFailure =>
      exact .inl (List.forall_mem_map.2 (st.forall_endEffects (fun _ => rfl) fun _ => rfl))
  | _ =>
      exact .inl (by simp [Instruction.ofStream, Instruction.tells, pullEffects, discardEffects,
        Stream.debug])

theorem Pulling.tells_le (pulling : Pulling h s) (poised : Poised s) (step : Step s m s')
    (permitted : c.Permits h m) : s'.agenda.countP (Instruction.tells k) ≤
      s.agenda.tail.countP (Instruction.tells k) + if m.isRow && pullsLast h then 1 else 0 := by
  rcases step.stream_or_quiet permitted with ⟨a, rest, after, effects, stream⟩ | ⟨other, quiet⟩
  · rw [stream.agenda, stream.head, List.tail_cons, List.countP_append]
    rcases stream.steps.tells_le (k := k) with none | ⟨streaming, ⟨fields, rfl⟩, one⟩
    · have nothing : (effects.map Instruction.ofStream).countP (Instruction.tells k) = 0 :=
        List.countP_eq_zero.2 fun i mem => by simp [none i mem]
      omega
    · obtain ⟨unwritten, -⟩ :=
        poised.writes_of_head (by rw [streaming]; rfl) stream.head
      have row : m.isRow = true := by rw [stream.move]; rfl
      rw [row, (pulling streaming).2 unwritten]
      simp only [Bool.and_self, if_true]
      omega
  · obtain ⟨front, tail, agenda, kept, undriven⟩ := quiet.agenda
    have nothing : front.countP (Instruction.tells k) = 0 := by
      refine List.countP_eq_zero.2 fun i mem => ?_
      have cold := undriven i mem
      cases i with
      | tellRecord rc r => cases cold
      | _ => simp [Instruction.tells]
    have fewer := kept.sublist.countP_le (p := Instruction.tells k)
    rw [agenda, List.countP_append]
    omega

theorem Stocked.step (stocked : Stocked k h s) (poised : Poised s) (step : Step s m s')
    (permitted : c.Permits h m) : Stocked k (m :: h) s' := by
  refine ⟨?_, stocked.pulling.step poised step permitted⟩
  have told := stocked.told
  have unread := step.unread (k := k)
  have brought := stocked.pulling.tells_le (k := k) poised step permitted
  have agenda : s.agenda.countP (Instruction.tells k)
      = s.agenda.tail.countP (Instruction.tells k)
        + if s.agenda.head?.any (Instruction.tells k) then 1 else 0 := by
    cases s.agenda with
    | nil => rfl
    | cons i rest => exact List.countP_cons
  rw [recordsRead_cons]
  simp only [pulledRows]
  generalize (m.isRow && pullsLast h) = answers at brought ⊢
  generalize s.agenda.head?.any (Instruction.tells k) = tells at unread agenda
  generalize m.handsRecord k = hands at unread ⊢
  cases answers <;> cases tells <;> cases hands <;>
    simp only [Bool.false_eq_true, if_true, if_false] at unread brought agenda ⊢ <;> omega

end Streaming

end QueryStream
