/-
  Proofs/Notices.lean --- what the owner of a stream is told.

  The owner is told how the stream ended as soon as it has ended, before anything else
  happens.  That would be all, were it not for successes that had what is left dropped: such
  a response goes on once the request was written, and if the stream was ended in the
  meantime it tells the owner of a success once more, with its own metadata.  So the owner is
  told of the end first, and after that at most once for each such response that was under
  way when the stream ended (`Run.notified`); if none was, it is told exactly once.

  The bookmark of a session and the marks of a transaction go by what the owner is told.
-/
import QueryStream.Proofs.Engine.Household

set_option autoImplicit false

namespace QueryStream

/-! ## What the owner is told -/

/-- What the owner was told in a history, latest first. -/
def notices (h : List Move) : List Ending := h.filterMap Move.notice?

/-- The failure that a move marks a transaction as terminated for. -/
def Move.mark? : Move → Option Failure
  | .answered a _ => (Instruction.ask a).mark?
  | _ => none

/-- The failures that a transaction was marked as terminated for, latest first. -/
def marks (h : List Move) : List Failure := h.filterMap Move.mark?

/-- The metadata of a success that had what is left dropped, if an instruction goes on with
one. -/
def Instruction.deferred? : Instruction → Option Value
  | .stream (.settle .cancelled true metadata) => some metadata
  | _ => none

/-- The metadata of the successes that had what is left dropped and are to go on. -/
def underWay (agenda : List Instruction) : List Value := agenda.filterMap Instruction.deferred?

/-- In a history the stream was ended by a response, while others were under way. -/
def EndedBy (c : Conduct) (start : Situation) (h : List Move) (r : Ending)
    (under : List Value) : Prop :=
  ∃ later m earlier s₁ s₂, h = later ++ m :: earlier ∧ Run c start earlier s₁ ∧
    Step s₁ m s₂ ∧ m.ending? = some r ∧ under = underWay s₁.agenda

/-- Whether an instruction goes on with the end of a stream, tells the owner of it or marks
the transaction; what is left of a success that had more dropped is not among them. -/
def Instruction.isClosing : Instruction → Bool
  | .stream (.settle before more _) => !(before == .cancelled && more)
  | .ownerSucceeded _ => true
  | .ownerFailed _ => true
  | .ask (.terminate _) => true
  | _ => false

/-- What stands in front while the owner is told something, with what it is yet to be told
and what the transaction is yet to be marked for. -/
inductive Address : List Instruction → Option Ending → Option Failure → Prop
  | nothing : Address [] none none
  | line (line : Log.Line) {i : Instruction} {r : Ending} (notice : i.notice? = some r) :
      Address [.ask (.log line), i] (some r) none
  | notice {i : Instruction} {r : Ending} (notice : i.notice? = some r) :
      Address [i] (some r) none
  | markLine (line : Log.Line) (f : Failure) :
      Address [.ask (.log line), .ask (.terminate f)] none (some f)
  | mark (f : Failure) : Address [.ask (.terminate f)] none (some f)

/-- The owner was told nothing yet. -/
structure Unheard (h : List Move) : Prop where
  untold : notices h = []
  unmarked : marks h = []

/-- Where the telling of the owner stands. -/
inductive Heard (c : Conduct) (start : Situation) (h : List Move) (s : Situation) : Prop
  | running (running : s.engine.stream.phase.isTerminal = false)
      (clear : ∀ i ∈ s.agenda, i.isClosing = false) (unended : endings h = [])
      (unheard : Unheard h)
  /-- a batch is over -/
  | resting {metadata : Value} {rest : List Instruction}
      (agenda : s.agenda = .stream (.settle .streaming true metadata) :: rest)
      (ready : s.engine.stream.phase = .ready)
      (clear : ∀ i ∈ rest, i.isClosing = false) (unended : endings h = [])
      (unheard : Unheard h)
  /-- the stream succeeded -/
  | deciding {before : Phase} {more : Bool} {metadata : Value} {rest : List Instruction}
      (agenda : s.agenda = .stream (.settle before more metadata) :: rest)
      (succeeded : s.engine.stream.phase = .succeeded)
      (clear : ∀ i ∈ rest, i.isClosing = false) (ended : endings h = [.success metadata])
      (ending : EndedBy c start h (.success metadata) (underWay rest)) (unheard : Unheard h)
  /-- the owner is told something, or was -/
  | telling {r : Ending} {under : List Value} (front rest : List Instruction)
      (due : Option Ending) (mark : Option Failure) (later : List Value)
      (agenda : s.agenda = front ++ rest)
      (address : Address front due mark)
      (terminal : s.engine.stream.phase.isTerminal = true)
      (clear : ∀ i ∈ rest, i.isClosing = false) (ended : endings h = [r])
      (ending : EndedBy c start h r under)
      (told : due.toList ++ notices h = later.map .success ++ [r])
      (behind : (later.reverse ++ underWay rest).Sublist under)
      (marked : mark.toList ++ marks h = (notices h).filterMap s.engine.owner.mark?) :
      Heard c start h s

section Steps

variable {c : Conduct} {start : Situation} {h : List Move} {s s' : Situation} {m : Move}
  {rest : List Instruction} {r : Ending} {under : List Value}

theorem notices_cons (m : Move) (h : List Move) :
    notices (m :: h) = m.notice?.toList ++ notices h := by
  unfold notices
  cases hm : m.notice? <;> simp [hm]

theorem marks_cons (m : Move) (h : List Move) : marks (m :: h) = m.mark?.toList ++ marks h := by
  unfold marks
  cases hm : m.mark? <;> simp [hm]

theorem underWay_append (first second : List Instruction) :
    underWay (first ++ second) = underWay first ++ underWay second :=
  List.filterMap_append

theorem EndedBy.cons (ending : EndedBy c start h r under) : EndedBy c start (m :: h) r under := by
  obtain ⟨later, n, earlier, s₁, s₂, rfl, run, step, ended⟩ := ending
  exact ⟨m :: later, n, earlier, s₁, s₂, rfl, run, step, ended⟩

namespace Instruction

theorem isClosing_eq_false {i : Instruction} (undriven : i.isDriven = false)
    (unmarked : i.mark? = none) : i.isClosing = false := by
  cases i with
  | stream a => cases a <;> first | rfl | cases undriven
  | ownerSucceeded metadata => cases undriven
  | ownerFailed f => cases undriven
  | ask a => cases a <;> first | rfl | cases unmarked
  | _ => rfl

theorem deferred?_eq_none {i : Instruction} (undriven : i.isDriven = false) :
    i.deferred? = none := by
  cases i with
  | stream a => cases a <;> first | rfl | cases undriven
  | _ => rfl

theorem notice?_eq_none {i : Instruction} (clear : i.isClosing = false) : i.notice? = none := by
  cases i <;> first | rfl | cases clear

theorem mark?_eq_none {i : Instruction} (clear : i.isClosing = false) : i.mark? = none := by
  cases i with
  | ask a => cases a <;> first | rfl | cases clear
  | _ => rfl

end Instruction

/-- With nothing closing in front, the owner is told nothing and nothing is marked. -/
theorem Step.unheard (step : Step s m s')
    (clear : ∀ i rest, s.agenda = i :: rest → i.notice? = none ∧ i.mark? = none) :
    m.notice? = none ∧ m.mark? = none := by
  cases step with
  | carry own => exact ⟨(clear _ _ rfl).1, rfl⟩
  | answer r => exact ⟨rfl, (clear _ _ rfl).2⟩
  | begin next => exact ⟨rfl, rfl⟩
  | call next => exact ⟨rfl, rfl⟩

theorem Step.unheard_of_clear (step : Step s m s')
    (clear : ∀ i ∈ s.agenda, i.isClosing = false) : m.notice? = none ∧ m.mark? = none := by
  refine step.unheard fun i rest head => ?_
  have silent := clear i (by simp [head])
  exact ⟨Instruction.notice?_eq_none silent, Instruction.mark?_eq_none silent⟩

theorem Unheard.cons (unheard : Unheard h) (silent : m.notice? = none ∧ m.mark? = none) :
    Unheard (m :: h) := by
  refine ⟨?_, ?_⟩
  · rw [notices_cons, silent.1, unheard.untold]
    rfl
  · rw [marks_cons, silent.2, unheard.unmarked]
    rfl

/-- A quiet move that tells the owner nothing brings nothing closing about. -/
theorem Quiet.clear (quiet : Quiet s m s') (step : Step s m s') (permitted : c.Permits h m)
    (untold : m.notice? = none) (clear : ∀ i ∈ s.agenda.tail, i.isClosing = false) :
    ∀ i ∈ s'.agenda, i.isClosing = false := by
  intro i hi
  rcases step.mark? permitted untold hi with hi | unmarked
  · exact clear i hi
  · obtain ⟨front, tail, heq, suffix, undriven⟩ := quiet.agenda
    rw [heq] at hi
    rcases List.mem_append.1 hi with hi | hi
    · exact Instruction.isClosing_eq_false (undriven i hi) unmarked
    · exact clear i (suffix.mem hi)

/-- A quiet move has no response under way that was not. -/
theorem Quiet.underWay (quiet : Quiet s m s') :
    (underWay s'.agenda).Sublist (underWay s.agenda.tail) := by
  obtain ⟨front, tail, heq, suffix, undriven⟩ := quiet.agenda
  have idle : QueryStream.underWay front = [] :=
    List.filterMap_eq_nil_iff.2 fun i hi => Instruction.deferred?_eq_none (undriven i hi)
  rw [heq, underWay_append, idle, List.nil_append]
  exact suffix.sublist.filterMap _

/-- What is left of a success, if it is not closing, is of one that had more dropped. -/
theorem eq_of_not_closing {before : Phase} {more : Bool} {metadata : Value}
    (clear : (Instruction.stream (.settle before more metadata)).isClosing = false) :
    before = .cancelled ∧ more = true := by
  simpa [Instruction.isClosing] using clear

theorem StreamStep.clear {a : Stream.Action} {next : Stream} {effects : List Stream.Effect}
    (stream : StreamStep s m s' a rest next effects)
    (clear : ∀ i ∈ s.agenda, i.isClosing = false)
    (plain : ∀ effect ∈ effects, (Instruction.ofStream effect).isClosing = false) :
    ∀ i ∈ s'.agenda, i.isClosing = false := by
  intro i hi
  rw [stream.agenda] at hi
  rcases List.mem_append.1 hi with hi | hi
  · obtain ⟨effect, mem, rfl⟩ := List.mem_map.1 hi
    exact plain effect mem
  · exact clear i (by simp [stream.head, hi])

theorem clear_endEffects {st : Stream} {summary : Summary} {f : Option Failure} :
    ∀ effect ∈ st.endEffects summary f, (Instruction.ofStream effect).isClosing = false ∧
      (Instruction.ofStream effect).deferred? = none := by
  intro effect mem
  cases effect with
  | tellSummary | tellEnd => exact ⟨rfl, rfl⟩
  | _ => simp [Stream.endEffects] at mem

theorem heard_of_running (running : s.engine.stream.phase.isTerminal = false)
    (running' : s'.engine.stream.phase.isTerminal = false)
    (clear : ∀ i ∈ s.agenda, i.isClosing = false) (unended : endings (m :: h) = [])
    (unheard : Unheard (m :: h)) (step : Step s m s') (permitted : c.Permits h m) :
    Heard c start (m :: h) s' := by
  have silent := step.unheard_of_clear clear
  rcases step.stream_or_quiet permitted with ⟨a, rest, next, effects, stream⟩ | ⟨_, quiet⟩
  · have hnext : s'.engine.stream = next := by rw [stream.engine]
    have plain : (∀ effect ∈ effects, (Instruction.ofStream effect).isClosing = false) →
        Heard c start (m :: h) s' :=
      fun plain => .running running' (stream.clear clear plain) unended unheard
    have steps := stream.steps
    rw [hnext] at running'
    cases steps with
    | endBatch present phase field more =>
        have behind : ∀ i ∈ rest, i.isClosing = false :=
          fun i hi => clear i (by simp [stream.head, hi])
        exact .resting stream.agenda (by rw [hnext]) behind unended unheard
    | succeed | lateSuccess | fail | lateFailure => cases running'
    | settleSucceeded line phase => simp [phase, Phase.isTerminal] at running
    | conclude | concludeRefused | concludeFailure =>
        exact plain fun effect mem => (clear_endEffects effect mem).1
    | _ =>
        exact plain (by simp [Stream.pullEffects, Stream.discardEffects, Stream.debug,
          Instruction.ofStream, Instruction.isClosing])
  · exact .running running' (quiet.clear step permitted silent.1 fun i hi =>
      clear i (List.mem_of_mem_tail hi)) unended unheard

theorem heard_of_stops (stops : Stops s s' rest r) (run : Run c start h s)
    (ending : m.ending? = some r) (terminal : s'.engine.stream.phase.isTerminal = true)
    (clear : ∀ i ∈ s.agenda, i.isClosing = false) (ended : endings (m :: h) = [r])
    (unheard : Unheard (m :: h)) (step : Step s m s') : Heard c start (m :: h) s' := by
  have behind : ∀ {i : Instruction}, s.agenda = i :: rest → ∀ j ∈ rest, j.isClosing = false :=
    fun head j hj => clear j (by simp [head, hj])
  have endedBy : EndedBy c start (m :: h) r (underWay s.agenda) :=
    ⟨[], m, h, s, s', rfl, run, step, ending, rfl⟩
  cases stops with
  | success before more present head engine agenda =>
      rw [head] at endedBy
      exact .deciding agenda (by rw [engine]) (behind head) ended endedBy unheard
  | @failure f line present head engine agenda =>
      rw [head] at endedBy
      refine .telling [.ask (.log line), .ownerFailed f] (.stream (.concludeFailure f) :: rest)
        (some (.failure f)) none [] agenda (.line line rfl) terminal ?_ ended endedBy
        (by rw [unheard.untold]; rfl) (List.Sublist.refl _)
        (by rw [unheard.untold, unheard.unmarked]; rfl)
      intro i hi
      rcases List.mem_cons.1 hi with rfl | hi
      · rfl
      · exact behind head i hi

theorem heard_of_resting {metadata : Value}
    (agenda : s.agenda = .stream (.settle .streaming true metadata) :: rest)
    (ready : s.engine.stream.phase = .ready) (clear : ∀ i ∈ rest, i.isClosing = false)
    (unended : endings (m :: h) = []) (unheard : Unheard (m :: h)) (step : Step s m s')
    (permitted : c.Permits h m) : Heard c start (m :: h) s' := by
  obtain ⟨next, effects, stream⟩ :=
    step.exists_stream permitted agenda fun cause => by simp [Stream.step]
  have hnext : s'.engine.stream = next := by rw [stream.engine]
  have goesOn : next.phase.isTerminal = false →
      (∀ effect ∈ effects, (Instruction.ofStream effect).isClosing = false) →
        Heard c start (m :: h) s' := by
    refine fun running plain => .running (by rw [hnext, running]) (fun i hi => ?_) unended unheard
    rw [stream.agenda] at hi
    rcases List.mem_append.1 hi with hi | hi
    · obtain ⟨effect, mem, rfl⟩ := List.mem_map.1 hi
      exact plain effect mem
    · exact clear i hi
  have steps := stream.steps
  cases steps with
  | settleSucceeded line phase => simp [ready] at phase
  | flush line phase positive =>
      exact goesOn rfl (by simp [Stream.pullEffects, Stream.debug, Instruction.ofStream,
        Instruction.isClosing])
  | rest line phase idle =>
      exact goesOn (by simp [ready, Phase.isTerminal])
        (by simp [Instruction.ofStream, Instruction.isClosing])
  | settleOther line succeeded other => exact absurd ready other

theorem heard_of_deciding {before : Phase} {more : Bool} {metadata : Value}
    (agenda : s.agenda = .stream (.settle before more metadata) :: rest)
    (succeeded : s.engine.stream.phase = .succeeded) (clear : ∀ i ∈ rest, i.isClosing = false)
    (ended : endings (m :: h) = [.success metadata])
    (ending : EndedBy c start (m :: h) (.success metadata) (underWay rest))
    (unheard : Unheard (m :: h)) (step : Step s m s') (permitted : c.Permits h m) :
    Heard c start (m :: h) s' := by
  obtain ⟨engine, line, agenda'⟩ := step.of_settle permitted agenda succeeded
  refine .telling [.ask (.log line), .ownerSucceeded metadata]
    (.stream (.conclude metadata) :: rest) (some (.success metadata)) none []
    agenda' (.line line rfl) (by rw [engine, succeeded]; rfl) ?_ ended ending
    (by rw [unheard.untold]; rfl) (List.Sublist.refl _)
    (by rw [unheard.untold, unheard.unmarked]; rfl)
  intro i hi
  rcases List.mem_cons.1 hi with rfl | hi
  · rfl
  · exact clear i hi

theorem heard_of_nothing (later : List Value)
    (terminal : s.engine.stream.phase.isTerminal = true)
    (clear : ∀ i ∈ s.agenda, i.isClosing = false) (ended : endings h = [r])
    (ending : EndedBy c start h r under) (told : notices h = later.map .success ++ [r])
    (behind : (later.reverse ++ underWay s.agenda).Sublist under)
    (marked : marks h = (notices h).filterMap s.engine.owner.mark?) : Heard c start h s :=
  .telling [] s.agenda none none later rfl .nothing terminal clear ended ending told behind marked

/-- After the end a stream goes on to tell its owner something only if a response was under
way. -/
theorem heard_of_told {later : List Value} (clear : ∀ i ∈ s.agenda, i.isClosing = false)
    (terminal : s.engine.stream.phase.isTerminal = true)
    (terminal' : s'.engine.stream.phase.isTerminal = true)
    (ended : endings (m :: h) = [r]) (ending : EndedBy c start (m :: h) r under)
    (told : notices (m :: h) = later.map .success ++ [r])
    (behind : (later.reverse ++ underWay s.agenda).Sublist under)
    (marked : marks (m :: h) = (notices (m :: h)).filterMap s'.engine.owner.mark?)
    (step : Step s m s') (permitted : c.Permits h m) : Heard c start (m :: h) s' := by
  have plain : (∀ i ∈ s'.agenda, i.isClosing = false) →
      (underWay s'.agenda).Sublist (underWay s.agenda) → Heard c start (m :: h) s' :=
    fun clear' under' => heard_of_nothing later terminal' clear' ended ending told
      (((List.Sublist.refl _).append under').trans behind) marked
  rcases step.stream_or_quiet permitted with ⟨a, rest, next, effects, stream⟩ | ⟨_, quiet⟩
  · have goesOn : (∀ effect ∈ effects, (Instruction.ofStream effect).isClosing = false ∧
        (Instruction.ofStream effect).deferred? = none) → Heard c start (m :: h) s' := by
      refine fun quiet => plain (stream.clear clear fun effect mem => (quiet effect mem).1) ?_
      have idle : underWay (effects.map .ofStream) = [] :=
        List.filterMap_eq_nil_iff.2 fun i hi => by
          obtain ⟨effect, mem, rfl⟩ := List.mem_map.1 hi
          exact (quiet effect mem).2
      rw [stream.agenda, stream.head, underWay_append, idle, List.nil_append]
      exact (List.sublist_cons_self _ _).filterMap _
    have steps := stream.steps
    cases steps with
    | @settleSucceeded before more metadata line phase =>
        have hclear := clear (.stream (.settle before more metadata)) (by simp [stream.head])
        obtain ⟨rfl, rfl⟩ := eq_of_not_closing hclear
        refine .telling [.ask (.log line), .ownerSucceeded metadata]
          (.stream (.conclude metadata) :: rest) (some (.success metadata)) none (metadata :: later)
          stream.agenda (.line line rfl) terminal' ?_ ended ending ?_ ?_ marked
        · intro i hi
          rcases List.mem_cons.1 hi with rfl | hi
          · rfl
          · exact clear i (by simp [stream.head, hi])
        · rw [told]
          rfl
        · rw [stream.head] at behind
          rw [List.reverse_cons, List.append_assoc]
          exact behind
    | succeed present running | fail line present running => simp [running] at terminal
    | pull _ _ phase | join _ _ phase | discard _ phase | giveUp _ phase | endBatch _ phase
    | discardAgain _ phase | flush _ phase | rest _ phase =>
        simp [phase, Phase.isTerminal] at terminal
    | deliver line present phase => simp [phase, Phase.isTerminal] at terminal
    | conclude | concludeRefused | concludeFailure =>
        exact goesOn clear_endEffects
    | _ =>
        exact goesOn (by simp [Instruction.ofStream, Instruction.isClosing, Instruction.deferred?])
  · have tail : ∀ i ∈ s.agenda.tail, i.isClosing = false := fun i hi =>
      clear i (List.mem_of_mem_tail hi)
    exact plain (quiet.clear step permitted (step.unheard_of_clear clear).1 tail)
      (quiet.underWay.trans ((List.tail_sublist _).filterMap _))

theorem Step.quiet {i : Instruction} (step : Step s m s') (permitted : c.Permits h m)
    (head : s.agenda = i :: rest) (other : i.isStream = false) : Quiet s m s' := by
  rcases step.stream_or_quiet permitted with ⟨a, rest', next, effects, stream⟩ | ⟨_, quiet⟩
  · rw [stream.head] at head
    cases head
    cases other
  · exact quiet

theorem heard_of_notice {i : Instruction} {r' : Ending} {later : List Value}
    (agenda : s.agenda = i :: rest) (notice : i.notice? = some r')
    (terminal' : s'.engine.stream.phase.isTerminal = true)
    (clear : ∀ i ∈ rest, i.isClosing = false) (ended : endings (m :: h) = [r])
    (ending : EndedBy c start (m :: h) r under)
    (told : r' :: notices h = later.map .success ++ [r])
    (behind : (later.reverse ++ underWay rest).Sublist under)
    (marked : marks h = (notices h).filterMap s.engine.owner.mark?)
    (step : Step s m s') (permitted : c.Permits h m) : Heard c start (m :: h) s' := by
  have own : i.isAsk = false ∧ i.isStream = false := by
    cases i with
    | ownerSucceeded | ownerFailed => exact ⟨rfl, rfl⟩
    | _ => cases notice
  have owner := step.bookmark.1
  have quiet := step.quiet permitted agenda own.2
  obtain ⟨rfl, hs'⟩ := step.exec_of_head agenda own.1
  have told' : notices (.carried i (s.engine.exec i).2 :: h) = r' :: notices h := by
    rw [notices_cons]
    simp [Move.notice?, notice]
  have marked' : marks (.carried i (s.engine.exec i).2 :: h)
      = (notices h).filterMap s'.engine.owner.mark? := by
    rw [marks_cons, owner]
    exact marked
  have agenda' : s'.agenda = (s.engine.exec i).2.onto rest := by rw [hs']
  rcases Engine.exec_notice (e := s.engine) notice with
    ⟨line, f, mark, reply⟩ | ⟨unmarked, releases⟩
  · rw [reply] at agenda'
    refine .telling _ rest none (some f) later agenda' (.markLine line f) terminal' clear ended
      ending (told'.trans told) behind ?_
    rw [told', marked', owner]
    simp [mark]
  · refine heard_of_nothing later terminal' (fun j hj => ?_) ended ending (told'.trans told) ?_ ?_
    · rw [agenda'] at hj
      rcases Reply.mem_onto hj with hj | hj | ⟨g, th, rfl⟩
      · exact clear j hj
      · obtain ⟨id, rfl⟩ := releases j hj
        rfl
      · rfl
    · have tail : s.agenda.tail = rest := by rw [agenda]; rfl
      exact ((List.Sublist.refl _).append (tail ▸ quiet.underWay)).trans behind
    · rw [told', marked', owner]
      simp [unmarked]

/-- What is due is told, or the transaction marked, one after the other. -/
theorem heard_of_telling {front : List Instruction} {due : Option Ending} {mark : Option Failure}
    {later : List Value} (agenda : s.agenda = front ++ rest) (address : Address front due mark)
    (terminal : s.engine.stream.phase.isTerminal = true)
    (terminal' : s'.engine.stream.phase.isTerminal = true)
    (clear : ∀ i ∈ rest, i.isClosing = false) (ended : endings (m :: h) = [r])
    (ending : EndedBy c start (m :: h) r under)
    (told : due.toList ++ notices h = later.map .success ++ [r])
    (behind : (later.reverse ++ underWay rest).Sublist under)
    (marked : mark.toList ++ marks h = (notices h).filterMap s.engine.owner.mark?)
    (step : Step s m s') (permitted : c.Permits h m) : Heard c start (m :: h) s' := by
  have owner := step.bookmark.1
  -- what is due is told before the transaction is marked, and each may have a line before it
  cases address with
  | nothing =>
      obtain rfl : s.agenda = rest := agenda
      have silent := step.unheard_of_clear clear
      refine heard_of_told clear terminal terminal' ended ending ?_ behind ?_ step permitted
      · rw [notices_cons, silent.1]
        exact told
      · rw [notices_cons, marks_cons, silent.1, silent.2, owner]
        exact marked
  | @line line i r notice =>
      obtain ⟨rfl, rfl⟩ := step.of_notice permitted agenda rfl
      exact .telling _ rest _ none later rfl (.notice notice) terminal' clear ended ending told
        behind marked
  | notice notice =>
      exact heard_of_notice agenda notice terminal' clear ended ending told behind marked step
        permitted
  | markLine line f =>
      obtain ⟨rfl, rfl⟩ := step.of_notice permitted agenda rfl
      exact .telling _ rest none (some f) later rfl (.mark f) terminal' clear ended ending told
        behind marked
  | mark f =>
      have quiet := step.quiet permitted agenda rfl
      have heads : m.notice? = none ∧ m.mark? = some f := by
        obtain ⟨e, todo⟩ := s
        obtain rfl : todo = _ := agenda
        cases step with
        | carry own => cases own
        | answer r => exact ⟨rfl, rfl⟩
      have tail : s.agenda.tail = rest := by rw [agenda]; rfl
      refine heard_of_nothing later terminal' ?_ ended ending ?_ ?_ ?_
      · exact quiet.clear step permitted heads.1 (tail ▸ clear)
      · rw [notices_cons, heads.1]
        exact told
      · exact ((List.Sublist.refl _).append (tail ▸ quiet.underWay)).trans behind
      · rw [notices_cons, marks_cons, heads.1, heads.2, owner]
        exact marked

theorem Heard.step (heard : Heard c start h s) (run : Run c start h s) (step : Step s m s')
    (permitted : c.Permits h m) : Heard c start (m :: h) s' := by
  have goesOn : m.ending? = none → endings (m :: h) = endings h := fun none => by
    rw [endings_cons, none]
    rfl
  cases heard with
  | running running clear unended unheard =>
      have unheard' := unheard.cons (step.unheard_of_clear clear)
      rcases step.stops permitted with ⟨none, same⟩ | ⟨r, rest, ending, -, terminal, stops⟩
      · exact heard_of_running running (same.trans running) clear ((goesOn none).trans unended)
          unheard' step permitted
      · have ended : endings (m :: h) = [r] := by
          rw [endings_cons, ending, unended]
          rfl
        exact heard_of_stops stops run ending terminal clear ended unheard' step
  | resting agenda ready clear unended unheard =>
      obtain ⟨rfl, -⟩ := step.exec_of_head agenda rfl
      exact heard_of_resting agenda ready clear
        ((goesOn (Move.ending?_of_response? rfl)).trans unended) (unheard.cons ⟨rfl, rfl⟩)
        step permitted
  | deciding agenda succeeded clear ended ending unheard =>
      obtain ⟨rfl, -⟩ := step.exec_of_head agenda rfl
      exact heard_of_deciding agenda succeeded clear
        ((goesOn (Move.ending?_of_response? rfl)).trans ended) ending.cons
        (unheard.cons ⟨rfl, rfl⟩) step permitted
  | telling front rest due mark later agenda address terminal clear ended ending told behind
      marked =>
      rcases step.stops permitted with ⟨none, same⟩ | ⟨r, rest, -, running, -, -⟩
      · exact heard_of_telling agenda address terminal (same.trans terminal) clear
          ((goesOn none).trans ended) ending.cons told behind marked step permitted
      · simp [terminal] at running

end Steps

/-! ## All runs -/

section Runs

variable {c : Conduct} {e : Engine} {h : List Move} {s : Situation} {r : Ending}

theorem Run.heard (running : e.stream.phase.isTerminal = false) (run : Run c ⟨e, []⟩ h s) :
    Heard c ⟨e, []⟩ h s := by
  induction run with
  | nil => exact .running running (by simp) rfl ⟨rfl, rfl⟩
  | snoc run step permitted ih => exact ih.step run step permitted

/-- The bookmark is what the notices make of it. -/
theorem Run.bookmark {start : Situation} (run : Run c start h s) :
    s.engine.owner = start.engine.owner ∧
      s.engine.bookmark = (notices h).foldr start.engine.owner.noted start.engine.bookmark := by
  induction run with
  | nil => exact ⟨rfl, rfl⟩
  | snoc run step permitted ih =>
      obtain ⟨owner, bookmark⟩ := step.bookmark
      refine ⟨owner.trans ih.1, ?_⟩
      rw [bookmark, ih.1, ih.2, notices_cons, List.foldr_append]

theorem length_endings_le (later : List Move) {m : Move} (ending : m.ending? = some r)
    (earlier : List Move) :
    1 + (endings earlier).length ≤ (endings (later ++ m :: earlier)).length := by
  have split : endings (later ++ m :: earlier) = endings later ++ r :: endings earlier := by
    simp [endings, ending]
  rw [split, List.length_append, List.length_cons]
  omega

/-- Where a stream ended once, the move that ended it is the only one. -/
theorem eq_of_single {r' : Ending} {m m' : Move} {later later' earlier earlier' : List Move}
    (ending : m.ending? = some r) (ending' : m'.ending? = some r')
    (single : (endings (later ++ m :: earlier)).length ≤ 1)
    (same : later ++ m :: earlier = later' ++ m' :: earlier') : m = m' ∧ earlier = earlier' := by
  have apart : ∀ {n n' : Move} {q q' : Ending} {between rest : List Move}, n.ending? = some q →
      n'.ending? = some q' → ¬ (endings (n :: (between ++ n' :: rest))).length ≤ 1 := by
    intro n n' q q' between rest first second
    have two := length_endings_le between second rest
    rw [endings_cons, first, Option.toList_some, List.length_append, List.length_singleton]
    omega
  induction later generalizing later' with
  | nil =>
      cases later' with
      | nil => exact List.cons.inj same
      | cons n later' =>
          obtain ⟨rfl, rfl⟩ := List.cons.inj same
          exact absurd single (apart ending ending')
  | cons n later ih =>
      cases later' with
      | nil =>
          obtain ⟨rfl, -⟩ := List.cons.inj same
          exact absurd single (apart ending' ending)
      | cons n' later' =>
          refine ih (Nat.le_trans ?_ single) (List.cons.inj same).2
          rw [List.cons_append, endings_cons, List.length_append]
          omega

/-- A stream is ended by one response. -/
theorem EndedBy.unique {start : Situation} {r' : Ending} {under under' : List Value}
    (single : (endings h).length ≤ 1) (first : EndedBy c start h r under)
    (second : EndedBy c start h r' under') : r = r' ∧ under = under' := by
  obtain ⟨later, m, earlier, s₁, s₂, rfl, run, step, ended, rfl⟩ := first
  obtain ⟨later', m', earlier', s₁', s₂', heq, run', step', ended', rfl⟩ := second
  obtain ⟨rfl, rfl⟩ := eq_of_single ended ended' single heq
  obtain rfl := run.unique run'
  exact ⟨Option.some.inj (ended.symm.trans ended'), rfl⟩

/-- What the owner of a stream was told in a history, with the bookmark and the marks that
come of it. -/
structure Notified (c : Conduct) (start : Situation) (h : List Move) (s : Situation) : Prop where
  /-- the stream ends once -/
  single : (endings h).length ≤ 1
  /-- before that the owner is told nothing -/
  before : endings h = [] → notices h = []
  /-- the owner is told of the end first, and after that at most once for each response that
  was under way when the stream ended -/
  after : ∀ r, endings h = [r] → ∃ under, EndedBy c start h r under ∧ (notices h = [] ∨
    ∃ later : List Value, notices h = later.map .success ++ [r] ∧ later.reverse.Sublist under)
  /-- if none was, the owner is told of the end and of nothing else -/
  once : ∀ r, EndedBy c start h r [] → notices h = [] ∨ notices h = [r]
  /-- with nothing left to do, it was told -/
  told : s.agenda = [] → notices h = [] → endings h = []
  bookmark : s.engine.bookmark
    = (notices h).foldr start.engine.owner.noted start.engine.bookmark
  /-- a transaction is marked at most once, for the failure that ended the stream -/
  marked : marks h = [] ∨ ∃ f, marks h = [f] ∧ endings h = [.failure f]

/-- Only a failure that the owner is told has the transaction marked. -/
theorem filterMap_mark? (owner : Owner) (later : List Value) (r : Ending) :
    (later.map Ending.success ++ [r]).filterMap owner.mark? = (owner.mark? r).toList := by
  have none : (later.map Ending.success).filterMap owner.mark? = [] := by
    refine List.filterMap_eq_nil_iff.2 fun q hq => ?_
    obtain ⟨metadata, _, rfl⟩ := List.mem_map.1 hq
    cases owner <;> rfl
  rw [List.filterMap_append, none, List.nil_append]
  cases h : owner.mark? r <;> simp [h]

theorem Owner.eq_of_mark? {owner : Owner} {f : Failure} (mark : owner.mark? r = some f) :
    r = .failure f := by
  cases owner with
  | session release => cases r <;> cases mark
  | transaction =>
      cases r with
      | success metadata => cases mark
      | failure g => rw [Option.some.inj mark]

/-- The owner was told nothing, the end being due, or it was told of the end and of some of
the others. -/
theorem notices_of_told {due : Option Ending} {later : List Value}
    (told : due.toList ++ notices h = later.map .success ++ [r]) :
    (notices h = [] ∧ due = some r) ∨
      ∃ done : List Value, notices h = done.map .success ++ [r] ∧ done.Sublist later := by
  cases due with
  | none => exact .inr ⟨later, told, List.Sublist.refl _⟩
  | some q =>
      cases later with
      | nil =>
          obtain ⟨rfl, rest⟩ := List.cons.inj told
          exact .inl ⟨rest, rfl⟩
      | cons metadata later =>
          exact .inr ⟨later, (List.cons.inj told).2, List.sublist_cons_self _ _⟩

/-- A stream tells its owner of its end once, unless responses that had more dropped were
under way: each of those may tell it of a success once more. -/
theorem Run.notified (running : e.stream.phase.isTerminal = false)
    (run : Run c ⟨e, []⟩ h s) : Notified c ⟨e, []⟩ h s := by
  have bookmark := run.bookmark
  cases run.heard running with
  | running _ _ unended unheard | resting _ _ _ unended unheard =>
      exact ⟨by simp [unended], fun _ => unheard.untold, by simp [unended],
        fun r _ => .inl unheard.untold, fun _ _ => unended, bookmark.2, .inl unheard.unmarked⟩
  | deciding agenda succeeded clear ended ending unheard =>
      refine ⟨by simp [ended], by simp [ended], fun r single => ?_, fun r _ => .inl unheard.untold,
        by simp [agenda], bookmark.2, .inl unheard.unmarked⟩
      obtain rfl : _ = r := by simpa [ended] using single
      exact ⟨_, ending, .inl unheard.untold⟩
  | @telling r under front rest due mark later agenda address terminal clear ended ending told
      behind marked =>
      have single : (endings h).length ≤ 1 := by simp [ended]
      have heard := notices_of_told told
      refine ⟨single, by simp [ended], fun r' single => ?_, fun r' alone => ?_,
        fun idle untold => ?_, bookmark.2, ?_⟩
      · obtain rfl : r = r' := by simpa [ended] using single
        refine ⟨under, ending, heard.imp And.left ?_⟩
        rintro ⟨done, heard, most⟩
        exact ⟨done, heard, most.reverse.trans ((List.sublist_append_left _ _).trans behind)⟩
      · obtain ⟨rfl, rfl⟩ := ending.unique single alone
        refine heard.imp And.left ?_
        rintro ⟨done, heard, most⟩
        have none : later = [] := by simpa using (List.sublist_append_left _ _).trans behind
        rw [none] at most
        simp [heard, List.sublist_nil.1 most]
      · obtain ⟨-, rfl⟩ := heard.resolve_right (by simp [untold])
        cases address with
        | line | notice => simp [idle] at agenda
      · have marks_eq : mark.toList ++ marks h = [] ∨
            mark.toList ++ marks h = (s.engine.owner.mark? r).toList := by
          rw [marked]
          rcases heard with ⟨untold, -⟩ | ⟨done, heard, -⟩
          · exact .inl (by rw [untold]; rfl)
          · exact .inr (by rw [heard, filterMap_mark?])
        -- a mark that is due is one that was not made yet
        have fewer : (marks h).Sublist (s.engine.owner.mark? r).toList := by
          rcases marks_eq with none | all
          · simp [(List.append_eq_nil_iff.1 none).2]
          · rw [← all]
            exact List.sublist_append_right _ _
        cases owner : s.engine.owner.mark? r with
        | none =>
            rw [owner] at fewer
            exact .inl (List.sublist_nil.1 fewer)
        | some f =>
            rw [owner] at fewer
            rcases List.sublist_cons_iff.1 fewer with none | ⟨rest, one, none⟩
            · exact .inl (List.sublist_nil.1 none)
            · obtain rfl := List.sublist_nil.1 none
              exact .inr ⟨f, one, ended.trans (by rw [Owner.eq_of_mark? owner])⟩

/-- The metadata of a batch behind which there are more records. -/
def oldBookmark : Value := .map [(.text "has_more", .bool true), (.text "bookmark", .text "old")]

/-- The metadata of a response behind which there is nothing. -/
def newBookmark : Value := .map [(.text "bookmark", .text "new")]

/-- Calls that give up while a batch is under way, which then ends. -/
def givenUpBatch : List Instruction :=
  [.stream (.installRecord (.client 0 "records")),
    .stream (.installSummary (.client 1 "summary")), .stream (.request 1), .stream .cancel,
    .stream (.succeed oldBookmark)]

/-- An engine over a stream that a session owns. -/
def sessionEngine : Engine :=
  .overStream ⟨.text "", .null⟩ ⟨.null, .null, .null⟩ (.int 0) (.session 0) .pending
    (some .ofNothing)

/-- Where giving up leads until what is left is to be dropped, with its history. -/
def droppingPoint : List Move × Situation :=
  Situation.advances 10 ([.called givenUpBatch], ⟨sessionEngine, givenUpBatch⟩)

/-- What the connection does while the request to drop what is left is written. -/
def promptAnswer : List Instruction := [.stream (.succeed newBookmark)]

/-- Where that leads, with its history. -/
def promptAnswerPoint : List Move × Situation :=
  Situation.advances 40
    (.answered (.write (.discardAll (-1))) (.go promptAnswer) :: droppingPoint.1,
      ⟨droppingPoint.2.engine, promptAnswer ++ droppingPoint.2.agenda.tail⟩)

theorem notified_promptAnswer :
    Notified .any ⟨sessionEngine, []⟩ promptAnswerPoint.1 promptAnswerPoint.2 ∧
      promptAnswerPoint.2.agenda = [] ∧ endings promptAnswerPoint.1 = [.success newBookmark] ∧
      notices promptAnswerPoint.1 = [.success oldBookmark, .success newBookmark] ∧
      promptAnswerPoint.2.engine.bookmark = .text "old" := by
  have made : ∀ i ∈ givenUpBatch, Conduct.any.Calls i := by
    intro i hi
    simp only [givenUpBatch, List.mem_cons, List.not_mem_nil, or_false] at hi
    rcases hi with rfl | rfl | rfl | rfl | rfl <;> exact ⟨rfl, fun h => h⟩
  have answered : ∀ i ∈ promptAnswer, Conduct.any.Calls i := by
    intro i hi
    rw [List.mem_singleton.1 hi]
    exact ⟨rfl, fun h => h⟩
  have keeps : ∀ h, Conduct.any.KeepsAll h := Conduct.keepsAll_of_forall fun _ _ => trivial
  have begun : Run .any ⟨sessionEngine, []⟩ [.called givenUpBatch] ⟨sessionEngine, givenUpBatch⟩ :=
    Run.nil.call rfl made trivial
  have dropping : Run .any ⟨sessionEngine, []⟩ droppingPoint.1 droppingPoint.2 :=
    begun.advances_to 10 rfl (keeps _)
  have head : droppingPoint.2.agenda
      = .ask (.write (.discardAll (-1))) :: droppingPoint.2.agenda.tail := rfl
  have prompt := dropping.answer head rfl answered (fun tame => tame.elim) trivial
  have run : Run .any ⟨sessionEngine, []⟩ promptAnswerPoint.1 promptAnswerPoint.2 :=
    prompt.advances_to 40 rfl (keeps _)
  exact ⟨run.notified rfl, rfl, rfl, rfl, rfl⟩

end Runs

end QueryStream
