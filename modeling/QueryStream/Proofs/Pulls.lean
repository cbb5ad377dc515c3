/-
  Proofs/Pulls.lean --- how many records are asked for.

  A stream asks for what was demanded: a pull asks for all of the records if all of them, or more
  than the greatest demand, were demanded since the pull before it, and otherwise for the sum, up
  to the greatest demand.  So it never asks for what is no demand, and the order in which demand
  was declared makes no difference; a stream at rest has nothing pending; and what is no demand is
  refused and leaves no trace (`Run.pullsDemand`).

  Demand is kept as one number that stands for two things.  What carries the proof is that it
  stands, at every move, for just what was accepted since the last pull (`Tally`), until that is
  about to be written.
-/
import Mathlib.Algebra.Ring.Int.Defs
import QueryStream.Proofs.Rows

set_option autoImplicit false

namespace QueryStream

/-! ## What was declared -/

/-- Whether an instruction asks the server for records. -/
def Instruction.isPull : Instruction → Bool
  | .ask (.write (.pull _ _)) => true
  | _ => false

/-- Whether a move asks the server for records. -/
def Move.isPull : Move → Bool
  | .answered (.write (.pull _ _)) _ => true
  | _ => false

/-- The demand that a move declares, as it was put. -/
def Move.declared? : Move → Option Int
  | .carried (.stream (.request n)) (.go _) => some n
  | _ => none

/-- The demand that was accepted since the last pull, latest first: what was declared before the
stream was given up or ended. -/
def declaredSince : List Move → List Int
  | [] => []
  | m :: h =>
      if m.isPull then []
      else if gaveUp h || !(endings h).isEmpty then declaredSince h
      else m.declared?.toList ++ declaredSince h

/-- Whether an integer asks for all of the records. -/
def asksAll (n : Int) : Bool := n = unlimited ∨ maxDemand < n

/-- What a pull asks for after such demand was declared. -/
def pullSize (ns : List Int) : Int :=
  if ns.any asksAll then unlimited else min ns.sum maxDemand

/-- What was demanded in a history is what was asked for. -/
structure PullsDemand (h : List Move) (s : Situation) : Prop where
  /-- demand is accepted while the stream is ready or a batch is under way -/
  accepts : s.engine.stream.phase = .ready ∨ s.engine.stream.phase = .streaming ↔
    gaveUp h = false ∧ endings h = []
  /-- a pull asks for what was declared since the one before, in whatever order -/
  pulls : ∀ later earlier n query r,
    h = later ++ .answered (.write (.pull n query)) r :: earlier →
      declaredSince earlier ≠ [] ∧ ∀ ns, ns.Perm (declaredSince earlier) → n = pullSize ns
  /-- so it asks for all of the records, or for as many as can be asked for -/
  bounded : ∀ later earlier n query r,
    h = later ++ .answered (.write (.pull n query)) r :: earlier →
      n = unlimited ∨ 1 ≤ n ∧ n ≤ maxDemand
  /-- a stream that is ready has nothing pending, unless it is just about to ask for it -/
  rests : s.engine.stream.phase = .ready → s.engine.stream.pending = .zero ∨
    ∃ before more metadata rest, s.agenda = .stream (.settle before more metadata) :: rest
  /-- what is no demand is refused, and nothing changes -/
  refuses : ∀ n r s', n ≤ 0 → n ≠ unlimited → Step s (.carried (.stream (.request n)) r) s' →
    (∃ cause : Cause, r = .raise (.arising cause) ∧ cause.kind = .protocol) ∧
      s'.engine = s.engine

/-! ## Demand as a number -/

section Sizes

variable {n : Int} {d p : Demand} {ns : List Int}

/-- Whether an integer stands for a demand. -/
def IsDemand (n : Int) : Prop := n = unlimited ∨ 0 < n

theorem isDemand_of_ofInt? (demand : Demand.ofInt? n = some d) : IsDemand n := by
  have some : ¬ (n ≤ 0 ∧ n ≠ unlimited) := by
    rw [← Demand.ofInt?_eq_none_iff, demand]
    simp
  unfold IsDemand
  omega

theorem pullSize_nil : pullSize [] = 0 := by decide

theorem pullSize_perm {ns' : List Int} (perm : ns'.Perm ns) : pullSize ns' = pullSize ns := by
  have sum : ns'.sum = ns.sum := perm.foldr_eq' (fun x _ y _ z => by omega) 0
  unfold pullSize
  rw [sum, perm.any_eq]

theorem length_le_sum (each : ∀ n ∈ ns, 0 < n) : (ns.length : Int) ≤ ns.sum := by
  induction ns with
  | nil => simp
  | cons n ns ih =>
      have first := each n (by simp)
      have rest := ih fun n mem => each n (by simp [mem])
      simp only [List.length_cons, List.sum_cons]
      omega

/-- Demand declared so far asks for all of the records, or adds up. -/
theorem pullSize_cases (valid : ∀ n ∈ ns, IsDemand n) :
    ns.any asksAll = true ∧ pullSize ns = unlimited ∨
      ns.any asksAll = false ∧ pullSize ns = min ns.sum maxDemand ∧
        (ns.length : Int) ≤ ns.sum := by
  cases all : ns.any asksAll with
  | true => exact .inl ⟨rfl, by rw [pullSize, all]; rfl⟩
  | false =>
      refine .inr ⟨rfl, by rw [pullSize, all]; rfl, length_le_sum fun n mem => ?_⟩
      have finite : asksAll n = false := by simpa using List.any_eq_false.1 all n mem
      rcases valid n mem with rfl | positive
      · simp [asksAll] at finite
      · exact positive

/-- What a pull asks for can be asked for. -/
theorem pullSize_bounds (valid : ∀ n ∈ ns, IsDemand n) (some : ns ≠ []) :
    pullSize ns = unlimited ∨ 1 ≤ pullSize ns ∧ pullSize ns ≤ maxDemand := by
  rcases pullSize_cases valid with ⟨-, all⟩ | ⟨-, size, total⟩
  · exact .inl all
  · have := List.length_pos_iff.2 some
    rw [size]
    unfold maxDemand
    omega

theorem eq_nil_of_pullSize (valid : ∀ n ∈ ns, IsDemand n) (none : pullSize ns = 0) : ns = [] := by
  refine Classical.byContradiction fun some => ?_
  have := pullSize_bounds valid some
  unfold unlimited at this
  omega

theorem ne_nil_of_isPositive (size : d.toInt = pullSize ns) (positive : d.isPositive = true) :
    ns ≠ [] := by
  rintro rfl
  rw [pullSize_nil] at size
  cases d with
  | all => simp [Demand.toInt, unlimited] at size
  | records k =>
      obtain rfl : k = 0 := Int.natCast_eq_zero.1 size
      cases positive

/-- An integer that stands for a demand asks for all of the records, or for so many. -/
theorem Demand.ofInt?_cases (demand : Demand.ofInt? n = some d) :
    asksAll n = true ∧ d = .all ∨
      asksAll n = false ∧ d = .records n.toNat ∧ 0 < n ∧ n ≤ maxDemand := by
  unfold Demand.ofInt? at demand
  split at demand
  · rename_i all
    cases demand
    exact .inl ⟨by simpa [asksAll, or_comm] using all, rfl⟩
  · rename_i finite
    split at demand
    · cases demand
    · cases demand
      exact .inr ⟨by simpa [asksAll, and_comm] using finite, rfl, by omega, by omega⟩

/-- Joining demand is adding to what was declared. -/
theorem toInt_join (valid : ∀ n ∈ ns, IsDemand n) (pending : p.toInt = pullSize ns)
    (demand : Demand.ofInt? n = some d) : (p.join d).toInt = pullSize (n :: ns) := by
  rcases Demand.ofInt?_cases demand with ⟨all, rfl⟩ | ⟨finite, rfl, positive, atMost⟩
  · have size : pullSize (n :: ns) = unlimited := by simp [pullSize, all]
    rw [size]
    cases p <;> rfl
  · rcases pullSize_cases valid with ⟨all, size⟩ | ⟨none, size, total⟩
    · have size' : pullSize (n :: ns) = unlimited := by simp [pullSize, all]
      cases p with
      | all => exact size'.symm
      | records k =>
          have negative : (k : Int) = unlimited := pending.trans size
          unfold unlimited at negative
          omega
    · have size' : pullSize (n :: ns) = min (n + ns.sum) maxDemand := by
        simp [pullSize, finite, none]
      rw [size']
      cases p with
      | all =>
          have negative : unlimited = min ns.sum maxDemand := pending.trans size
          unfold unlimited maxDemand at negative
          omega
      | records k =>
          have same : (k : Int) = min ns.sum maxDemand := pending.trans size
          simp only [Demand.join, Demand.toInt]
          omega

theorem pullSize_singleton (demand : Demand.ofInt? n = some d) : pullSize [n] = d.toInt := by
  rw [← toInt_join (p := .zero) (by simp) rfl demand]
  rcases Demand.ofInt?_cases demand with ⟨-, rfl⟩ | ⟨-, rfl, positive, atMost⟩
  · rfl
  · simp only [Demand.zero, Demand.join, Demand.toInt]
    omega

end Sizes

/-! ## While demand is accepted -/

section Steps

variable {c : Conduct} {h : List Move} {s s' : Situation} {m : Move} {a : Stream.Action}
  {rest : List Instruction} {after : Stream} {effects : List Stream.Effect}

/-- A stream is ready or streaming just until it was given up or ended. -/
def Accepting (h : List Move) (s : Situation) : Prop :=
  s.engine.stream.phase = .ready ∨ s.engine.stream.phase = .streaming ↔
    gaveUp h = false ∧ endings h = []

theorem Phase.accepts_or_given (p : Phase) :
    (p = .ready ∨ p = .streaming) ∨ p = .cancelled ∨ p.isTerminal = true := by
  cases p <;> simp [Phase.isTerminal]

theorem Phase.not_accepts_of_given {p : Phase} (given : p = .cancelled ∨ p.isTerminal = true) :
    ¬ (p = .ready ∨ p = .streaming) := by
  cases p <;> simp_all [Phase.isTerminal]

theorem stopped_cons (m : Move) (stopped : ¬ (gaveUp h = false ∧ endings h = [])) :
    ¬ (gaveUp (m :: h) = false ∧ endings (m :: h) = []) := by
  rintro ⟨kept, unended⟩
  rw [endings_cons] at unended
  have unended := List.append_eq_nil_iff.1 unended
  simp only [gaveUp, Bool.or_eq_false_iff] at kept
  exact stopped ⟨kept.1, unended.2⟩

/-- Whatever is called, a stream that accepts demand goes on to do so until it is given up or
ends. -/
theorem Accepting.of_accepts (step : Step s m s') (permitted : c.Permits h m)
    (accepts : s.engine.stream.phase = .ready ∨ s.engine.stream.phase = .streaming) :
    s'.engine.stream.phase = .ready ∨ s'.engine.stream.phase = .streaming ↔
      m.gaveUp = false ∧ m.ending? = none := by
  rcases step.stops permitted with ⟨unended, same⟩ | ⟨r, rest, ended, -, terminal, -⟩
  · have running : s'.engine.stream.phase.isTerminal = false := by
      rw [same]
      rcases accepts with phase | phase <;> rw [phase] <;> rfl
    simp only [unended, and_true]
    rcases step.stream_or_quiet permitted with ⟨a, rest, after, effects, stream⟩ | ⟨other, quiet⟩
    · have hstream : s'.engine.stream = after := by rw [stream.engine]
      rw [hstream] at running ⊢
      cases gives : m.gaveUp with
      | true =>
          obtain rfl : a = .cancel := by
            rw [stream.move] at gives
            cases a <;> first | rfl | cases gives
          refine iff_of_false (Phase.not_accepts_of_given (.inl ?_)) nofun
          cases stream.steps with
          | discard | giveUp => rfl
          | ignoreCancel present ready streaming =>
              exact absurd accepts (not_or.2 ⟨ready, streaming⟩)
      | false =>
          refine iff_of_true ?_ rfl
          rcases after.phase.accepts_or_given with accepts' | given | terminal
          · exact accepts'
          · obtain rfl := stream.steps.eq_cancel accepts given
            rw [stream.move] at gives
            cases gives
          · rw [running] at terminal
            cases terminal
    · rw [quiet.stream, (Move.of_quiet other).2]
      exact iff_of_true accepts rfl
  · refine iff_of_false (Phase.not_accepts_of_given (.inr terminal)) fun both => ?_
    rw [ended] at both
    cases both.2

theorem Accepting.step (accepting : Accepting h s) (step : Step s m s')
    (permitted : c.Permits h m) : Accepting (m :: h) s' := by
  rcases s.engine.stream.phase.accepts_or_given with accepts | given
  · obtain ⟨kept, unended⟩ := accepting.1 accepts
    refine (Accepting.of_accepts step permitted accepts).trans ?_
    simp [gaveUp, kept, endings_cons, unended]
  · have given' := step.givenUp permitted given
    have stopped : ¬ (gaveUp h = false ∧ endings h = []) := fun both =>
      Phase.not_accepts_of_given given (accepting.2 both)
    exact iff_of_false (Phase.not_accepts_of_given given') (stopped_cons m stopped)

/-! ## What is pending -/

/-- What a step of a stream does to the demand that was accepted. -/
inductive Stream.Reckons (x : Stream.Surroundings) (st : Stream) :
    Stream.Action → Stream → List Stream.Effect → Prop
  /-- demand is requested at once -/
  | pull {n : Int} {d : Demand} (demand : Demand.ofInt? n = some d) (phase : st.phase = .ready) :
      Reckons x st (.request n) { st with phase := .streaming } (Stream.pullEffects x d)
  /-- demand is joined to what is pending -/
  | join {n : Int} {d : Demand} (demand : Demand.ofInt? n = some d)
      (phase : st.phase = .streaming) :
      Reckons x st (.request n) { st with pending := st.pending.join d } []
  /-- a batch is over -/
  | endBatch {metadata : Value} (phase : st.phase = .streaming) :
      Reckons x st (.succeed metadata) { st with phase := .ready }
        [.andThen (.settle .streaming true metadata)]
  /-- what is pending is requested -/
  | flush {before : Phase} {more : Bool} {metadata : Value} (line : Log.Line)
      (phase : st.phase = .ready) (positive : st.pending.isPositive = true) :
      Reckons x st (.settle before more metadata)
        { st with phase := .streaming, pending := .zero }
        (.log line :: Stream.pullEffects x st.pending ++ [.andThen .announce])
  /-- the demand stays as it is, or is given up -/
  | keeps {a : Stream.Action} {st' : Stream} {effects : List Stream.Effect}
      (unasked : ∀ effect ∈ effects, (Instruction.ofStream effect).isPull = false)
      (same : st'.phase = .ready ∨ st'.phase = .streaming →
        st'.phase = st.phase ∧ st'.pending = st.pending)
      (request : ∀ n, a = .request n → ¬ (st.phase = .ready ∨ st.phase = .streaming))
      (settle : ∀ before more metadata, a = .settle before more metadata → st.phase = .ready →
        st.pending = .zero) : Reckons x st a st' effects

theorem Demand.eq_zero_of_not_positive {d : Demand} (none : d.isPositive = false) : d = .zero := by
  cases d with
  | all => cases none
  | records n =>
      obtain rfl : n = 0 := by simpa [isPositive] using none
      rfl

theorem Stream.Steps.reckons {x : Stream.Surroundings} {st st' : Stream}
    (steps : Stream.Steps x st a st' effects) : Stream.Reckons x st a st' effects := by
  cases steps with
  | pull present demand phase => exact .pull demand phase
  | join present demand phase => exact .join demand phase
  | endBatch present phase field more => exact .endBatch phase
  | flush line phase positive => exact .flush line phase positive
  | rest line phase idle =>
      refine .keeps (by simp [Instruction.ofStream, Instruction.isPull]) (fun _ => ⟨rfl, rfl⟩)
        (by simp) fun _ _ _ _ _ => Demand.eq_zero_of_not_positive idle
  | ignoreRequest line present demand ready streaming =>
      refine .keeps (by simp [Instruction.ofStream, Instruction.isPull]) (fun _ => ⟨rfl, rfl⟩)
        (fun _ _ => not_or.2 ⟨ready, streaming⟩) (by simp)
  | settleOther line succeeded ready =>
      refine .keeps (by simp [Instruction.ofStream, Instruction.isPull]) (fun _ => ⟨rfl, rfl⟩)
        (by simp) fun _ _ _ _ phase => absurd phase ready
  | settleSucceeded line phase =>
      refine .keeps (by simp [Instruction.ofStream, Instruction.isPull]) (fun _ => ⟨rfl, rfl⟩)
        (by simp) fun _ _ _ _ ready => by simp [phase] at ready
  | conclude | concludeRefused | concludeFailure =>
      refine .keeps ?_ (fun _ => ⟨rfl, rfl⟩) (by simp) (by simp)
      exact Stream.forall_endEffects st (fun _ => rfl) fun _ => rfl
  | announce =>
      refine .keeps ?_ (fun _ => ⟨rfl, rfl⟩) (by simp) (by simp)
      cases st.summaryConsumer <;> simp [Instruction.ofStream, Instruction.isPull]
  | discard | giveUp | lateSuccess | succeed | lateFailure | fail =>
      refine .keeps ?_ (by simp) (by simp) (by simp)
      simp [Instruction.ofStream, Instruction.isPull, discardEffects, debug, Message.discardAll]
  | _ =>
      refine .keeps ?_ (fun _ => ⟨rfl, rfl⟩) (by simp) (by simp)
      simp [Instruction.ofStream, Instruction.isPull, discardEffects, debug, Message.discardAll]

/-- A pull for what was accepted since the last one is about to be written. -/
structure PullDue (h : List Move) (s : Situation) : Prop where
  agenda : ∃ query rest,
    pastLines s.agenda = .ask (.write (.pull (pullSize (declaredSince h)) query)) :: rest ∧
      ∀ i ∈ rest, i.isPull = false
  declared : declaredSince h ≠ []
  pending : s.engine.stream.pending = .zero
  phase : s.engine.stream.phase = .streaming

/-- No pull is about to be written, and the number pending stands for what was accepted since the
last one. -/
structure Pending (h : List Move) (s : Situation) : Prop where
  unasked : ∀ i ∈ s.agenda, i.isPull = false
  stands : s.engine.stream.phase = .ready ∨ s.engine.stream.phase = .streaming →
    s.engine.stream.pending.toInt = pullSize (declaredSince h)
  rests : s.engine.stream.phase = .ready → s.engine.stream.pending = .zero ∨
    ∃ before more metadata rest, s.agenda = .stream (.settle before more metadata) :: rest

/-- What was accepted since the last pull is accounted for. -/
structure Tally (h : List Move) (s : Situation) : Prop where
  accepting : Accepting h s
  valid : ∀ n ∈ declaredSince h, IsDemand n
  kept : PullDue h s ∨ Pending h s

theorem Step.isPull_eq {i : Instruction} (step : Step s m s') (agenda : s.agenda = i :: rest) :
    m.isPull = i.isPull := by
  obtain ⟨e, todo⟩ := s
  obtain rfl : todo = _ := agenda
  cases step with
  | carry own => cases i <;> first | rfl | cases own
  | @answer e a rest r =>
      cases a with
      | write request => cases request <;> rfl
      | _ => rfl

theorem Step.isPull_eq_false (step : Step s m s') (unasked : ∀ i ∈ s.agenda, i.isPull = false) :
    m.isPull = false := by
  obtain ⟨e, agenda⟩ := s
  cases agenda with
  | nil => cases step <;> rfl
  | cons i rest => exact (step.isPull_eq rfl).trans (unasked i (List.mem_cons_self ..))

theorem Quiet.unasked (quiet : Quiet s m s') (unasked : ∀ i ∈ s.agenda.tail, i.isPull = false) :
    ∀ i ∈ s'.agenda, i.isPull = false := by
  obtain ⟨front, tail, agenda, behind, fronts⟩ := quiet.agenda
  intro i mem
  rw [agenda] at mem
  rcases List.mem_append.1 mem with mem | mem
  · cases pull : i.isPull with
    | false => rfl
    | true =>
        have driven : i.isDriven = true := by
          unfold Instruction.isPull at pull
          split at pull
          · rfl
          · cases pull
        rw [fronts i mem] at driven
        cases driven
  · exact unasked i (behind.mem mem)

theorem declared?_of_quiet (other : ∀ a next, m ≠ .carried (.stream a) (.go next)) :
    m.declared? = none := by
  unfold Move.declared?
  split
  · exact absurd rfl (other _ _)
  · rfl

theorem declaredSince_cons (unasked : m.isPull = false) (silent : m.declared? = none) :
    declaredSince (m :: h) = declaredSince h := by
  simp [declaredSince, unasked, silent]

/-- A pull that is about to be written is written next, lines of the log aside. -/
theorem PullDue.step (due : PullDue h s) (step : Step s m s') (permitted : c.Permits h m) :
    declaredSince (m :: h) = declaredSince h ∧ PullDue (m :: h) s' ∨
      declaredSince (m :: h) = [] ∧ Pending (m :: h) s' := by
  obtain ⟨⟨query, rest, agenda, only⟩, declared, pending, phase⟩ := due
  rcases step.stream_or_quiet permitted with ⟨a, _, _, _, stream⟩ | ⟨other, quiet⟩
  · rw [stream.head, pastLines_cons_other rfl] at agenda
    cases agenda
  · rw [← quiet.stream] at pending phase
    rcases step.pastLines_or_head permitted agenda with ⟨⟨line, rfl⟩, -, agenda'⟩ | head
    · have same : declaredSince (.answered (.log line) (.go []) :: h) = declaredSince h :=
        declaredSince_cons rfl rfl
      exact .inl ⟨same, ⟨query, rest, same.symm ▸ agenda', only⟩, same ▸ declared, pending, phase⟩
    · have none : declaredSince (m :: h) = [] := by
        rw [declaredSince, step.isPull_eq head]
        rfl
      refine .inr ⟨none, quiet.unasked (by rw [head]; exact only), fun _ => ?_, fun ready => ?_⟩
      · rw [none, pending]
        rfl
      · rw [phase] at ready
        cases ready

theorem Pending.quiet (pending : Pending h s) (step : Step s m s') (permitted : c.Permits h m)
    (other : ∀ a next, m ≠ .carried (.stream a) (.go next)) (quiet : Quiet s m s') :
    Pending (m :: h) s' := by
  have same : declaredSince (m :: h) = declaredSince h :=
    declaredSince_cons (step.isPull_eq_false pending.unasked) (declared?_of_quiet other)
  refine ⟨quiet.unasked fun i mem => pending.unasked i (List.mem_of_mem_tail mem), ?_, ?_⟩
  · rw [same, quiet.stream]
    exact pending.stands
  · rw [quiet.stream]
    intro ready
    rcases pending.rests ready with none | ⟨before, more, metadata, rest, head⟩
    · exact .inl none
    · obtain ⟨next, effects, stream⟩ :=
        step.exists_stream permitted head fun cause => by simp [Stream.step]
      exact absurd stream.move (other _ _)

theorem declaredSince_of_stream (stream : StreamStep s m s' a rest after effects)
    (other : ∀ n, a ≠ .request n) : declaredSince (m :: h) = declaredSince h := by
  refine declaredSince_cons (by rw [stream.move]; rfl) ?_
  rw [stream.move]
  cases a <;> first | rfl | exact absurd rfl (other _)

theorem declaredSince_of_request {n : Int} (accepting : Accepting h s)
    (stream : StreamStep s m s' (.request n) rest after effects)
    (accepts : s.engine.stream.phase = .ready ∨ s.engine.stream.phase = .streaming) :
    declaredSince (m :: h) = n :: declaredSince h := by
  obtain ⟨kept, unended⟩ := accepting.1 accepts
  rw [stream.move]
  simp [declaredSince, Move.isPull, Move.declared?, kept, unended]

theorem declaredSince_of_late (accepting : Accepting h s)
    (stream : StreamStep s m s' a rest after effects)
    (late : ¬ (s.engine.stream.phase = .ready ∨ s.engine.stream.phase = .streaming)) :
    declaredSince (m :: h) = declaredSince h := by
  have closed : (gaveUp h || !(endings h).isEmpty) = true := by
    have stopped := fun both => late (accepting.2 both)
    cases kept : gaveUp h with
    | true => rfl
    | false =>
        cases unended : endings h with
        | nil => exact absurd ⟨kept, unended⟩ stopped
        | cons r earlier => rfl
  rw [stream.move]
  simp [declaredSince, Move.isPull, closed]

/-- A pull for what was declared stands first. -/
theorem PullDue.of_effects {x : Stream.Surroundings} {d : Demand} {first : List Instruction}
    (size : d.toInt = pullSize (declaredSince h))
    (agenda : pastLines s.agenda = pastLines ((Stream.pullEffects x d).map .ofStream ++ first))
    (unasked : ∀ i ∈ first, i.isPull = false) (declared : declaredSince h ≠ [])
    (pending : s.engine.stream.pending = .zero) (phase : s.engine.stream.phase = .streaming) :
    PullDue h s := by
  refine ⟨⟨x.run.query, first, ?_, unasked⟩, declared, pending, phase⟩
  rw [agenda, ← size]
  rfl

/-- A stream that is ready has nothing pending, if it does not settle. -/
theorem Pending.eq_zero_of_ready (pending : Pending h s) (head : s.agenda = .stream a :: rest)
    (ready : s.engine.stream.phase = .ready)
    (other : ∀ before more metadata, a ≠ .settle before more metadata) :
    s.engine.stream.pending = .zero := by
  rcases pending.rests ready with none | ⟨before, more, metadata, rest', head'⟩
  · exact none
  · rw [head] at head'
    obtain ⟨same, -⟩ := List.cons.inj head'
    exact absurd (Instruction.stream.inj same) (other before more metadata)

/-- A step of the stream that asks for nothing, and takes no demand, leaves what is pending as it
is. -/
theorem Pending.of_keeps (pending : Pending h s) (stream : StreamStep s m s' a rest after effects)
    (declared : declaredSince (m :: h) = declaredSince h)
    (unasked : ∀ effect ∈ effects, (Instruction.ofStream effect).isPull = false)
    (same : after.phase = .ready ∨ after.phase = .streaming →
      after.phase = s.engine.stream.phase ∧ after.pending = s.engine.stream.pending)
    (settle : ∀ before more metadata, a = .settle before more metadata →
      s.engine.stream.phase = .ready → s.engine.stream.pending = .zero) :
    Pending (m :: h) s' := by
  have hstream : s'.engine.stream = after := by rw [stream.engine]
  refine ⟨?_, fun accepts => ?_, fun ready => .inl ?_⟩
  · rw [stream.agenda]
    intro i mem
    rcases List.mem_append.1 mem with mem | mem
    · obtain ⟨effect, among, rfl⟩ := List.mem_map.1 mem
      exact unasked effect among
    · exact pending.unasked i (by simp [stream.head, mem])
  · rw [hstream] at accepts ⊢
    obtain ⟨phase, number⟩ := same accepts
    rw [declared, number]
    exact pending.stands (phase ▸ accepts)
  · rw [hstream] at ready ⊢
    obtain ⟨phase, number⟩ := same (.inl ready)
    rw [number]
    have ready : s.engine.stream.phase = .ready := phase ▸ ready
    by_cases settles : ∃ before more metadata, a = .settle before more metadata
    · obtain ⟨before, more, metadata, same⟩ := settles
      exact settle before more metadata same ready
    · exact pending.eq_zero_of_ready stream.head ready fun before more metadata same =>
        settles ⟨before, more, metadata, same⟩

/-- A step of the stream accounts for the demand that it takes. -/
theorem Tally.of_stream (tally : Tally h s) (pending : Pending h s)
    (stream : StreamStep s m s' a rest after effects) :
    (∀ n ∈ declaredSince (m :: h), IsDemand n) ∧ (PullDue (m :: h) s' ∨ Pending (m :: h) s') := by
  obtain ⟨accepting, valid, -⟩ := tally
  have hstream : s'.engine.stream = after := by rw [stream.engine]
  have behind : ∀ i ∈ rest, i.isPull = false := fun i mem =>
    pending.unasked i (by simp [stream.head, mem])
  cases stream.steps.reckons with
  | @pull n d demand phase =>
      have none := pending.eq_zero_of_ready stream.head phase nofun
      -- a stream that pulls had nothing pending, so nothing was declared since the last pull
      have fresh : declaredSince h = [] := by
        refine eq_nil_of_pullSize valid ?_
        rw [← pending.stands (.inl phase), none]
        rfl
      have declared := declaredSince_of_request accepting stream (.inl phase)
      rw [fresh] at declared
      refine ⟨by simpa [declared] using isDemand_of_ofInt? demand,
        .inl (.of_effects ?_ (by rw [stream.agenda]) behind (by simp [declared]) ?_ ?_)⟩
      · rw [declared, pullSize_singleton demand]
      · rw [hstream]
        exact none
      · rw [hstream]
  | @join n d demand phase =>
      have declared := declaredSince_of_request accepting stream (.inr phase)
      rw [declared]
      refine ⟨?_, .inr ⟨?_, fun _ => ?_, ?_⟩⟩
      · simpa using ⟨isDemand_of_ofInt? demand, valid⟩
      · rw [stream.agenda]
        exact behind
      · rw [declared, hstream]
        exact toInt_join valid (pending.stands (.inr phase)) demand
      · rw [hstream, phase]
        exact nofun
  | endBatch phase =>
      have declared := declaredSince_of_stream (h := h) stream nofun
      rw [declared]
      refine ⟨valid, .inr ⟨?_, fun _ => ?_, fun _ => .inr ⟨_, _, _, rest, stream.agenda⟩⟩⟩
      · rw [stream.agenda]
        exact List.forall_mem_cons.2 ⟨rfl, behind⟩
      · rw [declared, hstream]
        exact pending.stands (.inr phase)
  | flush line phase positive =>
      have declared := declaredSince_of_stream (h := h) stream nofun
      have size := pending.stands (.inl phase)
      have later : ∀ i ∈ .stream .announce :: rest, i.isPull = false :=
        List.forall_mem_cons.2 ⟨rfl, behind⟩
      refine ⟨declared ▸ valid, .inl (.of_effects (x := s.engine.surroundings) (declared ▸ size)
        ?_ later (declared ▸ ne_nil_of_isPositive size positive) ?_ ?_)⟩
      · rw [stream.agenda]
        rfl
      · rw [hstream]
      · rw [hstream]
  | keeps unasked same request settle =>
      have declared : declaredSince (m :: h) = declaredSince h := by
        by_cases asks : ∃ n, a = .request n
        · obtain ⟨n, rfl⟩ := asks
          exact declaredSince_of_late accepting stream (request n rfl)
        · exact declaredSince_of_stream stream fun n heq => asks ⟨n, heq⟩
      rw [declared]
      exact ⟨valid, .inr (pending.of_keeps stream declared unasked same settle)⟩

/-! ## Runs -/

theorem Tally.step (tally : Tally h s) (step : Step s m s') (permitted : c.Permits h m) :
    Tally (m :: h) s' := by
  have accepting := tally.accepting.step step permitted
  rcases tally.kept with due | pending
  · rcases due.step step permitted with ⟨same, due⟩ | ⟨none, pending⟩
    · exact ⟨accepting, same ▸ tally.valid, .inl due⟩
    · exact ⟨accepting, by simp [none], .inr pending⟩
  · rcases step.stream_or_quiet permitted with ⟨a, rest, after, effects, stream⟩ | ⟨other, quiet⟩
    · obtain ⟨valid, kept⟩ := tally.of_stream pending stream
      exact ⟨accepting, valid, kept⟩
    · refine ⟨accepting, ?_, .inr (pending.quiet step permitted other quiet)⟩
      rw [declaredSince_cons (step.isPull_eq_false pending.unasked) (declared?_of_quiet other)]
      exact tally.valid

/-- With nothing pending and nothing under way, what is declared is accounted for. -/
theorem Run.tally {e : Engine} (ready : e.stream.phase = .ready) (none : e.stream.pending = .zero)
    (run : Run c ⟨e, []⟩ h s) : Tally h s := by
  refine run.invariant
    ⟨?_, by simp [declaredSince], .inr ⟨by simp, fun _ => ?_, fun _ => .inl none⟩⟩
    fun tally step permitted => tally.step step permitted
  · exact iff_of_true (.inl ready) ⟨rfl, rfl⟩
  · rw [none]
    rfl

theorem Stream.step_of_not_demand {x : Stream.Surroundings} {st : Stream} {n : Int}
    (low : n ≤ 0) (finite : n ≠ unlimited) :
    ∃ cause : Cause, st.step x (.request n) = .error cause ∧ cause.kind = .protocol := by
  have none : Demand.ofInt? n = none := (Demand.ofInt?_eq_none_iff n).2 ⟨low, finite⟩
  cases lacks : st.lacksConsumer with
  | true =>
      refine ⟨.consumersMissing (Value.optionLiteral RecordConsumer.literal st.recordConsumer)
        (Value.optionLiteral x.showSummary st.summaryConsumer), ?_, rfl⟩
      simp only [Stream.step, Stream.request, Stream.ensureConsumers, lacks, if_true, bind,
        Except.bind]
  | false =>
      refine ⟨.demandRefused n, ?_, rfl⟩
      simp [Stream.step, Stream.request, ensureConsumers_eq_ok x lacks, none, bind, Except.bind]

/-- Whatever is demanded, and whenever: what is asked for is what was demanded. -/
theorem Run.pullsDemand {e : Engine} (ready : e.stream.phase = .ready)
    (none : e.stream.pending = .zero) (run : Run c ⟨e, []⟩ h s) : PullsDemand h s := by
  have tally := run.tally ready none
  have pulls : ∀ later earlier n query r,
      h = later ++ .answered (.write (.pull n query)) r :: earlier →
        declaredSince earlier ≠ [] ∧ (∀ n ∈ declaredSince earlier, IsDemand n) ∧
          n = pullSize (declaredSince earlier) := by
    rintro later earlier n query r rfl
    obtain ⟨s₁, s₂, before, step, -⟩ := run.exists_step_of_append
    have tally := before.tally ready none
    obtain ⟨rest, head⟩ : ∃ rest, s₁.agenda = .ask (.write (.pull n query)) :: rest := by
      cases step with
      | answer r => exact ⟨_, rfl⟩
    rcases tally.kept with due | pending
    · obtain ⟨query', rest', agenda, -⟩ := due.agenda
      rw [head, pastLines_cons_other rfl] at agenda
      injection agenda with same
      injection same with same
      injection same with same
      injection same with size
      exact ⟨due.declared, tally.valid, size⟩
    · cases pending.unasked (.ask (.write (.pull n query))) (by simp [head])
  refine ⟨tally.accepting, ?_, ?_, fun now => ?_, ?_⟩
  · intro later earlier n query r split
    obtain ⟨some, -, size⟩ := pulls later earlier n query r split
    exact ⟨some, fun ns perm => by rw [pullSize_perm perm, size]⟩
  · intro later earlier n query r split
    obtain ⟨some, valid, rfl⟩ := pulls later earlier n query r split
    exact pullSize_bounds valid some
  · rcases tally.kept with due | pending
    · exact .inl due.pending
    · exact pending.rests now
  · intro n r s' low finite step
    obtain ⟨cause, error, kind⟩ :=
      s.engine.stream.step_of_not_demand (x := s.engine.surroundings) low finite
    cases step with
    | carry own =>
        refine ⟨⟨cause, ?_, kind⟩, ?_⟩ <;>
          simp [Engine.exec, Engine.stepStream, error, Engine.refuse]

end Steps

/-- Three records are requested; while they come, further demand is declared; then the batch is
over, and there are more. -/
def declaredPoint (ns : List Int) : List Move × Situation :=
  Situation.acts 40
    [.calls (.stream (.request 3) :: ns.map (fun n => .stream (.request n))
      ++ [.stream (.succeed moreRecords)])]
    ([], ⟨attendedEngine, []⟩)

theorem pullsDemand_declaredPoint :
    PullsDemand (declaredPoint [maxDemand - 1, 5]).1 (declaredPoint [maxDemand - 1, 5]).2 ∧
      PullsDemand (declaredPoint [2, unlimited, 4]).1 (declaredPoint [2, unlimited, 4]).2 ∧
      lastRequest (declaredPoint [maxDemand - 1, 5]).1 = some (.pull maxDemand (-1)) ∧
      lastRequest (declaredPoint [2, unlimited, 4]).1 = some (.pull unlimited (-1)) := by
  have run : ∀ ns : List Int,
      Run .any ⟨attendedEngine, []⟩ (declaredPoint ns).1 (declaredPoint ns).2 := by
    intro ns
    refine Run.acts_of_isOutside .nil rfl ?_
    simp [Act.isOutside, Instruction.isCall, Stream.Action.isPublic]
  exact ⟨(run _).pullsDemand rfl rfl, (run _).pullsDemand rfl rfl, by decide +kernel,
    by decide +kernel⟩

end QueryStream
