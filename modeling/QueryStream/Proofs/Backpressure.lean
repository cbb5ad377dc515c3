/-
  Proofs/Backpressure.lean --- the pace of an iteration is the pace of who reads it.

  Where all demand comes from one iteration, what was requested and what is pending never come to
  more than one batch beyond the records that the iteration handed out; a pull is written only
  once all records of the pulls before were handed out and one more was asked for; and if the
  server sends no more than it is asked for, no more than one batch waits to be read
  (`Run.backpressure`).  That is so whatever the server answers and when, whether the records
  are read faster than they come or slower, and whatever else is done with the cursor.
-/
import QueryStream.Proofs.Backpressure.Records
import QueryStream.Proofs.Cursor.Valediction
import QueryStream.Proofs.Requests

set_option autoImplicit false

namespace QueryStream

/-- All demand comes from one iteration: outside code declares none, and no other iteration asks
for a batch. -/
structure SoleDemand (k : IterationId) (h : List Move) : Prop where
  undemanding : ∀ m ∈ h, ∀ i ∈ m.outside, i.isDemand = false
  sole : ∀ m ∈ h, ∀ j, m.asksBatch j = true → j = k

/-- A pull is written only once all records of the pulls before were handed out, and after that
one more was asked for. -/
def Paced (k : IterationId) (f : Nat) (h : List Move) : Prop :=
  ∀ later n query r earlier, h = later ++ .answered (.write (.pull n query)) r :: earlier →
    ∃ since t r' before, earlier = since ++ .carried (.iteration k t .advance) r' :: before ∧
      f * (pulls earlier).length ≤ recordsRead k before

/-- What is requested keeps to what is read. -/
structure Backpressure (k : IterationId) (f : Nat) (h : List Move) (s : Situation) : Prop where
  /-- every pull asks for a number of records -/
  written : ∀ n ∈ pulls h, 1 ≤ n
  /-- what was requested and what is pending is a batch beyond what was read at most -/
  bounded : ∃ p, s.engine.stream.pending = .records p ∧ (pulls h).sum + p ≤ f + recordsRead k h
  paced : Paced k f h
  /-- at most a batch waits to be read -/
  buffered : allSparing h = true → ∀ it, s.engine.iterations[k]? = some it → it.queued ≤ f

/-- What holds of the requests throughout. -/
structure Regulated (k : IterationId) (f : Nat) (h : List Move) (s : Situation) : Prop where
  batches : Batches k f h s
  allotted : Allotted k f h s
  stocked : Stocked k h s
  paced : Paced k f h

section Backpressure

variable {c : Conduct} {e : Engine} {h : List Move} {s s' : Situation} {m : Move}
  {k : IterationId} {f : Nat} {it : Iteration}

theorem SoleDemand.tail (demand : SoleDemand k (m :: h)) : SoleDemand k h :=
  ⟨fun m mem => demand.undemanding m (List.mem_cons_of_mem _ mem),
    fun m mem => demand.sole m (List.mem_cons_of_mem _ mem)⟩

/-! ## What gauges tell -/

theorem Gauge.pulled_records (written : ∀ n ∈ pulls h, 1 ≤ n) :
    ((Gauge.records f).pulled h : Int) = (pulls h).sum := by
  unfold Gauge.pulled
  generalize pulls h = numbers at written
  induction numbers with
  | nil => rfl
  | cons n rest ih =>
      have one := written n (List.mem_cons_self ..)
      have rest := ih fun n mem => written n (List.mem_cons_of_mem _ mem)
      have count : (Gauge.records f).pull n = n.toNat := rfl
      rw [List.map_cons, List.sum_cons, List.sum_cons, count]
      omega

theorem Gauge.pulled_requests (written : ∀ n ∈ pulls h, 1 ≤ n) :
    (Gauge.requests f).pulled h = (pulls h).length := by
  have each : ∀ n ∈ pulls h, (Gauge.requests f).pull n = 1 := by
    intro n mem
    have one := written n mem
    show min n.toNat 1 = 1
    omega
  rw [Gauge.pulled, List.map_congr_left each, List.map_const', List.sum_replicate_nat, Nat.mul_one]

/-! ## Along a run -/

theorem Step.fetchSize (step : Step s m s') (found : s.engine.iterations[k]? = some it) :
    ∃ it', s'.engine.iterations[k]? = some it' ∧ it'.fetchSize = it.fetchSize := by
  obtain ⟨it', found', tended⟩ := step.tended found
  refine ⟨it', found', ?_⟩
  cases tended with
  | apart | record | ended => rfl
  | @stepped t a rest head =>
      cases a <;> simp only [Iteration.step] <;> repeat' split
      all_goals rfl
  | left head =>
      obtain ⟨awaited, after⟩ := it.exists_leave
      rw [after]

/-- A pull is written only once all records of the pulls before were handed out. -/
theorem Paced.step (paced : Paced k f h) (prompted : Prompted k f h) (allotted : Allotted k f h s)
    (step : Step s m s') : Paced k f (m :: h) := by
  intro later n query r earlier split
  cases later with
  | cons m' later =>
      obtain ⟨-, rfl⟩ := List.cons.inj split
      exact paced later n query r earlier rfl
  | nil =>
      obtain ⟨rfl, rfl⟩ := List.cons.inj split
      obtain ⟨rest, head⟩ : ∃ rest, s.agenda = .ask (.write (.pull n query)) :: rest := by
        cases step
        exact ⟨_, rfl⟩
      have one : 1 ≤ n := allotted.sized (.ask (.write (.pull n query))) (by simp [head])
      obtain ⟨p, -, allowed⟩ := allotted.share
      have requests := allowed (.requests f)
      have counts : (Gauge.requests f).load (.ask (.write (.pull n query))) = min n.toNat 1 := rfl
      have single : (Gauge.requests f).batch = 1 := rfl
      rw [Gauge.pulled_requests allotted.written, head, Gauge.loads_cons, counts, single,
        Nat.one_mul] at requests
      have asked : (pulls h).length + 1 ≤ batchesAsked k h := by omega
      obtain ⟨since, t, r', before, rfl, most⟩ := prompted (by omega)
      refine ⟨since, t, r', before, rfl, ?_⟩
      have scaled := Nat.mul_le_mul_left f asked
      rw [Nat.mul_add, Nat.mul_one] at scaled
      omega

theorem regulated_of_pristine (pristine : e.Pristine) (ready : e.stream.phase = .ready)
    (idle : e.stream.pending = .zero) : Regulated k f [] ⟨e, []⟩ where
  batches := by
    refine ⟨by simp [Fetching], fun some => absurd some (by simp [batchesAsked]), ?_, ?_⟩
    · exact fun _ => ⟨rfl, rfl, by simp, by simp⟩
    · intro it found
      simp [pristine.iterations] at found
  allotted := by
    refine ⟨by simp [pulls], by simp, 0, idle, fun g => ?_⟩
    simp [Gauge.pulled, pulls, Gauge.loads, g.nothing, batchesAsked]
  stocked := by
    refine ⟨?_, fun streaming => ?_⟩
    · simp [Engine.unread, pristine.iterations, recordsRead, pulledRows]
    · rw [show (Situation.mk e []).engine.stream.phase = _ from ready] at streaming
      cases streaming
  paced := by
    intro later n query r earlier split
    simp at split

/-- Throughout a run, the requests keep to what is read. -/
theorem Run.regulated (pristine : e.Pristine) (ready : e.stream.phase = .ready)
    (idle : e.stream.pending = .zero) (holds : c.Holds) (run : Run c ⟨e, []⟩ h s)
    (demand : SoleDemand k h) (size : ∀ it, s.engine.iterations[k]? = some it →
      it.fetchSize.value = f) (positive : 1 ≤ f) (finite : f < maxDemand) : Regulated k f h s := by
  induction run with
  | nil => exact regulated_of_pristine pristine ready idle
  | @snoc h s s' m run step permitted ih =>
      have size' : ∀ it, s.engine.iterations[k]? = some it → it.fetchSize.value = f := by
        intro it found
        obtain ⟨it', found', same⟩ := step.fetchSize found
        rw [← same]
        exact size it' found'
      obtain ⟨batches, allotted, stocked, paced⟩ := ih demand.tail size'
      have admits := permitted.admits holds
      have crew := (run.course holds).crew pristine
      refine ⟨batches.step crew step admits size' positive, ?_,
        stocked.step (run.poised (.inr ready)) step permitted,
        paced.step batches.prompted allotted step⟩
      exact allotted.step step permitted (demand.undemanding m (List.mem_cons_self ..))
        (demand.sole m (List.mem_cons_self ..)) size' positive finite

/-- Where all demand comes from one iteration, no more than one batch is requested beyond what is
read, each pull waits for the records of those before, and one batch at most waits to be read. -/
theorem Run.backpressure (pristine : e.Pristine) (ready : e.stream.phase = .ready)
    (idle : e.stream.pending = .zero) (holds : c.Holds) (run : Run c ⟨e, []⟩ h s)
    (demand : SoleDemand k h) (size : ∀ it, s.engine.iterations[k]? = some it →
      it.fetchSize.value = f) (positive : 1 ≤ f) (finite : f < maxDemand) :
    Backpressure k f h s := by
  have regulated := run.regulated pristine ready idle holds demand size positive finite
  obtain ⟨p, pending, allowed⟩ := regulated.allotted.share
  have written := regulated.allotted.written
  have bounded : (pulls h).sum + p ≤ f + recordsRead k h := by
    have most := allowed (.records f)
    have batches := regulated.batches.allowed
    have counts := Gauge.pulled_records (f := f) written
    have single : (Gauge.records f).batch = f := rfl
    have pending : (Gauge.records f).of p = p := rfl
    rw [single, pending] at most
    omega
  refine ⟨written, ⟨p, pending, bounded⟩, regulated.paced, fun sparing it found => ?_⟩
  have told := regulated.stocked.told
  have rows := (pulledRows_le sparing written).1
  have waiting : s.engine.unread k = it.queued := by simp [Engine.unread, found]
  omega

/-! ## A run that is worked out -/

/-- Whether a move declares no demand, unless that is what one iteration does. -/
def Move.isDemandOf (k : IterationId) : Move → Bool
  | .carried (.iteration j _ .fetch) _ => j == k
  | m => m.outside.all fun i => !i.isDemand

theorem soleDemand_of_all (all : h.all (Move.isDemandOf k) = true) : SoleDemand k h := by
  rw [List.all_eq_true] at all
  refine ⟨fun m mem i among => ?_, fun m mem j asks => ?_⟩
  · have outside := all m mem
    unfold Move.isDemandOf at outside
    split at outside
    · cases among
    · simpa using List.all_eq_true.1 outside i among
  · have own := all m mem
    unfold Move.asksBatch at asks
    split at asks
    · obtain rfl := beq_iff_eq.1 (Bool.and_eq_true_iff.1 asks).1
      simpa [Move.isDemandOf] using own
    · cases asks

/-- Nothing is taken for granted but that promises are cancelled only by who was handed them. -/
def Conduct.lawful : Conduct where
  refrains _ := False
  tame _ := False
  keeps h m := m.isAdmitted h = true

theorem Conduct.lawful_holds : Conduct.lawful.Holds := fun _ p r keeps =>
  (Admits.of_isAdmitted keeps).holds p r rfl

theorem Conduct.lawful_keepsAll (admitted : allAdmitted h = true) : Conduct.lawful.KeepsAll h := by
  refine keepsAll_of_cons (allAdmitted · = true) (fun m h all => ?_) admitted
  exact Bool.and_eq_true_iff.1 all

theorem Run.acts_of_isAdmitted {start : Situation} {n : Nat} {acts : List Act}
    {point : List Move × Situation} (worked : point = Situation.acts n acts ([], start))
    (made : acts.all Act.isOutside = true) (admitted : allAdmitted point.1 = true) :
    Run .lawful start point.1 point.2 := by
  subst worked
  refine .acts n acts (fun next mem i among => ⟨?_, id⟩) (Conduct.lawful_keepsAll admitted) .nil
  have outside : (Act.calls next).isOutside = true := List.all_eq_true.1 made _ mem
  exact List.all_eq_true.1 outside i among

/-- Records are read two at a time: the first batch is read while it comes, and one more record
is asked for before its end; the next batch comes before it is read. -/
def twoAtATime : List Act :=
  [.calls [.openCursor ⟨.nothing, .standard, true, true⟩, .openResult 0 .standard],
    .calls [.records 0 (.int 2) .null .nobody, .spawn (.next 0) .nobody], .job,
    .calls [.stream (.deliver (.list []))], .job,
    .calls [.stream (.deliver (.list [])), .spawn (.next 0) .nobody], .job,
    .calls [.spawn (.next 0) .nobody], .job,
    .calls [.stream (.succeed moreToCome), .stream (.deliver (.list [])),
      .stream (.deliver (.list []))]]

/-- Where that leads, with its history. -/
def twoAtATimePoint : List Move × Situation := Situation.acts 24 twoAtATime ([], ⟨bareEngine, []⟩)

theorem backpressure_twoAtATime :
    Backpressure 0 2 twoAtATimePoint.1 twoAtATimePoint.2 ∧ pulls twoAtATimePoint.1 = [2, 2] ∧
      recordsRead 0 twoAtATimePoint.1 = 2 ∧ allSparing twoAtATimePoint.1 = true ∧
      twoAtATimePoint.2.engine.unread 0 = 2 := by
  have run : Run .lawful ⟨bareEngine, []⟩ twoAtATimePoint.1 twoAtATimePoint.2 :=
    .acts_of_isAdmitted rfl (by decide) (by decide +kernel)
  have pristine : bareEngine.Pristine :=
    { cursors := rfl, tasks := rfl, iterations := rfl
      releases := by simp [bareEngine, Engine.overStream], loop := rfl }
  have size : (twoAtATimePoint.2.engine.iterations[0]?).map (fun it => it.fetchSize.value)
      = some 2 := by decide +kernel
  refine ⟨run.backpressure pristine rfl rfl Conduct.lawful_holds
    (soleDemand_of_all (by decide +kernel)) (fun it found => ?_) (by decide) (by decide),
    by decide +kernel, by decide +kernel, by decide +kernel, by decide +kernel⟩
  rw [found] at size
  exact Option.some.inj size

end Backpressure

end QueryStream
