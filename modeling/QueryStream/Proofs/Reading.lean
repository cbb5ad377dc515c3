/-
  Proofs/Reading.lean --- an iteration that waits, and the response it waits for.

  Over a connection that sends as many rows as it was asked for before it tells that there
  are more, an iteration that is alone in declaring demand never waits in vain: while it has
  nothing to read and nothing is under way, the response to one request is owed, whatever
  else was asked of the cursor in the meantime (`Run.awaitsResponse`).  It does if the owner
  of the stream threw something when it was told of the end (`not_awaitsResponse`).
-/
import QueryStream.Proofs.Reading.Waiting
import QueryStream.Proofs.Requests

set_option autoImplicit false

namespace QueryStream

/-- An engine over a stream, with a cursor of which nothing was asked and one result over it,
of which nothing was read. -/
structure Engine.Unread (e : Engine) (outcome : PromiseId) (options : FullOptions) : Prop
    extends e.Begun outcome where
  results : e.results = #[⟨0, options, false⟩]
  iterations : e.iterations = #[]

/-- While nothing is under way, an iteration that has nothing to read waits for the response
to one request, and not for a stream that is ready or over. -/
structure AwaitsResponse (h : List Move) (s : Situation) : Prop where
  owed : unanswered h = 1
  phase : s.engine.stream.phase = .streaming ∨ s.engine.stream.phase = .cancelled

/-- An iteration of a cursor, with what it has outstanding. -/
structure Fed (o : PromiseId) (h : List Move) (s : Situation) (cursor : Cursor) (v : Int) :
    Prop where
  served : Served o h s cursor
  pledged : Pledged o s cursor
  recipient : Recipient s cursor
  asking : Asking s cursor v
  occupied : Occupied s cursor v
  account : Account h s v
  unfed : Unfed s cursor v
  informed : Informed o s cursor

section Runs

variable {c : Conduct} {o : PromiseId} {e : Engine} {h : List Move} {s s' : Situation} {m : Move}
  {cursor next : Cursor} {v : Int} {options : FullOptions}

theorem fed_of_unread (unread : e.Unread o options) (served : Served o [] ⟨e, []⟩ cursor)
    (pledged : Pledged o ⟨e, []⟩ cursor) (status : cursor.status = .notInstalled) :
    Fed o [] ⟨e, []⟩ cursor 0 := by
  have reader : e.reader = .ofCursor 0 default := by simp [Engine.reader, unread.iterations]
  have none : e.reader.queued = 0 := by
    rw [reader]
    rfl
  have stream : e.stream = { Stream.fresh with summaryConsumer := some (.cursor 0) } :=
    unread.stream
  have free : e.stream.recordConsumer = Option.none := by rw [stream]; rfl
  have phase : e.stream.phase = .ready := by rw [stream]; rfl
  refine ⟨served, pledged, ?_, ?_, ?_, ?_, ?_, ?_⟩
  · refine ⟨by simp, .unread options unread.results unread.iterations, .inl (by rw [stream]),
      by simp, ?_, by simp, ?_, .clear (by rw [status]; simp) (by simp)⟩
    · intro rc hrc
      rw [show e.stream.recordConsumer = Option.none from free] at hrc
      cases hrc
    · rintro (installed | mem)
      · rw [status] at installed
        cases installed
      · cases mem
  · have asking : Asking ⟨e, []⟩ cursor e.reader.outstanding := .still (by simp)
    rwa [reader] at asking
  · intro reading
    rw [show (Situation.mk e []).engine.reader = _ from reader] at reading
    cases reading
  · refine .ready 0 phase (by rw [stream]; rfl) ?_ (fun _ => rfl) (by simp)
    simp [none, transit]
  · exact fun _ => ⟨rfl, none, by rw [phase]; simp⟩
  · refine .present fun isOver => ?_
    have terminal : e.stream.phase.isTerminal = true := isOver.terminal
    simp [phase, Phase.isTerminal] at terminal

theorem Fed.step (fed : Fed o h s cursor v) (feeds : c.FeedsCalmly) (step : Step s m s')
    (permitted : c.Permits h m) : ∃ next v', Fed o (m :: h) s' next v' := by
  obtain ⟨served, pledged, recipient, asking, occupied, account, unfed, informed⟩ := fed
  obtain ⟨next, served'⟩ := served.step feeds.toServes step permitted
  have hnext := served'.cursors
  obtain ⟨v', asking', declares⟩ :=
    asking.step recipient served pledged feeds step permitted hnext
  refine ⟨next, v', served',
    pledged.step served feeds.toServes feeds.toErrands step permitted hnext,
    recipient.step served feeds step permitted hnext, asking', ?_, ?_, ?_, ?_⟩
  · exact occupied_step occupied asking declares recipient served step permitted hnext
  · exact account.step declares recipient unfed served feeds step permitted
  · exact unfed.step account asking declares recipient served pledged step permitted hnext
  · exact informed.step recipient served pledged step permitted hnext

theorem Run.fed (unread : e.Unread o options) (feeds : c.FeedsCalmly) (run : Run c ⟨e, []⟩ h s) :
    ∃ cursor v, Fed o h s cursor v := by
  refine run.invariant (I := fun h s => ∃ cursor v, Fed o h s cursor v) ?_ ?_
  · obtain ⟨cursor, served⟩ := Run.served unread.toBegun feeds.toServes .nil
    have pledged := pledged_of_begun unread.toBegun served.cursors
    obtain ⟨runError, release, cursors⟩ := unread.cursors
    have hcursor : cursor = .fresh runError release o := by
      simpa using served.cursors.symm.trans cursors
    exact ⟨cursor, 0, fed_of_unread unread served pledged (by rw [hcursor]; rfl)⟩
  · rintro h s s' m ⟨cursor, v, fed⟩ step permitted
    exact fed.step feeds step permitted

/-- With nothing under way, what is over has let its consumers go. -/
theorem Outlook.over_of_idle {e : Engine} (outlook : Outlook o e [])
    (terminal : e.stream.phase.isTerminal = true) : e.stream.Over := by
  generalize hagenda : ([] : List Instruction) = agenda at outlook
  cases outlook with
  | running phase => simp [terminal] at phase
  | ended isOver done cold => exact isOver
  | deciding => cases hagenda
  | _ => simp at hagenda

/-- While nothing is under way, the stream is not ready or over for an iteration that waits. -/
theorem Fed.phase_of_waiting (fed : Fed o h s cursor v) (idle : s.agenda = [])
    (reading : s.engine.reader.phase = .reading) (nothing : s.engine.reader.signals = []) :
    s.engine.stream.phase = .streaming ∨ s.engine.stream.phase = .cancelled := by
  have outstanding : v ≠ 0 := by
    rcases fed.occupied reading with signals | outstanding | fetches
    · exact absurd nothing signals
    · exact outstanding
    · rw [idle] at fetches
      generalize hagenda : ([] : List Instruction) = agenda at fetches
      cases fetches <;> simp at hagenda
  have unread : s.engine.reader.queued = 0 := by simp [Iteration.queued, nothing]
  cases fed.account with
  | ready k phase pending balance bounded settles =>
      exfalso
      -- what is pending would be settled by an instruction that is on the agenda
      rcases Nat.eq_zero_or_pos k with rfl | some
      · have none : transit s.agenda = 0 := by
          rw [idle]
          rfl
        omega
      · obtain ⟨before, more, metadata, rest, head⟩ := settles some
        rw [idle] at head
        cases head
  | endless left phase underway => exact .inl phase
  | streaming n left k phase _ _ _ _ _ _ => exact .inl phase
  | isOver given =>
      rcases given with cancelled | terminal
      · exact .inr cancelled
      · exfalso
        have outlook := fed.pledged.outlook
        rw [idle] at outlook
        cases fed.informed with
        | present present => exact present (outlook.over_of_idle terminal)
        | dropped status => exact outstanding (fed.unfed (by rw [status]; simp)).1
        | parting f made isOver parting agenda cold =>
            rw [idle] at agenda
            simp at agenda
        | told made isOver cold told =>
            cases told with
            | waits earlier f signals =>
                rw [nothing] at signals
                simp at signals
            | took phase signals =>
                rw [reading] at phase
                cases phase

/-- An iteration that is alone in declaring demand is never left waiting, unless the owner of the
stream threw something when it was told of the end: while nothing is under way and it has nothing
to read, the response to one request is owed. -/
theorem Run.awaitsResponse (unread : e.Unread o options) (feeds : c.Feeds)
    (run : Run c ⟨e, []⟩ h s) (calm : Calmly (fun a => a.isErrand = true) h) {i : IterationId}
    {it : Iteration} (idle : s.agenda = []) (found : s.engine.iterations[i]? = some it)
    (reading : it.phase = .reading) (nothing : it.signals = []) : AwaitsResponse h s := by
  obtain ⟨cursor, v, fed⟩ := Run.fed unread feeds.taming (run.taming calm)
  have reader : s.engine.reader = it := by
    rcases Engine.Sole.find s.engine fed.recipient.sole i with none | ⟨it', rfl, iterations⟩
    · rw [none] at found
      cases found
    · rw [iterations] at found
      rw [Engine.reader_of_iterations iterations]
      simpa using found
  rw [← reader] at reading nothing
  have phase := fed.phase_of_waiting idle reading nothing
  refine ⟨?_, phase⟩
  have balance := (Run.inBalance unread.toBegun feeds.toServes run).between idle
  rcases phase with phase | phase <;> rw [balance, phase] <;> rfl

/-! ## A connection that sends rows -/

/-- Whether metadata says whether there are more records, and nothing else. -/
def Value.isBare : Value → Bool
  | .map [(.text key, .bool _)] => key == "has_more"
  | _ => false

/-- Whether there are more records, as bare metadata says. -/
def Value.saysMore : Value → Bool
  | .map [(_, .bool more)] => more
  | _ => false

/-- Whether a move is one of a connection that answers every request once, and sends as many
rows as it is asked for before it says that there are more. -/
def Move.inTurn (h : List Move) : Move → Bool
  | .carried (.stream (.deliver _)) (.go _) =>
      match lastRequest h with
      | some (.pull n _) => n == unlimited || decide (sentRows h < n)
      | _ => false
  | .carried (.stream (.deliver _)) _ => false
  | .carried (.stream (.succeed metadata)) _ =>
      decide (0 < unanswered h) && metadata.isBare && (!metadata.saysMore ||
        match lastRequest h with
        | some (.pull n _) => n != unlimited && sentRows h == n
        | _ => true)
  | m => !m.responds h || decide (0 < unanswered h)

/-- A connection that sends rows in turn, and callers that neither declare demand nor take
the records themselves. -/
def Conduct.feeding : Conduct where
  refrains i := i.isOverCursor = false ∨ i.isClaim = true
  tame a := ∃ request, a = .write request
  keeps h m := m.inTurn h = true

theorem exists_of_isBare {metadata : Value} (bare : metadata.isBare = true) :
    ∃ more, metadata = .map [(.text "has_more", .bool more)] := by
  unfold Value.isBare at bare
  split at bare
  · rename_i key more
    obtain rfl : key = "has_more" := by simpa using bare
    exact ⟨more, rfl⟩
  · cases bare

theorem wellFormed_of_isBare {metadata : Value} (bare : metadata.isBare = true) :
    metadata.WellFormed := by
  obtain ⟨more, rfl⟩ := exists_of_isBare bare
  refine ⟨⟨_, rfl⟩, fun query server availableAfter cause refused => ?_⟩
  cases refused

theorem inTurn_succeed {metadata : Value} {r : Reply}
    (keeps : Move.inTurn h (.carried (.stream (.succeed metadata)) r) = true) :
    0 < unanswered h ∧ metadata.isBare = true ∧ (metadata.saysMore = true →
      ∀ n query, lastRequest h = some (.pull n query) → n ≠ unlimited ∧ sentRows h = n) := by
  simp only [Move.inTurn, Bool.and_eq_true, decide_eq_true_eq, Bool.or_eq_true,
    Bool.not_eq_true'] at keeps
  obtain ⟨⟨pending, bare⟩, batch⟩ := keeps
  refine ⟨pending, bare, fun more n query last => ?_⟩
  rcases batch with less | batch
  · rw [more] at less
    cases less
  · simpa [last] using batch

theorem Conduct.feeding_feeds : Conduct.feeding.Feeds where
  calls i calls := by
    have refrains := calls.2
    simp only [feeding, not_or] at refrains
    simpa using refrains.1
  sole i calls := by
    have refrains := calls.2
    simp only [feeding, not_or] at refrains
    simpa using refrains.2
  once h m keeps responds := by
    have keeps : m.inTurn h = true := keeps
    unfold Move.inTurn at keeps
    split at keeps
    · cases responds
    · cases responds
    · simp only [Bool.and_eq_true, decide_eq_true_eq] at keeps
      exact keeps.1.1
    · simpa [responds] using keeps
  wellFormed h metadata r keeps := wellFormed_of_isBare (inTurn_succeed keeps).2.1
  writes request := ⟨request, rfl⟩
  rows h fields r keeps := by
    have keeps : Move.inTurn h (.carried (.stream (.deliver fields)) r) = true := keeps
    cases r with
    | go next =>
        refine ⟨?_, next, rfl⟩
        simp only [Move.inTurn] at keeps
        split at keeps
        · rename_i n query last
          exact ⟨n, query, last, by simpa using keeps⟩
        · cases keeps
    | _ => cases keeps
  batches h metadata r n query keeps more last := by
    obtain ⟨-, bare, batch⟩ := inTurn_succeed keeps
    obtain ⟨left, rfl⟩ := exists_of_isBare bare
    obtain ⟨raw, field, isTrue⟩ := more
    cases left with
    | true => exact batch rfl n query last
    | false =>
        cases field
        cases isTrue

/-- Whether all of a history is in turn. -/
def allInTurn : List Move → Bool
  | [] => true
  | m :: h => m.inTurn h && allInTurn h

theorem Conduct.feeding_keepsAll (inTurn : allInTurn h = true) : Conduct.feeding.KeepsAll h := by
  refine keepsAll_of_cons (allInTurn · = true) (fun m h all => ?_) inTurn
  exact Bool.and_eq_true_iff.1 all

theorem Run.acts_of_inTurn {n : Nat} {acts : List Act} {point : List Move × Situation}
    (worked : point = Situation.acts n acts ([], ⟨e, []⟩))
    (made : ∀ next, .calls next ∈ acts → ∀ i ∈ next, Conduct.feeding.Calls i)
    (inTurn : allInTurn point.1 = true) : Run .feeding ⟨e, []⟩ point.1 point.2 := by
  subst worked
  exact .acts n acts made (Conduct.feeding_keepsAll inTurn) .nil

/-- Options under which records are read one by one. -/
def oneByOne : FullOptions := ⟨⟨1, FetchSize.one_valid⟩, .int 0⟩

/-- An engine with a result of which nothing was read. -/
def oneByOneEngine : Engine := { earlySummaryEngine with results := #[⟨0, oneByOne, false⟩] }

/-- The records are read; a record comes, and there are more; the next one is read. -/
def readingOn : List Act :=
  [.calls [.records 0 .null .null .nobody, .spawn (.next 0) .nobody], .job,
    .calls [.stream (.deliver (.list [])), .stream (.succeed moreToCome)], .job,
    .calls [.spawn (.next 0) .nobody], .job]

/-- Where reading on leads, with its history. -/
def readingOnPoint : List Move × Situation :=
  Situation.acts 24 readingOn ([], ⟨oneByOneEngine, []⟩)

theorem unread_oneByOneEngine : oneByOneEngine.Unread 0 oneByOne where
  toBegun := { begun_earlySummaryEngine with }
  results := rfl
  iterations := rfl

theorem awaitsResponse_readingOn :
    AwaitsResponse readingOnPoint.1 readingOnPoint.2 ∧
      readingOnPoint.1.countP Move.isWrite = 2 := by
  have calls : ∀ next, .calls next ∈ readingOn → ∀ i ∈ next, Conduct.feeding.Calls i := by
    intro next mem i hi
    simp only [readingOn, List.mem_cons, List.not_mem_nil, or_false, Act.calls.injEq, reduceCtorEq,
      false_or] at mem
    rcases mem with rfl | rfl | rfl <;>
      (simp only [List.mem_cons, List.not_mem_nil, or_false] at hi
       rcases hi with rfl | rfl <;>
        exact ⟨rfl, by simp [Conduct.feeding, Instruction.isOverCursor, Instruction.isClaim,
          Instruction.isDemand, Instruction.isTaking, Instruction.isOpening]⟩)
  have run : Run .feeding ⟨oneByOneEngine, []⟩ readingOnPoint.1 readingOnPoint.2 :=
    .acts_of_inTurn rfl calls (by decide +kernel)
  have idle : readingOnPoint.2.agenda = [] := List.isEmpty_iff.1 (by decide +kernel)
  have made : readingOnPoint.2.engine.iterations[0]?.isSome = true := by decide +kernel
  obtain ⟨it, found⟩ := Option.isSome_iff_exists.1 made
  have reader : readingOnPoint.2.engine.reader = it := by simp [Engine.reader, found]
  have reading : it.phase = .reading := by
    rw [← reader]
    decide +kernel
  have nothing : it.signals = [] := by
    rw [← reader]
    exact List.isEmpty_iff.1 (by decide +kernel)
  exact ⟨run.awaitsResponse unread_oneByOneEngine Conduct.feeding_feeds
    (calmly_of_returns (by decide +kernel)) idle found reading nothing, by decide +kernel⟩

/-! ## An owner that throws -/

/-- A record is to be read. -/
def readingBroken : List Act :=
  [.calls [.records 0 .null .null .nobody, .spawn (.next 0) .nobody], .job]

/-- Where the next record is waited for, with its history. -/
def waitingPoint : List Move × Situation :=
  Situation.acts 24 readingBroken ([], ⟨oneByOneEngine, []⟩)

/-- What the connection calls when the stream fails. -/
def brokenOff : List Instruction := [.stream (.fail (.arising (.database "broken" "broken")))]

/-- Where the transaction is to be marked as terminated. -/
def terminatedReading : List Move × Situation :=
  Situation.advances 4 (.called brokenOff :: waitingPoint.1, ⟨waitingPoint.2.engine, brokenOff⟩)

/-- Where it leads if that throws. -/
def unawaitedPoint : List Move × Situation :=
  let th : Thrown := .arising .nested
  (.answered (.terminate (.arising (.database "broken" "broken"))) (.raise th) ::
      terminatedReading.1,
    ⟨terminatedReading.2.engine, (Reply.raise th).onto terminatedReading.2.agenda.tail⟩)

/-- The iteration waits for good with nothing to read, and no response is owed. -/
theorem not_awaitsResponse :
    Run .feeding ⟨oneByOneEngine, []⟩ unawaitedPoint.1 unawaitedPoint.2 ∧
      unawaitedPoint.2.agenda = [] ∧
      unawaitedPoint.2.engine.iterations[0]?.isSome = true ∧
      unawaitedPoint.2.engine.reader.phase = .reading ∧
      unawaitedPoint.2.engine.reader.signals = [] ∧
      ¬ AwaitsResponse unawaitedPoint.1 unawaitedPoint.2 := by
  have calls : ∀ next, .calls next ∈ readingBroken → ∀ i ∈ next, Conduct.feeding.Calls i := by
    intro next mem i hi
    simp only [readingBroken, List.mem_cons, List.not_mem_nil, or_false, reduceCtorEq,
      Act.calls.injEq] at mem
    subst mem
    simp only [List.mem_cons, List.not_mem_nil, or_false] at hi
    rcases hi with rfl | rfl <;>
      exact ⟨rfl, by simp [Conduct.feeding, Instruction.isOverCursor, Instruction.isClaim,
        Instruction.isDemand, Instruction.isTaking, Instruction.isOpening]⟩
  have breaks : ∀ i ∈ brokenOff, Conduct.feeding.Calls i := by
    intro i hi
    obtain rfl : i = .stream (.fail (.arising (.database "broken" "broken"))) := by
      simpa [brokenOff] using hi
    exact ⟨rfl, by simp [Conduct.feeding, Instruction.isOverCursor, Instruction.isClaim,
      Instruction.isDemand, Instruction.isTaking, Instruction.isOpening]⟩
  have waits : Run .feeding ⟨oneByOneEngine, []⟩ waitingPoint.1 waitingPoint.2 :=
    .acts_of_inTurn rfl calls (by decide +kernel)
  have idle : waitingPoint.2.agenda = [] := List.isEmpty_iff.1 (by decide +kernel)
  have broken := waits.call idle breaks (show Move.inTurn _ _ = true by decide +kernel)
  have terminated : Run .feeding ⟨oneByOneEngine, []⟩ terminatedReading.1 terminatedReading.2 :=
    broken.advances_to 4 rfl (Conduct.feeding_keepsAll (by decide +kernel))
  have run : Run .feeding ⟨oneByOneEngine, []⟩ unawaitedPoint.1 unawaitedPoint.2 :=
    terminated.snoc (.answer (.raise (.arising .nested)))
      ⟨show Move.inTurn _ _ = true by decide +kernel, .raise _ rfl (by simp [Conduct.feeding])⟩
  refine ⟨run, List.isEmpty_iff.1 (by decide +kernel), by decide +kernel, by decide +kernel,
    List.isEmpty_iff.1 (by decide +kernel), fun awaits => ?_⟩
  have owed : unanswered unawaitedPoint.1 = 1 := awaits.owed
  have none : unanswered unawaitedPoint.1 = 0 := by decide +kernel
  omega

end Runs

end QueryStream
