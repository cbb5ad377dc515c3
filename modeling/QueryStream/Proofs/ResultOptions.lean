/-
  Proofs/ResultOptions.lean --- what a result makes of the options it is given.

  A result is made with options: a number of records to request at a time, and a cap on the
  records delivered.  It keeps both, and looks at the first.  Records are counted by the stream,
  which has options of its own; so over a stream that has no cap, a result that was given one
  reads all rows nevertheless, and nothing of what is left is dropped (`readsPastCap`).  With
  that cap the stream itself would have stopped there (`readout`).
-/
import QueryStream.Proofs.Readout

set_option autoImplicit false

namespace QueryStream

/-- A result keeps the cap that it is given, with other options left open or not. -/
theorem AnyOptions.maxRecordCount_resolve {wanted : AnyOptions} {cap : Value}
    (capped : wanted.toOptions.maxRecordCount = some cap) :
    (AnyOptions.resolve (some wanted)).maxRecordCount = cap := by
  cases wanted with
  | partly open_ =>
      have capped : open_.maxRecordCount = some cap := capped
      simp [resolve, FullOptions.override, capped]
  | fully full => exact Option.some.inj capped

/-! ## Reading without a cap -/

/-- The rows are read as far as they are sent, and nothing is asked for but records: all rows, or
those sent before an answer breaks off. -/
structure Readout.ReadsAll (r : Readout) (script : ConnectionScript) (n query : Int)
    (rows : List Value) : Prop where
  /-- nothing is dropped -/
  pulls : ∀ m ∈ r.written, m = .pull n query
  whole : r.ending = none → r.read = rows
  broken : ∀ f, r.ending = some f →
    ∃ b ∈ script.brokenBatch, f = b.failure ∧ r.read = rows.take (b.sent n (b.pull - 1).toNat)

section Uncapped

variable {script : ConnectionScript} {n m query : Int} {delivered : Nat} {rows : List Value}

/-- What is no positive number caps nothing. -/
theorem underCap_of_nonpos (uncapped : m ≤ 0) : underCap m delivered rows = rows :=
  if_neg (Int.not_lt.2 uncapped)

/-- As many requests as it takes cover everything. -/
theorem le_requestsFor_mul (positive : 0 < n) (count : Nat) :
    count ≤ requestsFor n count * n.toNat := by
  have limited : n ≠ unlimited := by
    unfold unlimited
    omega
  have some : 0 < n.toNat := by omega
  have ceiling : count ≤ (count + n.toNat - 1) / n.toNat * n.toNat := by
    have := Nat.lt_div_mul_add (a := count + n.toNat - 1) some
    omega
  simp only [requestsFor, if_neg limited]
  exact Nat.le_trans ceiling (Nat.mul_le_mul_right _ (Nat.le_max_right ..))

/-- Where nothing caps, everything is read. -/
theorem readout_readsAll (valid : n = unlimited ∨ 0 < n) (uncapped : m ≤ 0) :
    (readout script n m query 0 0 rows).ReadsAll script n query rows := by
  simp only [readout, underCap_of_nonpos uncapped]
  cases among : script.breakAmong? 0 (requestsFor n rows.length) with
  | none =>
      have covers : ¬ (n ≠ unlimited ∧ requestsFor n rows.length * n.toNat < rows.length) := by
        rintro ⟨limited, left⟩
        have := le_requestsFor_mul (valid.resolve_left limited) rows.length
        omega
      rw [if_neg covers, List.append_nil]
      exact {
        pulls := fun _ mem => List.eq_of_mem_replicate mem
        whole := fun _ => rfl
        broken := fun _ ends => by cases ends }
  | some b =>
      have found : b ∈ script.brokenBatch := (Option.filter_eq_some_iff.1 among).1
      exact {
        pulls := fun _ mem => List.eq_of_mem_replicate mem
        whole := fun ends => by cases ends
        broken := fun f ends => by
          cases ends
          exact ⟨b, found, rfl, by simp⟩ }

end Uncapped

/-! ## Reading with a cap that only the result has -/

variable {e : Engine} {plan : CursorPlan} {given former : Value} {size : FetchSize}

/-- A result that is given a cap keeps it, and does not heed it: over a stream with the options
in use where nothing else is said, its records are read to their end as if there were none.
Whatever the cap, the rows, the number requested at a time, the moments at which the server
answers and the portions in which it does, all rows are read that are sent, and none are dropped;
with more rows than the cap, more of them are read than it allows. -/
theorem readsPastCap {query : Query} {server : ServerInfo} {m : Int} {owner : Owner}
    {run : RunOutcome} {release : Option Release} {script : ConnectionScript} {rows : List Value}
    {wanted : AnyOptions} (capped : wanted.toOptions.maxRecordCount = some (.int m))
    (unused : ∀ r ∈ release, r.promise = none)
    (made : e = .overStream query server FullOptions.standard.maxRecordCount owner run release)
    (opens : ∃ e' next, e.withReader.openCursor plan = (e', .go next))
    (starts : e.chooseRunError plan.runError = none)
    (chosen : (QueryResult.start ⟨0, AnyOptions.resolve (some wanted), false⟩ given former).2
      = .ok size)
    (fits : e.Fits rows) (obliges : script.Obliges e) {answers : AnswerTime} {pace : List Nat}
    {terminationFailure : Option Failure} (bears : owner.Bears script terminationFailure)
    (answering : answers ≠ .never) (threshold : Option Log.Level) (forwards : Bool) :
    (AnyOptions.resolve (some wanted)).maxRecordCount = .int m ∧
      ∃ k r, World.HasRead
          (World.settle k ⟨e.withReader,
            .fresh threshold (.fresh { script with answers, pace } rows) terminationFailure
              forwards,
            readAll plan (AnyOptions.resolve (some wanted)) given former⟩)
          run.keys r ∧
        r.ReadsAll script (Cursor.capped size.value) run.query rows ∧
        (script.brokenBatch = none → r.read = rows ∧ (m < rows.length → m < r.read.length)) := by
  refine ⟨AnyOptions.maxRecordCount_resolve capped, ?_⟩
  have pristine : e.Pristine := made ▸ Engine.pristine_overStream unused
  obtain ⟨hasStream, fresh, nothing, cap, rfl, rfl⟩ : e.hasStream = true ∧ e.stream = .fresh ∧
      e.results = #[] ∧ e.cap = .int (-1) ∧ e.run = run ∧ e.owner = owner := by
    simp [made, Engine.overStream, FullOptions.standard]
  have obliges' : ConnectionScript.Obliges { script with answers, pace } e := { obliges with }
  obtain ⟨k, read⟩ := Comes.readOut pristine hasStream fresh nothing cap opens starts chosen fits
    obliges' bears.paced answering
    (.fresh threshold (.fresh { script with answers, pace } rows) terminationFailure forwards) rfl
  let r := readout script (Cursor.capped size.value) (-1) e.run.query 0 0 rows
  have all : r.ReadsAll script (Cursor.capped size.value) e.run.query rows :=
    readout_readsAll size.capped_valid (by decide)
  refine ⟨k, r, read, all, fun unbroken => ?_⟩
  have ends : r.ending = none := by
    refine Option.eq_none_iff_forall_ne_some.2 fun f ends => ?_
    obtain ⟨b, found, -⟩ := all.broken f ends
    simp [unbroken] at found
  exact ⟨all.whole ends, fun more => by rwa [all.whole ends]⟩

section Sample

/-- A stream of a session over a query with one column, with the options in use where nothing
else is said. -/
def plainStream : Engine :=
  .overStream ⟨.text "UNWIND range(1, 5) AS n RETURN n", .null⟩ ⟨.null, .null, .null⟩
    FullOptions.standard.maxRecordCount (.session 0) oneColumn (some ⟨true, none⟩)

/-- Options that ask for no more than one record. -/
def onlyOne : AnyOptions := .partly ⟨none, some (.int 1)⟩

/-- Of a result that is to deliver one record, all five are read. -/
theorem readsPastCap_oneOfFive :
    ∃ k r, World.HasRead
        (World.settle k ⟨plainStream.withReader,
          .fresh none (.fresh { obligingScript with answers := .later, pace := [1] } fiveRows) none
            false,
          readAll ⟨.ofRun, .shared, true, true⟩ (AnyOptions.resolve (some onlyOne)) (.int 2) .null⟩)
        [.text "n"] r ∧
      r.read = fiveRows ∧ ∀ m ∈ r.written, m = .pull 2 7 := by
  have fits : plainStream.Fits fiveRows := by
    refine ⟨rfl, fun row mem => ?_⟩
    simp only [fiveRows, List.mem_cons, List.not_mem_nil, or_false] at mem
    rcases mem with rfl | rfl | rfl | rfl | rfl
    all_goals exact ⟨_, rfl, rfl⟩
  have closes : plainStream.Closes (.map []) := ⟨⟨.null, rfl, rfl⟩, ⟨_, rfl⟩⟩
  have obliges : obligingScript.Obliges plainStream :=
    ⟨rfl, by decide, rfl, closes, closes⟩
  have bears : (Owner.session 0).Bears obligingScript none := by simp [Owner.Bears, obligingScript]
  have opens : ∃ e next, plainStream.withReader.openCursor ⟨.ofRun, .shared, true, true⟩
      = (e, .go next) := ⟨_, _, rfl⟩
  have chosen : (QueryResult.start ⟨0, AnyOptions.resolve (some onlyOne), false⟩ (.int 2) .null).2
      = .ok ⟨2, .inr (by decide)⟩ := rfl
  have answering : AnswerTime.later ≠ .never := by decide
  have unused : ∀ r ∈ some (⟨true, none⟩ : Release), r.promise = none := by simp
  obtain ⟨-, k, r, read, all, whole⟩ :=
    readsPastCap (m := 1) rfl unused rfl opens rfl chosen fits obliges bears answering none
      false
  exact ⟨k, r, read, (whole rfl).1, all.pulls⟩

end Sample

end QueryStream
