/-
  Proofs/StartResponses.lean --- what is known of the start of a query.

  A success or a failure that comes in is a response.  What it brings is said without reference
  to what came before (`StartResponse.keys?` and its siblings): a success brings its keys if they
  can be read, its query if the keys and the query can, its time if all three can, and only then
  does it resolve the outcome.  One equation says what a response does to an outcome
  (`RunOutcome.take_eq`), and a run of an engine gives the outcome its responses one after the
  other (`Run.run_eq`).

  The main result (`Run.startsAs`) is twofold.  In every run the outcome is resolved for good by
  the first response that resolves it, no time is known before, and each field is that of the last
  success that could be read so far.  And with no success that is refused half-way before the
  outcome is resolved, and none that can be read after it, the outcome is pending until the first
  response that resolves it, and what that response makes of it from then on.

  Out of order it is otherwise.  A success is not refused for coming late, and one that is refused
  leaves what was read of it (`keyed_startedLate`, `keyed_garbledQuery`).
-/
import QueryStream.Proofs.Cursor.Valediction
import QueryStream.Proofs.Engine.Origin

set_option autoImplicit false

namespace QueryStream

/-! ## Responses -/

/-- A response to the request that starts a query. -/
inductive StartResponse where
  | success (metadata : Value)
  | failure (f : Failure)

namespace StartResponse

/-- The keys that a response brings, if it is a success and they can be read. -/
def keys? : StartResponse → Option (List Value)
  | .success metadata => (metadata.field "fields" >>= Value.readParts).toOption
  | .failure _ => none

/-- The query that a response names, if it is a success and can be read so far. -/
def query? : StartResponse → Option Int
  | .success metadata =>
      (keys? (.success metadata)).bind fun _ =>
        (metadata.field "qid" >>= Value.readWhole?).toOption.map fun query =>
          query.getD lastQuery
  | .failure _ => none

/-- The time to the first record that a response brings, if it is a success and can be read. -/
def time? : StartResponse → Option (Option Int)
  | .success metadata =>
      (query? (.success metadata)).bind fun _ =>
        (metadata.field "t_first" >>= Value.readWhole?).toOption
  | .failure _ => none

/-- What a response says of the start, unless it is refused: a failure, or none. -/
def verdict? : StartResponse → Option (Option Failure)
  | .success metadata => (time? (.success metadata)).map fun _ => none
  | .failure f => some (some f)

/-- What a response makes of an outcome that was pending, if it resolves it. -/
def outcome? (r : StartResponse) : Option RunOutcome :=
  r.verdict?.map fun verdict =>
    { keys := r.keys?.getD RunOutcome.pending.keys
      query := r.query?.getD RunOutcome.pending.query
      availableAfter := r.time?.getD RunOutcome.pending.availableAfter
      resolution := some verdict }

/-- Whether no success is refused half-way before a response resolves the outcome, and none of
which anything can be read comes after it. -/
def inOrder : List StartResponse → Bool
  | [] => true
  | r :: later =>
      if r.verdict?.isSome then later.all fun late => late.keys?.isNone
      else r.keys?.isNone && inOrder later

theorem query?_eq_none {r : StartResponse} (unread : r.keys? = none) : r.query? = none := by
  cases r with
  | success metadata => simp [query?, unread]
  | failure f => rfl

theorem time?_eq_none {r : StartResponse} (unread : r.query? = none) : r.time? = none := by
  cases r with
  | success metadata => simp [time?, unread]
  | failure f => rfl

/-- A response that brings a time resolves the outcome. -/
theorem time?_eq_none_of_verdict? {r : StartResponse} (refused : r.verdict? = none) :
    r.time? = none := by
  cases r with
  | success metadata => simpa [verdict?] using refused
  | failure f => rfl

theorem keys?_eq_none_of_verdict? {r : StartResponse} {f : Failure}
    (failed : r.verdict? = some (some f)) : r.keys? = none := by
  cases r with
  | success metadata => simp [verdict?] at failed
  | failure f => rfl

end StartResponse

/-! ## One response -/

namespace RunOutcome

/-- What a response makes of an outcome. -/
def take (o : RunOutcome) : StartResponse → RunOutcome
  | .success metadata => (o.succeed metadata).1
  | .failure f => o.fail f

theorem readKeys_eq (o : RunOutcome) (metadata : Value) :
    o.readKeys metadata
      = (metadata.field "fields" >>= Value.readParts).map fun keys => { o with keys } := by
  unfold readKeys
  cases metadata.field "fields" with
  | error c => rfl
  | ok found => cases found.readParts <;> rfl

theorem readQuery_eq (o : RunOutcome) (metadata : Value) :
    o.readQuery metadata
      = (metadata.field "qid" >>= Value.readWhole?).map fun query =>
          { o with query := query.getD lastQuery } := by
  unfold readQuery
  cases metadata.field "qid" with
  | error c => rfl
  | ok found => cases found.readWhole? <;> rfl

theorem readTime_eq (o : RunOutcome) (metadata : Value) :
    o.readTime metadata
      = (metadata.field "t_first" >>= Value.readWhole?).map fun availableAfter =>
          { o with availableAfter } := by
  unfold readTime
  cases metadata.field "t_first" with
  | error c => rfl
  | ok found => cases found.readWhole? <;> rfl

theorem resolve_eq (o : RunOutcome) (response : Option Failure) :
    o.resolve response = { o with resolution := o.resolution.or (some response) } := by
  obtain ⟨keys, query, availableAfter, resolution⟩ := o
  cases resolution with
  | none => rfl
  | some first => rfl

/-- A response leaves a field as it was, unless it brings one; and it resolves the outcome, unless
the response is refused or the outcome is resolved. -/
theorem take_eq (o : RunOutcome) (r : StartResponse) :
    o.take r =
      { keys := r.keys?.getD o.keys
        query := r.query?.getD o.query
        availableAfter := r.time?.getD o.availableAfter
        resolution := o.resolution.or r.verdict? } := by
  cases r with
  | failure f => exact o.resolve_eq (some f)
  | success metadata =>
      -- a success is read field by field, and each that is refused ends the reading
      simp only [take, succeed, readKeys_eq, readQuery_eq, readTime_eq, StartResponse.verdict?,
        StartResponse.time?, StartResponse.query?, StartResponse.keys?]
      cases metadata.field "fields" >>= Value.readParts with
      | error c => simp [Except.map, Except.toOption]
      | ok keys =>
          cases metadata.field "qid" >>= Value.readWhole? with
          | error c => simp [Except.map, Except.toOption]
          | ok query =>
              cases metadata.field "t_first" >>= Value.readWhole? with
              | error c => simp [Except.map, Except.toOption]
              | ok time => simp [Except.map, Except.toOption, resolve_eq]

/-! ## One response after the other -/

section Sequences

variable {o : RunOutcome} {r : StartResponse} {responses : List StartResponse}

/-- A field that a response sets to what it brings, if it brings anything, is what was brought
last. -/
theorem field_foldl_take {α : Type} {field : RunOutcome → α} {brings : StartResponse → Option α}
    (taken : ∀ (o : RunOutcome) (r : StartResponse), field (o.take r) = (brings r).getD (field o))
    (o : RunOutcome) (responses : List StartResponse) :
    field (responses.foldl take o)
      = (responses.filterMap brings).getLast?.getD (field o) := by
  induction responses generalizing o with
  | nil => rfl
  | cons r later ih =>
      rw [List.foldl_cons, ih, taken, List.filterMap_cons]
      cases brings r with
      | none => rfl
      | some brought => cases (later.filterMap brings) <;> simp [List.getLast?_cons]

/-- An outcome is resolved by the first response that is not refused, unless it is resolved
already. -/
theorem resolution_foldl_take (o : RunOutcome) (responses : List StartResponse) :
    (responses.foldl take o).resolution
      = o.resolution.or (responses.filterMap StartResponse.verdict?).head? := by
  induction responses generalizing o with
  | nil => simp
  | cons r later ih =>
      rw [List.foldl_cons, ih, take_eq, List.filterMap_cons, Option.or_assoc]
      cases r.verdict? with
      | none => rfl
      | some verdict => simp

theorem take_of_resolved (unread : r.keys? = none) (resolved : o.isResolved = true) :
    o.take r = o := by
  have query := StartResponse.query?_eq_none unread
  have time := StartResponse.time?_eq_none query
  obtain ⟨first, resolution⟩ := Option.isSome_iff_exists.1 resolved
  rw [take_eq, unread, query, time, resolution]
  obtain ⟨keys, query, availableAfter, _⟩ := o
  cases resolution
  rfl

theorem foldl_take_of_resolved (unread : ∀ r ∈ responses, r.keys? = none)
    (resolved : o.isResolved = true) : responses.foldl take o = o := by
  induction responses with
  | nil => rfl
  | cons r later ih =>
      rw [List.foldl_cons, take_of_resolved (unread r List.mem_cons_self) resolved]
      exact ih fun late mem => unread late (List.mem_cons_of_mem r mem)

/-- A response that is refused before its keys are read leaves nothing. -/
theorem take_of_refused (unread : r.keys? = none) (refused : r.verdict? = none) :
    o.take r = o := by
  have query := StartResponse.query?_eq_none unread
  rw [take_eq, unread, query, StartResponse.time?_eq_none query, refused, Option.or_none]
  rfl

/-- What responses in order make of an outcome that was pending is what the first of them that
resolves it does. -/
theorem foldl_take_pending (ordered : StartResponse.inOrder responses = true) :
    responses.foldl take .pending
      = (responses.filterMap StartResponse.outcome?).head?.getD .pending := by
  induction responses with
  | nil => rfl
  | cons r later ih =>
      rw [StartResponse.inOrder] at ordered
      rw [List.foldl_cons, List.filterMap_cons, StartResponse.outcome?]
      cases verdict : r.verdict? with
      | none =>
          simp only [verdict, Option.isSome_none, Bool.false_eq_true, if_false, Bool.and_eq_true,
            Option.isNone_iff_eq_none] at ordered
          rw [take_of_refused ordered.1 verdict]
          exact ih ordered.2
      | some found =>
          simp only [verdict, Option.isSome_some, if_true, List.all_eq_true,
            Option.isNone_iff_eq_none] at ordered
          have taken := foldl_take_of_resolved (o := pending.take r) ordered
            (by rw [take_eq, verdict]; rfl)
          rw [taken, take_eq, verdict]
          rfl

/-- What is known of the start once responses came, first to last. -/
structure StartsAs (responses : List StartResponse) (o : RunOutcome) : Prop where
  /-- the first response that is not refused resolves the outcome, for good -/
  resolution : o.resolution = (responses.filterMap StartResponse.verdict?).head?
  /-- each field is that of the last success that could be read so far -/
  keys : o.keys = (responses.filterMap StartResponse.keys?).getLast?.getD []
  query : o.query = (responses.filterMap StartResponse.query?).getLast?.getD lastQuery
  availableAfter :
    o.availableAfter = (responses.filterMap StartResponse.time?).getLast?.getD none
  /-- no time is known before the outcome is resolved -/
  untimed : o.isResolved = false → o.availableAfter = none
  /-- with the responses in order, the first that resolves the outcome settles all of it -/
  settled : StartResponse.inOrder responses = true →
    o = (responses.filterMap StartResponse.outcome?).head?.getD .pending
  /-- and a query that failed to start has no keys -/
  keyless : StartResponse.inOrder responses = true → o.runError?.isSome = true → o.keys = []

/-- An outcome that is the first of some responses has no keys if it is a failure. -/
theorem keys_eq_nil_of_runError?
    (settled : o = (responses.filterMap StartResponse.outcome?).head?.getD .pending)
    (failed : o.runError?.isSome = true) : o.keys = [] := by
  cases first : (responses.filterMap StartResponse.outcome?).head? with
  | none =>
      rw [settled, first]
      rfl
  | some found =>
      have mem := List.mem_of_head? first
      obtain ⟨r, -, made⟩ := List.mem_filterMap.1 mem
      rw [first, Option.getD_some] at settled
      subst settled
      obtain ⟨verdict, said, rfl⟩ := Option.map_eq_some_iff.1 made
      cases verdict with
      | none => simp [runError?] at failed
      | some f =>
          rw [StartResponse.keys?_eq_none_of_verdict? said]
          rfl

theorem startsAs_foldl_take (responses : List StartResponse) :
    StartsAs responses (responses.foldl take .pending) := by
  have resolution := resolution_foldl_take .pending responses
  have availableAfter : (responses.foldl take .pending).availableAfter = _ :=
    field_foldl_take (fun o r => by rw [take_eq]) .pending responses
  exact
    { resolution := by rw [resolution]; rfl
      keys := field_foldl_take (fun o r => by rw [take_eq]) .pending responses
      query := field_foldl_take (fun o r => by rw [take_eq]) .pending responses
      availableAfter
      untimed := fun unresolved => by
        have refused : responses.filterMap StartResponse.verdict? = [] := by
          rw [isResolved, resolution, Option.isSome_eq_false_iff] at unresolved
          simpa [pending] using unresolved
        have untimed : ∀ r ∈ responses, r.time? = none := fun r mem =>
          StartResponse.time?_eq_none_of_verdict? (List.filterMap_eq_nil_iff.1 refused r mem)
        rw [availableAfter, List.filterMap_eq_nil_iff.2 untimed]
        rfl
      settled := foldl_take_pending
      keyless := fun ordered => keys_eq_nil_of_runError? (foldl_take_pending ordered) }

end Sequences

end RunOutcome

/-! ## Runs -/

/-- The response that an instruction takes in. -/
def Instruction.startResponse? : Instruction → Option StartResponse
  | .runSucceed metadata => some (.success metadata)
  | .runFail f => some (.failure f)
  | _ => none

/-- The response that a move takes in. -/
def Move.startResponse? : Move → Option StartResponse
  | .carried i _ => i.startResponse?
  | _ => none

/-- The responses of a history, first to last. -/
def startResponses (h : List Move) : List StartResponse := h.reverse.filterMap Move.startResponse?

theorem startResponses_cons (m : Move) (h : List Move) :
    startResponses (m :: h) = startResponses h ++ m.startResponse?.toList := by
  rw [startResponses, startResponses, List.reverse_cons, List.filterMap_append]
  cases response : m.startResponse? <;> simp [response]

section Runs

variable {c : Conduct} {start s s' : Situation} {h : List Move} {m : Move} {i : Instruction}

namespace Engine

variable {e e' : Engine}

theorem Alters.run_eq (alters : e.Alters i e') (none : i.startResponse? = none) :
    e'.run = e.run := by
  have calm : i.startsRun = false := by
    cases i with
    | runSucceed metadata => cases none
    | _ => rfl
  refine (alters.sameStart calm ?_).run
  rintro f rfl
  cases none

theorem run_exec (e : Engine) (i : Instruction) :
    (e.exec i).1.run = i.startResponse?.toList.foldl RunOutcome.take e.run := by
  cases response : i.startResponse? with
  | none => exact (e.alters_exec i).run_eq response
  | some r =>
      cases i with
      | runSucceed metadata =>
          cases response
          simp only [exec, succeedRun]
          split <;> rfl
      | runFail f =>
          cases response
          rfl
      | _ => cases response

end Engine

theorem Step.run_eq (step : Step s m s') :
    s'.engine.run = m.startResponse?.toList.foldl RunOutcome.take s.engine.run := by
  cases step with
  | @carry e i rest own => exact e.run_exec i
  | answer r => rfl
  | @begin e j loop next => exact (Engine.altersBy_runJob (e := { e with loop }) j).sameStart.run
  | call next => rfl

/-- A run gives the outcome its responses one after the other. -/
theorem Run.run_eq (run : Run c start h s) :
    s.engine.run = (startResponses h).foldl RunOutcome.take start.engine.run := by
  induction run with
  | nil => rfl
  | snoc run step permitted ih => rw [step.run_eq, ih, startResponses_cons, List.foldl_append]

/-- In every run the first response that is not refused resolves the outcome of the start for
good; and with the responses in order it settles all that is known of the start: the keys, the
query, the time and the failure. -/
theorem Run.startsAs (run : Run c start h s) (fresh : start.engine.run = .pending) :
    RunOutcome.StartsAs (startResponses h) s.engine.run := by
  rw [run.run_eq, fresh]
  exact RunOutcome.startsAs_foldl_take (startResponses h)

end Runs

/-! ## Three starts -/

/-- The metadata of a success that brings a key, names a query and says when it was available. -/
def startMetadata (query : Value) : Value :=
  .map [(.text "fields", .list [.text "n.name"]), (.text "qid", query), (.text "t_first", .int 3)]

/-- A failure to start. -/
def startFailure : Failure := ⟨some "boom", .database "Neo.ClientError" "boom"⟩

/-- Where responses lead that are taken in one after the other. -/
def respondedPoint (responses : List Instruction) : List Move × Situation :=
  Situation.acts 4 (responses.map fun i => .calls [i]) ([], ⟨bareEngine, []⟩)

/-- A success whose keys cannot be read, one that can be read, and a failure. -/
def startedOnce : List Instruction :=
  [.runSucceed (.map [(.text "fields", .int 7)]), .runSucceed (startMetadata (.int 9)),
    .runFail startFailure]

theorem startsAs_startedOnce :
    Run .discreet ⟨bareEngine, []⟩ (respondedPoint startedOnce).1 (respondedPoint startedOnce).2 ∧
      bareEngine.run = .pending ∧
      RunOutcome.StartsAs (startResponses (respondedPoint startedOnce).1)
        (respondedPoint startedOnce).2.engine.run ∧
      StartResponse.inOrder (startResponses (respondedPoint startedOnce).1) = true ∧
      (startResponses (respondedPoint startedOnce).1).length = 3 ∧
      (respondedPoint startedOnce).2.engine.run.query = 9 := by
  have run : Run .discreet ⟨bareEngine, []⟩ (respondedPoint startedOnce).1
      (respondedPoint startedOnce).2 := .of_acts rfl (by decide +kernel) (by decide +kernel)
  exact ⟨run, rfl, run.startsAs rfl, by decide +kernel, by decide +kernel, by decide +kernel⟩

/-- A query that failed to start has keys, once a success comes late. -/
theorem keyed_startedLate :
    let point := respondedPoint [.runFail startFailure, .runSucceed (startMetadata (.int 9))]
    Run .discreet ⟨bareEngine, []⟩ point.1 point.2 ∧
      point.2.engine.run.runError?.isSome = true ∧ point.2.engine.run.keys.isEmpty = false ∧
      point.2.engine.run.query = 9 ∧ point.2.engine.run.availableAfter = some 3 :=
  ⟨.of_acts rfl (by decide +kernel) (by decide +kernel), by decide +kernel, by decide +kernel,
    by decide +kernel, by decide +kernel⟩

/-- A query of which nothing is known to have started has keys, once a success is refused
half-way. -/
theorem keyed_garbledQuery :
    let point := respondedPoint [.runSucceed (startMetadata (.text "first"))]
    Run .discreet ⟨bareEngine, []⟩ point.1 point.2 ∧
      point.2.engine.run.isResolved = false ∧ point.2.engine.run.keys.isEmpty = false :=
  ⟨.of_acts rfl (by decide +kernel) (by decide +kernel), by decide +kernel, by decide +kernel⟩

end QueryStream
