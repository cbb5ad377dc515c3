/-
  Proofs/Requests.lean --- requests, their responses, and who waits for them.

  Over a connection that answers every request once, a stream under a cursor never has
  two requests in flight: none when it is ready or over, and one while it streams or is
  being given up.  And whoever waits for the outcome of the cursor while nothing is
  under way waits for the response to a request (`Run.inBalance`), as long as the owner of
  the stream threw nothing while the outcome was open.  What it throws when it is told of the
  end leaves the stream before the cursor is told, and the outcome stays open although no
  response is owed (`not_heeded`).
-/
import QueryStream.Proofs.Requests.Waiters

set_option autoImplicit false

namespace QueryStream

/-- While nothing is under way, who waits for the outcome waits for a response. -/
def Heeded (h : List Move) (s : Situation) : Prop :=
  s.agenda = [] → s.engine.loop.ready = [] →
    ∀ p ∈ handedOut h, s.engine.loop.isDone p = false → unanswered h = 1

/-- In a history and where it led, requests and responses are in balance, and nobody
waits for a response that nobody owes. -/
structure InBalance (o : PromiseId) (h : List Move) (s : Situation) : Prop where
  /-- there are never two requests in flight -/
  inFlight : unanswered h = 0 ∨ unanswered h = 1
  /-- between calls a response is owed while the stream is streaming or cancelled -/
  between : s.agenda = [] → unanswered h = s.engine.stream.phase.owed
  /-- whenever a request was written, none was unanswered -/
  written : ∀ later m earlier, h = later ++ m :: earlier → m.isWrite = true →
    unanswered earlier = 0
  /-- unless the owner threw something while the outcome was open, nobody waits in vain -/
  waiting : Spares o h → Heeded h s

section Runs

variable {c : Conduct} {o : PromiseId} {e : Engine} {h : List Move} {s : Situation}

theorem Run.unanswered_nonneg {start : Situation} (serves : c.Serves) (run : Run c start h s) :
    0 ≤ unanswered h := by
  refine run.invariant (I := fun h _ => 0 ≤ unanswered h) (Int.le_refl 0) ?_
  intro h s s' m nonneg _ permitted
  have hwrite : (0 : Int) ≤ if m.isWrite then 1 else 0 := by split <;> omega
  cases responds : m.responds h with
  | false =>
      have hun : unanswered (m :: h) = unanswered h + if m.isWrite then 1 else 0 := by
        simp [unanswered, responds]
      omega
  | true =>
      have pending := serves.once h m permitted.1 responds
      have hun : unanswered (m :: h) = unanswered h + (if m.isWrite then 1 else 0) - 1 := by
        simp [unanswered, responds]
      omega

theorem Served.unanswered_of_write {cursor : Cursor} {m : Move} {s' : Situation}
    (served : Served o h s cursor) (nonneg : 0 ≤ unanswered h) (step : Step s m s')
    (write : m.isWrite = true) : unanswered h = 0 := by
  cases hagenda : s.agenda with
  | nil =>
      obtain ⟨e, todo⟩ := s
      obtain rfl : todo = _ := hagenda
      cases step <;> simp [Move.isWrite] at write
  | cons i rest =>
      have hi : i.isWrite = true := (step.isWrite_eq hagenda).symm.trans write
      have hwrites : writes s.agenda = 1 + writes rest := by
        rw [hagenda, ← List.singleton_append, writes_append]
        simp [writes, hi]
      have balance := served.balance
      have hrest := writes_nonneg rest
      have howed := s.engine.stream.phase.owed_le_one
      omega

/-- Whoever waits for the outcome waits for a response, unless the owner threw something while
the outcome was open. -/
theorem Run.heeded (begun : e.Begun o) (serves : c.Serves) (run : Run c ⟨e, []⟩ h s)
    (spares : Spares o h) : Heeded h s := by
  intro idle quiet p hp pending
  obtain ⟨cursor, served, promising, followed, -, outlook⟩ := Run.attending begun serves run
  have balance := served.balance
  obtain ⟨_, done | ⟨settled, k, settles, waits⟩⟩ := followed.follows p hp
  · simp [pending] at done
  · have unresolved : s.engine.loop.isDone o = false := by
      rcases waits with ⟨watchers, hw, _⟩ | hk
      · simp [Loop.isDone, Loop.settlement?_of_unsettled hw]
      · simp [quiet] at hk
    have consumed : cursor.isConsumed = true := by simpa [unresolved] using settled
    have cancelled : s.engine.stream.phase = .cancelled := by
      rcases promising.consumed consumed with cancelled | terminal | done
      · exact cancelled
      · have outlook := (outlook spares).resolve_left (by simp [unresolved])
        rw [idle] at outlook
        simpa [unresolved] using outlook.resolved_of_idle terminal
      · simp [unresolved] at done
    have : writes s.agenda = 0 := by simp [idle, writes]
    have : s.engine.stream.phase.owed = 1 := by rw [cancelled]; rfl
    omega

/-- Over a connection that answers every request once, requests and responses are in
balance, and nobody waits for a response that nobody owes, unless the owner threw something while
the outcome was open. -/
theorem Run.inBalance (begun : e.Begun o) (serves : c.Serves) (run : Run c ⟨e, []⟩ h s) :
    InBalance o h s := by
  obtain ⟨cursor, served⟩ := Run.served begun serves run
  have nonneg := run.unanswered_nonneg serves
  have balance := served.balance
  have howed := s.engine.stream.phase.owed_le_one
  have hwrites := writes_nonneg s.agenda
  refine ⟨by omega, fun idle => ?_, ?_, run.heeded begun serves⟩
  · simpa [idle, writes] using balance
  · rintro later m earlier rfl write
    obtain ⟨s₁, s₂, run₁, step, _⟩ := run.exists_step_of_append
    obtain ⟨cursor₁, served₁⟩ := Run.served begun serves run₁
    exact served₁.unanswered_of_write (run₁.unanswered_nonneg serves) step write

/-- A connection that answers every request once, with well-formed metadata, and callers
that go through a cursor. -/
def Conduct.faithful : Conduct where
  refrains i := i.isOverCursor = false
  tame _ := False
  keeps h m := (m.responds h = true → 0 < unanswered h) ∧
    ∀ metadata r, m = .carried (.stream (.succeed metadata)) r → metadata.WellFormed

theorem Conduct.faithful_serves : Conduct.faithful.Serves where
  calls i calls := by simpa [faithful] using calls.2
  once _ _ keeps := keeps.1
  wellFormed _ _ _ keeps := keeps.2 _ _ rfl

/-- Whether responses in a history were given to requests that were unanswered. -/
def respondsInTurn : List Move → Bool
  | [] => true
  | m :: h => (!m.responds h || decide (0 < unanswered h)) && respondsInTurn h

/-- The metadata of a success, if a move is one. -/
def Move.metadata? : Move → Option Value
  | .carried (.stream (.succeed metadata)) _ => some metadata
  | _ => none

theorem Conduct.faithful_keepsAll (inTurn : respondsInTurn h = true)
    (wellFormed : ∀ metadata ∈ h.filterMap Move.metadata?, metadata.WellFormed) :
    Conduct.faithful.KeepsAll h := by
  refine keepsAll_of_cons (fun h => respondsInTurn h = true ∧
    ∀ metadata ∈ h.filterMap Move.metadata?, metadata.WellFormed) ?_ ⟨inTurn, wellFormed⟩
  rintro m h ⟨inTurn, wellFormed⟩
  simp only [respondsInTurn, Bool.and_eq_true, Bool.or_eq_true, Bool.not_eq_true',
    decide_eq_true_eq] at inTurn
  refine ⟨⟨fun responds => ?_, ?_⟩, inTurn.2, fun metadata hmem => ?_⟩
  · rcases inTurn.1 with silent | pending
    · simp [silent] at responds
    · exact pending
  · rintro metadata r rfl
    exact wellFormed metadata (by simp [Move.metadata?])
  · exact wellFormed metadata ((List.sublist_cons_self m h).filterMap _ |>.mem hmem)

/-- Metadata of a batch that is not the last one. -/
def moreToCome : Value := .map [(.text "has_more", .bool true)]

/-- Calls that take a consumer, request records and ask for the summary; then the
response comes. -/
def earlySummary : List Instruction :=
  [.cursor 0 (.install (.client 0 "records")), .cursor 0 (.request 2),
    .cursor 0 (.summary (.caller "summary")), .stream (.succeed moreToCome)]

/-- An engine on which the summary is asked for early. -/
def earlySummaryEngine : Engine :=
  { Engine.overStream ⟨.text "", .null⟩ ⟨.null, .null, .null⟩ (.int 0) .transaction .pending none
    with
    stream := { Stream.fresh with summaryConsumer := some (.cursor 0) }
    cursors := #[.fresh none 0 0]
    loop := Loop.idle.create }

/-- Where asking for the summary early leads, with its history. -/
def earlySummaryPoint : List Move × Situation :=
  Situation.advances 40 ([.called earlySummary], ⟨earlySummaryEngine, earlySummary⟩)

theorem begun_earlySummaryEngine : earlySummaryEngine.Begun 0 where
  hasStream := rfl
  stream := rfl
  cursors := ⟨none, 0, rfl⟩
  created := by decide
  sound := Loop.sound_idle.evolves (.create .refl)

theorem wellFormed_moreToCome : moreToCome.WellFormed := by
  refine ⟨⟨_, rfl⟩, fun query server availableAfter cause refused => ?_⟩
  cases refused

theorem inBalance_earlySummary :
    InBalance 0 earlySummaryPoint.1 earlySummaryPoint.2 ∧
      Heeded earlySummaryPoint.1 earlySummaryPoint.2 ∧ earlySummaryPoint.2.agenda = [] ∧
      earlySummaryPoint.2.engine.loop.ready = [] ∧ handedOut earlySummaryPoint.1 = [1] ∧
      earlySummaryPoint.2.engine.loop.isDone 1 = false ∧
      earlySummaryPoint.1.countP Move.isWrite = 2 := by
  have calls : ∀ i ∈ earlySummary, Conduct.faithful.Calls i := by
    intro i hi
    simp only [earlySummary, List.mem_cons, List.not_mem_nil, or_false] at hi
    rcases hi with rfl | rfl | rfl | rfl <;>
      exact ⟨rfl, by simp [Conduct.faithful, Instruction.isOverCursor]⟩
  have begun : Run .faithful ⟨earlySummaryEngine, []⟩ [.called earlySummary]
      ⟨earlySummaryEngine, earlySummary⟩ :=
    Run.nil.call rfl calls ⟨by simp [Move.responds], by simp⟩
  have metadata : earlySummaryPoint.1.filterMap Move.metadata? = [moreToCome] := rfl
  have keeps : Conduct.faithful.KeepsAll earlySummaryPoint.1 := by
    refine Conduct.faithful_keepsAll rfl fun found hfound => ?_
    rw [metadata] at hfound
    rw [List.mem_singleton.1 hfound]
    exact wellFormed_moreToCome
  have run := begun.advances 40 keeps
  have balanced := run.inBalance begun_earlySummaryEngine Conduct.faithful_serves
  have spares : Spares 0 earlySummaryPoint.1 := spares_of_calmly (calmly_of_returns rfl)
  exact ⟨balanced, balanced.waiting spares, rfl, rfl, rfl, rfl, rfl⟩

/-! ## An owner that throws -/

/-- Calls that take a consumer, request records and ask for the summary; then the stream
fails. -/
def earlyFailure : List Instruction :=
  [.cursor 0 (.install (.client 0 "records")), .cursor 0 (.request 2),
    .cursor 0 (.summary (.caller "summary")),
    .stream (.fail (.arising (.database "broken" "broken")))]

/-- Where the transaction is to be marked as terminated. -/
def terminatedEarly : List Move × Situation :=
  Situation.advances 25 ([.called earlyFailure], ⟨earlySummaryEngine, earlyFailure⟩)

/-- Where it leads if that throws. -/
def unheededPoint : List Move × Situation :=
  let th : Thrown := .arising .nested
  (.answered (.terminate (.arising (.database "broken" "broken"))) (.raise th) ::
      terminatedEarly.1,
    ⟨terminatedEarly.2.engine, (Reply.raise th).onto terminatedEarly.2.agenda.tail⟩)

/-- The one who asked for the summary waits for good, and no response is owed. -/
theorem not_heeded :
    Run .faithful ⟨earlySummaryEngine, []⟩ unheededPoint.1 unheededPoint.2 ∧
      ¬ Heeded unheededPoint.1 unheededPoint.2 := by
  have calls : ∀ i ∈ earlyFailure, Conduct.faithful.Calls i := by
    intro i hi
    simp only [earlyFailure, List.mem_cons, List.not_mem_nil, or_false] at hi
    rcases hi with rfl | rfl | rfl | rfl <;>
      exact ⟨rfl, by simp [Conduct.faithful, Instruction.isOverCursor]⟩
  have begun : Run .faithful ⟨earlySummaryEngine, []⟩ [.called earlyFailure]
      ⟨earlySummaryEngine, earlyFailure⟩ :=
    Run.nil.call rfl calls ⟨by simp [Move.responds], by simp⟩
  have metadata : terminatedEarly.1.filterMap Move.metadata? = [] := rfl
  have keeps : Conduct.faithful.KeepsAll terminatedEarly.1 :=
    Conduct.faithful_keepsAll rfl (by simp [metadata])
  have run : Run .faithful ⟨earlySummaryEngine, []⟩ unheededPoint.1 unheededPoint.2 :=
    (begun.advances 25 keeps).snoc (.answer (.raise (.arising .nested)))
      ⟨⟨by simp [Move.responds], by simp⟩, .raise _ rfl id⟩
  refine ⟨run, fun heeded => ?_⟩
  have handed : (1 : PromiseId) ∈ handedOut unheededPoint.1 := by decide +kernel
  have owed : unanswered unheededPoint.1 = 1 :=
    heeded (List.isEmpty_iff.1 (by decide +kernel)) (List.isEmpty_iff.1 (by decide +kernel)) 1
      handed (by decide +kernel)
  have none : unanswered unheededPoint.1 = 0 := by decide +kernel
  omega

end Runs

end QueryStream
