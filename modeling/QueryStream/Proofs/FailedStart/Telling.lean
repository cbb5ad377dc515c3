/-
  Proofs/FailedStart/Telling.lean --- an owner that is told of the failure to start, and does more
  than return.

  It may ask the cursor for anything while it is told: the stream failed already and ignores it.
  So what is left of telling the cursor stays behind what the owner does (`TellingOwner.step`),
  and is carried out when that is over (`TellingOwner.fails`), as long as the owner neither throws
  something nor rolls the result back.  If it does, some of what is left may get lost; but nothing
  else comes of it (`Stray.step`).
-/
import QueryStream.Proofs.FailedStart.Passing

set_option autoImplicit false

namespace QueryStream

/-- What is left to be told of the failure once the stream failed. -/
inductive Leftover (f : Failure) (rc : RecordConsumer) : Instruction → Prop
  | conclude : Leftover f rc (.stream (.concludeFailure f))
  | tellCursor (summary : Summary) :
      Leftover f rc (.tellSummary (.cursor 0) (some summary) (some f))
  | notify (summary : Summary) : Leftover f rc (.cursor 0 (.notify (some summary) (some f)))
  | tellEnd : Leftover f rc (.tellEnd rc (some f))

/-- The stream failed and told its owner; of what is left some may be lost. -/
structure Stray (f : Failure) (o : PromiseId) (rc : RecordConsumer) (iterations : Array Iteration)
    (h : List Move) (s : Situation) (cursor : Cursor) : Prop extends Muted o h s cursor where
  taken : cursor.status ≠ .notInstalled
  stream : s.engine.stream = .failing rc ∨ s.engine.stream = .spent
  told : notices h = [.failure f]
  recordless : Recordless rc iterations s.engine
  agenda : ∀ i ∈ s.agenda, i.isBare = true ∨ Leftover f rc i

/-- Whether a move is one with which an owner that is told of the end lets something be thrown,
or one that rolls the result back. -/
inductive Move.Breaks : Move → Prop
  | throws {a : Ask} {r : Reply} (errand : a.isErrand = true) (wild : ¬ r.Calm) :
      Breaks (.answered a r)
  | rollback (receiver : Receiver) (r : Reply) :
      Breaks (.carried (.cursor 0 (.rollback receiver)) r)

section Telling

variable {c : Conduct} {f : Failure} {o : PromiseId} {h : List Move} {s s' : Situation} {m : Move}
  {cursor next : Cursor} {rest before : List Instruction} {rc : RecordConsumer}
  {iterations : Array Iteration} {i : Instruction}

/-! ## The owner returns in the end -/

/-- When what the owner does is over, the stream goes on. -/
theorem TellingOwner.fails (telling : TellingOwner f o rc rest iterations [] h s cursor) :
    Fails f o rc rest iterations 4 h s cursor :=
  { telling with
    stage := by
      refine ⟨[.stream (.concludeFailure f)], ?_, telling.agenda⟩
      rw [telling.stream, telling.silent, telling.told]
      exact .owner [] (by simp) }

theorem Instruction.tends_eq_false {k : IterationId} (plain : i.isPlain = true)
    (bare : i.isBare = true) : i.tends k = false := by
  unfold tends
  split
  · cases plain
  · cases bare
  · cases bare
  · cases plain
  · rfl

/-- What the owner does leaves what comes behind it as it is. -/
theorem TellingOwner.step (telling : TellingOwner f o rc rest iterations (i :: before) h s cursor)
    (unserved : c.Unserved) (step : Step s m s') (permitted : c.Permits h m)
    (unbroken : ¬ m.Breaks) :
    ∃ before next, TellingOwner f o rc rest iterations before (m :: h) s' next := by
  have dull : s.engine.stream.Dull := .inr (by rw [telling.stream]; rfl)
  have head : s.agenda.head? = some i := by rw [telling.agenda]; rfl
  have bare : ∀ j ∈ s.agenda.head?, j.isBare = true := by
    intro j first
    obtain rfl : i = j := by simpa [head] using first
    exact telling.bare i (by simp)
  have plain : ∀ j ∈ s.agenda.head?, j.isPlain = true := by
    intro j first
    obtain rfl : i = j := by simpa [head] using first
    exact telling.shield.plain i (by simp)
  obtain ⟨unwritten, notice, -⟩ := step.unheard_of_bare bare
  obtain ⟨next, muted⟩ := telling.toMuted.step unserved step permitted unwritten
  have calm : ∀ a r, m = .answered a r → a.isErrand = true → r.Calm := by
    rintro a r rfl errand
    exact Classical.not_not.1 fun wild => unbroken (.throws errand wild)
  obtain ⟨before', agenda, shield, among⟩ := step.of_shield (permitted.taming calm)
    (mild_isErrand c.errands_taming s.engine) telling.agenda telling.shield
  have taken : cursor.status ≠ .notInstalled := by
    rw [telling.taken]
    exact ConsumerStatus.ofConsumer_ne rc
  -- the cursor resolves on nothing, for it is neither notified nor rolled back
  have silent : m.verdict? 0 = none := by
    cases verdict : m.verdict? 0 with
    | none => rfl
    | some st =>
        obtain ⟨a, r, rfl, decides⟩ := Move.exists_of_verdict? verdict
        obtain ⟨rest, first⟩ := step.head_of_carried
        have headBare := bare (.cursor 0 a) (by simp [first])
        cases a with
        | rollback receiver => exact absurd (.rollback receiver r) unbroken
        | notify summary f => cases headBare
        | _ => cases decides
  refine ⟨before', next, { muted with
    failed := ?_
    taken := ?_
    untold := telling.untold.step step fun k j first =>
      j.tends_eq_false (plain j first) (bare j first)
    stream := (step.stream_of_bare permitted bare dull).trans telling.stream
    silent := by rw [verdicts_cons, silent]; exact telling.silent
    told := notices_of_none notice telling.told
    agenda := agenda
    shield := shield
    bare := fun j mem => ?_ }⟩
  · rcases telling.attached.cursor_or_eq step permitted muted.attached.cursors with
      ⟨a, rest, effects, taken⟩ | rfl
    · exact taken.steps.runError.trans telling.failed
    · exact telling.failed
  · rcases telling.attached.status_step step permitted muted.attached.cursors with
      status | ⟨consumer, rest, free, -⟩
    · exact status.trans telling.taken
    · exact absurd free taken
  · rcases among j mem with mem | mem | ⟨g, th, rfl⟩
    · exact telling.bare j (List.mem_cons_of_mem _ mem)
    · exact telling.attached.isBare_of_brought unserved bare dull (fun _ _ _ => .inr taken)
        ((step.turn permitted).brought mem)
    · rfl

/-! ## Otherwise -/

theorem TellingOwner.stray (telling : TellingOwner f o rc rest iterations before h s cursor)
    (bare : ∀ i ∈ rest, i.isBare = true) : Stray f o rc iterations h s cursor :=
  { telling with
    taken := by
      rw [telling.taken]
      exact ConsumerStatus.ofConsumer_ne rc
    stream := .inl telling.stream
    recordless := telling.untold.recordless
    agenda := by
      intro i mem
      rw [telling.agenda] at mem
      rcases List.mem_append.1 mem with mem | mem
      · exact .inl (telling.bare i mem)
      · rcases List.mem_cons.1 mem with rfl | mem
        · exact .inr .conclude
        · exact .inl (bare i mem) }

theorem Stray.goOn (stray : Stray f o rc iterations h s cursor) (unserved : c.Unserved)
    (step : Step s m s') (permitted : c.Permits h m)
    (stream : s'.engine.stream = s.engine.stream ∨ s'.engine.stream = .spent)
    (notice : m.notice? = none) (unwritten : m.isWrite = false)
    (agenda : ∀ i ∈ s'.agenda, i ∈ s.agenda ∨ i.isBare = true ∨ Leftover f rc i) :
    ∃ next, Stray f o rc iterations (m :: h) s' next := by
  obtain ⟨next, muted⟩ := stray.toMuted.step unserved step permitted unwritten
  refine ⟨next, { muted with
    taken := ?_
    stream := stream.elim (fun same => by rw [same]; exact stray.stream) .inr
    told := notices_of_none notice stray.told
    recordless := stray.recordless.step step fun rc' r rest head => ?_
    agenda := fun i mem => (agenda i mem).elim (stray.agenda i) id }⟩
  · rcases stray.attached.status_step step permitted muted.attached.cursors with
      status | ⟨consumer, rest, free, -⟩
    · rw [status]
      exact stray.taken
    · exact absurd free stray.taken
  · rcases stray.agenda (.tellRecord rc' r) (by simp [head]) with bare | leftover
    · cases bare
    · cases leftover

/-- Whatever is carried out of what is left, it tells of the failure, or of nothing. -/
theorem Stray.step (stray : Stray f o rc iterations h s cursor) (unserved : c.Unserved)
    (step : Step s m s') (permitted : c.Permits h m) :
    ∃ next, Stray f o rc iterations (m :: h) s' next := by
  -- What is left of the call that was broken off stands between calls of the caller's own, which
  -- stay bare; only what is left can tell anybody anything.
  by_cases bare : ∀ i ∈ s.agenda.head?, i.isBare = true
  · have dull : s.engine.stream.Dull :=
      .inr (by rcases stray.stream with stream | stream <;> rw [stream] <;> rfl)
    obtain ⟨unwritten, notice, -⟩ := step.unheard_of_bare bare
    refine stray.goOn unserved step permitted (.inl (step.stream_of_bare permitted bare dull))
      notice unwritten fun i mem => ?_
    rcases (step.turn permitted).mem mem with mem | brought
    · exact .inl (List.mem_of_mem_tail mem)
    · exact .inr (.inl (stray.attached.isBare_of_brought unserved bare dull
        (fun _ _ _ => .inr stray.taken) brought))
  obtain ⟨i, first, unbare⟩ : ∃ i, s.agenda.head? = some i ∧ ¬ i.isBare = true := by
    simpa using bare
  obtain ⟨rest, head⟩ : ∃ rest, s.agenda = i :: rest := by
    cases agenda : s.agenda with
    | nil => simp [agenda] at first
    | cons j rest =>
        obtain rfl : j = i := by simpa [agenda] using first
        exact ⟨rest, rfl⟩
  have behind : ∀ j ∈ rest, j ∈ s.agenda := fun j mem => by simp [head, mem]
  rcases stray.agenda i (by simp [head]) with bare | leftover
  · exact absurd bare unbare
  have goOn := stray.goOn unserved step permitted
  cases leftover with
  | conclude =>
      obtain ⟨effects, hexec, among⟩ : ∃ effects, s.engine.exec (.stream (.concludeFailure f))
          = ({ s.engine with stream := .spent }, .go effects) ∧
            ∀ j ∈ effects, Leftover f rc j := by
        rcases stray.stream with stream | stream
        · obtain ⟨summary, hexec⟩ := s.engine.exec_conclude_failing f stream
          refine ⟨_, hexec, fun j mem => ?_⟩
          rcases List.mem_cons.1 mem with rfl | mem
          · exact .tellCursor summary
          · exact List.mem_singleton.1 mem ▸ .tellEnd
        · refine ⟨[], ?_, by simp⟩
          simp only [Engine.exec, Engine.stepStream, stream]
          rfl
      obtain ⟨rfl, rfl⟩ := step.exec_of_head head rfl
      rw [hexec] at goOn ⊢
      refine goOn (.inr rfl) rfl rfl fun j mem => ?_
      exact (List.mem_append.1 mem).elim (fun mem => .inr (.inr (among j mem)))
        (fun mem => .inl (behind j mem))
  | tellCursor summary =>
      obtain ⟨rfl, rfl⟩ := step.exec_of_head head rfl
      refine goOn (.inl rfl) rfl rfl fun j mem => ?_
      rcases List.mem_cons.1 mem with rfl | mem
      · exact .inr (.inr (.notify summary))
      · exact .inl (behind j mem)
  | notify summary =>
      obtain ⟨rfl, rfl⟩ := stray.attached.accepted step head (by rfl)
      refine goOn (.inl rfl) rfl rfl fun j mem => ?_
      rcases List.mem_cons.1 mem with rfl | mem
      · exact .inr (.inl rfl)
      · exact .inl (behind j mem)
  | tellEnd =>
      obtain ⟨stream, next, reply, bare'⟩ := s.engine.exec_tellEnd rc (some f)
      obtain ⟨rfl, rfl⟩ := step.exec_of_head head rfl
      refine goOn (.inl stream) rfl rfl fun j mem => ?_
      simp only [reply, Reply.onto_go] at mem
      exact (List.mem_append.1 mem).elim (fun mem => .inr (.inl (bare' j mem)))
        (fun mem => .inl (behind j mem))

end Telling

end QueryStream
