/-
  Proofs/Stream/Attendance.lean --- a stream and its consumers, step by step.

  A stream with both consumers either goes on with a step or ends with it
  (`Stream.Steps.continues_or_ends`).  Going on, it keeps its consumers, and what it
  puts on the agenda fits it: a record or that there is more goes to the consumers
  that are there, and what is to be told or written stands first.  Ending, it lets
  both go and puts both tellings of the end on the agenda.  From then on it tells
  nothing and writes nothing (`Stream.Steps.over`).

  So a situation is open, with everything on the agenda fitting the stream (`Open`),
  until the stream is over and has no consumer (`Stream.Over`).
-/
import QueryStream.Proofs.Engine.Turns

set_option autoImplicit false

namespace QueryStream

/-! ## What is told and written -/

namespace Instruction

/-- Whether an instruction tells a consumer something. -/
def isTelling : Instruction → Bool
  | .tellRecord _ _ => true
  | .tellEnd _ _ => true
  | .tellSummary _ _ _ => true
  | _ => false

/-- Whether an instruction tells a consumer something or writes a request. -/
def isHot : Instruction → Bool
  | .ask (.write _) => true
  | i => i.isTelling

theorem isDriven_of_isHot {i : Instruction} (h : i.isHot = true) : i.isDriven = true := by
  cases i with
  | ask a => cases a <;> simp_all [isHot, isTelling, isDriven]
  | _ => simp_all [isHot, isTelling, isDriven]

theorem isHot_eq_false {i : Instruction} (h : i.isDriven = false) : i.isHot = false := by
  cases hot : i.isHot with
  | false => rfl
  | true => simp [isDriven_of_isHot hot] at h

end Instruction

/-- Whether a move writes a request. -/
def Move.isWrite : Move → Bool
  | .answered (.write _) _ => true
  | _ => false

/-- What both consumers are told of the end. -/
def farewell (rc : RecordConsumer) (sc : SummaryConsumer) (summary : Summary)
    (f : Option Failure) : List Instruction :=
  [.tellSummary sc (some summary) f, .tellEnd rc f]

/-! ## A stream with both consumers -/

/-- Both consumers are there. -/
def Stream.Attended (s : Stream) : Prop :=
  s.recordConsumer.isSome = true ∧ s.summaryConsumer.isSome = true

/-- What is due fits the stream: it goes to the consumers that are there, and the end
is told of a stream that is over. -/
def Stream.Due (s : Stream) : Instruction → Prop
  | .tellRecord c _ => s.recordConsumer = some c
  | .tellSummary c summary f => s.summaryConsumer = some c ∧ summary = none ∧ f = none
  | .tellEnd _ _ => False
  | .stream (.conclude _) => s.phase.isTerminal = true
  | .stream (.concludeFailure _) => s.phase.isTerminal = true
  | _ => True

/-- What only a stream brings about has both consumers there, and fits. -/
def Stream.Fits (s : Stream) (i : Instruction) : Prop :=
  i.isDriven = true → s.Attended ∧ s.Due i

/-- Without both consumers nothing was ever requested. -/
def Stream.Waits (s : Stream) : Prop := s.Attended ∨ s.phase = .ready

/-- A step with which a stream goes on as before. -/
structure Stream.Continues (s s' : Stream) (effects : List Stream.Effect) : Prop where
  records : ∀ {c : RecordConsumer}, s.recordConsumer = some c → s'.recordConsumer = some c
  summaries : ∀ {c : SummaryConsumer},
    s.summaryConsumer = some c → s'.summaryConsumer = some c
  terminal : s.phase.isTerminal = true → s'.phase.isTerminal = true
  waits : s'.Waits
  fits : ∀ effect ∈ effects, s'.Fits (.ofStream effect)
  upFront : UpFront (fun i => i.isHot = true) (effects.map .ofStream)

/-- A step with which a stream lets its consumers go and has them told of the end. -/
structure Stream.Ends (s s' : Stream) (effects : List Stream.Effect) : Prop where
  ending : ∃ rc sc summary f, s.recordConsumer = some rc ∧ s.summaryConsumer = some sc ∧
    effects.map .ofStream = farewell rc sc summary f
  released : s' = s.released
  terminal : s.phase.isTerminal = true

namespace Stream

variable {s s' : Stream} {x : Surroundings} {a : Action} {effects : List Effect}

theorem attended_of_present (waits : s.Waits) (present : s.lacksConsumer = false) :
    s.Attended := by
  rcases waits with attended | ready
  · exact attended
  · simpa [lacksConsumer, ready, Phase.isTerminal, Attended, Option.isNone_iff_eq_none,
      Option.isSome_iff_ne_none] using present

theorem attended_of_isTerminal (waits : s.Waits) (terminal : s.phase.isTerminal = true) :
    s.Attended := by
  rcases waits with attended | ready
  · exact attended
  · simp [ready, Phase.isTerminal] at terminal

theorem Fits.mono {s s' : Stream} {i : Instruction} (h : s.Fits i)
    (records : ∀ {c : RecordConsumer}, s.recordConsumer = some c → s'.recordConsumer = some c)
    (summaries : ∀ {c : SummaryConsumer},
      s.summaryConsumer = some c → s'.summaryConsumer = some c)
    (terminal : s.phase.isTerminal = true → s'.phase.isTerminal = true) : s'.Fits i := by
  intro driven
  obtain ⟨⟨hrecord, hsummary⟩, due⟩ := h driven
  obtain ⟨rc, hrc⟩ := Option.isSome_iff_exists.1 hrecord
  obtain ⟨sc, hsc⟩ := Option.isSome_iff_exists.1 hsummary
  refine ⟨⟨by simp [records hrc], by simp [summaries hsc]⟩, ?_⟩
  cases i with
  | tellRecord c r => exact records due
  | tellSummary c summary f => exact ⟨summaries due.1, due.2⟩
  | stream a => cases a <;> first | exact terminal due | exact due
  | _ => exact due

/-- A step that leaves the consumers as they are. -/
theorem Continues.of_attended (attended : s.Attended)
    (records : s'.recordConsumer = s.recordConsumer)
    (summaries : s'.summaryConsumer = s.summaryConsumer)
    (terminal : s.phase.isTerminal = true → s'.phase.isTerminal = true)
    (due : ∀ effect ∈ effects, s'.Due (.ofStream effect))
    (upFront : UpFront (fun i => i.isHot = true) (effects.map .ofStream)) :
    s.Continues s' effects := by
  have attended' : s'.Attended := by
    rw [Attended, records, summaries]
    exact attended
  exact ⟨fun h => by rw [records]; exact h, fun h => by rw [summaries]; exact h, terminal,
    .inl attended', fun effect hmem _ => ⟨attended', due effect hmem⟩, upFront⟩

/-- A step that only writes lines and goes on with something else. -/
theorem Continues.of_quiet (attended : s.Attended)
    (records : s'.recordConsumer = s.recordConsumer)
    (summaries : s'.summaryConsumer = s.summaryConsumer)
    (terminal : s.phase.isTerminal = true → s'.phase.isTerminal = true)
    (due : ∀ effect ∈ effects, s'.Due (.ofStream effect))
    (quiet : ∀ effect ∈ effects, (Instruction.ofStream effect).isHot = false) :
    s.Continues s' effects := by
  refine .of_attended attended records summaries terminal due (upFront_of_forall fun i hi => ?_)
  obtain ⟨effect, hmem, rfl⟩ := List.mem_map.1 hi
  simp [quiet effect hmem]

/-- What both consumers are told of the end, the cursor first. -/
theorem ofStream_endEffects {rc : RecordConsumer} {sc : SummaryConsumer}
    (records : s.recordConsumer = some rc) (summaries : s.summaryConsumer = some sc)
    (summary : Summary) (f : Option Failure) :
    (s.endEffects summary f).map .ofStream = farewell rc sc summary f := by
  simp [endEffects, records, summaries, Instruction.ofStream, farewell]

theorem ends_of_attended (attended : s.Attended) (terminal : s.phase.isTerminal = true)
    (summary : Summary) (f : Option Failure) : s.Ends s.released (s.endEffects summary f) := by
  obtain ⟨rc, hrc⟩ := Option.isSome_iff_exists.1 attended.1
  obtain ⟨sc, hsc⟩ := Option.isSome_iff_exists.1 attended.2
  exact ⟨⟨rc, sc, summary, f, hrc, hsc, ofStream_endEffects hrc hsc summary f⟩, rfl, terminal⟩

theorem Steps.records (steps : Steps x s a s' effects) {c : RecordConsumer}
    (h : s'.recordConsumer = some c) : s.recordConsumer = some c ∨ a = .installRecord c := by
  cases steps with
  | installRecord free =>
      obtain rfl := Option.some.inj h
      exact .inr rfl
  | conclude _ | concludeRefused _ _ | concludeFailure => simp [released] at h
  | _ => exact .inl h

theorem Steps.summaries (steps : Steps x s a s' effects) {c : SummaryConsumer}
    (h : s'.summaryConsumer = some c) :
    s.summaryConsumer = some c ∨ a = .installSummary c := by
  cases steps with
  | installSummary free =>
      obtain rfl := Option.some.inj h
      exact .inr rfl
  | conclude _ | concludeRefused _ _ | concludeFailure => simp [released] at h
  | _ => exact .inl h

/-- A stream that makes a step has its consumers, unless it takes one. -/
theorem Steps.attended (steps : Steps x s a s' effects) (waits : s.Waits)
    (fits : s.Fits (.stream a)) :
    (∃ c, a = .installRecord c) ∨ (∃ c, a = .installSummary c) ∨ s.Attended := by
  cases inner : a.isPublic with
  | false => exact .inr (.inr (fits (by simp [Instruction.isDriven, inner])).1)
  | true =>
      cases steps with
      | installRecord free => exact .inl ⟨_, rfl⟩
      | installSummary free => exact .inr (.inl ⟨_, rfl⟩)
      | lateSuccess line terminal | lateFailure line terminal =>
          exact .inr (.inr (attended_of_isTerminal waits terminal))
      | pull present _ _ | join present _ _ | ignoreRequest _ present _ _ _
      | discard present _ | giveUp present _ | ignoreCancel present _ _
      | endBatch present _ _ _ | discardAgain present _ _ _ | succeed present _ _ _
      | fail _ present _ | deliver _ present _ _ _ | drop _ present _ =>
          exact .inr (.inr (attended_of_present waits present))
      | _ => simp [Action.isPublic] at inner

/-- Taking a consumer that was not there leaves a stream ready. -/
theorem Waits.of_not_attended {s' : Stream} (waits : s.Waits) (missing : ¬ s.Attended)
    (phase : s'.phase = s.phase) : s'.Waits :=
  .inr (phase.trans (waits.resolve_left missing))

/-- Every step of a stream that has its consumers goes on or ends it. -/
theorem Steps.continues_or_ends (steps : Steps x s a s' effects) (waits : s.Waits)
    (fits : s.Fits (.stream a)) : s.Continues s' effects ∨ s.Ends s' effects := by
  have attended_of_inner : a.isPublic = false → s.Attended := by
    intro inner
    exact (fits (by simp [Instruction.isDriven, inner])).1
  cases steps with
  | installRecord free =>
      have missing : ¬ s.Attended := by simp [Attended, free]
      exact .inl ⟨fun h => by simp [free] at h, fun h => h, fun h => h,
        waits.of_not_attended missing rfl, by simp, by simp [UpFront, pastLines]⟩
  | installSummary free =>
      have missing : ¬ s.Attended := by simp [Attended, free]
      exact .inl ⟨fun h => h, fun h => by simp [free] at h, fun h => h,
        waits.of_not_attended missing rfl, by simp, by simp [UpFront, pastLines]⟩
  | pull present demand phase =>
      refine .inl (.of_attended (attended_of_present waits present) rfl rfl
        (by simp [phase, Phase.isTerminal]) ?_ ?_)
      · simp [pullEffects, debug, Instruction.ofStream, Due]
      · exact upFront_cons_line _ (upFront_cons _ (by simp))
  | discard present phase =>
      refine .inl (.of_attended (attended_of_present waits present) rfl rfl
        (by simp [phase, Phase.isTerminal]) ?_ ?_)
      · simp [discardEffects, debug, Instruction.ofStream, Due]
      · exact upFront_cons_line _ (upFront_cons _
          (by simp [Instruction.ofStream, Instruction.isHot, Instruction.isTelling]))
  | discardAgain present phase field more =>
      refine .inl (.of_attended (attended_of_present waits present) rfl rfl (fun h => h) ?_ ?_)
      · simp [discardEffects, debug, Instruction.ofStream, Due]
      · exact upFront_cons_line _ (upFront_cons _
          (by simp [Instruction.ofStream, Instruction.isHot, Instruction.isTelling]))
  | deliver line present phase consumer made =>
      refine .inl (.of_attended (attended_of_present waits present) rfl rfl (fun h => h) ?_ ?_)
      · simp [Instruction.ofStream, Due, consumer]
      · exact upFront_cons_line _ (upFront_cons _
          (by simp [Instruction.ofStream, Instruction.isHot, Instruction.isTelling]))
  | flush line phase positive =>
      refine .inl (.of_attended (attended_of_inner rfl) rfl rfl
        (by simp [phase, Phase.isTerminal]) ?_ ?_)
      · simp [pullEffects, debug, Instruction.ofStream, Due]
      · exact upFront_cons_line _ (upFront_cons_line _ (upFront_cons _
          (by simp [Instruction.ofStream, Instruction.isHot, Instruction.isTelling])))
  | announce =>
      have attended := attended_of_inner rfl
      obtain ⟨sc, hsc⟩ := Option.isSome_iff_exists.1 attended.2
      refine .inl (.of_attended attended rfl rfl (fun h => h) ?_ ?_)
      · simp [hsc, Instruction.ofStream, Due]
      · simp only [hsc, Option.map_some, Option.toList_some]
        exact upFront_cons _ (by simp)
  | conclude read =>
      have due := fits (by rfl)
      exact .inr (ends_of_attended due.1 due.2 _ _)
  | concludeRefused read kind =>
      have due := fits (by rfl)
      exact .inr (ends_of_attended due.1 due.2 _ _)
  | concludeFailure =>
      have due := fits (by rfl)
      exact .inr (ends_of_attended due.1 due.2 _ _)
  | lateSuccess line terminal =>
      exact .inl (.of_quiet (attended_of_isTerminal waits terminal) rfl rfl (fun _ => rfl)
        (by simp [Instruction.ofStream, Due])
        (by simp [Instruction.ofStream, Instruction.isHot, Instruction.isTelling]))
  | lateFailure line terminal =>
      exact .inl (.of_quiet (attended_of_isTerminal waits terminal) rfl rfl (fun _ => rfl)
        (by simp [Instruction.ofStream, Due])
        (by simp [Instruction.ofStream, Instruction.isHot, Instruction.isTelling]))
  | settleSucceeded line phase | settleOther line _ _ | rest line _ _ | count
  | capReached line _ | capOpen | reportCancel line =>
      exact .inl (.of_quiet (attended_of_inner rfl) rfl rfl (fun h => h)
        (by simp_all [Instruction.ofStream, Due, Phase.isTerminal])
        (by simp [Instruction.ofStream, Instruction.isHot, Instruction.isTelling]))
  | ignoreRequest line present _ _ _ | join present _ _ | giveUp present phase
  | ignoreCancel present _ _ | endBatch present phase _ _ | succeed present _ _ _
  | fail line present _ | drop line present _ =>
      exact .inl (.of_quiet (attended_of_present waits present) rfl rfl
        (by simp_all [Phase.isTerminal])
        (by simp [Instruction.ofStream, Due, Phase.isTerminal])
        (by simp [Instruction.ofStream, Instruction.isHot, Instruction.isTelling]))

/-- A stream that is over and let its consumers go. -/
structure Over (s : Stream) : Prop where
  records : s.recordConsumer = none
  summaries : s.summaryConsumer = none
  terminal : s.phase.isTerminal = true

theorem Ends.over (ends : s.Ends s' effects) : s'.Over := by
  rw [ends.released]
  exact ⟨rfl, rfl, ends.terminal⟩

/-- A stream that is over stays so, and neither tells nor writes anything, unless it
is given a consumer again. -/
theorem Steps.over (steps : Steps x s a s' effects) (isOver : s.Over)
    (records : ∀ c, a ≠ .installRecord c) (summaries : ∀ c, a ≠ .installSummary c) :
    s'.Over ∧ ∀ effect ∈ effects, (Instruction.ofStream effect).isHot = false := by
  obtain ⟨noRecords, noSummaries, terminal⟩ := isOver
  cases steps with
  | installRecord free => exact absurd rfl (records _)
  | installSummary free => exact absurd rfl (summaries _)
  | lateSuccess line _ | lateFailure line _ =>
      exact ⟨⟨noRecords, noSummaries, rfl⟩,
        by simp [Instruction.ofStream, Instruction.isHot, Instruction.isTelling]⟩
  | conclude read | concludeRefused read kind | concludeFailure =>
      exact ⟨⟨rfl, rfl, terminal⟩, by simp [endEffects, noRecords, noSummaries]⟩
  | announce => exact ⟨⟨noRecords, noSummaries, terminal⟩, by simp [noSummaries]⟩
  | deliver line present phase consumer made => simp [noRecords] at consumer
  | ignoreRequest line present demand ready streaming | ignoreCancel present ready streaming
  | drop line present phase | settleSucceeded line phase | settleOther line _ _ | count
  | capReached line _ | capOpen _ | reportCancel line =>
      exact ⟨⟨noRecords, noSummaries, terminal⟩,
        by simp [Instruction.ofStream, Instruction.isHot, Instruction.isTelling]⟩
  | pull _ _ phase | join _ _ phase | discard _ phase | giveUp _ phase | endBatch _ phase _ _
  | discardAgain _ phase _ _ | flush _ phase _ | rest _ phase _ =>
      simp [phase, Phase.isTerminal] at terminal
  | succeed _ running _ _ | fail _ _ running => simp [running] at terminal

end Stream

/-! ## Open situations -/

/-- The stream has its consumers, or nothing was requested; what is on the agenda fits
it, and what is to be told or written stands first. -/
structure Open (s : Situation) : Prop where
  waits : s.engine.stream.Waits
  fits : ∀ i ∈ s.agenda, s.engine.stream.Fits i
  upFront : UpFront (fun i => i.isHot = true) s.agenda

section Open

variable {c : Conduct} {h : List Move} {s s' : Situation} {m : Move}

/-- What is hot stands first, lines of the log aside, so behind what is carried out
nothing is hot. -/
theorem Open.cold {i : Instruction} {rest : List Instruction} (opened : Open s)
    (agenda : s.agenda = i :: rest) (hline : i.isLine = false) :
    ∀ j ∈ rest, j.isHot = false := by
  intro j hj
  have upFront := opened.upFront
  rw [agenda] at upFront
  simpa using upFront.forall_of_cons hline j hj

theorem Open.continues {a : Stream.Action} {rest : List Instruction} {next : Stream}
    {effects : List Stream.Effect} (opened : Open s)
    (stream : StreamStep s m s' a rest next effects)
    (continues : s.engine.stream.Continues next effects) : Open s' := by
  have hstream : s'.engine.stream = next := by rw [stream.engine]
  have cold := opened.cold stream.head rfl
  refine ⟨by rw [hstream]; exact continues.waits, fun i hi => ?_, ?_⟩
  · rw [hstream]
    rw [stream.agenda] at hi
    rcases List.mem_append.1 hi with hi | hi
    · obtain ⟨effect, hmem, rfl⟩ := List.mem_map.1 hi
      exact continues.fits effect hmem
    · exact (opened.fits i (by simp [stream.head, hi])).mono continues.records
        continues.summaries continues.terminal
  · rw [stream.agenda]
    exact continues.upFront.append fun i hi => by simp [cold i hi]

theorem Open.quiet (opened : Open s) (quiet : Quiet s m s') : Open s' := by
  obtain ⟨front, tail, heq, htail, hfront⟩ := quiet.agenda
  have hstream := quiet.stream
  refine ⟨by rw [hstream]; exact opened.waits, fun i hi => ?_, ?_⟩
  · rw [hstream]
    rw [heq] at hi
    rcases List.mem_append.1 hi with hi | hi
    · intro driven
      simp [hfront i hi] at driven
    · exact opened.fits i (List.mem_of_mem_tail (htail.mem hi))
  · cases hagenda : s.agenda with
    | nil =>
        rw [hagenda] at htail
        obtain rfl := List.suffix_nil.1 htail
        rw [heq, List.append_nil]
        exact upFront_of_forall fun i hi => by simp [Instruction.isHot_eq_false (hfront i hi)]
    | cons i rest =>
        cases hline : i.isLine with
        | true =>
            have upFront := opened.upFront
            rw [quiet.line i rest hagenda hline]
            rw [hagenda] at upFront
            exact upFront.of_cons_line hline
        | false =>
            rw [hagenda] at htail
            rw [heq]
            refine upFront_of_forall fun j hj => ?_
            rcases List.mem_append.1 hj with hj | hj
            · simp [Instruction.isHot_eq_false (hfront j hj)]
            · simp [opened.cold hagenda hline j (htail.mem hj)]

theorem Open.step (opened : Open s) (step : Step s m s') (permitted : c.Permits h m) :
    Open s' ∨ ∃ a rest next effects, StreamStep s m s' a rest next effects ∧
      s.engine.stream.Ends next effects := by
  rcases step.stream_or_quiet permitted with ⟨a, rest, next, effects, stream⟩ | ⟨_, quiet⟩
  · have fits := opened.fits (.stream a) (by simp [stream.head])
    rcases stream.steps.continues_or_ends opened.waits fits with continues | ends
    · exact .inl (opened.continues stream continues)
    · exact .inr ⟨a, rest, next, effects, stream, ends⟩
  · exact .inl (opened.quiet quiet)

/-- A stream that let its consumers go and takes no others tells nothing and writes
nothing. -/
theorem Step.of_over (step : Step s m s') (permitted : c.Permits h m)
    (isOver : s.engine.stream.Over)
    (records : ∀ rc next, m ≠ .carried (.stream (.installRecord rc)) (.go next))
    (summaries : ∀ sc next, m ≠ .carried (.stream (.installSummary sc)) (.go next)) :
    s'.engine.stream.Over ∧ (∀ j ∈ m.next, j.isHot = false) ∧
      ∀ p : Instruction → Prop, (∀ i, i.isHot = false → p i) → (∀ i ∈ s.agenda, p i) →
        ∀ i ∈ s'.agenda, p i := by
  rcases step.stream_or_quiet permitted with ⟨a, rest, next, effects, stream⟩ | ⟨_, quiet⟩
  · have noRecord : ∀ rc, a ≠ .installRecord rc := by
      rintro rc rfl
      exact records rc _ stream.move
    have noSummary : ∀ sc, a ≠ .installSummary sc := by
      rintro sc rfl
      exact summaries sc _ stream.move
    obtain ⟨isOver', cold⟩ := stream.steps.over isOver noRecord noSummary
    have hnext : ∀ j ∈ effects.map Instruction.ofStream, j.isHot = false := by
      intro j hj
      obtain ⟨effect, hmem, rfl⟩ := List.mem_map.1 hj
      exact cold effect hmem
    refine ⟨by rw [stream.engine]; exact isOver', ?_, fun p hp hagenda i hi => ?_⟩
    · rw [stream.move]
      exact hnext
    · rw [stream.agenda] at hi
      rcases List.mem_append.1 hi with hi | hi
      · exact hp i (hnext i hi)
      · exact hagenda i (by simp [stream.head, hi])
  · refine ⟨by rw [quiet.stream]; exact isOver, fun j hj => ?_, fun p hp hagenda i hi => ?_⟩
    · exact Instruction.isHot_eq_false (quiet.next j hj)
    · obtain ⟨front, tail, heq, htail, hfront⟩ := quiet.agenda
      rw [heq] at hi
      rcases List.mem_append.1 hi with hi | hi
      · exact hp i (Instruction.isHot_eq_false (hfront i hi))
      · exact hagenda i (List.mem_of_mem_tail (htail.mem hi))

/-- Telling a record consumer of the end is nothing hot any more. -/
theorem Step.cold_of_tellEnd {rc : RecordConsumer} {f : Option Failure}
    {rest : List Instruction} (step : Step s m s') (agenda : s.agenda = .tellEnd rc f :: rest)
    (hnext : ∀ j ∈ m.next, j.isHot = false) (cold : ∀ i ∈ rest, i.isHot = false) :
    ∀ i ∈ s'.agenda, i.isHot = false := by
  obtain ⟨e, todo⟩ := s
  obtain rfl : todo = _ := agenda
  cases step with
  | carry own =>
      intro i hi
      obtain ⟨front, tail, heq, htail, hfront⟩ :=
        Reply.exists_onto_of_forall hnext (fun _ _ => rfl) rest
      have hi : i ∈ front ++ tail := by
        rw [← heq]
        exact hi
      rcases List.mem_append.1 hi with hi | hi
      · exact hfront i hi
      · exact cold i (htail.mem hi)

end Open

end QueryStream
