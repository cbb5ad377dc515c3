/-
  Proofs/Reading/Recipient.lean --- who the records go to.

  The record consumer of the stream is the one that the status of the cursor tells of:
  the iteration, or nobody (`Recipient`).  A cursor whose records are dropped is marked as
  consumed before anybody else can ask it for records (`Staged`): what is carried out in
  between throws nothing that is not caught there.
-/
import QueryStream.Proofs.Reading.Reader
import QueryStream.Proofs.Requests.Outcome

set_option autoImplicit false

namespace QueryStream

namespace Instruction

/-- Whether an instruction has a cursor drop its records. -/
def isDropping : Instruction → Bool
  | .cursor _ (.install .discard) => true
  | _ => false

/-- Whether an instruction is part of dropping the records, and throws nothing. -/
def isStaging : Instruction → Bool
  | .ask (.write _) => true
  | .cursor 0 .injectError => true
  | .cursor 0 .cancel => true
  | .cursor 0 (.notify _ _) => true
  | .channel (.fail _) => true
  | .channel .cancel => true
  | .stream (.fail _) => true
  | .stream .cancel => true
  | .stream .reportCancel => true
  | .stream (.concludeFailure _) => true
  | .tellSummary (.cursor 0) _ _ => true
  | .tellEnd .discard _ => true
  | .settle _ _ => true
  | i => i.isErrand

end Instruction

/-- A record consumer is the one that the status of a cursor tells of. -/
def RecordConsumer.Suits (rc : RecordConsumer) (status : ConsumerStatus) : Prop :=
  rc = .feed 0 ∧ status = .installed ∨ rc = .discard ∧ status = .discardInstalled

/-- What a cursor does first that takes nobody for its records. -/
inductive Dropping : List Instruction → Prop
  | line (line : Log.Line) :
      Dropping [.ask (.log line), .channel (.installRecord .discard), .cursor 0 .injectError]
  | channel : Dropping [.channel (.installRecord .discard), .cursor 0 .injectError]
  | stream : Dropping [.stream (.installRecord .discard), .cursor 0 .injectError]

/-- A cursor whose records are dropped is consumed, or will be before anything else is
carried out. -/
inductive Staged (s : Situation) (cursor : Cursor) : Prop
  | consumed (consumed : cursor.isConsumed = true)
  /-- nobody drops the records -/
  | clear (status : cursor.status ≠ .discardInstalled)
      (clear : ∀ i ∈ s.agenda, i.isDropping = false)
  | line (line : Log.Line) {rest : List Instruction} (status : cursor.status ≠ .discardInstalled)
      (agenda : s.agenda = .ask (.log line) :: .cursor 0 (.install .discard) ::
        .cursor 0 .cancel :: .cursor 0 .markConsumed :: rest)
      (clear : ∀ i ∈ rest, i.isDropping = false)
  | begins {rest : List Instruction} (status : cursor.status ≠ .discardInstalled)
      (agenda : s.agenda = .cursor 0 (.install .discard) ::
        .cursor 0 .cancel :: .cursor 0 .markConsumed :: rest)
      (clear : ∀ i ∈ rest, i.isDropping = false)
  | taking {before rest : List Instruction} (free : s.engine.stream.recordConsumer = none)
      (dropping : Dropping before)
      (agenda : s.agenda = before ++ .cursor 0 .cancel :: .cursor 0 .markConsumed :: rest)
  /-- the stream is given up -/
  | staging {before rest : List Instruction} (present : s.engine.stream.lacksConsumer = false)
      (status : cursor.status = .discardInstalled)
      (agenda : s.agenda = before ++ .cursor 0 .markConsumed :: rest)
      (shield : Shield (fun i => i.isStaging = true) before)

/-- Who the records go to: the one iteration, or nobody. -/
structure Recipient (s : Situation) (cursor : Cursor) : Prop where
  unopened : ∀ i ∈ s.agenda, i.isOpening = false
  sole : s.engine.Sole
  summarized : s.engine.stream.summaryConsumer = some (.cursor 0) ∨ s.engine.stream.Over
  taking : ∀ i ∈ s.agenda, i.isTaking = true →
    i = .cursor 0 (.install (.feed 0)) ∨ i = .cursor 0 (.install .discard)
  suits : ∀ rc, s.engine.stream.recordConsumer = some rc → rc.Suits cursor.status
  bound : ∀ i ∈ s.agenda, ∀ rc, i.taken? = some rc → rc.Suits cursor.status
  read : cursor.status = .installed ∨ .cursor 0 (.install (.feed 0)) ∈ s.agenda →
    s.engine.iterations ≠ #[]
  staged : Staged s cursor

section Steps

variable {c : Conduct} {o : PromiseId} {h : List Move} {s s' : Situation} {m : Move}
  {cursor next : Cursor}

/-! ## The status of the cursor -/

theorem Served.cursor_eq_of_stream (served : Served o h s cursor) {a : Stream.Action}
    {rest : List Instruction} {after : Stream} {effects : List Stream.Effect}
    (stream : StreamStep s m s' a rest after effects) (hnext : s'.engine.cursors = #[next]) :
    cursor = next := by
  rw [stream.engine] at hnext
  simpa [served.cursors] using hnext

theorem suits_ofConsumer {consumer : RecordConsumer}
    (taking : consumer = .feed 0 ∨ consumer = .discard) :
    consumer.Suits (.ofConsumer consumer) := by
  rcases taking with rfl | rfl
  · exact .inl ⟨rfl, rfl⟩
  · exact .inr ⟨rfl, rfl⟩

theorem not_suits_notInstalled (rc : RecordConsumer) : ¬ rc.Suits .notInstalled := by
  rintro (⟨-, status⟩ | ⟨-, status⟩) <;> cases status

/-- The consumer that a cursor is about to take. -/
theorem Recipient.consumer (recipient : Recipient s cursor) {consumer : RecordConsumer}
    {rest : List Instruction} (head : s.agenda = .cursor 0 (.install consumer) :: rest) :
    consumer = .feed 0 ∨ consumer = .discard := by
  rcases recipient.taking (.cursor 0 (.install consumer)) (by simp [head]) rfl with heq | heq
  · exact .inl (by simpa using heq)
  · exact .inr (by simpa using heq)

/-! ## Consumers -/

theorem taking_step (recipient : Recipient s cursor) (served : Served o h s cursor)
    (feeds : c.FeedsCalmly) (step : Step s m s') (permitted : c.Permits h m) :
    ∀ i ∈ s'.agenda, i.isTaking = true →
      i = .cursor 0 (.install (.feed 0)) ∨ i = .cursor 0 (.install .discard) := by
  intro i hi taking
  have claim : i.isClaim = true := Instruction.isClaim_eq_true.2 (.inr (.inl taking))
  have demandless := Instruction.isDemand_of_isTaking taking
  rcases step.claims feeds permitted served.known recipient.unopened recipient.sole
    served.cursors hi claim with hi | claimed
  · exact recipient.taking i (List.mem_of_mem_tail hi) taking
  · cases claimed with
    | fetched head made demand => simp [demandless] at demand
    | passed head demand passes => simp [demandless] at passes
    | staged head stages heq => exact .inr heq
    | reading head heq => exact .inl heq

theorem summarized_step (recipient : Recipient s cursor) (served : Served o h s cursor)
    (step : Step s m s') (permitted : c.Permits h m) :
    s'.engine.stream.summaryConsumer = some (.cursor 0) ∨ s'.engine.stream.Over := by
  rcases recipient.summarized with summarized | isOver
  · rcases step.stream_or_quiet permitted with ⟨a, rest, after, effects, stream⟩ | ⟨_, quiet⟩
    · rw [stream.engine]
      rcases served.standing with opened | ⟨isOver, _⟩
      · have fits := opened.fits (.stream a) (by simp [stream.head])
        rcases stream.steps.continues_or_ends opened.waits fits with continues | ends
        · exact .inl (continues.summaries summarized)
        · exact .inr ends.over
      · simp [isOver.summaries] at summarized
    · rw [quiet.stream]
      exact .inl summarized
  · obtain ⟨records, summaries⟩ := takes_nothing step served.known served.installing isOver.terminal
    exact .inr (step.of_over permitted isOver records summaries).1

theorem suits_step (recipient : Recipient s cursor) (served : Served o h s cursor)
    (step : Step s m s') (permitted : c.Permits h m) (hnext : s'.engine.cursors = #[next]) :
    ∀ rc, s'.engine.stream.recordConsumer = some rc → rc.Suits next.status := by
  intro rc hrc
  rcases step.stream_or_quiet permitted with ⟨a, rest, after, effects, stream⟩ | ⟨_, quiet⟩
  · obtain rfl := served.cursor_eq_of_stream stream hnext
    rw [stream.engine] at hrc
    rcases stream.steps.records hrc with hrc | rfl
    · exact recipient.suits rc hrc
    · exact recipient.bound (.stream (.installRecord rc)) (by simp [stream.head]) rc rfl
  · rw [quiet.stream] at hrc
    have suits := recipient.suits rc hrc
    rcases served.status_step step permitted hnext with same | ⟨consumer, rest, free, -, -⟩
    · rwa [same]
    · rw [free] at suits
      exact absurd suits (not_suits_notInstalled rc)

theorem bound_step (recipient : Recipient s cursor) (served : Served o h s cursor)
    (feeds : c.FeedsCalmly) (step : Step s m s') (permitted : c.Permits h m)
    (hnext : s'.engine.cursors = #[next]) :
    ∀ i ∈ s'.agenda, ∀ rc, i.taken? = some rc → rc.Suits next.status := by
  intro i hi rc htaken
  have status := served.status_step step permitted hnext
  -- the status changes only where there was none, and then nothing was taken
  have before : ∀ i ∈ s.agenda, i.taken? = some rc → rc.Suits next.status := by
    intro i hi htaken
    have suits := recipient.bound i hi rc htaken
    rcases status with same | ⟨consumer, rest, free, -, -⟩
    · rwa [same]
    · rw [free] at suits
      exact absurd suits (not_suits_notInstalled rc)
  rcases (step.turn permitted).mem hi with hi | brought
  · exact before i (List.mem_of_mem_tail hi) htaken
  · cases brought with
    | @stream a rest after effects effect head steps mem =>
        cases effect with
        | andThen b =>
            rcases steps.isPublic_of_andThen mem with inner | ⟨-, rfl⟩
            · cases b <;> first | (cases htaken; done) | simp [Stream.Action.isPublic] at inner
            · cases htaken
        | _ => cases htaken
    | @cursor id a rest found after effects effect head hfound steps mem =>
        have hcursors := served.cursors
        rw [hcursors] at hfound
        obtain ⟨rfl, rfl⟩ := eq_of_getElem?_singleton hfound
        cases effect with
        | channel r =>
            cases r with
            | installRecord taken =>
                obtain rfl : taken = rc := Option.some.inj htaken
                have hinstall : a = .install taken ∧ found.isConsumed = false ∧
                    found.status = .notInstalled := by
                  cases steps <;> simp_all [Cursor.stage, Cursor.line]
                obtain ⟨rfl, unconsumed, free⟩ := hinstall
                rw [step.status_of_install served.toAttached head unconsumed free hnext]
                exact suits_ofConsumer (recipient.consumer head)
            | _ => cases htaken
        | _ => cases htaken
    | @channel r rest head =>
        refine before (.channel r) (by simp [head]) ?_
        cases r <;> exact htaken
    | @opened plan rest j head =>
        simpa [Instruction.isForeign] using served.known (.openCursor plan) (by simp [head])
    | notify head => cases htaken
    | outer inner piped =>
        cases i with
        | stream a => simp [Instruction.isPiped] at piped
        | channel r => simp [Instruction.isPiped] at piped
        | _ => cases htaken
    | called calls =>
        have isOver := feeds.calls i calls
        cases i with
        | stream a =>
            cases a <;> first | (cases htaken; done) | simp [Instruction.isOverCursor] at isOver
        | channel r => simp [Instruction.isOverCursor] at isOver
        | _ => cases htaken

theorem read_step (recipient : Recipient s cursor) (served : Served o h s cursor)
    (feeds : c.FeedsCalmly) (step : Step s m s') (permitted : c.Permits h m)
    (hnext : s'.engine.cursors = #[next]) :
    next.status = .installed ∨ .cursor 0 (.install (.feed 0)) ∈ s'.agenda →
      s'.engine.iterations ≠ #[] := by
  obtain ⟨-, resumes⟩ := step.reads permitted served.known recipient.unopened recipient.sole
  rintro (status | mem)
  · rcases served.status_step step permitted hnext with
      same | ⟨consumer, rest, free, head, hstatus⟩
    · exact resumes.made (recipient.read (.inl (same ▸ status)))
    · rcases recipient.consumer head with rfl | rfl
      · exact resumes.made (recipient.read (.inr (by simp [head])))
      · rw [hstatus] at status
        cases status
  · rcases step.claims feeds permitted served.known recipient.unopened recipient.sole
      served.cursors mem rfl with hmem | claimed
    · exact resumes.made (recipient.read (.inr (List.mem_of_mem_tail hmem)))
    · cases claimed with
      | fetched head made demand => cases demand
      | passed head demand passes => cases passes
      | staged head stages taking => cases taking
      | @reading q fetchSize former receiver rest _ head _ =>
          obtain ⟨-, rfl⟩ := step.exec_of_head head rfl
          obtain ⟨front, tail, heq, leaves, hfront⟩ :=
            Reply.exists_onto (s.engine.exec (.records q fetchSize former receiver)).2 rest
          have hmem : .cursor 0 (.install (.feed 0)) ∈ front ++ tail := heq ▸ mem
          rcases List.mem_append.1 hmem with hmem | hmem
          · rcases hfront with rfl | ⟨g, th, rfl, _⟩
            · exact (isClaim_of_records recipient.sole hmem rfl).2
            · cases List.mem_singleton.1 hmem
          · exact resumes.made
              (recipient.read (.inr (by simp [head, leaves.suffix.mem hmem])))

/-! ## Dropping the records -/

/-- What is part of dropping the records, one by one. -/
inductive Instruction.Stages : Instruction → Prop
  | write (request : Message) : Stages (.ask (.write request))
  | injectError : Stages (.cursor 0 .injectError)
  | cancel : Stages (.cursor 0 .cancel)
  | notify (summary : Option Summary) (f : Option Failure) : Stages (.cursor 0 (.notify summary f))
  | passFailure (f : Failure) : Stages (.channel (.fail f))
  | passCancel : Stages (.channel .cancel)
  | fail (f : Failure) : Stages (.stream (.fail f))
  | giveUp : Stages (.stream .cancel)
  | reportCancel : Stages (.stream .reportCancel)
  | concludeFailure (f : Failure) : Stages (.stream (.concludeFailure f))
  | tellSummary (summary : Option Summary) (f : Option Failure) :
      Stages (.tellSummary (.cursor 0) summary f)
  | tellEnd (f : Option Failure) : Stages (.tellEnd .discard f)
  | settle (p : PromiseId) (st : Settlement Delivery Failure) : Stages (.settle p st)
  | errand {i : Instruction} (errand : i.isErrand = true) : Stages i

theorem Instruction.stages_of_isStaging {i : Instruction} (staging : i.isStaging = true) :
    i.Stages := by
  unfold Instruction.isStaging at staging
  split at staging <;> constructor
  exact staging

theorem Instruction.isStaging_of_isErrand {i : Instruction} (errand : i.isErrand = true) :
    i.isStaging = true := by
  unfold Instruction.isStaging
  split <;> first | rfl | exact errand

/-- What the cursor does while its records are dropped leads to what is part of it. -/
theorem Engine.staging_cursor {e : Engine} {a : Cursor.Action}
    (found : e.cursors[0]? = some cursor)
    (stages : a = .injectError ∨ a = .cancel ∨ ∃ summary f, a = .notify summary f) :
    ∃ next, (e.exec (.cursor 0 a)).2 = .go next ∧ ∀ j ∈ next, j.isStaging = true := by
  rcases stages with rfl | rfl | ⟨summary, f, rfl⟩
  · rw [e.exec_cursor found rfl]
    refine ⟨_, rfl, ?_⟩
    cases cursor.runError <;> simp [Instruction.ofCursor, Instruction.isStaging]
  · rw [e.exec_cursor found rfl]
    exact ⟨_, rfl, by simp [Instruction.ofCursor, Instruction.isStaging]⟩
  · cases f with
    | some f =>
        rw [e.exec_cursor found rfl]
        exact ⟨_, rfl, by simp [Instruction.ofCursor, Instruction.isStaging]⟩
    | none =>
        cases summary <;>
          · rw [e.exec_cursor found rfl]
            exact ⟨_, rfl, by simp [Instruction.ofCursor, Instruction.isStaging]⟩

theorem mild_isStaging (recipient : Recipient s cursor) (served : Served o h s cursor)
    (feeds : c.FeedsCalmly) (present : s.engine.stream.lacksConsumer = false)
    (status : cursor.status = .discardInstalled) :
    Mild c s.engine fun i => i.isStaging = true := by
  have found : s.engine.cursors[0]? = some cursor := by simp [served.cursors]
  have ensured := Stream.ensureConsumers_eq_ok s.engine.surroundings present
  have errands := mild_isErrand feeds.toErrands s.engine
  refine ⟨fun i staging own => ?_, fun a staging => ?_,
    fun g staging => Instruction.isStaging_of_isErrand staging,
    fun g th staging => Instruction.isStaging_of_isErrand staging⟩
  · cases Instruction.stages_of_isStaging staging with
    | write request => cases own
    | injectError => exact Engine.staging_cursor found (.inl rfl)
    | cancel => exact Engine.staging_cursor found (.inr (.inl rfl))
    | notify summary f => exact Engine.staging_cursor found (.inr (.inr ⟨summary, f, rfl⟩))
    | passFailure f | passCancel =>
        rw [s.engine.exec_channel served.hasStream]
        exact ⟨_, rfl, by simp [Instruction.ofChannelRequest, Instruction.isStaging]⟩
    | fail f =>
        simp only [Engine.exec, Engine.stepStream, Stream.step, Stream.fail, ensured, bind,
          Except.bind]
        cases s.engine.stream.phase.isTerminal <;> exact ⟨_, rfl, by simp [Instruction.ofStream,
          Instruction.isStaging, Stream.debug, Instruction.isErrand, Ask.isNotice]⟩
    | giveUp =>
        simp only [Engine.exec, Engine.stepStream, Stream.step, Stream.cancel, ensured, bind,
          Except.bind]
        cases s.engine.stream.phase <;> exact ⟨_, rfl, by simp [Instruction.ofStream,
          Instruction.isStaging, Stream.discardEffects, Stream.debug, Instruction.isErrand,
          Ask.isNotice]⟩
    | reportCancel =>
        exact ⟨_, rfl, by simp [Instruction.ofStream, Instruction.isStaging, Stream.debug,
          Instruction.isErrand, Ask.isNotice]⟩
    | concludeFailure f =>
        -- the consumers that are told of the failure are the cursor and nobody
        refine ⟨_, rfl, fun j among => ?_⟩
        obtain ⟨effect, mem, rfl⟩ := List.mem_map.1 among
        rcases List.mem_append.1 mem with mem | mem
        · simp only [Option.mem_toList, Option.map_eq_some_iff] at mem
          obtain ⟨sc, hsc, rfl⟩ := mem
          obtain rfl := served.attendant sc hsc
          rfl
        · simp only [Option.mem_toList, Option.map_eq_some_iff] at mem
          obtain ⟨rc, hrc, rfl⟩ := mem
          rcases recipient.suits rc hrc with ⟨-, installed⟩ | ⟨rfl, -⟩
          · simp [status] at installed
          · rfl
    | tellSummary summary f => exact ⟨_, rfl, by simp [Instruction.isStaging]⟩
    | tellEnd f => exact ⟨[], rfl, by simp⟩
    | settle p st => exact ⟨[], rfl, by simp⟩
    | errand errand =>
        obtain ⟨next, reply, among⟩ := errands.carried i errand own
        exact ⟨next, reply, fun j mem => Instruction.isStaging_of_isErrand (among j mem)⟩
  · cases a with
    | write request => exact .inr (feeds.writes request)
    | _ => exact errands.asked _ staging

/-- Where nobody drops the records, somebody begins to, or nobody does. -/
theorem staged_of_clear (recipient : Recipient s cursor) (served : Served o h s cursor)
    (feeds : c.FeedsCalmly) (step : Step s m s') (permitted : c.Permits h m)
    (hnext : s'.engine.cursors = #[next]) (status : cursor.status ≠ .discardInstalled)
    (clear : ∀ i ∈ s.agenda, i.isDropping = false) : Staged s' next := by
  have found : s.engine.cursors[0]? = some cursor := by simp [served.cursors]
  have hstatus : next.status ≠ .discardInstalled := by
    rcases served.status_step step permitted hnext with same | ⟨consumer, rest, -, head, taken⟩
    · rwa [same]
    · rcases recipient.consumer head with rfl | rfl
      · rw [taken]
        simp [ConsumerStatus.ofConsumer]
      · simpa [Instruction.isDropping] using clear (.cursor 0 (.install .discard)) (by simp [head])
  by_cases stages : ∃ a rest, s.agenda = .cursor 0 a :: rest ∧ a.isStage = true
  · obtain ⟨a, rest, head, stages⟩ := stages
    have hrest : ∀ i ∈ rest, i.isDropping = false := fun i hi => clear i (by simp [head, hi])
    have staged : ∀ (after : Cursor) (last : Cursor.Effect),
        (Instruction.ofCursor 0 after last).isDropping = false →
          s'.agenda = (cursor.stage (s.engine.isResolved cursor) ++ [last]).map
            (.ofCursor 0 after) ++ rest → Staged s' next := by
      intro after last hlast hagenda
      unfold Cursor.stage at hagenda
      split at hagenda
      · refine .clear hstatus fun i hi => ?_
        rw [hagenda] at hi
        rcases List.mem_cons.1 hi with rfl | hi
        · exact hlast
        · exact hrest i hi
      · refine .line _ hstatus hagenda fun i hi => ?_
        rcases List.mem_cons.1 hi with rfl | hi
        · exact hlast
        · exact hrest i hi
    obtain ⟨-, rfl⟩ := step.exec_of_head head rfl
    cases a with
    | summary receiver =>
        refine staged { cursor with isSummaryExposed := true } (.relay receiver) rfl ?_
        rw [s.engine.exec_cursor found rfl]
        rfl
    | discardAll receiver =>
        refine staged cursor (.report receiver) rfl ?_
        rw [s.engine.exec_cursor found rfl]
        rfl
    | _ => cases stages
  · refine .clear hstatus fun i hi => ?_
    cases dropping : i.isDropping with
    | false => rfl
    | true =>
        have taking : i.isTaking = true := by
          unfold Instruction.isDropping at dropping
          split at dropping
          · rfl
          · cases dropping
        have claim : i.isClaim = true := Instruction.isClaim_eq_true.2 (.inr (.inl taking))
        rcases step.claims feeds permitted served.known recipient.unopened recipient.sole
          served.cursors hi claim with hi | claimed
        · simp [clear i (List.mem_of_mem_tail hi)] at dropping
        · cases claimed with
          | fetched head made demand => simp [Instruction.isDemand_of_isTaking taking] at demand
          | passed head demand passes => simp [Instruction.isDemand_of_isTaking taking] at passes
          | staged head hstage taking => exact absurd ⟨_, _, head, hstage⟩ stages
          | reading head taking => simp [taking, Instruction.isDropping] at dropping

/-- A cursor that takes nobody for its records goes on with that, and the stream is given
up then. -/
theorem staged_of_taking (recipient : Recipient s cursor) (served : Served o h s cursor)
    (step : Step s m s') (permitted : c.Permits h m) (hnext : s'.engine.cursors = #[next])
    {before rest : List Instruction} (free : s.engine.stream.recordConsumer = none)
    (dropping : Dropping before)
    (agenda : s.agenda = before ++ .cursor 0 .cancel :: .cursor 0 .markConsumed :: rest) :
    Staged s' next := by
  cases dropping with
  | line line =>
      obtain ⟨-, rfl⟩ := step.of_notice permitted agenda rfl
      exact .taking free .channel rfl
  | channel =>
      obtain ⟨-, rfl⟩ := step.exec_of_head agenda rfl
      refine @Staged.taking _ _ _ rest ?_ .stream ?_
      · simpa [Engine.exec, served.hasStream, Engine.goOn] using free
      · simp [Engine.exec, served.hasStream, Engine.goOn, Instruction.ofChannelRequest]
  | stream =>
      have status : cursor.status = .discardInstalled := by
        rcases recipient.bound (.stream (.installRecord .discard)) (by simp [agenda]) _ rfl with
          ⟨feed, -⟩ | ⟨-, status⟩
        · cases feed
        · exact status
      have summarized : s.engine.stream.summaryConsumer = some (.cursor 0) := by
        rcases recipient.summarized with summarized | isOver
        · exact summarized
        · have installing := served.installing
          rw [agenda] at installing
          simpa [installing.ready_of_stream, Phase.isTerminal] using isOver.terminal
      obtain ⟨-, rfl⟩ := step.exec_of_head agenda rfl
      rw [s.engine.exec_installRecord .discard free] at hnext ⊢
      obtain rfl : cursor = next := by simpa [served.cursors] using hnext
      refine @Staged.staging _ _ [.cursor 0 .injectError, .cursor 0 .cancel] _ ?_ status rfl ?_
      · simp [Stream.lacksConsumer, summarized]
      · refine ⟨by simp [Instruction.isPlain], sealed_of_forall ?_⟩
        simp [Instruction.isStaging]

theorem staged_step (recipient : Recipient s cursor) (served : Served o h s cursor)
    (feeds : c.FeedsCalmly) (step : Step s m s') (permitted : c.Permits h m)
    (hnext : s'.engine.cursors = #[next]) : Staged s' next := by
  have found : s.engine.cursors[0]? = some cursor := by simp [served.cursors]
  have keeps : cursor.isConsumed = true → Staged s' next := by
    intro consumed
    refine .consumed ?_
    rcases served.cursor_or_eq step permitted hnext with ⟨a, rest, effects, taken⟩ | rfl
    · exact taken.steps.isConsumed.1 consumed
    · exact consumed
  cases recipient.staged with
  | consumed consumed => exact keeps consumed
  | clear status clear =>
      exact staged_of_clear recipient served feeds step permitted hnext status clear
  | line line status agenda clear =>
      obtain ⟨-, rfl⟩ := step.of_notice permitted agenda rfl
      obtain rfl : cursor = next := by simpa [served.cursors] using hnext
      exact .begins status rfl clear
  | @begins rest status agenda clear =>
      cases consumed : cursor.isConsumed with
      | true => exact keeps consumed
      | false =>
          obtain ⟨-, rfl⟩ := step.exec_of_head agenda rfl
          by_cases free : cursor.status = .notInstalled
          · have hstep :
                cursor.step (s.engine.isResolved cursor) (.install .discard) = .ok (_, _) :=
              Cursor.step_install consumed free
            rw [s.engine.exec_cursor found hstep]
            exact .taking (served.absent free).1 (.line _) rfl
          · have hstep : cursor.step (s.engine.isResolved cursor) (.install .discard)
                = .ok (cursor, []) := by
              simp [Cursor.step, Cursor.ensureOpen, consumed, free, ConsumerStatus.isInstalled,
                bind, Except.bind, pure, Except.pure]
            rw [s.engine.exec_cursor found hstep] at hnext ⊢
            obtain rfl : cursor = next := by simpa [served.cursors] using hnext
            refine .clear status fun i hi => ?_
            simp only [List.map_nil, Reply.onto_go, List.nil_append, List.mem_cons] at hi
            rcases hi with rfl | rfl | hi
            · rfl
            · rfl
            · exact clear i hi
  | taking free dropping agenda =>
      exact staged_of_taking recipient served step permitted hnext free dropping agenda
  | @staging before rest present status agenda shield =>
      cases before with
      | nil =>
          obtain ⟨-, rfl⟩ := step.exec_of_head agenda rfl
          rw [s.engine.exec_cursor found rfl] at hnext
          obtain rfl : { cursor with isConsumed := true } = next := by
            simpa [served.cursors] using hnext
          exact .consumed rfl
      | cons i before =>
          have hstatus : next.status = .discardInstalled := by
            rcases served.status_step step permitted hnext with same | ⟨_, _, free, -, -⟩
            · rwa [same]
            · simp [status] at free
          obtain ⟨before', hagenda, hshield, _⟩ := step.of_shield permitted
            (mild_isStaging recipient served feeds present status) agenda shield
          exact .staging (served.present_step step permitted present) hstatus hagenda hshield

/-! ## All moves -/

theorem Recipient.step (recipient : Recipient s cursor) (served : Served o h s cursor)
    (feeds : c.FeedsCalmly) (step : Step s m s') (permitted : c.Permits h m)
    (hnext : s'.engine.cursors = #[next]) : Recipient s' next where
  unopened := step.unopened feeds permitted served.known recipient.unopened recipient.sole
    served.cursors
  sole := (step.reads permitted served.known recipient.unopened recipient.sole).2.sole
  summarized := summarized_step recipient served step permitted
  taking := taking_step recipient served feeds step permitted
  suits := suits_step recipient served step permitted hnext
  bound := bound_step recipient served feeds step permitted hnext
  read := read_step recipient served feeds step permitted hnext
  staged := staged_step recipient served feeds step permitted hnext

end Steps

end QueryStream
