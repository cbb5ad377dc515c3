/-
  Proofs/Consumers.lean --- what the consumers of a stream are told, and when.

  While a stream goes on its consumers are told of records and that there is more, in
  any order.  Then they are told of the end, the summary consumer first and right
  after it the record consumer, with the same failure; and then nothing more, and
  nothing is written.  That holds however calls are nested: a call may be answered
  inside another one that still has something to do, and the end may come in between.

  A run goes through four stages.  While it is open, what is to be told or written
  stands at the front of the agenda, so nothing comes in between, and it fits the
  stream as it is.  The stream then lets its consumers go and puts both tellings of
  the end on the agenda.  While the summary consumer is told, and makes calls of its
  own, the other telling waits behind a shield.  And whatever is left of other actions
  by then finds the stream over and no consumer.
-/
import QueryStream.Proofs.Stream.Attendance

set_option autoImplicit false

namespace QueryStream

/-! ## Tellings -/

/-- Whether an instruction tells a consumer of the end. -/
def Instruction.isEnding : Instruction → Bool
  | .tellEnd _ _ => true
  | .tellSummary _ (some _) _ => true
  | _ => false

/-- Whether an ask tells a caller's own consumer something. -/
def Ask.isTelling : Ask → Bool
  | .record _ _ => true
  | .ended _ _ => true
  | .summary _ _ _ => true
  | _ => false

/-- What the consumers were told in a history, the earliest first. -/
def told : List Move → List Instruction
  | [] => []
  | .carried i _ :: h => if i.isTelling then told h ++ [i] else told h
  | _ :: h => told h

/-- Whether a move has a stream take a record consumer. -/
def Move.takesRecordConsumer : Move → Bool
  | .carried (.stream (.installRecord _)) (.go _) => true
  | _ => false

/-- Whether a move has a stream take a summary consumer. -/
def Move.takesSummaryConsumer : Move → Bool
  | .carried (.stream (.installSummary _)) (.go _) => true
  | _ => false

/-- What consumers are told while the stream goes on. -/
inductive Progress (rc : RecordConsumer) (sc : SummaryConsumer) : Instruction → Prop
  | record (r : Record) : Progress rc sc (.tellRecord rc r)
  | more : Progress rc sc (.tellSummary sc none none)

theorem told_cons_of_not_telling {m : Move} (h : List Move)
    (hm : ∀ i r, m = .carried i r → i.isTelling = false) : told (m :: h) = told h := by
  cases m with
  | carried i r => simp [told, hm i r rfl]
  | _ => rfl

/-! ## Stages -/

/-- What throws nothing while a caller's own consumer is told of the end. -/
def Instruction.isCalm : Instruction → Bool
  | .ask a => a.isNotice || a.isTelling
  | .guarded g => g.isOutside
  | .caught g _ => g.isOutside
  | _ => false

/-- What is still to be done before the record consumer is told of the end: until a
cursor resolved its outcome, or a caller's own consumer gave control back. -/
inductive Telling (e : Engine) (summary : Summary) (f : Option Failure) :
    SummaryConsumer → List Instruction → Prop
  | own {id : Nat} {name : String} {before : List Instruction}
      (shield : Shield (fun i => i.isCalm = true) before) :
      Telling e summary f (.client id name) before
  | notify (id : CursorId) :
      Telling e summary f (.cursor id) [.cursor id (.notify (some summary) f)]
  | settle {id : CursorId} {c : Cursor} (s : Settlement Delivery Failure)
      (found : e.cursors[id]? = some c) :
      Telling e summary f (.cursor id) [.settle c.outcome s]
  | resolved {id : CursorId}
      (done : ∀ c, e.cursors[id]? = some c → e.isResolved c = true) :
      Telling e summary f (.cursor id) []

/-- The consumers that the stream took in a history are these. -/
structure Took (h : List Move) (rc : RecordConsumer) (sc : SummaryConsumer) : Prop where
  record : ∀ c next, .carried (.stream (.installRecord c)) (.go next) ∈ h → c = rc
  summary : ∀ c next, .carried (.stream (.installSummary c)) (.go next) ∈ h → c = sc

/-- The stream goes on, or was not begun, and told its consumers of progress only. -/
structure Opened (h : List Move) (s : Situation) : Prop where
  isOpen : Open s
  record : ∀ c next, .carried (.stream (.installRecord c)) (.go next) ∈ h →
    s.engine.stream.recordConsumer = some c
  summary : ∀ c next, .carried (.stream (.installSummary c)) (.go next) ∈ h →
    s.engine.stream.summaryConsumer = some c
  records : s.engine.stream.recordConsumer.isSome = true → 1 ≤ h.countP Move.takesRecordConsumer
  summaries : s.engine.stream.summaryConsumer.isSome = true →
    1 ≤ h.countP Move.takesSummaryConsumer
  tellings : ∀ i ∈ told h, ∃ rc sc, s.engine.stream.recordConsumer = some rc ∧
    s.engine.stream.summaryConsumer = some sc ∧ Progress rc sc i

/-- The stream let both consumers go. -/
structure Parted (h : List Move) (s : Situation) (rc : RecordConsumer) (sc : SummaryConsumer) :
    Prop where
  isOver : s.engine.stream.Over
  took : Took h rc sc
  records : 1 ≤ h.countP Move.takesRecordConsumer
  summaries : 1 ≤ h.countP Move.takesSummaryConsumer

/-- How far the stream is in telling its consumers. -/
inductive Stage (h : List Move) (s : Situation) : Prop
  | opened (opened : Opened h s)
  /-- both consumers are to be told of the end next -/
  | ending {rc : RecordConsumer} {sc : SummaryConsumer} {summary : Summary}
      {f : Option Failure} {rest : List Instruction} (parted : Parted h s rc sc)
      (told : ∀ i ∈ told h, Progress rc sc i)
      (agenda : s.agenda = farewell rc sc summary f ++ rest)
      (cold : ∀ i ∈ rest, i.isHot = false)
  /-- the summary consumer is being told of the end -/
  | telling {rc : RecordConsumer} {sc : SummaryConsumer} {summary : Summary}
      {f : Option Failure} {progress before rest : List Instruction}
      (parted : Parted h s rc sc)
      (told : told h = progress ++ [.tellSummary sc (some summary) f])
      (progress : ∀ i ∈ progress, Progress rc sc i)
      (agenda : s.agenda = before ++ .tellEnd rc f :: rest)
      (telling : Telling s.engine summary f sc before)
      (cold : ∀ i ∈ before ++ rest, i.isHot = false)
  /-- both consumers were told of the end -/
  | closed {rc : RecordConsumer} {sc : SummaryConsumer} {summary : Summary}
      {f : Option Failure} {progress : List Instruction} (parted : Parted h s rc sc)
      (told : told h = progress ++ farewell rc sc summary f)
      (progress : ∀ i ∈ progress, Progress rc sc i)
      (cold : ∀ i ∈ s.agenda, i.isHot = false)

/-! ## What a move keeps -/

section Keeps

variable {c : Conduct} {h : List Move} {s s' : Situation} {m : Move}

theorem ne_installs (records : m.takesRecordConsumer = false)
    (summaries : m.takesSummaryConsumer = false) :
    (∀ rc next, m ≠ .carried (.stream (.installRecord rc)) (.go next)) ∧
      ∀ sc next, m ≠ .carried (.stream (.installSummary sc)) (.go next) := by
  constructor
  · rintro rc next rfl
    simp [Move.takesRecordConsumer] at records
  · rintro sc next rfl
    simp [Move.takesSummaryConsumer] at summaries

/-- Consumers that were taken once are not taken again. -/
theorem Parted.takes {rc : RecordConsumer} {sc : SummaryConsumer} (parted : Parted h s rc sc)
    (records : (m :: h).countP Move.takesRecordConsumer ≤ 1)
    (summaries : (m :: h).countP Move.takesSummaryConsumer ≤ 1) :
    m.takesRecordConsumer = false ∧ m.takesSummaryConsumer = false := by
  have hrecords := parted.records
  have hsummaries := parted.summaries
  constructor
  · cases taken : m.takesRecordConsumer with
    | false => rfl
    | true =>
        rw [List.countP_cons_of_pos taken] at records
        omega
  · cases taken : m.takesSummaryConsumer with
    | false => rfl
    | true =>
        rw [List.countP_cons_of_pos taken] at summaries
        omega

theorem Took.cons {rc : RecordConsumer} {sc : SummaryConsumer} (took : Took h rc sc)
    (records : m.takesRecordConsumer = false) (summaries : m.takesSummaryConsumer = false) :
    Took (m :: h) rc sc := by
  constructor
  · intro c next hmem
    rcases List.mem_cons.1 hmem with rfl | hmem
    · simp [Move.takesRecordConsumer] at records
    · exact took.record c next hmem
  · intro c next hmem
    rcases List.mem_cons.1 hmem with rfl | hmem
    · simp [Move.takesSummaryConsumer] at summaries
    · exact took.summary c next hmem

theorem countP_le_cons (p : Move → Bool) (h : List Move) (m : Move) :
    h.countP p ≤ (m :: h).countP p :=
  (List.sublist_cons_self m h).countP_le

theorem Parted.step {rc : RecordConsumer} {sc : SummaryConsumer} (parted : Parted h s rc sc)
    (step : Step s m s') (permitted : c.Permits h m) (records : m.takesRecordConsumer = false)
    (summaries : m.takesSummaryConsumer = false) : Parted (m :: h) s' rc sc :=
  ⟨(step.of_over permitted parted.isOver (ne_installs records summaries).1
      (ne_installs records summaries).2).1,
    parted.took.cons records summaries,
    Nat.le_trans parted.records (countP_le_cons _ h m),
    Nat.le_trans parted.summaries (countP_le_cons _ h m)⟩

theorem Step.told_eq (step : Step s m s')
    (cold : ∀ i rest, s.agenda = i :: rest → i.isHot = false) : told (m :: h) = told h := by
  refine told_cons_of_not_telling h ?_
  rintro i r rfl
  obtain ⟨rest, hagenda⟩ := step.head_of_carried
  have hi := cold i rest hagenda
  cases i <;> first | rfl | simp [Instruction.isHot, Instruction.isTelling] at hi

end Keeps

/-! ## Open streams -/

section Opened

variable {c : Conduct} {h : List Move} {s s' : Situation} {m : Move}

theorem told_stream (a : Stream.Action) (r : Reply) (h : List Move) :
    told (.carried (.stream a) r :: h) = told h :=
  told_cons_of_not_telling h fun i r' heq => by
    cases heq
    rfl

/-- A step with which an open stream goes on. -/
theorem Opened.continues {a : Stream.Action} {rest : List Instruction} {next : Stream}
    {effects : List Stream.Effect} (opened : Opened h s)
    (stream : StreamStep s m s' a rest next effects)
    (continues : s.engine.stream.Continues next effects) : Opened (m :: h) s' := by
  have hstream : s'.engine.stream = next := by rw [stream.engine]
  refine ⟨opened.isOpen.continues stream continues, ?_, ?_, ?_, ?_, ?_⟩
  · intro c next' hmem
    rw [hstream]
    rcases List.mem_cons.1 hmem with heq | hmem
    · rw [stream.move] at heq
      cases heq
      cases stream.steps
      rfl
    · exact continues.records (opened.record c next' hmem)
  · intro c next' hmem
    rw [hstream]
    rcases List.mem_cons.1 hmem with heq | hmem
    · rw [stream.move] at heq
      cases heq
      cases stream.steps
      rfl
    · exact continues.summaries (opened.summary c next' hmem)
  · intro present
    obtain ⟨rc, hrc⟩ := Option.isSome_iff_exists.1 present
    rw [hstream] at hrc
    rcases stream.steps.records hrc with hrc | rfl
    · exact Nat.le_trans (opened.records (by simp [hrc])) (countP_le_cons _ h m)
    · rw [stream.move, List.countP_cons_of_pos (by rfl)]
      exact Nat.le_add_left 1 _
  · intro present
    obtain ⟨sc, hsc⟩ := Option.isSome_iff_exists.1 present
    rw [hstream] at hsc
    rcases stream.steps.summaries hsc with hsc | rfl
    · exact Nat.le_trans (opened.summaries (by simp [hsc])) (countP_le_cons _ h m)
    · rw [stream.move, List.countP_cons_of_pos (by rfl)]
      exact Nat.le_add_left 1 _
  · intro i hi
    rw [stream.move, told_stream] at hi
    obtain ⟨rc, sc, hrc, hsc, progress⟩ := opened.tellings i hi
    rw [hstream]
    exact ⟨rc, sc, continues.records hrc, continues.summaries hsc, progress⟩

/-- A step that lets the consumers go takes none. -/
theorem StreamStep.takes_of_released {a : Stream.Action} {rest : List Instruction}
    {next : Stream} {effects : List Stream.Effect}
    (stream : StreamStep s m s' a rest next effects)
    (released : next = s.engine.stream.released) :
    m.takesRecordConsumer = false ∧ m.takesSummaryConsumer = false := by
  have steps := stream.steps
  rw [stream.move]
  cases a with
  | installRecord c =>
      cases steps
      simp [Stream.released] at released
  | installSummary c =>
      cases steps
      simp [Stream.released] at released
  | _ => exact ⟨rfl, rfl⟩

/-- A step with which an open stream ends. -/
theorem Opened.ends {a : Stream.Action} {rest : List Instruction} {next : Stream}
    {effects : List Stream.Effect} (opened : Opened h s)
    (stream : StreamStep s m s' a rest next effects)
    (ends : s.engine.stream.Ends next effects) : Stage (m :: h) s' := by
  obtain ⟨noRecord, noSummary⟩ := stream.takes_of_released ends.released
  obtain ⟨rc, sc, summary, f, hrc, hsc, heffects⟩ := ends.ending
  have isOver : s'.engine.stream.Over := by
    rw [stream.engine]
    exact ends.over
  have took : Took h rc sc := by
    refine ⟨fun c next hmem => ?_, fun c next hmem => ?_⟩
    · exact Option.some.inj ((opened.record c next hmem).symm.trans hrc)
    · exact Option.some.inj ((opened.summary c next hmem).symm.trans hsc)
  have records := opened.records (by simp [hrc])
  have summaries := opened.summaries (by simp [hsc])
  have parted : Parted (m :: h) s' rc sc :=
    ⟨isOver, took.cons noRecord noSummary, Nat.le_trans records (countP_le_cons _ h m),
      Nat.le_trans summaries (countP_le_cons _ h m)⟩
  refine .ending parted ?_ (by rw [stream.agenda, heffects]) (opened.isOpen.cold stream.head rfl)
  intro i hi
  rw [stream.move, told_stream] at hi
  obtain ⟨rc', sc', hrc', hsc', progress⟩ := opened.tellings i hi
  obtain rfl := Option.some.inj (hrc.symm.trans hrc')
  obtain rfl := Option.some.inj (hsc.symm.trans hsc')
  exact progress

/-- What an open stream tells its consumers is progress. -/
theorem Opened.progress {i : Instruction} (opened : Opened h s) (hi : i ∈ s.agenda)
    (telling : i.isTelling = true) : ∃ rc sc, s.engine.stream.recordConsumer = some rc ∧
      s.engine.stream.summaryConsumer = some sc ∧ Progress rc sc i := by
  have driven : i.isDriven = true := by
    cases i <;> first | rfl | simp [Instruction.isTelling] at telling
  obtain ⟨⟨hrecord, hsummary⟩, due⟩ := opened.isOpen.fits i hi driven
  obtain ⟨rc, hrc⟩ := Option.isSome_iff_exists.1 hrecord
  obtain ⟨sc, hsc⟩ := Option.isSome_iff_exists.1 hsummary
  refine ⟨rc, sc, hrc, hsc, ?_⟩
  cases i with
  | tellRecord c r =>
      obtain rfl := Option.some.inj (hrc.symm.trans due)
      exact .record r
  | tellEnd c f => exact due.elim
  | tellSummary c summary f =>
      obtain ⟨hc, rfl, rfl⟩ := due
      obtain rfl := Option.some.inj (hsc.symm.trans hc)
      exact .more
  | _ => simp [Instruction.isTelling] at telling

theorem Opened.quiet (opened : Opened h s) (step : Step s m s')
    (noStream : ∀ a next, m ≠ .carried (.stream a) (.go next)) (quiet : Quiet s m s') :
    Opened (m :: h) s' := by
  have hstream := quiet.stream
  refine ⟨opened.isOpen.quiet quiet, ?_, ?_, ?_, ?_, ?_⟩
  · intro c next hmem
    rw [hstream]
    rcases List.mem_cons.1 hmem with rfl | hmem
    · exact absurd rfl (noStream _ _)
    · exact opened.record c next hmem
  · intro c next hmem
    rw [hstream]
    rcases List.mem_cons.1 hmem with rfl | hmem
    · exact absurd rfl (noStream _ _)
    · exact opened.summary c next hmem
  · intro present
    rw [hstream] at present
    exact Nat.le_trans (opened.records present) (countP_le_cons _ h m)
  · intro present
    rw [hstream] at present
    exact Nat.le_trans (opened.summaries present) (countP_le_cons _ h m)
  · intro i hi
    rw [hstream]
    cases m with
    | carried j r =>
        obtain ⟨rest, hagenda⟩ := step.head_of_carried
        cases telling : j.isTelling with
        | false => exact opened.tellings i (by simpa [told, telling] using hi)
        | true =>
            simp only [told, telling, if_true, List.mem_append, List.mem_singleton] at hi
            rcases hi with hi | rfl
            · exact opened.tellings i hi
            · exact opened.progress (by simp [hagenda]) telling
    | answered a r => exact opened.tellings i hi
    | began j => exact opened.tellings i hi
    | called next => exact opened.tellings i hi

end Opened

/-! ## The end -/

section End

variable {c : Conduct} {h : List Move} {s s' : Situation} {m : Move}

/-- Nothing calm throws anything if consumers never raise. -/
theorem mild_isCalm (tame : ∀ a : Ask, a.isTelling = true → c.tame a) (e : Engine) :
    Mild c e fun i => i.isCalm = true := by
  refine ⟨?_, ?_, fun g hg => hg, fun g th hg => hg⟩
  · intro i hi own
    cases i with
    | guarded g => exact ⟨[], rfl, by simp⟩
    | caught g th =>
        cases g with
        | job | command =>
            cases th with
            | failure f => exact ⟨_, rfl, by simp [Instruction.isCalm, Ask.isNotice]⟩
            | cancelled => exact ⟨[], rfl, by simp⟩
        | _ => simp [Instruction.isCalm, Guard.isOutside] at hi
    | ask a => simp [Instruction.isAsk] at own
    | _ => simp [Instruction.isCalm] at hi
  · intro a ha
    simp only [Instruction.isCalm, Bool.or_eq_true] at ha
    exact ha.imp_right (tame a)

theorem Engine.exec_notify (e : Engine) (id : CursorId) (summary : Summary)
    (f : Option Failure) :
    ∃ next, (e.exec (.cursor id (.notify (some summary) f))).2 = .go next ∧
      Telling (e.exec (.cursor id (.notify (some summary) f))).1 summary f (.cursor id) next := by
  cases found : e.cursors[id]? with
  | none =>
      rw [e.exec_cursor_of_none _ found]
      exact ⟨[], rfl, .resolved fun c hc => by simp [found] at hc⟩
  | some c =>
      cases f with
      | some f =>
          rw [e.exec_cursor found rfl]
          exact ⟨_, rfl, .settle _ (e.getElem?_setIfInBounds_self _ found)⟩
      | none =>
          rw [e.exec_cursor found rfl]
          exact ⟨_, rfl, .settle _ (e.getElem?_setIfInBounds_self _ found)⟩

/-- While the summary consumer is being told, the record consumer's turn stays on the
agenda. -/
theorem Telling.step {summary : Summary} {f : Option Failure} {sc : SummaryConsumer}
    {i x : Instruction} {before rest : List Instruction}
    (telling : Telling s.engine summary f sc (i :: before)) (step : Step s m s')
    (permitted : c.Permits h m) (tame : ∀ a : Ask, a.isTelling = true → c.tame a)
    (ranged : s.engine.Ranged) (agenda : s.agenda = i :: (before ++ x :: rest)) :
    ∃ before', s'.agenda = before' ++ x :: rest ∧ Telling s'.engine summary f sc before' ∧
      ∀ j ∈ before', j ∈ before ∨ j ∈ m.next ∨ ∃ g th, j = .caught g th := by
  cases telling with
  | own shield =>
      obtain ⟨before', hagenda, hshield, hmem⟩ :=
        step.of_shield permitted (mild_isCalm tame _) agenda shield
      exact ⟨before', hagenda, .own hshield, hmem⟩
  | notify id =>
      obtain ⟨e, todo⟩ := s
      obtain rfl : todo = _ := agenda
      cases step with
      | carry own =>
          obtain ⟨next, hreply, hnext⟩ := e.exec_notify id summary f
          refine ⟨next, by simp [hreply], hnext, fun j hj => ?_⟩
          exact .inr (.inl (by simpa [Move.next, hreply] using hj))
  | @settle id c st found =>
      obtain ⟨e, todo⟩ := s
      obtain rfl : todo = _ := agenda
      cases step with
      | carry own =>
          refine ⟨[], rfl, .resolved fun c' hc' => ?_, by simp⟩
          have hc : e.cursors[id]? = some c' := hc'
          obtain rfl := Option.some.inj (found.symm.trans hc)
          exact Loop.isDone_settle (ranged id c found) st

/-- Both consumers are to be told of the end: the summary consumer is told. -/
theorem Stage.of_ending {rc : RecordConsumer} {sc : SummaryConsumer} {summary : Summary}
    {f : Option Failure} {rest : List Instruction} (step : Step s m s')
    (parted : Parted (m :: h) s' rc sc) (progress : ∀ i ∈ told h, Progress rc sc i)
    (agenda : s.agenda = farewell rc sc summary f ++ rest)
    (cold : ∀ i ∈ rest, i.isHot = false) : Stage (m :: h) s' := by
  obtain ⟨e, todo⟩ := s
  obtain rfl : todo = _ := agenda
  cases step with
  | carry own =>
      cases sc with
      | client id name =>
          have shield : Shield (fun i => i.isCalm = true)
              [.ask (.summary id (some summary) f)] := by
            refine ⟨fun i hi => ?_, sealed_of_forall fun i hi => ?_⟩
            · rw [List.mem_singleton.1 hi]
              rfl
            · rw [List.mem_singleton.1 hi]
              rfl
          refine .telling parted rfl progress rfl (.own shield) fun i hi => ?_
          rcases List.mem_cons.1 hi with rfl | hi
          · rfl
          · exact cold i hi
      | cursor id =>
          refine .telling parted rfl progress rfl (.notify id) fun i hi => ?_
          rcases List.mem_cons.1 hi with rfl | hi
          · rfl
          · exact cold i hi

/-- The summary consumer was told of the end: the record consumer is told. -/
theorem Stage.of_tellEnd {rc : RecordConsumer} {sc : SummaryConsumer} {summary : Summary}
    {f : Option Failure} {progress rest : List Instruction} (step : Step s m s')
    (parted : Parted (m :: h) s' rc sc)
    (htold : told h = progress ++ [.tellSummary sc (some summary) f])
    (hprogress : ∀ i ∈ progress, Progress rc sc i)
    (agenda : s.agenda = .tellEnd rc f :: rest)
    (cold : ∀ i ∈ s'.agenda, i.isHot = false) : Stage (m :: h) s' := by
  obtain ⟨e, todo⟩ := s
  obtain rfl : todo = _ := agenda
  cases step with
  | carry own =>
      have htold' : told (.carried (.tellEnd rc f) (e.exec (.tellEnd rc f)).2 :: h)
          = progress ++ farewell rc sc summary f := by
        simp [told, Instruction.isTelling, htold, farewell]
      exact .closed parted htold' hprogress cold

theorem Stage.step (stage : Stage h s) (step : Step s m s') (permitted : c.Permits h m)
    (tame : ∀ a : Ask, a.isTelling = true → c.tame a) (ranged : s.engine.Ranged)
    (records : (m :: h).countP Move.takesRecordConsumer ≤ 1)
    (summaries : (m :: h).countP Move.takesSummaryConsumer ≤ 1) : Stage (m :: h) s' := by
  cases stage with
  | opened opened =>
      rcases step.stream_or_quiet permitted with
        ⟨a, rest, next, effects, stream⟩ | ⟨noStream, quiet⟩
      · have fits := opened.isOpen.fits (.stream a) (by simp [stream.head])
        rcases stream.steps.continues_or_ends opened.isOpen.waits fits with continues | ends
        · exact .opened (opened.continues stream continues)
        · exact opened.ends stream ends
      · exact .opened (opened.quiet step noStream quiet)
  | ending parted htold agenda cold =>
      obtain ⟨noRecord, noSummary⟩ := parted.takes records summaries
      exact .of_ending step (parted.step step permitted noRecord noSummary) htold agenda cold
  | @telling rc sc summary f progress before rest parted htold hprogress agenda telling cold =>
      obtain ⟨noRecord, noSummary⟩ := parted.takes records summaries
      have parted' := parted.step step permitted noRecord noSummary
      obtain ⟨_, hnext, _⟩ := step.of_over permitted parted.isOver
        (ne_installs noRecord noSummary).1 (ne_installs noRecord noSummary).2
      -- what settles the outcome stands before what tells of the end
      cases before with
      | nil =>
          exact .of_tellEnd step parted' htold hprogress agenda
            (step.cold_of_tellEnd agenda hnext cold)
      | cons i before =>
          obtain ⟨before', hagenda, htelling, hmem⟩ :=
            telling.step step permitted tame ranged agenda
          have htold' : told (m :: h) = progress ++ [.tellSummary sc (some summary) f] := by
            rw [← htold]
            refine step.told_eq fun j rest' heq => ?_
            obtain ⟨rfl, -⟩ := List.cons.inj (agenda.symm.trans heq)
            exact cold i (by simp)
          refine .telling parted' htold' hprogress hagenda htelling fun j hj => ?_
          rcases List.mem_append.1 hj with hj | hj
          · rcases hmem j hj with hj | hj | ⟨g, th, rfl⟩
            · exact cold j (by simp [hj])
            · exact hnext j hj
            · rfl
          · exact cold j (by simp [hj])
  | @closed rc sc summary f progress parted htold hprogress cold =>
      obtain ⟨noRecord, noSummary⟩ := parted.takes records summaries
      have parted' := parted.step step permitted noRecord noSummary
      obtain ⟨_, _, hcold⟩ := step.of_over permitted parted.isOver
        (ne_installs noRecord noSummary).1 (ne_installs noRecord noSummary).2
      have htold' : told (m :: h) = progress ++ farewell rc sc summary f := by
        rw [← htold]
        exact step.told_eq fun i rest hagenda => cold i (by simp [hagenda])
      exact .closed parted' htold' hprogress (hcold _ (fun _ hi => hi) cold)

end End

/-! ## Runs -/

section Runs

variable {c : Conduct} {e : Engine} {h : List Move} {s : Situation}

/-- A run goes through the stages, if no consumer is taken twice. -/
theorem Run.stage (fresh : e.stream = .fresh) (uncursored : e.cursors = #[])
    (tame : ∀ a : Ask, a.isTelling = true → c.tame a) (run : Run c ⟨e, []⟩ h s) :
    (∀ i ∈ s.agenda, i.isStray = false) ∧ s.engine.Ranged ∧
      (h.countP Move.takesRecordConsumer ≤ 1 → h.countP Move.takesSummaryConsumer ≤ 1 →
        Stage h s) := by
  refine Run.invariant (I := fun h s => (∀ i ∈ s.agenda, i.isStray = false) ∧
    s.engine.Ranged ∧ (h.countP Move.takesRecordConsumer ≤ 1 →
      h.countP Move.takesSummaryConsumer ≤ 1 → Stage h s)) ?_ ?_ run
  · refine ⟨by simp, fun id c hc => by simp [uncursored] at hc, fun _ _ => .opened ?_⟩
    have isOpen : Open ⟨e, []⟩ :=
      ⟨.inr (by rw [fresh]; rfl), by simp, by simp [UpFront, pastLines]⟩
    exact ⟨isOpen, by simp, by simp, by simp [fresh, Stream.fresh],
      by simp [fresh, Stream.fresh], by simp [told]⟩
  · rintro h s s' m ⟨steady, ranged, stage⟩ step permitted
    refine ⟨step.steady permitted steady, (step.onward steady).ranged ranged,
      fun records summaries => ?_⟩
    have hstage := stage (Nat.le_trans (countP_le_cons _ h m) records)
      (Nat.le_trans (countP_le_cons _ h m) summaries)
    exact hstage.step step permitted tame ranged records summaries

/-- A request is written only while the stream is open. -/
theorem Stage.opened_of_write {a : Ask} {r : Reply} {s' : Situation} (stage : Stage h s)
    (step : Step s (.answered a r) s') (write : (Move.answered a r).isWrite = true) :
    Opened h s := by
  obtain ⟨rest, hagenda⟩ : ∃ rest, s.agenda = .ask a :: rest := by
    cases step
    exact ⟨_, rfl⟩
  have hot : (Instruction.ask a).isHot = true := by
    cases a <;> first | rfl | simp [Move.isWrite] at write
  cases stage with
  | opened opened => exact opened
  | ending _ _ agenda _ =>
      rw [hagenda] at agenda
      cases agenda
  | @telling rc sc summary f progress before rest' _ _ _ agenda _ cold =>
      rw [hagenda] at agenda
      cases before with
      | nil => cases agenda
      | cons i before =>
          obtain ⟨rfl, -⟩ := List.cons.inj agenda
          simp [cold (.ask a) (by simp)] at hot
  | closed _ _ _ cold => simp [cold (.ask a) (by simp [hagenda])] at hot

theorem Progress.isEnding {rc : RecordConsumer} {sc : SummaryConsumer} {i : Instruction}
    (progress : Progress rc sc i) : i.isEnding = false := by
  cases progress <;> rfl

/-- In a history and where it led, the two consumers were told in order. -/
structure ToldInOrder (h : List Move) (s : Situation) (rc : RecordConsumer)
    (sc : SummaryConsumer) : Prop where
  took : Took h rc sc
  /-- Records and that there is more, in any order; then at most once the end, the record
  consumer right after the summary consumer and with the same failure; then nothing.
  Where the record consumer was not told yet, that is still on the agenda. -/
  told : ∃ progress last, told h = progress ++ last ∧ (∀ i ∈ progress, Progress rc sc i) ∧
    (last = [] ∨ (∃ summary f, last = farewell rc sc summary f) ∨
      ∃ summary f, last = [.tellSummary sc (some summary) f] ∧ .tellEnd rc f ∈ s.agenda)
  /-- Whenever a request was written, nobody had been told of the end. -/
  silent : ∀ later m earlier, h = later ++ m :: earlier → m.isWrite = true →
    ∀ i ∈ QueryStream.told earlier, i.isEnding = false
  /-- When it is the record consumer's turn to be told of the end, a cursor that is the
  summary consumer has its outcome resolved. -/
  resolved : ∀ f rest id cursor, s.agenda = .tellEnd rc f :: rest → sc = .cursor id →
    s.engine.cursors[id]? = some cursor → s.engine.isResolved cursor = true

/-- Whenever a request is written, nobody had been told of the end. -/
theorem Run.silentBeforeWrites (fresh : e.stream = .fresh) (uncursored : e.cursors = #[])
    (tame : ∀ a : Ask, a.isTelling = true → c.tame a) (run : Run c ⟨e, []⟩ h s)
    (records : h.countP Move.takesRecordConsumer ≤ 1)
    (summaries : h.countP Move.takesSummaryConsumer ≤ 1) :
    ∀ later m earlier, h = later ++ m :: earlier → m.isWrite = true →
      ∀ i ∈ told earlier, i.isEnding = false := by
  rintro later m earlier rfl write i hi
  obtain ⟨s₁, s₂, run₁, step, _⟩ := run.exists_step_of_append
  have hle : ∀ p : Move → Bool, earlier.countP p ≤ (later ++ m :: earlier).countP p := by
    intro p
    exact (List.sublist_append_of_sublist_right (List.sublist_cons_self m earlier)).countP_le
  have stage := (run₁.stage fresh uncursored tame).2.2
    (Nat.le_trans (hle _) records) (Nat.le_trans (hle _) summaries)
  cases m with
  | answered a r =>
      -- the stage before a write is that of an open stream, which told no end
      obtain ⟨rc, sc, _, _, progress⟩ := (stage.opened_of_write step write).tellings i hi
      exact progress.isEnding
  | _ => simp [Move.isWrite] at write

theorem Opened.toldProgress (opened : Opened h s) :
    ∃ rc sc, Took h rc sc ∧ ∀ i ∈ told h, Progress rc sc i := by
  -- a consumer that was not installed is told nothing, so any will do
  obtain ⟨rc, hrc⟩ : ∃ rc, ∀ c, s.engine.stream.recordConsumer = some c → c = rc := by
    cases hrecord : s.engine.stream.recordConsumer with
    | none => exact ⟨.discard, by simp⟩
    | some rc => exact ⟨rc, fun c hc => (Option.some.inj hc).symm⟩
  obtain ⟨sc, hsc⟩ : ∃ sc, ∀ c, s.engine.stream.summaryConsumer = some c → c = sc := by
    cases hsummary : s.engine.stream.summaryConsumer with
    | none => exact ⟨.cursor 0, by simp⟩
    | some sc => exact ⟨sc, fun c hc => (Option.some.inj hc).symm⟩
  refine ⟨rc, sc, ⟨fun c next hmem => hrc c (opened.record c next hmem),
    fun c next hmem => hsc c (opened.summary c next hmem)⟩, fun i hi => ?_⟩
  obtain ⟨rc', sc', hrc', hsc', progress⟩ := opened.tellings i hi
  obtain rfl := hrc rc' hrc'
  obtain rfl := hsc sc' hsc'
  exact progress

/-- Consumers that never raise, each taken once, are told in order. -/
theorem Run.toldInOrder (fresh : e.stream = .fresh) (uncursored : e.cursors = #[])
    (tame : ∀ a : Ask, a.isTelling = true → c.tame a) (run : Run c ⟨e, []⟩ h s)
    (records : h.countP Move.takesRecordConsumer ≤ 1)
    (summaries : h.countP Move.takesSummaryConsumer ≤ 1) :
    ∃ rc sc, ToldInOrder h s rc sc := by
  have silent := run.silentBeforeWrites fresh uncursored tame records summaries
  cases (run.stage fresh uncursored tame).2.2 records summaries with
  | opened opened =>
      obtain ⟨rc, sc, took, progress⟩ := opened.toldProgress
      refine ⟨rc, sc, took, ⟨told h, [], by simp, progress, .inl rfl⟩, silent, ?_⟩
      intro f rest id cursor hagenda
      exact (opened.isOpen.fits (.tellEnd rc f) (by simp [hagenda]) rfl).2.elim
  | @ending rc sc summary f rest parted htold agenda cold =>
      refine ⟨rc, sc, parted.took, ⟨told h, [], by simp, htold, .inl rfl⟩, silent, ?_⟩
      intro f' rest' id cursor hagenda
      rw [hagenda] at agenda
      cases agenda
  | @telling rc sc summary f progress before rest parted htold hprogress agenda telling cold =>
      refine ⟨rc, sc, parted.took, ⟨progress, [.tellSummary sc (some summary) f], htold,
        hprogress, .inr (.inr ⟨summary, f, rfl, by simp [agenda]⟩)⟩, silent, ?_⟩
      rintro f' rest' id cursor hagenda rfl found
      cases before with
      | nil =>
          cases telling with
          | resolved done => exact done cursor found
      | cons i before =>
          obtain ⟨rfl, -⟩ := List.cons.inj (agenda.symm.trans hagenda)
          simpa [Instruction.isHot, Instruction.isTelling] using cold (.tellEnd rc f') (by simp)
  | @closed rc sc summary f progress parted htold hprogress cold =>
      refine ⟨rc, sc, parted.took, ⟨progress, farewell rc sc summary f, htold, hprogress,
        .inr (.inl ⟨summary, f, rfl⟩)⟩, silent, ?_⟩
      intro f' rest' id cursor hagenda
      simpa [Instruction.isHot, Instruction.isTelling] using
        cold (.tellEnd rc f') (by simp [hagenda])

/-- Consumers never raise; nothing else is taken for granted. -/
def Conduct.gentle : Conduct := ⟨fun _ => False, fun a => a.isTelling = true, fun _ _ => True⟩

/-- Calls that take both consumers, request and deliver a record, end the batch, request
once more and then fail. -/
def brokenPull : List Instruction :=
  [.stream (.installRecord (.client 0 "records")),
    .stream (.installSummary (.client 1 "summary")),
    .stream (.request 2), .stream (.deliver (.list [])),
    .stream (.succeed (.map [(.text "has_more", .bool true)])), .stream (.request 1),
    .stream (.fail (.arising .wrongSort))]

/-- An engine on which the calls of a broken pull are made. -/
def brokenPullEngine : Engine :=
  .overStream ⟨.text "", .null⟩ ⟨.null, .null, .null⟩ (.int 0) .transaction .pending none

/-- Where the calls of a broken pull lead, with their history. -/
def brokenPullPoint : List Move × Situation :=
  Situation.advances 40 ([.called brokenPull], ⟨brokenPullEngine, brokenPull⟩)

theorem toldInOrder_brokenPull :
    (∃ rc sc, ToldInOrder brokenPullPoint.1 brokenPullPoint.2 rc sc) ∧
      (told brokenPullPoint.1).length = 4 ∧ brokenPullPoint.2.agenda = [] := by
  have made : ∀ i ∈ brokenPull, Conduct.gentle.Calls i := by
    intro i hi
    simp only [brokenPull, List.mem_cons, List.not_mem_nil, or_false] at hi
    rcases hi with rfl | rfl | rfl | rfl | rfl | rfl | rfl <;> exact ⟨rfl, fun h => h⟩
  have begun : Run .gentle ⟨brokenPullEngine, []⟩ [.called brokenPull]
      ⟨brokenPullEngine, brokenPull⟩ := Run.nil.snoc (.call brokenPull) ⟨trivial, made⟩
  have run := begun.advances 40 (Conduct.keepsAll_of_forall (fun _ _ => trivial) _)
  exact ⟨Run.toldInOrder rfl rfl (fun _ h => h) run (by decide) (by decide), rfl, rfl⟩

end Runs

end QueryStream
