/-
  Proofs/Requests/Outcome.lean --- when the outcome of a cursor is resolved.

  A stream that is over has the outcome of its cursor resolved before control goes
  back to whoever was responsible for its end (`Outlook`): telling the owner comes
  first, and as long as that throws nothing, the summary consumer is told behind it,
  which is the cursor.

  A cursor that is marked as consumed had its stream given up before, or its outcome
  resolved (`GivenUp`); and whoever is handed a promise about the outcome is handed it
  when the cursor is consumed or its outcome resolved.  Both hold because these
  instructions stand directly behind each other on the agenda, so nothing thrown in
  between leaves one of them without the other.
-/
import QueryStream.Proofs.Cursor.Errands
import QueryStream.Proofs.Requests.Ledger
import QueryStream.Proofs.Stream.Ending

set_option autoImplicit false

namespace QueryStream

namespace Instruction

/-- Whether an instruction gives the stream up or resolves the outcome. -/
def concedes (o : PromiseId) : Instruction → Bool
  | .cursor 0 .cancel => true
  | .channel .cancel => true
  | .stream .cancel => true
  | .settle p _ => p == o
  | _ => false

/-- Whether an instruction marks the cursor as consumed. -/
def consumes : Instruction → Bool
  | .cursor 0 .markConsumed => true
  | _ => false

/-- Whether an instruction hands out a promise about the outcome of the cursor. -/
def handsOut : Instruction → Bool
  | .relay 0 _ => true
  | .reportFailure 0 _ => true
  | _ => false

end Instruction

/-- The stream was given up or is over, or the outcome is resolved. -/
def GivenUp (o : PromiseId) (e : Engine) : Prop :=
  e.stream.phase = .cancelled ∨ e.stream.phase.isTerminal = true ∨ e.loop.isDone o = true

/-- What is left of an end: the instruction with which both consumers are told. -/
inductive Concluding : Instruction → Prop
  | succeeded {metadata : Value} (wellFormed : metadata.WellFormed) :
      Concluding (.stream (.conclude metadata))
  | failed (f : Failure) : Concluding (.stream (.concludeFailure f))

/-- A stream that is over goes on to resolve the outcome of its cursor and to tell its
record consumer of the end. -/
inductive Outlook (o : PromiseId) (e : Engine) : List Instruction → Prop
  | running {agenda : List Instruction} (phase : e.stream.phase.isTerminal = false) :
      Outlook o e agenda
  | deciding {rest : List Instruction} (before : Phase) (more : Bool) {metadata : Value}
      (phase : e.stream.phase = .succeeded) (attended : e.stream.Attended)
      (wellFormed : metadata.WellFormed) :
      Outlook o e (.stream (.settle before more metadata) :: rest)
  | concluding {before rest : List Instruction} {x : Instruction}
      (phase : e.stream.phase.isTerminal = true) (attended : e.stream.Attended)
      (shield : Shield (fun i => i.isErrand = true) before) (concluding : Concluding x) :
      Outlook o e (before ++ x :: rest)
  | parting {before rest : List Instruction} (rc : RecordConsumer) (f : Option Failure)
      (isOver : e.stream.Over) (parting : Parting o e f before)
      (cold : ∀ i ∈ rest, i.isHot = false) : Outlook o e (before ++ .tellEnd rc f :: rest)
  | ended {agenda : List Instruction} (isOver : e.stream.Over) (done : e.loop.isDone o = true)
      (cold : ∀ i ∈ agenda, i.isHot = false) : Outlook o e agenda

/-- A cursor is marked as consumed only behind what gives the stream up, and so is consumed only
once that was given up. -/
structure Conceding (o : PromiseId) (s : Situation) (cursor : Cursor) : Prop where
  consumed : cursor.isConsumed = true → GivenUp o s.engine
  marked : GivenUp o s.engine ∨
    Led (fun i => i.concedes o = true) (fun i => i.consumes = true) none s.agenda

/-- A promise about the outcome is handed out only by a cursor that is consumed, or whose outcome
is resolved. -/
structure Promising (o : PromiseId) (s : Situation) (cursor : Cursor) : Prop
    extends Conceding o s cursor where
  created : o < s.engine.loop.promises.size
  steady : ∀ i ∈ s.agenda, i.isStray = false
  handed : cursor.isConsumed = true ∨ s.engine.loop.isDone o = true ∨
    Led (fun i => i.consumes = true) (fun i => i.handsOut = true) none s.agenda

/-- What a cursor owes to those who are handed a promise about its outcome. -/
structure Pledged (o : PromiseId) (s : Situation) (cursor : Cursor) : Prop
    extends Promising o s cursor where
  outlook : Outlook o s.engine s.agenda

/-! ## One move -/

section Steps

variable {c : Conduct} {o : PromiseId} {h : List Move} {s s' : Situation} {m : Move}
  {cursor next : Cursor}

/-- What stands directly behind something stays there through a move, if what leads to
it goes on with something that does, and nothing comes from outside. -/
theorem Led.step {lead p : Instruction → Prop} (led : Led lead p none s.agenda)
    (step : Step s m s') (permitted : c.Permits h m)
    (next : ∀ i r, m = .carried i r → Led lead p none r.next)
    (goesOn : ∀ i next, m = .carried i (.go next) → lead i →
      ∃ j, next.getLast? = some j ∧ lead j)
    (outer : ∀ i, i.isInner = false → ¬ p i) (asks : ∀ a, ¬ lead (.ask a))
    (guards : ∀ g, ¬ lead (.guarded g)) : Led lead p none s'.agenda := by
  have caught : ∀ g th, ¬ p (.caught g th) := fun g th => outer _ rfl
  cases step with
  | carry own =>
      exact led.onto (next _ _ rfl) (fun body hbody => goesOn _ _ (by rw [hbody])) guards caught
  | answer r =>
      have answers : c.Answers _ r := permitted.2
      refine led.onto (led_of_forall fun j hj => outer j (answers.next j hj).1) ?_ guards caught
      exact fun _ _ hlead => absurd hlead (asks _)
  | @begin e j loop found =>
      have began := Engine.began_runJob { e with loop } j
      exact led_of_forall fun k hk => outer k (began.next k hk).1
  | call body =>
      have made : ∀ i ∈ body, c.Calls i := permitted.2
      exact led_of_forall fun i hi =>
        outer i (Instruction.isInner_eq_false_of_isCall (made i hi).1)

theorem GivenUp.step (given : GivenUp o s.engine) (step : Step s m s')
    (permitted : c.Permits h m) (steady : ∀ i ∈ s.agenda, i.isStray = false) :
    GivenUp o s'.engine := by
  have onward := step.onward steady
  by_cases done : s.engine.loop.isDone o = true
  · exact .inr (.inr (onward.isDone done))
  have given : s.engine.stream.phase = .cancelled ∨ s.engine.stream.phase.isTerminal = true := by
    rcases given with cancelled | terminal | resolved
    · exact .inl cancelled
    · exact .inr terminal
    · exact absurd resolved done
  exact (step.givenUp permitted given).imp_right .inl

/-- How marks of a cursor and promises about its outcome come onto the agenda, if
anything carried out puts them there. -/
inductive Sequel (o : PromiseId) (settled : Prop) : List Instruction → Prop
  | nothing {next : List Instruction}
      (plain : ∀ j ∈ next, j.consumes = false ∧ j.handsOut = false) : Sequel o settled next
  | staged (line : Log.Line) {j : Instruction} (plain : j.consumes = false) :
      Sequel o settled [.ask (.log line), .cursor 0 (.install .discard), .cursor 0 .cancel,
        .cursor 0 .markConsumed, j]
  | unstaged {j : Instruction} (plain : j.consumes = false) (done : settled) :
      Sequel o settled [j]
  | rolledBack (line : Log.Line) (st : Settlement Delivery Failure) (r : ReleaseId)
      (receiver : Receiver) :
      Sequel o settled [.ask (.log line), .settle o st, .cursor 0 .markConsumed,
        .release r receiver]

theorem outer_consumes {i : Instruction} (outer : i.isInner = false) : ¬ i.consumes = true := by
  cases i with
  | cursor id a =>
      cases a with
      | markConsumed => simp [Instruction.isInner] at outer
      | _ => simp [Instruction.consumes]
  | _ => exact Bool.false_ne_true

theorem outer_handsOut {i : Instruction} (outer : i.isInner = false) : ¬ i.handsOut = true := by
  cases i with
  | relay id receiver => simp [Instruction.isInner] at outer
  | reportFailure id receiver => simp [Instruction.isInner] at outer
  | _ => exact Bool.false_ne_true

theorem Sequel.of_outer {next : List Instruction} {settled : Prop}
    (outer : ∀ j ∈ next, j.isInner = false) : Sequel o settled next := by
  refine .nothing fun j hj => ?_
  have hinner := outer j hj
  exact ⟨by simpa using outer_consumes hinner, by simpa using outer_handsOut hinner⟩

/-- What a stage of a cursor puts on the agenda, with what comes behind it. -/
theorem sequel_stage {found after : Cursor} {done : Bool} {effect : Cursor.Effect}
    (plain : (Instruction.ofCursor 0 after effect).consumes = false) :
    Sequel o (found.isConsumed = true ∨ done = true)
      ((found.stage done ++ [effect]).map (Instruction.ofCursor 0 after)) := by
  unfold Cursor.stage
  split
  · rename_i settled
    simp only [Bool.or_eq_true] at settled
    exact .unstaged plain settled.symm
  · exact .staged _ plain

theorem sequel_of_carried (attached : Attached o h s cursor) (step : Step s m s')
    (permitted : c.Permits h m) {i : Instruction} {r : Reply} (hm : m = .carried i r) :
    Sequel o (cursor.isConsumed = true ∨ s.engine.loop.isDone o = true) r.next := by
  cases step.turn permitted with
  | stream steps =>
      cases hm
      refine .nothing fun j hj => ?_
      obtain ⟨effect, _, rfl⟩ := List.mem_map.1 hj
      cases effect <;> exact ⟨rfl, rfl⟩
  | @cursor e id a rest found after effects hfound steps =>
      cases hm
      have hcursors : e.cursors = #[cursor] := attached.cursors
      rw [hcursors] at hfound
      obtain ⟨rfl, rfl⟩ := eq_of_getElem?_singleton hfound
      have houtcome := attached.outcome_eq
      subst houtcome
      cases steps with
      | summary | discardAll => exact sequel_stage rfl
      | rollback line => exact .rolledBack line _ _ _
      | _ =>
          exact .nothing
            (by simp [Instruction.ofCursor, Instruction.consumes, Instruction.handsOut])
  | refused => cases hm; exact .nothing (by simp)
  | absent => cases hm; exact .nothing (by simp)
  | channel r own => cases hm; exact .nothing (by simp [Instruction.consumes, Instruction.handsOut])
  | outside r own => cases hm; exact .of_outer (by simp [Instruction.isInner])
  | openCursor plan =>
      simpa [Instruction.isForeign] using attached.known (.openCursor plan) (by simp)
  | notify =>
      cases hm
      exact .nothing (by simp [Instruction.consumes, Instruction.handsOut])
  | other stream pipe own next =>
      cases hm
      exact .of_outer fun j hj => (next j hj).1
  | answered => cases hm
  | began => cases hm
  | called => cases hm

theorem Sequel.led_consumes {next : List Instruction} {settled : Prop}
    (sequel : Sequel o settled next) :
    Led (fun i => i.concedes o = true) (fun i => i.consumes = true) none next := by
  cases sequel with
  | nothing plain => exact led_of_forall fun j hj => by simp [(plain j hj).1]
  | @staged line j plain =>
      have hj : ¬ j.consumes = true := by simp [plain]
      have hfront : Led (fun i => i.concedes o = true) (fun i => i.consumes = true) none
          [.ask (.log line), .cursor 0 (.install .discard), .cursor 0 .cancel] :=
        led_of_forall (by simp [Instruction.consumes])
      exact hfront.append ⟨fun _ => ⟨_, rfl, rfl⟩, fun hmark => absurd hmark hj, trivial⟩
  | unstaged plain done => simp [Led, plain]
  | rolledBack line st r receiver =>
      simp [Led, Instruction.consumes, Instruction.concedes]

theorem Sequel.led_handsOut {next : List Instruction} {settled : Prop}
    (sequel : Sequel o settled next) (pending : ¬ settled) :
    Led (fun i => i.consumes = true) (fun i => i.handsOut = true) none next := by
  cases sequel with
  | nothing plain => exact led_of_forall fun j hj => by simp [(plain j hj).2]
  | staged line plain =>
      simp [Led, Instruction.consumes, Instruction.handsOut]
  | unstaged plain done => exact absurd done pending
  | rolledBack line st r receiver => simp [Led, Instruction.handsOut]

/-- Giving up goes on with giving up, until the stream was given up or the outcome is
resolved. -/
theorem concedes_goesOn (attached : Attached o h s cursor) (step : Step s m s')
    (permitted : c.Permits h m) (created : o < s.engine.loop.promises.size)
    (pending : ¬ GivenUp o s'.engine) {i : Instruction} {body : List Instruction}
    (hm : m = .carried i (.go body)) (concedes : i.concedes o = true) :
    ∃ j, body.getLast? = some j ∧ j.concedes o = true := by
  cases hm
  obtain ⟨rest, hagenda⟩ := step.head_of_carried
  cases i with
  | settle p st =>
      obtain rfl : p = o := by simpa [Instruction.concedes] using concedes
      exact absurd (.inr (.inr (step.isDone_of_settle hagenda created))) pending
  | stream a =>
      rcases step.stream_or_quiet permitted with ⟨a', rest', after, effects, stream⟩ | ⟨other, _⟩
      · obtain ⟨rfl, rfl⟩ : a = a' ∧ rest = rest' := by simpa [hagenda] using stream.head
        -- a stream that is cancelled is given up, unless it was over
        have hphase : after.phase = .cancelled ∨ after.phase.isTerminal = true := by
          cases a <;> simp [Instruction.concedes] at concedes
          have steps := stream.steps
          cases steps with
          | discard | giveUp => exact .inl rfl
          | ignoreCancel present ready streaming =>
              cases phase : s.engine.stream.phase <;> simp_all [Phase.isTerminal]
        refine absurd ?_ pending
        rw [GivenUp, stream.engine]
        exact hphase.imp_right .inl
      · exact absurd rfl (other _ _)
  | cursor id a =>
      obtain ⟨rfl, rfl⟩ : id = 0 ∧ a = .cancel := by
        cases id <;> cases a <;> simp_all [Instruction.concedes]
      have hexec := step.exec_of_carried
      have found : s.engine.cursors[0]? = some cursor := by simp [attached.cursors]
      rw [s.engine.exec_cursor found rfl] at hexec
      cases (Prod.mk.inj hexec).2
      exact ⟨_, rfl, rfl⟩
  | channel r =>
      obtain rfl : r = .cancel := by cases r <;> simp_all [Instruction.concedes]
      have hexec := step.exec_of_carried
      simp only [Engine.exec, attached.hasStream, if_true, Engine.goOn] at hexec
      cases (Prod.mk.inj hexec).2
      exact ⟨_, rfl, rfl⟩
  | _ => simp [Instruction.concedes] at concedes

theorem Conceding.marked_step (conceding : Conceding o s cursor) (attached : Attached o h s cursor)
    (created : o < s.engine.loop.promises.size) (steady : ∀ i ∈ s.agenda, i.isStray = false)
    (step : Step s m s') (permitted : c.Permits h m) :
    GivenUp o s'.engine ∨
      Led (fun i => i.concedes o = true) (fun i => i.consumes = true) none s'.agenda := by
  by_cases given : GivenUp o s'.engine
  · exact .inl given
  refine .inr ?_
  rcases conceding.marked with before | led
  · exact absurd (before.step step permitted steady) given
  · refine led.step step permitted ?_ ?_ (fun _ => outer_consumes) ?_ ?_
    · exact fun i r hm => (sequel_of_carried attached step permitted hm).led_consumes
    · exact fun i body hm concedes =>
        concedes_goesOn attached step permitted created given hm concedes
    · simp [Instruction.concedes]
    · simp [Instruction.concedes]

/-- A cursor is marked as consumed only when its stream was given up. -/
theorem Conceding.step (conceding : Conceding o s cursor) (attached : Attached o h s cursor)
    (created : o < s.engine.loop.promises.size) (steady : ∀ i ∈ s.agenda, i.isStray = false)
    (step : Step s m s') (permitted : c.Permits h m) (hnext : s'.engine.cursors = #[next]) :
    Conceding o s' next := by
  refine ⟨fun consumed => ?_, conceding.marked_step attached created steady step permitted⟩
  have before : GivenUp o s.engine := by
    rcases attached.cursor_or_eq step permitted hnext with ⟨a, rest, effects, taken⟩ | rfl
    · rcases taken.steps.isConsumed.2 consumed with already | rfl
      · exact conceding.consumed already
      · rcases conceding.marked with given | led
        · exact given
        · rw [taken.head] at led
          obtain ⟨j, hj, _⟩ := led.1 rfl
          cases hj
    · exact conceding.consumed consumed
  exact before.step step permitted steady

/-- A promise about the outcome is handed out behind the mark of the cursor. -/
theorem handed_step (promising : Promising o s cursor) (served : Served o h s cursor)
    (step : Step s m s') (permitted : c.Permits h m) (hnext : s'.engine.cursors = #[next]) :
    next.isConsumed = true ∨ s'.engine.loop.isDone o = true ∨
      Led (fun i => i.consumes = true) (fun i => i.handsOut = true) none s'.agenda := by
  by_cases consumed : next.isConsumed = true
  · exact .inl consumed
  by_cases done : s'.engine.loop.isDone o = true
  · exact .inr (.inl done)
  have taken := served.cursor_or_eq step permitted hnext
  have unconsumed : ¬ cursor.isConsumed = true := by
    rcases taken with ⟨a, rest, effects, taken⟩ | rfl
    · exact fun hc => consumed (taken.steps.isConsumed.1 hc)
    · exact consumed
  have pending : ¬ s.engine.loop.isDone o = true :=
    fun hdone => done ((step.onward promising.steady).isDone hdone)
  have led := (promising.handed.resolve_left unconsumed).resolve_left pending
  refine .inr (.inr (led.step step permitted ?_ ?_ (fun _ => outer_handsOut) ?_ ?_))
  · refine fun i r hm => (sequel_of_carried served.toAttached step permitted hm).led_handsOut ?_
    exact fun settled => settled.elim unconsumed pending
  · rintro i body rfl consumes
    obtain rfl : i = .cursor 0 .markConsumed := by
      cases i with
      | cursor id a => cases id <;> cases a <;> simp_all [Instruction.consumes]
      | _ => simp [Instruction.consumes] at consumes
    have hexec := step.exec_of_carried
    have found : s.engine.cursors[0]? = some cursor := by simp [served.cursors]
    rw [s.engine.exec_cursor found rfl] at hexec
    have hengine := (Prod.mk.inj hexec).1
    rw [← hengine] at hnext
    obtain rfl : { cursor with isConsumed := true } = next := by
      simpa [served.cursors] using hnext
    exact absurd rfl consumed
  · simp [Instruction.consumes]
  · simp [Instruction.consumes]

theorem Promising.step (promising : Promising o s cursor) (served : Served o h s cursor)
    (step : Step s m s') (permitted : c.Permits h m) (hnext : s'.engine.cursors = #[next]) :
    Promising o s' next where
  toConceding := promising.toConceding.step served.toAttached promising.created promising.steady
    step permitted hnext
  created := Nat.lt_of_lt_of_le promising.created (step.onward promising.steady).size_le
  steady := step.steady permitted promising.steady
  handed := handed_step promising served step permitted hnext

/-! ## The end -/

theorem outlook_of_ends (served : Served o h s cursor) (opened : Open s) {a : Stream.Action}
    {rest : List Instruction} {after : Stream} {effects : List Stream.Effect}
    (stream : StreamStep s m s' a rest after effects)
    (ends : s.engine.stream.Ends after effects) : Outlook o s'.engine s'.agenda := by
  obtain ⟨rc, sc, summary, f, _, hsc, heffects⟩ := ends.ending
  obtain rfl := served.attendant sc hsc
  have isOver : s'.engine.stream.Over := by
    rw [stream.engine]
    exact ends.over
  rw [stream.agenda, heffects]
  exact .parting rc f isOver (.telling summary) (opened.cold stream.head rfl)

theorem outlook_of_running (served : Served o h s cursor) (serves : c.Serves)
    (step : Step s m s') (permitted : c.Permits h m)
    (running : s.engine.stream.phase.isTerminal = false) : Outlook o s'.engine s'.agenda := by
  rcases step.stops permitted with ⟨-, same⟩ | ⟨r, rest, -, -, terminal, stops⟩
  · exact .running (same.trans running)
  have waits := (served.open_of_running running).waits
  cases stops with
  | @success metadata before more present head engine agenda =>
      have wellFormed : metadata.WellFormed := by
        obtain ⟨rfl, -⟩ := step.exec_of_head head rfl
        exact serves.wellFormed h metadata _ permitted.1
      have attended := Stream.attended_of_present waits present
      rw [agenda, engine]
      refine .deciding before more rfl ?_ wellFormed
      exact attended
  | @failure f line present head engine agenda =>
      have attended := Stream.attended_of_present waits present
      have shield := shield_ownerFailed line f
      rw [agenda]
      refine .concluding terminal ?_ shield (.failed f)
      rw [engine]
      exact attended

theorem outlook_of_settle (step : Step s m s') (permitted : c.Permits h m) {before : Phase}
    {more : Bool} {metadata : Value} {rest : List Instruction}
    (agenda : s.agenda = .stream (.settle before more metadata) :: rest)
    (phase : s.engine.stream.phase = .succeeded) (attended : s.engine.stream.Attended)
    (wellFormed : metadata.WellFormed) : Outlook o s'.engine s'.agenda := by
  obtain ⟨engine, line, agenda'⟩ := step.of_settle permitted agenda phase
  obtain ⟨entries, rfl⟩ := wellFormed.1
  rw [agenda', engine]
  exact .concluding (by rw [phase]; rfl) attended (shield_ownerSucceeded line entries)
    (.succeeded wellFormed)

/-- The instruction with which both consumers are told is not refused. -/
theorem Concluding.ends {x : Instruction} {rest : List Instruction} (concluding : Concluding x)
    (step : Step s m s') (permitted : c.Permits h m) (agenda : s.agenda = x :: rest)
    (terminal : s.engine.stream.phase.isTerminal = true)
    (attended : s.engine.stream.Attended) :
    ∃ a after effects, StreamStep s m s' a rest after effects ∧
      s.engine.stream.Ends after effects := by
  cases concluding with
  | @succeeded metadata wellFormed =>
      obtain ⟨a, summary, f, stream, -⟩ :=
        step.of_conclusion (r := .success metadata) permitted wellFormed agenda
      exact ⟨a, _, _, stream, Stream.ends_of_attended attended terminal summary f⟩
  | failed f =>
      obtain ⟨a, summary, g, stream, -⟩ :=
        step.of_conclusion (r := .failure f) permitted trivial agenda
      exact ⟨a, _, _, stream, Stream.ends_of_attended attended terminal summary g⟩

/-- While the owner is being told, the end stays on the agenda. -/
theorem outlook_of_concluding (served : Served o h s cursor) (errands : c.Errands)
    (step : Step s m s') (permitted : c.Permits h m) {before rest : List Instruction}
    {x : Instruction} (agenda : s.agenda = before ++ x :: rest)
    (terminal : s.engine.stream.phase.isTerminal = true)
    (attended : s.engine.stream.Attended)
    (shield : Shield (fun i => i.isErrand = true) before) (concluding : Concluding x) :
    Outlook o s'.engine s'.agenda := by
  cases before with
  | nil =>
      obtain ⟨a, after, effects, stream, ends⟩ :=
        concluding.ends step permitted agenda terminal attended
      exact outlook_of_ends served (served.open_of_attended attended) stream ends
  | cons i before =>
      rcases (served.open_of_attended attended).step step permitted with
        opened | ⟨a, rest', after, effects, stream, ends⟩
      · have terminal' := step.terminal permitted terminal
        obtain ⟨before', hagenda, hshield, _⟩ :=
          step.of_shield permitted (mild_isErrand errands _) agenda shield
        rw [hagenda]
        exact .concluding terminal' (Stream.attended_of_isTerminal opened.waits terminal') hshield
          concluding
      · exact outlook_of_ends served (served.open_of_attended attended) stream ends

/-- The end of a stream goes on until the outcome is resolved. -/
theorem outlook_step (pledged : Pledged o s cursor) (served : Served o h s cursor)
    (serves : c.Serves) (errands : c.Errands) (step : Step s m s') (permitted : c.Permits h m) :
    Outlook o s'.engine s'.agenda := by
  have steady := pledged.steady
  have outlook := pledged.outlook
  generalize hagenda : s.agenda = agenda at outlook
  cases outlook with
  | running phase => exact outlook_of_running served serves step permitted phase
  | deciding before more phase attended wellFormed =>
      exact outlook_of_settle step permitted hagenda phase attended wellFormed
  | concluding terminal attended shield concluding =>
      exact outlook_of_concluding served errands step permitted hagenda terminal attended shield
        concluding
  | @parting before rest rc f isOver parting cold =>
      by_cases waits : before = []
      · subst waits
        cases parting with
        | resolved done =>
            obtain ⟨records, summaries⟩ :=
              takes_nothing step served.known served.installing isOver.terminal
            obtain ⟨isOver', hnext, _⟩ := step.of_over permitted isOver records summaries
            exact .ended isOver' ((step.onward steady).isDone done)
              (step.cold_of_tellEnd hagenda hnext cold)
      · obtain ⟨before', hagenda', parting', hstream, -⟩ :=
          parting.step served.toAttached pledged.created step hagenda waits
        rw [hagenda']
        exact .parting rc f (by rw [hstream]; exact isOver) parting' cold
  | ended isOver done cold =>
      obtain ⟨records, summaries⟩ :=
        takes_nothing step served.known served.installing isOver.terminal
      obtain ⟨isOver', _, hcold⟩ := step.of_over permitted isOver records summaries
      exact .ended isOver' ((step.onward steady).isDone done)
        (hcold _ (fun _ hi => hi) fun i hi => cold i (hagenda ▸ hi))

/-! ## All moves -/

theorem Pledged.step (pledged : Pledged o s cursor) (served : Served o h s cursor)
    (serves : c.Serves) (errands : c.Errands) (step : Step s m s') (permitted : c.Permits h m)
    (hnext : s'.engine.cursors = #[next]) : Pledged o s' next where
  toPromising := pledged.toPromising.step served step permitted hnext
  outlook := outlook_step pledged served serves errands step permitted

theorem pledged_of_begun {e : Engine} (begun : e.Begun o) (cursors : e.cursors = #[cursor]) :
    Pledged o ⟨e, []⟩ cursor := by
  obtain ⟨runError, release, fresh⟩ := begun.cursors
  obtain rfl : cursor = .fresh runError release o := by simpa using cursors.symm.trans fresh
  exact
    { created := begun.created
      steady := by simp
      consumed := fun consumed => by cases consumed
      marked := .inr trivial
      handed := .inr (.inr trivial)
      outlook := .running (by simp [begun.stream, Stream.fresh, Phase.isTerminal]) }

/-- With nothing under way, a stream is over only if the outcome is resolved. -/
theorem Outlook.resolved_of_idle {e : Engine} (outlook : Outlook o e [])
    (terminal : e.stream.phase.isTerminal = true) : e.loop.isDone o = true := by
  generalize hagenda : ([] : List Instruction) = agenda at outlook
  cases outlook with
  | running phase => simp [terminal] at phase
  | ended isOver done cold => exact done
  | deciding => cases hagenda
  | _ => simp at hagenda

end Steps

end QueryStream
