/-
  Proofs/Cursor/Valediction.lean --- what a cursor and its record consumer are told of the
  end.

  A stream tells of its end once: the cursor first, and then, before anything else happens,
  the record consumer.  So when a cursor marks a failure as one that the caller's own
  consumer gets, that consumer gets it (`Valediction`); and the outcome is a failure only if
  it is the one that the stream ended with.
-/
import QueryStream.Proofs.Cursor.Attachment
import QueryStream.Proofs.Resolution

set_option autoImplicit false

namespace QueryStream

/-! ## Telling of the end -/

/-- Whether an instruction tells of the end of the stream, or settles a promise with a
failure. -/
def Instruction.isFinal : Instruction → Bool
  | .tellEnd _ _ => true
  | .tellSummary _ summary f => summary.isSome || f.isSome
  | .cursor _ (.notify summary f) => summary.isSome || f.isSome
  | .settle _ (.failure _) => true
  | _ => false

theorem Instruction.isFinal_eq_false {i : Instruction} (outer : i.isInner = false) :
    i.isFinal = false := by
  cases i with
  | cursor id a =>
      cases a with
      | notify summary f => simp [isInner] at outer
      | _ => rfl
  | _ => first | rfl | simp [isInner] at outer

/-- The record consumer that a move tells of the end, with the failure if there is one. -/
def Move.endTold? : Move → Option (RecordConsumer × Option Failure)
  | .carried (.tellEnd rc f) _ => some (rc, f)
  | _ => none

/-- The record consumers that were told of the end in a history, latest first, each with the
failure if there was one. -/
def endsTold (h : List Move) : List (RecordConsumer × Option Failure) :=
  h.filterMap Move.endTold?

/-- Whether the caller's own consumer gets a failure with the end of a stream. -/
def getsFailure : RecordConsumer → Option Failure → Bool
  | .discard, _ => false
  | _, f => f.isSome

/-- Where the telling of the end stands, up to the telling of the record consumer. -/
inductive Bidding (o : PromiseId) (e : Engine) (cursor : Cursor) (rc : RecordConsumer)
    (f : Option Failure) : List Instruction → Prop
  | telling (summary : Summary) (kept : cursor.isErrorDelivered = false)
      (unfailed : ∀ g, e.loop.settlement? o ≠ some (.failure g)) :
      Bidding o e cursor rc f [.tellSummary (.cursor 0) (some summary) f]
  | notifying (summary : Summary) (kept : cursor.isErrorDelivered = false)
      (unfailed : ∀ g, e.loop.settlement? o ≠ some (.failure g)) :
      Bidding o e cursor rc f [.cursor 0 (.notify (some summary) f)]
  | settling {st : Settlement Delivery Failure} (verdict : ∀ g, st = .failure g → f = some g)
      (delivered : cursor.isErrorDelivered = getsFailure rc f)
      (unfailed : ∀ g, e.loop.settlement? o ≠ some (.failure g)) :
      Bidding o e cursor rc f [.settle o st]
  | resolved (delivered : cursor.isErrorDelivered = getsFailure rc f)
      (done : e.loop.isDone o = true)
      (failed : ∀ g, e.loop.settlement? o = some (.failure g) → f = some g) :
      Bidding o e cursor rc f []

/-- What a cursor and its record consumer were told of the end: nothing yet, or they are being
told, or they were. -/
inductive Valediction (o : PromiseId) (h : List Move) (cursor : Cursor) : Situation → Prop
  | before {s : Situation} (opened : Open s) (clear : ∀ i ∈ s.agenda, i.isFinal = false)
      (untold : endsTold h = []) (kept : cursor.isErrorDelivered = false)
      (unfailed : ∀ g, s.engine.loop.settlement? o ≠ some (.failure g)) :
      Valediction o h cursor s
  | parting {s : Situation} (front : List Instruction) {rest : List Instruction}
      {rc : RecordConsumer} {f : Option Failure}
      (agenda : s.agenda = front ++ .tellEnd rc f :: rest)
      (isOver : s.engine.stream.Over) (clear : ∀ i ∈ rest, i.isFinal = false)
      (untold : endsTold h = []) (status : cursor.status = .ofConsumer rc)
      (bidding : Bidding o s.engine cursor rc f front) : Valediction o h cursor s
  | said {s : Situation} (rc : RecordConsumer) (f : Option Failure)
      (isOver : s.engine.stream.Over) (clear : ∀ i ∈ s.agenda, i.isFinal = false)
      (told : endsTold h = [(rc, f)]) (delivered : cursor.isErrorDelivered = getsFailure rc f)
      (done : s.engine.loop.isDone o = true)
      (failed : ∀ g, s.engine.loop.settlement? o = some (.failure g) → f = some g) :
      Valediction o h cursor s

section Steps

variable {c : Conduct} {o : PromiseId} {h : List Move} {s s' : Situation} {m : Move}
  {cursor next : Cursor}

theorem endsTold_cons (m : Move) (h : List Move) :
    endsTold (m :: h) = m.endTold?.toList ++ endsTold h := by
  unfold endsTold
  cases hm : m.endTold? <;> simp [hm]

/-- A cursor is told of a failure only by what is final. -/
theorem Cursor.Steps.isErrorDelivered {done : Bool} {c c' : Cursor} {a : Cursor.Action}
    {effects : List Cursor.Effect} (steps : Cursor.Steps done c a c' effects) (id : CursorId)
    (clear : (Instruction.cursor id a).isFinal = false) :
    c'.isErrorDelivered = c.isErrorDelivered := by
  cases steps with
  | notifyFailure => simp [Instruction.isFinal] at clear
  | _ => rfl

theorem Cursor.Steps.isFinal_eq_false {done : Bool} {c c' : Cursor} {a : Cursor.Action}
    {effects : List Cursor.Effect} {id : CursorId} (steps : Cursor.Steps done c a c' effects)
    (clear : (Instruction.cursor id a).isFinal = false) {effect : Cursor.Effect}
    (mem : effect ∈ effects) : (Instruction.ofCursor id c' effect).isFinal = false := by
  cases steps.yields mem with
  | @resolve _ st verdict =>
      cases st with
      | failure f =>
          cases a with
          | notify summary g =>
              cases g with
              | some g => simp [Instruction.isFinal] at clear
              | none => cases summary <;> cases verdict
          | _ => cases verdict
      | _ => rfl
  | _ => rfl

theorem Instruction.isFinal_ofStream {effect : Stream.Effect}
    (cold : (ofStream effect).isHot = false) : (ofStream effect).isFinal = false := by
  cases effect with
  | tellEnd | tellSummary => simp [ofStream, isHot, isTelling] at cold
  | _ => rfl

theorem clear_step (step : Step s m s') (permitted : c.Permits h m)
    (clear : ∀ i ∈ s.agenda, i.isFinal = false) (known : ∀ i ∈ s.agenda, i.isForeign = false)
    (stream : ∀ a rest next effects, StreamStep s m s' a rest next effects →
      ∀ effect ∈ effects, (Instruction.ofStream effect).isFinal = false) :
    ∀ i ∈ s'.agenda, i.isFinal = false := by
  intro i hi
  rcases step.stream_or_quiet permitted with ⟨a, rest, next, effects, streams⟩ | ⟨_, quiet⟩
  · rw [streams.agenda] at hi
    rcases List.mem_append.1 hi with hi | hi
    · obtain ⟨effect, mem, rfl⟩ := List.mem_map.1 hi
      exact stream a rest next effects streams effect mem
    · exact clear i (by simp [streams.head, hi])
  · have undriven : i ∈ s.agenda.tail ∨ i.isDriven = false := by
      obtain ⟨front, tail, agenda, suffix, undriven⟩ := quiet.agenda
      rw [agenda] at hi
      exact (List.mem_append.1 hi).symm.imp (fun hi => suffix.mem hi) (undriven i)
    rcases (step.turn permitted).mem hi with hi | brought
    · exact clear i (List.mem_of_mem_tail hi)
    rcases undriven with hi | undriven
    · exact clear i (List.mem_of_mem_tail hi)
    cases brought with
    | stream head steps mem =>
        exact Instruction.isFinal_ofStream (Instruction.isHot_eq_false undriven)
    | cursor head found steps mem => exact steps.isFinal_eq_false (clear _ (by simp [head])) mem
    | channel head => rfl
    | @opened plan rest j head =>
        simpa [Instruction.isForeign] using known (.openCursor plan) (by simp [head])
    | @notify id summary f rest head =>
        simpa [Instruction.isFinal] using
          clear (.tellSummary (.cursor id) summary f) (by simp [head])
    | outer inner piped => exact Instruction.isFinal_eq_false inner
    | called calls =>
        exact Instruction.isFinal_eq_false (Instruction.isInner_eq_false_of_isCall calls.1)

/-- What is put on the agenda of an open situation by its stream is not final. -/
theorem Open.isFinal_ofStream (opened : Open s) {effect : Stream.Effect}
    (mem : .ofStream effect ∈ s.agenda) : (Instruction.ofStream effect).isFinal = false := by
  have fits := opened.fits _ mem
  cases effect with
  | tellEnd rc f => exact (fits rfl).2.elim
  | tellSummary sc summary f => cases (fits rfl).2.2.1
  | _ => rfl

/-- The outcome is resolved only by what is to settle it. -/
theorem Reserved.settled (reserved : Reserved 0 o h s) (orderly : Orderly h s)
    (step : Step s m s') (admits : Admits h m) {st : Settlement Delivery Failure}
    (settled : s'.engine.loop.settlement? o = some st) :
    s.engine.loop.settlement? o = some st ∨ ∃ rest, s.agenda = .settle o st :: rest := by
  by_cases direct : ∃ st r, m = .carried (.settle o st) r
  · obtain ⟨st', r, rfl⟩ := direct
    obtain ⟨rest, head⟩ := step.head_of_carried
    obtain ⟨-, rfl⟩ := step.exec_of_head head rfl
    rcases Loop.settlement?_settle settled with earlier | ⟨-, rfl⟩
    · exact .inl earlier
    · exact .inr ⟨rest, head⟩
  · rw [reserved.settlement orderly step admits fun st r heq => direct ⟨st, r, heq⟩] at settled
    exact .inl settled

theorem Attached.eq_of_stream (attached : Attached o h s cursor) {a : Stream.Action}
    {rest : List Instruction} {after : Stream} {effects : List Stream.Effect}
    (stream : StreamStep s m s' a rest after effects) (hnext : s'.engine.cursors = #[next]) :
    cursor = next := by
  rw [stream.engine, attached.cursors] at hnext
  simpa using hnext

theorem endsTold_of_clear (step : Step s m s') (head : ∀ i rest, s.agenda = i :: rest →
    ∀ rc f, i ≠ .tellEnd rc f) : endsTold (m :: h) = endsTold h := by
  have silent : m.endTold? = none := by
    unfold Move.endTold?
    split
    · obtain ⟨rest, hagenda⟩ := step.head_of_carried
      exact absurd rfl (head _ rest hagenda _ _)
    · rfl
  rw [endsTold_cons, silent]
  rfl

/-- Nobody was told of the end: the stream goes on, or both are to be told next. -/
theorem valediction_of_open (attached : Attached o h s cursor) (matched : Matched s cursor)
    (reserved : Reserved 0 o h s) (orderly : Orderly h s) (opened : Open s)
    (clear : ∀ i ∈ s.agenda, i.isFinal = false) (untold : endsTold h = [])
    (kept : cursor.isErrorDelivered = false)
    (unfailed : ∀ g, s.engine.loop.settlement? o ≠ some (.failure g)) (step : Step s m s')
    (permitted : c.Permits h m) (admits : Admits h m) (hnext : s'.engine.cursors = #[next]) :
    Valediction o (m :: h) next s' := by
  have untold' : endsTold (m :: h) = [] := by
    rw [endsTold_of_clear step fun i rest head rc f heq => ?_, untold]
    have cold := clear i (by simp [head])
    simp [heq, Instruction.isFinal] at cold
  have unfailed' : ∀ g, s'.engine.loop.settlement? o ≠ some (.failure g) := by
    intro g settled
    rcases reserved.settled orderly step admits settled with earlier | ⟨rest, head⟩
    · exact unfailed g earlier
    · simpa [Instruction.isFinal] using clear (.settle o (.failure g)) (by simp [head])
  rcases opened.step step permitted with opened' | ⟨a, rest, after, effects, stream, ends⟩
  · refine .before opened' ?_ untold' ?_ unfailed'
    · refine clear_step step permitted clear attached.known fun a rest after effects stream => ?_
      intro effect mem
      refine opened'.isFinal_ofStream ?_
      rw [stream.agenda]
      exact List.mem_append_left _ (List.mem_map_of_mem mem)
    · rcases attached.cursor_or_eq step permitted hnext with ⟨a, rest, effects, taken⟩ | rfl
      · rw [taken.steps.isErrorDelivered 0 (clear _ (by simp [taken.head]))]
        exact kept
      · exact kept
  · obtain rfl := attached.eq_of_stream stream hnext
    obtain ⟨rc, sc, summary, f, hrc, hsc, heffects⟩ := ends.ending
    obtain rfl := attached.attendant sc hsc
    have agenda : s'.agenda =
        [.tellSummary (.cursor 0) (some summary) f] ++ .tellEnd rc f :: rest := by
      rw [stream.agenda, heffects]
      rfl
    refine .parting _ agenda ?_ (fun i hi => clear i (by simp [stream.head, hi])) untold'
      (matched.held rc hrc) (.telling summary kept unfailed')
    rw [stream.engine]
    exact ends.over

theorem valediction_of_tellEnd (attached : Attached o h s cursor) (orderly : Orderly h s)
    {rest : List Instruction} {rc : RecordConsumer} {f : Option Failure}
    (agenda : s.agenda = .tellEnd rc f :: rest) (isOver : s.engine.stream.Over)
    (clear : ∀ i ∈ rest, i.isFinal = false) (untold : endsTold h = [])
    (delivered : cursor.isErrorDelivered = getsFailure rc f)
    (done : s.engine.loop.isDone o = true)
    (failed : ∀ g, s.engine.loop.settlement? o = some (.failure g) → f = some g)
    (step : Step s m s') (permitted : c.Permits h m) (hnext : s'.engine.cursors = #[next]) :
    Valediction o (m :: h) next s' := by
  have onward := step.onward orderly.steady
  obtain ⟨records, summaries⟩ :=
    takes_nothing step attached.known attached.installing isOver.terminal
  obtain ⟨isOver', -, -⟩ := step.of_over permitted isOver records summaries
  obtain rfl : cursor = next := by
    rcases attached.cursor_or_eq step permitted hnext with ⟨a, rest', effects, taken⟩ | same
    · have head := taken.head
      rw [agenda] at head
      cases head
    · exact same
  have failed' : ∀ g, s'.engine.loop.settlement? o = some (.failure g) → f = some g := by
    intro g settled
    obtain ⟨st, before⟩ := Option.isSome_iff_exists.1 done
    rw [onward.settled before] at settled
    exact failed g (before.trans settled)
  obtain ⟨rfl, hs'⟩ := step.exec_of_head agenda rfl
  refine .said rc f isOver' ?_ ?_ delivered (onward.isDone done) failed'
  · intro i hi
    rw [hs'] at hi
    cases rc with
    | client id name =>
        rcases List.mem_cons.1 hi with rfl | hi
        · rfl
        · exact clear i hi
    | discard => exact clear i hi
    | feed id => exact clear i hi
  · rw [endsTold_cons, untold]
    rfl

theorem valediction_of_bidding (attached : Attached o h s cursor) (reserved : Reserved 0 o h s)
    (orderly : Orderly h s) {front rest : List Instruction} {rc : RecordConsumer}
    {f : Option Failure} (agenda : s.agenda = front ++ .tellEnd rc f :: rest)
    (isOver : s.engine.stream.Over) (clear : ∀ i ∈ rest, i.isFinal = false)
    (untold : endsTold h = []) (status : cursor.status = .ofConsumer rc)
    (bidding : Bidding o s.engine cursor rc f front) (step : Step s m s')
    (permitted : c.Permits h m) (admits : Admits h m) (hnext : s'.engine.cursors = #[next]) :
    Valediction o (m :: h) next s' := by
  cases bidding with
  | telling summary kept unfailed =>
      obtain ⟨rfl, rfl⟩ := step.exec_of_head agenda rfl
      obtain rfl : cursor = next := by simpa using attached.cursors.symm.trans hnext
      exact .parting [.cursor 0 (.notify (some summary) f)] rfl isOver clear untold status
        (.notifying summary kept unfailed)
  | notifying summary kept unfailed =>
      have found : s.engine.cursors[0]? = some cursor := by simp [attached.cursors]
      obtain ⟨rfl, rfl⟩ := step.exec_of_head agenda rfl
      have outcome := attached.outcome_eq
      cases f with
      | some f =>
          rw [s.engine.exec_cursor found rfl] at hnext ⊢
          obtain rfl := by simpa [attached.cursors] using hnext
          refine .parting [.settle o (.failure f)] ?_ isOver clear untold status
            (.settling (fun g heq => by cases heq; rfl) ?_ unfailed)
          · simp [Reply.onto, Instruction.ofCursor, outcome]
          · rw [kept, status]
            cases rc <;> rfl
      | none =>
          rw [s.engine.exec_cursor found rfl] at hnext ⊢
          obtain rfl := by simpa [attached.cursors] using hnext
          refine .parting (f := none) [.settle o (.value (.summary summary))] ?_ isOver clear untold
            status (.settling (fun g heq => by cases heq) ?_ unfailed)
          · simp [Reply.onto, Instruction.ofCursor, outcome]
          · rw [kept]
            cases rc <;> rfl
  | @settling st verdict delivered unfailed =>
      have created := orderly.bounded _ _ reserved.plays
      -- the outcome had not failed before, so only the settlement carried out here can say so
      have failed : ∀ g, s'.engine.loop.settlement? o = some (.failure g) → f = some g := by
        intro g settled
        rcases reserved.settled orderly step admits settled with earlier | ⟨rest', head⟩
        · exact absurd earlier (unfailed g)
        · rw [agenda] at head
          cases head
          exact verdict g rfl
      obtain ⟨rfl, rfl⟩ := step.exec_of_head agenda rfl
      obtain rfl : cursor = next := by simpa using attached.cursors.symm.trans hnext
      exact .parting [] rfl isOver clear untold status
        (.resolved delivered (Loop.isDone_settle created st) failed)
  | resolved delivered done failed =>
      exact valediction_of_tellEnd attached orderly agenda isOver clear untold delivered done failed
        step permitted hnext

/-- Every move leaves it told where what is told of the end stands. -/
theorem Valediction.step (valediction : Valediction o h cursor s)
    (attached : Attached o h s cursor) (matched : Matched s cursor) (reserved : Reserved 0 o h s)
    (orderly : Orderly h s) (step : Step s m s') (permitted : c.Permits h m)
    (admits : Admits h m) (hnext : s'.engine.cursors = #[next]) :
    Valediction o (m :: h) next s' := by
  cases valediction with
  | before opened clear untold kept unfailed =>
      exact valediction_of_open attached matched reserved orderly opened clear untold kept unfailed
        step permitted admits hnext
  | parting front agenda isOver clear untold status bidding =>
      exact valediction_of_bidding attached reserved orderly agenda isOver clear untold status
        bidding step permitted admits hnext
  | @said rc f isOver clear told delivered done failed =>
      have onward := step.onward orderly.steady
      obtain ⟨records, summaries⟩ :=
        takes_nothing step attached.known attached.installing isOver.terminal
      obtain ⟨isOver', -, -⟩ := step.of_over permitted isOver records summaries
      refine .said rc f isOver' ?_ ?_ ?_ (onward.isDone done) fun g settled => ?_
      · refine clear_step step permitted clear attached.known fun a rest after effects stream => ?_
        intro effect mem
        refine Instruction.isFinal_ofStream ((stream.steps.over isOver ?_ ?_).2 effect mem)
        · rintro rc rfl
          exact records rc _ stream.move
        · rintro sc rfl
          exact summaries sc _ stream.move
      · rw [endsTold_of_clear step fun i rest head rc f heq => ?_, told]
        have cold := clear i (by simp [head])
        simp [heq, Instruction.isFinal] at cold
      · rcases attached.cursor_or_eq step permitted hnext with ⟨a, rest, effects, taken⟩ | rfl
        · rw [taken.steps.isErrorDelivered 0 (clear _ (by simp [taken.head]))]
          exact delivered
        · exact delivered
      · obtain ⟨st, before⟩ := Option.isSome_iff_exists.1 done
        rw [onward.settled before] at settled
        exact failed g (before.trans settled)

/-! ## One cursor in a run -/

/-- An engine over a stream, with a cursor of which nothing was asked and whose outcome is a
promise for nothing else. -/
structure Engine.Secluded (e : Engine) (o : PromiseId) : Prop extends e.Begun o where
  unsettled : e.loop.settlement? o = none
  only : e.Only o (.outcome 0)
  bounded : e.Bounded
  unawaited : ∀ p, ¬ e.Awaits p

/-- What holds of the one cursor of a stream, in a history and where it led. -/
structure Paired (o : PromiseId) (h : List Move) (s : Situation) (cursor : Cursor) : Prop where
  attached : Attached o h s cursor
  matched : Matched s cursor
  orderly : Orderly h s
  reserved : Reserved 0 o h s
  valediction : Valediction o h cursor s

theorem Paired.step (paired : Paired o h s cursor) (sole : c.Sole) (holds : c.Holds)
    (step : Step s m s') (permitted : c.Permits h m) : ∃ next, Paired o (m :: h) s' next := by
  have admits := permitted.admits holds
  obtain ⟨next, attached⟩ := paired.attached.step sole step permitted
  exact ⟨next,
    { attached := attached
      matched := paired.matched.step paired.attached sole step permitted attached.cursors
      orderly := paired.orderly.step step admits
      reserved := paired.reserved.step paired.orderly step admits
      valediction := paired.valediction.step paired.attached paired.matched paired.reserved
        paired.orderly step permitted admits attached.cursors }⟩

theorem Engine.Secluded.paired {e : Engine} (secluded : e.Secluded o) :
    ∃ cursor, Paired o [] ⟨e, []⟩ cursor := by
  obtain ⟨cursor, attached⟩ := secluded.attached
  obtain ⟨runError, release, cursors⟩ := secluded.cursors
  obtain rfl : cursor = .fresh runError release o := by
    simpa using attached.cursors.symm.trans cursors
  have unsettled := secluded.unsettled
  have stream := secluded.stream
  refine ⟨_, attached, ⟨fun rc held => ?_, by simp⟩, ?_, ?_, ?_⟩
  · have held : e.stream.recordConsumer = some rc := held
    simp [stream, Stream.fresh] at held
  · exact {
      steady := by simp
      sound := secluded.sound
      bounded := secluded.bounded
      offered := by simp
      awaited := fun p awaits => absurd awaits (secluded.unawaited p)
      handed := by simp
      settles := by simp }
  · exact {
      plays := .outcome (c := .fresh runError release o) (by simp [cursors]) rfl
      only := secluded.only
      unoffered := fun _ => by simp
      unawaited := fun _ => secluded.unawaited o
      unheld := fun _ => by simp
      deciding := by
        rw [unsettled]
        exact .settled (by simp) }
  · refine .before ⟨.inr ?_, by simp, by simp [UpFront, pastLines]⟩ (by simp) rfl rfl ?_
    · rw [stream]
      rfl
    · simp [unsettled]

/-- A cursor that is made where nothing was asked has its outcome for itself. -/
theorem Engine.secluded_openCursor {e opened : Engine} {plan : CursorPlan}
    {next : List Instruction} (pristine : e.Pristine) (fresh : e.stream = .fresh)
    (hasStream : e.hasStream = true) (opens : e.openCursor plan = (opened, .go next)) :
    next = [.channel (.installSummary (.cursor 0)), .ask (.cursor 0)] ∧
      ∃ o, (opened.exec (.stream (.installSummary (.cursor 0)))).1.Secluded o := by
  have orderly := pristine.orderly
  obtain ⟨hnext, o, begun⟩ := begun_openCursor fresh hasStream pristine.cursors orderly.sound opens
  have hopened : opened = (e.openCursor plan).1 := by rw [opens]
  have recalls : opened.Recalls (opened.exec (.stream (.installSummary (.cursor 0)))).1 :=
    opened.recalls_exec rfl
  have loop : (opened.exec (.stream (.installSummary (.cursor 0)))).1.loop = opened.loop := by
    simp only [exec, stepStream]
    split <;> rfl
  obtain ⟨runError, release, cursors⟩ := begun.cursors
  have found : opened.cursors[0]? = some (.fresh runError release o) := by
    have same :
        (opened.exec (.stream (.installSummary (.cursor 0)))).1.cursors = opened.cursors := by
      simp only [exec, stepStream]
      split <;> rfl
    rw [← same, cursors]
    rfl
  have minted := e.minted (by simp [pristine.cursors]) (hopened ▸ found)
  have unsettled : (opened.exec (.stream (.installSummary (.cursor 0)))).1.loop.settlement? o
      = none := by
    rw [loop, hopened, settlement?_openCursor, pristine.loop]
    simp [Loop.idle, Loop.settlement?]
  refine ⟨hnext, o, begun, unsettled, ?_, ?_, fun p awaits => ?_⟩
  · have created : o < opened.loop.promises.size := loop ▸ begun.created
    exact recalls.only created (hopened ▸ minted.2.2 orderly.bounded)
  · have bounded : opened.Bounded :=
      hopened ▸ orderly.bounded.step (e.recalls_exec (i := .openCursor plan) rfl)
    exact bounded.step recalls
  · rcases awaits_exec awaits with awaits | offered
    · rw [hopened] at awaits
      rcases awaits_exec (i := .openCursor plan) awaits with ⟨t, task, found, _⟩ | offered
      · simp [pristine.tasks] at found
      · cases offered
    · cases offered

end Steps

/-! ## Runs over one cursor that are worked out -/

/-- Nobody but a cursor gives the stream a consumer, and promises are cancelled only by who
was handed them. -/
def Conduct.discreet : Conduct where
  refrains i := i.attaches = true
  tame _ := False
  keeps h m := m.isAdmitted h = true

theorem Conduct.discreet_sole : Conduct.discreet.Sole := fun i calls => by
  simpa [discreet] using calls.2

theorem Conduct.discreet_holds : Conduct.discreet.Holds := fun _ p r keeps =>
  (Admits.of_isAdmitted keeps).holds p r rfl

theorem Conduct.discreet_keepsAll {h : List Move} (admitted : allAdmitted h = true) :
    Conduct.discreet.KeepsAll h := by
  refine keepsAll_of_cons (allAdmitted · = true) (fun m h all => ?_) admitted
  exact Bool.and_eq_true_iff.1 all

/-- Whether what is called gives the stream no consumer and makes no cursor. -/
def Act.isDiscreet : Act → Bool
  | .calls next => next.all fun i => i.isCall && !i.attaches
  | .job => true

theorem Run.acts_of_isDiscreet {n : Nat} {acts : List Act} {former point : List Move × Situation}
    {start : Situation} (run : Run .discreet start former.1 former.2)
    (worked : point = Situation.acts n acts former) (made : acts.all Act.isDiscreet = true)
    (admitted : allAdmitted point.1 = true) : Run .discreet start point.1 point.2 := by
  subst worked
  refine .acts n acts (fun next mem i hi => ?_) (Conduct.discreet_keepsAll admitted) run
  have discreet := List.all_eq_true.1 made _ mem
  simp only [Act.isDiscreet, List.all_eq_true, Bool.and_eq_true] at discreet
  obtain ⟨call, attaches⟩ := discreet i hi
  exact ⟨call, by simpa [Conduct.discreet] using attaches⟩

/-- Carrying out what is on the agenda goes on with a run, if its moves can all happen. -/
theorem Run.advances_of_allAdmitted {n : Nat} {former point : List Move × Situation}
    {start : Situation} (run : Run .discreet start former.1 former.2)
    (worked : point = Situation.advances n former) (admitted : allAdmitted point.1 = true) :
    Run .discreet start point.1 point.2 :=
  run.advances_to n worked (Conduct.discreet_keepsAll admitted)

theorem Run.of_acts {n : Nat} {acts : List Act} {point : List Move × Situation}
    {start : Situation} (worked : point = Situation.acts n acts ([], start))
    (made : acts.all Act.isDiscreet = true) (admitted : allAdmitted point.1 = true) :
    Run .discreet start point.1 point.2 :=
  have unmoved : Run .discreet start [] start := .nil
  unmoved.acts_of_isDiscreet worked made admitted

/-- An engine over a stream before a cursor is made. -/
def bareEngine : Engine :=
  .overStream ⟨.text "", .null⟩ ⟨.null, .null, .null⟩ (.int 0) .transaction .pending none

/-- An engine over a stream with a cursor of which nothing was asked. -/
def soleEngine : Engine :=
  ((bareEngine.openCursor ⟨.nothing, .standard, true, true⟩).1.exec
    (.stream (.installSummary (.cursor 0)))).1

/-- The same, with the failure of its query to start that a new cursor is said to have. -/
def soleEngineOf (runError : RunErrorChoice) : Engine :=
  ((bareEngine.openCursor ⟨runError, .standard, true, true⟩).1.exec
    (.stream (.installSummary (.cursor 0)))).1

theorem secluded_soleEngineOf (runError : RunErrorChoice) :
    (soleEngineOf runError).Secluded 0 := by
  have pristine : bareEngine.Pristine :=
    { cursors := rfl, tasks := rfl, iterations := rfl
      releases := by simp [bareEngine, Engine.overStream], loop := rfl }
  have opens : bareEngine.openCursor ⟨runError, .standard, true, true⟩ = (_, .go _) := rfl
  obtain ⟨-, o, secluded⟩ := Engine.secluded_openCursor pristine rfl rfl opens
  obtain ⟨failed, release, cursors⟩ := secluded.cursors
  have outcome : (soleEngineOf runError).cursors[0]?.map Cursor.outcome = some 0 := rfl
  have cursors : (soleEngineOf runError).cursors = #[.fresh failed release o] := cursors
  rw [cursors] at outcome
  obtain rfl : o = 0 := by simpa [Cursor.fresh] using outcome
  exact secluded

theorem secluded_soleEngine : soleEngine.Secluded 0 := secluded_soleEngineOf .nothing

end QueryStream
