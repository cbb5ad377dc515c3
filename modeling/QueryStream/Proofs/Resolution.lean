/-
  Proofs/Resolution.lean --- the one resolution of an outcome.

  Whatever a channel tells a cursor, and whatever the cursor is asked to do in between, the
  first that resolves the outcome decides: a rollback, a failure, or a summary that comes
  with no failure.  The outcome stays as it is after that, nobody who was handed a promise
  can cancel it, and every promise of the summary that was not itself cancelled follows it
  (`Course.decided`).
-/
import QueryStream.Proofs.Course

set_option autoImplicit false

namespace QueryStream

/-! ## Verdicts -/

/-- The outcome that a move has a cursor resolve on.  A cursor that is not there does
nothing. -/
def Move.verdict? (id : CursorId) : Move → Option (Settlement Delivery Failure)
  | .carried (.cursor i a) (.go (_ :: _)) => if i = id then a.verdict? else none
  | _ => none

/-- What a cursor resolved on in a history, latest first: nothing for a rollback, a failure,
or a summary that came with no failure. -/
def verdicts (id : CursorId) (h : List Move) : List (Settlement Delivery Failure) :=
  h.filterMap (Move.verdict? id)

/-- What a cursor resolved on first. -/
def firstVerdict? (id : CursorId) (h : List Move) : Option (Settlement Delivery Failure) :=
  (verdicts id h).getLast?

/-- The promises of the summary that a move hands out. -/
def Move.summaryPromises (id : CursorId) : Move → List PromiseId
  | .carried (.relay i _) r => if i = id then r.next.filterMap Instruction.offered? else []
  | _ => []

/-- The promises of the summary that a cursor handed out in a history. -/
def summaryPromises (id : CursorId) (h : List Move) : List PromiseId :=
  h.flatMap (Move.summaryPromises id)

/-- In a history and where it led, the first verdict of a cursor is its outcome. -/
structure Decided (id : CursorId) (o : PromiseId) (h : List Move) (s : Situation) : Prop where
  /-- the outcome is resolved only as the first verdict has it -/
  first : ∀ st, s.engine.loop.settlement? o = some st → firstVerdict? id h = some st
  /-- once nothing is under way, the first verdict, if there is one, is the outcome -/
  resolved : s.agenda = [] → s.engine.loop.settlement? o = firstVerdict? id h
  /-- a resolved outcome is not changed by any move -/
  lasts : ∀ st m s', s.engine.loop.settlement? o = some st → Step s m s' →
    s'.engine.loop.settlement? o = some st
  /-- nobody cancels the outcome -/
  uncancelled : s.engine.loop.settlement? o ≠ some .cancelled
  /-- once the loop is idle, a promise of the summary is as the outcome is, unless it was
  cancelled -/
  shared : s.agenda = [] → s.engine.loop.ready = [] → ∀ p ∈ summaryPromises id h,
    s.engine.loop.settlement? p = some .cancelled ∨
      s.engine.loop.settlement? p = s.engine.loop.settlement? o

section Steps

variable {h : List Move} {s s' : Situation} {m : Move} {id : CursorId} {o p : PromiseId}
  {c : Cursor}

theorem Cursor.Action.verdict?_ne_cancelled (a : Cursor.Action) :
    a.verdict? ≠ some .cancelled := by
  cases a with
  | notify summary f => cases f <;> cases summary <;> simp [verdict?]
  | _ => simp [verdict?]

theorem cancelled_not_mem_verdicts : .cancelled ∉ verdicts id h := by
  intro mem
  obtain ⟨m, _, verdict⟩ := List.mem_filterMap.1 mem
  unfold Move.verdict? at verdict
  split at verdict
  · split at verdict
    · exact absurd verdict (Cursor.Action.verdict?_ne_cancelled _)
    · cases verdict
  · cases verdict

theorem verdicts_cons (id : CursorId) (m : Move) (h : List Move) :
    verdicts id (m :: h) = (m.verdict? id).toList ++ verdicts id h := by
  unfold verdicts
  cases hm : m.verdict? id <;> simp [hm]

/-! ## A cursor is made -/

/-- A cursor that is new was made by this move: its outcome is a new promise, for nothing
else. -/
structure Minted (s : Situation) (m : Move) (s' : Situation) (id : CursorId) (c : Cursor) :
    Prop where
  outcome : c.outcome = s.engine.loop.nextId
  agenda : ∃ plan rest, s.agenda = .openCursor plan :: rest ∧
    s'.agenda = .channel (.installSummary (.cursor id)) :: .ask (.cursor id) :: rest
  settlement : ∀ p, s'.engine.loop.settlement? p = s.engine.loop.settlement? p
  verdict : m.verdict? id = none
  only : s.engine.Bounded → s'.engine.Only c.outcome (.outcome id)

theorem Engine.minted {e : Engine} {plan : CursorPlan} (absent : e.cursors[id]? = none)
    (found : (e.openCursor plan).1.cursors[id]? = some c) :
    c.outcome = e.loop.nextId ∧
      (e.openCursor plan).2 = .go [.channel (.installSummary (.cursor id)), .ask (.cursor id)] ∧
      (e.Bounded → (e.openCursor plan).1.Only c.outcome (.outcome id)) := by
  unfold openCursor at found ⊢
  split at found
  · simp [refuse, absent] at found
  · rename_i complete
    rw [if_neg complete]
    split at found
    · simp [refuse, absent] at found
    · rename_i e₁ release made
      obtain ⟨releases, rfl, chosen⟩ := exists_of_chooseRelease made
      simp only [Array.getElem?_push] at found
      split at found
      · rename_i last
        subst last
        obtain rfl := Option.some.inj found
        refine ⟨rfl, rfl, fun bounded => ?_⟩
        -- the outcome is the next promise, of which nothing knows yet
        have unplayed : ∀ r, ¬ Plays { e with releases } e.loop.nextId r := by
          intro r plays
          rcases (e.recalls_chosen chosen).plays plays with plays | fresh
          · exact Nat.lt_irrefl _ (bounded _ _ plays)
          · exact Nat.lt_irrefl _ fresh.2
        intro r plays
        cases plays with
        | task found promise => exact absurd (.task found promise) (unplayed _)
        | signal found awaited => exact absurd (.signal found awaited) (unplayed _)
        | release found promise => exact absurd (.release found promise) (unplayed _)
        | target held target =>
            rcases held.of_watch with held | rfl
            · exact absurd (.target (held.of_push rfl) target) (unplayed _)
            · cases target
        | @outcome id' _ found outcome =>
            simp only [Array.getElem?_push] at found
            split at found
            · rename_i last
              rw [last]
            · exact absurd (.outcome found outcome) (unplayed _)
      · rw [absent] at found
        cases found

theorem Step.minted (step : Step s m s') (absent : s.engine.cursors[id]? = none)
    (found : s'.engine.cursors[id]? = some c) : Minted s m s' id c := by
  have same : s'.engine.cursors ≠ s.engine.cursors := by
    intro heq
    rw [heq, absent] at found
    cases found
  cases step with
  | answer r => exact absurd rfl same
  | call next => exact absurd rfl same
  | @begin e j loop next => exact absurd (Engine.began_runJob { e with loop } j).cursors same
  | @carry e i rest own =>
      cases i with
      | openCursor plan =>
          have absent : e.cursors[id]? = none := absent
          obtain ⟨outcome, reply, only⟩ := Engine.minted absent found
          refine ⟨outcome, ⟨plan, rest, rfl, ?_⟩, fun p => Engine.settlement?_openCursor plan,
            ?_, only⟩
          · simp [Engine.exec, reply]
          · rfl
      | cursor id' a =>
          have absent : e.cursors[id]? = none := absent
          simp only [Engine.exec, Engine.stepCursor] at found
          split at found
          · simp [Engine.goOn, absent] at found
          · split at found
            · rw [Array.getElem?_setIfInBounds] at found
              split at found
              · rename_i known _ _ _ _ heq
                subst heq
                rw [absent] at known
                cases known
              · simp [absent] at found
            · simp [Engine.refuse, absent] at found
      | stream a =>
          refine absurd ?_ same
          simp only [Engine.exec, Engine.stepStream]
          split <;> rfl
      | _ => exact absurd ((e.keeps_exec rfl).cursors rfl) same

/-! ## Resolving on an outcome -/

/-- Where the outcome of a cursor stands: it is what the cursor resolved on first, or the
cursor has just resolved on something and the outcome is about to be settled so. -/
inductive Deciding (o : PromiseId) : List Instruction → List (Settlement Delivery Failure) →
    Option (Settlement Delivery Failure) → Prop
  | settled {agenda : List Instruction} {verdicts : List (Settlement Delivery Failure)}
      (clear : ∀ st, .settle o st ∉ agenda) : Deciding o agenda verdicts verdicts.getLast?
  | settling {rest : List Instruction} {verdicts : List (Settlement Delivery Failure)}
      (st : Settlement Delivery Failure) (clear : ∀ st, .settle o st ∉ rest) :
      Deciding o (.settle o st :: rest) (st :: verdicts) verdicts.getLast?
  | noting {rest : List Instruction} {verdicts : List (Settlement Delivery Failure)}
      (line : Log.Line) (st : Settlement Delivery Failure) (clear : ∀ st, .settle o st ∉ rest) :
      Deciding o (.ask (.log line) :: .settle o st :: rest) (st :: verdicts) verdicts.getLast?

/-- What a resolved outcome is was resolved on first. -/
theorem Deciding.getLast? {agenda : List Instruction}
    {verdicts : List (Settlement Delivery Failure)} {now : Option (Settlement Delivery Failure)}
    {st : Settlement Delivery Failure} (deciding : Deciding o agenda verdicts now)
    (settled : now = some st) : verdicts.getLast? = some st := by
  cases deciding <;> simp_all [List.getLast?_cons]

/-- The outcome of a cursor: it is a promise for nothing else, and is offered to nobody
before it is resolved. -/
structure Reserved (id : CursorId) (o : PromiseId) (h : List Move) (s : Situation) : Prop where
  plays : s.engine.Plays o (.outcome id)
  only : s.engine.Only o (.outcome id)
  unoffered : s.engine.loop.settlement? o = none → ∀ i ∈ s.agenda, i.offered? ≠ some o
  unawaited : s.engine.loop.settlement? o = none → ¬ s.engine.Awaits o
  unheld : s.engine.loop.settlement? o = none → ∀ name r, .answered (.promise name o) r ∉ h
  deciding : Deciding o s.agenda (verdicts id h) (s.engine.loop.settlement? o)

/-- Only what is to settle the outcome settles it. -/
theorem Reserved.settlement (reserved : Reserved id o h s) (orderly : Orderly h s)
    (step : Step s m s') (admits : Admits h m) (indirect : ∀ st r, m ≠ .carried (.settle o st) r) :
    s'.engine.loop.settlement? o = s.engine.loop.settlement? o := by
  have created := orderly.bounded _ _ reserved.plays
  cases before : s.engine.loop.settlement? o with
  | some st => exact (step.onward orderly.steady).settled before
  | none =>
      cases after : s'.engine.loop.settlement? o with
      | none => rfl
      | some st =>
          rcases step.settler after with settled | settler
          · simp [before] at settled
          cases settler with
          | direct st r => exact absurd rfl (indirect st r)
          | cancelled r =>
              obtain ⟨name, held⟩ := admits.holds o r rfl
              exact absurd held (reserved.unheld before name _)
          | awaited r awaits => exact absurd awaits (reserved.unawaited before)
          | await t r =>
              obtain ⟨rest, head⟩ := step.head_of_carried
              exact absurd rfl (reserved.unoffered before (.await t o) (by simp [head]))
          | ended st m plays => cases reserved.only _ plays
          | signalled st m plays => cases reserved.only _ plays
          | relayed source => cases reserved.only _ (.target (.ready step.mem_ready) rfl)
          | reported source reports =>
              cases reserved.only _ (.target (.ready step.mem_ready) rfl)
          | created st m fresh => exact absurd created (Nat.not_lt_of_le fresh)

/-- A cursor that resolves on something is about to settle its outcome. -/
theorem Deciding.of_resolving {a : Cursor.Action} {st : Settlement Delivery Failure}
    {r : Reply} (verdicts : List (Settlement Delivery Failure))
    (found : s.engine.cursors[id]? = some c) (step : Step s (.carried (.cursor id a) r) s')
    (verdict : a.verdict? = some st) (clear : ∀ st, .settle c.outcome st ∉ s.agenda) :
    (Move.carried (.cursor id a) r).verdict? id = some st ∧
      Deciding c.outcome s'.agenda (st :: verdicts) verdicts.getLast? := by
  obtain ⟨rest, head⟩ := step.head_of_carried
  have clear : ∀ st, .settle c.outcome st ∉ rest := fun st mem =>
    clear st (head ▸ List.mem_cons_of_mem _ mem)
  obtain ⟨move, hs'⟩ := step.exec_of_head head rfl
  obtain rfl := (Move.carried.inj move).2
  cases a with
  | rollback receiver =>
      rw [hs', s.engine.exec_cursor found (by rfl)]
      have after : ∀ st, .settle c.outcome st ∉
          .cursor id .markConsumed :: .release c.release receiver :: rest := by
        simpa using clear
      cases verdict
      exact ⟨by simp [Move.verdict?, Cursor.Action.verdict?], .noting _ _ after⟩
  | notify summary f =>
      cases f with
      | some f =>
          rw [hs', s.engine.exec_cursor found (by rfl)]
          cases verdict
          exact ⟨by simp [Move.verdict?, Cursor.Action.verdict?, Instruction.ofCursor],
            .settling _ clear⟩
      | none =>
          cases summary with
          | none => cases verdict
          | some found' =>
              rw [hs', s.engine.exec_cursor found (by rfl)]
              cases verdict
              exact ⟨by simp [Move.verdict?, Cursor.Action.verdict?, Instruction.ofCursor],
                .settling _ clear⟩
  | _ => cases verdict

theorem Move.exists_of_verdict? {st : Settlement Delivery Failure}
    (verdict : m.verdict? id = some st) :
    ∃ a r, m = .carried (.cursor id a) r ∧ a.verdict? = some st := by
  unfold Move.verdict? at verdict
  split at verdict
  · rename_i i a first rest
    split at verdict
    · rename_i same
      exact ⟨a, .go (first :: rest), same ▸ rfl, verdict⟩
    · cases verdict
  · cases verdict

/-- Where no settling of the outcome is on the agenda, the cursor resolves on something, or nothing
settles it after the move either. -/
theorem Reserved.deciding_of_settled (reserved : Reserved id o h s) (orderly : Orderly h s)
    (step : Step s m s') (admits : Admits h m) {earlier : List (Settlement Delivery Failure)}
    (clear : ∀ st, .settle o st ∉ s.agenda)
    (now : s.engine.loop.settlement? o = earlier.getLast?) :
    Deciding o s'.agenda ((m.verdict? id).toList ++ earlier) (s'.engine.loop.settlement? o) := by
  have indirect : ∀ st r, m ≠ .carried (.settle o st) r := by
    rintro st r rfl
    obtain ⟨rest, head⟩ := step.head_of_carried
    exact clear st (by simp [head])
  rw [reserved.settlement orderly step admits indirect, now]
  cases verdict : m.verdict? id with
  | some st =>
      obtain ⟨a, r, rfl, resolves⟩ := Move.exists_of_verdict? verdict
      cases reserved.plays with
      | outcome found outcome =>
          subst outcome
          exact (Deciding.of_resolving _ found step resolves clear).2
  | none =>
      refine .settled fun st mem => ?_
      rcases step.settle_mem admits mem with mem | ⟨id', a, resolving⟩
      · exact clear st (List.mem_of_mem_tail mem)
      · -- only a cursor that resolves on a verdict has its outcome settled, and this move has none
        obtain rfl := Role.outcome.inj (reserved.only _ resolving.plays)
        obtain ⟨rest, head⟩ := resolving.head
        obtain ⟨rfl, _⟩ := step.exec_of_head head rfl
        cases reserved.plays with
        | outcome found outcome =>
            subst outcome
            have resolves := Deciding.of_resolving [] found step resolving.verdict clear
            simp [resolves.1] at verdict

/-- The outcome of a cursor goes on being what the cursor resolved on first. -/
theorem Reserved.deciding_step (reserved : Reserved id o h s) (orderly : Orderly h s)
    (step : Step s m s') (admits : Admits h m) :
    Deciding o s'.agenda (verdicts id (m :: h)) (s'.engine.loop.settlement? o) := by
  have deciding := reserved.deciding
  generalize hagenda : s.agenda = agenda at deciding
  generalize hverdicts : verdicts id h = earlier at deciding
  generalize hnow : s.engine.loop.settlement? o = now at deciding
  rw [verdicts_cons, hverdicts]
  cases deciding with
  | settled clear =>
      exact reserved.deciding_of_settled orderly step admits (hagenda ▸ clear) hnow
  | @settling rest earlier st clear =>
      have created := orderly.bounded _ _ reserved.plays
      obtain ⟨rfl, rfl⟩ := step.exec_of_head hagenda rfl
      have settled : (s.engine.loop.settle o st).settlement? o = (st :: earlier).getLast? := by
        rw [Loop.settlement?_settle_self created, hnow, List.getLast?_cons]
        cases earlier.getLast? <;> rfl
      have deciding : Deciding o rest (st :: earlier) (st :: earlier).getLast? := .settled clear
      rwa [← settled] at deciding
  | @noting rest earlier line st clear =>
      obtain ⟨e, agenda⟩ := s
      obtain rfl : agenda = _ := hagenda
      cases step with
      | carry own => cases own
      | answer r =>
          cases admits.responds _ r rfl with
          | notice h =>
              have deciding : Deciding o (.settle o st :: rest) (st :: earlier) earlier.getLast? :=
                .settling st clear
              rw [← hnow] at deciding
              exact deciding
          | go silent made => cases silent
          | raise th silent => cases silent

theorem Reserved.step (reserved : Reserved id o h s) (orderly : Orderly h s)
    (step : Step s m s') (admits : Admits h m) : Reserved id o (m :: h) s' := by
  have onward := step.onward orderly.steady
  have created := orderly.bounded _ _ reserved.plays
  have earlier : s'.engine.loop.settlement? o = none → s.engine.loop.settlement? o = none := by
    intro unsettled
    cases settled : s.engine.loop.settlement? o with
    | none => rfl
    | some st => simp [onward.settled settled] at unsettled
  refine ⟨onward.plays_outcome reserved.plays,
    (step.recalls orderly.steady).only created reserved.only, fun unsettled j hj offered => ?_,
    fun unsettled awaits => ?_, fun unsettled name r mem => ?_,
    reserved.deciding_step orderly step admits⟩
  · rcases step.offering hj offered with mem | mem | ⟨i, mem, offering⟩
    · exact reserved.unoffered (earlier unsettled) j mem offered
    · simp [(admits.plain mem).offered] at offered
    · cases offering with
      | passed offered => exact reserved.unoffered (earlier unsettled) i mem offered
      | release plays => cases reserved.only _ plays
      | resolved done => simp [Loop.isDone, earlier unsettled] at done
      | created fresh => exact absurd created (Nat.not_lt_of_le fresh.1)
  · rcases step.awaits awaits with awaits | ⟨i, mem, offered⟩
    · exact reserved.unawaited (earlier unsettled) awaits
    · exact reserved.unoffered (earlier unsettled) i mem offered
  · rcases List.mem_cons.1 mem with rfl | mem
    · cases step with
      | answer r => exact reserved.unoffered (earlier unsettled) _ (List.mem_cons_self ..) rfl
    · exact reserved.unheld (earlier unsettled) name r mem

/-- The outcome of a cursor that is made is reserved. -/
theorem Minted.reserved (opened : Minted s m s' id c) (orderly : Orderly h s)
    (step : Step s m s') (found : s'.engine.cursors[id]? = some c)
    (silent : verdicts id h = []) : Reserved id c.outcome (m :: h) s' := by
  have fresh : ∀ {p : PromiseId}, p < s.engine.loop.promises.size → p ≠ c.outcome := by
    rintro p lt rfl
    rw [opened.outcome] at lt
    exact Nat.lt_irrefl _ lt
  have unsettled : s'.engine.loop.settlement? c.outcome = none := by
    cases settled : s'.engine.loop.settlement? c.outcome with
    | none => rfl
    | some st =>
        rw [opened.settlement] at settled
        exact absurd rfl (fresh (Loop.lt_size_of_settlement? settled))
  obtain ⟨plan, rest, head, agenda⟩ := opened.agenda
  have behind : ∀ i ∈ s'.agenda, i.offered? = none ∧ i.settled? = none ∨ i ∈ s.agenda := by
    intro i hi
    rw [agenda] at hi
    simp only [List.mem_cons] at hi
    rcases hi with rfl | rfl | hi
    · exact .inl ⟨rfl, rfl⟩
    · exact .inl ⟨rfl, rfl⟩
    · exact .inr (by simp [head, hi])
  refine ⟨.outcome found rfl, opened.only orderly.bounded, fun _ i hi offered => ?_,
    fun _ awaits => ?_, fun _ name r mem => ?_, ?_⟩
  · rcases behind i hi with ⟨silent, _⟩ | mem
    · simp [silent] at offered
    · exact fresh (orderly.offered i mem _ offered) rfl
  · rcases step.awaits awaits with awaits | ⟨i, mem, offered⟩
    · exact fresh (orderly.awaited _ awaits) rfl
    · exact fresh (orderly.offered i mem _ offered) rfl
  · rcases List.mem_cons.1 mem with rfl | mem
    · cases step with
      | answer r => cases head
    · exact fresh (orderly.handed name _ r mem) rfl
  · have clear : ∀ st, .settle c.outcome st ∉ s'.agenda := by
      intro st mem
      rcases behind _ mem with ⟨_, other⟩ | mem
      · cases other
      · obtain ⟨id', plays⟩ := orderly.settles _ st mem
        exact fresh (orderly.bounded _ _ plays) rfl
    have deciding : Deciding c.outcome s'.agenda [] ([] : List _).getLast? := .settled clear
    rw [verdicts_cons, opened.verdict, silent, unsettled]
    exact deciding

/-! ## Promises of the summary -/

/-- Where a promise of the summary stands: it is the outcome, it was cancelled, it is settled
as the outcome is, or the job that settles it so waits for the outcome or is queued. -/
inductive Echo (o p : PromiseId) (e : Engine) : Prop
  | same (heq : p = o)
  | cancelled (promise : e.loop.settlement? p = some .cancelled)
  | shared {st : Settlement Delivery Failure} (outcome : e.loop.settlement? o = some st)
      (promise : e.loop.settlement? p = some st)
  | pending (created : p < e.loop.promises.size) (only : e.Only p (.target (.relay o p)))
      (pending : e.Pending (.relay o p) o p)

theorem Echo.step (echo : Echo o p s.engine) (orderly : Orderly h s) (step : Step s m s') :
    Echo o p s'.engine := by
  have onward := step.onward orderly.steady
  cases echo with
  | same heq => exact .same heq
  | cancelled promise => exact .cancelled (onward.settled promise)
  | shared outcome promise => exact .shared (onward.settled outcome) (onward.settled promise)
  | pending created only pending =>
      have indirect : ∀ st r, m ≠ .carried (.settle p st) r := by
        rintro st r rfl
        obtain ⟨rest, head⟩ := step.head_of_carried
        obtain ⟨id, plays⟩ := orderly.settles p st (by simp [head])
        cases only _ plays
      rcases step.pending orderly.steady orderly.sound rfl only created indirect pending with
        rfl | ⟨cancelled, -⟩ | pending
      · obtain ⟨st, outcome, promise⟩ :=
          step.settles_relay orderly.sound created pending.unsettled
        exact .shared (onward.settled outcome) promise
      · exact .cancelled cancelled
      · exact .pending (Nat.lt_of_lt_of_le created onward.size_le)
          ((step.recalls orderly.steady).only created only) pending

theorem eq_of_mem_offered {receiver : Receiver} {q : PromiseId}
    (hp : p ∈ (Engine.hand receiver q).filterMap Instruction.offered?) : q = p := by
  obtain ⟨j, mem, offered⟩ := List.mem_filterMap.1 hp
  exact Engine.eq_of_offered_hand mem offered

/-- A promise of the summary follows the outcome from the start. -/
theorem Engine.echo_relay {e : Engine} (receiver : Receiver) (found : e.cursors[id]? = some c)
    (bounded : e.Bounded)
    (hp : p ∈ (e.relay id receiver).2.next.filterMap Instruction.offered?) :
    Echo c.outcome p (e.relay id receiver).1 := by
  have created : c.outcome < e.loop.promises.size := bounded _ _ (.outcome found rfl)
  cases done : e.isResolved c with
  | true =>
      have hrelay : e.relay id receiver = (e, .go (hand receiver c.outcome)) := by
        simp [relay, found, done, goOn]
      rw [hrelay] at hp
      exact .same (eq_of_mem_offered hp).symm
  | false =>
      have hrelay : e.relay id receiver = ({ e with
          loop := (e.loop.create.watch c.outcome (.relay c.outcome e.loop.nextId)).watch
            e.loop.nextId (.unrelay c.outcome e.loop.nextId) },
          .go (hand receiver e.loop.nextId)) := by
        simp [relay, found, done]
      rw [hrelay] at hp ⊢
      obtain rfl := eq_of_mem_offered hp
      have created' : c.outcome < e.loop.create.promises.size := by
        rw [Loop.create, Array.size_push]
        exact Nat.lt_succ_of_lt created
      refine .pending ?_ (only_of_loop bounded (Nat.le_refl _) fun j held target => ?_) ⟨?_, ?_⟩
      · simp [Loop.size_watch, Loop.create, Loop.nextId]
      · rcases held.of_watch with held | rfl
        · rcases held.of_watch with held | rfl
          · exact absurd (bounded _ _ (.target (held.of_push rfl) target)) (Nat.lt_irrefl _)
          · rfl
        · cases target
      · rw [Loop.settlement?_watch, Loop.settlement?_watch, Loop.settlement?_create]
        simp [Loop.settlement?, Loop.nextId]
      · have evolves : (e.loop.create.watch c.outcome
            (.relay c.outcome e.loop.nextId)).Evolves _ :=
          .watch e.loop.nextId (k := .unrelay c.outcome e.loop.nextId)
            (by simp [Job.source?]) .refl
        exact evolves.watches (Loop.watches_watch created' _)

theorem Step.echo (orderly : Orderly h s) (step : Step s m s')
    (found : s.engine.cursors[id]? = some c) (hp : p ∈ m.summaryPromises id) :
    Echo c.outcome p s'.engine := by
  unfold Move.summaryPromises at hp
  split at hp
  · split at hp
    · rename_i i receiver r same
      subst same
      have hexec := step.exec_of_carried
      simp only [Engine.exec] at hexec
      have echo := s.engine.echo_relay receiver (p := p) found orderly.bounded
      rw [hexec] at echo
      exact echo hp
    · cases hp
  · cases hp

/-! ## Courses -/

/-- Of each cursor there is, the outcome is reserved and the promises of its summary follow
it; no other cursor did anything. -/
structure Kept (h : List Move) (s : Situation) : Prop where
  orderly : Orderly h s
  reserved : ∀ id c, s.engine.cursors[id]? = some c → Reserved id c.outcome h s
  echo : ∀ id c, s.engine.cursors[id]? = some c → ∀ p ∈ summaryPromises id h,
    Echo c.outcome p s.engine
  absent : ∀ id, s.engine.cursors[id]? = none → verdicts id h = [] ∧ summaryPromises id h = []

theorem Step.silent (step : Step s m s') (absent : s.engine.cursors[id]? = none) :
    m.verdict? id = none ∧ m.summaryPromises id = [] := by
  cases step with
  | @carry e i rest own =>
      cases i with
      | cursor id' a =>
          refine ⟨?_, rfl⟩
          by_cases same : id' = id
          · subst same
            rw [e.exec_cursor_of_none a absent]
            rfl
          · simp only [Move.verdict?]
            split
            · rename_i heq
              simp only [Move.carried.injEq, Instruction.cursor.injEq] at heq
              rw [if_neg (heq.1.1 ▸ same)]
            · rfl
      | relay id' receiver =>
          refine ⟨rfl, ?_⟩
          by_cases same : id' = id
          · subst same
            have absent : e.cursors[id']? = none := absent
            simp [Move.summaryPromises, Engine.exec, Engine.relay, absent, Engine.goOn]
          · simp [Move.summaryPromises, same]
      | _ => exact ⟨rfl, rfl⟩
  | _ => exact ⟨rfl, rfl⟩

theorem summaryPromises_cons (id : CursorId) (m : Move) (h : List Move) :
    summaryPromises id (m :: h) = m.summaryPromises id ++ summaryPromises id h :=
  List.flatMap_cons

theorem Kept.step (kept : Kept h s) (step : Step s m s') (admits : Admits h m) :
    Kept (m :: h) s' := by
  have onward := step.onward kept.orderly.steady
  have before : ∀ id : CursorId, s'.engine.cursors[id]? = none →
      s.engine.cursors[id]? = none := by
    intro id absent
    cases found : s.engine.cursors[id]? with
    | none => rfl
    | some c =>
        obtain ⟨c', found', _⟩ := onward.outcome found
        simp [found'] at absent
  refine ⟨kept.orderly.step step admits, fun id c found => ?_, fun id c found p hp => ?_,
    fun id absent => ?_⟩
  · cases earlier : s.engine.cursors[id]? with
    | none =>
        exact (step.minted earlier found).reserved kept.orderly step found
          (kept.absent id earlier).1
    | some c' =>
        obtain ⟨c'', found', outcome⟩ := onward.outcome earlier
        obtain rfl : c'' = c := Option.some.inj (found'.symm.trans found)
        rw [outcome]
        exact (kept.reserved id c' earlier).step kept.orderly step admits
  · rw [summaryPromises_cons] at hp
    cases earlier : s.engine.cursors[id]? with
    | none => simp [(step.silent earlier).2, (kept.absent id earlier).2] at hp
    | some c' =>
        obtain ⟨c'', found', outcome⟩ := onward.outcome earlier
        obtain rfl : c'' = c := Option.some.inj (found'.symm.trans found)
        rw [outcome]
        rcases List.mem_append.1 hp with hp | hp
        · exact step.echo kept.orderly earlier hp
        · exact (kept.echo id c' earlier p hp).step kept.orderly step
  · obtain ⟨verdict, promises⟩ := step.silent (before id absent)
    obtain ⟨verdicts, earlier⟩ := kept.absent id (before id absent)
    exact ⟨by rw [verdicts_cons, verdict, verdicts]; rfl,
      by rw [summaryPromises_cons, promises, earlier]; rfl⟩

theorem Course.kept {e : Engine} (pristine : e.Pristine) (course : Course ⟨e, []⟩ h s) :
    Kept h s := by
  refine course.invariant ⟨pristine.orderly, ?_, ?_, fun _ _ => ⟨rfl, rfl⟩⟩
    fun kept step admits => kept.step step admits
  · intro id c found
    simp [pristine.cursors] at found
  · intro id c found
    simp [pristine.cursors] at found

/-- Whatever a channel tells a cursor, and whatever the cursor is asked to do, the first that
resolves the outcome decides, for good and for every promise of the summary. -/
theorem Course.decided {e : Engine} (pristine : e.Pristine) (course : Course ⟨e, []⟩ h s)
    (found : s.engine.cursors[id]? = some c) : Decided id c.outcome h s := by
  have kept := course.kept pristine
  have reserved := kept.reserved id c found
  have first : ∀ st, s.engine.loop.settlement? c.outcome = some st →
      firstVerdict? id h = some st := fun st settled => reserved.deciding.getLast? settled
  refine ⟨first, fun idle => ?_, fun st m s' settled step => ?_, fun cancelled => ?_,
    fun idle quiet p hp => ?_⟩
  · have deciding := reserved.deciding
    rw [idle] at deciding
    generalize s.engine.loop.settlement? c.outcome = now at deciding
    generalize hverdicts : verdicts id h = earlier at deciding
    cases deciding
    rw [firstVerdict?, hverdicts]
  · exact (step.onward kept.orderly.steady).settled settled
  · exact cancelled_not_mem_verdicts (List.mem_of_getLast? (first _ cancelled))
  · cases kept.echo id c found p hp with
    | same heq => exact .inr (by rw [heq])
    | cancelled promise => exact .inl promise
    | shared outcome promise => exact .inr (promise.trans outcome.symm)
    | pending created only pending =>
        rcases pending.waits with ⟨watchers, waiting, _⟩ | mem
        · exact .inr (pending.unsettled.trans (Loop.settlement?_of_unsettled waiting).symm)
        · simp [quiet] at mem

end Steps

/-- A failure that a channel outside tells of. -/
def brokenLink : Failure := .arising (.reported .connection (some "link lost"))

/-- An engine over a channel outside. -/
def outsideEngine : Engine :=
  { Engine.overStream ⟨.text "", .null⟩ ⟨.null, .null, .null⟩ (.int 0) .transaction .pending none
    with hasStream := false }

/-- The summary is asked for twice and one of the promises cancelled; the channel tells of
more, of a failure and of nothing; the result is rolled back, and the summary asked for
again. -/
def disputed : List Act :=
  [.calls [.openCursor ⟨.nothing, .standard, true, true⟩],
    .calls [.cursor 0 (.summary (.caller "early")), .cursor 0 (.summary (.caller "kept"))],
    .calls [.tellSummary (.cursor 0) none none, .cancelPromise 1],
    .calls [.tellSummary (.cursor 0) none (some brokenLink),
      .tellSummary (.cursor 0) none none, .cursor 0 (.rollback .nobody),
      .cursor 0 (.summary (.caller "late"))],
    .job, .job, .job, .job, .job]

/-- Where the dispute leads, with its history. -/
def disputedPoint : List Move × Situation := Situation.acts 24 disputed ([], ⟨outsideEngine, []⟩)

theorem pristine_outsideEngine : outsideEngine.Pristine where
  cursors := rfl
  tasks := rfl
  iterations := rfl
  releases := by simp [outsideEngine, Engine.overStream]
  loop := rfl

theorem decided_disputed :
    Decided 0 0 disputedPoint.1 disputedPoint.2 ∧
      disputedPoint.2.agenda.isEmpty = true ∧ disputedPoint.2.engine.loop.ready.isEmpty = true ∧
      summaryPromises 0 disputedPoint.1 = [0, 2, 1] ∧
      (verdicts 0 disputedPoint.1).length = 2 ∧
      disputedPoint.2.engine.loop.isDone 2 = true := by
  have course : Course ⟨outsideEngine, []⟩ disputedPoint.1 disputedPoint.2 :=
    .of_acts rfl (by decide +kernel)
  have made : disputedPoint.2.engine.cursors[0]?.isSome = true := by decide +kernel
  obtain ⟨c, found⟩ := Option.isSome_iff_exists.1 made
  have outcome : disputedPoint.2.engine.cursors[0]?.map Cursor.outcome = some 0 := by
    decide +kernel
  have decided := course.decided pristine_outsideEngine found
  rw [found] at outcome
  rw [Option.some.inj outcome] at decided
  exact ⟨decided, by decide +kernel, by decide +kernel, by decide +kernel, by decide +kernel,
    by decide +kernel⟩

end QueryStream
