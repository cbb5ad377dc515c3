/-
  Proofs/Requests/Waiters.lean --- promises about the outcome of a cursor.

  Whoever asks a cursor for its summary, or has the stream brought to its end, is
  handed a promise.  That promise is settled, or a job that settles it waits for the
  outcome or is queued (`Followed`); and a promise that is not settled was handed out by
  a cursor that is consumed or whose outcome is resolved.

  None of this depends on the owner of the stream.  That the outcome is resolved at all
  does: `Attending` keeps it apart, for owners that throw nothing before (`Spares`).
-/
import QueryStream.Proofs.Requests.Outcome

set_option autoImplicit false

namespace QueryStream

/-- The promise that an instruction hands to a caller or to a task, if it does. -/
def Instruction.promised? : Instruction → Option PromiseId
  | .ask (.promise _ p) => some p
  | .await _ p => some p
  | _ => none

/-- The promises about an outcome that a move hands out. -/
def Move.handed : Move → List PromiseId
  | .carried (.relay _ _) r => r.next.filterMap Instruction.promised?
  | .carried (.reportFailure _ _) r => r.next.filterMap Instruction.promised?
  | .carried (.keep _ _) r => r.next.filterMap Instruction.promised?
  | _ => []

/-- The promises about an outcome that were handed out in a history. -/
def handedOut (h : List Move) : List PromiseId := h.flatMap Move.handed

/-- Whether a job settles a promise when an outcome is resolved. -/
def Job.settles (o p : PromiseId) (k : Job) : Prop := k = .relay o p ∨ k = .report 0 o p

/-- A promise is settled, or was handed out when nothing more was to be done for the
outcome, and a job that settles it waits for that or is queued. -/
def Follows (o : PromiseId) (e : Engine) (cursor : Cursor) (p : PromiseId) : Prop :=
  p < e.loop.promises.size ∧ (e.loop.isDone p = true ∨
    (cursor.isConsumed = true ∨ e.loop.isDone o = true) ∧
      ∃ k : Job, k.settles o p ∧ (e.loop.Watches o k ∨ k ∈ e.loop.ready))

/-- The promises handed out follow the outcome. -/
structure Followed (o : PromiseId) (h : List Move) (s : Situation) (cursor : Cursor) : Prop where
  sound : s.engine.loop.Sound
  follows : ∀ p ∈ handedOut h, Follows o s.engine cursor p

/-- What the owner of the stream throws comes only once the outcome is resolved. -/
def Spares (o : PromiseId) (h : List Move) : Prop :=
  ∀ later a r earlier, h = later ++ .answered a r :: earlier → a.isErrand = true →
    r.Calm ∨ ∃ st r', .carried (.settle o st) r' ∈ earlier

/-- What is known of a cursor and of the promises that it hands out.  What becomes of a stream
that is over depends on the owner, who may throw something while the outcome is open. -/
structure Attending (o : PromiseId) (h : List Move) (s : Situation) (cursor : Cursor) : Prop where
  served : Served o h s cursor
  promising : Promising o s cursor
  followed : Followed o h s cursor
  settled : ∀ st r, .carried (.settle o st) r ∈ h → s.engine.loop.isDone o = true
  outlook : Spares o h → s.engine.loop.isDone o = true ∨ Outlook o s.engine s.agenda

section Steps

variable {c : Conduct} {o p : PromiseId} {h : List Move} {s s' : Situation} {m : Move}
  {cursor next : Cursor}

/-- A job that follows a resolved outcome settles the promise it is about. -/
theorem Engine.isDone_runJob {e : Engine} {k : Job} (settles : k.settles o p)
    (done : e.loop.isDone o = true) (created : p < e.loop.promises.size)
    (found : e.cursors[0]? = some cursor) : (e.runJob k).1.loop.isDone p = true := by
  obtain ⟨st, hst⟩ := Option.isSome_iff_exists.1 done
  rcases settles with rfl | rfl
  · simp only [runJob, relaySettlement, hst, withLoop]
    exact Loop.isDone_settle created st
  · simp only [runJob, reportSettlement, hst, found, withLoop]
    cases st <;> exact Loop.isDone_settle created _

theorem Engine.waits_forget {e : Engine} {k : Job} (source target : PromiseId)
    (settles : k.settles o p) (other : ¬ (o = source ∧ p = target))
    (waits : e.loop.Watches o k ∨ k ∈ e.loop.ready) :
    (e.forget source target).loop.Watches o k ∨ k ∈ (e.forget source target).loop.ready := by
  have stays : (k == Job.relay source target) = false := by
    rcases settles with rfl | rfl
    · simpa using other
    · rfl
  unfold forget
  split
  · exact waits
  · refine waits.imp (fun hw => Loop.watches_unwatch hw stays) fun hk => ?_
    simp only [withLoop, Loop.unwatch]
    split <;> exact hk

theorem Engine.follows_runJob {e : Engine} {j k : Job} {loop : EngineLoop}
    (sound : e.loop.Sound) (found : e.loop.next? = some (j, loop)) (settles : k.settles o p)
    (waits : e.loop.Watches o k ∨ k ∈ e.loop.ready) (created : p < e.loop.promises.size)
    (cursor : e.cursors[0]? = some cursor) :
    ({ e with loop }.runJob j).1.loop.isDone p = true ∨
      ({ e with loop }.runJob j).1.loop.Watches o k ∨
      k ∈ ({ e with loop }.runJob j).1.loop.ready := by
  obtain ⟨_, hj, hpromises, hready⟩ := sound.of_next? found
  have hdone : ∀ q, e.loop.isDone q = true → loop.isDone q = true := by
    intro q hq
    simpa [Loop.isDone, Loop.settlement?, hpromises] using hq
  have hwaits : k = j ∨ loop.Watches o k ∨ k ∈ loop.ready := by
    rcases waits with ⟨watchers, hw, hk⟩ | hk
    · exact .inr (.inl ⟨watchers, by rw [hpromises]; exact hw, hk⟩)
    · exact (hready k hk).imp_right .inr
  rcases hwaits with rfl | hwaits
  · have hsource : k.source? = some o := by rcases settles with rfl | rfl <;> rfl
    have done := hdone o (sound.queued hj o hsource)
    have hcreated : p < loop.promises.size := by rwa [hpromises]
    exact .inl (isDone_runJob (e := { e with loop }) settles done hcreated cursor)
  · have began := Engine.began_runJob { e with loop } j
    by_cases unrelay : ∃ source target, j = .unrelay source target
    · obtain ⟨source, target, rfl⟩ := unrelay
      by_cases same : o = source ∧ p = target
      · obtain ⟨rfl, rfl⟩ := same
        obtain ⟨st, hst⟩ := Option.isSome_iff_exists.1 (hdone p (sound.queued hj p rfl))
        exact .inl (by simp [Loop.isDone, began.settled hst])
      · exact .inr (waits_forget (e := { e with loop }) source target settles same hwaits)
    · have evolves := began.loop fun source target heq => unrelay ⟨source, target, heq⟩
      exact .inr (evolves.watches hwaits)

theorem Follows.step (follows : Follows o s.engine cursor p) (sound : s.engine.loop.Sound)
    (step : Step s m s') (steady : ∀ i ∈ s.agenda, i.isStray = false)
    (cursors : s.engine.cursors = #[cursor])
    (consumed : cursor.isConsumed = true → next.isConsumed = true) :
    Follows o s'.engine next p := by
  obtain ⟨created, follows⟩ := follows
  have onward := step.onward steady
  refine ⟨Nat.lt_of_lt_of_le created onward.size_le, ?_⟩
  rcases follows with done | ⟨settled, k, settles, waits⟩
  · exact .inl (onward.isDone done)
  have settled' : next.isConsumed = true ∨ s'.engine.loop.isDone o = true :=
    settled.imp consumed onward.isDone
  cases step with
  | @carry e i rest own =>
      have evolves := e.evolves_exec (steady i (by simp))
      exact .inr ⟨settled', k, settles, evolves.watches waits⟩
  | answer r => exact .inr ⟨settled', k, settles, waits⟩
  | call body => exact .inr ⟨settled', k, settles, waits⟩
  | @begin e j loop found =>
      have hcursor : e.cursors[0]? = some cursor := by
        have hcursors : e.cursors = #[cursor] := cursors
        simp [hcursors]
      rcases Engine.follows_runJob sound found settles waits created hcursor with done | waits
      · exact .inl done
      · exact .inr ⟨settled', k, settles, waits⟩

/-! ## Handing out a promise -/

theorem eq_of_mem_hand {receiver : Receiver} {q : PromiseId}
    (hp : p ∈ (Engine.hand receiver q).filterMap Instruction.promised?) : p = q := by
  cases receiver with
  | nobody => simp [Engine.hand] at hp
  | _ => simpa [Engine.hand, Instruction.promised?] using hp

/-- A promise that is handed out when the outcome is not resolved waits for it. -/
theorem Engine.follows_relay {e : Engine} {receiver : Receiver}
    (found : e.cursors[0]? = some cursor) (outcome : cursor.outcome = o)
    (created : o < e.loop.promises.size)
    (settled : cursor.isConsumed = true ∨ e.loop.isDone o = true)
    (hp : p ∈ (e.relay 0 receiver).2.next.filterMap Instruction.promised?) :
    Follows o (e.relay 0 receiver).1 cursor p := by
  subst outcome
  cases done : e.isResolved cursor with
  | true =>
      have hrelay : e.relay 0 receiver = (e, .go (hand receiver cursor.outcome)) := by
        simp [relay, found, done, goOn]
      rw [hrelay] at hp ⊢
      obtain rfl := eq_of_mem_hand hp
      exact ⟨created, .inl done⟩
  | false =>
      have hrelay : e.relay 0 receiver = ({ e with
          loop := (e.loop.create.watch cursor.outcome (.relay cursor.outcome e.loop.nextId)).watch
            e.loop.nextId (.unrelay cursor.outcome e.loop.nextId) },
          .go (hand receiver e.loop.nextId)) := by
        simp [relay, found, done]
      rw [hrelay] at hp ⊢
      obtain rfl := eq_of_mem_hand hp
      have hcreated : cursor.outcome < e.loop.create.promises.size := by
        rw [Loop.create, Array.size_push]
        exact Nat.lt_succ_of_lt created
      have evolves : (e.loop.create.watch cursor.outcome
          (.relay cursor.outcome e.loop.nextId)).Evolves _ :=
        .watch e.loop.nextId (k := .unrelay cursor.outcome e.loop.nextId)
          (by simp [Job.source?]) .refl
      have waits := evolves.watches (Loop.watches_watch hcreated _)
      refine ⟨?_, .inr ⟨?_, _, .inl rfl, waits⟩⟩
      · simp [Loop.size_watch, Loop.create, Loop.nextId]
      · exact settled.imp_right fun hdone => by simp [isResolved, hdone] at done

/-- A promise of a failure nobody was told of waits for the outcome. -/
theorem Engine.follows_reportFailure {e : Engine} {receiver : Receiver}
    (found : e.cursors[0]? = some cursor) (outcome : cursor.outcome = o)
    (created : o < e.loop.promises.size)
    (settled : cursor.isConsumed = true ∨ e.loop.isDone o = true)
    (hp : p ∈ (e.reportFailure 0 receiver).2.next.filterMap Instruction.promised?) :
    Follows o (e.reportFailure 0 receiver).1 cursor p := by
  subst outcome
  have hreport : e.reportFailure 0 receiver = ({ e with
      loop := e.loop.create.watch cursor.outcome (.report 0 cursor.outcome e.loop.nextId) },
      .go (hand receiver e.loop.nextId)) := by
    simp [reportFailure, found]
  rw [hreport] at hp ⊢
  obtain rfl := eq_of_mem_hand hp
  have hcreated : cursor.outcome < e.loop.create.promises.size := by
    rw [Loop.create, Array.size_push]
    exact Nat.lt_succ_of_lt created
  have evolves : e.loop.Evolves
      (e.loop.create.watch cursor.outcome (.report 0 cursor.outcome e.loop.nextId)) :=
    (Loop.Evolves.create .refl).watch _ (by simp [Job.source?])
  refine ⟨?_, .inr ⟨settled.imp_right evolves.isDone, _, .inr rfl,
    Loop.watches_watch hcreated _⟩⟩
  simp [Loop.size_watch, Loop.create, Loop.nextId]

/-- What is handed out follows the outcome. -/
theorem follows_of_handed (promising : Promising o s cursor) (served : Served o h s cursor)
    (step : Step s m s') (consumed : cursor.isConsumed = true → next.isConsumed = true)
    (hp : p ∈ m.handed) : Follows o s'.engine next p := by
  have weaken : ∀ {e : Engine}, Follows o e cursor p → Follows o e next p :=
    fun ⟨created, follows⟩ => ⟨created, follows.imp_right fun ⟨settled, k, hk⟩ =>
      ⟨settled.imp_left consumed, k, hk⟩⟩
  have found : s.engine.cursors[0]? = some cursor := by simp [served.cursors]
  have absent : ∀ id, s.engine.cursors[id + 1]? = none := by simp [served.cursors]
  have settled : ∀ {i : Instruction} {rest : List Instruction}, s.agenda = i :: rest →
      i.handsOut = true → cursor.isConsumed = true ∨ s.engine.loop.isDone o = true := by
    intro i rest hagenda hands
    rcases promising.handed with consumed | done | led
    · exact .inl consumed
    · exact .inr done
    · rw [hagenda] at led
      obtain ⟨j, hj, _⟩ := led.1 hands
      cases hj
  cases m with
  | carried i r =>
      obtain ⟨rest, hagenda⟩ := step.head_of_carried
      have hexec := step.exec_of_carried
      cases i with
      | relay id receiver =>
          cases id with
          | zero =>
              have follows : p ∈ (s.engine.relay 0 receiver).2.next.filterMap
                  Instruction.promised? → Follows o (s.engine.relay 0 receiver).1 cursor p :=
                Engine.follows_relay found served.outcome_eq promising.created
                  (settled hagenda rfl)
              simp only [Engine.exec] at hexec
              rw [hexec] at follows
              exact weaken (follows hp)
          | succ id =>
              simp only [Engine.exec, Engine.relay, absent, Engine.goOn] at hexec
              cases (Prod.mk.inj hexec).2
              simp [Move.handed] at hp
      | reportFailure id receiver =>
          cases id with
          | zero =>
              have follows :
                  p ∈ (s.engine.reportFailure 0 receiver).2.next.filterMap Instruction.promised? →
                    Follows o (s.engine.reportFailure 0 receiver).1 cursor p :=
                Engine.follows_reportFailure found served.outcome_eq promising.created
                  (settled hagenda rfl)
              simp only [Engine.exec] at hexec
              rw [hexec] at follows
              exact weaken (follows hp)
          | succ id =>
              simp only [Engine.exec, Engine.reportFailure, absent, Engine.goOn] at hexec
              cases (Prod.mk.inj hexec).2
              simp [Move.handed] at hp
      | keep receiver d =>
          simp only [Engine.exec, Engine.keep] at hexec
          obtain ⟨hengine, hreply⟩ := Prod.mk.inj hexec
          rw [← hengine]
          subst hreply
          obtain rfl := eq_of_mem_hand hp
          refine ⟨by simp [Loop.createSettled, Loop.nextId], .inl ?_⟩
          simp [Loop.isDone, Loop.createSettled, Loop.settlement?_push, Loop.nextId]
      | _ => simp [Move.handed] at hp
  | _ => simp [Move.handed] at hp

theorem Followed.step (followed : Followed o h s cursor) (promising : Promising o s cursor)
    (served : Served o h s cursor) (step : Step s m s') (permitted : c.Permits h m)
    (hnext : s'.engine.cursors = #[next]) : Followed o (m :: h) s' next := by
  have consumed : cursor.isConsumed = true → next.isConsumed = true := by
    rcases served.cursor_or_eq step permitted hnext with ⟨a, rest, effects, taken⟩ | rfl
    · exact taken.steps.isConsumed.1
    · exact fun h => h
  refine ⟨followed.sound.step step promising.steady, fun p hp => ?_⟩
  rcases List.mem_append.1 hp with hp | hp
  · exact follows_of_handed promising served step consumed hp
  · exact (followed.follows p hp).step followed.sound step promising.steady served.cursors consumed

/-! ## Owners that throw -/

theorem Spares.of_cons (spares : Spares o (m :: h)) : Spares o h := by
  rintro later a r earlier rfl
  exact spares (m :: later) a r earlier rfl

theorem spares_of_calmly (calm : Calmly (fun a => a.isErrand = true) h) : Spares o h := by
  rintro later a r earlier rfl errand
  exact .inl (calm a r (by simp) errand)

/-- What the owner is asked while the outcome is open is answered without anything thrown. -/
theorem Spares.calm (spares : Spares o (m :: h)) (attending : Attending o h s cursor)
    (pending : ¬ s.engine.loop.isDone o = true) {a : Ask} {r : Reply} (hm : m = .answered a r)
    (errand : a.isErrand = true) : r.Calm := by
  subst hm
  rcases spares [] a r h rfl errand with calm | ⟨st, r', settled⟩
  · exact calm
  · exact absurd (attending.settled st r' settled) pending

/-- A cursor keeps what it owes, unless the owner throws something while the outcome is open. -/
theorem Attending.step (attending : Attending o h s cursor) (serves : c.Serves)
    (step : Step s m s') (permitted : c.Permits h m) : ∃ next, Attending o (m :: h) s' next := by
  obtain ⟨served, promising, followed, settled, outlook⟩ := id attending
  obtain ⟨next, served'⟩ := served.step serves step permitted
  have onward := step.onward promising.steady
  refine ⟨next, served', promising.step served step permitted served'.cursors,
    followed.step promising served step permitted served'.cursors, fun st r mem => ?_,
    fun spares => ?_⟩
  · rcases List.mem_cons.1 mem with rfl | earlier
    · obtain ⟨rest, agenda⟩ := step.head_of_carried
      exact step.isDone_of_settle agenda promising.created
    · exact onward.isDone (settled st r earlier)
  -- What the owner throws once the outcome is resolved keeps nobody waiting; before that, this move
  -- is one of surroundings that let nothing be thrown.
  · by_cases done : s.engine.loop.isDone o = true
    · exact .inl (onward.isDone done)
    · have calm : ∀ a r, m = .answered a r → a.isErrand = true → r.Calm :=
        fun a r hm errand => spares.calm attending done hm errand
      have pledged : Pledged o s cursor :=
        ⟨promising, (outlook spares.of_cons).resolve_left done⟩
      exact .inr (outlook_step pledged served (serves.taming _) c.errands_taming step
        (permitted.taming calm))

/-- Every run from where nothing was asked has one cursor, which keeps what it owes. -/
theorem Run.attending {e : Engine} (begun : e.Begun o) (serves : c.Serves)
    (run : Run c ⟨e, []⟩ h s) : ∃ cursor, Attending o h s cursor := by
  refine run.invariant (I := fun h s => ∃ cursor, Attending o h s cursor) ?_ ?_
  · obtain ⟨cursor, served⟩ := Run.served begun serves .nil
    have pledged := pledged_of_begun begun served.cursors
    exact ⟨cursor, served, pledged.toPromising, ⟨begun.sound, by simp [handedOut]⟩, by simp,
      fun _ => .inr pledged.outlook⟩
  · rintro h s s' m ⟨cursor, attending⟩ step permitted
    exact attending.step serves step permitted

end Steps

end QueryStream
