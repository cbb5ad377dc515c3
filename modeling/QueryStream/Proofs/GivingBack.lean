/-
  Proofs/GivingBack.lean --- a connection is given back once, and when.

  A session shares one release with the cursors over its stream, whatever they are made with
  (`Engine.Shares`).  It is invoked when the stream is over, when a cursor is rolled back, and
  when outside code calls it; and once that is so, nothing else can come before it is invoked
  and its promise handed out (`Owes`).  The connection begins to be given back by the first
  invocation, which leaves the promise that all later ones hand out (`Giving`).

  The queries of a transaction have no release of their own, so nothing gives the connection
  back unless a cursor is made with a release that does (`Barren`).
-/
import QueryStream.Proofs.Engine.Offering
import QueryStream.Proofs.Engine.Releases

set_option autoImplicit false

namespace QueryStream

/-! ## What is seen of a release -/

/-- Whether a move has the connection begin to be given back. -/
def Move.givesBack : Move → Bool
  | .answered .release _ => true
  | _ => false

/-- How often the connection began to be given back in a history. -/
def timesGivenBack (h : List Move) : Nat := h.countP Move.givesBack

/-- Who gets the promise of a cursor that a move rolls back; where there is no cursor, nothing
comes of it. -/
def Move.rollback? : Move → Option Receiver
  | .carried (.cursor _ (.rollback receiver)) r => if r.next.isEmpty then none else some receiver
  | _ => none

/-- Who gets the promise of the release that a move invokes. -/
def Move.invocation? : Move → Option Receiver
  | .carried (.release 0 receiver) _ => some receiver
  | _ => none

/-- The promise that a release hands out by a move, and to whom. -/
def Move.releasePromise? : Move → Option (Receiver × PromiseId)
  | .carried (.hand receiver p) _ => some (receiver, p)
  | _ => none

/-- Whether an instruction is a call of the release. -/
def Instruction.callsRelease : Instruction → Bool
  | .release 0 _ => true
  | _ => false

/-- Who was to get promises of cursors that were rolled back. -/
def rollbacks (h : List Move) : List Receiver := h.filterMap Move.rollback?

theorem rollbacks_cons_ne_nil {h : List Move} (m : Move) (rolledBack : rollbacks h ≠ []) :
    rollbacks (m :: h) ≠ [] :=
  ((List.suffix_cons m h).filterMap Move.rollback?).ne_nil rolledBack

/-- Who was to get promises of the release. -/
def invocations (h : List Move) : List Receiver := h.filterMap Move.invocation?

/-- The promises that the release handed out, and to whom. -/
def releasePromises (h : List Move) : List (Receiver × PromiseId) :=
  h.filterMap Move.releasePromise?

/-- Outside code has control: nothing is under way, or something is asked of it, if it is not
to give the connection back. -/
def Situation.IsOutside (s : Situation) : Prop :=
  s.agenda = [] ∨ ∃ a rest, s.agenda = .ask a :: rest ∧ a.isNotice = false ∧ a ≠ .release

/-- The stream is over, a cursor was rolled back, or outside code called the release. -/
def Occasion (h : List Move) (s : Situation) : Prop :=
  s.engine.stream.phase.isTerminal = true ∨ rollbacks h ≠ [] ∨
    ∃ m ∈ h, m.outside.any Instruction.callsRelease = true

/-- Giving the connection back begins at once: nothing is thrown, and nobody calls in. -/
def Conduct.Returns (c : Conduct) : Prop :=
  ∀ h r, c.keeps h (.answered .release r) → r = .go []

/-! ## Sharing the release -/

/-- The owner of the stream and all its cursors share the release of the channel. -/
structure Engine.Shares (e : Engine) : Prop where
  owner : e.owner = .session 0
  channel : e.channelRelease = some 0
  cursors : ∀ (id : CursorId) (cursor : Cursor), e.cursors[id]? = some cursor → cursor.release = 0

section Sharing

variable {c : Conduct} {h : List Move} {s s' : Situation} {m : Move}

theorem Cursor.Steps.release_eq {done : Bool} {c c' : Cursor} {a : Cursor.Action}
    {effects : List Cursor.Effect} (steps : Cursor.Steps done c a c' effects) :
    c'.release = c.release := by
  cases steps <;> rfl

/-- Whatever a cursor over a channel with a release is made with, no release is made, and the
cursor has that of the channel. -/
theorem Engine.openCursor_of_channel {e : Engine} {r : ReleaseId}
    (channel : e.channelRelease = some r) (plan : CursorPlan) :
    (e.exec (.openCursor plan)).1.releases = e.releases ∧
      ∀ (id : CursorId) (cursor : Cursor),
        (e.exec (.openCursor plan)).1.cursors[id]? = some cursor →
          e.cursors[id]? = some cursor ∨ cursor.release = r := by
  simp only [exec, openCursor]
  split
  · exact ⟨rfl, fun _ _ found => .inl found⟩
  · split
    · exact ⟨rfl, fun _ _ found => .inl found⟩
    · rename_i chosen
      obtain ⟨rfl, rfl⟩ := chooseRelease_of_channel channel chosen
      refine ⟨rfl, fun id cursor found => ?_⟩
      simp only [Array.getElem?_push] at found
      split at found
      · exact .inr (Option.some.inj found ▸ rfl)
      · exact .inl found

theorem Engine.release_exec {e : Engine} {i : Instruction} (shares : e.Shares) {id : CursorId}
    {cursor : Cursor} (found : (e.exec i).1.cursors[id]? = some cursor) : cursor.release = 0 := by
  cases changes : i.changesCursors with
  | false =>
      cases stream : i.isStream with
      | false =>
          rw [(e.keeps_exec stream).cursors changes] at found
          exact shares.cursors id cursor found
      | true =>
          cases i with
          | stream a =>
              simp only [exec, stepStream] at found
              split at found <;> exact shares.cursors id cursor found
          | _ => cases stream
  | true =>
      cases i with
      | cursor id' a =>
          simp only [exec, stepCursor] at found
          split at found
          · exact shares.cursors id cursor found
          · rename_i former there
            split at found
            · rename_i accepted
              have kept := (Cursor.steps_of_step accepted).release_eq
              simp only [Array.getElem?_setIfInBounds] at found
              split at found
              · split at found
                · rw [← Option.some.inj found, kept]
                  exact shares.cursors id' former there
                · cases found
              · exact shares.cursors id cursor found
            · exact shares.cursors id cursor found
      | openCursor plan =>
          rcases (openCursor_of_channel shares.channel plan).2 id cursor found with found | release
          · exact shares.cursors id cursor found
          · exact release
      | _ => cases changes

theorem Engine.Shares.step (shares : s.engine.Shares) (step : Step s m s') :
    s'.engine.Shares := by
  refine ⟨step.bookmark.1.trans shares.owner, ?_, fun id cursor found => ?_⟩
  · cases step with
    | carry own => exact (Engine.channelRelease_exec _).trans shares.channel
    | begin next => exact (Engine.holding_runJob _).channel.trans shares.channel
    | _ => exact shares.channel
  · cases step with
    | carry own => exact Engine.release_exec shares found
    | begin next =>
        rw [(Engine.began_runJob _ _).cursors] at found
        exact shares.cursors id cursor found
    | _ => exact shares.cursors id cursor found

end Sharing

/-! ## What belongs to giving back -/

namespace Instruction

/-- Whether an instruction is what an invocation of a release leads to. -/
def isGiving : Instruction → Bool
  | .startRelease _ _ => true
  | .hand _ _ => true
  | .ask .release => true
  | _ => false

/-- Whether an instruction invokes the release, or tells the owner of the end of the stream. -/
def invokes : Instruction → Bool
  | .ownerSucceeded _ => true
  | .ownerFailed _ => true
  | .release 0 _ => true
  | _ => false

variable {i : Instruction}

theorem isGiving_of_givesBack (apart : i.givesBack = false) : i.isGiving = false := by
  cases i with
  | ask a => cases a <;> first | rfl | cases apart
  | _ => first | rfl | cases apart

theorem invokes_of_givesBack (apart : i.givesBack = false) : i.invokes = false := by
  cases i with
  | release r receiver => cases apart
  | _ => first | rfl | cases apart

theorem isGiving_of_isCall (call : i.isCall = true) : i.isGiving = false := by
  cases i with
  | ask a => cases a <;> first | rfl | cases call
  | _ => first | rfl | cases call

theorem callsRelease_of_isCall (call : i.isCall = true) (invokes : i.invokes = true) :
    i.callsRelease = true := by
  cases i with
  | release r receiver => cases r <;> first | rfl | cases invokes
  | ownerSucceeded _ | ownerFailed _ => cases call
  | _ => cases invokes

end Instruction

section Giving

variable {c : Conduct} {e : Engine} {h : List Move} {s s' : Situation} {m : Move}
  {i j : Instruction}

theorem Engine.isGiving_exec (released : ∀ r receiver, i ≠ .release r receiver)
    (started : ∀ r receiver, i ≠ .startRelease r receiver) (mem : j ∈ (e.exec i).2.next) :
    j.isGiving = false := by
  cases leads_exec mem with
  | releases r receiver | released r receiver | startRelease r receiver =>
      exact absurd rfl (released r receiver)
  | releasing r receiver => exact absurd rfl (started r receiver)
  | @stream _ _ _ effect => cases effect <;> rfl
  | @cursor _ _ _ _ _ effect => cases effect <;> rfl
  | iteration found effects among | left th found effects among =>
      cases puts_of_mem among <;> rfl
  | hand p receives among => cases hands_of_mem among <;> rfl
  | body among => cases setsOut_of_mem among <;> rfl
  | exhausted among =>
      obtain ⟨d, rfl⟩ := finish_of_mem_exhausted among
      rfl
  | _ => rfl

/-- The release is invoked by the owner, once it is told of the end, and by what is rolled
back. -/
theorem Engine.invokes_exec (mem : j ∈ (e.exec i).2.next) (invokes : j.invokes = true) :
    i.invokes = true ∨ (∃ a, i = .stream a) ∨
      ∃ id receiver, i = .cursor id (.rollback receiver) := by
  cases leads_exec mem with
  | @stream a => exact .inr (.inl ⟨a, rfl⟩)
  | @cursor id a _ _ _ _ found accepted yields =>
      cases (Cursor.steps_of_step accepted).yields yields with
      | release => exact .inr (.inr ⟨id, _, rfl⟩)
      | _ => cases invokes
  | ownerSucceeded | ownerFailed | terminate => exact .inl rfl
  | iteration found effects among | left th found effects among =>
      cases puts_of_mem among <;> cases invokes
  | hand p receives among => cases hands_of_mem among <;> cases invokes
  | body among => cases setsOut_of_mem among <;> cases invokes
  | exhausted among =>
      obtain ⟨d, rfl⟩ := finish_of_mem_exhausted among
      cases invokes
  | _ => cases invokes

end Giving

/-! ## The connection begins to be given back -/

/-- What is left on an agenda of the first invocation of a release, after how often the
connection began to be given back. -/
inductive Starts (receiver : Receiver) (rest : List Instruction) : Nat → List Instruction → Prop
  | line (line : Log.Line) : Starts receiver rest 0
      (.ask (.log line) :: .ask .release :: .startRelease 0 receiver :: rest)
  | ask : Starts receiver rest 0 (.ask .release :: .startRelease 0 receiver :: rest)
  | start : Starts receiver rest 1 (.startRelease 0 receiver :: rest)

/-- The one release was not invoked, or its promise is there; `holds` tells whether it has a
connection to give back. -/
structure Resting (holds : Bool) (promise : Option PromiseId) (h : List Move)
    (releases : Array Release) (agenda : List Instruction) : Prop where
  releases : releases = #[⟨holds, promise⟩]
  count : timesGivenBack h = if holds && promise.isSome then 1 else 0
  clear : ∀ i ∈ agenda, i.isGiving = true → ∃ receiver p, i = .hand receiver p ∧ promise = some p
  handed : ∀ handed ∈ releasePromises h, promise = some handed.2
  invoked : promise.isSome = true ↔ invocations h ≠ []

/-- Where the one release stands. -/
inductive Giving (holds : Bool) (h : List Move) (s : Situation) : Prop
  | resting (promise : Option PromiseId)
      (resting : Resting holds promise h s.engine.releases s.agenda) : Giving holds h s
  /-- it was invoked, and its promise is made next -/
  | starting (receiver : Receiver) (rest : List Instruction) (connected : holds = true)
      (starts : Starts receiver rest (timesGivenBack h) s.agenda)
      (releases : s.engine.releases = #[⟨true, none⟩])
      (clear : ∀ i ∈ rest, i.isGiving = false) (handed : releasePromises h = [])
      (invoked : invocations h ≠ []) : Giving holds h s

section Steps

variable {c : Conduct} {h : List Move} {s s' : Situation} {m : Move} {holds : Bool}

theorem timesGivenBack_of_other (other : m.givesBack = false) :
    timesGivenBack (m :: h) = timesGivenBack h := by
  simp [timesGivenBack, other]

theorem releasePromises_of_other (other : m.releasePromise? = none) :
    releasePromises (m :: h) = releasePromises h := by
  simp [releasePromises, other]

theorem invocations_of_other (other : m.invocation? = none) :
    invocations (m :: h) = invocations h := by
  simp [invocations, other]

theorem Conduct.Answers.isGiving {a : Ask} {r : Reply} (answers : c.Answers a r) :
    ∀ j ∈ r.next, j.isGiving = false := by
  intro j mem
  cases answers with
  | calls _ made _ => exact Instruction.isGiving_of_isCall (made j mem).1
  | released t | unending t => exact List.mem_singleton.1 mem ▸ rfl
  | _ => cases mem

theorem Engine.releases_exec {e : Engine} {i : Instruction} {r : ReleaseId}
    (channel : e.channelRelease = some r) (released : ∀ r receiver, i ≠ .release r receiver)
    (started : ∀ r receiver, i ≠ .startRelease r receiver) :
    (e.exec i).1.releases = e.releases := by
  cases changes : i.changesReleases with
  | false => exact (holding_exec changes).releases
  | true =>
      cases i with
      | release r receiver => exact absurd rfl (released r receiver)
      | startRelease r receiver => exact absurd rfl (started r receiver)
      | openCursor plan => exact (openCursor_of_channel channel plan).1
      | _ => cases changes

theorem Resting.of_other {promise : Option PromiseId} {releases releases' : Array Release}
    {agenda agenda' : List Instruction} (resting : Resting holds promise h releases agenda)
    (kept : releases' = releases) (count : m.givesBack = false)
    (clear : ∀ i ∈ agenda', i ∈ agenda ∨ i.isGiving = false)
    (handed : ∀ given, m.releasePromise? = some given → promise = some given.2)
    (invoked : m.invocation? = none) : Resting holds promise (m :: h) releases' agenda' where
  releases := kept.trans resting.releases
  count := (timesGivenBack_of_other count).trans resting.count
  clear i mem giving := by
    rcases clear i mem with mem | none
    · exact resting.clear i mem giving
    · simp [none] at giving
  handed given mem := by
    cases told : m.releasePromise? with
    | none =>
        rw [releasePromises_of_other told] at mem
        exact resting.handed given mem
    | some given' =>
        simp only [releasePromises, List.filterMap_cons, told, List.mem_cons] at mem
        rcases mem with rfl | mem
        · exact handed _ told
        · exact resting.handed given mem
  invoked := by rw [invocations_of_other invoked, resting.invoked]

section Invoked

variable {receiver : Receiver} {rest : List Instruction} {releases : Array Release}
  {reply : Reply}

theorem invocations_of_release :
    invocations (.carried (.release 0 receiver) reply :: h) ≠ [] := by
  simp [invocations, Move.invocation?]

/-- What was invoked before hands out the promise that is there. -/
theorem Resting.reused {p : PromiseId} (line : Log.Line)
    (resting : Resting holds (some p) h releases (.release 0 receiver :: rest)) :
    Resting holds (some p) (.carried (.release 0 receiver) reply :: h) releases
      (.ask (.log line) :: .hand receiver p :: rest) where
  releases := resting.releases
  count := (timesGivenBack_of_other rfl).trans resting.count
  clear i mem giving := by
    rcases List.mem_cons.1 mem with rfl | mem
    · cases giving
    · rcases List.mem_cons.1 mem with rfl | mem
      · exact ⟨receiver, p, rfl, rfl⟩
      · exact resting.clear i (List.mem_cons_of_mem _ mem) giving
  handed := by
    rw [releasePromises_of_other rfl]
    exact resting.handed
  invoked := by simp [invocations_of_release]

theorem Resting.cold (resting : Resting holds none h releases (.release 0 receiver :: rest)) :
    (∀ i ∈ rest, i.isGiving = false) ∧ releasePromises h = [] := by
  constructor
  · intro i mem
    cases giving : i.isGiving with
    | false => rfl
    | true =>
        obtain ⟨_, _, _, made⟩ := resting.clear i (List.mem_cons_of_mem _ mem) giving
        cases made
  · rw [List.eq_nil_iff_forall_not_mem]
    intro given mem
    cases resting.handed given mem

/-- Where there is nothing to give back, the promise is there at once. -/
theorem Resting.made (resting : Resting false none h releases (.release 0 receiver :: rest))
    (p : PromiseId) : Resting false (some p) (.carried (.release 0 receiver) reply :: h)
      #[⟨false, some p⟩] (.hand receiver p :: rest) where
  releases := rfl
  count := (timesGivenBack_of_other rfl).trans resting.count
  clear i mem giving := by
    rcases List.mem_cons.1 mem with rfl | mem
    · exact ⟨receiver, p, rfl, rfl⟩
    · simp [resting.cold.1 i mem] at giving
  handed := by
    rw [releasePromises_of_other rfl, resting.cold.2]
    simp
  invoked := by simp [invocations_of_release]

end Invoked

/-- An invocation of a release begins to give the connection back, or hands out the promise
that is there. -/
theorem giving_of_release {e : Engine} {r : ReleaseId} {receiver : Receiver}
    {rest : List Instruction} {promise : Option PromiseId}
    (resting : Resting holds promise h e.releases (.release r receiver :: rest)) :
    Giving holds (.carried (.release r receiver) (e.exec (.release r receiver)).2 :: h)
      ⟨(e.exec (.release r receiver)).1, (e.exec (.release r receiver)).2.onto rest⟩ := by
  have releases := resting.releases
  obtain ⟨e', next, exec, invokes⟩ := e.exec_release r receiver
  rw [exec]
  cases invokes with
  | absent found =>
      cases r with
      | zero => simp [releases] at found
      | succ r =>
          exact .resting promise (resting.of_other rfl rfl
            (fun i mem => .inl (List.mem_cons_of_mem _ mem)) (by simp [Move.releasePromise?]) rfl)
  | reused found there =>
      rw [releases] at found
      obtain ⟨rfl, rfl⟩ := eq_of_getElem?_singleton found
      obtain rfl : promise = some _ := there
      exact .resting _ (resting.reused _)
  | made found =>
      rw [releases] at found
      obtain ⟨rfl, same⟩ := eq_of_getElem?_singleton found
      cases same
      simp only [releases, List.setIfInBounds_toArray, List.set_cons_zero]
      exact .resting _ (resting.made _)
  | called found =>
      have there := found
      rw [releases] at found
      obtain ⟨rfl, same⟩ := eq_of_getElem?_singleton found
      cases same
      refine .starting receiver rest rfl ?_ releases resting.cold.1 ?_ invocations_of_release
      · rw [timesGivenBack_of_other rfl, resting.count]
        exact .line _
      · rw [releasePromises_of_other rfl]
        exact resting.cold.2

theorem giving_of_other {promise : Option PromiseId} (shares : s.engine.Shares)
    (resting : Resting holds promise h s.engine.releases s.agenda)
    (uninvoked : ∀ r receiver rest, s.agenda ≠ .release r receiver :: rest) (step : Step s m s')
    (permitted : c.Permits h m) : Resting holds promise (m :: h) s'.engine.releases s'.agenda := by
  cases step with
  | @carry e i rest own =>
      have released : ∀ r receiver, i ≠ .release r receiver := by
        rintro r receiver rfl
        exact uninvoked r receiver rest rfl
      have started : ∀ r receiver, i ≠ .startRelease r receiver := by
        rintro r receiver rfl
        obtain ⟨_, _, other, _⟩ := resting.clear (.startRelease r receiver) (by simp) rfl
        cases other
      refine resting.of_other (Engine.releases_exec shares.channel released started) rfl
        (fun j mem => ?_) (fun given told => ?_) ?_
      · rcases Reply.mem_onto mem with mem | mem | ⟨g, th, rfl⟩
        · exact .inl (List.mem_cons_of_mem _ mem)
        · exact .inr (Engine.isGiving_exec released started mem)
        · exact .inr rfl
      · unfold Move.releasePromise? at told
        split at told
        · rename_i receiver p _ heq
          obtain rfl := (Move.carried.inj heq).1
          cases told
          obtain ⟨_, _, same, made⟩ := resting.clear (.hand receiver p) (by simp) rfl
          cases same
          exact made
        · cases told
      · unfold Move.invocation?
        split
        · rename_i heq
          exact absurd (Move.carried.inj heq).1 (released _ _)
        · rfl
  | @answer e a rest r =>
      have answers : c.Answers a r := permitted.2
      refine resting.of_other rfl ?_ (fun j mem => ?_) (by simp [Move.releasePromise?]) rfl
      · unfold Move.givesBack
        split
        · rename_i heq
          obtain rfl := (Move.answered.inj heq).1
          obtain ⟨_, _, other, _⟩ := resting.clear (.ask .release) (by simp) rfl
          cases other
        · rfl
      · rcases Reply.mem_onto mem with mem | mem | ⟨g, th, rfl⟩
        · exact .inl (List.mem_cons_of_mem _ mem)
        · exact .inr (answers.isGiving j mem)
        · exact .inr rfl
  | @begin e j loop next =>
      exact resting.of_other (Engine.holding_runJob j).releases rfl
        (fun i mem => .inr (Instruction.isGiving_of_givesBack (Engine.givesBack_runJob mem)))
        (by simp [Move.releasePromise?]) rfl
  | call next =>
      have made : ∀ i ∈ next, c.Calls i := permitted.2
      exact resting.of_other rfl rfl
        (fun i mem => .inr (Instruction.isGiving_of_isCall (made i mem).1))
        (by simp [Move.releasePromise?]) rfl

/-- The connection begins to be given back, and then the promise of the release is there. -/
theorem giving_of_starts {receiver : Receiver} {rest : List Instruction} (returns : c.Returns)
    (starts : Starts receiver rest (timesGivenBack h) s.agenda)
    (releases : s.engine.releases = #[⟨true, none⟩])
    (clear : ∀ i ∈ rest, i.isGiving = false) (handed : releasePromises h = [])
    (invoked : invocations h ≠ []) (step : Step s m s') (permitted : c.Permits h m) :
    Giving true (m :: h) s' := by
  generalize counted : timesGivenBack h = n at starts
  obtain ⟨e, agenda⟩ := s
  cases starts with
  | line line =>
      obtain ⟨rfl, rfl⟩ := step.of_notice permitted rfl rfl
      refine .starting receiver rest rfl ?_ releases clear ?_ ?_
      · rw [timesGivenBack_of_other rfl, counted]
        exact .ask
      · rwa [releasePromises_of_other rfl]
      · rwa [invocations_of_other rfl]
  | ask =>
      cases step with
      | carry own => cases own
      | answer r =>
          obtain rfl := returns h r permitted.1
          have begun : timesGivenBack (.answered .release (.go []) :: h) = 1 := by
            rw [timesGivenBack, List.countP_cons_of_pos rfl]
            exact congrArg (· + 1) counted
          refine .starting receiver rest rfl ?_ releases clear ?_ ?_
          · rw [begun]
            exact .start
          · rwa [releasePromises_of_other rfl]
          · rwa [invocations_of_other rfl]
  | start =>
      obtain ⟨rfl, rfl⟩ := step.exec_of_head rfl rfl
      refine .resting (some e.loop.nextId) ⟨?_, ?_, fun i mem giving => ?_, ?_, ?_⟩
      · have found : e.releases = #[⟨true, none⟩] := releases
        simp only [Engine.exec, Engine.startRelease, Engine.spawn, Engine.goOn, found]
        rfl
      · rw [timesGivenBack_of_other rfl, counted]
        rfl
      · simp only [Engine.exec, Engine.startRelease, Engine.goOn, Reply.onto_go, List.cons_append,
          List.nil_append, List.mem_cons] at mem
        rcases mem with rfl | mem
        · exact ⟨receiver, _, rfl, rfl⟩
        · simp [clear i mem] at giving
      · rw [releasePromises_of_other rfl, handed]
        simp
      · rw [invocations_of_other rfl]
        simp [invoked]

theorem Giving.step (giving : Giving holds h s) (shares : s.engine.Shares) (returns : c.Returns)
    (step : Step s m s') (permitted : c.Permits h m) : Giving holds (m :: h) s' := by
  cases giving with
  | resting promise resting =>
      by_cases released : ∃ r receiver rest, s.agenda = .release r receiver :: rest
      · obtain ⟨r, receiver, rest, head⟩ := released
        obtain ⟨rfl, rfl⟩ := step.exec_of_head head rfl
        rw [head] at resting
        exact giving_of_release resting
      · exact .resting promise (giving_of_other shares resting
          (fun r receiver rest head => released ⟨r, receiver, rest, head⟩) step permitted)
  | starting receiver rest connected starts releases clear handed invoked =>
      subst connected
      exact giving_of_starts returns starts releases clear handed invoked step permitted

end Steps

/-! ## Occasions -/

/-- The release is invoked on occasion only. -/
structure Occasioned (h : List Move) (s : Situation) : Prop where
  pending : ∀ i ∈ s.agenda, i.invokes = true → Occasion h s
  invoked : invocations h ≠ [] → Occasion h s

section Occasions

variable {c : Conduct} {h : List Move} {s s' : Situation} {m : Move}

theorem Occasion.step (occasion : Occasion h s) (step : Step s m s')
    (permitted : c.Permits h m) : Occasion (m :: h) s' := by
  rcases occasion with terminal | rolledBack | ⟨m', mem, called⟩
  · exact .inl (step.terminal permitted terminal)
  · exact .inr (.inl (rollbacks_cons_ne_nil m rolledBack))
  · exact .inr (.inr ⟨m', List.mem_cons_of_mem _ mem, called⟩)

/-- A stream has its owner told once it is over. -/
theorem Stream.Steps.terminal_of_invokes {x : Stream.Surroundings} {st st' : Stream}
    {a : Stream.Action} {effects : List Stream.Effect} {effect : Stream.Effect}
    (steps : Stream.Steps x st a st' effects) (mem : effect ∈ effects)
    (invokes : (Instruction.ofStream effect).invokes = true) : st'.phase.isTerminal = true := by
  have among : ∃ j ∈ effects.map Instruction.ofStream, j.invokes = true :=
    ⟨_, List.mem_map_of_mem mem, invokes⟩
  cases steps with
  | settleSucceeded line phase => simp [phase, Phase.isTerminal]
  | fail => rfl
  | conclude | concludeRefused | concludeFailure =>
      simp only [endEffects, List.map_append, List.mem_append, Option.mem_toList, List.mem_map,
        Option.map_eq_some_iff] at among
      obtain ⟨j, ⟨_, ⟨_, _, rfl⟩, rfl⟩ | ⟨_, ⟨_, _, rfl⟩, rfl⟩, invokes⟩ := among <;> cases invokes
  | announce =>
      simp only [List.mem_map, Option.mem_toList, Option.map_eq_some_iff] at among
      obtain ⟨j, ⟨_, ⟨_, _, rfl⟩, rfl⟩, invokes⟩ := among
      cases invokes
  | _ =>
      simp [Stream.pullEffects, Stream.discardEffects, Stream.debug, Instruction.ofStream,
        Instruction.invokes] at among

theorem Occasioned.step (occasioned : Occasioned h s) (step : Step s m s')
    (permitted : c.Permits h m) : Occasioned (m :: h) s' := by
  refine ⟨fun j mem invokes => ?_, fun invoked => ?_⟩
  · have lasting (i : Instruction) (hi : i ∈ s.agenda) (invokes : i.invokes = true) :
        Occasion (m :: h) s' := (occasioned.pending i hi invokes).step step permitted
    have called (calls : j ∈ m.outside) (call : j.isCall = true) : Occasion (m :: h) s' :=
      .inr (.inr ⟨m, by simp, List.any_eq_true.2
        ⟨j, calls, Instruction.callsRelease_of_isCall call invokes⟩⟩)
    cases step with
    | @carry e i rest own =>
        rcases Reply.mem_onto mem with mem | mem | ⟨g, th, rfl⟩
        · exact lasting j (List.mem_cons_of_mem _ mem) invokes
        · rcases Engine.invokes_exec mem invokes with former | ⟨a, rfl⟩ | ⟨id, receiver, rfl⟩
          · exact lasting i (by simp) former
          · refine .inl ?_
            simp only [Engine.exec, Engine.stepStream] at mem ⊢
            split at mem
            · rename_i accepted
              obtain ⟨effect, among, rfl⟩ := List.mem_map.1 mem
              exact (Stream.steps_of_step accepted).terminal_of_invokes among invokes
            · cases mem
          · refine .inr (.inl ?_)
            have some : (e.exec (.cursor id (.rollback receiver))).2.next ≠ [] :=
              List.ne_nil_of_mem mem
            simp [rollbacks, Move.rollback?, some]
        · cases invokes
    | answer r =>
        rcases Reply.mem_onto mem with mem | mem | ⟨g, th, rfl⟩
        · exact lasting j (List.mem_cons_of_mem _ mem) invokes
        · have answers : c.Answers _ r := permitted.2
          cases answers with
          | calls _ made _ => exact called mem (made j mem).1
          | released t | unending t =>
              rw [List.mem_singleton.1 mem] at invokes
              cases invokes
          | _ => cases mem
        · cases invokes
    | begin next =>
        rw [Instruction.invokes_of_givesBack (Engine.givesBack_runJob mem)] at invokes
        cases invokes
    | call next =>
        have made : ∀ i ∈ next, c.Calls i := permitted.2
        exact called mem (made j mem).1
  · cases told : m.invocation? with
    | none =>
        rw [invocations_of_other told] at invoked
        exact (occasioned.invoked invoked).step step permitted
    | some receiver =>
        unfold Move.invocation? at told
        split at told
        · obtain ⟨rest, head⟩ := step.head_of_carried
          exact (occasioned.pending _ (head ▸ List.mem_cons_self) rfl).step step permitted
        · cases told

end Occasions

/-! ## What cannot fail to come -/

/-- Nothing can come before a release is invoked for a receiver and its promise is handed
out. -/
inductive Owes (phase : Phase) (receiver : Receiver) : List Instruction → Prop
  | settle {before : Phase} {more : Bool} {metadata bookmark : Value} {rest : List Instruction}
      (succeeded : phase = .succeeded) (field : metadata.field "bookmark" = .ok bookmark)
      (nobody : receiver = .nobody) :
      Owes phase receiver (.stream (.settle before more metadata) :: rest)
  | line (line : Log.Line) {rest : List Instruction} (owes : Owes phase receiver rest) :
      Owes phase receiver (.ask (.log line) :: rest)
  | ownerSucceeded {metadata bookmark : Value} {rest : List Instruction}
      (field : metadata.field "bookmark" = .ok bookmark) (nobody : receiver = .nobody) :
      Owes phase receiver (.ownerSucceeded metadata :: rest)
  | ownerFailed (f : Failure) {rest : List Instruction} (nobody : receiver = .nobody) :
      Owes phase receiver (.ownerFailed f :: rest)
  | resolve (p : PromiseId) (st : Settlement Delivery Failure) {rest : List Instruction}
      (owes : Owes phase receiver rest) : Owes phase receiver (.settle p st :: rest)
  | mark (id : CursorId) {rest : List Instruction} (owes : Owes phase receiver rest) :
      Owes phase receiver (.cursor id .markConsumed :: rest)
  | release {rest : List Instruction} : Owes phase receiver (.release 0 receiver :: rest)
  | ask {rest : List Instruction} (owes : Owes phase receiver rest) :
      Owes phase receiver (.ask .release :: rest)
  | start {rest : List Instruction} : Owes phase receiver (.startRelease 0 receiver :: rest)
  | hand (p : PromiseId) {rest : List Instruction} : Owes phase receiver (.hand receiver p :: rest)

/-- Whoever is to get a promise of the release was handed it, or is owed it. -/
def Owing (h : List Move) (s : Situation) : Prop :=
  ∀ receiver, (s.engine.stream.phase.isTerminal = true ∧ receiver = .nobody) ∨
      receiver ∈ rollbacks h ∨ receiver ∈ invocations h →
    (∃ p, (receiver, p) ∈ releasePromises h) ∨ Owes s.engine.stream.phase receiver s.agenda

section Owed

variable {c : Conduct} {h : List Move} {s s' : Situation} {m : Move} {receiver : Receiver}

theorem Owes.step {r : Release} (owes : Owes s.engine.stream.phase receiver s.agenda)
    (shares : s.engine.Shares) (found : s.engine.releases[0]? = some r) (returns : c.Returns)
    (step : Step s m s') (permitted : c.Permits h m) :
    (∃ p, m.releasePromise? = some (receiver, p)) ∨
      Owes s'.engine.stream.phase receiver s'.agenda := by
  obtain ⟨e, agenda⟩ := s
  have owner : e.owner = .session 0 := shares.owner
  cases owes with
  | settle succeeded field nobody =>
      obtain ⟨engine, line, agenda'⟩ := step.of_settle permitted rfl succeeded
      rw [agenda']
      exact .inr (.line line (.ownerSucceeded field nobody))
  | line line owes =>
      obtain ⟨-, rfl⟩ := step.of_notice permitted rfl rfl
      exact .inr owes
  | @ownerSucceeded metadata bookmark rest field nobody =>
      obtain ⟨-, rfl⟩ := step.exec_of_head rfl rfl
      subst nobody
      have told : (e.exec (.ownerSucceeded metadata)).2 = .go [.release 0 .nobody] := by
        simp [Engine.exec, Engine.ownerSucceeded, Engine.goOn, owner, field]
      simp only [told]
      exact .inr .release
  | ownerFailed f nobody =>
      obtain ⟨-, rfl⟩ := step.exec_of_head rfl rfl
      subst nobody
      have told : (e.exec (.ownerFailed f)).2 = .go [.release 0 .nobody] := by
        simp [Engine.exec, Engine.ownerFailed, Engine.goOn, owner]
      simp only [told]
      exact .inr .release
  | resolve p st owes =>
      obtain ⟨-, rfl⟩ := step.exec_of_head rfl rfl
      exact .inr owes
  | @mark id rest owes =>
      obtain ⟨-, rfl⟩ := step.exec_of_head rfl rfl
      have marked : (e.exec (.cursor id .markConsumed)).2 = .go [] ∧
          (e.exec (.cursor id .markConsumed)).1.stream = e.stream := by
        simp only [Engine.exec, Engine.stepCursor]
        split <;> simp [Engine.goOn, Cursor.step]
      simp only [marked.1, marked.2]
      exact .inr owes
  | release =>
      obtain ⟨-, rfl⟩ := step.exec_of_head rfl rfl
      obtain ⟨e', next, exec, invokes⟩ := e.exec_release 0 receiver
      refine .inr ?_
      simp only [exec]
      cases invokes with
      | absent absent => cases absent.symm.trans found
      | reused => exact .line _ (.hand _)
      | made => exact .hand _
      | called => exact .line _ (.ask .start)
  | ask owes =>
      cases step with
      | carry own => cases own
      | answer r' =>
          obtain rfl := returns h r' permitted.1
          exact .inr owes
  | start =>
      obtain ⟨-, rfl⟩ := step.exec_of_head rfl rfl
      exact .inr (.hand _)
  | hand p =>
      obtain ⟨rfl, -⟩ := step.exec_of_head rfl rfl
      exact .inl ⟨p, rfl⟩

/-- What can be looked into can be looked into for anything. -/
theorem Value.field_of_field {v found : Value} {name : String} (field : v.field name = .ok found)
    (other : String) : ∃ found', v.field other = .ok found' := by
  cases v with
  | map entries => exact ⟨_, rfl⟩
  | _ => cases field

/-- When a stream ends, its owner is to be told, and invokes the release. -/
theorem Step.owes_of_end (step : Step s m s') (permitted : c.Permits h m)
    (running : s.engine.stream.phase.isTerminal = false)
    (terminal : s'.engine.stream.phase.isTerminal = true) :
    Owes s'.engine.stream.phase .nobody s'.agenda := by
  rcases step.stream_or_quiet permitted with ⟨a, rest, next, effects, stream⟩ | ⟨-, quiet⟩
  · have after : s'.engine.stream = next := by rw [stream.engine]
    rw [stream.agenda, after]
    rw [after] at terminal
    have steps := stream.steps
    cases steps with
    | succeed present running field last =>
        obtain ⟨bookmark, found⟩ := Value.field_of_field field "bookmark"
        exact .settle rfl found rfl
    | fail line present running => exact .line line (.ownerFailed _ rfl)
    | _ => simp_all [Phase.isTerminal, Stream.released]
  · rw [quiet.stream, running] at terminal
    cases terminal

/-- A cursor that is rolled back goes on to invoke the release. -/
theorem Step.owes_of_rollback (step : Step s m s') (shares : s.engine.Shares)
    (rolledBack : m.rollback? = some receiver) :
    Owes s'.engine.stream.phase receiver s'.agenda := by
  unfold Move.rollback? at rolledBack
  split at rolledBack
  · rename_i id receiver' r
    obtain ⟨rest, head⟩ := step.head_of_carried
    obtain ⟨move, rfl⟩ := step.exec_of_head head rfl
    obtain rfl := (Move.carried.inj move).2
    split at rolledBack
    · cases rolledBack
    · rename_i going
      cases rolledBack
      cases found : s.engine.cursors[id]? with
      | none => simp [Engine.exec_cursor_of_none _ _ found] at going
      | some cursor =>
          rw [Engine.exec_cursor _ found rfl]
          have release := shares.cursors id cursor found
          simp only [List.map_cons, List.map_nil, Cursor.line, Instruction.ofCursor, release]
          exact .line _ (.resolve _ _ (.mark _ .release))
  · cases rolledBack

theorem Owing.step {r : Release} (owing : Owing h s) (shares : s.engine.Shares)
    (found : s.engine.releases[0]? = some r) (returns : c.Returns) (step : Step s m s')
    (permitted : c.Permits h m) : Owing (m :: h) s' := by
  have lasting (receiver : Receiver) (owed : (∃ p, (receiver, p) ∈ releasePromises h) ∨
      Owes s.engine.stream.phase receiver s.agenda) :
      (∃ p, (receiver, p) ∈ releasePromises (m :: h)) ∨
        Owes s'.engine.stream.phase receiver s'.agenda := by
    rcases owed with ⟨p, handed⟩ | owes
    · refine .inl ⟨p, ?_⟩
      unfold releasePromises at handed ⊢
      rw [List.filterMap_cons]
      split
      · exact handed
      · exact List.mem_cons_of_mem _ handed
    · refine (owes.step shares found returns step permitted).imp_left fun ⟨p, told⟩ => ⟨p, ?_⟩
      simp [releasePromises, told]
  rintro receiver (⟨terminal, rfl⟩ | rolledBack | invoked)
  · cases running : s.engine.stream.phase.isTerminal with
    | true => exact lasting _ (owing _ (.inl ⟨running, rfl⟩))
    | false => exact .inr (step.owes_of_end permitted running terminal)
  · rw [rollbacks, List.mem_filterMap] at rolledBack
    obtain ⟨m', mem, told⟩ := rolledBack
    rcases List.mem_cons.1 mem with rfl | mem
    · exact .inr (step.owes_of_rollback shares told)
    · exact lasting _ (owing _ (.inr (.inl (List.mem_filterMap.2 ⟨m', mem, told⟩))))
  · rw [invocations, List.mem_filterMap] at invoked
    obtain ⟨m', mem, told⟩ := invoked
    rcases List.mem_cons.1 mem with rfl | mem
    · unfold Move.invocation? at told
      split at told
      · cases told
        obtain ⟨rest, head⟩ := step.head_of_carried
        exact lasting _ (.inr (head ▸ .release))
      · cases told
    · exact lasting _ (owing _ (.inr (.inr (List.mem_filterMap.2 ⟨m', mem, told⟩))))

end Owed

/-! ## Nothing to give back -/

/-- Whether a move makes a cursor with a release of its own that gives the connection back. -/
def Move.opensConnected : Move → Bool
  | .carried (.openCursor plan) _ => match plan.release with
      | .ofConnection => true
      | _ => false
  | _ => false

/-- No release gives the connection back, and none did. -/
structure Barren (h : List Move) (s : Situation) : Prop where
  releases : ∀ r ∈ s.engine.releases, r.hasConnection = false
  clear : ∀ i ∈ s.agenda, i.isGiving = true → ∃ receiver p, i = .hand receiver p
  count : timesGivenBack h = 0

section Barren

variable {c : Conduct} {h : List Move} {s s' : Situation} {m : Move}

/-- A release keeps its connection or the lack of one, and none with a connection is made unless
a cursor is made with it. -/
theorem Engine.hasConnection_exec {e : Engine} {i : Instruction}
    (bare : ∀ r ∈ e.releases, r.hasConnection = false)
    (other : Move.opensConnected (.carried i (e.exec i).2) = false) :
    ∀ r ∈ (e.exec i).1.releases, r.hasConnection = false := by
  cases changes : i.changesReleases with
  | false =>
      rw [(holding_exec changes).releases]
      exact bare
  | true =>
      cases i with
      | release id receiver =>
          obtain ⟨e', next, exec, invokes⟩ := e.exec_release id receiver
          rw [exec]
          cases invokes with
          | absent | reused | called => exact bare
          | made found =>
              intro r mem
              rcases Array.mem_or_eq_of_mem_setIfInBounds mem with mem | rfl
              · exact bare r mem
              · rfl
      | startRelease id receiver =>
          intro r mem
          obtain ⟨k, found⟩ := Array.mem_iff_getElem?.1 mem
          simp only [exec, startRelease, goOn, spawn, Array.getElem?_modify] at found
          split at found
          · obtain ⟨former, there, rfl⟩ := Option.map_eq_some_iff.1 found
            exact bare former (Array.mem_of_getElem? there)
          · exact bare r (Array.mem_of_getElem? found)
      | openCursor plan =>
          simp only [exec, openCursor]
          split
          · exact bare
          · split
            · exact bare
            · rename_i chosen
              have made :
                  ∀ r, (r = Release.ofNothing ∨ r ∈ e.releases) → r.hasConnection = false := by
                rintro r (rfl | mem)
                · rfl
                · exact bare r mem
              unfold chooseRelease at chosen
              cases choice : plan.release with
              | ofConnection => simp [Move.opensConnected, choice] at other
              | bogus shown => simp [choice] at chosen
              | standard | shared =>
                  simp only [choice] at chosen
                  split at chosen <;> cases chosen
                  · exact bare
                  · exact fun r mem => made r (by simpa [or_comm] using mem)
              | ofNothing =>
                  simp only [choice] at chosen
                  split at chosen <;> cases chosen
                  exact fun r mem => made r (by simpa [or_comm] using mem)
      | _ => cases changes

theorem Barren.step (barren : Barren h s) (other : m.opensConnected = false)
    (step : Step s m s') (permitted : c.Permits h m) : Barren (m :: h) s' := by
  have begun : m.givesBack = false := by
    unfold Move.givesBack
    split
    · cases step with
      | answer r =>
          obtain ⟨_, _, giving⟩ := barren.clear (.ask .release) (by simp) rfl
          cases giving
    · rfl
  have hclear (i : Instruction) (apart : i.isGiving = false) (giving : i.isGiving = true) :
      ∃ receiver p, i = .hand receiver p := by
    rw [apart] at giving
    cases giving
  have count : timesGivenBack (m :: h) = 0 :=
    (timesGivenBack_of_other begun).trans barren.count
  cases step with
  | @carry e i rest own =>
      refine ⟨Engine.hasConnection_exec barren.releases other, fun j mem giving => ?_, count⟩
      rcases Reply.mem_onto mem with mem | mem | ⟨g, th, rfl⟩
      · exact barren.clear j (List.mem_cons_of_mem _ mem) giving
      · by_cases released : ∃ r receiver, i = .release r receiver
        · obtain ⟨r, receiver, rfl⟩ := released
          obtain ⟨e', next, exec, invokes⟩ := e.exec_release r receiver
          rw [exec] at mem
          cases invokes with
          | absent => cases mem
          | reused =>
              rcases List.mem_cons.1 mem with rfl | mem
              · cases giving
              · exact ⟨_, _, List.mem_singleton.1 mem⟩
          | made => exact ⟨_, _, List.mem_singleton.1 mem⟩
          | called found => cases barren.releases _ (Array.mem_of_getElem? found)
        · have started : ∀ r receiver, i ≠ .startRelease r receiver := by
            rintro r receiver rfl
            obtain ⟨_, _, other⟩ := barren.clear (.startRelease r receiver) (by simp) rfl
            cases other
          exact hclear j (Engine.isGiving_exec (fun r receiver heq => released ⟨r, receiver, heq⟩)
            started mem) giving
      · cases giving
  | answer r =>
      have answers : c.Answers _ r := permitted.2
      refine ⟨barren.releases, fun j mem giving => ?_, count⟩
      rcases Reply.mem_onto mem with mem | mem | ⟨g, th, rfl⟩
      · exact barren.clear j (List.mem_cons_of_mem _ mem) giving
      · exact hclear j (answers.isGiving j mem) giving
      · cases giving
  | @begin e k loop next =>
      refine ⟨?_, fun j mem => hclear j ?_, count⟩
      · rw [(Engine.holding_runJob k).releases]
        exact barren.releases
      · exact Instruction.isGiving_of_givesBack (Engine.givesBack_runJob mem)
  | call next =>
      have made : ∀ i ∈ next, c.Calls i := permitted.2
      exact ⟨barren.releases, fun j mem => hclear j (Instruction.isGiving_of_isCall (made j mem).1),
        count⟩

end Barren

/-! ## All runs -/

section Runs

variable {c : Conduct} {h : List Move} {s : Situation} {query : Query} {server : ServerInfo}
  {cap : Value} {outcome : RunOutcome} {holds : Bool}

/-- The release of a session is shared, and stands where the run left it. -/
theorem Run.giving (returns : c.Returns)
    (run : Run c ⟨.overStream query server cap (.session 0) outcome (some ⟨holds, none⟩), []⟩ h s) :
    s.engine.Shares ∧ Giving holds h s ∧ Occasioned h s ∧ Owing h s := by
  have found : ∀ {h : List Move} {s : Situation}, Giving holds h s →
      ∃ r, s.engine.releases[0]? = some r := by
    intro h s giving
    cases giving with
    | resting promise resting => exact ⟨_, by rw [resting.releases]; rfl⟩
    | starting _ _ _ _ releases => exact ⟨_, by rw [releases]; rfl⟩
  refine run.invariant
    (I := fun h s => s.engine.Shares ∧ Giving holds h s ∧ Occasioned h s ∧ Owing h s) ?_ ?_
  · refine ⟨⟨rfl, rfl, by simp [Engine.overStream]⟩, .resting none ⟨rfl, ?_, by simp, ?_, ?_⟩,
      ⟨by simp, ?_⟩, ?_⟩
    · simp [timesGivenBack]
    · simp [releasePromises]
    · simp [invocations]
    · simp [invocations]
    · rintro receiver (⟨terminal, -⟩ | mem | mem)
      · cases terminal
      · cases mem
      · cases mem
  · rintro h s s' m ⟨shares, giving, occasioned, owing⟩ step permitted
    obtain ⟨r, there⟩ := found giving
    exact ⟨shares.step step, giving.step shares returns step permitted,
      occasioned.step step permitted, owing.step shares there returns step permitted⟩

end Runs

/-! ## Connections given back that are worked out -/

/-- Whether the connection begins to be given back at once, if that is what a move is. -/
def Move.isPrompt : Move → Bool
  | .answered .release r => match r with
      | .go [] => true
      | _ => false
  | _ => true

/-- Giving the connection back begins at once, and nothing else is taken for granted. -/
def Conduct.prompt : Conduct := ⟨fun _ => False, fun _ => False, fun _ m => m.isPrompt = true⟩

end QueryStream
