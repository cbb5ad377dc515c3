/-
  Proofs/Asking.lean --- what a cursor asks of its channel.

  A cursor gives its channel one record consumer, whatever it is that leads to it, and passes a
  failure of the query to start on within that call.  Once the result is consumed, the cursor
  refuses to be read, and neither the summary nor the discard path nor a rollback has it ask
  anything of the channel.  That holds over a channel of any kind, whatever it tells and
  whatever it calls while it has control (`Course.asksSparingly`).

  Two bounds carry the proof.  Until a cursor has taken a consumer, it asked for nothing of the
  kind and nothing on the agenda does (`Frugal`).  And what is still to be passed on stands in
  front of what stood behind the call that took the consumer (`BegunTaking`).
-/
import Mathlib.Algebra.GroupWithZero.Nat
import QueryStream.Proofs.Resolution

set_option autoImplicit false

namespace QueryStream

/-! ## What is asked -/

namespace ChannelRequest

/-- Whether a channel is given a record consumer. -/
def isInstall : ChannelRequest → Bool
  | .installRecord _ => true
  | _ => false

/-- Whether a channel is asked for records. -/
def isRequest : ChannelRequest → Bool
  | .request _ => true
  | _ => false

/-- Whether a channel is to give up. -/
def isCancel : ChannelRequest → Bool
  | .cancel => true
  | _ => false

/-- Whether a channel is passed a failure. -/
def isFail : ChannelRequest → Bool
  | .fail _ => true
  | _ => false

end ChannelRequest

namespace Instruction

/-- What an instruction asks of the channel. -/
def asked? : Instruction → Option ChannelRequest
  | .channel r => some r
  | _ => none

/-- Whether an instruction has a cursor pass on a failure to start. -/
def injects (id : CursorId) : Instruction → Bool
  | .cursor i .injectError => i == id
  | _ => false

/-- Whether an instruction has a cursor give up its stream. -/
def cancels (id : CursorId) : Instruction → Bool
  | .cursor i .cancel => i == id
  | _ => false

/-- Whether an instruction has something asked of the channel. -/
def drives : Instruction → Bool
  | .channel _ => true
  | .cursor _ (.install _) => true
  | .cursor _ (.request _) => true
  | .cursor _ .cancel => true
  | .cursor _ .injectError => true
  | _ => false

end Instruction

/-- What a cursor asks of its channel with a move. -/
def Move.asked (id : CursorId) : Move → List ChannelRequest
  | .carried (.cursor i _) r => if i = id then r.next.filterMap Instruction.asked? else []
  | _ => []

/-- What a cursor asked of its channel in a history, latest first. -/
def asked (id : CursorId) (h : List Move) : List ChannelRequest := h.flatMap (Move.asked id)

/-- What a move puts on the agenda, unless a job does. -/
def Move.brings : Move → List Instruction
  | .carried _ r => r.next
  | m => m.outside

/-- How often a move has others than the cursor itself call for its stream to be given up. -/
def Move.cancelCalls (id : CursorId) : Move → Nat
  | .carried (.cursor i _) r => if i = id then 0 else r.next.countP (Instruction.cancels id)
  | m => m.brings.countP (Instruction.cancels id)

/-- How often others than the cursor itself called for its stream to be given up. -/
def cancelCalls (id : CursorId) (h : List Move) : Nat := (h.map (Move.cancelCalls id)).sum

namespace Cursor.Action

/-- Whether a cursor is asked to be read. -/
def isReading : Cursor.Action → Bool
  | .install _ => true
  | .request _ => true
  | _ => false

/-- Whether a cursor is asked for how the query ends, or to abandon the result. -/
def isEnding : Cursor.Action → Bool
  | .summary _ => true
  | .discardAll _ => true
  | .pullAll _ => true
  | .rollback _ => true
  | _ => false

end Cursor.Action

/-- In a history a cursor was asked to take a record consumer and gave it to its channel; what
stood behind that call is the given rest. -/
def BegunTaking (start : Situation) (id : CursorId) (h : List Move) (rest : List Instruction) :
    Prop :=
  ∃ rc r during before s, h = during ++ .carried (.cursor id (.install rc)) r :: before ∧
    .channel (.installRecord rc) ∈ r.next ∧ Course start before s ∧
    s.agenda = .cursor id (.install rc) :: rest

/-- In a history and where it led, a cursor that is now so asked little of its channel. -/
structure AsksSparingly (start : Situation) (id : CursorId) (c : Cursor) (h : List Move)
    (s : Situation) : Prop where
  /-- it gave the channel one consumer at most -/
  installsOnce : (asked id h).countP ChannelRequest.isInstall ≤ 1
  /-- it passed on a failure once at most -/
  failsOnce : (asked id h).countP ChannelRequest.isFail ≤ 1
  /-- that was the failure to start; it was passed on behind the giving of a consumer, with all
  that stood behind that call still to be done -/
  failsWithin : ∀ f m later earlier, h = later ++ m :: earlier → .fail f ∈ m.asked id →
    c.runError = some f ∧ ∃ s₁ rest, Course start earlier s₁ ∧
      s₁.agenda = .cursor id .injectError :: rest ∧ BegunTaking start id earlier rest
  /-- a consumer that is there stays the one that is there, and what is consumed stays so -/
  lasts : ∀ later earlier s₁ c₁, h = later ++ earlier → Course start earlier s₁ →
    s₁.engine.cursors[id]? = some c₁ →
      (c₁.status ≠ .notInstalled → c.status = c₁.status) ∧
      (c₁.isConsumed = true → c.isConsumed = true)
  /-- once the result is consumed, who would read it is refused, and nothing changes -/
  refuses : c.isConsumed = true → ∀ a r s', a.isReading = true →
    Step s (.carried (.cursor id a) r) s' →
      r = .raise (.arising .resultConsumed) ∧ s'.engine = s.engine
  /-- and who asks for the end or abandons it has nothing asked of the channel -/
  leavesAlone : c.isConsumed = true → ∀ a r s', a.isEnding = true →
    Step s (.carried (.cursor id a) r) s' → ∀ i ∈ r.next, i.drives = false
  /-- since the result was consumed, the channel was given no consumer and asked for no records;
  and it was to give up no more often than others called for it, and than was to be done then -/
  silent : ∀ later earlier s₁ c₁, h = later ++ earlier → Course start earlier s₁ →
    s₁.engine.cursors[id]? = some c₁ → c₁.isConsumed = true →
      (∀ r ∈ asked id later, r.isInstall = false ∧ r.isRequest = false) ∧
      (asked id later).countP ChannelRequest.isCancel + s.agenda.countP (Instruction.cancels id)
        ≤ cancelCalls id later + s₁.agenda.countP (Instruction.cancels id)

section Steps

variable {start s s' : Situation} {h : List Move} {m : Move} {id : CursorId} {c next : Cursor}
  {a : Cursor.Action} {effects : List Cursor.Effect} {done : Bool}

theorem asked_cons (id : CursorId) (m : Move) (h : List Move) :
    asked id (m :: h) = m.asked id ++ asked id h := List.flatMap_cons

theorem cancelCalls_cons (id : CursorId) (m : Move) (h : List Move) :
    cancelCalls id (m :: h) = m.cancelCalls id + cancelCalls id h := rfl

/-! ## What a move puts on the agenda -/

/-- What a move puts in front of what was on the agenda behind what it took. -/
inductive Move.Fronts (m : Move) : List Instruction → Prop
  | brings : Fronts m m.brings
  | caught (g : Guard) (th : Thrown) : Fronts m [.caught g th]
  | job (e : Engine) (j : Job) : Fronts m (e.runJob j).2

theorem Step.exists_agenda (step : Step s m s') :
    ∃ front tail, s'.agenda = front ++ tail ∧ m.Fronts front ∧ tail <:+ s.agenda.tail := by
  have onto : ∀ (r : Reply) (rest : List Instruction), m.brings = r.next →
      ∃ front tail, r.onto rest = front ++ tail ∧ m.Fronts front ∧ tail <:+ rest := by
    intro r rest brings
    obtain ⟨front, tail, heq, leaves, hfront⟩ := r.exists_onto rest
    refine ⟨front, tail, heq, ?_, leaves.suffix⟩
    rcases hfront with rfl | ⟨g, th, rfl, -⟩
    · exact brings ▸ .brings
    · exact .caught g th
  cases step with
  | carry own => exact onto _ _ rfl
  | answer r => exact onto r _ rfl
  | begin next => exact ⟨_, [], (List.append_nil _).symm, .job _ _, List.suffix_refl _⟩
  | call next => exact ⟨_, [], (List.append_nil _).symm, .brings, List.suffix_refl _⟩

/-- A move leaves no more on the agenda than it brings and was there behind what it took. -/
theorem Step.countP_agenda_le {p : Instruction → Bool} (step : Step s m s')
    (caught : ∀ g th, p (.caught g th) = false)
    (job : ∀ (e : Engine) j i, e.LeadsBy j i → p i = false) :
    s'.agenda.countP p ≤ m.brings.countP p + s.agenda.tail.countP p := by
  obtain ⟨front, tail, heq, fronts, suffix⟩ := step.exists_agenda
  have htail : tail.countP p ≤ s.agenda.tail.countP p := suffix.sublist.countP_le
  have hfront : front.countP p ≤ m.brings.countP p := by
    cases fronts with
    | brings => exact Nat.le_refl _
    | caught g th => simp [caught]
    | job e j =>
        have none : (e.runJob j).2.countP p = 0 := List.countP_eq_zero.2 fun i mem => by
          simp [job _ _ i (Engine.leadsBy_runJob mem)]
        exact none ▸ Nat.zero_le _
  rw [heq, List.countP_append]
  exact Nat.add_le_add hfront htail

/-! ## What a move is to a cursor -/

/-- What a move is to a cursor that is there. -/
inductive Concerns (id : CursorId) (c : Cursor) (s : Situation) (m : Move) (s' : Situation) : Prop
  /-- it is a step of the cursor -/
  | stepped {a : Cursor.Action} {rest : List Instruction} {next : Cursor}
      {effects : List Cursor.Effect} (head : s.agenda = .cursor id a :: rest)
      (move : m = .carried (.cursor id a) (.go (effects.map (.ofCursor id next))))
      (steps : Cursor.Steps (s.engine.isResolved c) c a next effects)
      (found : s'.engine.cursors[id]? = some next)
      (agenda : s'.agenda = effects.map (.ofCursor id next) ++ rest)
  /-- it is a step that the cursor refuses -/
  | refused {a : Cursor.Action} (cause : Cause)
      (error : c.step (s.engine.isResolved c) a = .error cause)
      (move : m = .carried (.cursor id a) (.raise (.arising cause)))
      (same : s'.engine = s.engine)
  /-- it is no business of the cursor -/
  | other (other : ∀ a r, m ≠ .carried (.cursor id a) r)
      (found : s'.engine.cursors[id]? = some c)

theorem Step.concerns (step : Step s m s') (found : s.engine.cursors[id]? = some c) :
    Concerns id c s m s' := by
  cases step with
  | answer r => exact .other (fun _ _ heq => by cases heq) found
  | call next => exact .other (fun _ _ heq => by cases heq) found
  | @begin e j loop next =>
      refine .other (fun _ _ heq => by cases heq) ?_
      rw [(Engine.began_runJob { e with loop } j).cursors]
      exact found
  | @carry e i rest own =>
      cases i with
      | cursor id' a =>
          by_cases same : id' = id
          · subst same
            have found : e.cursors[id']? = some c := found
            cases hstep : c.step (e.isResolved c) a with
            | ok after =>
                obtain ⟨next, effects⟩ := after
                have exec := e.exec_cursor found hstep
                refine .stepped rfl (by rw [exec]) (Cursor.steps_of_step hstep) ?_
                  (by rw [exec]; rfl)
                rw [exec]
                exact e.getElem?_setIfInBounds_self next found
            | error cause =>
                have exec := e.exec_cursor_of_error found hstep
                exact .refused cause hstep (by rw [exec]) (by rw [exec])
          · refine .other (fun _ _ heq => ?_) ?_
            · exact same (Instruction.cursor.inj (Move.carried.inj heq).1).1
            · simp only [Engine.exec, Engine.stepCursor]
              split
              · exact found
              · split
                · simpa [Array.getElem?_setIfInBounds, same] using found
                · exact found
      | openCursor plan =>
          refine .other (fun _ _ heq => by cases heq) ?_
          have lt := (Array.getElem?_eq_some_iff.1 found).1
          simp only [Engine.exec, Engine.openCursor]
          split
          · exact found
          · split
            · exact found
            · rename_i chosen
              obtain ⟨releases, rfl, -⟩ := Engine.exists_of_chooseRelease chosen
              have absent : id ≠ e.cursors.size := Nat.ne_of_lt lt
              simpa [Array.getElem?_push, absent] using found
      | stream a =>
          refine .other (fun _ _ heq => by cases heq) ?_
          simp only [Engine.exec, Engine.stepStream]
          split <;> exact found
      | _ =>
          refine .other (fun _ _ heq => by cases heq) ?_
          rw [(e.keeps_exec rfl).cursors rfl]
          exact found

theorem Move.asked_eq_nil (other : ∀ a r, m ≠ .carried (.cursor id a) r) : m.asked id = [] := by
  cases m with
  | carried i r =>
      cases i with
      | cursor id' a =>
          have different : id' ≠ id := fun same => other a r (by rw [same])
          simp [asked, different]
      | _ => rfl
  | _ => rfl

theorem Move.asked_go (id : CursorId) (a : Cursor.Action) (next : Cursor)
    (effects : List Cursor.Effect) :
    (Move.carried (.cursor id a) (.go (effects.map (.ofCursor id next)))).asked id
      = effects.filterMap fun effect => (Instruction.ofCursor id next effect).asked? := by
  simp only [asked, if_true, Reply.next_go, List.filterMap_map]
  rfl

/-! ## How a cursor ages -/

/-- A cursor later on: a consumer that was taken stays, and what is consumed stays so. -/
structure Cursor.Ages (c c' : Cursor) : Prop where
  runError : c'.runError = c.runError
  status : c.status ≠ .notInstalled → c'.status = c.status
  isConsumed : c.isConsumed = true → c'.isConsumed = true

theorem Cursor.Ages.refl (c : Cursor) : c.Ages c := ⟨rfl, fun _ => rfl, id⟩

theorem Cursor.Ages.trans {c c' c'' : Cursor} (first : c.Ages c') (second : c'.Ages c'') :
    c.Ages c'' := by
  refine ⟨second.runError.trans first.runError, fun taken => ?_,
    fun consumed => second.isConsumed (first.isConsumed consumed)⟩
  have same := first.status taken
  exact (second.status (same ▸ taken)).trans same

theorem Cursor.Steps.ages (steps : Cursor.Steps done c a next effects) : c.Ages next := by
  refine ⟨steps.runError, fun taken => ?_, steps.isConsumed.1⟩
  rcases steps.status with same | ⟨rc, -, free, -⟩
  · exact same
  · exact absurd free taken

theorem Step.ages (step : Step s m s') (found : s.engine.cursors[id]? = some c) :
    ∃ c', s'.engine.cursors[id]? = some c' ∧ c.Ages c' := by
  cases step.concerns found with
  | stepped head move steps found' agenda => exact ⟨_, found', steps.ages⟩
  | refused cause error move same => exact ⟨c, same ▸ found, .refl c⟩
  | other other found' => exact ⟨c, found', .refl c⟩

/-- From where a course led to, a cursor only ages. -/
theorem Course.ages {earlier : List Move} {s₁ : Situation} {c₁ : Cursor}
    (before : Course start earlier s₁) (found : s₁.engine.cursors[id]? = some c₁) :
    ∀ {later : List Move} {s : Situation}, Course start (later ++ earlier) s →
      ∃ c, s.engine.cursors[id]? = some c ∧ c₁.Ages c := by
  refine before.following
    (I := fun _ s => ∃ c, s.engine.cursors[id]? = some c ∧ c₁.Ages c) ⟨c₁, found, .refl c₁⟩ ?_
  rintro later s s' m ⟨c, found, ages⟩ course step admits
  obtain ⟨c', found', ages'⟩ := step.ages found
  exact ⟨c', found', ages.trans ages'⟩

/-! ## One consumer -/

/-- How many consumers a cursor has. -/
def taken (c : Option Cursor) : Nat := (c.any fun c => c.status.isInstalled).toNat

/-- A cursor gave its channel no more consumers, and passed on no more failures or is about to,
than it has consumers. -/
structure Frugal (id : CursorId) (h : List Move) (s : Situation) : Prop where
  installs : (asked id h).countP ChannelRequest.isInstall ≤ taken s.engine.cursors[id]?
  fails : (asked id h).countP ChannelRequest.isFail + s.agenda.countP (Instruction.injects id)
    ≤ taken s.engine.cursors[id]?

theorem taken_le_one (c : Option Cursor) : taken c ≤ 1 := Bool.toNat_le _

theorem taken_of_ages {c' : Cursor} (ages : c.Ages c') : taken (some c) ≤ taken (some c') := by
  unfold taken
  cases installed : c.status.isInstalled with
  | false => simp [installed]
  | true =>
      have same := ages.status (by simpa [ConsumerStatus.isInstalled] using installed)
      simp [same]

theorem taken_eq_one {c : Cursor} (installed : c.status ≠ .notInstalled) : taken (some c) = 1 := by
  simp [taken, ConsumerStatus.isInstalled, installed]

theorem taken_eq_zero {c : Cursor} (free : c.status = .notInstalled) : taken (some c) = 0 := by
  simp [taken, ConsumerStatus.isInstalled, free]

theorem injects_eq_false_of_leadsBy (e : Engine) (j : Job) (i : Instruction)
    (leads : e.LeadsBy j i) : i.injects id = false := by
  cases leads <;> rfl

/-- A step of a cursor gives a consumer, passes on a failure and is about to, as it takes a
consumer and had a failure to pass on. -/
theorem Cursor.Steps.frugal (id : CursorId) (steps : Cursor.Steps done c a next effects) :
    ((Move.carried (.cursor id a) (.go (effects.map (.ofCursor id next)))).asked id).countP
        ChannelRequest.isInstall + taken (some c) ≤ taken (some next) ∧
      ((Move.carried (.cursor id a) (.go (effects.map (.ofCursor id next)))).asked id).countP
          ChannelRequest.isFail
        + (effects.map (Instruction.ofCursor id next)).countP (Instruction.injects id)
        + taken (some c)
        ≤ taken (some next) + if (Instruction.cursor id a).injects id then 1 else 0 := by
  rw [Move.asked_go]
  cases steps with
  | @install rc line unconsumed free =>
      rw [taken_eq_zero free, taken_eq_one (ConsumerStatus.ofConsumer_ne rc)]
      simp [Instruction.ofCursor, Instruction.asked?, Instruction.injects,
        ChannelRequest.isInstall, ChannelRequest.isFail]
  | injectError failed =>
      simp [Instruction.ofCursor, Instruction.asked?, Instruction.injects,
        ChannelRequest.isInstall, ChannelRequest.isFail, Nat.add_comm]
  | summary | discardAll =>
      unfold Cursor.stage
      split <;> simp [Instruction.ofCursor, Instruction.asked?, Instruction.injects, line, taken]
  | _ =>
      simp [Instruction.ofCursor, Instruction.asked?, Instruction.injects,
        ChannelRequest.isInstall, ChannelRequest.isFail, taken]

/-- Only a cursor that takes a consumer is about to pass on a failure. -/
theorem Engine.Leads.of_inject {e : Engine} {i j : Instruction} (leads : e.Leads i j)
    (heq : j = .cursor id .injectError) : ∃ rc, i = .cursor id (.install rc) := by
  cases leads with
  | @stream _ _ _ effect => cases effect <;> cases heq
  | @cursor id a c next effects effect found accepted mem =>
      cases (Cursor.steps_of_step accepted).yields mem with
      | inject =>
          cases heq
          exact ⟨_, rfl⟩
      | _ => cases heq
  | iteration found effects among | left th found effects among =>
      cases puts_of_mem among <;> cases heq
  | hand q receives among => cases hands_of_mem among <;> cases heq
  | body among => cases setsOut_of_mem among <;> cases heq
  | exhausted among =>
      obtain ⟨d, rfl⟩ := finish_of_mem_exhausted among
      cases heq
  | _ => cases heq

theorem Instruction.eq_of_injects {i : Instruction} (injects : i.injects id = true) :
    i = .cursor id .injectError := by
  unfold Instruction.injects at injects
  split at injects
  · rw [beq_iff_eq.1 injects]
  · cases injects

theorem Admits.inject_not_mem (admits : Admits h m) : .cursor id .injectError ∉ m.outside := by
  intro mem
  rcases admits.outside mem with foreseen | ⟨t, heq⟩ | ⟨t, heq⟩
  · cases foreseen
  · cases heq
  · cases heq

/-- What has a failure passed on was put on the agenda by a cursor that takes a consumer. -/
theorem Step.brings_inject (step : Step s m s') (admits : Admits h m)
    (mem : .cursor id .injectError ∈ m.brings) :
    ∃ rc r, m = .carried (.cursor id (.install rc)) r := by
  cases step with
  | @carry e i rest own =>
      obtain ⟨rc, rfl⟩ := (Engine.leads_exec mem).of_inject rfl
      exact ⟨rc, _, rfl⟩
  | _ => exact absurd mem admits.inject_not_mem

theorem Step.of_absent {r : Reply} (step : Step s (.carried (.cursor id a) r) s')
    (absent : s.engine.cursors[id]? = none) : r = .go [] := by
  cases step with
  | carry own => rw [Engine.exec_cursor_of_none _ a absent]

theorem Step.asked_of_absent (step : Step s m s') (absent : s.engine.cursors[id]? = none) :
    m.asked id = [] := by
  by_cases own : ∃ a r, m = .carried (.cursor id a) r
  · obtain ⟨a, r, rfl⟩ := own
    obtain rfl := step.of_absent absent
    simp [Move.asked]
  · exact Move.asked_eq_nil fun a r heq => own ⟨a, r, heq⟩

theorem Step.taken_le (id : CursorId) (step : Step s m s') :
    taken s.engine.cursors[id]? ≤ taken s'.engine.cursors[id]? := by
  cases found : s.engine.cursors[id]? with
  | none => exact Nat.zero_le _
  | some c =>
      obtain ⟨c', found', ages⟩ := step.ages found
      rw [found']
      exact taken_of_ages ages

theorem Frugal.step (frugal : Frugal id h s) (step : Step s m s') (admits : Admits h m) :
    Frugal id (m :: h) s' := by
  obtain ⟨installs, fails⟩ := frugal
  have agenda := step.countP_agenda_le (p := Instruction.injects id) (fun _ _ => rfl)
    injects_eq_false_of_leadsBy
  have grows := step.taken_le id
  -- What asks nothing and has nothing passed on is within the bounds.
  have mild : m.asked id = [] → (∀ i ∈ m.brings, ¬ i.injects id) → Frugal id (m :: h) s' := by
    intro silent brings
    have none := List.countP_eq_zero.2 brings
    have tail : s.agenda.tail.countP (Instruction.injects id)
        ≤ s.agenda.countP (Instruction.injects id) := (List.tail_sublist _).countP_le
    refine ⟨?_, ?_⟩ <;> rw [asked_cons, silent, List.nil_append] <;> omega
  by_cases own : ∃ a r, m = .carried (.cursor id a) r
  · obtain ⟨a, r, rfl⟩ := own
    cases found : s.engine.cursors[id]? with
    | none =>
        obtain rfl := step.of_absent found
        exact mild (by simp [Move.asked]) (by simp [Move.brings])
    | some c =>
        cases step.concerns found with
        | @stepped a' rest next effects head move steps found' agenda' =>
            obtain ⟨same, rfl⟩ := Move.carried.inj move
            obtain ⟨-, rfl⟩ := Instruction.cursor.inj same
            obtain ⟨takes, passes⟩ := steps.frugal id
            rw [found] at installs fails
            rw [head, List.countP_cons] at fails
            rw [head] at agenda
            simp only [Move.brings, Reply.next_go, List.tail_cons] at agenda
            refine ⟨?_, ?_⟩ <;> rw [asked_cons, List.countP_append, found'] <;> omega
        | refused cause error move same =>
            obtain ⟨-, rfl⟩ := Move.carried.inj move
            exact mild (by simp [Move.asked]) (by simp [Move.brings])
        | other other found' => exact absurd rfl (other a r)
  · have other : ∀ a r, m ≠ .carried (.cursor id a) r := fun a r heq => own ⟨a, r, heq⟩
    refine mild (Move.asked_eq_nil other) fun i mem injects => ?_
    obtain rfl := Instruction.eq_of_injects injects
    obtain ⟨rc, r, heq⟩ := step.brings_inject admits mem
    exact other _ r heq

theorem Course.frugal {e : Engine} (id : CursorId) (course : Course ⟨e, []⟩ h s) :
    Frugal id h s :=
  course.invariant ⟨Nat.zero_le _, Nat.zero_le _⟩ fun frugal step admits =>
    frugal.step step admits

/-! ## What a failure is passed on within -/

theorem BegunTaking.cons {rest : List Instruction} (begun : BegunTaking start id h rest) :
    BegunTaking start id (m :: h) rest := by
  obtain ⟨rc, r, during, before, s₁, rfl, given, course, head⟩ := begun
  exact ⟨rc, r, m :: during, before, s₁, rfl, given, course, head⟩

/-- Whatever is to pass on a failure does so within the taking of a consumer. -/
def PassesWithin (start : Situation) (id : CursorId) (h : List Move) (s : Situation) : Prop :=
  ∀ front rest, s.agenda = front ++ .cursor id .injectError :: rest →
    BegunTaking start id h rest

/-- A cursor that takes a consumer passes on a failure last. -/
theorem Cursor.Steps.inject_last {front tail : List Instruction} {rc : RecordConsumer}
    (steps : Cursor.Steps done c (.install rc) next effects)
    (split : effects.map (Instruction.ofCursor id next)
      = front ++ .cursor id .injectError :: tail) :
    tail = [] ∧
      .channel (.installRecord rc) ∈ effects.map (Instruction.ofCursor id next) := by
  cases steps with
  | ignoreInstall unconsumed taken => simp at split
  | install line unconsumed free =>
      refine ⟨?_, by simp [Instruction.ofCursor]⟩
      rcases front with _ | ⟨_, _ | ⟨_, _ | ⟨_, front⟩⟩⟩
      · simp [Instruction.ofCursor] at split
      · simp [Instruction.ofCursor] at split
      · simp only [Instruction.ofCursor, List.map_cons, List.map_nil, List.cons_append,
          List.nil_append, List.cons.injEq] at split
        exact split.2.2.2.symm
      · simp [Instruction.ofCursor] at split

theorem split_append {α : Type} {x : α} {first second front back : List α}
    (split : first ++ second = front ++ x :: back) :
    (∃ lead, second = lead ++ x :: back) ∨
      ∃ middle, first = front ++ x :: middle ∧ back = middle ++ second := by
  rcases List.append_eq_append_iff.1 split with ⟨lead, -, later⟩ | ⟨middle, rfl, here⟩
  · exact .inl ⟨lead, later⟩
  · cases middle with
    | nil => exact .inl ⟨[], here.symm⟩
    | cons i middle =>
        obtain ⟨rfl, rfl⟩ := List.cons.inj here
        exact .inr ⟨middle, rfl, rfl⟩

theorem PassesWithin.step (passes : PassesWithin start id h s) (course : Course start h s)
    (step : Step s m s') (admits : Admits h m) : PassesWithin start id (m :: h) s' := by
  intro front rest split
  by_cases brought : .cursor id .injectError ∈ m.brings
  · obtain ⟨rc, r, rfl⟩ := step.brings_inject admits brought
    cases found : s.engine.cursors[id]? with
    | none =>
        obtain rfl := step.of_absent found
        cases brought
    | some c =>
        cases step.concerns found with
        | @stepped a behind next effects head move steps found' agenda =>
            obtain ⟨same, rfl⟩ := Move.carried.inj move
            obtain ⟨-, rfl⟩ := Instruction.cursor.inj same
            rw [agenda] at split
            rcases split_append split with ⟨lead, rfl⟩ | ⟨middle, hmap, rfl⟩
            · exact (passes (_ :: lead) rest head).cons
            · obtain ⟨rfl, given⟩ := steps.inject_last hmap
              exact ⟨rc, _, [], h, s, rfl, given, course, head⟩
        | refused cause error move same =>
            obtain ⟨-, rfl⟩ := Move.carried.inj move
            cases brought
        | other other found' => exact absurd rfl (other _ r)
  · obtain ⟨first, tail, agenda, fronts, before, suffix⟩ := step.exists_agenda
    rw [agenda] at split
    rcases split_append split with ⟨lead, later⟩ | ⟨middle, hfirst, -⟩
    · cases hagenda : s.agenda with
      | nil => simp [hagenda, later] at suffix
      | cons i behind =>
          rw [hagenda, List.tail_cons] at suffix
          refine (passes (i :: (before ++ lead)) rest ?_).cons
          rw [hagenda, ← suffix, later, List.cons_append, List.append_assoc]
    · have mem : .cursor id .injectError ∈ first := by simp [hfirst]
      cases fronts with
      | brings => exact absurd mem brought
      | caught g th => simp at mem
      | job e j => cases Engine.leadsBy_runJob mem

theorem Course.passesWithin {e : Engine} (course : Course ⟨e, []⟩ h s) :
    PassesWithin ⟨e, []⟩ id h s := by
  induction course with
  | nil => intro front rest split; simp at split
  | snoc course step admits ih => exact ih.step course step admits

/-! ## A result that is consumed -/

/-- A cursor whose result is consumed gives its channel no consumer and asks for no records, and
gives up its stream only when called to. -/
theorem Cursor.Steps.silent (id : CursorId) (steps : Cursor.Steps done c a next effects)
    (consumed : c.isConsumed = true) :
    (∀ r ∈ (Move.carried (.cursor id a) (.go (effects.map (.ofCursor id next)))).asked id,
        r.isInstall = false ∧ r.isRequest = false) ∧
      ((Move.carried (.cursor id a) (.go (effects.map (.ofCursor id next)))).asked id).countP
          ChannelRequest.isCancel
        + (effects.map (Instruction.ofCursor id next)).countP (Instruction.cancels id)
        ≤ if (Instruction.cursor id a).cancels id then 1 else 0 := by
  rw [Move.asked_go]
  cases steps with
  | ignoreInstall unconsumed taken => simp [consumed] at unconsumed
  | install line unconsumed free => simp [consumed] at unconsumed
  | request unconsumed => simp [consumed] at unconsumed
  | _ =>
      simp [Cursor.stage, consumed, Instruction.ofCursor, Instruction.asked?, Instruction.cancels,
        ChannelRequest.isInstall, ChannelRequest.isRequest, ChannelRequest.isCancel]

/-- Who asks for the end of a result that is consumed, or abandons it, has nothing asked. -/
theorem Cursor.Steps.leavesAlone (steps : Cursor.Steps done c a next effects)
    (consumed : c.isConsumed = true) (ending : a.isEnding = true) :
    ∀ i ∈ effects.map (Instruction.ofCursor id next), i.drives = false := by
  cases steps with
  | summary | discardAll | refusePull | pullAll | rollback =>
      simp [Cursor.stage, consumed, Instruction.ofCursor, Instruction.drives]
  | _ => cases ending

theorem Cursor.step_of_consumed (reading : a.isReading = true) (consumed : c.isConsumed = true) :
    c.step done a = .error .resultConsumed := by
  cases a with
  | install | request => simp [Cursor.step, Cursor.ensureOpen, consumed, bind, Except.bind]
  | _ => cases reading

theorem Move.cancelCalls_eq (other : ∀ a r, m ≠ .carried (.cursor id a) r) :
    m.cancelCalls id = m.brings.countP (Instruction.cancels id) := by
  cases m with
  | carried i r =>
      cases i with
      | cursor id' a =>
          have different : id' ≠ id := fun same => other a r (by rw [same])
          simp [cancelCalls, brings, different]
      | _ => rfl
  | _ => rfl

theorem Step.keepsSilent (step : Step s m s') (found : s.engine.cursors[id]? = some c)
    (consumed : c.isConsumed = true) :
    (∀ r ∈ m.asked id, r.isInstall = false ∧ r.isRequest = false) ∧
      (m.asked id).countP ChannelRequest.isCancel + s'.agenda.countP (Instruction.cancels id)
        ≤ m.cancelCalls id + s.agenda.countP (Instruction.cancels id) := by
  have agenda := step.countP_agenda_le (p := Instruction.cancels id) (fun _ _ => rfl)
    fun e j i leads => by cases leads <;> rfl
  have tail : s.agenda.tail.countP (Instruction.cancels id)
      ≤ s.agenda.countP (Instruction.cancels id) := (List.tail_sublist _).countP_le
  cases step.concerns found with
  | stepped head move steps found' agenda' =>
      obtain ⟨reads, cancels⟩ := steps.silent id consumed
      refine ⟨move ▸ reads, ?_⟩
      rw [head, List.countP_cons, agenda', List.countP_append, move]
      omega
  | refused cause error move same =>
      subst move
      simp only [Move.brings, Reply.next_raise, List.countP_nil] at agenda
      simp only [Move.asked, Reply.next_raise, List.filterMap_nil, ite_self, List.countP_nil]
      exact ⟨by simp, by omega⟩
  | other other found' =>
      rw [Move.asked_eq_nil other, Move.cancelCalls_eq other]
      exact ⟨by simp, by simpa using Nat.le_trans agenda (Nat.add_le_add_left tail _)⟩

theorem Course.keepsSilent {earlier : List Move} {s₁ : Situation} {c₁ : Cursor}
    (before : Course start earlier s₁) (found : s₁.engine.cursors[id]? = some c₁)
    (consumed : c₁.isConsumed = true) :
    ∀ {later : List Move} {s : Situation}, Course start (later ++ earlier) s →
      (∀ r ∈ asked id later, r.isInstall = false ∧ r.isRequest = false) ∧
        (asked id later).countP ChannelRequest.isCancel
            + s.agenda.countP (Instruction.cancels id)
          ≤ cancelCalls id later + s₁.agenda.countP (Instruction.cancels id) := by
  refine before.following
    (I := fun later s => (∀ r ∈ asked id later, r.isInstall = false ∧ r.isRequest = false) ∧
      (asked id later).countP ChannelRequest.isCancel + s.agenda.countP (Instruction.cancels id)
        ≤ cancelCalls id later + s₁.agenda.countP (Instruction.cancels id))
    ⟨by simp [asked], by simp [asked]⟩ ?_
  rintro later s s' m ⟨reads, cancels⟩ course step admits
  obtain ⟨c, found', ages⟩ := before.ages found course
  obtain ⟨reads', cancels'⟩ := step.keepsSilent found' (ages.isConsumed consumed)
  rw [asked_cons, cancelCalls_cons, List.countP_append]
  refine ⟨fun r mem => ?_, by omega⟩
  rcases List.mem_append.1 mem with mem | mem
  · exact reads' r mem
  · exact reads r mem

/-- What passes on a failure is the cursor's own call for it, and it is the failure to start. -/
theorem Step.fail_asked {f : Failure} (step : Step s m s')
    (found : s.engine.cursors[id]? = some c) (mem : .fail f ∈ m.asked id) :
    c.runError = some f ∧ ∃ rest, s.agenda = .cursor id .injectError :: rest := by
  cases step.concerns found with
  | @stepped a rest next effects head move steps found' agenda =>
      rw [move, Move.asked_go] at mem
      cases steps with
      | injectError failed =>
          obtain rfl : f = _ := by simpa [Instruction.ofCursor, Instruction.asked?] using mem
          exact ⟨failed, rest, head⟩
      | summary | discardAll =>
          unfold Cursor.stage at mem
          split at mem <;> simp [Instruction.ofCursor, Instruction.asked?, Cursor.line] at mem
      | _ => simp [Instruction.ofCursor, Instruction.asked?] at mem
  | refused cause error move same => simp [move, Move.asked] at mem
  | other other found' => simp [Move.asked_eq_nil other] at mem

/-- What a cursor asks of its channel, over a channel of any kind. -/
theorem Course.asksSparingly {e : Engine} (course : Course ⟨e, []⟩ h s)
    (found : s.engine.cursors[id]? = some c) : AsksSparingly ⟨e, []⟩ id c h s := by
  have frugal := course.frugal id
  have bound := taken_le_one s.engine.cursors[id]?
  refine ⟨Nat.le_trans frugal.installs bound, Nat.le_trans (by have := frugal.fails; omega) bound,
    ?_, ?_, ?_, ?_, ?_⟩
  · -- a failure is passed on by the cursor that kept it, and what a cursor keeps never changes
    rintro f m later earlier rfl mem
    obtain ⟨s₁, s₂, before, step, after⟩ := course.exists_step_of_append
    cases found₁ : s₁.engine.cursors[id]? with
    | none => simp [step.asked_of_absent found₁] at mem
    | some c₁ =>
        obtain ⟨failed, rest, head⟩ := step.fail_asked found₁ mem
        obtain ⟨c₂, found₂, first⟩ := step.ages found₁
        obtain ⟨c', found', ages⟩ := after.ages found₂ course
        obtain rfl : c' = c := Option.some.inj (found'.symm.trans found)
        exact ⟨(first.trans ages).runError.trans failed, s₁, rest, before, head,
          before.passesWithin [] rest head⟩
  · rintro later earlier s₁ c₁ rfl before found₁
    obtain ⟨c', found', ages⟩ := before.ages found₁ course
    obtain rfl : c' = c := Option.some.inj (found'.symm.trans found)
    exact ⟨ages.status, ages.isConsumed⟩
  · intro consumed a r s' reading step
    cases step.concerns found with
    | stepped head move steps found' agenda =>
        obtain ⟨same, rfl⟩ := Move.carried.inj move
        obtain ⟨-, rfl⟩ := Instruction.cursor.inj same
        cases steps with
        | ignoreInstall unconsumed taken => simp [consumed] at unconsumed
        | install line unconsumed free => simp [consumed] at unconsumed
        | request unconsumed => simp [consumed] at unconsumed
        | _ => cases reading
    | refused cause error move same =>
        obtain ⟨same', rfl⟩ := Move.carried.inj move
        obtain ⟨-, rfl⟩ := Instruction.cursor.inj same'
        rw [Cursor.step_of_consumed reading consumed] at error
        obtain rfl := Except.error.inj error
        exact ⟨rfl, same⟩
    | other other found' => exact absurd rfl (other a r)
  · intro consumed a r s' ending step
    cases step.concerns found with
    | stepped head move steps found' agenda =>
        obtain ⟨same, rfl⟩ := Move.carried.inj move
        obtain ⟨-, rfl⟩ := Instruction.cursor.inj same
        exact steps.leavesAlone consumed ending
    | refused cause error move same =>
        obtain ⟨-, rfl⟩ := Move.carried.inj move
        simp
    | other other found' => exact absurd rfl (other a r)
  · -- silence is kept by every move after, so it is read along the rest of the course
    rintro later earlier s₁ c₁ rfl before found₁ consumed
    exact before.keepsSilent found₁ consumed course

end Steps

/-- A query that failed to start is read; then the summary is asked for, and only now is the
result to be read again, rolled back and read to its end. -/
def askedAgain : List Act :=
  [.calls [.openCursor ⟨.given brokenLink, .standard, true, true⟩],
    .calls [.cursor 0 (.install (.client 1 "reader")), .cursor 0 (.request 5)],
    .calls [.cursor 0 (.summary (.caller "summary"))],
    .calls [.cursor 0 (.install .discard)],
    .calls [.cursor 0 (.request 1)],
    .calls [.cursor 0 (.rollback .nobody), .cursor 0 (.pullAll .nobody)]]

/-- Where it leads to be asked again, with its history. -/
def askedAgainPoint : List Move × Situation :=
  Situation.acts 24 askedAgain ([], ⟨outsideEngine, []⟩)

theorem asksSparingly_askedAgain :
    (∃ c, askedAgainPoint.2.engine.cursors[0]? = some c ∧
      AsksSparingly ⟨outsideEngine, []⟩ 0 c askedAgainPoint.1 askedAgainPoint.2) ∧
      askedAgainPoint.2.engine.cursors[0]?.any Cursor.isConsumed = true ∧
      (asked 0 askedAgainPoint.1).countP ChannelRequest.isInstall = 1 ∧
      (asked 0 askedAgainPoint.1).countP ChannelRequest.isFail = 1 ∧
      (asked 0 askedAgainPoint.1).countP ChannelRequest.isCancel = 1 ∧
      askedAgainPoint.2.agenda.isEmpty = true := by
  have course : Course ⟨outsideEngine, []⟩ askedAgainPoint.1 askedAgainPoint.2 :=
    .of_acts rfl (by decide +kernel)
  have made : askedAgainPoint.2.engine.cursors[0]?.isSome = true := by decide +kernel
  obtain ⟨c, found⟩ := Option.isSome_iff_exists.1 made
  exact ⟨⟨c, found, course.asksSparingly found⟩, by decide +kernel, by decide +kernel,
    by decide +kernel, by decide +kernel, by decide +kernel⟩

end QueryStream
