/-
  Proofs/Course.lean --- courses of an engine over a channel of any kind.

  WHAT A COURSE IS.  A run (`Run`) leaves outside code to make calls.  A course leaves it
  more: a channel outside may tell consumers anything, whenever it has control, whether it
  repeats itself, contradicts itself or is over; any call may be left by a failure; and
  whoever was handed a promise may cancel it.  Only what tells something is still only
  noted, and nobody cancels a promise that they do not hold.

  WHAT A COURSE KEEPS.  Promises that have a role, are offered or are waited for were
  created, and promises that are to be settled are the outcomes of cursors (`Orderly`).
-/
import QueryStream.Proofs.Engine.Offering

set_option autoImplicit false

namespace QueryStream

/-! ## Courses -/

namespace Instruction

/-- Whether an instruction is one by which a channel tells consumers something. -/
def isTidings : Instruction → Bool
  | .tellRecord _ _ => true
  | .tellEnd _ _ => true
  | .tellSummary _ _ _ => true
  | .ask (.endOutside _) => true
  | _ => false

/-- Whether an instruction is one that outside code or a channel outside can put on the
agenda. -/
def isForeseen (i : Instruction) : Bool := i.isCall || i.isTidings

end Instruction

/-- The answers to an ask. -/
inductive Responds : Ask → Reply → Prop
  | notice {a : Ask} (h : a.isNotice = true) : Responds a (.go [])
  | go {a : Ask} {next : List Instruction} (h : a.isNotice = false)
      (made : ∀ i ∈ next, i.isForeseen = true) : Responds a (.go next)
  | raise {a : Ask} (th : Thrown) (h : a.isNotice = false) : Responds a (.raise th)
  /-- the connection was given back -/
  | released (t : TaskId) : Responds (.runRelease t) (.go [.finish t .nothing])
  /-- giving the connection back does not come to an end -/
  | unending (t : TaskId) : Responds (.runRelease t) (.go [.awaitNever t])

/-- What can happen after a history. -/
structure Admits (h : List Move) (m : Move) : Prop where
  responds : ∀ a r, m = .answered a r → Responds a r
  calls : ∀ next, m = .called next → ∀ i ∈ next, i.isForeseen = true
  /-- who cancels a promise was handed it -/
  holds : ∀ p r, m = .carried (.cancelPromise p) r →
    ∃ name, .answered (.promise name p) (.go []) ∈ h

/-- A course from a situation, with its history, latest first. -/
inductive Course (start : Situation) : List Move → Situation → Prop
  | nil : Course start [] start
  | snoc {h : List Move} {s s' : Situation} {m : Move} (course : Course start h s)
      (step : Step s m s') (admits : Admits h m) : Course start (m :: h) s'

/-- What holds at the start and is kept by every move holds throughout. -/
theorem Course.invariant {start : Situation} {I : List Move → Situation → Prop}
    (base : I [] start)
    (kept : ∀ {h : List Move} {s s' : Situation} {m : Move},
      I h s → Step s m s' → Admits h m → I (m :: h) s')
    {h : List Move} {s : Situation} (course : Course start h s) : I h s := by
  induction course with
  | nil => exact base
  | snoc _ step admits ih => exact kept ih step admits

theorem Course.unique {start : Situation} {h : List Move} {s₁ s₂ : Situation}
    (first : Course start h s₁) (second : Course start h s₂) : s₁ = s₂ := by
  induction first generalizing s₂ with
  | nil => cases second; rfl
  | snoc course step admits ih =>
      cases second with
      | snoc course' step' admits' =>
          obtain rfl := ih course'
          exact step.unique step'

/-- Every move of a course was made from where a course led. -/
theorem Course.exists_step_of_append {start : Situation} {m : Move} :
    ∀ {later earlier : List Move} {s : Situation}, Course start (later ++ m :: earlier) s →
      ∃ s₁ s₂, Course start earlier s₁ ∧ Step s₁ m s₂ ∧ Course start (m :: earlier) s₂ := by
  intro later
  induction later with
  | nil =>
      intro earlier s course
      cases course with
      | snoc course step admits => exact ⟨_, _, course, step, course.snoc step admits⟩
  | cons m' later ih =>
      intro earlier s course
      cases course with
      | snoc course _ _ => exact ih course

/-- What holds where a course led and is kept by every move that follows holds from there on. -/
theorem Course.following {start s₁ : Situation} {earlier : List Move}
    {I : List Move → Situation → Prop} (before : Course start earlier s₁) (base : I [] s₁)
    (kept : ∀ {later : List Move} {s s' : Situation} {m : Move},
      I later s → Course start (later ++ earlier) s → Step s m s' →
      Admits (later ++ earlier) m → I (m :: later) s') :
    ∀ {later : List Move} {s : Situation}, Course start (later ++ earlier) s → I later s := by
  intro later
  induction later with
  | nil =>
      intro s course
      exact before.unique course ▸ base
  | cons m later ih =>
      intro s course
      cases course with
      | snoc course step admits => exact kept (ih course) course step admits

/-! ## What comes from outside -/

section Outside

variable {h : List Move} {m : Move} {i : Instruction}

theorem Admits.outside (admits : Admits h m) (mem : i ∈ m.outside) :
    i.isForeseen = true ∨ (∃ t, i = .finish t .nothing) ∨ ∃ t, i = .awaitNever t := by
  cases m with
  | answered a r =>
      cases admits.responds a r rfl with
      | notice _ => cases mem
      | go _ made => exact .inl (made i mem)
      | raise th _ => cases mem
      | released t => exact .inr (.inl ⟨t, List.mem_singleton.1 mem⟩)
      | unending t => exact .inr (.inr ⟨t, List.mem_singleton.1 mem⟩)
  | called next => exact .inl (admits.calls next rfl i mem)
  | _ => cases mem

/-- The promise that an instruction is to settle. -/
def Instruction.settled? : Instruction → Option PromiseId
  | .settle p _ => some p
  | _ => none

/-- What neither settles nor offers a promise nor queues a job that follows one. -/
structure Instruction.Plain (i : Instruction) : Prop where
  settled : i.settled? = none
  offered : i.offered? = none
  steady : i.isStray = false

theorem Instruction.plain_of_isForeseen (foreseen : i.isForeseen = true) : i.Plain := by
  cases i with
  | soon j => cases j <;> first | exact ⟨rfl, rfl, rfl⟩ | cases foreseen
  | ask a => cases a <;> first | exact ⟨rfl, rfl, rfl⟩ | cases foreseen
  | _ => first | exact ⟨rfl, rfl, rfl⟩ | cases foreseen

theorem Admits.plain (admits : Admits h m) (mem : i ∈ m.outside) : i.Plain := by
  rcases admits.outside mem with foreseen | ⟨t, rfl⟩ | ⟨t, rfl⟩
  · exact Instruction.plain_of_isForeseen foreseen
  · exact ⟨rfl, rfl, rfl⟩
  · exact ⟨rfl, rfl, rfl⟩

end Outside

/-! ## What is brought onto the agenda -/

section Steps

variable {h : List Move} {s s' : Situation} {m : Move}

theorem Engine.steady_exec {e : Engine} {i j : Instruction} (mem : j ∈ (e.exec i).2.next) :
    j.isStray = false := by
  cases hstream : i.isStream with
  | false => exact ((e.keeps_exec hstream).next j mem).steady
  | true =>
      cases i with
      | stream a =>
          simp only [exec, stepStream] at mem
          split at mem
          · obtain ⟨effect, _, rfl⟩ := List.mem_map.1 mem
            cases effect <;> rfl
          · cases mem
      | _ => simp [Instruction.isStream] at hstream

theorem Step.steady_of_admits (step : Step s m s') (admits : Admits h m)
    (steady : ∀ i ∈ s.agenda, i.isStray = false) : ∀ i ∈ s'.agenda, i.isStray = false := by
  intro j hj
  cases step with
  | carry own =>
      rcases Reply.mem_onto hj with hj | hj | ⟨g, th, rfl⟩
      · exact steady j (List.mem_cons_of_mem _ hj)
      · exact Engine.steady_exec hj
      · rfl
  | answer r =>
      rcases Reply.mem_onto hj with hj | hj | ⟨g, th, rfl⟩
      · exact steady j (List.mem_cons_of_mem _ hj)
      · exact (admits.plain hj).steady
      · rfl
  | begin next => exact ((Engine.began_runJob _ _).next j hj).2.2
  | call next => exact (admits.plain hj).steady

/-- A cursor that is about to resolve its outcome. -/
structure Resolving (s : Situation) (p : PromiseId) (st : Settlement Delivery Failure)
    (id : CursorId) (a : Cursor.Action) : Prop where
  head : ∃ rest, s.agenda = .cursor id a :: rest
  verdict : a.verdict? = some st
  plays : s.engine.Plays p (.outcome id)

/-- Only a cursor that resolves its outcome settles a promise. -/
theorem Engine.Leads.of_settle {e : Engine} {i j : Instruction} {p : PromiseId}
    {st : Settlement Delivery Failure} (leads : e.Leads i j) (heq : j = .settle p st) :
    ∃ id a, i = .cursor id a ∧ a.verdict? = some st ∧ e.Plays p (.outcome id) := by
  cases leads with
  | @stream _ _ _ effect => cases effect <;> cases heq
  | @cursor id a c next effects effect found accepted yields =>
      have steps := Cursor.steps_of_step accepted
      cases steps.yields yields with
      | resolve verdict =>
          obtain ⟨outcome, rfl⟩ := Instruction.settle.inj heq
          exact ⟨id, a, rfl, verdict, .outcome found (steps.outcome.symm.trans outcome)⟩
      | _ => cases heq
  | iteration found effects among | left th found effects among =>
      cases puts_of_mem among <;> cases heq
  | hand q receives among => cases hands_of_mem among <;> cases heq
  | body among => cases setsOut_of_mem among <;> cases heq
  | exhausted among =>
      obtain ⟨d, rfl⟩ := finish_of_mem_exhausted among
      cases heq
  | _ => cases heq

/-- What settles a promise was on the agenda, or a cursor has just resolved its outcome. -/
theorem Step.settle_mem {p : PromiseId} {st : Settlement Delivery Failure}
    (step : Step s m s') (admits : Admits h m) (mem : .settle p st ∈ s'.agenda) :
    .settle p st ∈ s.agenda.tail ∨ ∃ id a, Resolving s p st id a := by
  cases step with
  | @carry e i rest own =>
      rcases Reply.mem_onto mem with mem | mem | ⟨g, th, heq⟩
      · exact .inl mem
      · obtain ⟨id, a, rfl, verdict, plays⟩ := (Engine.leads_exec mem).of_settle rfl
        exact .inr ⟨id, a, ⟨rest, rfl⟩, verdict, plays⟩
      · cases heq
  | answer r =>
      rcases Reply.mem_onto mem with mem | mem | ⟨g, th, heq⟩
      · exact .inl mem
      · cases (admits.plain mem).settled
      · cases heq
  | begin next =>
      have inner := ((Engine.began_runJob _ _).next _ mem).1
      cases inner
  | call next => cases (admits.plain mem).settled

/-! ## What a course keeps -/

/-- Nothing was asked of an engine yet. -/
structure Engine.Pristine (e : Engine) : Prop where
  cursors : e.cursors = #[]
  tasks : e.tasks = #[]
  iterations : e.iterations = #[]
  releases : ∀ r ∈ e.releases, r.promise = none
  loop : e.loop = .idle

/-- Promises that play a role, are offered or are waited for were created, and those that
are to be settled are the outcomes of cursors. -/
structure Orderly (h : List Move) (s : Situation) : Prop where
  steady : ∀ i ∈ s.agenda, i.isStray = false
  sound : s.engine.loop.Sound
  bounded : s.engine.Bounded
  offered : ∀ i ∈ s.agenda, ∀ p, i.offered? = some p → p < s.engine.loop.promises.size
  awaited : ∀ p, s.engine.Awaits p → p < s.engine.loop.promises.size
  handed : ∀ name p r, .answered (.promise name p) r ∈ h → p < s.engine.loop.promises.size
  settles : ∀ p st, .settle p st ∈ s.agenda → ∃ id, s.engine.Plays p (.outcome id)

/-- The outcome of a cursor is that cursor's ever after. -/
theorem Engine.Onward.plays_outcome {e e' : Engine} (onward : e.Onward e') {p : PromiseId}
    {id : CursorId} (plays : e.Plays p (.outcome id)) : e'.Plays p (.outcome id) := by
  cases plays with
  | outcome found outcome =>
      obtain ⟨c', found', outcome'⟩ := onward.outcome found
      exact .outcome found' (outcome'.trans outcome)

theorem Engine.Pristine.orderly {e : Engine} (pristine : e.Pristine) : Orderly [] ⟨e, []⟩ where
  steady := by simp
  sound := by
    rw [pristine.loop]
    exact Loop.sound_idle
  bounded := by
    intro p r plays
    cases plays with
    | task found _ => simp [pristine.tasks] at found
    | signal found _ => simp [pristine.iterations] at found
    | outcome found _ => simp [pristine.cursors] at found
    | release found promise =>
        have idle := pristine.releases _ (Array.mem_of_getElem? found)
        simp [idle] at promise
    | target held _ =>
        rw [pristine.loop] at held
        cases held with
        | ready mem => cases mem
        | waiting found _ => simp [Loop.idle] at found
  offered := by simp
  awaited := by
    rintro p ⟨t, task, found, _⟩
    simp [pristine.tasks] at found
  handed := by simp
  settles := by simp

theorem Orderly.step (orderly : Orderly h s) (step : Step s m s') (admits : Admits h m) :
    Orderly (m :: h) s' := by
  have onward := step.onward orderly.steady
  have recalls := step.recalls orderly.steady
  have grows : ∀ {p : PromiseId}, p < s.engine.loop.promises.size →
      p < s'.engine.loop.promises.size := fun lt => Nat.lt_of_lt_of_le lt onward.size_le
  refine ⟨step.steady_of_admits admits orderly.steady, orderly.sound.step step orderly.steady,
    orderly.bounded.step recalls, fun j hj p offered => ?_, fun p awaits => ?_,
    fun name p r mem => ?_, fun p st mem => ?_⟩
  · rcases step.offering hj offered with mem | mem | ⟨i, mem, offering⟩
    · exact grows (orderly.offered j mem p offered)
    · simp [(admits.plain mem).offered] at offered
    · cases offering with
      | passed offered => exact grows (orderly.offered i mem p offered)
      | release plays => exact grows (orderly.bounded p _ plays)
      | resolved done =>
          obtain ⟨st, settled⟩ := Option.isSome_iff_exists.1 done
          exact grows (Loop.lt_size_of_settlement? settled)
      | created fresh => exact fresh.2
  · rcases step.awaits awaits with awaits | ⟨i, mem, offered⟩
    · exact grows (orderly.awaited p awaits)
    · exact grows (orderly.offered i mem p offered)
  · rcases List.mem_cons.1 mem with rfl | mem
    · cases step with
      | answer r => exact orderly.offered _ (List.mem_cons_self ..) p rfl
    · exact grows (orderly.handed name p r mem)
  · rcases step.settle_mem admits mem with mem | ⟨id, a, resolving⟩
    · obtain ⟨id, plays⟩ := orderly.settles p st (List.mem_of_mem_tail mem)
      exact ⟨id, onward.plays_outcome plays⟩
    · exact ⟨id, onward.plays_outcome resolving.plays⟩

/-- Every course from where nothing was asked keeps order. -/
theorem Course.orderly {e : Engine} (pristine : e.Pristine) (course : Course ⟨e, []⟩ h s) :
    Orderly h s :=
  course.invariant pristine.orderly fun orderly step admits => orderly.step step admits

end Steps

/-! ## Runs -/

/-- Promises are cancelled only by who was handed them. -/
def Conduct.Holds (c : Conduct) : Prop :=
  ∀ h p r, c.keeps h (.carried (.cancelPromise p) r) →
    ∃ name, .answered (.promise name p) (.go []) ∈ h

theorem Conduct.Permits.admits {c : Conduct} {h : List Move} {m : Move}
    (permitted : c.Permits h m) (holds : c.Holds) : Admits h m where
  responds := by
    rintro a r rfl
    have answers : c.Answers a r := permitted.2
    cases answers with
    | notice silent => exact .notice silent
    | calls loud made caught =>
        exact .go loud fun i hi => by simp [Instruction.isForeseen, (made i hi).1]
    | raise th loud wild => exact .raise th loud
    | released t => exact .released t
    | unending t => exact .unending t
  calls := by
    rintro next rfl i hi
    have made : ∀ i ∈ next, c.Calls i := permitted.2
    simp [Instruction.isForeseen, (made i hi).1]
  holds := by
    rintro p r rfl
    exact holds h p r permitted.1

/-- A run is a course, if promises are cancelled only by who was handed them. -/
theorem Run.course {c : Conduct} {start s : Situation} {h : List Move} (holds : c.Holds)
    (run : Run c start h s) : Course start h s :=
  run.invariant .nil fun course step permitted => course.snoc step (permitted.admits holds)

/-! ## Courses that are worked out -/

/-- Whether a history shows that a promise was handed out. -/
def wasHanded (p : PromiseId) (h : List Move) : Bool :=
  h.any fun
    | .answered (.promise _ q) (.go []) => q == p
    | _ => false

/-- Whether a move can happen after a history. -/
def Move.isAdmitted (h : List Move) : Move → Bool
  | .answered a (.go next) => if a.isNotice then next.isEmpty else next.all Instruction.isForeseen
  | .answered a (.raise _) => !a.isNotice
  | .answered _ _ => false
  | .called next => next.all Instruction.isForeseen
  | .carried (.cancelPromise p) _ => wasHanded p h
  | _ => true

/-- Whether every move of a history can happen after those before it. -/
def allAdmitted : List Move → Bool
  | [] => true
  | m :: h => m.isAdmitted h && allAdmitted h

theorem Admits.of_isAdmitted {h : List Move} {m : Move} (admitted : m.isAdmitted h = true) :
    Admits h m where
  responds := by
    rintro a r rfl
    cases r with
    | go next =>
        simp only [Move.isAdmitted] at admitted
        cases notice : a.isNotice with
        | true =>
            simp only [notice, if_true, List.isEmpty_iff] at admitted
            exact admitted ▸ .notice notice
        | false => exact .go notice (by simpa [notice] using admitted)
    | raise th => exact .raise th (by simpa [Move.isAdmitted] using admitted)
    | _ => cases admitted
  calls := by
    rintro next rfl
    simpa [Move.isAdmitted] using admitted
  holds := by
    rintro p r rfl
    simp only [Move.isAdmitted, wasHanded, List.any_eq_true] at admitted
    obtain ⟨m, mem, handed⟩ := admitted
    split at handed
    · rename_i name q
      obtain rfl : q = p := by simpa using handed
      exact ⟨name, mem⟩
    · cases handed

theorem allAdmitted_of_suffix {h h' : List Move} (suffix : h <:+ h')
    (admitted : allAdmitted h' = true) : allAdmitted h = true := by
  obtain ⟨later, rfl⟩ := suffix
  induction later with
  | nil => exact admitted
  | cons m later ih =>
      simp only [List.cons_append, allAdmitted, Bool.and_eq_true] at admitted
      exact ih admitted.2

section Worked

variable {start s s' : Situation} {h moves : List Move}

theorem Course.append (course : Course start h s)
    (one : moves = [] ∧ s' = s ∨ ∃ m, moves = [m] ∧ Step s m s')
    (admitted : allAdmitted (moves ++ h) = true) : Course start (moves ++ h) s' := by
  rcases one with ⟨rfl, rfl⟩ | ⟨m, rfl, step⟩
  · exact course
  · simp only [List.cons_append, List.nil_append, allAdmitted, Bool.and_eq_true] at admitted
    exact course.snoc step (.of_isAdmitted admitted.1)

theorem Situation.step_advance (s : Situation) :
    s.advance.1 = [] ∧ s.advance.2 = s ∨ ∃ m, s.advance.1 = [m] ∧ Step s m s.advance.2 := by
  obtain ⟨e, agenda⟩ := s
  cases agenda with
  | nil => exact .inl ⟨rfl, rfl⟩
  | cons i rest =>
      refine .inr ?_
      cases i with
      | ask a => exact ⟨_, rfl, .answer (.go [])⟩
      | _ => exact ⟨_, rfl, .carry rfl⟩

theorem Situation.step_act (s : Situation) (a : Act) :
    (s.act a).1 = [] ∧ (s.act a).2 = s ∨ ∃ m, (s.act a).1 = [m] ∧ Step s m (s.act a).2 := by
  obtain ⟨e, agenda⟩ := s
  cases agenda with
  | cons i rest => exact .inl ⟨rfl, rfl⟩
  | nil =>
      cases a with
      | calls next => exact .inr ⟨_, rfl, .call next⟩
      | job =>
          cases found : e.loop.next? with
          | none => simp [Situation.act, found]
          | some taken =>
              obtain ⟨j, loop⟩ := taken
              refine .inr ⟨.began j, ?_⟩
              simp only [Situation.act, found]
              exact ⟨trivial, .begin found⟩

theorem Course.advances : ∀ (n : Nat) {h : List Move} {s : Situation},
    allAdmitted (Situation.advances n (h, s)).1 = true → Course start h s →
      Course start (Situation.advances n (h, s)).1 (Situation.advances n (h, s)).2 := by
  intro n
  induction n with
  | zero => exact fun _ course => course
  | succ n ih =>
      intro h s admitted course
      have suffix := Situation.suffix_advances n (s.advance.1 ++ h) s.advance.2
      exact ih admitted (course.append s.step_advance (allAdmitted_of_suffix suffix admitted))

theorem Course.acts (n : Nat) : ∀ (acts : List Act) {h : List Move} {s : Situation},
    allAdmitted (Situation.acts n acts (h, s)).1 = true → Course start h s →
      Course start (Situation.acts n acts (h, s)).1 (Situation.acts n acts (h, s)).2 := by
  intro acts
  induction acts with
  | nil => exact fun _ course => course
  | cons a later ih =>
      intro h s admitted course
      have suffix := Situation.suffix_acts n later
        (Situation.advances n ((s.act a).1 ++ h, (s.act a).2)).1
        (Situation.advances n ((s.act a).1 ++ h, (s.act a).2)).2
      have behind := allAdmitted_of_suffix suffix admitted
      have first := course.append (s.step_act a)
        (allAdmitted_of_suffix (Situation.suffix_advances n _ _) behind)
      exact ih admitted (first.advances n behind)

theorem Course.of_acts {n : Nat} {acts : List Act} {point : List Move × Situation}
    (worked : point = Situation.acts n acts ([], start)) (admitted : allAdmitted point.1 = true) :
    Course start point.1 point.2 := by
  subst worked
  exact .acts n acts admitted .nil

end Worked

end QueryStream
