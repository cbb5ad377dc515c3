/-
  Proofs/Engine/Offering.lean --- who is offered a promise.

  A promise can be cancelled by who holds it: by a caller whom it was handed to, or by a
  task that waits for it.  Both were offered it, and what is offered was offered before, is
  the promise of a release or is settled, or is new (`Step.offering`).
-/
import QueryStream.Proofs.Engine.Leads
import QueryStream.Proofs.Engine.Settling

set_option autoImplicit false

namespace QueryStream

/-! ## Who is offered a promise -/

/-- The promise that an instruction offers to a caller or to a task. -/
def Instruction.offered? : Instruction → Option PromiseId
  | .hand _ p => some p
  | .await _ p => some p
  | .ask (.promise _ p) => some p
  | _ => none

/-- Whether an instruction hands out a promise, or has a task wait for one. -/
def Instruction.isOffering : Instruction → Bool
  | .relay _ _ | .reportFailure _ _ | .keep _ _ | .hand _ _ | .spawn _ _ => true
  | .release _ _ | .startRelease _ _ => true
  | .awaitNever _ | .awaitSignal _ _ => true
  | _ => false

namespace Engine

/-- How an instruction that leads from one engine to another comes to offer a promise. -/
inductive Offering (e : Engine) (i : Instruction) (e' : Engine) (p : PromiseId) : Prop
  /-- it was offered already -/
  | passed (offered : i.offered? = some p)
  /-- it is that of a release -/
  | release {r : ReleaseId} (plays : e.Plays p (.release r))
  /-- it is settled -/
  | resolved (done : e.loop.isDone p = true)
  /-- it is new -/
  | created (fresh : e.Created e' p)

variable {e e' : Engine} {p q : PromiseId} {i j : Instruction}

theorem eq_of_offered_hand {receiver : Receiver} (mem : j ∈ hand receiver q)
    (offered : j.offered? = some p) : q = p := by
  cases receiver with
  | nobody => cases mem
  | caller name =>
      obtain rfl := List.mem_singleton.1 mem
      exact Option.some.inj offered
  | task t =>
      obtain rfl := List.mem_singleton.1 mem
      exact Option.some.inj offered

/-- What is handed out is that of which one is offered. -/
theorem Offering.of_hand {receiver : Receiver} (mem : j ∈ hand receiver q)
    (offered : j.offered? = some p) (offering : e.Offering i e' q) : e.Offering i e' p :=
  eq_of_offered_hand mem offered ▸ offering

theorem offering_relay {id : CursorId} {receiver : Receiver}
    (mem : j ∈ (e.relay id receiver).2.next) (offered : j.offered? = some p) :
    e.Offering i (e.relay id receiver).1 p := by
  unfold relay at mem ⊢
  split at mem
  · cases mem
  · rename_i c found
    split at mem
    · rename_i done
      simp only [done, if_true]
      exact .of_hand mem offered (.resolved done)
    · rename_i pending
      simp only [pending, if_false, Bool.false_eq_true]
      refine .of_hand mem offered (.created ⟨Nat.le_refl _, ?_⟩)
      simp [Loop.size_watch, Loop.create, Loop.nextId]

theorem offering_reportFailure {id : CursorId} {receiver : Receiver}
    (mem : j ∈ (e.reportFailure id receiver).2.next) (offered : j.offered? = some p) :
    e.Offering i (e.reportFailure id receiver).1 p := by
  unfold reportFailure at mem ⊢
  split at mem
  · cases mem
  · refine .of_hand mem offered (.created ⟨Nat.le_refl _, ?_⟩)
    simp [Loop.size_watch, Loop.create, Loop.nextId]

theorem offering_release {id : ReleaseId} {receiver : Receiver}
    (mem : j ∈ (e.exec (.release id receiver)).2.next) (offered : j.offered? = some p) :
    e.Offering i (e.exec (.release id receiver)).1 p := by
  obtain ⟨e', next, exec, invokes⟩ := e.exec_release id receiver
  rw [exec] at mem ⊢
  cases invokes with
  | absent => cases mem
  | reused found promise =>
      simp only [Reply.next_go, List.mem_cons, List.not_mem_nil, or_false] at mem
      rcases mem with rfl | rfl
      · cases offered
      · obtain rfl := Option.some.inj offered
        exact .release (.release found promise)
  | made found =>
      obtain rfl := List.mem_singleton.1 mem
      obtain rfl := Option.some.inj offered
      exact .created ⟨Nat.le_refl _, by simp [Loop.createSettled, Loop.nextId]⟩
  | called found =>
      simp only [Reply.next_go, List.mem_cons, List.not_mem_nil, or_false] at mem
      rcases mem with rfl | rfl | rfl <;> cases offered

/-- What offers a promise comes from what hands one out. -/
theorem Leads.isOffering (leads : e.Leads i j) (offered : j.offered? = some p) :
    i.isOffering = true := by
  cases leads with
  | @stream _ _ _ effect => cases effect <;> cases offered
  | @cursor _ _ _ _ _ effect => cases effect <;> cases offered
  | iteration found effects among | left th found effects among =>
      cases puts_of_mem among <;> cases offered
  | hand q receives among => cases i <;> first | rfl | cases receives
  | body among => cases setsOut_of_mem among <;> cases offered
  | exhausted among =>
      obtain ⟨d, rfl⟩ := finish_of_mem_exhausted among
      cases offered
  | released | releasing | awaitNever | awaitSignal => rfl
  | _ => cases offered

theorem offering_exec (mem : j ∈ (e.exec i).2.next) (offered : j.offered? = some p) :
    e.Offering i (e.exec i).1 p := by
  cases i with
  | relay id receiver => exact offering_relay mem offered
  | reportFailure id receiver => exact offering_reportFailure mem offered
  | keep receiver d =>
      refine .of_hand mem offered (.created ⟨Nat.le_refl _, ?_⟩)
      simp [exec, keep, Loop.createSettled, Loop.nextId]
  | release r receiver => exact offering_release mem offered
  | startRelease r receiver =>
      obtain rfl := List.mem_singleton.1 mem
      obtain rfl := Option.some.inj offered
      refine .created ⟨Nat.le_refl _, ?_⟩
      simp [exec, startRelease, goOn, spawn, Loop.size_watch, Loop.soon, Loop.create, Loop.nextId]
  | hand receiver q => exact .of_hand mem offered (.passed rfl)
  | spawn w receiver =>
      refine .of_hand mem offered (.created ⟨Nat.le_refl _, ?_⟩)
      simp [exec, spawn, Loop.soon, Loop.create, Loop.nextId]
  | awaitNever t =>
      obtain rfl := List.mem_singleton.1 mem
      obtain rfl := Option.some.inj offered
      exact .created ⟨Nat.le_refl _, by simp [exec, withLoop, Loop.create, Loop.nextId]⟩
  | awaitSignal i t =>
      obtain rfl := List.mem_singleton.1 mem
      obtain rfl := Option.some.inj offered
      refine .created ⟨Nat.le_refl _, ?_⟩
      simp [exec, awaitSignal, goOn, modifyIteration, withLoop, Loop.create, Loop.nextId]
  | _ => cases (leads_exec mem).isOffering offered

theorem offered?_runJob {k : Job} (mem : j ∈ (e.runJob k).2) : j.offered? = none := by
  cases leadsBy_runJob mem <;> rfl

/-! ### Tasks that wait -/

theorem awaits_modifyTask {t : TaskId} {f : Task → Task} (awaits : (e.modifyTask t f).Awaits p)
    (kept : ∀ task q, (f task).waitingFor = some q → task.waitingFor = some q) :
    e.Awaits p := by
  obtain ⟨u, task, found, waits⟩ := awaits
  simp only [modifyTask, Array.getElem?_modify] at found
  split at found
  · obtain ⟨earlier, found, rfl⟩ := Option.map_eq_some_iff.1 found
    exact ⟨u, earlier, by simp_all, kept earlier p waits⟩
  · exact ⟨u, task, found, waits⟩

theorem awaits_spawn {w : Work} (awaits : (e.spawn w).Awaits p) : e.Awaits p := by
  obtain ⟨u, task, found, waits⟩ := awaits
  simp only [spawn, Array.getElem?_push] at found
  split at found
  · obtain rfl := Option.some.inj found
    cases waits
  · exact ⟨u, task, found, waits⟩

theorem awaits_cancel (awaits : (e.cancel q).Awaits p) : e.Awaits p := by
  unfold cancel at awaits
  split at awaits
  · exact awaits
  · split at awaits
    · exact awaits
    · split at awaits
      · split at awaits
        · exact awaits_modifyTask awaits fun _ _ h => h
        · exact awaits
      · exact awaits_modifyTask awaits fun _ _ h => h

theorem awaits_endTask {t : TaskId} {s : Settlement Delivery Failure}
    (awaits : (e.endTask t s).Awaits p) : e.Awaits p := by
  unfold endTask at awaits
  split at awaits <;> exact awaits

theorem awaits_signal {i : IterationId} {s : Signal} (awaits : (e.signal i s).Awaits p) :
    e.Awaits p := by
  unfold signal at awaits
  split at awaits
  · exact awaits
  · split at awaits <;> exact awaits

theorem awaits_waiting {t : TaskId} {task : Task} (awaits : (e.waiting t task q).Awaits p) :
    e.Awaits p ∨ q = p := by
  obtain ⟨u, task', found, waits⟩ := awaits
  simp only [waiting, Array.getElem?_setIfInBounds] at found
  split at found
  · split at found
    · obtain rfl := Option.some.inj found
      exact .inr (Option.some.inj waits)
    · cases found
  · exact .inl ⟨u, task', found, waits⟩

/-- Whatever an instruction changes, a task waits for what it waited for, or for what it was
offered. -/
theorem Alters.awaits (alters : e.Alters i e') (awaits : e'.Awaits p) :
    e.Awaits p ∨ i.offered? = some p := by
  cases alters with
  | record | ended => exact .inl (awaits_signal awaits)
  | handIteration | collect => exact .inl (awaits_modifyTask awaits fun _ _ h => h)
  | startRelease => exact .inl (awaits_spawn (w := .release) awaits)
  | spawn => exact .inl (awaits_spawn awaits)
  | cancel => exact .inl (awaits_cancel awaits)
  | await q found | awaitCancelled q found =>
      refine (awaits_waiting (q := q) awaits).imp_right ?_
      rintro rfl
      rfl
  | finish | caught => exact .inl (awaits_endTask awaits)
  | _ => exact .inl awaits

/-- A task waits for what it waited for, or for what it was offered. -/
theorem awaits_exec (awaits : (e.exec i).1.Awaits p) : e.Awaits p ∨ i.offered? = some p :=
  (alters_exec i).awaits awaits

theorem awaits_runJob {k : Job} (awaits : (e.runJob k).1.Awaits p) : e.Awaits p := by
  generalize (e.runJob k).1 = e', altersBy_runJob (e := e) k = alters at awaits
  cases alters with
  | cancelled => exact awaits_endTask awaits
  | resumed => exact awaits_modifyTask awaits fun _ _ h => by cases h
  | abandoned => exact awaits_spawn awaits
  | _ => exact awaits

end Engine

/-! ## Moves -/

/-- What a move has from outside. -/
def Move.outside : Move → List Instruction
  | .answered _ r => r.next
  | .called next => next
  | _ => []

section Steps

variable {s s' : Situation} {m : Move} {p : PromiseId}

/-- What comes from outside is called, or ends the task that gives the connection back, or has
it wait for ever. -/
theorem Conduct.Permits.outside {c : Conduct} {h : List Move} {i : Instruction}
    (permitted : c.Permits h m) (mem : i ∈ m.outside) :
    c.Calls i ∨ (∃ t, i = .finish t .nothing) ∨ ∃ t, i = .awaitNever t := by
  cases m with
  | answered a r =>
      cases permitted.2 with
      | notice told => cases mem
      | calls told made caught => exact .inl (made i mem)
      | raise th told wild => cases mem
      | released t => exact .inr (.inl ⟨t, List.mem_singleton.1 mem⟩)
      | unending t => exact .inr (.inr ⟨t, List.mem_singleton.1 mem⟩)
  | called next => exact .inl (permitted.2 i mem)
  | _ => cases mem

/-- What offers a promise after a move did so before, comes from outside, or was brought
about by what offered it, by a release or by a resolved outcome; or the promise is new. -/
theorem Step.offering (step : Step s m s') {j : Instruction} (mem : j ∈ s'.agenda)
    (offered : j.offered? = some p) :
    j ∈ s.agenda ∨ j ∈ m.outside ∨ ∃ i ∈ s.agenda, s.engine.Offering i s'.engine p := by
  have onto : ∀ {r : Reply} {rest : List Instruction}, j ∈ r.onto rest →
      j ∈ rest ∨ j ∈ r.next := by
    intro r rest hj
    obtain ⟨front, tail, heq, leaves, hfront⟩ := r.exists_onto rest
    rw [heq] at hj
    rcases List.mem_append.1 hj with hj | hj
    · rcases hfront with rfl | ⟨g, th, rfl, _⟩
      · exact .inr hj
      · obtain rfl := List.mem_singleton.1 hj
        cases offered
    · exact .inl (leaves.suffix.mem hj)
  cases step with
  | @carry e i rest own =>
      rcases onto mem with hj | hj
      · exact .inl (List.mem_cons_of_mem _ hj)
      · exact .inr (.inr ⟨i, by simp, Engine.offering_exec hj offered⟩)
  | answer r =>
      rcases onto mem with hj | hj
      · exact .inl (List.mem_cons_of_mem _ hj)
      · exact .inr (.inl hj)
  | call next => exact .inr (.inl mem)
  | begin next => simp [Engine.offered?_runJob mem] at offered

/-- A task waits for what it waited for, or for what it was offered. -/
theorem Step.awaits (step : Step s m s') (awaits : s'.engine.Awaits p) :
    s.engine.Awaits p ∨ ∃ i ∈ s.agenda, i.offered? = some p := by
  cases step with
  | @carry e i rest own =>
      exact (Engine.awaits_exec awaits).imp_right fun offered => ⟨i, by simp, offered⟩
  | answer r => exact .inl awaits
  | call next => exact .inl awaits
  | @begin e j loop next => exact .inl (Engine.awaits_runJob (e := { e with loop }) awaits)

end Steps

end QueryStream
