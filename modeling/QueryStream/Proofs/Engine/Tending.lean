/-
  Proofs/Engine/Tending.lean --- what a move does to an iteration.

  An iteration changes by its own steps, by being left, and by what it is told; whatever else is
  carried out leaves it as it is, but for the promise of a signal (`Step.tended`).  An iteration
  that comes to be is one of which nothing was read (`Step.made`).  A batch is fetched only when a
  record is asked of it (`Step.of_fetch`), and asked for only when it is fetched
  (`Step.of_requested`).
-/
import QueryStream.Proofs.Engine.Duty
import QueryStream.Proofs.Engine.Origin
import QueryStream.Proofs.Reading.Reader

set_option autoImplicit false

namespace QueryStream

/-- Whether an instruction changes an iteration. -/
def Instruction.tends (k : IterationId) : Instruction → Bool
  | .iteration j _ _ => j == k
  | .tellRecord (.feed j) _ => j == k
  | .tellEnd (.feed j) _ => j == k
  | .caught (.iteration j) _ => j == k
  | _ => false

/-- What a move does to an iteration. -/
inductive Tended (k : IterationId) (s : Situation) (it : Iteration) : Iteration → Prop
  | apart (awaited : Option PromiseId) (other : ∀ i ∈ s.agenda.head?, i.tends k = false) :
      Tended k s it { it with awaited }
  | stepped {t : TaskId} {a : Iteration.Action} {rest : List Instruction}
      (head : s.agenda = .iteration k t a :: rest) : Tended k s it (it.step a).1
  | record {r : Record} {rest : List Instruction}
      (head : s.agenda = .tellRecord (.feed k) r :: rest) :
      Tended k s it { it with signals := it.signals ++ [.record r], awaited := none }
  | ended {f : Option Failure} {rest : List Instruction}
      (head : s.agenda = .tellEnd (.feed k) f :: rest) :
      Tended k s it { it with signals := it.signals ++ [.finish f], awaited := none }
  | left {th : Thrown} {rest : List Instruction}
      (head : s.agenda = .caught (.iteration k) th :: rest) : Tended k s it it.leave.1

/-- An iteration that is left is closed, and else as it was, but for the promise of a signal. -/
theorem Iteration.exists_leave (it : Iteration) :
    ∃ awaited, it.leave.1 = { it with phase := .closed, awaited } := by
  unfold Iteration.leave
  split
  · rename_i closed
    exact ⟨it.awaited, by rw [← closed]⟩
  · exact ⟨none, rfl⟩

section Tending

variable {h : List Move} {s s' : Situation} {m : Move} {e e' : Engine} {i j : Instruction}
  {k : IterationId} {it : Iteration}

namespace Engine

theorem getElem?_signal (found : e.iterations[k]? = some it) (signal : Signal) :
    (e.signal k signal).iterations[k]?
      = some { it with signals := it.signals ++ [signal], awaited := none } := by
  have told : (e.modifyIteration k fun iteration =>
      { iteration with signals := iteration.signals ++ [signal], awaited := none }).iterations[k]?
        = some { it with signals := it.signals ++ [signal], awaited := none } := by
    simp [modifyIteration, Array.getElem?_modify, found]
  simp only [Engine.signal, found]
  split <;> exact told

theorem getElem?_signal_of_ne {n : IterationId} (other : n ≠ k) (signal : Signal) :
    (e.signal n signal).iterations[k]? = e.iterations[k]? := by
  have told : (e.modifyIteration n fun iteration =>
      { iteration with signals := iteration.signals ++ [signal], awaited := none }).iterations[k]?
        = e.iterations[k]? := by
    simp [modifyIteration, Array.getElem?_modify, other]
  unfold Engine.signal
  split
  · rfl
  · split <;> exact told

theorem exec_left (found : e.iterations[k]? = some it) (th : Thrown) :
    e.exec (.caught (.iteration k) th)
      = ({ e with iterations := e.iterations.setIfInBounds k it.leave.1 },
        .go (it.leave.2.flatMap (Instruction.ofIteration k it.leave.1 0) ++ [.throw th])) := by
  simp [exec, caught, found]

/-- What does not change an iteration leaves it as it is, but for the promise of a signal. -/
theorem Alters.apart (alters : e.Alters i e') (other : i.tends k = false)
    (found : e.iterations[k]? = some it) :
    ∃ awaited, e'.iterations[k]? = some { it with awaited } := by
  have made : k < e.iterations.size := (Array.getElem?_eq_some_iff.1 found).1
  cases alters with
  | iteration t a there | left th there =>
      rename_i n former
      have apart : n ≠ k := by simpa [Instruction.tends] using other
      exact ⟨it.awaited, by simp [apart, found]⟩
  | record n | ended n =>
      have apart : n ≠ k := by simpa [Instruction.tends] using other
      exact ⟨it.awaited, by rw [getElem?_signal_of_ne apart, found]⟩
  | records =>
      refine ⟨it.awaited, ?_⟩
      simp only [Array.getElem?_push, if_neg (Nat.ne_of_lt made)]
      exact found
  | awaitSignal n =>
      simp only [Array.getElem?_modify, found]
      split
      · exact ⟨_, rfl⟩
      · exact ⟨it.awaited, rfl⟩
  | cancel p => exact ⟨it.awaited, (e.aloof_cancel p).iterations ▸ found⟩
  | finish t d st | caught t th st => exact ⟨it.awaited, (e.aloof_endTask t st).iterations ▸ found⟩
  | _ => exact ⟨it.awaited, found⟩

/-- An iteration that comes to be is one of which nothing was read. -/
theorem Alters.made (alters : e.Alters i e') (absent : e.iterations[k]? = none)
    (found : e'.iterations[k]? = some it) : ∃ id size, it = .ofCursor id size := by
  have none : ∀ {its : Array Iteration}, its.size = e.iterations.size → its[k]? ≠ some it := by
    intro its same there
    have made := (Array.getElem?_eq_some_iff.1 there).1
    have unmade := Array.getElem?_eq_none_iff.1 absent
    omega
  cases alters with
  | iteration | left => exact absurd found (none (by simp))
  | record n r | ended n r =>
      refine absurd found (none ?_)
      unfold Engine.signal
      split
      · rfl
      · split <;> simp [modifyIteration, Engine.withLoop]
  | records =>
      simp only [Array.getElem?_push] at found
      split at found
      · exact ⟨_, _, (Option.some.inj found).symm⟩
      · rw [absent] at found
        cases found
  | awaitSignal n => exact absurd found (none (by simp))
  | cancel p => exact absurd found (none (by rw [(e.aloof_cancel p).iterations]))
  | finish t d st | caught t th st =>
      exact absurd found (none (by rw [(e.aloof_endTask t st).iterations]))
  | _ => exact absurd found (none rfl)

end Engine

theorem Step.tended (step : Step s m s') (found : s.engine.iterations[k]? = some it) :
    ∃ it', s'.engine.iterations[k]? = some it' ∧ Tended k s it it' := by
  have made : k < s.engine.iterations.size := (Array.getElem?_eq_some_iff.1 found).1
  have same : ∀ {its : Array Iteration}, its = s.engine.iterations → s.agenda = [] →
      ∃ it', its[k]? = some it' ∧ Tended k s it it' := by
    intro its same idle
    refine ⟨it, by rw [same, found], .apart it.awaited (by simp [idle])⟩
  cases step with
  | @carry e i rest own =>
      cases tends : i.tends k with
      | false =>
          obtain ⟨awaited, there⟩ := (e.alters_exec i).apart tends found
          exact ⟨_, there, .apart awaited (by simpa using tends)⟩
      | true =>
          unfold Instruction.tends at tends
          split at tends <;> try cases tends
          all_goals obtain rfl := beq_iff_eq.1 tends
          · rw [Engine.exec_iteration _ found]
            exact ⟨_, by simp [made], .stepped rfl⟩
          · exact ⟨_, Engine.getElem?_signal found _, .record rfl⟩
          · exact ⟨_, Engine.getElem?_signal found _, .ended rfl⟩
          · rw [Engine.exec_left found]
            exact ⟨_, by simp [made], .left rfl⟩
  | @answer e a rest r => exact ⟨it, found, .apart it.awaited (by simp [Instruction.tends])⟩
  | @begin e j loop next =>
      exact same (Engine.aloof_runJob { e with loop } j).iterations rfl
  | call next => exact same rfl rfl

theorem Step.made (step : Step s m s') (absent : s.engine.iterations[k]? = none)
    (found : s'.engine.iterations[k]? = some it) : ∃ id size, it = .ofCursor id size := by
  cases step with
  | @carry e i rest own => exact (e.alters_exec i).made absent found
  | answer r => cases absent.symm.trans found
  | @begin e j loop next =>
      have same : (Engine.runJob { e with loop } j).1.iterations = e.iterations :=
        (Engine.aloof_runJob { e with loop } j).iterations
      rw [← same] at absent
      cases absent.symm.trans found
  | call next => cases absent.symm.trans found

/-! ## Actions of an iteration that go on with one -/

/-- A step of an iteration leads on to fetching a batch, and fetching one to having it. -/
theorem Iteration.goesOn {a b : Iteration.Action} (it : Iteration)
    (inside : a = .fetch ∨ a = .requested)
    (mem : .guarded a ∈ (it.step b).2 ∨ .andThen a ∈ (it.step b).2) :
    a = .fetch ∧ b = .advance ∧ it.phase ≠ .closed ∨
      a = .requested ∧ b = .fetch ∧ it.signals = [] ∧ it.outstanding = 0 := by
  cases b with
  | advance =>
      cases phase : it.phase <;> simp only [Iteration.step, phase] at mem <;> simp at mem <;>
        subst mem <;> exact .inl ⟨rfl, rfl, by simp⟩
  | close =>
      simp only [Iteration.step] at mem
      split at mem <;> simp [Iteration.leaveEffects] at mem
  | fetch =>
      simp only [Iteration.step] at mem
      split at mem
      · rename_i idle
        simp only [Bool.and_eq_true, List.isEmpty_iff, beq_iff_eq] at idle
        simp at mem
        exact .inr ⟨mem, rfl, idle⟩
      · rcases inside with rfl | rfl <;> simp at mem
  | requested => rcases inside with rfl | rfl <;> simp [Iteration.step] at mem
  | take =>
      simp only [Iteration.step] at mem
      split at mem <;> simp at mem

/-- Where the fetching of a batch, or what follows it, comes onto the agenda. -/
theorem Step.of_inside {t : TaskId} {a : Iteration.Action} (step : Step s m s')
    (admits : Admits h m) (inside : a = .fetch ∨ a = .requested)
    (mem : .iteration k t a ∈ s'.agenda) : .iteration k t a ∈ s.agenda.tail ∨
      ∃ b rest it, s.agenda = .iteration k t b :: rest ∧ s.engine.iterations[k]? = some it ∧
        (a = .fetch ∧ b = .advance ∧ it.phase ≠ .closed ∨
          a = .requested ∧ b = .fetch ∧ it.signals = [] ∧ it.outstanding = 0) := by
  cases step.origin mem with
  | behind mem => exact .inl mem
  | outside mem =>
      obtain ⟨u, same | same⟩ := admits.own mem rfl <;> cases same
  | job began leads => cases leads
  | caught g th same => cases same
  | @led i rest head leads =>
      -- the index of what leads to it is a variable, since most cases rule it out by its form
      generalize goal : Instruction.iteration k t a = j at leads
      cases leads with
      | @stream _ _ _ effect => cases effect <;> cases goal
      | @cursor _ _ _ _ _ effect => cases effect <;> cases goal
      | @iteration n u b it effect j found yields among =>
          subst goal
          cases Engine.puts_of_mem among with
          | inside a => exact .inr ⟨b, rest, it, head, found, it.goesOn inside (.inl yields)⟩
          | andThen a => exact .inr ⟨b, rest, it, head, found, it.goesOn inside (.inr yields)⟩
      | @left n it effect j th found yields among =>
          subst goal
          unfold Iteration.leave at yields
          split at yields
          · cases yields
          · simp only [Iteration.leaveEffects, List.mem_cons, List.not_mem_nil, or_false] at yields
            rcases yields with rfl | rfl <;> cases Engine.puts_of_mem among
      | hand q receives among => cases Engine.hands_of_mem among <;> cases goal
      | body among =>
          cases Engine.setsOut_of_mem among <;> cases goal <;>
            rcases inside with same | same <;> cases same
      | exhausted among =>
          obtain ⟨d, rfl⟩ := Engine.finish_of_mem_exhausted among
          cases goal
      | advance | take | yieldedOn =>
          cases goal
          rcases inside with same | same <;> cases same
      | _ => cases goal

/-- A batch is fetched because a record is asked of an iteration that is not over. -/
theorem Step.of_fetch {t : TaskId} (step : Step s m s') (admits : Admits h m)
    (mem : .iteration k t .fetch ∈ s'.agenda) : .iteration k t .fetch ∈ s.agenda.tail ∨
      ∃ rest it, s.agenda = .iteration k t .advance :: rest ∧
        s.engine.iterations[k]? = some it ∧ it.phase ≠ .closed := by
  rcases step.of_inside admits (.inl rfl) mem with
    mem | ⟨b, rest, it, head, found, ⟨-, rfl, unended⟩ | ⟨same, -⟩⟩
  · exact .inl mem
  · exact .inr ⟨rest, it, head, found, unended⟩
  · cases same

/-- A batch is asked for because it is fetched while nothing is there to read and nothing
outstanding. -/
theorem Step.of_requested {t : TaskId} (step : Step s m s') (admits : Admits h m)
    (mem : .iteration k t .requested ∈ s'.agenda) : .iteration k t .requested ∈ s.agenda.tail ∨
      ∃ rest it, s.agenda = .iteration k t .fetch :: rest ∧
        s.engine.iterations[k]? = some it ∧ it.signals = [] ∧ it.outstanding = 0 := by
  rcases step.of_inside admits (.inr rfl) mem with
    mem | ⟨b, rest, it, head, found, ⟨same, -⟩ | ⟨-, rfl, nothing⟩⟩
  · exact .inl mem
  · cases same
  · exact .inr ⟨rest, it, head, found, nothing⟩

end Tending

end QueryStream
