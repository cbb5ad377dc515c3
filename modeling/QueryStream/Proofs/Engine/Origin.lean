/-
  Proofs/Engine/Origin.lean --- where what is on the agenda comes from.

  What stands on the agenda after a move stood behind what was carried out, was led to by it or
  by a job that began, or comes from outside; or something was caught (`Step.origin`).  So an
  instruction that nothing leads to is carried out only if outside code calls it.
-/
import QueryStream.Proofs.Engine.Offering

set_option autoImplicit false

namespace QueryStream

/-- Where an instruction comes from that is on the agenda after a move. -/
inductive Origin (s : Situation) (m : Move) (j : Instruction) : Prop
  | behind (mem : j ∈ s.agenda.tail)
  | led {i : Instruction} {rest : List Instruction} (head : s.agenda = i :: rest)
      (leads : s.engine.Leads i j)
  | job {e : Engine} {k : Job} (began : m = .began k) (leads : e.LeadsBy k j)
  | outside (mem : j ∈ m.outside)
  | caught (g : Guard) (th : Thrown) (same : j = .caught g th)

section Steps

variable {c : Conduct} {h : List Move} {s s' : Situation} {m : Move} {i j : Instruction}

/-- Whatever is on the agenda after a move comes from somewhere. -/
theorem Step.origin (step : Step s m s') (mem : j ∈ s'.agenda) : Origin s m j := by
  cases step with
  | carry own =>
      rcases Reply.mem_onto mem with mem | next | ⟨g, th, same⟩
      · exact .behind mem
      · exact .led rfl (Engine.leads_exec next)
      · exact .caught g th same
  | answer r =>
      rcases Reply.mem_onto mem with mem | next | ⟨g, th, same⟩
      · exact .behind mem
      · exact .outside next
      · exact .caught g th same
  | begin next => exact .job rfl (Engine.leadsBy_runJob mem)
  | call next => exact .outside mem

/-! ## The start of the query -/

/-- Whether an instruction is the success of the run request. -/
def Instruction.startsRun : Instruction → Bool
  | .runSucceed _ => true
  | _ => false

theorem Engine.Leads.startsRun {e : Engine} (leads : e.Leads i j) : j.startsRun = false := by
  cases leads with
  | @stream _ _ _ effect => cases effect <;> rfl
  | @cursor _ _ _ _ _ effect => cases effect <;> rfl
  | iteration found effects among | left th found effects among =>
      cases puts_of_mem among <;> rfl
  | hand q receives among => cases hands_of_mem among <;> rfl
  | body among => cases setsOut_of_mem among <;> rfl
  | exhausted among =>
      obtain ⟨d, rfl⟩ := finish_of_mem_exhausted among
      rfl
  | _ => rfl

/-- What an engine knows of the start of its query, and the cap on its records. -/
structure Engine.SameStart (e e' : Engine) : Prop where
  run : e'.run = e.run
  cap : e'.cap = e.cap

/-- What an engine knows of its query: the keys of the records and the cap on them. -/
structure Engine.SameQuery (e e' : Engine) : Prop where
  keys : e'.run.keys = e.run.keys
  cap : e'.cap = e.cap

namespace Engine

variable {e e' : Engine}

theorem SameQuery.rfl' : e.SameQuery e := ⟨rfl, rfl⟩

theorem SameStart.sameQuery (same : e.SameStart e') : e.SameQuery e' := ⟨by rw [same.run], same.cap⟩

theorem sameStart_endTask (t : TaskId) (st : Settlement Delivery Failure) :
    e.SameStart (e.endTask t st) := by
  unfold endTask
  split <;> exact ⟨rfl, rfl⟩

theorem sameStart_signal (k : IterationId) (signal : Signal) :
    e.SameStart (e.signal k signal) := by
  unfold Engine.signal
  split
  · exact ⟨rfl, rfl⟩
  · split <;> exact ⟨rfl, rfl⟩

theorem sameStart_cancel (p : PromiseId) : e.SameStart (e.cancel p) := by
  unfold cancel
  split
  · exact ⟨rfl, rfl⟩
  · split
    · exact ⟨rfl, rfl⟩
    · split
      · split <;> exact ⟨rfl, rfl⟩
      · exact ⟨rfl, rfl⟩

/-- Only the success and the failure of the run request change what is known of the start. -/
theorem Alters.sameStart (alters : e.Alters i e') (calm : i.startsRun = false)
    (unfailed : ∀ f, i ≠ .runFail f) : e.SameStart e' := by
  cases alters with
  | runSucceed metadata => cases calm
  | runFail f => exact absurd rfl (unfailed f)
  | record k r => exact sameStart_signal k _
  | ended k f => exact sameStart_signal k _
  | cancel p => exact sameStart_cancel p
  | finish t d st => exact sameStart_endTask t st
  | caught t th st => exact sameStart_endTask t st
  | _ => exact ⟨rfl, rfl⟩

theorem AltersBy.sameStart {k : Job} (alters : e.AltersBy k e') : e.SameStart e' := by
  cases alters with
  | cancelled t => exact sameStart_endTask t _
  | _ => exact ⟨rfl, rfl⟩

/-- Only the success of the run request changes what is known of the query. -/
theorem Alters.sameQuery (alters : e.Alters i e') (calm : i.startsRun = false) :
    e.SameQuery e' := by
  by_cases failed : ∃ f, i = .runFail f
  · obtain ⟨f, rfl⟩ := failed
    cases alters with
    | runFail f =>
        refine ⟨?_, rfl⟩
        simp only [RunOutcome.fail, RunOutcome.resolve]
        split <;> rfl
    | _ => exact .rfl'
  · exact (alters.sameStart calm fun f same => failed ⟨f, same⟩).sameQuery

end Engine

/-- What is known of the query is kept by every move but the success of the run request. -/
theorem Step.sameQuery (step : Step s m s') (calm : ∀ i ∈ s.agenda, i.startsRun = false) :
    s.engine.SameQuery s'.engine := by
  cases step with
  | @carry e i rest own => exact (e.alters_exec i).sameQuery (calm i (by simp))
  | answer r => exact .rfl'
  | @begin e j loop next =>
      obtain ⟨keys, cap⟩ := (Engine.altersBy_runJob (e := { e with loop }) j).sameStart.sameQuery
      exact ⟨keys, cap⟩
  | call next => exact .rfl'

/-- The run request succeeds again only if outside code says so. -/
theorem Step.calm (step : Step s m s') (permitted : c.Permits h m)
    (started : ∀ metadata, ¬ c.Calls (.runSucceed metadata))
    (calm : ∀ i ∈ s.agenda, i.startsRun = false) : ∀ i ∈ s'.agenda, i.startsRun = false := by
  intro j mem
  cases step.origin mem with
  | behind mem => exact calm j (List.mem_of_mem_tail mem)
  | led head leads => exact leads.startsRun
  | job began leads => cases leads <;> rfl
  | outside mem =>
      rcases permitted.outside mem with calls | ⟨t, rfl⟩ | ⟨t, rfl⟩
      · cases j with
        | runSucceed metadata => exact absurd calls (started metadata)
        | _ => rfl
      · rfl
      · rfl
  | caught g th same =>
      subst same
      rfl

end Steps

end QueryStream
