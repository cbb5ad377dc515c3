/-
  Proofs/Engine/Household.lean --- what only telling the owner changes.

  The bookmark of a session is written when its owner is told of a success, and a
  transaction is marked as terminated when its owner is told of a failure.  No other
  instruction, no job and no outside code does either (`Step.bookmark`, `Step.mark?`).
-/
import QueryStream.Proofs.Engine.Leads
import QueryStream.Proofs.Stream.Ending

set_option autoImplicit false

namespace QueryStream

/-- The failure that an instruction has a transaction marked as terminated for. -/
def Instruction.mark? : Instruction → Option Failure
  | .ask (.terminate f) => some f
  | _ => none

/-- What an instruction tells the owner of the end of the stream. -/
def Instruction.notice? : Instruction → Option Ending
  | .ownerSucceeded metadata => some (.success metadata)
  | .ownerFailed f => some (.failure f)
  | _ => none

/-- What a move tells the owner of the end of the stream. -/
def Move.notice? : Move → Option Ending
  | .carried i _ => i.notice?
  | _ => none

/-- The bookmark once an owner was told how a stream ended. -/
def Owner.noted (owner : Owner) (r : Ending) (bookmark : Value) : Value :=
  match owner, r with
  | .session _, .success metadata =>
      match metadata.field "bookmark" with
      | .ok value => if value.isNull then bookmark else value
      | .error _ => bookmark
  | _, _ => bookmark

/-- The failure that an owner marks its transaction as terminated for. -/
def Owner.mark? : Owner → Ending → Option Failure
  | .transaction, .failure f => some f
  | _, _ => none

/-- The owner is the same, and the bookmark is. -/
structure Engine.Household (e e' : Engine) : Prop where
  owner : e'.owner = e.owner
  bookmark : e'.bookmark = e.bookmark

namespace Engine

variable {e : Engine} {i j : Instruction}

theorem Household.refl (e : Engine) : e.Household e := ⟨rfl, rfl⟩

theorem household_signal (i : IterationId) (s : Signal) : e.Household (e.signal i s) := by
  unfold signal
  split
  · exact .refl e
  · split <;> exact ⟨rfl, rfl⟩

theorem household_cancel (p : PromiseId) : e.Household (e.cancel p) := by
  unfold cancel
  split
  · exact .refl e
  · split
    · exact ⟨rfl, rfl⟩
    · split
      · split <;> exact ⟨rfl, rfl⟩
      · exact ⟨rfl, rfl⟩

theorem household_endTask (t : TaskId) (s : Settlement Delivery Failure) :
    e.Household (e.endTask t s) := by
  unfold endTask
  split <;> exact ⟨rfl, rfl⟩

/-- What does not tell the owner anything leaves it and the bookmark as they are. -/
theorem Alters.household {e' : Engine} (alters : e.Alters i e') (untold : i.notice? = none) :
    e.Household e' := by
  cases alters with
  | bookmark => cases untold
  | record k | ended k => exact household_signal k _
  | cancel p => exact household_cancel p
  | finish t | caught t => exact household_endTask t _
  | _ => exact ⟨rfl, rfl⟩

theorem household_exec (untold : i.notice? = none) : e.Household (e.exec i).1 :=
  (alters_exec i).household untold

theorem household_runJob (k : Job) : e.Household (e.runJob k).1 := by
  generalize (e.runJob k).1 = e', altersBy_runJob (e := e) k = alters
  cases alters with
  | cancelled t => exact household_endTask t _
  | _ => exact ⟨rfl, rfl⟩

/-- What does not tell the owner anything has no transaction marked as terminated. -/
theorem mark?_exec (untold : i.notice? = none) (mem : j ∈ (e.exec i).2.next) :
    j.mark? = none := by
  cases leads_exec mem with
  | terminate f => cases untold
  | @stream _ _ _ effect => cases effect <;> rfl
  | @cursor _ _ _ _ _ effect => cases effect <;> rfl
  | iteration found effects among | left th found effects among =>
      cases puts_of_mem among <;> rfl
  | hand p receives among => cases hands_of_mem among <;> rfl
  | body among => cases setsOut_of_mem among <;> rfl
  | exhausted among =>
      obtain ⟨d, rfl⟩ := finish_of_mem_exhausted among
      rfl
  | _ => rfl

theorem mark?_runJob {k : Job} (mem : j ∈ (e.runJob k).2) : j.mark? = none := by
  cases leadsBy_runJob mem <;> rfl

theorem household_notice {r : Ending} (told : i.notice? = some r) :
    (e.exec i).1.owner = e.owner ∧ (e.exec i).1.bookmark = e.owner.noted r e.bookmark := by
  cases i with
  | ownerSucceeded metadata =>
      obtain rfl := Option.some.inj told
      simp only [exec, ownerSucceeded]
      cases owner : e.owner with
      | transaction => exact ⟨owner, rfl⟩
      | session release =>
          simp only [Owner.noted]
          cases metadata.field "bookmark" with
          | error c => exact ⟨owner, rfl⟩
          | ok value => cases null : value.isNull <;> simp [goOn, owner, null]
  | ownerFailed f =>
      obtain rfl := Option.some.inj told
      simp only [exec, ownerFailed]
      cases owner : e.owner <;> exact ⟨owner, rfl⟩
  | _ => cases told

theorem exec_notice {r : Ending} (told : i.notice? = some r) :
    (∃ line f, e.owner.mark? r = some f ∧
      (e.exec i).2 = .go [.ask (.log line), .ask (.terminate f)]) ∨
    (e.owner.mark? r = none ∧ ∀ j ∈ (e.exec i).2.next, ∃ id, j = .release id .nobody) := by
  cases i with
  | ownerSucceeded metadata =>
      obtain rfl := Option.some.inj told
      simp only [exec, ownerSucceeded]
      cases e.owner with
      | transaction => exact .inr ⟨rfl, by simp [goOn]⟩
      | session release =>
          refine .inr ⟨rfl, ?_⟩
          cases metadata.field "bookmark" <;> simp [refuse, goOn]
  | ownerFailed f =>
      obtain rfl := Option.some.inj told
      simp only [exec, ownerFailed]
      cases e.owner with
      | transaction => exact .inl ⟨_, f, rfl, rfl⟩
      | session release => exact .inr ⟨rfl, by simp [goOn]⟩
  | _ => cases told

end Engine

section Steps

variable {c : Conduct} {h : List Move} {s s' : Situation} {m : Move}

theorem Instruction.mark?_of_isCall {i : Instruction} (call : i.isCall = true) :
    i.mark? = none := by
  cases i with
  | ask a => cases a <;> first | rfl | cases call
  | _ => rfl

/-- The owner stays, and notes in the bookmark what it is told and nothing else. -/
theorem Step.bookmark (step : Step s m s') : s'.engine.owner = s.engine.owner ∧
    s'.engine.bookmark = m.notice?.toList.foldr s.engine.owner.noted s.engine.bookmark := by
  cases step with
  | @carry e i rest own =>
      cases told : i.notice? with
      | none =>
          have kept := Engine.household_exec (e := e) told
          exact ⟨kept.owner, by simp [Move.notice?, told, kept.bookmark]⟩
      | some r =>
          obtain ⟨owner, bookmark⟩ := Engine.household_notice (e := e) told
          exact ⟨owner, by simp [Move.notice?, told, bookmark]⟩
  | answer r => exact ⟨rfl, rfl⟩
  | @begin e j loop next =>
      have kept := Engine.household_runJob (e := { e with loop }) j
      exact ⟨kept.owner, kept.bookmark⟩
  | call next => exact ⟨rfl, rfl⟩

/-- Only telling the owner has a transaction marked as terminated. -/
theorem Step.mark? (step : Step s m s') (permitted : c.Permits h m) (untold : m.notice? = none)
    {j : Instruction} (mem : j ∈ s'.agenda) : j ∈ s.agenda.tail ∨ j.mark? = none := by
  cases step with
  | @carry e i rest own =>
      rcases Reply.mem_onto mem with mem | mem | ⟨g, th, rfl⟩
      · exact .inl mem
      · exact .inr (Engine.mark?_exec untold mem)
      · exact .inr rfl
  | answer r =>
      rcases Reply.mem_onto mem with mem | mem | ⟨g, th, rfl⟩
      · exact .inl mem
      · have answers : c.Answers _ r := permitted.2
        cases answers with
        | calls _ made _ => exact .inr (Instruction.mark?_of_isCall (made j mem).1)
        | released | unending => exact .inr (List.mem_singleton.1 mem ▸ rfl)
        | _ => cases mem
      · exact .inr rfl
  | begin next => exact .inr (Engine.mark?_runJob mem)
  | call next =>
      have made : ∀ i ∈ next, c.Calls i := permitted.2
      exact .inr (Instruction.mark?_of_isCall (made j mem).1)

end Steps

end QueryStream
