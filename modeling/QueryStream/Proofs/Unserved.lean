/-
  Proofs/Unserved.lean --- a cursor whose stream nobody serves.

  Where no server answers, a stream does nothing of its own accord: as long as it is driven for
  nothing, or is over, whatever is asked of it is refused or only noted (`Stream.Steps.of_dull`).
  So of all that only a stream and the attaching of a consumer bring about, nothing comes onto
  the agenda once there is nothing of it (`Attached.bare_step`).
-/
import QueryStream.Proofs.Course
import QueryStream.Proofs.Cursor.Errands
import QueryStream.Proofs.Notices

set_option autoImplicit false

namespace QueryStream

/-- One cursor over a stream that no server answers; the stream is asked over the cursor only. -/
structure Conduct.Unserved (c : Conduct) : Prop where
  sole : c.Sole
  holds : c.Holds
  alone : ∀ a, ¬ c.Calls (.stream a)

namespace Instruction

/-- Whether an instruction is none of those that only a stream that is driven or ends brings
about, nor part of attaching a consumer. -/
def isBare : Instruction → Bool
  | .stream (.request _) => true
  | .stream .cancel => true
  | .stream .reportCancel => true
  | .stream _ => false
  | .channel (.request _) => true
  | .channel .cancel => true
  | .channel _ => false
  | .cursor _ .injectError => false
  | .cursor _ (.notify _ _) => false
  | .openCursor _ => false
  | .ownerSucceeded _ => false
  | .ownerFailed _ => false
  | .tellRecord _ _ => false
  | .tellEnd _ _ => false
  | .tellSummary _ _ _ => false
  | .ask (.write _) => false
  | _ => true

/-- Whether an instruction has a cursor marked as consumed. -/
def marks : Instruction → Bool
  | .cursor _ .markConsumed => true
  | _ => false

theorem isBare_of_outer {i : Instruction} (inner : i.isInner = false) (piped : i.isPiped = false) :
    i.isBare = true ∧ i.marks = false := by
  cases i with
  | cursor id a => cases a <;> first | exact ⟨rfl, rfl⟩ | cases inner
  | ask a => cases a <;> first | exact ⟨rfl, rfl⟩ | cases inner
  | stream a => cases piped
  | channel r => cases piped
  | openCursor plan => cases piped
  | _ => first | exact ⟨rfl, rfl⟩ | cases inner

end Instruction

/-- A stream that does nothing of its own accord: it lacks a consumer, or it failed. -/
def Stream.Dull (st : Stream) : Prop := st.lacksConsumer = true ∨ st.phase = .failed

section Steps

variable {c : Conduct} {o : PromiseId} {h : List Move} {s s' : Situation} {m : Move}
  {cursor next : Cursor} {j : Instruction}

theorem Conduct.Unserved.isBare_of_calls (unserved : c.Unserved) (calls : c.Calls j) :
    j.isBare = true ∧ j.marks = false := by
  have attaches := unserved.sole j calls
  have call := calls.1
  cases j with
  | stream a => exact absurd calls (unserved.alone a)
  | channel r => cases attaches
  | openCursor plan => cases attaches
  | cursor id a => cases a <;> first | exact ⟨rfl, rfl⟩ | cases call
  | ask a => cases a <;> first | exact ⟨rfl, rfl⟩ | cases call
  | _ => first | exact ⟨rfl, rfl⟩ | cases call

/-- Whatever is asked of a dull stream, it stays as it is and brings about nothing but lines
of the log. -/
theorem Stream.Steps.of_dull {x : Stream.Surroundings} {st st' : Stream} {a : Stream.Action}
    {effects : List Stream.Effect} (steps : Stream.Steps x st a st' effects) (dull : st.Dull)
    (bare : (Instruction.stream a).isBare = true) :
    st' = st ∧ ∀ effect ∈ effects,
      (Instruction.ofStream effect).isBare = true ∧
        (Instruction.ofStream effect).marks = false := by
  have failed : st.lacksConsumer = false → st.phase = .failed := by
    intro present
    rcases dull with lacks | failed
    · simp [lacks] at present
    · exact failed
  cases steps with
  | pull present _ phase | join present _ phase | discard present phase
  | giveUp present phase => simp [failed present] at phase
  | ignoreRequest | ignoreCancel | reportCancel =>
      exact ⟨rfl, by simp [Instruction.ofStream, Instruction.isBare, Instruction.marks]⟩
  | _ => cases bare

theorem Cursor.Steps.isBare {done : Bool} {a : Cursor.Action} {effects : List Cursor.Effect}
    {effect : Cursor.Effect} (steps : Cursor.Steps done cursor a next effects) (id : CursorId)
    (mem : effect ∈ effects) (bare : (Instruction.cursor id a).isBare = true)
    (closed : ∀ consumer, a = .install consumer →
      cursor.isConsumed = true ∨ cursor.status ≠ .notInstalled) :
    (Instruction.ofCursor id next effect).isBare = true := by
  cases steps with
  | install line unconsumed free =>
      rcases closed _ rfl with consumed | taken
      · simp [unconsumed] at consumed
      · exact absurd free taken
  | ignoreInstall => cases mem
  | injectError | noError => cases bare
  | notifyFailure | notifySummary | notifyMore => cases bare
  | summary | discardAll =>
      rcases List.mem_append.1 mem with mem | mem
      · unfold Cursor.stage at mem
        split at mem
        · cases mem
        · simp only [List.mem_cons, List.not_mem_nil, or_false] at mem
          rcases mem with rfl | rfl | rfl | rfl <;> rfl
      · obtain rfl := List.mem_singleton.1 mem
        rfl
  | rollback line =>
      simp only [List.mem_cons, List.not_mem_nil, or_false] at mem
      rcases mem with rfl | rfl | rfl | rfl <;> rfl
  | request | cancel | refusePull | pullAll =>
      obtain rfl := List.mem_singleton.1 mem
      rfl
  | markConsumed | surfaceError => cases mem

/-- What something bare brings about over a dull stream is bare. -/
theorem Attached.isBare_of_brought (attached : Attached o h s cursor) (unserved : c.Unserved)
    (bare : ∀ i ∈ s.agenda.head?, i.isBare = true) (dull : s.engine.stream.Dull)
    (closed : ∀ consumer rest, s.agenda = .cursor 0 (.install consumer) :: rest →
      cursor.isConsumed = true ∨ cursor.status ≠ .notInstalled) (brought : Brought c s j) :
    j.isBare = true := by
  cases brought with
  | stream head steps among => exact ((steps.of_dull dull (bare _ (by simp [head]))).2 _ among).1
  | @cursor id a rest found after effects effect head hfound steps among =>
      rw [attached.cursors] at hfound
      obtain ⟨rfl, rfl⟩ := eq_of_getElem?_singleton hfound
      refine steps.isBare 0 among (bare _ (by simp [head])) ?_
      rintro consumer rfl
      exact closed consumer rest head
  | @channel r rest head =>
      have passed := bare (.channel r) (by simp [head])
      cases r <;> first | rfl | cases passed
  | @opened plan rest j head => cases bare (.openCursor plan) (by simp [head])
  | @notify id summary f rest head =>
      cases bare (.tellSummary (.cursor id) summary f) (by simp [head])
  | outer inner piped => exact (Instruction.isBare_of_outer inner piped).1
  | called calls => exact (unserved.isBare_of_calls calls).1

/-- With something bare first on the agenda, a dull stream stays as it is. -/
theorem Step.stream_of_bare (step : Step s m s') (permitted : c.Permits h m)
    (bare : ∀ i ∈ s.agenda.head?, i.isBare = true) (dull : s.engine.stream.Dull) :
    s'.engine.stream = s.engine.stream := by
  rcases step.stream_or_quiet permitted with ⟨a, rest, after, effects, stream⟩ | ⟨_, quiet⟩
  · rw [stream.engine]
    exact (stream.steps.of_dull dull (bare _ (by simp [stream.head]))).1
  · exact quiet.stream

/-- With a bare agenda over a dull stream the stream stays as it is, and the agenda goes on
being bare. -/
theorem Attached.bare_step (attached : Attached o h s cursor) (unserved : c.Unserved)
    (step : Step s m s') (permitted : c.Permits h m) (bare : ∀ i ∈ s.agenda, i.isBare = true)
    (dull : s.engine.stream.Dull)
    (closed : ∀ consumer rest, s.agenda = .cursor 0 (.install consumer) :: rest →
      cursor.isConsumed = true ∨ cursor.status ≠ .notInstalled) :
    s'.engine.stream = s.engine.stream ∧ ∀ i ∈ s'.agenda, i.isBare = true := by
  have first : ∀ i ∈ s.agenda.head?, i.isBare = true :=
    fun i head => bare i (List.mem_of_mem_head? head)
  refine ⟨step.stream_of_bare permitted first dull, fun i mem => ?_⟩
  rcases (step.turn permitted).mem mem with mem | brought
  · exact bare i (List.mem_of_mem_tail mem)
  · exact attached.isBare_of_brought unserved first dull closed brought

/-- A move that carries out something bare writes nothing, and tells neither the owner nor a
record consumer anything. -/
theorem Step.unheard_of_bare (step : Step s m s')
    (bare : ∀ i ∈ s.agenda.head?, i.isBare = true) :
    m.isWrite = false ∧ m.notice? = none ∧
      ∀ a r, m = .carried (.stream a) r → (Instruction.stream a).isBare = true := by
  cases step with
  | @carry e i rest own =>
      have head := bare i rfl
      refine ⟨rfl, ?_, fun a r heq => ?_⟩
      · cases i <;> first | rfl | cases head
      · obtain ⟨rfl, -⟩ := Move.carried.inj heq
        exact head
  | @answer e a rest r =>
      have head := bare (.ask a) rfl
      refine ⟨?_, rfl, fun a r heq => by cases heq⟩
      cases a <;> first | rfl | cases head
  | begin next => exact ⟨rfl, rfl, fun a r heq => by cases heq⟩
  | call next => exact ⟨rfl, rfl, fun a r heq => by cases heq⟩

end Steps

/-! ## Runs that are worked out -/

/-- All calls go over cursors, and promises are cancelled only by who was handed them. -/
def Conduct.unserved : Conduct where
  refrains i := i.isPiped = true
  tame _ := False
  keeps h m := m.isAdmitted h = true

theorem Conduct.unserved_unserved : Conduct.unserved.Unserved where
  sole i calls := by
    have piped : i.isPiped = false := by simpa [unserved] using calls.2
    cases i <;> first | rfl | cases piped
  holds _ p r keeps := (Admits.of_isAdmitted keeps).holds p r rfl
  alone a calls := absurd rfl calls.2

theorem Conduct.unserved_keepsAll {h : List Move} (admitted : allAdmitted h = true) :
    Conduct.unserved.KeepsAll h := by
  refine keepsAll_of_cons (allAdmitted · = true) (fun m h all => ?_) admitted
  exact Bool.and_eq_true_iff.1 all

/-- Whether what is called goes over a cursor. -/
def Act.isUnserved : Act → Bool
  | .calls next => next.all fun i => i.isCall && !i.isPiped
  | .job => true

theorem Run.acts_of_isUnserved {start : Situation} {former point : List Move × Situation}
    {n : Nat} {acts : List Act} (run : Run .unserved start former.1 former.2)
    (worked : point = Situation.acts n acts former) (made : acts.all Act.isUnserved = true)
    (admitted : allAdmitted point.1 = true) : Run .unserved start point.1 point.2 := by
  subst worked
  refine .acts n acts (fun next mem i hi => ?_) (Conduct.unserved_keepsAll admitted) run
  have unserved := List.all_eq_true.1 made _ mem
  simp only [Act.isUnserved, List.all_eq_true, Bool.and_eq_true] at unserved
  obtain ⟨call, piped⟩ := unserved i hi
  exact ⟨call, by simpa [Conduct.unserved] using piped⟩

end QueryStream
