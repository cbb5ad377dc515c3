/-
  Proofs/Engine/Frames.lean --- what carrying out an instruction leaves alone, and
  what it can put on the agenda.

  Only instructions of the stream change the stream and only a few others have
  anything to do with it.  What only a stream or a cursor brings about is called
  inner: requests, what consumers are told, what is left of an action.  No other
  instruction, no job and no outside code puts an inner instruction on the agenda.
  What is not bound to a task leads to nothing that is, and never waits.
-/
import QueryStream.Proofs.Cursor.Steps
import QueryStream.Proofs.Engine.Alters
import QueryStream.Proofs.Engine.Evolution
import QueryStream.Proofs.Engine.Leads
import QueryStream.Proofs.Stream.Steps

set_option autoImplicit false

namespace QueryStream

/-! ## Sorts of instructions -/

namespace Instruction

/-- Whether an instruction is one that only a stream or a cursor brings about.  No task asks
for the failure that nobody was told of, so that belongs here too. -/
def isInner : Instruction → Bool
  | .stream a => !a.isPublic
  | .cursor _ .markConsumed => true
  | .cursor _ .injectError => true
  | .cursor _ (.notify _ _) => true
  | .cursor _ (.discardAll receiver) => receiver.isTask
  | .cursor _ (.pullAll receiver) => receiver.isTask
  | .channel (.request _) => true
  | .channel .cancel => true
  | .channel (.fail _) => true
  | .ownerSucceeded _ => true
  | .ownerFailed _ => true
  | .tellRecord _ _ => true
  | .tellEnd _ _ => true
  | .tellSummary _ _ _ => true
  | .settle _ _ => true
  | .relay _ _ => true
  | .reportFailure _ _ => true
  | .keep _ _ => true
  | .ask (.write _) => true
  | _ => false

/-- Whether an instruction is one that only a stream brings about. -/
def isDriven : Instruction → Bool
  | .stream a => !a.isPublic
  | .ownerSucceeded _ => true
  | .ownerFailed _ => true
  | .tellRecord _ _ => true
  | .tellEnd _ _ => true
  | .tellSummary _ _ _ => true
  | .ask (.write _) => true
  | _ => false

/-- Whether an instruction belongs to the stream. -/
def isStream : Instruction → Bool
  | .stream _ => true
  | _ => false

/-- Whether an instruction belongs to a cursor, or has a cursor told something. -/
def isCursor : Instruction → Bool
  | .cursor _ _ => true
  | .tellSummary _ _ _ => true
  | _ => false

theorem isDriven_eq_false (i : Instruction) (h : i.isInner = false) : i.isDriven = false := by
  cases i with
  | stream a => simpa [isInner, isDriven] using h
  | ask a => cases a <;> simp_all [isInner, isDriven]
  | _ => simp_all [isInner, isDriven]

/-- Whether an instruction goes to the stream or to the channel, or makes a cursor. -/
def isPiped : Instruction → Bool
  | .stream _ => true
  | .channel _ => true
  | .openCursor _ => true
  | _ => false

/-- Whether an instruction passes something on to the stream or to the channel. -/
def isPipe : Instruction → Bool
  | .cursor _ _ => true
  | .channel _ => true
  | .openCursor _ => true
  | _ => false

/-- Whether an instruction changes cursors. -/
def changesCursors : Instruction → Bool
  | .cursor _ _ => true
  | .openCursor _ => true
  | _ => false

/-- Whether an instruction queues a job that follows a promise, which none does. -/
def isStray : Instruction → Bool
  | .soon j => j.source?.isSome
  | _ => false

theorem isInner_eq_false_of_isCall {i : Instruction} (h : i.isCall = true) :
    i.isInner = false := by
  cases i with
  | stream a => simpa [isCall, isInner] using h
  | cursor id a => cases a <;> simp_all [isCall, isInner, Cursor.Action.isPublic]
  | channel r => cases r <;> simp_all [isCall, isInner]
  | ask a => cases a <;> simp_all [isCall, isInner]
  | _ => simp_all [isCall, isInner]

end Instruction

/-- What is left of an action of a stream is no call, unless the cap was reached. -/
theorem Stream.Steps.isPublic_of_andThen {x : Stream.Surroundings} {s s' : Stream}
    {a b : Stream.Action} {effects : List Stream.Effect} (steps : Stream.Steps x s a s' effects)
    (h : .andThen b ∈ effects) : b.isPublic = false ∨ a = .checkCap ∧ b = .cancel := by
  cases steps <;> simp_all [Stream.pullEffects, Stream.discardEffects, Stream.endEffects,
    Stream.debug, Stream.Action.isPublic]

/-! ## What carrying out an instruction keeps -/

/-- What an instruction that is not the stream's may put on the agenda: inner
instructions only if a cursor is concerned, something for the stream or the channel only
if it passes something on, and nothing bound to a task unless it is bound to one
itself. -/
structure Instruction.LeadsTo (i j : Instruction) : Prop where
  outer : i.isCursor = false → j.isInner = false
  plain : i.isPlain = true → j.isPlain = true
  driven : j.isDriven = false
  piped : i.isPipe = false → j.isPiped = false
  steady : j.isStray = false

/-- What carrying out an instruction keeps that is not the stream's. -/
structure Keeps (e : Engine) (i : Instruction) (after : Engine × Reply) : Prop where
  stream : after.1.stream = e.stream
  hasStream : after.1.hasStream = e.hasStream
  cursors : i.changesCursors = false → after.1.cursors = e.cursors
  loop : i.isStray = false → e.loop.Evolves after.1.loop
  next : ∀ j ∈ after.2.next, i.LeadsTo j
  plain : i.isPlain = true → (∃ next, after.2 = .go next) ∨ ∃ th, after.2 = .raise th

/-- An engine that differs in its loop only, or in what nothing is said of here. -/
structure Engine.Frame (e e' : Engine) : Prop where
  stream : e'.stream = e.stream
  hasStream : e'.hasStream = e.hasStream
  cursors : e'.cursors = e.cursors
  loop : e.loop.Evolves e'.loop

theorem Engine.Frame.rfl' {e : Engine} : e.Frame e := ⟨rfl, rfl, rfl, .refl⟩

/-- What is neither inner nor bound to a task may follow everything. -/
theorem Instruction.LeadsTo.of_outer {i j : Instruction} (inner : j.isInner = false)
    (plain : j.isPlain = true) (piped : i.isPipe = false → j.isPiped = false)
    (steady : j.isStray = false) : i.LeadsTo j :=
  ⟨fun _ => inner, fun _ => plain, j.isDriven_eq_false inner, piped, steady⟩

namespace Engine

variable (e : Engine)

theorem frame_settle (p : PromiseId) (s : Settlement Delivery Failure) :
    e.Frame (e.withLoop fun l => l.settle p s) :=
  ⟨rfl, rfl, rfl, .settle p s .refl⟩

theorem frame_signal (id : IterationId) (s : Signal) : e.Frame (e.signal id s) := by
  unfold signal
  split
  · exact .rfl'
  · split
    · exact ⟨rfl, rfl, rfl, .settle _ _ .refl⟩
    · exact ⟨rfl, rfl, rfl, .refl⟩

theorem frame_cancel (p : PromiseId) : e.Frame (e.cancel p) := by
  unfold cancel
  split
  · exact .rfl'
  · split
    · exact e.frame_settle p _
    · split
      · split
        · exact ⟨rfl, rfl, rfl, .refl⟩
        · exact e.frame_settle _ _
      · exact ⟨rfl, rfl, rfl, .refl⟩

theorem frame_endTask (t : TaskId) (s : Settlement Delivery Failure) :
    e.Frame (e.endTask t s) := by
  unfold endTask
  split
  · exact e.frame_settle _ s
  · exact .rfl'

theorem frame_spawn (w : Work) : e.Frame (e.spawn w) :=
  ⟨rfl, rfl, rfl, .soon rfl (.create .refl)⟩

/-! ### What instructions change -/

variable {e} {e' : Engine} {i j : Instruction}

/-- Only an instruction of the stream changes the stream, and none the sort of the channel. -/
theorem Alters.stream_eq (alters : e.Alters i e') (stream : i.isStream = false) :
    e'.stream = e.stream ∧ e'.hasStream = e.hasStream := by
  cases alters with
  | stream => cases stream
  | record k | ended k => exact ⟨(e.frame_signal k _).stream, (e.frame_signal k _).hasStream⟩
  | cancel p => exact ⟨(e.frame_cancel p).stream, (e.frame_cancel p).hasStream⟩
  | finish t d st | caught t th st =>
      exact ⟨(e.frame_endTask t st).stream, (e.frame_endTask t st).hasStream⟩
  | _ => exact ⟨rfl, rfl⟩

theorem Alters.cursors_eq (alters : e.Alters i e') (changes : i.changesCursors = false) :
    e'.cursors = e.cursors := by
  cases alters with
  | cursor | openCursor => cases changes
  | record k | ended k => exact (e.frame_signal k _).cursors
  | cancel p => exact (e.frame_cancel p).cursors
  | finish t d st | caught t th st => exact (e.frame_endTask t st).cursors
  | _ => rfl

theorem Alters.evolves (alters : e.Alters i e') (steady : i.isStray = false) :
    e.loop.Evolves e'.loop := by
  have watches : ∀ {t : TaskId} {task : Task} {p : PromiseId},
      e.loop.Evolves (e.waiting t task p).loop := .watch _ (by simp [Job.source?]) .refl
  cases alters with
  | record k | ended k => exact (e.frame_signal k _).loop
  | settle p st => exact .settle p st .refl
  | relay =>
      exact .watch _ (by simp [Job.source?]) (.watch _ (by simp [Job.source?]) (.create .refl))
  | reportFailure | openCursor => exact .watch _ (by simp [Job.source?]) (.create .refl)
  | keep | release => exact .createSettled _ .refl
  | startRelease => exact .watch _ (by simp [Job.source?]) (e.frame_spawn _).loop
  | spawn w => exact (e.frame_spawn w).loop
  | cancel p => exact (e.frame_cancel p).loop
  | soon j => exact .soon (by simpa [Instruction.isStray] using steady) .refl
  | await => exact watches
  | awaitCancelled => exact watches.settle _ _
  | awaitNever | awaitSignal => exact .create .refl
  | finish t d st | caught t th st => exact (e.frame_endTask t st).loop
  | _ => exact .refl

/-! ### What instructions lead to -/

/-- What is bound to a task may lead to anything that is not inner. -/
theorem leadsTo_of_task (task : i.isPlain = false) (inner : j.isInner = false)
    (piped : j.isPiped = false) (steady : j.isStray = false) : i.LeadsTo j :=
  ⟨fun _ => inner, fun h => by simp [task] at h, j.isDriven_eq_false inner, fun _ => piped,
    steady⟩

/-- What a cursor brings about is bound to a task only if its action is. -/
theorem leadsTo_ofCursor {id : CursorId} {c c' : Cursor} {done : Bool} {a : Cursor.Action}
    {effects : List Cursor.Effect} (h : Cursor.Steps done c a c' effects) :
    ∀ effect ∈ effects, (Instruction.cursor id a).LeadsTo (.ofCursor id c' effect) := by
  intro effect mem
  cases h.yields mem with
  | relay | report | discardAll | keep | release => exact ⟨nofun, fun h => h, rfl, nofun, rfl⟩
  | _ => exact ⟨nofun, fun _ => rfl, rfl, nofun, rfl⟩

/-- Who hands a promise to a task is bound to it. -/
theorem isPlain_of_receiver? {receiver : Receiver} (receives : i.receiver? = some receiver) :
    i.isPlain = !receiver.isTask := by
  cases i <;> simp_all [Instruction.receiver?, Instruction.isPlain]

theorem Leads.leadsTo (leads : e.Leads i j) (stream : i.isStream = false) : i.LeadsTo j := by
  cases leads with
  | stream => cases stream
  | cursor found accepted yields =>
      exact leadsTo_ofCursor (Cursor.steps_of_step accepted) _ yields
  | iteration found effects among | left th found effects among =>
      cases puts_of_mem among <;> exact leadsTo_of_task rfl rfl rfl rfl
  | hand p receives among =>
      have plain := isPlain_of_receiver? receives
      cases hands_of_mem among with
      | caller name => exact .of_outer rfl rfl (fun _ => rfl) rfl
      | task t => exact leadsTo_of_task plain rfl rfl rfl
  | body among => cases setsOut_of_mem among <;> exact leadsTo_of_task rfl rfl rfl rfl
  | exhausted among =>
      obtain ⟨d, rfl⟩ := finish_of_mem_exhausted among
      exact leadsTo_of_task rfl rfl rfl rfl
  | channel r => cases r <;> exact .of_outer rfl rfl nofun rfl
  | notify => exact ⟨nofun, fun _ => rfl, rfl, fun _ => rfl, rfl⟩
  | released | startRelease | releasing | reads =>
      exact ⟨fun _ => rfl, fun h => h, rfl, fun _ => rfl, rfl⟩
  | advance | thrown | awaitNever | awaitSignal | woken | take | answered | yieldedOn | yielded =>
      exact leadsTo_of_task rfl rfl rfl rfl
  | attach | opened => exact .of_outer rfl rfl nofun rfl
  | _ => exact .of_outer rfl rfl (fun _ => rfl) rfl

/-- What is not bound to a task goes on, or something is thrown. -/
theorem reply_exec (plain : i.isPlain = true) :
    (∃ next, (e.exec i).2 = .go next) ∨ ∃ th, (e.exec i).2 = .raise th := by
  cases i with
  | stream a =>
      simp only [exec, stepStream]
      split
      · exact .inl ⟨_, rfl⟩
      · exact .inr ⟨_, rfl⟩
  | cursor id a =>
      simp only [exec, stepCursor]
      split
      · exact .inl ⟨_, rfl⟩
      · split
        · exact .inl ⟨_, rfl⟩
        · exact .inr ⟨_, rfl⟩
  | runSucceed metadata =>
      simp only [exec, succeedRun]
      split
      · exact .inr ⟨_, rfl⟩
      · exact .inl ⟨_, rfl⟩
  | channel r =>
      simp only [exec]
      split <;> exact .inl ⟨_, rfl⟩
  | ownerSucceeded metadata =>
      simp only [exec, ownerSucceeded]
      split
      · exact .inl ⟨_, rfl⟩
      · split
        · exact .inr ⟨_, rfl⟩
        · exact .inl ⟨_, rfl⟩
  | ownerFailed f =>
      simp only [exec, ownerFailed]
      split <;> exact .inl ⟨_, rfl⟩
  | tellRecord rc r => cases rc <;> exact .inl ⟨_, rfl⟩
  | tellEnd rc f => cases rc <;> exact .inl ⟨_, rfl⟩
  | tellSummary sc s f => cases sc <;> exact .inl ⟨_, rfl⟩
  | relay id receiver =>
      simp only [exec, relay]
      split
      · exact .inl ⟨_, rfl⟩
      · split <;> exact .inl ⟨_, rfl⟩
  | reportFailure id receiver =>
      simp only [exec, reportFailure]
      split <;> exact .inl ⟨_, rfl⟩
  | release r receiver =>
      obtain ⟨e', next, exec, -⟩ := e.exec_release r receiver
      exact .inl ⟨next, by rw [exec]⟩
  | handIteration receiver k => cases receiver <;> exact .inl ⟨_, rfl⟩
  | records q fetchSize former receiver =>
      simp only [exec, startRecords]
      split
      · exact .inl ⟨_, rfl⟩
      · split <;> exact .inl ⟨_, rfl⟩
  | openCursor plan =>
      simp only [exec, openCursor]
      split
      · exact .inr ⟨_, rfl⟩
      · split
        · exact .inr ⟨_, rfl⟩
        · exact .inl ⟨_, rfl⟩
  | throw th => exact .inr ⟨th, rfl⟩
  | caught g th =>
      cases g with
      | job | command => cases th <;> exact .inl ⟨_, rfl⟩
      | _ => cases plain
  | body | iteration | await | awaitNever | awaitSignal | woken | yielded | exhausted | finish =>
      cases plain
  | _ => exact .inl ⟨_, rfl⟩

variable (e)

/-! ### All instructions -/

theorem exec_cursor {id : CursorId} {c c' : Cursor} {a : Cursor.Action}
    {effects : List Cursor.Effect} (found : e.cursors[id]? = some c)
    (hstep : c.step (e.isResolved c) a = .ok (c', effects)) :
    e.exec (.cursor id a) = ({ e with cursors := e.cursors.setIfInBounds id c' },
      .go (effects.map (.ofCursor id c'))) := by
  simp [exec, stepCursor, found, hstep]

theorem exec_cursor_of_none {id : CursorId} (a : Cursor.Action)
    (found : e.cursors[id]? = none) : e.exec (.cursor id a) = (e, .go []) := by
  simp [exec, stepCursor, found, goOn]

theorem exec_cursor_of_error {id : CursorId} {c : Cursor} {a : Cursor.Action} {cause : Cause}
    (found : e.cursors[id]? = some c) (refused : c.step (e.isResolved c) a = .error cause) :
    e.exec (.cursor id a) = (e, .raise (.arising cause)) := by
  simp [exec, stepCursor, found, refused, refuse]

theorem exec_stream {a : Stream.Action} {st : Stream} {effects : List Stream.Effect}
    (accepted : e.stream.step e.surroundings a = .ok (st, effects)) :
    e.exec (.stream a) = ({ e with stream := st }, .go (effects.map .ofStream)) := by
  simp [exec, stepStream, accepted]

theorem exec_stream_of_error {a : Stream.Action} {cause : Cause}
    (refused : e.stream.step e.surroundings a = .error cause) :
    e.exec (.stream a) = (e, .raise (.arising cause)) := by
  simp [exec, stepStream, refused, refuse]

theorem exec_installRecord (rc : RecordConsumer) (free : e.stream.recordConsumer = none) :
    e.exec (.stream (.installRecord rc))
      = ({ e with stream := { e.stream with recordConsumer := some rc } }, .go []) := by
  simp [exec, stepStream, Stream.step, free]

theorem exec_channel (own : e.hasStream = true) (r : ChannelRequest) :
    e.exec (.channel r) = (e, .go [.stream (Instruction.ofChannelRequest r)]) := by
  simp [exec, own, goOn]

theorem exec_channel_outside (outside : e.hasStream = false) (r : ChannelRequest) :
    e.exec (.channel r) = (e, .go [.ask (.channel r)]) := by
  simp [exec, outside, goOn]

theorem getElem?_setIfInBounds_self {id : CursorId} {c : Cursor} (c' : Cursor)
    (found : e.cursors[id]? = some c) :
    (e.cursors.setIfInBounds id c')[id]? = some c' := by
  have hlt := (Array.getElem?_eq_some_iff.1 found).1
  simp [hlt]

theorem keeps_exec {i : Instruction} (stream : i.isStream = false) : Keeps e i (e.exec i) where
  stream := ((alters_exec i).stream_eq stream).1
  hasStream := ((alters_exec i).stream_eq stream).2
  cursors := (alters_exec i).cursors_eq
  loop := (alters_exec i).evolves
  next _ mem := (leads_exec mem).leadsTo stream
  plain := reply_exec

end Engine

end QueryStream
