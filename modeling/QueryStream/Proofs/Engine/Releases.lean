/-
  Proofs/Engine/Releases.lean --- what gives the connection back.

  A release is invoked by the owner of the stream when it is told of the end, by a cursor that
  is rolled back, and by outside code.  No job gives anything back (`Engine.givesBack_runJob`),
  and what is no part of it leaves the releases as they are (`Engine.holding_exec`).
-/
import QueryStream.Proofs.Engine.Household

set_option autoImplicit false

namespace QueryStream

/-- Whether an instruction tells the owner of the end of the stream, or is one of those by
which a connection is given back. -/
def Instruction.givesBack : Instruction → Bool
  | .ownerSucceeded _ => true
  | .ownerFailed _ => true
  | .release _ _ => true
  | .startRelease _ _ => true
  | .hand _ _ => true
  | .ask .release => true
  | _ => false

/-- Whether an instruction changes the releases. -/
def Instruction.changesReleases : Instruction → Bool
  | .release _ _ => true
  | .startRelease _ _ => true
  | .openCursor _ => true
  | _ => false

/-- The releases are the same, and so is that of the channel. -/
structure Engine.Holding (e e' : Engine) : Prop where
  releases : e'.releases = e.releases
  channel : e'.channelRelease = e.channelRelease

namespace Engine

variable {e : Engine} {i j : Instruction}

/-! ## What leaves the releases as they are -/

theorem holding_signal (i : IterationId) (s : Signal) : e.Holding (e.signal i s) := by
  unfold signal
  split
  · exact ⟨rfl, rfl⟩
  · split <;> exact ⟨rfl, rfl⟩

theorem holding_cancel (p : PromiseId) : e.Holding (e.cancel p) := by
  unfold cancel
  split
  · exact ⟨rfl, rfl⟩
  · split
    · exact ⟨rfl, rfl⟩
    · split
      · split <;> exact ⟨rfl, rfl⟩
      · exact ⟨rfl, rfl⟩

theorem holding_endTask (t : TaskId) (s : Settlement Delivery Failure) :
    e.Holding (e.endTask t s) := by
  unfold endTask
  split <;> exact ⟨rfl, rfl⟩

theorem Alters.holding {e' : Engine} (alters : e.Alters i e') (apart : i.changesReleases = false) :
    e.Holding e' := by
  cases alters with
  | release | startRelease | openCursor => cases apart
  | record k | ended k => exact holding_signal k _
  | cancel p => exact holding_cancel p
  | finish t | caught t => exact holding_endTask t _
  | _ => exact ⟨rfl, rfl⟩

theorem holding_exec (apart : i.changesReleases = false) : e.Holding (e.exec i).1 :=
  (alters_exec i).holding apart

theorem holding_runJob (k : Job) : e.Holding (e.runJob k).1 := by
  generalize (e.runJob k).1 = e', altersBy_runJob (e := e) k = alters
  cases alters with
  | cancelled t => exact holding_endTask t _
  | _ => exact ⟨rfl, rfl⟩

theorem chooseRelease_of_channel {e' : Engine} {choice : ReleaseChoice} {r id : ReleaseId}
    (channel : e.channelRelease = some r) (chosen : e.chooseRelease choice = .ok (e', id)) :
    e' = e ∧ id = r := by
  unfold chooseRelease at chosen
  cases choice with
  | bogus shown => cases chosen
  | standard | shared =>
      simp only [channel, Except.ok.injEq, Prod.mk.injEq] at chosen
      exact ⟨chosen.1.symm, chosen.2.symm⟩
  | ofNothing | ofConnection => simp [channel] at chosen

/-- Whatever is carried out, the release of the channel stays what it is. -/
theorem channelRelease_exec (i : Instruction) :
    (e.exec i).1.channelRelease = e.channelRelease := by
  cases changes : i.changesReleases with
  | false => exact (holding_exec changes).channel
  | true =>
      generalize (e.exec i).1 = e', alters_exec (e := e) i = alters
      cases alters with
      | same | release | startRelease | openCursor => rfl
      | _ => cases changes

/-! ## What gives nothing back -/

theorem givesBack_runJob {k : Job} (mem : j ∈ (e.runJob k).2) : j.givesBack = false := by
  cases leadsBy_runJob mem <;> rfl

end Engine

end QueryStream
