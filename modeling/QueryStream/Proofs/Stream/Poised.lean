/-
  Proofs/Stream/Poised.lean --- what is to be written stands first.

  As long as a stream goes on, what it is about to write or to tell stands at the front of the
  agenda, so no control is handed out before it is done and nothing that is thrown loses it.
  A stream that is over writes nothing.  So it is in every run, whatever calls are made and
  whatever the surroundings throw (`Run.poised`).
-/
import QueryStream.Proofs.Requests.Ledger

set_option autoImplicit false

namespace QueryStream

/-- The situation is open, or the stream is over and nothing is to be written any more. -/
def Poised (s : Situation) : Prop :=
  Open s ∨ s.engine.stream.phase.isTerminal = true ∧ ∀ i ∈ s.agenda, i.isWrite = false

section Poised

variable {c : Conduct} {h : List Move} {s s' : Situation} {m : Move}

theorem Stream.Steps.isWrite_of_terminal {x : Stream.Surroundings} {st st' : Stream}
    {a : Stream.Action} {effects : List Stream.Effect} (steps : Stream.Steps x st a st' effects)
    (terminal : st.phase.isTerminal = true) :
    ∀ effect ∈ effects, (Instruction.ofStream effect).isWrite = false := by
  have terminal' := steps.terminal terminal
  have none : ∀ p : Phase, p.isTerminal = true → p.owed = 0 := by
    intro p hp
    cases p <;> first | rfl | cases hp
  have owed := steps.owed
  rw [none _ terminal, none _ terminal', ite_self, Int.add_zero] at owed
  intro effect mem
  exact unwritten_of_writes owed.symm _ (List.mem_map_of_mem mem)

theorem Poised.open_of_running (poised : Poised s)
    (running : s.engine.stream.phase.isTerminal = false) : Open s := by
  rcases poised with opened | ⟨terminal, -⟩
  · exact opened
  · rw [running] at terminal
    cases terminal

theorem Poised.first (poised : Poised s) : Open s ∨ ∀ i ∈ s.agenda, i.isWrite = false :=
  poised.imp_right And.right

/-- What is to be written stands first, lines of the log aside. -/
theorem Poised.upFront (poised : Poised s) : UpFront (fun i => i.isWrite = true) s.agenda := by
  rcases poised with opened | ⟨-, cold⟩
  · intro i hi write
    have hot : i.isHot = true := by
      cases i with
      | ask a => cases a <;> first | rfl | cases write
      | _ => cases write
    exact opened.upFront i hi hot
  · exact upFront_of_forall fun i hi => by simp [cold i hi]

theorem Poised.step (poised : Poised s) (step : Step s m s') (permitted : c.Permits h m) :
    Poised s' := by
  rcases poised with opened | ⟨terminal, cold⟩
  · rcases opened.step step permitted with opened' | ⟨a, rest, after, effects, stream, ends⟩
    · exact .inl opened'
    · refine .inr ⟨by rw [stream.engine]; exact ends.over.terminal, fun i hi => ?_⟩
      obtain ⟨rc, sc, summary, f, _, _, heffects⟩ := ends.ending
      rw [stream.agenda, heffects] at hi
      rcases List.mem_append.1 hi with hi | hi
      · simp only [farewell, List.mem_cons, List.not_mem_nil, or_false] at hi
        rcases hi with rfl | rfl <;> rfl
      · exact isWrite_of_isHot (opened.cold stream.head rfl i hi)
  · refine .inr ⟨step.terminal permitted terminal, fun i hi => ?_⟩
    rcases step.stream_or_quiet permitted with ⟨a, rest, after, effects, stream⟩ | ⟨_, quiet⟩
    · rw [stream.agenda] at hi
      rcases List.mem_append.1 hi with hi | hi
      · obtain ⟨effect, mem, rfl⟩ := List.mem_map.1 hi
        exact stream.steps.isWrite_of_terminal terminal effect mem
      · exact cold i (by simp [stream.head, hi])
    · obtain ⟨front, tail, heq, htail, hfront⟩ := quiet.agenda
      rw [heq] at hi
      rcases List.mem_append.1 hi with hi | hi
      · exact isWrite_of_isHot (Instruction.isHot_eq_false (hfront i hi))
      · exact cold i (List.mem_of_mem_tail (htail.mem hi))

theorem Run.poised {e : Engine} (waits : e.stream.Waits) (run : Run c ⟨e, []⟩ h s) :
    Poised s := by
  refine run.invariant (I := fun _ s => Poised s) (.inl ⟨waits, by simp, ?_⟩) ?_
  · simp [UpFront, pastLines]
  · exact fun poised step permitted => poised.step step permitted

end Poised

end QueryStream
