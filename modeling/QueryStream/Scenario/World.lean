/-
  Scenario/World.lean --- an engine in its surroundings.

  A world carries out what is on the agenda of its engine, one instruction after
  the other, and then the jobs of the loop, each to its end.  It is idle once the
  agenda and the queue are empty.

  Runs are bounded by fuel.  They stop by themselves when there is nothing left to
  do, and a world that settled comes to the same with more fuel (`World.settle_of_le`).
-/
import QueryStream.Scenario.Scene

set_option autoImplicit false

namespace QueryStream

/-- An engine in its surroundings, and what it has yet to do. -/
structure World where
  engine : Engine
  scene : Scene
  agenda : List Instruction

namespace World

/-- Carry out an instruction, in front of the rest of the agenda. -/
def carryOut (w : World) (instruction : Instruction) (rest : List Instruction) : World :=
  match instruction with
  | .ask a =>
      let (scene, reply) := w.scene.respond w.engine a
      { w with scene, agenda := reply.onto rest }
  | instruction =>
      let (engine, reply) := w.engine.exec instruction
      { w with engine, agenda := reply.onto rest }

/-- Carry out the first instruction of the agenda. -/
def step? (w : World) : Option World :=
  match w.agenda with
  | [] => none
  | instruction :: rest => some (w.carryOut instruction rest)

/-- Carry out the first instruction, or begin the next job if there is none. -/
def turn? (w : World) : Option World :=
  match w.step? with
  | some w => some w
  | none => w.engine.nextJob?.map fun (engine, agenda) => { w with engine, agenda }

/-- Whether there is nothing left to do. -/
def isIdle (w : World) : Bool := w.agenda.isEmpty && w.engine.loop.ready.isEmpty

/-- Carry out the agenda. -/
def run : Nat → World → World
  | 0, w => w
  | fuel + 1, w =>
      match w.step? with
      | some w => run fuel w
      | none => w

/-- Carry out the agenda and all jobs. -/
def settle : Nat → World → World
  | 0, w => w
  | fuel + 1, w =>
      match w.turn? with
      | some w => settle fuel w
      | none => w

/-- Carry out a command. -/
def perform (fuel : Nat) (w : World) (c : Command) : World :=
  run fuel { w with agenda := [.ask (.perform c), .guarded .command] }

/-! ## Fuel -/

theorem turn?_eq_none_iff (w : World) : w.turn? = none ↔ w.isIdle = true := by
  unfold turn? step? isIdle Engine.nextJob? Loop.next?
  cases w.agenda with
  | cons instruction rest => simp
  | nil => cases w.engine.loop.ready <;> simp

theorem settle_of_isIdle (fuel : Nat) {w : World} (h : w.isIdle = true) :
    settle fuel w = w := by
  cases fuel with
  | zero => rfl
  | succ fuel => simp [settle, (turn?_eq_none_iff w).2 h]

theorem settle_add (m n : Nat) (w : World) : settle (m + n) w = settle n (settle m w) := by
  induction m generalizing w with
  | zero => simp [settle]
  | succ m ih =>
      rw [Nat.add_right_comm]
      cases h : w.turn? with
      | some next => simp [settle, h, ih]
      | none => simp [settle_of_isIdle, (turn?_eq_none_iff w).1 h]

/-- A world that became idle is left as it is by more fuel. -/
theorem settle_of_le {m n : Nat} {w : World} (h : (settle m w).isIdle = true) (le : m ≤ n) :
    settle n w = settle m w := by
  obtain ⟨extra, rfl⟩ := Nat.exists_eq_add_of_le le
  rw [settle_add, settle_of_isIdle extra h]

end World

end QueryStream
