/-
  Loop/Basic.lean --- promises, and the queue of jobs that are ready to run.

  A promise is settled at most once: with a value, with a failure, or by being
  cancelled.  Jobs that watch a promise are queued when it settles, in the order
  in which they began to watch; a job that begins to watch a settled promise is
  queued at once.  The queue is first in, first out.
-/

set_option autoImplicit false

namespace QueryStream

/-- How a promise was settled. -/
inductive Settlement (α ε : Type) where
  | value (a : α)
  | failure (e : ε)
  | cancelled
  deriving DecidableEq, Repr

/-- Something that will be settled, and the jobs that wait for it. -/
structure Promise (α ε κ : Type) where
  settlement : Option (Settlement α ε)
  watchers : List κ

/-- The place of a promise in its loop. -/
abbrev PromiseId : Type := Nat

/-- Promises and the queue of ready jobs. -/
structure Loop (α ε κ : Type) where
  promises : Array (Promise α ε κ)
  ready : List κ

namespace Loop

variable {α ε κ : Type}

/-- No promises, and nothing ready. -/
def idle : Loop α ε κ := ⟨#[], []⟩

/-- The settlement of a promise, if it has one. -/
def settlement? (l : Loop α ε κ) (p : PromiseId) : Option (Settlement α ε) :=
  l.promises[p]?.bind Promise.settlement

/-- Whether a promise is settled. -/
def isDone (l : Loop α ε κ) (p : PromiseId) : Bool := (l.settlement? p).isSome

/-- The promise that is created next. -/
def nextId (l : Loop α ε κ) : PromiseId := l.promises.size

/-- Create a promise that is not settled; its place is the former `nextId`. -/
def create (l : Loop α ε κ) : Loop α ε κ :=
  { l with promises := l.promises.push ⟨none, []⟩ }

/-- Create a promise that is settled already. -/
def createSettled (l : Loop α ε κ) (s : Settlement α ε) : Loop α ε κ :=
  { l with promises := l.promises.push ⟨some s, []⟩ }

/-- Put a job at the end of the queue. -/
def soon (l : Loop α ε κ) (job : κ) : Loop α ε κ := { l with ready := l.ready ++ [job] }

/-- Settle a promise and queue the jobs that watch it, unless it is settled. -/
def settle (l : Loop α ε κ) (p : PromiseId) (s : Settlement α ε) : Loop α ε κ :=
  match l.promises[p]? with
  | some ⟨none, watchers⟩ =>
      { promises := l.promises.setIfInBounds p ⟨some s, []⟩
        ready := l.ready ++ watchers }
  | _ => l

/-- Whether settling a promise now has an effect. -/
def canSettle (l : Loop α ε κ) (p : PromiseId) : Bool :=
  match l.promises[p]? with
  | some ⟨none, _⟩ => true
  | _ => false

/-- Have a job wait for a promise. -/
def watch (l : Loop α ε κ) (p : PromiseId) (job : κ) : Loop α ε κ :=
  match l.promises[p]? with
  | some ⟨none, watchers⟩ =>
      { l with promises := l.promises.setIfInBounds p ⟨none, watchers ++ [job]⟩ }
  | some ⟨some _, _⟩ => l.soon job
  | none => l

/-- Have certain jobs no longer wait for a promise. -/
def unwatch (l : Loop α ε κ) (p : PromiseId) (leaves : κ → Bool) : Loop α ε κ :=
  match l.promises[p]? with
  | some ⟨s, watchers⟩ =>
      { l with promises := l.promises.setIfInBounds p ⟨s, watchers.filter fun k => !leaves k⟩ }
  | none => l

/-- Take the first job off the queue. -/
def next? (l : Loop α ε κ) : Option (κ × Loop α ε κ) :=
  match l.ready with
  | [] => none
  | job :: rest => some (job, { l with ready := rest })

/-- Jobs that are queued or may still be. -/
def load (l : Loop α ε κ) : Nat :=
  l.ready.length + (l.promises.toList.flatMap fun p => p.watchers).length

end Loop

end QueryStream
