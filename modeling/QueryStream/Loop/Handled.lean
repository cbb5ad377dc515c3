/-
  Loop/Handled.lean --- promises made of other promises.

  A handled promise settles one turn after its source: with what the handler
  makes of the source's value or failure.  A source that is cancelled cancels
  it, and once it is settled in another way its handler is no longer called.
-/
import QueryStream.Failure
import QueryStream.Loop.Basic

set_option autoImplicit false

namespace QueryStream

/-- What the promises of a desk are settled with. -/
inductive Payload where
  /-- a plain value -/
  | value (v : Value)
  /-- a failure, kept as a value -/
  | failure (f : Failure)
  /-- what was handled, and whether it was a failure -/
  | handled (p : Payload) (failed : Bool)

/-- Nothing. -/
def Payload.nothing : Payload := .value .null

/-- What is made of the value of a source, or of its failure and nothing. -/
structure Handler where
  answer : Payload → Option Failure → Except Failure Payload

namespace Handler

/-- Return the value, with whether there was a failure. -/
def report : Handler := ⟨fun p f => .ok (.handled p f.isSome)⟩

/-- Return the failure, or nothing. -/
def surface : Handler := ⟨fun _ f => .ok (match f with
  | some f => .failure f
  | none => .nothing)⟩

/-- Fail. -/
def fail (f : Failure) : Handler := ⟨fun _ _ => .error f⟩

end Handler

/-- A handler between a promise and the promise that is made of it. -/
structure Link where
  source : PromiseId
  target : PromiseId
  handler : Handler

/-- A call of a handler: the promise it is for, and what it was called with. -/
structure HandlerCall where
  target : PromiseId
  value : Payload
  failure : Option Failure

/-- Promises linked by handlers, and the calls of handlers so far, latest first. -/
structure Chain where
  loop : Loop Payload Failure Link
  calls : List HandlerCall

namespace Chain

/-- No promises. -/
def empty : Chain := ⟨.idle, []⟩

/-- Make a promise out of another. -/
def handle (c : Chain) (source : PromiseId) (handler : Handler) : Chain :=
  let target := c.loop.nextId
  { c with loop := c.loop.create.watch source ⟨source, target, handler⟩ }

/-- Call the handler of a link and settle its target with the answer. -/
def call (c : Chain) (link : Link) (value : Payload) (failure : Option Failure) : Chain :=
  let settlement : Settlement Payload Failure :=
    match link.handler.answer value failure with
    | .ok p => .value p
    | .error f => .failure f
  { loop := c.loop.settle link.target settlement
    calls := ⟨link.target, value, failure⟩ :: c.calls }

/-- Run a link whose source is settled. -/
def follow (c : Chain) (link : Link) : Chain :=
  if c.loop.isDone link.target then c
  else
    match c.loop.settlement? link.source with
    | some (.value p) => c.call link p none
    | some (.failure f) => c.call link .nothing (some f)
    | some .cancelled => { c with loop := c.loop.settle link.target .cancelled }
    | none => c

/-- Run the link at the head of the queue. -/
def step (c : Chain) : Chain :=
  match c.loop.next? with
  | some (link, loop) => { c with loop := loop }.follow link
  | none => c

/-- Run links until the queue is empty, but at most as many as given. -/
def run : Nat → Chain → Chain
  | 0, c => c
  | fuel + 1, c => if c.loop.ready.isEmpty then c else run fuel c.step

/-- Run links until the queue is empty.  Every link runs at most once, so there
are never more runs than links that are queued or watching. -/
def settle (c : Chain) : Chain := run c.loop.load c

end Chain

/-! ## A desk

A desk names the promises of a chain and takes one step after the other. -/

/-- A step at a desk. -/
inductive DeskStep where
  /-- make a promise -/
  | create (name : String)
  /-- make a promise that is settled with a value -/
  | createWith (name : String) (p : Payload)
  /-- settle a promise with a value -/
  | complete (name : String) (p : Payload)
  /-- settle a promise with a failure -/
  | fail (name : String) (f : Failure)
  /-- cancel a promise -/
  | cancel (name : String)
  /-- make a promise out of another -/
  | handle (source name : String) (handler : Handler)
  /-- do nothing -/
  | nothing

/-- A chain whose promises have names: every naming so far, in order.  A name
may be given again, and then belongs to the later promise. -/
structure Desk where
  names : List (String × PromiseId)
  chain : Chain

namespace Desk

/-- Nothing on the desk. -/
def empty : Desk := ⟨[], .empty⟩

/-- The promise of a name: the one that it was given to last. -/
def find? (d : Desk) (name : String) : Option PromiseId :=
  (d.names.reverse.find? fun entry => entry.1 == name).map Prod.snd

/-- The name that a promise was given, even if it lost it since. -/
def nameOf (d : Desk) (p : PromiseId) : String :=
  ((d.names.find? fun entry => entry.2 == p).map Prod.fst).getD ""

/-- The names in the order in which they were first given, each with its promise. -/
def named (d : Desk) : List (String × PromiseId) :=
  (d.names.map Prod.fst).eraseDups.filterMap fun name =>
    (d.find? name).map fun p => (name, p)

/-- Settle a named promise; the answer is whether it was this that settled it. -/
def settle (d : Desk) (name : String) (s : Settlement Payload Failure) :
    Desk × Except Cause (Option Bool) :=
  match d.find? name with
  | some p =>
      ({ d with chain := { d.chain with loop := d.chain.loop.settle p s } },
        .ok (some (d.chain.loop.canSettle p)))
  | none => (d, .error (.nameUnknown name))

/-- Name the promise that comes next. -/
def withName (d : Desk) (name : String) (chain : Chain) : Desk × Except Cause (Option Bool) :=
  ({ names := d.names ++ [(name, d.chain.loop.nextId)], chain }, .ok none)

/-- Take a step.  Where something is settled, the answer is whether it had an
effect. -/
def take (d : Desk) : DeskStep → Desk × Except Cause (Option Bool)
  | .create name => d.withName name { d.chain with loop := d.chain.loop.create }
  | .createWith name p =>
      d.withName name { d.chain with loop := d.chain.loop.createSettled (.value p) }
  | .complete name p => d.settle name (.value p)
  | .fail name f => d.settle name (.failure f)
  | .cancel name => d.settle name .cancelled
  | .handle source name handler =>
      match d.find? source with
      | some p => d.withName name (d.chain.handle p handler)
      | none => (d, .error (.nameUnknown source))
  | .nothing => (d, .ok none)

/-- Run what is ready. -/
def run (d : Desk) : Desk := { d with chain := d.chain.settle }

/-- The calls of handlers since an earlier state, in order. -/
def callsSince (d earlier : Desk) : List HandlerCall :=
  (d.chain.calls.take (d.chain.calls.length - earlier.chain.calls.length)).reverse

end Desk

end QueryStream
