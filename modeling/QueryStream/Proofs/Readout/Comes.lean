/-
  Proofs/Readout/Comes.lean --- where a world comes to by itself.

  A world carries on by itself, one instruction after the other and one job after the other.
  `Comes` says that this leads to a world with some property, whatever there is of the scene
  beside its wire: the connection as far as its answers depend on it, and the requests
  written.  It is proved backwards, from the end: each rule takes one instruction or job off
  the front, so no number of steps is ever counted.
-/
import QueryStream.Proofs.Run
import QueryStream.Scenario.World

set_option autoImplicit false

namespace QueryStream

/-- How a connection sets about answering a request that is written. -/
def AnswerTime.instructions (m : Message) : AnswerTime → List Instruction
  | .never => []
  | .later => [.soon (.answer m)]
  | .atOnce => [.ask (.answer m)]

/-- How the task ends that gives a connection back. -/
def ReleaseConduct.reply (t : TaskId) : ReleaseConduct → Reply
  | .neverEnds => .go [.awaitNever t]
  | .fails f => .raise (.failure f)
  | _ => .go [.finish t .nothing]

/-- The request whose writing is seen, if it is one. -/
def Event.written? : Event → Option Message
  | .written m => some m
  | _ => none

/-- The requests written in a scene, latest first. -/
def Scene.written (s : Scene) : List Message := s.seen.filterMap Event.written?

/-- What of a scene decides how the connection answers, with the requests written so far. -/
structure Wire where
  script : ConnectionScript
  /-- the rows that no answer covers yet -/
  rows : List Value
  /-- the rows of the answer under way that are not sent -/
  unsent : List Value
  /-- the pace of the turns to come -/
  pace : List Nat
  /-- how many requests for records were answered -/
  pulls : Nat
  /-- latest first -/
  written : List Message
  /-- what marking the transaction as terminated fails with -/
  terminationFailure : Option Failure

namespace Wire

/-- The connection of a wire, but for what does not count towards its answers. -/
def connection (x : Wire) : Connection := ⟨x.script, x.rows, x.unsent, x.pace, 0, x.pulls, 0, 0⟩

/-- How many rows the answer to the next request for `n` records covers. -/
def batchSize (x : Wire) (n : Int) : Nat := x.connection.batchSize (x.pulls + 1) n

/-- The wire once the next request for `n` records is being answered. -/
def afterBatch (x : Wire) (n : Int) : Wire :=
  { x with
    rows := x.rows.drop (x.batchSize n)
    unsent := x.rows.take (x.batchSize n)
    pulls := x.pulls + 1 }

/-- How the answer to a request for records ends. -/
def batchEnd (x : Wire) (pull : Nat) : Stream.Action := x.connection.batchEnd pull

end Wire

/-- The wire of a scene. -/
def Scene.wire (s : Scene) : Wire :=
  ⟨s.connection.script, s.connection.rows, s.connection.unsent, s.connection.pace,
    s.connection.pulls, s.written, s.terminationFailure⟩

/-- Wherever the scene has such a wire, carrying on leads to a world with a property. -/
def Comes (Q : World → Prop) (e : Engine) (x : Wire) (agenda : List Instruction) : Prop :=
  ∀ scene : Scene, scene.wire = x → ∃ n, Q (World.settle n ⟨e, scene, agenda⟩)

/-- An owner of a stream that throws nothing when it is told of the end: the connection of a
session begins to be given back, and a transaction is marked as terminated. -/
def Owner.Bears (script : ConnectionScript) (terminationFailure : Option Failure) : Owner → Prop
  | .session _ => ∀ f, script.release ≠ .refused f
  | .transaction => terminationFailure = none

/-- Metadata with which a stream can end: it tells of no more rows, and its summary can be
read. -/
structure Engine.Closes (e : Engine) (metadata : Value) : Prop where
  last : ∃ raw, metadata.field "has_more" = .ok raw ∧ raw.isTrue = false
  read : ∃ summary, Summary.ofMetadata e.query e.server (.ofInt? e.run.availableAfter) metadata
    = .ok summary

/-- A connection that answers every request and does not fail by itself, but for an answer that
breaks off; its metadata can be read, and the owner of the stream throws nothing. -/
structure Wire.Serves (x : Wire) (e : Engine) : Prop where
  answers : x.script.answers ≠ .never
  writes : x.script.brokenWrite = none
  drops : x.script.discardsPutOff ≤ 0
  dropped : x.script.discardFailure = none
  final : e.Closes x.script.final
  discarded : e.Closes x.script.discarded
  bears : e.owner.Bears x.script x.terminationFailure

namespace Connection

variable {quota : Nat} {pace : List Nat}

theorem takePortion_some (c : Connection) (turn : c.pace = quota :: pace)
    (some : quota ≤ c.unsent.length) :
    c.takePortion
      = ({ c with unsent := c.unsent.drop quota, pace }, c.unsent.take quota, false) := by
  simp [takePortion, takeTurn, turn, some]

theorem takePortion_rest (c : Connection)
    (turn : ∀ quota ∈ c.pace.head?, c.unsent.length < quota) :
    c.takePortion = ({ c with unsent := [], pace := c.pace.tail }, c.unsent, true) := by
  unfold takePortion takeTurn
  cases pace : c.pace with
  | nil => rfl
  | cons quota pace =>
      have few : ¬ quota ≤ c.unsent.length := Nat.not_le.2 (turn quota (by simp [pace]))
      simp [few]

end Connection

/-- At the wire `x₀`, an ask has the connection send a portion of the answer to a pull, from the
wire `x` on. -/
def Sends (a : Ask) (x₀ x : Wire) (pull : Nat) : Prop :=
  ∀ (e : Engine) (scene : Scene), scene.wire = x₀ →
    ∃ scene' : Scene, scene'.wire = x ∧ scene.respond e a = scene'.sendPortion pull

theorem sends_sendOn (x : Wire) (pull : Nat) : Sends (.sendOn pull) x x pull :=
  fun _ scene wire => ⟨scene, wire, rfl⟩

theorem sends_answer (x : Wire) (n query : Int) :
    Sends (.answer (.pull n query)) x (x.afterBatch n) (x.pulls + 1) := by
  rintro e scene rfl
  exact ⟨{ scene with connection := scene.connection.takeBatch n }, rfl, rfl⟩

namespace Comes

variable {Q : World → Prop} {e : Engine} {x : Wire} {rest : List Instruction}

theorem now {agenda : List Instruction} (holds : ∀ scene, scene.wire = x → Q ⟨e, scene, agenda⟩) :
    Comes Q e x agenda :=
  fun scene wire => ⟨0, holds scene wire⟩

theorem of_turn {e' : Engine} {x' : Wire} {agenda agenda' : List Instruction}
    (turn : ∀ scene : Scene, scene.wire = x → ∃ scene' : Scene, scene'.wire = x' ∧
      World.turn? ⟨e, scene, agenda⟩ = some ⟨e', scene', agenda'⟩)
    (next : Comes Q e' x' agenda') : Comes Q e x agenda := by
  intro scene wire
  obtain ⟨scene', wire', turned⟩ := turn scene wire
  obtain ⟨n, holds⟩ := next scene' wire'
  refine ⟨n + 1, ?_⟩
  rw [World.settle, turned]
  exact holds

theorem carry {e' : Engine} {i : Instruction} {r : Reply} (own : i.isAsk = false)
    (exec : e.exec i = (e', r)) (next : Comes Q e' x (r.onto rest)) : Comes Q e x (i :: rest) := by
  refine of_turn (fun scene wire => ⟨scene, wire, ?_⟩) next
  cases i with
  | ask a => cases own
  | _ => simp only [World.turn?, World.step?, World.carryOut, exec]

theorem go (e' : Engine) {i : Instruction} (next : List Instruction) (own : i.isAsk = false)
    (exec : e.exec i = (e', .go next)) (goes : Comes Q e' x (next ++ rest)) :
    Comes Q e x (i :: rest) :=
  carry own exec goes

theorem ask (x' : Wire) {a : Ask} {r : Reply}
    (answers : ∀ scene : Scene, scene.wire = x →
      (scene.respond e a).1.wire = x' ∧ (scene.respond e a).2 = r)
    (next : Comes Q e x' (r.onto rest)) : Comes Q e x (.ask a :: rest) := by
  refine of_turn (fun scene wire => ?_) next
  obtain ⟨wire', reply⟩ := answers scene wire
  refine ⟨_, wire', ?_⟩
  simp only [World.turn?, World.step?, World.carryOut, reply]

theorem begin {j : Job} {ready : List Job} (next : e.loop.ready = j :: ready)
    (goes : Comes Q ({ e with loop := { e.loop with ready } }.runJob j).1 x
      ({ e with loop := { e.loop with ready } }.runJob j).2) : Comes Q e x [] := by
  refine of_turn (fun scene wire => ⟨scene, wire, ?_⟩) goes
  simp only [World.turn?, World.step?, Engine.nextJob?, Loop.next?, next, Option.map_some]

/-! ### Asks -/

theorem log {line : Log.Line} (next : Comes Q e x rest) :
    Comes Q e x (.ask (.log line) :: rest) := by
  refine ask _ (r := .go []) (fun scene wire => ?_) next
  simp only [Scene.respond]
  refine ⟨?_, trivial⟩
  split
  · exact wire
  · exact wire

theorem warn {text : String} (next : Comes Q e x rest) :
    Comes Q e x (.ask (.warn text) :: rest) :=
  ask _ (r := .go []) (fun _ wire => ⟨wire, rfl⟩) next

theorem terminate {f : Failure} (unfailing : x.terminationFailure = none)
    (next : Comes Q e x rest) : Comes Q e x (.ask (.terminate f) :: rest) := by
  refine ask _ (r := .go []) (fun scene wire => ⟨wire, ?_⟩) next
  have unfailing : scene.terminationFailure = none := by
    rw [← wire] at unfailing
    exact unfailing
  simp only [Scene.respond, unfailing]

theorem release (begins : ∀ f, x.script.release ≠ .refused f) (next : Comes Q e x rest) :
    Comes Q e x (.ask .release :: rest) := by
  refine ask x (r := .go []) (fun scene wire => ?_) next
  have begins : ∀ f, scene.connection.script.release ≠ .refused f := by
    rw [← wire] at begins
    exact begins
  unfold Scene.respond Scene.beginRelease
  cases conduct : scene.connection.script.release with
  | refused f => exact absurd conduct (begins f)
  | _ => exact ⟨wire, rfl⟩

theorem runRelease {t : TaskId} (next : Comes Q e x ((x.script.release.reply t).onto rest)) :
    Comes Q e x (.ask (.runRelease t) :: rest) := by
  refine ask x (fun scene wire => ?_) next
  subst wire
  unfold Scene.respond Scene.runRelease
  simp only [Scene.wire, Scene.see]
  cases scene.connection.script.release <;> exact ⟨rfl, rfl⟩

/-! ### Requests and their answers -/

theorem write {m : Message} (sound : x.script.brokenWrite = none)
    (next : Comes Q e { x with written := m :: x.written }
      (AnswerTime.instructions m x.script.answers ++ rest)) :
    Comes Q e x (.ask (.write m) :: rest) := by
  refine ask _ (r := .go (AnswerTime.instructions m x.script.answers)) (fun scene wire => ?_) next
  subst wire
  have sound : scene.connection.script.brokenWrite = none := sound
  unfold Scene.respond Scene.write
  simp only [Connection.countWrite, sound, Scene.see, Scene.wire, Scene.written,
    List.filterMap_cons, Event.written?]
  refine ⟨trivial, ?_⟩
  cases scene.connection.script.answers <;> rfl

/-- Some rows of a batch are sent, and the rest is left for another job. -/
theorem sendSome {a : Ask} {x₀ : Wire} {pull quota : Nat} {pace : List Nat}
    (sends : Sends a x₀ x pull) (turn : x.pace = quota :: pace) (some : quota ≤ x.unsent.length)
    (next : Comes Q e { x with unsent := x.unsent.drop quota, pace }
      ((x.unsent.take quota).map (fun row => .stream (.deliver row))
        ++ .soon (.sendOn pull) :: rest)) :
    Comes Q e x₀ (.ask a :: rest) := by
  refine ask _ (r := .go ((x.unsent.take quota).map (fun row => .stream (.deliver row))
    ++ [.soon (.sendOn pull)])) (fun scene wire => ?_) (by simpa [Reply.onto] using next)
  obtain ⟨scene', rfl, responds⟩ := sends e scene wire
  rw [responds, Scene.sendPortion, scene'.connection.takePortion_some turn some]
  exact ⟨rfl, rfl⟩

/-- The rows of a batch are sent that are left, and then it ends. -/
theorem sendRest {a : Ask} {x₀ : Wire} {pull : Nat} (sends : Sends a x₀ x pull)
    (turn : ∀ quota ∈ x.pace.head?, x.unsent.length < quota)
    (next : Comes Q e { x with unsent := [], pace := x.pace.tail }
      (x.unsent.map (fun row => .stream (.deliver row)) ++ .ask (.endBatch pull) :: rest)) :
    Comes Q e x₀ (.ask a :: rest) := by
  refine ask _ (r := .go (x.unsent.map (fun row => .stream (.deliver row))
    ++ [.ask (.endBatch pull)])) (fun scene wire => ?_) (by simpa [Reply.onto] using next)
  obtain ⟨scene', rfl, responds⟩ := sends e scene wire
  rw [responds, Scene.sendPortion, scene'.connection.takePortion_rest turn]
  exact ⟨rfl, rfl⟩

theorem endBatch {pull : Nat} (next : Comes Q e x (.stream (x.batchEnd pull) :: rest)) :
    Comes Q e x (.ask (.endBatch pull) :: rest) := by
  refine ask _ (r := .go [.stream (x.batchEnd pull)]) (fun scene wire => ?_) next
  subst wire
  exact ⟨rfl, rfl⟩

/-- Dropping what is left is put off to another job. -/
theorem putOffDiscard {n query : Int} (turn : x.pace.head? = some 0)
    (next : Comes Q e { x with pace := x.pace.tail }
      (.soon (.answer (.discard n query)) :: rest)) :
    Comes Q e x (.ask (.answer (.discard n query)) :: rest) := by
  refine ask _ (r := .go [.soon (.answer (.discard n query))]) (fun scene wire => ?_) next
  subst wire
  have turn : scene.connection.pace.head? = some 0 := turn
  have responds : scene.respond e (.answer (.discard n query))
      = ({ scene with connection := scene.connection.takeTurn.1 },
        .go [.soon (.answer (.discard n query))]) := if_pos turn
  rw [responds]
  exact ⟨rfl, rfl⟩

theorem answerDiscard {n query : Int} (prompt : x.script.discardsPutOff ≤ 0)
    (sound : x.script.discardFailure = none) (turn : x.pace.head? ≠ some 0)
    (next : Comes Q e { x with rows := [], pace := x.pace.tail }
      (.stream (.succeed x.script.discarded) :: rest)) :
    Comes Q e x (.ask (.answer (.discard n query)) :: rest) := by
  refine ask _ (r := .go [.stream (.succeed x.script.discarded)]) (fun scene wire => ?_) next
  subst wire
  have prompt : ¬ ((scene.connection.discards + 1 : Nat) : Int)
      ≤ scene.connection.script.discardsPutOff := by
    have prompt : scene.connection.script.discardsPutOff ≤ 0 := prompt
    omega
  have sound : scene.connection.script.discardFailure = none := sound
  have turn : scene.connection.pace.head? ≠ some 0 := turn
  have responds : scene.respond e (.answer (.discard n query))
      = ({ scene with connection := scene.connection.takeTurn.1.answerDiscard.1 },
        .go [.stream scene.connection.takeTurn.1.answerDiscard.2]) := if_neg turn
  rw [responds]
  simp only [Connection.takeTurn, Connection.answerDiscard, if_neg prompt, sound]
  exact ⟨rfl, rfl⟩

end Comes

end QueryStream
