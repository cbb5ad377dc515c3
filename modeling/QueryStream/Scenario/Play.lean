/-
  Scenario/Play.lean --- scenarios: a setup, the steps taken, and what is reported.

  A scenario builds a world and takes its steps.  After each step the world
  settles, unless the step says otherwise, and the step is reported: its answer,
  what was seen, the promises found settled for the first time, and the state if
  it is not the one reported last.
-/
import QueryStream.Scenario.World

set_option autoImplicit false

namespace QueryStream

/-! ## Setups -/

/-- The response to the run request at the start. -/
inductive RunResponse where
  | none
  | success (metadata : Value)
  | failure (f : Failure)

/-- Who owns the stream of a scenario. -/
inductive OwnerPlan where
  /-- a session: whether it gives the connection back, and its bookmark -/
  | session (holdsConnection : Bool) (bookmark : Value) (showsBookmark : Bool)
  /-- a transaction, and what marking it as terminated fails with -/
  | transaction (terminationFailure : Option Failure)

/-- The channel of a scenario. -/
inductive ChannelPlan where
  | stream (owner : OwnerPlan) (options : Option OptionsPlan)
  /-- a channel outside, which may give the connection back -/
  | outside (forwardsFailures holdsConnection : Bool)

/-- What a scenario begins with. -/
structure Setup where
  query : Query
  server : ServerInfo
  threshold : Option Log.Level
  run : RunResponse
  connection : ConnectionScript
  rows : List Value
  channel : ChannelPlan

namespace Setup

/-- The outcome of the run request after the response at the start. -/
def runOutcome (s : Setup) : Except Cause RunOutcome :=
  match s.run with
  | .none => .ok .pending
  | .success metadata =>
      match RunOutcome.pending.succeed metadata with
      | (o, none) => .ok o
      | (_, some c) => .error c
  | .failure f => .ok (RunOutcome.pending.fail f)

/-- The cap on the records delivered. -/
def cap (s : Setup) : Except Cause Value :=
  match s.channel with
  | .stream _ plan => do
      let given ← AnyOptions.makeGiven? plan
      return (FullOptions.standard.overrideBy given).maxRecordCount
  | .outside _ _ => .ok FullOptions.standard.maxRecordCount

/-- The release that belongs to the channel. -/
def channelRelease (s : Setup) : Option Release :=
  match s.channel with
  | .stream (.session holdsConnection _ _) _ =>
      some (if holdsConnection then .ofConnection else .ofNothing)
  | .stream (.transaction _) _ => none
  | .outside _ holdsConnection => if holdsConnection then some .ofConnection else none

/-- The owner of the stream. -/
def owner (s : Setup) : Owner :=
  match s.channel with
  | .stream (.session _ _ _) _ => .session 0
  | _ => .transaction

/-- The bookmark of the session at the start. -/
def bookmark (s : Setup) : Value :=
  match s.channel with
  | .stream (.session _ bookmark _) _ => bookmark
  | _ => .null

/-- Whether the bookmark of the session is shown. -/
def showsBookmark (s : Setup) : Bool :=
  match s.channel with
  | .stream (.session _ _ shows) _ => shows
  | _ => false

/-- The surroundings at the start. -/
def scene (s : Setup) : Scene :=
  .fresh s.threshold (.fresh s.connection s.rows)
    (match s.channel with
      | .stream (.transaction f) _ => f
      | _ => none)
    (match s.channel with
      | .outside forwards _ => forwards
      | _ => false)

/-- The world at the start. -/
def build (s : Setup) : Except Cause World := do
  let run ← s.runOutcome
  let cap ← s.cap
  let engine : Engine := {
    query := s.query, server := s.server, cap, run
    owner := s.owner, bookmark := s.bookmark
    hasStream := match s.channel with
      | .stream _ _ => true
      | .outside _ _ => false
    channelRelease := s.channelRelease.map fun _ => 0
    stream := .fresh, releases := s.channelRelease.toArray
    cursors := #[], results := #[], iterations := #[], tasks := #[], loop := .idle }
  return ⟨engine, s.scene, []⟩

end Setup

/-! ## Reports -/

/-- What is shown of the state of a world. -/
structure View where
  run : String
  availableAfter : Option Int
  runError : Option Failure
  releases : Nat
  release : Option String
  /-- the stream, if it is the channel -/
  stream : Option (String × Phase)
  bookmark : Option String
  cursor : Option String
  deriving DecidableEq

/-- The view of a world. -/
def World.view (w : World) (showsBookmark : Bool) : View :=
  let e := w.engine
  { run := e.run.literal
    availableAfter := e.run.availableAfter
    runError := e.run.runError?
    releases := w.scene.connection.releases
    release := (e.channelRelease.bind fun r => e.releases[r]?).map Release.literal
    stream := if e.hasStream then some (e.stream.literal e.surroundings, e.stream.phase)
      else none
    bookmark := if showsBookmark then some ("BookmarkHolder(" ++ e.bookmark.literal ++ ")")
      else none
    cursor := w.scene.cursor.map e.cursorLiteral }

/-- What is reported of a step. -/
structure StepReport where
  answer : Except Failure Answer
  /-- what was seen, in order -/
  seen : List Event
  /-- the promises found settled for the first time, in order -/
  settled : List (String × Settlement Delivery Failure)
  /-- the state, if it is not the one reported last -/
  view : Option View

/-- What is reported of a scenario. -/
structure Report where
  steps : List StepReport
  /-- the promises that are not settled at the end -/
  pending : List String

/-! ## Playing -/

/-- A step of a scenario. -/
structure ScenarioStep where
  command : Command
  /-- whether the world settles afterwards -/
  settles : Bool

/-- A scenario being played: the world, and what was reported last. -/
structure Playback where
  world : World
  /-- the names of promises reported as settled -/
  reported : List String
  shown : Option View

/-- The named promises of a world that are settled, with what they were settled
with. -/
def World.settledPromises (w : World) : List (String × Settlement Delivery Failure) :=
  w.scene.promises.filterMap fun (name, p) => (w.engine.loop.settlement? p).map fun s => (name, s)

/-- The names of promises of a world that are not settled. -/
def World.pendingNames (w : World) : List String :=
  (w.scene.promises.filter fun (_, p) => !w.engine.loop.isDone p).map Prod.fst

namespace Playback

/-- Take a step. -/
def take (fuel : Nat) (showsBookmark : Bool) (p : Playback) (step : ScenarioStep) :
    Playback × StepReport :=
  let begun := { p.world with scene := { p.world.scene with seen := [], answer := .ok .nothing } }
  let performed := begun.perform fuel step.command
  let answer := performed.scene.answer
  let world := if step.settles then performed.settle fuel else performed
  let settled := world.settledPromises.filter fun entry => !p.reported.contains entry.1
  let view := world.view showsBookmark
  ({ world, reported := p.reported ++ settled.map Prod.fst, shown := some view },
    { answer, seen := world.scene.seen.reverse, settled
      view := if p.shown = some view then none else some view })

/-- Take steps, one after the other. -/
def takeAll (fuel : Nat) (showsBookmark : Bool) :
    Playback → List ScenarioStep → Playback × List StepReport
  | p, [] => (p, [])
  | p, step :: rest =>
      let (p, report) := p.take fuel showsBookmark step
      let (p, reports) := takeAll fuel showsBookmark p rest
      (p, report :: reports)

end Playback

/-- A scenario. -/
structure Scenario where
  setup : Setup
  steps : List ScenarioStep

namespace Scenario

/-- More instructions than a scenario can lead to in one step: every command leads
to a bounded number of them, and so do every row, every request to drop what is
left that is put off, every turn of the connection and every call of a consumer. -/
def fuel (s : Scenario) : Nat :=
  let commands := s.steps.foldl (fun weight step => weight + step.command.weight) 0
  1000 * (commands + 1) * (commands + s.setup.rows.length
    + s.setup.connection.discardsPutOff.toNat + s.setup.connection.pace.length + 10)

/-- Play a scenario. -/
def play (s : Scenario) : Except Cause Report := do
  let world ← s.setup.build
  let (p, steps) := Playback.takeAll s.fuel s.setup.showsBookmark ⟨world, [], none⟩ s.steps
  return ⟨steps, p.world.pendingNames⟩

end Scenario

end QueryStream
