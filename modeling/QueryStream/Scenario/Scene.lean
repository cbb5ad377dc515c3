/-
  Scenario/Scene.lean --- the surroundings of an engine, played by a script.

  The scene holds the connection, the caller's consumers with what they do when
  they are told of something, the channel outside if the stream is not used, and
  the names that the caller gave.  It answers what an engine asks, and turns
  commands into instructions.
-/
import QueryStream.Engine.Step
import QueryStream.Scenario.Connection
import QueryStream.Scenario.Event

set_option autoImplicit false

namespace QueryStream

/-- A consumer of the caller's own, with its calls so far and the commands that
it carries out: under the number of a call, and under `end` for the last. -/
structure Client where
  name : String
  reactions : List (String × List Command)
  calls : Nat

/-- The commands of a consumer at its latest call. -/
def Client.commands (c : Client) (isLast : Bool) : List Command :=
  ((c.reactions.lookup (toString c.calls)).getD [])
    ++ (if isLast then (c.reactions.lookup "end").getD [] else [])

/-- A channel outside: what is installed on it, and what it does with a failure. -/
structure OutsideChannel where
  /-- whether a failure ends the stream at once -/
  forwardsFailures : Bool
  recordConsumer : Option RecordConsumer
  summaryConsumer : Option SummaryConsumer

/-- An iteration that the caller named, with the promise of what it was asked
last. -/
structure NamedIteration where
  name : String
  iteration : IterationId
  latest : Option PromiseId

/-- The surroundings of an engine. -/
structure Scene where
  /-- the level from which lines are seen -/
  threshold : Option Log.Level
  connection : Connection
  /-- what marking the transaction as terminated fails with -/
  terminationFailure : Option Failure
  outside : OutsideChannel
  clients : Array Client
  /-- promises by the names they were given, in order -/
  promises : List (String × PromiseId)
  iterations : List NamedIteration
  cursor : Option CursorId
  result : Option ResultId
  /-- how the latest command ended -/
  answer : Except Failure Answer
  /-- what was seen, latest first -/
  seen : List Event

namespace Scene

/-- A scene in which nothing happened. -/
def fresh (threshold : Option Log.Level) (connection : Connection)
    (terminationFailure : Option Failure) (forwardsFailures : Bool) : Scene :=
  { threshold, connection, terminationFailure
    outside := ⟨forwardsFailures, none, none⟩
    clients := #[], promises := [], iterations := [], cursor := none, result := none
    answer := .ok .nothing, seen := [] }

/-- Something is seen. -/
def see (s : Scene) (event : Event) : Scene := { s with seen := event :: s.seen }

/-! ## Names -/

/-- A name that is free: the one given, with as many plus signs as it takes.  A
name that is longer than all that are taken is free, so there are never more
signs than names taken. -/
def freeName (taken : List String) (name : String) : Nat → String
  | 0 => name
  | tries + 1 => if taken.contains name then freeName taken (name ++ "+") tries else name

/-- Name a promise; the answer is the first name it already had. -/
def namePromise (s : Scene) (name : String) (p : PromiseId) : Scene × Option String :=
  let name := freeName (s.promises.map Prod.fst) name s.promises.length
  ({ s with promises := s.promises ++ [(name, p)] },
    (s.promises.find? fun entry => entry.2 == p).map Prod.fst)

/-- Name an iteration.  One that had the name loses it, and is abandoned unless it
is busy. -/
def nameIteration (e : Engine) (s : Scene) (name : String) (i : IterationId) : Scene × Reply :=
  let (former, others) := s.iterations.partition fun entry => entry.name == name
  let idle := former.filter fun entry => entry.latest.all e.loop.isDone
  ({ s with iterations := ⟨name, i, none⟩ :: others },
    .go (idle.map fun entry => .soon (.abandon entry.iteration)))

/-- Keep the promise of what a named iteration is asked. -/
def keepLatest (s : Scene) (name : String) (p : PromiseId) : Scene :=
  { s with iterations := s.iterations.map fun entry =>
      if entry.name = name then { entry with latest := some p } else entry }

/-! ## The connection -/

/-- Write a request.  An answer at once comes before the write returns. -/
def write (s : Scene) (m : Message) : Scene × Reply :=
  let (connection, failure) := s.connection.countWrite
  let s := { s.see (.written m) with connection }
  match failure with
  | some f => (s, .raise (.failure f))
  | none =>
      (s, .go (match connection.script.answers with
        | .never => []
        | .later => [.soon (.answer m)]
        | .atOnce => [.ask (.answer m)]))

/-- Send what there is to send of an answer to pull.  Unless that ends the batch, the rest is
left for a job of its own. -/
def sendPortion (s : Scene) (pull : Nat) : Scene × Reply :=
  let (connection, rows, whole) := s.connection.takePortion
  ({ s with connection },
    .go ((rows.map fun row => .stream (.deliver row))
      ++ [if whole then .ask (.endBatch pull) else .soon (.sendOn pull)]))

/-- Answer a request. -/
def answerRequest (s : Scene) (m : Message) : Scene × Reply :=
  match m with
  | .pull n _ =>
      let connection := s.connection.takeBatch n
      { s with connection }.sendPortion connection.pulls
  | .discard _ _ =>
      let (connection, quota) := s.connection.takeTurn
      if quota = some 0 then ({ s with connection }, .go [.soon (.answer m)])
      else
        let (connection, ending) := connection.answerDiscard
        ({ s with connection }, .go [.stream ending])

/-- Begin to give the connection back. -/
def beginRelease (s : Scene) : Scene × Reply :=
  match s.connection.script.release with
  | .refused f => (s.see .releaseRefused, .raise (.failure f))
  | _ => (s, .go [])

/-- Give the connection back, in a task. -/
def runRelease (s : Scene) (t : TaskId) : Scene × Reply :=
  let connection := { s.connection with releases := s.connection.releases + 1 }
  let s := { s.see .releaseStarted with connection }
  match connection.script.release with
  | .neverEnds => (s, .go [.awaitNever t])
  | .fails f => (s, .raise (.failure f))
  | _ => (s, .go [.finish t .nothing])

/-! ## Consumers and the channel outside -/

/-- Tell a consumer of the caller's own, which then carries out its commands. -/
def tell (s : Scene) (id : Nat) (event : String → Event) (isLast : Bool) : Scene × Reply :=
  match s.clients[id]? with
  | none => (s, .go [])
  | some client =>
      let client := { client with calls := client.calls + 1 }
      ({ s.see (event client.name) with clients := s.clients.setIfInBounds id client },
        .go ((client.commands isLast).map fun c => .ask (.perform c)))

/-- Add a consumer of the caller's own; the answer is its place. -/
def addClient (s : Scene) (name : String) (reactions : List (String × List Command)) :
    Scene × Nat :=
  ({ s with clients := s.clients.push ⟨name, reactions, 0⟩ }, s.clients.size)

/-- Tell both consumers of the channel outside of the end.  The record consumer is
the one that is installed once the summary consumer was told. -/
def endOutside (consumer : SummaryConsumer) (summary : Option Summary) (f : Option Failure) :
    List Instruction :=
  [.tellSummary consumer summary f, .ask (.endOutside f)]

/-- Tell the record consumer of the channel outside of the end. -/
def endRecords (s : Scene) (f : Option Failure) : Scene × Reply :=
  (s, .go (s.outside.recordConsumer.map fun c => Instruction.tellEnd c f).toList)

/-- Ask the channel outside something.  One that ends the stream at a failure needs
a summary consumer to tell. -/
def askOutside (e : Engine) (s : Scene) (r : ChannelRequest) : Scene × Reply :=
  let s := s.see (.channel r)
  match r with
  | .installRecord c =>
      ({ s with outside := { s.outside with recordConsumer := some c } }, .go [])
  | .installSummary c =>
      ({ s with outside := { s.outside with summaryConsumer := some c } }, .go [])
  | .request _ => (s, .go [])
  | .cancel => (s, .go [])
  | .fail f =>
      match s.outside.forwardsFailures, s.outside.summaryConsumer with
      | true, some c =>
          (s, .go (endOutside c (some (Stream.emptySummary e.surroundings)) (some f)))
      | true, none => (s, .raise (.arising .wrongSort))
      | false, _ => (s, .go [])

/-! ## Commands -/

/-- A command is answered once its instructions are carried out. -/
def andReport (s : Scene) (next : List Instruction) (a : Answer) : Scene × Reply :=
  (s, .go (next ++ [.ask (.report a)]))

/-- A command lacks something. -/
def lack (s : Scene) (what : Absence) : Scene × Reply := s.andReport [] (.missing what)

/-- A command fails. -/
def failing (s : Scene) (c : Cause) : Scene × Reply := (s, .raise (.arising c))

/-- With the latest cursor. -/
def withCursor (e : Engine) (s : Scene) (use : CursorId → Cursor → Scene × Reply) :
    Scene × Reply :=
  match s.cursor with
  | none => s.lack .cursor
  | some id =>
      match e.cursors[id]? with
      | none => s.lack .cursor
      | some c => use id c

/-- With the latest result. -/
def withResult (e : Engine) (s : Scene) (use : ResultId → QueryResult → Scene × Reply) :
    Scene × Reply :=
  match s.result with
  | none => s.lack .result
  | some id =>
      match e.results[id]? with
      | none => s.lack .result
      | some q => use id q

/-- With a named iteration that is not busy. -/
def withIteration (e : Engine) (s : Scene) (name : String)
    (use : IterationId → Scene × Reply) : Scene × Reply :=
  match s.iterations.find? fun entry => entry.name == name with
  | none => s.lack .iteration
  | some entry =>
      if entry.latest.any fun p => !e.loop.isDone p then s.lack .idleIteration
      else use entry.iteration

/-- Install a record consumer. -/
def install (e : Engine) (s : Scene) (place : Place) (c : RecordConsumer) : Scene × Reply :=
  match place with
  | .stream => s.andReport [.channel (.installRecord c)] .nothing
  | .cursor => s.withCursor e fun id _ => s.andReport [.cursor id (.install c)] .nothing

/-- Carry out an action on the channel.  A channel outside takes what a cursor asks
of a channel, and nothing else. -/
def act (e : Engine) (s : Scene) (a : Stream.Action) : Scene × Reply :=
  if e.hasStream then s.andReport [.stream a] .nothing
  else
    match a with
    | .request n => s.andReport [.channel (.request n)] .nothing
    | .cancel => s.andReport [.channel .cancel] .nothing
    | .fail f => s.andReport [.channel (.fail f)] .nothing
    | _ => s.failing .noOperation

/-- Only a channel outside shows its consumers. -/
def withOutside (e : Engine) (s : Scene) (use : Scene × Reply) : Scene × Reply :=
  if e.hasStream then s.failing .noOperation else use

/-- With the consumers of the channel outside told of a record. -/
def tellOutside (e : Engine) (s : Scene) (fields : Value) : Scene × Reply :=
  s.withOutside e <|
  match s.outside.recordConsumer with
  | none => s.lack .consumer
  | some c =>
      match Record.ofSequences? (.list e.run.keys) fields with
      | .error cause => s.failing cause
      | .ok r => s.andReport [.tellRecord c r] .nothing

/-- With the summary consumer of the channel outside told that there is more. -/
def tellOutsideMore (e : Engine) (s : Scene) : Scene × Reply :=
  s.withOutside e <|
  match s.outside.summaryConsumer with
  | none => s.lack .consumer
  | some c => s.andReport [.tellSummary c none none] .nothing

/-- With the consumers of the channel outside told of the end. -/
def tellOutsideEnd (e : Engine) (s : Scene) (metadata : Option Value) (f : Option Failure) :
    Scene × Reply :=
  s.withOutside e <|
  match s.outside.summaryConsumer with
  | none => s.lack .consumer
  | some c =>
      match metadata with
      | none => s.andReport (endOutside c none f) .nothing
      | some metadata =>
          match Stream.summaryOf e.surroundings metadata with
          | .error cause => s.failing cause
          | .ok summary => s.andReport (endOutside c (some summary) f) .nothing

/-- Start a task over a named iteration. -/
def spawnOver (e : Engine) (s : Scene) (iteration name : String) (work : IterationId → Work) :
    Scene × Reply :=
  s.withIteration e iteration fun i =>
    (s.keepLatest iteration e.loop.nextId).andReport [.spawn (work i) (.caller name)] .nothing

/-- Make a result over the latest cursor. -/
def makeResult (e : Engine) (s : Scene) (plan : Option OptionsPlan) : Scene × Reply :=
  s.withCursor e fun id _ =>
    match AnyOptions.makeGiven? plan with
    | .error c => s.failing c
    | .ok given =>
        let options := AnyOptions.resolve given
        s.andReport [.openResult id options] (.options options)

/-- The keys of the latest result, or the failure of its query to start. -/
def askKeys (e : Engine) (s : Scene) : Scene × Reply :=
  s.withResult e fun _ q =>
    match e.cursors[q.cursor]?.bind Cursor.runError with
    | some f => (s, .go [.cursor q.cursor .surfaceError, .throw (.failure f)])
    | none => s.andReport [.cursor q.cursor .surfaceError] (.values e.run.keys)

/-- Turn a command into instructions. -/
def perform (e : Engine) (s : Scene) (c : Command) : Scene × Reply :=
  match c with
  | .runSucceed metadata => s.andReport [.runSucceed metadata] .nothing
  | .runFail f => s.andReport [.runFail f] .nothing
  | .runRecord => s.failing .recordInRunResponse
  | .stream a => s.act e a
  | .installRecord place name reactions =>
      let (s, id) := s.addClient name reactions
      s.install e place (.client id name)
  | .installDiscard place => s.install e place .discard
  | .installSummary name reactions =>
      let (s, id) := s.addClient name reactions
      s.andReport [.channel (.installSummary (.client id name))] .nothing
  | .tellRecord fields => s.tellOutside e fields
  | .tellMore => s.tellOutsideMore e
  | .tellEnd metadata f => s.tellOutsideEnd e metadata f
  | .newCursor plan => s.andReport [.openCursor plan] .nothing
  | .cursorKeys => s.withCursor e fun _ _ => s.andReport [] (.values e.run.keys)
  | .cursorError =>
      s.withCursor e fun id c => s.andReport [.cursor id .surfaceError] (.failure c.runError)
  | .cursorStatus =>
      s.withCursor e fun _ c =>
        s.andReport [] (.status c.status (e.isResolved c) c.isConsumed)
  | .cursorRequest n =>
      s.withCursor e fun id _ => s.andReport [.cursor id (.request n)] .nothing
  | .cursorCancel => s.withCursor e fun id _ => s.andReport [.cursor id .cancel] .nothing
  | .cursorSummary name =>
      s.withCursor e fun id _ => s.andReport [.cursor id (.summary (.caller name))] .nothing
  | .cursorDiscardAll name =>
      s.withCursor e fun id _ => s.andReport [.cursor id (.discardAll (.caller name))] .nothing
  | .cursorPullAll name =>
      s.withCursor e fun id _ => s.andReport [.cursor id (.pullAll (.caller name))] .nothing
  | .cursorRollback name =>
      s.withCursor e fun id _ => (s, .go [.cursor id (.rollback (.caller name))])
  | .release name =>
      match e.channelRelease with
      | none => s.lack .release
      | some r => (s, .go [.release r (.caller name)])
  | .newResult plan => s.makeResult e plan
  | .resultKeys => s.askKeys e
  | .resultLiteral =>
      s.withResult e fun _ q =>
        s.andReport [] (.text ("ReactiveResult(" ++ e.cursorLiteral q.cursor ++ ")"))
  | .resultIsOpen =>
      s.withResult e fun _ q =>
        s.andReport [] (.flag (!(e.cursors[q.cursor]?.any e.isResolved)))
  | .resultRecords name fetchSize former =>
      s.withResult e fun id _ =>
        s.andReport [.records id fetchSize former (.caller name)] .nothing
  | .resultCollect name =>
      s.withResult e fun id _ => s.andReport [.spawn (.collect id) (.caller name)] .nothing
  | .resultConsume name =>
      s.withResult e fun _ q =>
        s.andReport [.spawn (.consume q.cursor) (.caller name)] .nothing
  | .iterationNext iteration name => s.spawnOver e iteration name .next
  | .iterationClose iteration name => s.spawnOver e iteration name .close
  | .cancelPromise name =>
      match s.promises.lookup name with
      | none => s.lack .promise
      | some p => s.andReport [.cancelPromise p] (.flag (!e.loop.isDone p))
  | .fail f => (s, .raise (.failure f))
  | .nothing => s.andReport [] .nothing

/-! ## Answers to what an engine asks -/

/-- Answer what an engine asks. -/
def respond (e : Engine) (s : Scene) (a : Ask) : Scene × Reply :=
  match a with
  | .log line => (if line.level.passes s.threshold then s.see (.line line) else s, .go [])
  | .warn text => (s.see (.warning text), .go [])
  | .write m => s.write m
  | .answer m => s.answerRequest m
  | .sendOn pull => s.sendPortion pull
  | .endBatch pull => (s, .go [.stream (s.connection.batchEnd pull)])
  | .record id r => s.tell id (fun name => .record name r) false
  | .ended id f => s.tell id (fun name => .ended name f) true
  | .summary id none none => s.tell id .more false
  | .summary id summary f => s.tell id (fun name => .summary name summary f) true
  | .terminate f =>
      (s.see (.terminated f), match s.terminationFailure with
        | some failure => .raise (.failure failure)
        | none => .go [])
  | .release => s.beginRelease
  | .runRelease t => s.runRelease t
  | .channel r => s.askOutside e r
  | .endOutside f => s.endRecords f
  | .promise name p =>
      let (s, earlier) := s.namePromise name p
      ({ s with answer := .ok (.promise earlier) }, .go [])
  | .iteration name i => s.nameIteration e name i
  | .cursor c => ({ s with cursor := some c }, .go [])
  | .result q => ({ s with result := some q }, .go [])
  | .jobFailed f => (s.see (.jobFailed f), .go [])
  | .commandFailed f => ({ s with answer := .error f }, .go [])
  | .perform c => s.perform e c
  | .report answer => ({ s with answer := .ok answer }, .go [])

end Scene

end QueryStream
