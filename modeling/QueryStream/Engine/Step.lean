/-
  Engine/Step.lean --- carrying out instructions and jobs.

  Every instruction that is not an ask is carried out here, and every job of the
  loop is turned into instructions.
-/
import QueryStream.Engine.Instruction

set_option autoImplicit false

namespace QueryStream.Engine

/-- Refuse with a cause that arises here. -/
def refuse (e : Engine) (c : Cause) : Engine × Reply := (e, .raise (.arising c))

/-- Go on with one instruction. -/
def goOn (e : Engine) (next : List Instruction) : Engine × Reply := (e, .go next)

/-! ## Parts of the engine -/

/-- A step of the stream. -/
def stepStream (e : Engine) (a : Stream.Action) : Engine × Reply :=
  match e.stream.step e.surroundings a with
  | .ok (stream, effects) => ({ e with stream }, .go (effects.map .ofStream))
  | .error c => e.refuse c

/-- A step of a cursor. -/
def stepCursor (e : Engine) (id : CursorId) (a : Cursor.Action) : Engine × Reply :=
  match e.cursors[id]? with
  | none => e.goOn []
  | some c =>
      match c.step (e.isResolved c) a with
      | .ok (c, effects) =>
          ({ e with cursors := e.cursors.setIfInBounds id c },
            .go (effects.map (.ofCursor id c)))
      | .error cause => e.refuse cause

/-- A step of an iteration, for a task. -/
def stepIteration (e : Engine) (id : IterationId) (t : TaskId) (a : Iteration.Action) :
    Engine × Reply :=
  match e.iterations[id]? with
  | none => e.goOn []
  | some i =>
      let (i, effects) := i.step a
      ({ e with iterations := e.iterations.setIfInBounds id i },
        .go (effects.flatMap (Instruction.ofIteration id i t)))

/-- The success of the run request. -/
def succeedRun (e : Engine) (metadata : Value) : Engine × Reply :=
  let (run, refusal) := e.run.succeed metadata
  let e := { e with run }
  match refusal with
  | some c => e.refuse c
  | none => e.goOn [.ask (.log run.startedLine)]

/-! ## Owners and releases -/

/-- Tell the owner that the stream is complete. -/
def ownerSucceeded (e : Engine) (metadata : Value) : Engine × Reply :=
  match e.owner with
  | .transaction => e.goOn []
  | .session release =>
      match metadata.field "bookmark" with
      | .error c => e.refuse c
      | .ok bookmark =>
          let e := if bookmark.isNull then e else { e with bookmark }
          e.goOn [.release release .nobody]

/-- Tell the owner that the stream failed. -/
def ownerFailed (e : Engine) (f : Failure) : Engine × Reply :=
  match e.owner with
  | .session release => e.goOn [.release release .nobody]
  | .transaction =>
      e.goOn [.ask (.log ⟨.info, .completion,
        "marking transaction as terminated after failure: " ++ f.literal⟩), .ask (.terminate f)]

/-- Invoke a release. -/
def invokeRelease (e : Engine) (id : ReleaseId) (receiver : Receiver) : Engine × Reply :=
  match e.releases[id]? with
  | none => e.goOn []
  | some r =>
      match r.promise, r.hasConnection with
      | some p, _ => e.goOn [.ask (.log Release.reuseLine), .hand receiver p]
      | none, false =>
          let p := e.loop.nextId
          let e := { e with
            loop := e.loop.createSettled (.value .nothing)
            releases := e.releases.setIfInBounds id { r with promise := some p } }
          e.goOn [.hand receiver p]
      | none, true =>
          e.goOn [.ask (.log Release.startLine), .ask .release, .startRelease id receiver]

/-- Start a task: its promise is created, and its start is queued. -/
def spawn (e : Engine) (w : Work) : Engine :=
  { e with
    tasks := e.tasks.push ⟨e.loop.nextId, w, none, false, none, []⟩
    loop := e.loop.create.soon (.start e.tasks.size) }

/-- Start the task that gives the connection back. -/
def startRelease (e : Engine) (id : ReleaseId) (receiver : Receiver) : Engine × Reply :=
  let p := e.loop.nextId
  let e := e.spawn .release
  let e := { e with
    loop := e.loop.watch p (.noteRelease p)
    releases := e.releases.modify id fun r => { r with promise := some p } }
  e.goOn [.hand receiver p]

/-! ## Promises handed out -/

/-- Hand out a promise. -/
def hand (receiver : Receiver) (p : PromiseId) : List Instruction :=
  match receiver with
  | .nobody => []
  | .caller name => [.ask (.promise name p)]
  | .task t => [.await t p]

/-- A promise that follows the outcome of a cursor.  A resolved outcome is handed
out itself; otherwise it is shielded: cancelling what is handed out leaves the
outcome as it is. -/
def relay (e : Engine) (id : CursorId) (receiver : Receiver) : Engine × Reply :=
  match e.cursors[id]? with
  | none => e.goOn []
  | some c =>
      if e.isResolved c then e.goOn (hand receiver c.outcome)
      else
        let target := e.loop.nextId
        let loop := (e.loop.create.watch c.outcome (.relay c.outcome target)).watch target
          (.unrelay c.outcome target)
        ({ e with loop }, .go (hand receiver target))

/-- A promise of the failure of a cursor's outcome that nobody was told of. -/
def reportFailure (e : Engine) (id : CursorId) (receiver : Receiver) : Engine × Reply :=
  match e.cursors[id]? with
  | none => e.goOn []
  | some c =>
      let target := e.loop.nextId
      let loop := e.loop.create.watch c.outcome (.report id c.outcome target)
      ({ e with loop }, .go (hand receiver target))

/-- A promise that is kept. -/
def keep (e : Engine) (receiver : Receiver) (d : Delivery) : Engine × Reply :=
  let p := e.loop.nextId
  ({ e with loop := e.loop.createSettled (.value d) }, .go (hand receiver p))

/-! ## Cursors and results -/

/-- The release of a new cursor: the channel's, or a given one.  A given one must
be the channel's, if the channel has one. -/
def chooseRelease (e : Engine) : ReleaseChoice → Except Cause (Engine × ReleaseId)
  | .bogus shown => .error (.releaseRefused shown)
  | .standard | .shared =>
      match e.channelRelease with
      | some r => .ok (e, r)
      | none => .ok ({ e with releases := e.releases.push .ofNothing }, e.releases.size)
  | .ofNothing =>
      if e.channelRelease.isSome then .error .releaseNotShared
      else .ok ({ e with releases := e.releases.push .ofNothing }, e.releases.size)
  | .ofConnection =>
      if e.channelRelease.isSome then .error .releaseNotShared
      else .ok ({ e with releases := e.releases.push .ofConnection }, e.releases.size)

/-- The failure to start that a new cursor has. -/
def chooseRunError (e : Engine) : RunErrorChoice → Option Failure
  | .nothing => none
  | .ofRun => e.run.runError?
  | .given f => some f

/-- Make a cursor over the channel. -/
def openCursor (e : Engine) (plan : CursorPlan) : Engine × Reply :=
  if !plan.hasRun || !plan.hasChannel then e.refuse .cursorIncomplete
  else
    match e.chooseRelease plan.release with
    | .error c => e.refuse c
    | .ok (e, release) =>
        let outcome := e.loop.nextId
        let id := e.cursors.size
        ({ e with
            loop := e.loop.create.watch outcome (.noteOutcome outcome)
            cursors := e.cursors.push (.fresh (e.chooseRunError plan.runError) release outcome) },
          .go [.channel (.installSummary (.cursor id)), .ask (.cursor id)])

/-- Make a result over a cursor. -/
def openResult (e : Engine) (c : CursorId) (o : FullOptions) : Engine × Reply :=
  ({ e with results := e.results.push ⟨c, o, false⟩ }, .go [.ask (.result e.results.size)])

/-- Start reading the records of a result. -/
def startRecords (e : Engine) (id : ResultId) (fetchSize former : Value) (receiver : Receiver) :
    Engine × Reply :=
  match e.results[id]? with
  | none => e.goOn []
  | some q =>
      let (warning, chosen) := q.start fetchSize former
      let warn := warning.toList.map fun text => Instruction.ask (.warn text)
      match chosen with
      | .error c => e.goOn (warn ++ [.throw (.arising c)])
      | .ok size =>
          let i := e.iterations.size
          ({ e with
              results := e.results.setIfInBounds id { q with isStarted := true }
              iterations := e.iterations.push (.ofCursor q.cursor size) },
            .go (warn ++ [.cursor q.cursor (.install (.feed i)), .handIteration receiver i]))

/-! ## Tasks -/

/-- The iteration that a task reads. -/
def iterationOf? (task : Task) : Option IterationId :=
  match task.work with
  | .next i => some i
  | _ => task.iteration

/-- Carry out a task from the beginning. -/
def body (e : Engine) (t : TaskId) : List Instruction :=
  match e.tasks[t]?.map Task.work with
  | some .release => [.ask (.runRelease t)]
  | some (.consume c) => [.cursor c (.summary (.task t))]
  | some (.next i) => [.iteration i t .advance]
  | some (.close i) => [.iteration i t .close]
  | some (.collect q) => [.records q .null .null (.task t)]
  | none => []

/-- Have a task wait for a promise.  A settled promise is not waited for; one
whose task is to be cancelled is cancelled. -/
def await (e : Engine) (t : TaskId) (p : PromiseId) : Engine × Reply :=
  match e.loop.settlement? p, e.tasks[t]? with
  | some s, _ => e.goOn [.woken t s]
  | none, some task =>
      let e := { e with
        loop := e.loop.watch p (.resume t)
        tasks := e.tasks.setIfInBounds t
          { task with waitingFor := some p, isCancelRequested := false } }
      ((if task.isCancelRequested then e.withLoop fun l => l.settle p .cancelled else e),
        .suspend t)
  | none, none => e.goOn []

/-- Have a task wait for a signal of an iteration. -/
def awaitSignal (e : Engine) (i : IterationId) (t : TaskId) : Engine × Reply :=
  let p := e.loop.nextId
  let e := (e.withLoop Loop.create).modifyIteration i fun i => { i with awaited := some p }
  e.goOn [.await t p]

/-- Go on with a task: what it waited for is settled. -/
def woken (e : Engine) (t : TaskId) (s : Settlement Delivery Failure) : Engine × Reply :=
  match s, e.tasks[t]? with
  | .failure f, _ => (e, .raise (.failure f))
  | .cancelled, _ => (e, .raise .cancelled)
  | .value d, some task =>
      match iterationOf? task with
      | some i => e.goOn [.iteration i t .take]
      | none => e.goOn [.finish t d]
  | .value _, none => e.goOn []

/-- Hand a record to a task that reads. -/
def yielded (e : Engine) (t : TaskId) (r : Record) : Engine × Reply :=
  match e.tasks[t]? with
  | none => e.goOn []
  | some task =>
      match task.work, task.iteration with
      | .collect _, some i =>
          (e.modifyTask t fun task => { task with collected := r :: task.collected },
            .exit [.iteration i t .advance])
      | _, _ => e.goOn [.finish t (.record r)]

/-- Tell a task that reads that there is nothing more. -/
def exhausted (e : Engine) (t : TaskId) : List Instruction :=
  match e.tasks[t]? with
  | none => []
  | some task =>
      match task.work with
      | .collect _ => [.finish t (.records task.collected.reverse)]
      | _ => [.finish t .exhausted]

/-- Settle the promise of a task. -/
def endTask (e : Engine) (t : TaskId) (s : Settlement Delivery Failure) : Engine :=
  match e.tasks[t]? with
  | some task => e.withLoop fun l => l.settle task.promise s
  | none => e

/-- End a task with what it delivers, unless it is to be cancelled. -/
def finish (e : Engine) (t : TaskId) (d : Delivery) : Engine :=
  match e.tasks[t]? with
  | some task => e.endTask t (if task.isCancelRequested then .cancelled else .value d)
  | none => e

/-- Deal with something thrown where it is caught.  An iteration that is left
early gives up the stream, and what was thrown goes on. -/
def caught (e : Engine) (g : Guard) (th : Thrown) : Engine × Reply :=
  match g with
  | .task t =>
      (e.endTask t (match th with
        | .failure f => .failure f
        | .cancelled => .cancelled), .go [])
  | .iteration id =>
      match e.iterations[id]? with
      | none => (e, .raise th)
      | some i =>
          let (i, effects) := i.leave
          ({ e with iterations := e.iterations.setIfInBounds id i },
            .go (effects.flatMap (Instruction.ofIteration id i 0) ++ [.throw th]))
  | .job =>
      match th with
      | .failure f => e.goOn [.ask (.jobFailed f)]
      | .cancelled => e.goOn []
  | .command =>
      match th with
      | .failure f => e.goOn [.ask (.commandFailed f)]
      | .cancelled => e.goOn []

/-! ## Instructions -/

/-- Tell a record consumer of a record. -/
def tellRecord (e : Engine) (c : RecordConsumer) (r : Record) : Engine × Reply :=
  match c with
  | .client id _ => e.goOn [.ask (.record id r)]
  | .discard => e.goOn []
  | .feed i => (e.signal i (.record r), .go [])

/-- Tell a record consumer of the end. -/
def tellEnd (e : Engine) (c : RecordConsumer) (f : Option Failure) : Engine × Reply :=
  match c with
  | .client id _ => e.goOn [.ask (.ended id f)]
  | .discard => e.goOn []
  | .feed i => (e.signal i (.finish f), .go [])

/-- Carry out an instruction. -/
def exec (e : Engine) (instruction : Instruction) : Engine × Reply :=
  match instruction with
  | .stream a => e.stepStream a
  | .cursor c a => e.stepCursor c a
  | .iteration i t a => e.stepIteration i t a
  | .runSucceed metadata => e.succeedRun metadata
  | .runFail f => ({ e with run := e.run.fail f }, .go [.ask (.log (RunOutcome.failedLine f))])
  | .channel r =>
      if e.hasStream then e.goOn [.stream (Instruction.ofChannelRequest r)]
      else e.goOn [.ask (.channel r)]
  | .ownerSucceeded metadata => e.ownerSucceeded metadata
  | .ownerFailed f => e.ownerFailed f
  | .tellRecord c r => e.tellRecord c r
  | .tellEnd c f => e.tellEnd c f
  | .tellSummary (.client id _) s f => e.goOn [.ask (.summary id s f)]
  | .tellSummary (.cursor c) s f => e.goOn [.cursor c (.notify s f)]
  | .settle p s => (e.withLoop fun l => l.settle p s, .go [])
  | .relay c receiver => e.relay c receiver
  | .reportFailure c receiver => e.reportFailure c receiver
  | .keep receiver d => e.keep receiver d
  | .release r receiver => e.invokeRelease r receiver
  | .startRelease r receiver => e.startRelease r receiver
  | .hand receiver p => e.goOn (hand receiver p)
  | .handIteration (.caller name) i => e.goOn [.ask (.iteration name i)]
  | .handIteration (.task t) i =>
      (e.modifyTask t fun task => { task with iteration := some i },
        .go [.iteration i t .advance])
  | .handIteration .nobody _ => e.goOn []
  | .records q fetchSize former receiver => e.startRecords q fetchSize former receiver
  | .openCursor plan => e.openCursor plan
  | .openResult c o => e.openResult c o
  | .spawn w receiver => (e.spawn w, .go (hand receiver e.loop.nextId))
  | .cancelPromise p => (e.cancel p, .go [])
  | .soon j => (e.withLoop fun l => l.soon j, .go [])
  | .body t => e.goOn (e.body t)
  | .await t p => e.await t p
  | .awaitNever t => (e.withLoop Loop.create, .go [.await t e.loop.nextId])
  | .awaitSignal i t => e.awaitSignal i t
  | .woken t s => e.woken t s
  | .yielded t r => e.yielded t r
  | .exhausted t => e.goOn (e.exhausted t)
  | .finish t d => (e.finish t d, .go [])
  | .throw th => (e, .raise th)
  | .guarded _ => e.goOn []
  | .caught g th => e.caught g th
  | .ask _ => e.goOn []

/-! ## Jobs -/

/-- Start a task.  One that was cancelled before never begins; but a closing is
carried out, since it leaves its iteration either way, and is cancelled then. -/
def startTask (e : Engine) (t : TaskId) : Engine × List Instruction :=
  match e.tasks[t]? with
  | none => (e, [])
  | some task =>
      match task.isCancelRequested, task.work with
      | true, .close _ => (e, [.body t, .guarded (.task t)])
      | true, _ => (e.endTask t .cancelled, [])
      | false, _ => (e, [.body t, .guarded (.task t)])

/-- Go on with a task whose promise is settled, inside the iteration it reads. -/
def resumeTask (e : Engine) (t : TaskId) : Engine × List Instruction :=
  match e.tasks[t]? with
  | none => (e, [])
  | some task =>
      let s := if task.isCancelRequested then .cancelled
        else ((task.waitingFor.bind e.loop.settlement?).getD .cancelled)
      let inside := (iterationOf? task).map fun i => Instruction.guarded (.iteration i)
      (e.modifyTask t fun task => { task with waitingFor := none, isCancelRequested := false },
        .woken t s :: inside.toList ++ [.guarded (.task t)])

/-- Settle a promise like the one it follows. -/
def relaySettlement (e : Engine) (source target : PromiseId) : Engine :=
  match e.loop.settlement? source with
  | some s => e.withLoop fun l => l.settle target s
  | none => e

/-- Have a promise forget one that follows it, unless it is settled. -/
def forget (e : Engine) (source target : PromiseId) : Engine :=
  if e.loop.isDone source then e
  else e.withLoop fun l => l.unwatch source fun job => job == .relay source target

/-- Settle a promise with the failure that nobody was told of. -/
def reportSettlement (e : Engine) (id : CursorId) (source target : PromiseId) : Engine :=
  match e.loop.settlement? source, e.cursors[id]? with
  | some (.failure f), some c => e.withLoop fun l => l.settle target (.value (c.unreported f))
  | some (.value _), _ => e.withLoop fun l => l.settle target (.value .nothing)
  | some .cancelled, _ => e.withLoop fun l => l.settle target .cancelled
  | _, _ => e

/-- The line about a release that went wrong. -/
def releaseLine? (e : Engine) (p : PromiseId) : Option Log.Line :=
  match e.loop.settlement? p with
  | some .cancelled => some ⟨.warning, .connection, "connection release was cancelled"⟩
  | some (.failure f) =>
      some ⟨.warning, .connection, "connection release failed: " ++ f.literal⟩
  | _ => none

/-- Close an iteration that nobody can ask any more, in a task.  One that has handed
out nothing, or is over, has nothing to close. -/
def abandon (e : Engine) (id : IterationId) : Engine :=
  if e.iterations[id]?.any fun i => i.phase == .paused then e.spawn (.close id) else e

/-- Turn a job into instructions. -/
def runJob (e : Engine) (job : Job) : Engine × List Instruction :=
  match job with
  | .start t => e.startTask t
  | .resume t => e.resumeTask t
  | .relay source target => (e.relaySettlement source target, [])
  | .unrelay source target => (e.forget source target, [])
  | .report c source target => (e.reportSettlement c source target, [])
  | .noteOutcome p =>
      (e, ((e.loop.settlement? p).map fun s =>
        Instruction.ask (.log (Cursor.resolutionLine s))).toList)
  | .noteRelease p => (e, (e.releaseLine? p).toList.map fun line => .ask (.log line))
  | .answer m => (e, [.ask (.answer m), .guarded .job])
  | .sendOn pull => (e, [.ask (.sendOn pull), .guarded .job])
  | .abandon i => (e.abandon i, [])

/-- Take the next job off the queue and turn it into instructions. -/
def nextJob? (e : Engine) : Option (Engine × List Instruction) :=
  e.loop.next?.map fun (job, loop) => { e with loop }.runJob job

end QueryStream.Engine
