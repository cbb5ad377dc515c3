/-
  Proofs/Readout.lean --- the records of a result, read to their end.

  A task reads the records of a result over a new stream, and a server answers by its script.
  What comes of it can be read off the rows and the script (`readout`): which rows are read,
  which requests are written, and how it ends.  It does not depend on when the server answers,
  while a request is being written or in a job of its own, nor on how it cuts its answers into
  portions, between which the task reads on (`readsOut`).

  The owner of the stream must not throw when it is told of the end.  What it throws leaves the
  stream before the task is told, which then waits for good (`not_readsOut`).
-/
import QueryStream.Proofs.Course
import QueryStream.Proofs.Readout.Rounds

set_option autoImplicit false

namespace QueryStream

variable {Q : World → Prop} {e e' : Engine} {x : Wire} {rest : List Instruction}
  {plan : CursorPlan} {options : FullOptions} {given former : Value} {size : FetchSize}

/-! ## How a reading begins -/

/-- An engine in which a task was begun that is to read the records of a result. -/
def Engine.withReader (e : Engine) : Engine :=
  { e with
    tasks := #[⟨e.loop.nextId, .collect 0, none, false, none, []⟩]
    loop := e.loop.create }

/-- A task that was started before anything else is begun in that engine. -/
theorem Engine.Pristine.begins (pristine : e.Pristine) (scene : Scene) :
    World.turn? ⟨e.spawn (.collect 0), scene, []⟩
      = some ⟨e.withReader, scene, [.body 0, .guarded (.task 0)]⟩ := by
  simp only [World.turn?, World.step?, Engine.nextJob?, Engine.spawn, pristine.loop, pristine.tasks,
    Engine.withReader]
  rfl

/-- What such a task does: it makes a cursor and a result, and reads the records of it, with
what it is given for the number of records to request at a time. -/
def readAll (plan : CursorPlan) (options : FullOptions) (given former : Value) :
    List Instruction :=
  [.openCursor plan, .openResult 0 options, .records 0 given former (.task 0),
    .guarded (.task 0)]

namespace Comes

theorem cursor {c : CursorId} (next : Comes Q e x rest) :
    Comes Q e x (.ask (.cursor c) :: rest) :=
  ask _ (r := .go []) (fun _ wire => ⟨wire, rfl⟩) next

theorem result {q : ResultId} (next : Comes Q e x rest) :
    Comes Q e x (.ask (.result q) :: rest) :=
  ask _ (r := .go []) (fun _ wire => ⟨wire, rfl⟩) next

theorem warnings (texts : List String) (next : Comes Q e x rest) :
    Comes Q e x (texts.map (fun text => .ask (.warn text)) ++ rest) := by
  induction texts with
  | nil => exact next
  | cons text texts ih => exact warn ih

end Comes

theorem Engine.chooseRelease_ok {choice : ReleaseChoice} {r : ReleaseId}
    (chosen : e.chooseRelease choice = .ok (e', r)) :
    e' = { e with releases := e'.releases } := by
  unfold Engine.chooseRelease at chosen
  repeat' split at chosen
  all_goals cases chosen
  all_goals rfl

theorem Engine.openCursor_go {next : List Instruction}
    (opens : e.openCursor plan = (e', .go next)) :
    ∃ releases r, e' = { e with
        releases
        loop := e.loop.create.watch e.loop.nextId (.noteOutcome e.loop.nextId)
        cursors := e.cursors.push (.fresh (e.chooseRunError plan.runError) r e.loop.nextId) } ∧
      next = [.channel (.installSummary (.cursor e.cursors.size)),
        .ask (.cursor e.cursors.size)] := by
  unfold Engine.openCursor at opens
  split at opens
  · cases opens
  · split at opens
    · cases opens
    · rename_i e₁ r chosen
      have same := e.chooseRelease_ok chosen
      simp only [Prod.mk.injEq, Reply.go.injEq] at opens
      obtain ⟨rfl, rfl⟩ := opens
      refine ⟨e₁.releases, r, ?_, ?_⟩
      · rw [same]
        rfl
      · rw [same]

/-- Everything is made for a reading, but that the stream has nowhere to deliver to yet. -/
def Spot.unfed (p : PromiseId) (size : FetchSize) : Spot where
  stream := ⟨.ready, .zero, 0, none, some (.cursor 0)⟩
  iteration := .ofCursor 0 size
  task := ⟨p, .collect 0, none, false, none, []⟩
  due := []
  verdict := none

namespace Comes

variable {e₀ : Engine} {o p : PromiseId} {r : ReleaseId}

theorem installFeed (stands : At e₀ o p (.unfed p size) e)
    (found : e.cursors[0]? = some (.fresh none r o))
    (next : ∀ e', At e₀ o p { Spot.unfed p size with stream := .fed .ready .zero 0 } e' →
      Comes Q e' x rest) :
    Comes Q e x (.cursor 0 (.install (.feed 0)) :: rest) := by
  let c : Cursor := { Cursor.fresh none r o with status := .ofConsumer (.feed 0) }
  let e₁ : Engine := { e with cursors := e.cursors.setIfInBounds 0 c }
  have installs : e.exec (.cursor 0 (.install (.feed 0))) = (e₁,
      .go [.ask (.log ⟨.debug, .cursor, s!"record consumer installed: {c.status.name}"⟩),
        .channel (.installRecord (.feed 0)), .cursor 0 .injectError]) := by
    simp [Engine.exec, Engine.stepCursor, found, Cursor.step, Cursor.ensureOpen, Cursor.fresh,
      ConsumerStatus.isInstalled, Cursor.line, Instruction.ofCursor, pure, Except.pure, bind,
      Except.bind, e₁, c]
  have stands₁ : At e₀ o p (.unfed p size) e₁ := stands.withCursor rfl rfl
  refine go e₁ _ rfl installs (log (channel stands₁ ?_))
  let e₂ : Engine := { e₁ with stream := .fed .ready .zero 0 }
  have feeds : e₁.exec (.stream (.installRecord (.feed 0))) = (e₂, .go []) := by
    rw [e₁.exec_installRecord _ (by rw [stands₁.stream]; rfl), stands₁.stream]
    rfl
  refine go e₂ [] rfl feeds ?_
  have installed : e₂.cursors[0]? = some c := by
    simp [e₂, e₁, (Array.getElem?_eq_some_iff.1 found).1]
  have nothing : e₂.exec (.cursor 0 .injectError)
      = ({ e₂ with cursors := e₂.cursors.setIfInBounds 0 c }, .go []) :=
    e₂.exec_cursor installed (c.step_injectError _)
  exact go _ [] rfl nothing (next _ ((stands₁.withStream _).withCursor rfl rfl))

theorem enter (stands : At e₀ o p { Spot.unfed p size with stream := .fed .ready .zero 0 } e)
    (next : ∀ e', At e₀ o p (.reading p size (.fed .ready .zero 0) 0 [] [] []) e' →
      Comes Q e' x (.iteration 0 0 .fetch :: inside)) :
    Comes Q e x [.handIteration (.task 0) 0, .guarded (.task 0)] := by
  have handed := stands.withTask (fun task => { task with iteration := some 0 }) rfl
  refine go _ [.iteration 0 0 .advance] rfl rfl ?_
  exact iterate handed rfl rfl next

end Comes

/-- The records of a new result are asked for, and the task begins to read them. -/
theorem Comes.startReading {e₀ : Engine} {o p : PromiseId} {r : ReleaseId}
    (found : e.results[0]? = some ⟨0, options, false⟩) (none : e.iterations = #[])
    (chosen : (QueryResult.start ⟨0, options, false⟩ given former).2 = .ok size)
    (stands : At e₀ o p (.unfed p size) { e with
      results := e.results.setIfInBounds 0 ⟨0, options, true⟩
      iterations := #[.ofCursor 0 size] })
    (cursor : e.cursors[0]? = some (.fresh .none r o))
    (next : ∀ e', At e₀ o p (.reading p size (.fed .ready .zero 0) 0 [] [] []) e' →
      Comes Q e' x (.iteration 0 0 .fetch :: inside)) :
    Comes Q e x [.records 0 given former (.task 0), .guarded (.task 0)] := by
  cases start : QueryResult.start ⟨0, options, false⟩ given former with
  | mk warning choice =>
      rw [start] at chosen
      cases chosen
      have starts : e.exec (.records 0 given former (.task 0)) = ({ e with
          results := e.results.setIfInBounds 0 ⟨0, options, true⟩
          iterations := #[.ofCursor 0 size] },
          .go (warning.toList.map (fun text => .ask (.warn text))
            ++ [.cursor 0 (.install (.feed 0)), .handIteration (.task 0) 0])) := by
        simp [Engine.exec, Engine.startRecords, found, start, none]
      refine go _ _ rfl starts ?_
      rw [List.append_assoc]
      refine warnings _ (installFeed stands cursor fun e' stands => enter stands next)

/-- With two promises made, the task's and the outcome's, nothing else is under way. -/
theorem calm_unfed : Calm 1 0 (.unfed 0 size)
    #[⟨0, .collect 0, none, false, none, []⟩]
    ((Loop.idle : EngineLoop).create.create.watch 1 (.noteOutcome 1)) where
  own := rfl
  due := rfl
  outcome := ⟨⟨none, [.noteOutcome 1]⟩, rfl, by simp [Job.isNote]⟩
  others t task found := by cases found
  waits q awaited := by cases awaited
  woken _ q waiting := by cases waiting

/-- A cursor is made, and a result over it, and its records are being read. -/
theorem Comes.beginReading (pristine : e.Pristine) (hasStream : e.hasStream = true)
    (unused : e.stream = .fresh) (nothing : e.results = #[])
    (opens : ∃ e' next, e.withReader.openCursor plan = (e', .go next))
    (starts : e.chooseRunError plan.runError = none)
    (chosen : (QueryResult.start ⟨0, options, false⟩ given former).2 = .ok size)
    (next : ∀ e', At e 1 0 (.reading 0 size (.fed .ready .zero 0) 0 [] [] []) e' →
      Comes Q e' x (.iteration 0 0 .fetch :: inside)) :
    Comes Q e.withReader x (readAll plan options given former) := by
  obtain ⟨e₁, first, opens⟩ := opens
  have makes : e.withReader.exec (.openCursor plan) = (e₁, .go first) := opens
  obtain ⟨releases, r, made, rfl⟩ := Engine.openCursor_go opens
  have starts : e.withReader.chooseRunError plan.runError = none := by
    rw [← starts]
    cases plan.runError <;> rfl
  have loop : e.withReader.loop = Loop.idle.create := congrArg Loop.create pristine.loop
  have cursors : e.withReader.cursors = #[] := pristine.cursors
  have tasks : e.withReader.tasks = #[⟨0, .collect 0, none, false, none, []⟩] := by
    simp only [Engine.withReader, pristine.loop]
    rfl
  rw [starts, loop, cursors, tasks] at made
  rw [cursors] at makes
  -- the engine as it is made, step by step
  let e₂ : Engine := { e₁ with stream := (Spot.unfed 0 size).stream }
  let e₃ : Engine := { e₂ with results := #[⟨0, options, false⟩] }
  have installs : e₁.exec (.stream (.installSummary (.cursor 0))) = (e₂, .go []) := by
    have stream : e₁.stream = .fresh := made ▸ unused
    simp only [Engine.exec, Engine.stepStream, Stream.step, stream]
    rfl
  have offers : e₂.exec (.openResult 0 options) = (e₃, .go [.ask (.result 0)]) := by
    have results : e₂.results = #[] := by
      show e₁.results = #[]
      exact made ▸ nothing
    simp [Engine.exec, Engine.openResult, results, e₃]
  have channels : e₁.exec (.channel (.installSummary (.cursor 0)))
      = (e₁, .go [.stream (.installSummary (.cursor 0))]) := by
    have hasStream : e₁.hasStream = true := made ▸ hasStream
    simp only [Engine.exec, hasStream, Engine.goOn]
    rfl
  refine go e₁ _ rfl makes (go e₁ _ rfl channels (go e₂ [] rfl installs (cursor ?_)))
  have iterations : e₃.iterations = #[] := by
    show e₁.iterations = #[]
    exact made ▸ pristine.iterations
  have cursor₀ : e₃.cursors[0]? = some (.fresh none r 1) := by
    show e₁.cursors[0]? = some (.fresh none r 1)
    rw [made]
    rfl
  refine go e₃ _ rfl offers (result (startReading (r := r) rfl iterations chosen ?_ cursor₀ next))
  simp only [e₃, e₂, made]
  exact {
    toCalm := calm_unfed
    hasStream := hasStream
    query := rfl
    server := rfl
    cap := rfl
    owner := rfl
    run := rfl
    stream := rfl
    cursor := ⟨_, rfl, rfl, rfl⟩
    iteration := rfl
    task := rfl }

/-! ## Where a reading ends -/

/-- Rows that can be made into records under the keys of the run request: each of them has as
many values as there are keys. -/
structure Engine.Fits (e : Engine) (rows : List Value) : Prop where
  keys : e.run.keys.all Value.isKey = true
  lengths : ∀ row ∈ rows, ∃ values, row.parts? = some values ∧
    values.length = e.run.keys.length

/-- A server that answers what it is asked: no write fails, what is left is dropped when it is
asked to be, and the metadata can be read.  One answer may break off. -/
structure ConnectionScript.Obliges (script : ConnectionScript) (e : Engine) : Prop where
  writes : script.brokenWrite = none
  drops : script.discardsPutOff ≤ 0
  dropped : script.discardFailure = none
  final : e.Closes script.final
  discarded : e.Closes script.discarded

/-- A reading came to its end: nothing is left to do, what was written is as said, and the task
read the rows as said, and ended with them, or with the failure that ended the stream. -/
structure World.HasRead (w : World) (keys : List Value) (r : Readout) : Prop where
  idle : w.isIdle = true
  written : w.scene.written.reverse = r.written
  ended : ∃ task, w.engine.tasks[0]? = some task ∧
    (∀ record ∈ task.collected, record.keys = keys) ∧
    task.collected.reverse.map (fun record => some record.values) = r.read.map Value.parts? ∧
    w.engine.loop.settlement? task.promise
      = some (Comes.verdict task.collected.reverse r.ending)

/-- The record that a row is made into. -/
def Record.ofRow (keys : List Value) (row : Value) : Record :=
  (Record.ofSequences? (.list keys) row).toOption.getD default

theorem Engine.Fits.ofRow {rows : List Value} (fits : e.Fits rows) {row : Value}
    (mem : row ∈ rows) :
    Record.ofSequences? (.list e.run.keys) row = .ok (Record.ofRow e.run.keys row) ∧
      (Record.ofRow e.run.keys row).keys = e.run.keys ∧
      row.parts? = some (Record.ofRow e.run.keys row).values := by
  obtain ⟨values, parts, lengths⟩ := fits.lengths row mem
  have makes : Record.ofSequences? (.list e.run.keys) row = .ok ⟨e.run.keys, values, lengths⟩ := by
    have heads : (Value.list e.run.keys).parts? = some e.run.keys := rfl
    simp only [Record.ofSequences?, heads, parts, Record.make?, dif_pos lengths,
      if_pos fits.keys]
  have made : Record.ofRow e.run.keys row = ⟨e.run.keys, values, lengths⟩ := by
    simp [Record.ofRow, makes, Except.toOption]
  rw [made]
  exact ⟨makes, rfl, parts⟩

theorem FetchSize.capped_valid (size : FetchSize) :
    Cursor.capped size.value = unlimited ∨ 0 < Cursor.capped size.value := by
  rcases size.valid with all | ⟨positive, _⟩
  · simp [Cursor.capped, all, unlimited, maxDemand]
  · unfold Cursor.capped
    split <;> omega

/-- What is read is among the rows. -/
theorem mem_of_mem_readout {script : ConnectionScript} {n m query : Int} {pulls delivered : Nat}
    {rows : List Value} {row : Value}
    (mem : row ∈ (readout script n m query pulls delivered rows).read) : row ∈ rows := by
  have cut : ∀ rows : List Value, row ∈ underCap m delivered rows → row ∈ rows := by
    intro rows mem
    unfold underCap at mem
    split at mem
    · exact List.mem_of_mem_take mem
    · exact mem
  simp only [readout] at mem
  split at mem
  · exact List.mem_of_mem_take (cut _ mem)
  · exact cut rows mem

/-- Over a new stream, everything that a server answers is read to its end, as its script says. -/
theorem Comes.readOut {m : Int} {script : ConnectionScript} {rows : List Value}
    {terminationFailure : Option Failure}
    (pristine : e.Pristine) (hasStream : e.hasStream = true) (fresh : e.stream = .fresh)
    (nothing : e.results = #[]) (cap : e.cap = .int m)
    (opens : ∃ e' next, e.withReader.openCursor plan = (e', .go next))
    (starts : e.chooseRunError plan.runError = none)
    (chosen : (QueryResult.start ⟨0, options, false⟩ given former).2 = .ok size)
    (fits : e.Fits rows) (obliges : script.Obliges e)
    (bears : e.owner.Bears script terminationFailure) (answering : script.answers ≠ .never) :
    Comes (fun w => w.HasRead e.run.keys
        (readout script (Cursor.capped size.value) m e.run.query 0 0 rows))
      e.withReader ⟨script, rows, [], script.pace, 0, [], terminationFailure⟩
      (readAll plan options given former) := by
  let r := readout script (Cursor.capped size.value) m e.run.query 0 0 rows
  let x : Wire := ⟨script, rows, [], script.pace, 0, [], terminationFailure⟩
  let g : Reading :=
    ⟨e, 1, 0, size, m, .ofRow e.run.keys, r.read.map (.ofRow e.run.keys), r.written, r.ending⟩
  have serves : x.Serves e := { obliges with answers := answering, bears }
  have makes : g.Makes x := fun row mem => (fits.ofRow mem).1
  have room : ¬ (0 < m ∧ m ≤ ((0 : Nat) : Int)) := by omega
  have transcript : Transcript script g.amount m g.query 0 0 rows r.read r.written r.ending :=
    transcript_readout size.capped_valid rows room
  obtain ⟨others, written⟩ := transcript.exists_cons
  have made : ∀ row ∈ r.read, row.parts? = some (Record.ofRow e.run.keys row).values ∧
      (Record.ofRow e.run.keys row).keys = e.run.keys :=
    fun row mem => have made := fits.ofRow (mem_of_mem_readout mem); ⟨made.2.2, made.2.1⟩
  have onward : g.Onward fun w => w.HasRead e.run.keys r := by
    intro e' x' st outstanding stands wrote
    refine Comes.idle stands rfl fun e' stands idle => Comes.now fun scene' wire => ?_
    subst wire
    refine ⟨by simp [World.isIdle, idle], wrote, _, stands.task, ?_, ?_, ?_⟩
    · intro record mem
      have mem : record ∈ r.read.map (Record.ofRow e.run.keys) := List.mem_reverse.1 mem
      obtain ⟨row, read, rfl⟩ := List.mem_map.1 mem
      exact (made row read).2
    · simp only [Spot.ended, g, List.reverse_reverse, List.map_map]
      exact List.map_congr_left fun row mem => (made row mem).1.symm
    · rw [Loop.settlement?, Option.bind_eq_some_iff]
      refine ⟨_, stands.own, ?_⟩
      simp only [Spot.ended, List.reverse_reverse]
      rfl
  refine Comes.beginReading pristine hasStream fresh nothing opens starts chosen
    fun e' stands => ?_
  have ready : g.Underway x 0 0 [] (.fed .ready .zero 0) []
      (3 * others.length + x.pace.length + 3) :=
    .ready rfl (.inl rfl) room (written ▸ transcript) rfl written.symm
  have sound : g.Sound := ⟨Nat.one_ne_zero, cap⟩
  exact (Comes.follow sound onward _).2 serves makes ready stands

/-- An engine over a stream is pristine if the release of the stream was not invoked. -/
theorem Engine.pristine_overStream {query : Query} {server : ServerInfo} {cap : Value}
    {owner : Owner} {run : RunOutcome} {release : Option Release}
    (unused : ∀ r ∈ release, r.promise = none) :
    (Engine.overStream query server cap owner run release).Pristine where
  cursors := rfl
  tasks := rfl
  iterations := rfl
  loop := rfl
  releases := by simpa [Engine.overStream] using unused

/-- When a server answers and in which portions is nothing to the owner of the stream. -/
theorem Owner.Bears.paced {owner : Owner} {script : ConnectionScript}
    {terminationFailure : Option Failure} {answers : AnswerTime} {pace : List Nat}
    (bears : owner.Bears script terminationFailure) :
    owner.Bears { script with answers, pace } terminationFailure := by
  cases owner with
  | session => exact bears
  | transaction => exact bears

/-- The records of a result over a new stream are read to their end, if the owner throws nothing
when it is told of the end.  Whenever the server answers, while a request is being written or
later, and however it cuts its answers into portions, the task reads the same rows, ends the same
way, and as much is written for it: all that `readout` says. -/
theorem readsOut {query : Query} {server : ServerInfo} {m : Int} {owner : Owner}
    {run : RunOutcome} {release : Option Release} {script : ConnectionScript} {rows : List Value}
    (unused : ∀ r ∈ release, r.promise = none)
    (made : e = .overStream query server (.int m) owner run release)
    (opens : ∃ e' next, e.withReader.openCursor plan = (e', .go next))
    (starts : e.chooseRunError plan.runError = none)
    (chosen : (QueryResult.start ⟨0, options, false⟩ given former).2 = .ok size)
    (fits : e.Fits rows) (obliges : script.Obliges e) {answers : AnswerTime} {pace : List Nat}
    {terminationFailure : Option Failure} (bears : owner.Bears script terminationFailure)
    (answering : answers ≠ .never) (threshold : Option Log.Level) (forwards : Bool) :
    ∃ k, World.HasRead
      (World.settle k ⟨e.withReader,
        .fresh threshold (.fresh { script with answers, pace } rows) terminationFailure forwards,
        readAll plan options given former⟩)
      run.keys (readout script (Cursor.capped size.value) m run.query 0 0 rows) := by
  have pristine : e.Pristine := made ▸ Engine.pristine_overStream unused
  obtain ⟨hasStream, fresh, nothing, cap, rfl, rfl⟩ : e.hasStream = true ∧ e.stream = .fresh ∧
      e.results = #[] ∧ e.cap = .int m ∧ e.run = run ∧ e.owner = owner := by
    simp [made, Engine.overStream]
  have obliges : ConnectionScript.Obliges { script with answers, pace } e := { obliges with }
  exact Comes.readOut pristine hasStream fresh nothing cap opens starts chosen fits obliges
    bears.paced answering _ rfl

section Sample

/-- A query with one column, its start reported. -/
def oneColumn : RunOutcome := ⟨[.text "n"], 7, none, some none⟩

/-- A stream of a session over it, of which three records are wanted. -/
def threeWanted : Engine :=
  .overStream ⟨.text "UNWIND range(1, 5) AS n RETURN n", .null⟩ ⟨.null, .null, .null⟩ (.int 3)
    (.session 0) oneColumn (some ⟨true, none⟩)

/-- A server that answers everything, and has nothing to report of it. -/
def obligingScript : ConnectionScript where
  answers := .later
  brokenWrite := none
  brokenBatch := none
  final := .map []
  discardsPutOff := 0
  discardFailure := none
  discarded := .map []
  release := .completes

/-- A stream of a transaction over it. -/
def transactionWanted : Engine :=
  .overStream ⟨.text "UNWIND range(1, 5) AS n RETURN n", .null⟩ ⟨.null, .null, .null⟩ (.int 3)
    .transaction oneColumn none

theorem closes_nothing : threeWanted.Closes (.map []) ∧ transactionWanted.Closes (.map []) :=
  ⟨⟨⟨.null, rfl, rfl⟩, ⟨_, rfl⟩⟩, ⟨⟨.null, rfl, rfl⟩, ⟨_, rfl⟩⟩⟩

/-- Five rows of one column. -/
def fiveRows : List Value :=
  [.list [.int 1], .list [.int 2], .list [.int 3], .list [.int 4], .list [.int 5]]

theorem fits_fiveRows : threeWanted.Fits fiveRows ∧ transactionWanted.Fits fiveRows := by
  have lengths : ∀ row ∈ fiveRows, ∃ values, row.parts? = some values ∧ values.length = 1 := by
    intro row mem
    simp only [fiveRows, List.mem_cons, List.not_mem_nil, or_false] at mem
    rcases mem with rfl | rfl | rfl | rfl | rfl
    all_goals exact ⟨_, rfl, rfl⟩
  exact ⟨⟨rfl, lengths⟩, ⟨rfl, lengths⟩⟩

/-- Of five rows, requested two at a time, three are read, and the last one is dropped.  The first
batch comes without its end, so the task asks for the second one ahead. -/
theorem readsOut_threeOfFive :
    ∃ k, World.HasRead
      (World.settle k ⟨threeWanted.withReader,
        .fresh none (.fresh { obligingScript with answers := .atOnce, pace := [2] } fiveRows) none
          false,
        readAll ⟨.ofRun, .shared, true, true⟩ .standard (.int 2) .null⟩)
      [.text "n"]
      ⟨fiveRows.take 3, [.pull 2 7, .pull 2 7, .discardAll 7], none⟩ := by
  have obliges : obligingScript.Obliges threeWanted :=
    ⟨rfl, by decide, rfl, closes_nothing.1, closes_nothing.1⟩
  have bears : (Owner.session 0).Bears obligingScript none := by simp [Owner.Bears, obligingScript]
  have opens : ∃ e next, threeWanted.withReader.openCursor ⟨.ofRun, .shared, true, true⟩
      = (e, .go next) := ⟨_, _, rfl⟩
  have chosen : (QueryResult.start ⟨0, .standard, false⟩ (.int 2) .null).2
      = .ok ⟨2, .inr (by decide)⟩ := rfl
  have answering : AnswerTime.atOnce ≠ .never := by decide
  have outcome : readout obligingScript (Cursor.capped 2) 3 7 0 0 fiveRows
      = ⟨fiveRows.take 3, [.pull 2 7, .pull 2 7, .discardAll 7], none⟩ := rfl
  have unused : ∀ r ∈ some (⟨true, none⟩ : Release), r.promise = none := by simp
  rw [← outcome]
  exact readsOut unused rfl opens rfl chosen fits_fiveRows.1 obliges bears answering none false

/-- A server that breaks off at the first request. -/
def breakingScript : ConnectionScript :=
  { obligingScript with brokenBatch := some ⟨1, 0, .arising (.database "broken" "broken")⟩ }

/-- A reading of five rows that break off, over a transaction that throws when it is to be marked
as terminated. -/
def unborne : World :=
  ⟨transactionWanted.withReader,
    .fresh none (.fresh breakingScript fiveRows)
      (some (.arising (.reported .value (some "terminated already")))) false,
    readAll ⟨.ofRun, .shared, true, true⟩ .standard (.int 2) .null⟩

/-- What the owner throws keeps the failure from the task, which waits for good. -/
theorem not_readsOut :
    breakingScript.Obliges transactionWanted ∧ transactionWanted.Fits fiveRows ∧
      ¬ ∃ k, World.HasRead (World.settle k unborne) [.text "n"]
        (readout breakingScript (Cursor.capped 2) 3 7 0 0 fiveRows) := by
  refine ⟨⟨rfl, by decide, rfl, closes_nothing.2, closes_nothing.2⟩, fits_fiveRows.2, ?_⟩
  rintro ⟨k, read⟩
  have idle : (World.settle 60 unborne).isIdle = true := by decide +kernel
  -- where the world is idle, it is as it is at last
  have same : World.settle k unborne = World.settle 60 unborne := by
    rcases Nat.le_total k 60 with le | le
    · exact (World.settle_of_le read.idle le).symm
    · exact World.settle_of_le idle le
  obtain ⟨task, found, -, -, ended⟩ := read.ended
  rw [same] at found ended
  have unsettled : ((World.settle 60 unborne).engine.tasks[0]?.bind fun task =>
      (World.settle 60 unborne).engine.loop.settlement? task.promise) = none := by decide +kernel
  rw [found] at unsettled
  have ended := unsettled.symm.trans ended
  cases ended

end Sample

end QueryStream
