/-
  Proofs/Engine/Leads.lean --- what leads to what.

  Carrying out an instruction puts others on the agenda.  `Engine.Leads` says which: one case
  for each thing that an instruction can lead to.  So what is true of everything that comes onto
  the agenda is shown by going through these cases (`Engine.leads_exec`).  So it is with a job
  that is taken (`Engine.leadsBy_runJob`).
-/
import QueryStream.Proofs.Engine.Agenda
import QueryStream.Proofs.Engine.Alters

set_option autoImplicit false

namespace QueryStream

/-- Who gets the promise that an instruction hands out by itself. -/
def Instruction.receiver? : Instruction → Option Receiver
  | .relay _ receiver => some receiver
  | .reportFailure _ receiver => some receiver
  | .keep receiver _ => some receiver
  | .hand receiver _ => some receiver
  | .spawn _ receiver => some receiver
  | _ => none

/-- An effect of an iteration puts an instruction onto the agenda, for a task. -/
inductive Iteration.Puts (it : Iteration) (k : IterationId) (t : TaskId) :
    Iteration.Effect → Instruction → Prop
  | line (line : Log.Line) : Puts it k t (.log line) (.ask (.log line))
  | request (n : Int) : Puts it k t (.request n) (.cursor it.cursor (.request n))
  | cancel : Puts it k t .cancel (.cursor it.cursor .cancel)
  | inside (a : Iteration.Action) : Puts it k t (.guarded a) (.iteration k t a)
  | guard (a : Iteration.Action) : Puts it k t (.guarded a) (.guarded (.iteration k))
  | await : Puts it k t .await (.awaitSignal k t)
  | hand (r : Record) : Puts it k t (.hand r) (.yielded t r)
  | exhausted : Puts it k t .exhausted (.exhausted t)
  | closed : Puts it k t .closed (.finish t .nothing)
  | fail (f : Failure) : Puts it k t (.fail f) (.throw (.failure f))
  | andThen (a : Iteration.Action) : Puts it k t (.andThen a) (.iteration k t a)

namespace Engine

/-- An instruction of an engine leads to another one. -/
inductive Leads (e : Engine) : Instruction → Instruction → Prop
  | line (i : Instruction) (line : Log.Line) : Leads e i (.ask (.log line))
  | stream {a : Stream.Action} {next : Stream} {effects : List Stream.Effect}
      {effect : Stream.Effect} (accepted : e.stream.step e.surroundings a = .ok (next, effects))
      (mem : effect ∈ effects) : Leads e (.stream a) (.ofStream effect)
  | cursor {id : CursorId} {a : Cursor.Action} {c next : Cursor} {effects : List Cursor.Effect}
      {effect : Cursor.Effect} (found : e.cursors[id]? = some c)
      (accepted : c.step (e.isResolved c) a = .ok (next, effects)) (mem : effect ∈ effects) :
      Leads e (.cursor id a) (.ofCursor id next effect)
  | iteration {k : IterationId} {t : TaskId} {a : Iteration.Action} {it : Iteration}
      {effect : Iteration.Effect} {j : Instruction} (found : e.iterations[k]? = some it)
      (mem : effect ∈ (it.step a).2)
      (among : j ∈ Instruction.ofIteration k (it.step a).1 t effect) :
      Leads e (.iteration k t a) j
  | channel (r : ChannelRequest) :
      Leads e (.channel r) (.stream (Instruction.ofChannelRequest r))
  | outside (r : ChannelRequest) : Leads e (.channel r) (.ask (.channel r))
  | ownerSucceeded (metadata : Value) (r : ReleaseId) :
      Leads e (.ownerSucceeded metadata) (.release r .nobody)
  | ownerFailed (f : Failure) (r : ReleaseId) : Leads e (.ownerFailed f) (.release r .nobody)
  | terminate (f : Failure) : Leads e (.ownerFailed f) (.ask (.terminate f))
  | record (id : Nat) (name : String) (r : Record) :
      Leads e (.tellRecord (.client id name) r) (.ask (.record id r))
  | ended (id : Nat) (name : String) (f : Option Failure) :
      Leads e (.tellEnd (.client id name) f) (.ask (.ended id f))
  | summary (id : Nat) (name : String) (s : Option Summary) (f : Option Failure) :
      Leads e (.tellSummary (.client id name) s f) (.ask (.summary id s f))
  | notify (c : CursorId) (s : Option Summary) (f : Option Failure) :
      Leads e (.tellSummary (.cursor c) s f) (.cursor c (.notify s f))
  /-- a promise is handed out -/
  | hand {i j : Instruction} {receiver : Receiver} (p : PromiseId)
      (receives : i.receiver? = some receiver) (among : j ∈ Engine.hand receiver p) : Leads e i j
  | released (r : ReleaseId) (receiver : Receiver) (p : PromiseId) :
      Leads e (.release r receiver) (.hand receiver p)
  | releases (r : ReleaseId) (receiver : Receiver) :
      Leads e (.release r receiver) (.ask .release)
  | startRelease (r : ReleaseId) (receiver : Receiver) :
      Leads e (.release r receiver) (.startRelease r receiver)
  | releasing (r : ReleaseId) (receiver : Receiver) (p : PromiseId) :
      Leads e (.startRelease r receiver) (.hand receiver p)
  | handIteration (name : String) (k : IterationId) :
      Leads e (.handIteration (.caller name) k) (.ask (.iteration name k))
  | advance (t : TaskId) (k : IterationId) :
      Leads e (.handIteration (.task t) k) (.iteration k t .advance)
  | warn (q : ResultId) (fetchSize former : Value) (receiver : Receiver) (text : String) :
      Leads e (.records q fetchSize former receiver) (.ask (.warn text))
  | refused (q : ResultId) (fetchSize former : Value) (receiver : Receiver) (c : Cause) :
      Leads e (.records q fetchSize former receiver) (.throw (.arising c))
  | install {q : ResultId} {result : QueryResult} (fetchSize former : Value)
      (receiver : Receiver) (found : e.results[q]? = some result) :
      Leads e (.records q fetchSize former receiver)
        (.cursor result.cursor (.install (.feed e.iterations.size)))
  | reads (q : ResultId) (fetchSize former : Value) (receiver : Receiver) :
      Leads e (.records q fetchSize former receiver) (.handIteration receiver e.iterations.size)
  | attach (plan : CursorPlan) (id : CursorId) :
      Leads e (.openCursor plan) (.channel (.installSummary (.cursor id)))
  | opened (plan : CursorPlan) (id : CursorId) : Leads e (.openCursor plan) (.ask (.cursor id))
  | result (c : CursorId) (o : FullOptions) (q : ResultId) :
      Leads e (.openResult c o) (.ask (.result q))
  | body {t : TaskId} {j : Instruction} (among : j ∈ e.body t) : Leads e (.body t) j
  | awaitNever (t : TaskId) (p : PromiseId) : Leads e (.awaitNever t) (.await t p)
  | awaitSignal (k : IterationId) (t : TaskId) (p : PromiseId) :
      Leads e (.awaitSignal k t) (.await t p)
  | woken (t : TaskId) (p : PromiseId) (s : Settlement Delivery Failure) :
      Leads e (.await t p) (.woken t s)
  | take (t : TaskId) (d : Delivery) (k : IterationId) :
      Leads e (.woken t (.value d)) (.iteration k t .take)
  | answered (t : TaskId) (d : Delivery) : Leads e (.woken t (.value d)) (.finish t d)
  | yieldedOn (t : TaskId) (r : Record) (k : IterationId) :
      Leads e (.yielded t r) (.iteration k t .advance)
  | yielded (t : TaskId) (r : Record) : Leads e (.yielded t r) (.finish t (.record r))
  | exhausted {t : TaskId} {j : Instruction} (among : j ∈ e.exhausted t) :
      Leads e (.exhausted t) j
  | left {k : IterationId} {it : Iteration} {effect : Iteration.Effect} {j : Instruction}
      (th : Thrown) (found : e.iterations[k]? = some it) (mem : effect ∈ it.leave.2)
      (among : j ∈ Instruction.ofIteration k it.leave.1 0 effect) :
      Leads e (.caught (.iteration k) th) j
  | thrown (k : IterationId) (th : Thrown) : Leads e (.caught (.iteration k) th) (.throw th)
  | jobFailed (th : Thrown) (f : Failure) : Leads e (.caught .job th) (.ask (.jobFailed f))
  | commandFailed (th : Thrown) (f : Failure) :
      Leads e (.caught .command th) (.ask (.commandFailed f))

variable {e : Engine} {i j : Instruction}

theorem Leads.of_one {k : Instruction} (mem : j ∈ [k]) (leads : e.Leads i k) : e.Leads i j := by
  rw [List.mem_singleton.1 mem]
  exact leads

theorem Leads.of_two {k l : Instruction} (mem : j ∈ [k, l]) (first : e.Leads i k)
    (second : e.Leads i l) : e.Leads i j := by
  rcases List.mem_cons.1 mem with rfl | mem
  · exact first
  · exact .of_one mem second

theorem leads_of_stepStream {a : Stream.Action} (mem : j ∈ (e.stepStream a).2.next) :
    e.Leads (.stream a) j := by
  unfold stepStream at mem
  split at mem
  · rename_i next effects accepted
    obtain ⟨effect, yields, rfl⟩ := List.mem_map.1 mem
    exact .stream accepted yields
  · cases mem

theorem leads_of_stepCursor {id : CursorId} {a : Cursor.Action}
    (mem : j ∈ (e.stepCursor id a).2.next) : e.Leads (.cursor id a) j := by
  unfold stepCursor at mem
  split at mem
  · cases mem
  · rename_i c found
    split at mem
    · rename_i next effects accepted
      obtain ⟨effect, yields, rfl⟩ := List.mem_map.1 mem
      exact .cursor found accepted yields
    · cases mem

theorem leads_of_stepIteration {k : IterationId} {t : TaskId} {a : Iteration.Action}
    (mem : j ∈ (e.stepIteration k t a).2.next) : e.Leads (.iteration k t a) j := by
  unfold stepIteration at mem
  split at mem
  · cases mem
  · rename_i it found
    obtain ⟨effect, yields, among⟩ := List.mem_flatMap.1 mem
    exact .iteration found yields among

theorem leads_of_ownerSucceeded {metadata : Value}
    (mem : j ∈ (e.ownerSucceeded metadata).2.next) : e.Leads (.ownerSucceeded metadata) j := by
  unfold ownerSucceeded at mem
  split at mem
  · cases mem
  · split at mem
    · cases mem
    · exact .of_one mem (.ownerSucceeded metadata _)

theorem leads_of_ownerFailed {f : Failure} (mem : j ∈ (e.ownerFailed f).2.next) :
    e.Leads (.ownerFailed f) j := by
  unfold ownerFailed at mem
  split at mem
  · exact .of_one mem (.ownerFailed f _)
  · exact .of_two mem (.line _ _) (.terminate f)

theorem leads_of_relay {id : CursorId} {receiver : Receiver}
    (mem : j ∈ (e.relay id receiver).2.next) : e.Leads (.relay id receiver) j := by
  unfold relay at mem
  split at mem
  · cases mem
  · split at mem <;> exact .hand _ rfl mem

theorem leads_of_release {r : ReleaseId} {receiver : Receiver}
    (mem : j ∈ (e.exec (.release r receiver)).2.next) : e.Leads (.release r receiver) j := by
  obtain ⟨e', next, exec, invokes⟩ := e.exec_release r receiver
  rw [exec] at mem
  cases invokes with
  | absent => cases mem
  | reused => exact .of_two mem (.line _ _) (.released r receiver _)
  | made => exact .of_one mem (.released r receiver _)
  | called =>
      rcases List.mem_cons.1 mem with rfl | mem
      · exact .line _ _
      · exact .of_two mem (.releases r receiver) (.startRelease r receiver)

theorem leads_of_records {q : ResultId} {fetchSize former : Value} {receiver : Receiver}
    (mem : j ∈ (e.startRecords q fetchSize former receiver).2.next) :
    e.Leads (.records q fetchSize former receiver) j := by
  simp only [startRecords] at mem
  split at mem
  · cases mem
  · rename_i result found
    split at mem
    · rename_i c _
      rcases List.mem_append.1 mem with mem | mem
      · obtain ⟨text, -, rfl⟩ := List.mem_map.1 mem
        exact .warn q fetchSize former receiver text
      · exact .of_one mem (.refused q fetchSize former receiver c)
    · rcases List.mem_append.1 mem with mem | mem
      · obtain ⟨text, -, rfl⟩ := List.mem_map.1 mem
        exact .warn q fetchSize former receiver text
      · exact .of_two mem (.install fetchSize former receiver found)
          (.reads q fetchSize former receiver)

theorem leads_of_openCursor {plan : CursorPlan} (mem : j ∈ (e.openCursor plan).2.next) :
    e.Leads (.openCursor plan) j := by
  unfold openCursor at mem
  split at mem
  · cases mem
  · split at mem
    · cases mem
    · exact .of_two mem (.attach plan _) (.opened plan _)

theorem leads_of_woken {t : TaskId} {st : Settlement Delivery Failure}
    (mem : j ∈ (e.woken t st).2.next) : e.Leads (.woken t st) j := by
  unfold woken at mem
  split at mem
  · cases mem
  · cases mem
  · split at mem
    · exact .of_one mem (.take t _ _)
    · exact .of_one mem (.answered t _)
  · cases mem

theorem leads_of_yielded {t : TaskId} {r : Record} (mem : j ∈ (e.yielded t r).2.next) :
    e.Leads (.yielded t r) j := by
  unfold yielded at mem
  split at mem
  · cases mem
  · split at mem
    · exact .of_one mem (.yieldedOn t r _)
    · exact .of_one mem (.yielded t r)

theorem leads_of_caught {g : Guard} {th : Thrown} (mem : j ∈ (e.caught g th).2.next) :
    e.Leads (.caught g th) j := by
  cases g with
  | task t => cases mem
  | iteration k =>
      simp only [caught] at mem
      split at mem
      · cases mem
      · rename_i it found
        rcases List.mem_append.1 mem with mem | mem
        · obtain ⟨effect, yields, among⟩ := List.mem_flatMap.1 mem
          exact .left th found yields among
        · exact .of_one mem (.thrown k th)
  | job =>
      cases th with
      | failure f => exact .of_one mem (.jobFailed _ f)
      | cancelled => cases mem
  | command =>
      cases th with
      | failure f => exact .of_one mem (.commandFailed _ f)
      | cancelled => cases mem

/-- Whatever an instruction puts on the agenda, it leads to. -/
theorem leads_exec (mem : j ∈ (e.exec i).2.next) : e.Leads i j := by
  cases i with
  | stream a => exact leads_of_stepStream mem
  | cursor id a => exact leads_of_stepCursor mem
  | iteration k t a => exact leads_of_stepIteration mem
  | runSucceed metadata =>
      simp only [exec, succeedRun] at mem
      split at mem
      · cases mem
      · exact .of_one mem (.line _ _)
  | runFail f => exact .of_one mem (.line _ _)
  | channel r =>
      simp only [exec] at mem
      split at mem
      · exact .of_one mem (.channel r)
      · exact .of_one mem (.outside r)
  | ownerSucceeded metadata => exact leads_of_ownerSucceeded mem
  | ownerFailed f => exact leads_of_ownerFailed mem
  | tellRecord rc r =>
      cases rc with
      | client id name => exact .of_one mem (.record id name r)
      | _ => cases mem
  | tellEnd rc f =>
      cases rc with
      | client id name => exact .of_one mem (.ended id name f)
      | _ => cases mem
  | tellSummary sc s f =>
      cases sc with
      | client id name => exact .of_one mem (.summary id name s f)
      | cursor c => exact .of_one mem (.notify c s f)
  | relay id receiver => exact leads_of_relay mem
  | reportFailure id receiver =>
      simp only [exec, reportFailure] at mem
      split at mem
      · cases mem
      · exact .hand _ rfl mem
  | keep receiver d => exact .hand _ rfl mem
  | release r receiver => exact leads_of_release mem
  | startRelease r receiver => exact .of_one mem (.releasing r receiver _)
  | hand receiver p => exact .hand p rfl mem
  | handIteration receiver k =>
      cases receiver with
      | nobody => cases mem
      | caller name => exact .of_one mem (.handIteration name k)
      | task t => exact .of_one mem (.advance t k)
  | records q fetchSize former receiver => exact leads_of_records mem
  | openCursor plan => exact leads_of_openCursor mem
  | openResult c o => exact .of_one mem (.result c o _)
  | spawn w receiver => exact .hand _ rfl mem
  | body t => exact .body mem
  | await t p =>
      simp only [exec, await] at mem
      split at mem
      · exact .of_one mem (.woken t p _)
      · cases mem
      · cases mem
  | awaitNever t => exact .of_one mem (.awaitNever t _)
  | awaitSignal k t => exact .of_one mem (.awaitSignal k t _)
  | woken t s => exact leads_of_woken mem
  | yielded t r => exact leads_of_yielded mem
  | exhausted t => exact .exhausted mem
  | caught g th => exact leads_of_caught mem
  | _ => cases mem

theorem puts_of_mem {k : IterationId} {it : Iteration} {t : TaskId} {effect : Iteration.Effect}
    (among : j ∈ Instruction.ofIteration k it t effect) : it.Puts k t effect j := by
  cases effect with
  | guarded a =>
      rcases List.mem_cons.1 among with rfl | among
      · exact .inside a
      · exact List.mem_singleton.1 among ▸ .guard a
  | log line => exact List.mem_singleton.1 among ▸ .line line
  | request n => exact List.mem_singleton.1 among ▸ .request n
  | cancel => exact List.mem_singleton.1 among ▸ .cancel
  | await => exact List.mem_singleton.1 among ▸ .await
  | hand r => exact List.mem_singleton.1 among ▸ .hand r
  | exhausted => exact List.mem_singleton.1 among ▸ .exhausted
  | closed => exact List.mem_singleton.1 among ▸ .closed
  | fail f => exact List.mem_singleton.1 among ▸ .fail f
  | andThen a => exact List.mem_singleton.1 among ▸ .andThen a

/-- A task sets out with an instruction, by the work that it is to do. -/
inductive SetsOut (e : Engine) (t : TaskId) : Instruction → Prop
  | release {task : Task} (found : e.tasks[t]? = some task) (work : task.work = .release) :
      SetsOut e t (.ask (.runRelease t))
  | consume {task : Task} (c : CursorId) (found : e.tasks[t]? = some task)
      (work : task.work = .consume c) : SetsOut e t (.cursor c (.summary (.task t)))
  | next {task : Task} (k : IterationId) (found : e.tasks[t]? = some task)
      (work : task.work = .next k) : SetsOut e t (.iteration k t .advance)
  | close {task : Task} (k : IterationId) (found : e.tasks[t]? = some task)
      (work : task.work = .close k) : SetsOut e t (.iteration k t .close)
  | collect {task : Task} (q : ResultId) (found : e.tasks[t]? = some task)
      (work : task.work = .collect q) : SetsOut e t (.records q .null .null (.task t))

theorem setsOut_of_mem {t : TaskId} (mem : j ∈ e.body t) : e.SetsOut t j := by
  unfold body at mem
  cases found : e.tasks[t]? with
  | none => simp [found] at mem
  | some task =>
      cases work : task.work <;>
        simp only [found, Option.map_some, work, List.mem_singleton] at mem <;> subst mem
      · exact .release found work
      · exact .consume _ found work
      · exact .next _ found work
      · exact .close _ found work
      · exact .collect _ found work

theorem finish_of_mem_exhausted {t : TaskId} (mem : j ∈ e.exhausted t) : ∃ d, j = .finish t d := by
  unfold exhausted at mem
  split at mem
  · cases mem
  · split at mem <;> exact ⟨_, List.mem_singleton.1 mem⟩

/-- A promise is handed to who is to get it. -/
inductive Hands (p : PromiseId) : Receiver → Instruction → Prop
  | caller (name : String) : Hands p (.caller name) (.ask (.promise name p))
  | task (t : TaskId) : Hands p (.task t) (.await t p)

theorem hands_of_mem {receiver : Receiver} {p : PromiseId} (mem : j ∈ Engine.hand receiver p) :
    Hands p receiver j := by
  cases receiver with
  | nobody => cases mem
  | caller name => exact List.mem_singleton.1 mem ▸ .caller name
  | task t => exact List.mem_singleton.1 mem ▸ .task t

/-! ## Jobs -/

/-- A job leads to an instruction. -/
inductive LeadsBy (e : Engine) : Job → Instruction → Prop
  | line (j : Job) (line : Log.Line) : LeadsBy e j (.ask (.log line))
  | answer (m : Message) : LeadsBy e (.answer m) (.ask (.answer m))
  | answering (m : Message) : LeadsBy e (.answer m) (.guarded .job)
  | sendOn (pull : Nat) : LeadsBy e (.sendOn pull) (.ask (.sendOn pull))
  | sending (pull : Nat) : LeadsBy e (.sendOn pull) (.guarded .job)
  | body (t : TaskId) : LeadsBy e (.start t) (.body t)
  | started (t : TaskId) : LeadsBy e (.start t) (.guarded (.task t))
  /-- a task goes on with what the promise that it waited for was settled with -/
  | woken {t : TaskId} {task : Task} {st : Settlement Delivery Failure}
      (found : e.tasks[t]? = some task)
      (settled : ∀ d, st = .value d → ∃ p, task.waitingFor = some p ∧
        e.loop.settlement? p = some (.value d)) : LeadsBy e (.resume t) (.woken t st)
  | inside (t : TaskId) (k : IterationId) : LeadsBy e (.resume t) (.guarded (.iteration k))
  | resumed (t : TaskId) : LeadsBy e (.resume t) (.guarded (.task t))

theorem leadsBy_resumeTask {t : TaskId} (mem : i ∈ (e.resumeTask t).2) :
    e.LeadsBy (.resume t) i := by
  unfold resumeTask at mem
  split at mem
  · cases mem
  · rename_i task found
    rcases List.mem_append.1 mem with mem | mem
    · rcases List.mem_cons.1 mem with rfl | mem
      · refine .woken found fun d value => ?_
        split at value
        · cases value
        · cases waits : task.waitingFor with
          | none => simp [waits] at value
          | some p =>
              refine ⟨p, rfl, ?_⟩
              cases settled : e.loop.settlement? p with
              | none => simp [waits, settled] at value
              | some st => simpa [waits, settled] using value
      · obtain ⟨k, -, rfl⟩ := Option.map_eq_some_iff.1 (Option.mem_toList.1 mem)
        exact .inside t k
    · exact List.mem_singleton.1 mem ▸ .resumed t

theorem leadsBy_runJob {k : Job} (mem : i ∈ (e.runJob k).2) : e.LeadsBy k i := by
  cases k with
  | start t =>
      have begun : i ∈ [Instruction.body t, .guarded (.task t)] → e.LeadsBy (.start t) i := by
        intro mem
        rcases List.mem_cons.1 mem with rfl | mem
        · exact .body t
        · exact List.mem_singleton.1 mem ▸ .started t
      simp only [runJob, startTask] at mem
      split at mem
      · cases mem
      · split at mem
        · exact begun mem
        · cases mem
        · exact begun mem
  | resume t => exact leadsBy_resumeTask mem
  | noteOutcome p =>
      obtain ⟨st, -, rfl⟩ := Option.map_eq_some_iff.1 (Option.mem_toList.1 mem)
      exact .line _ _
  | noteRelease p =>
      obtain ⟨line, -, rfl⟩ := List.mem_map.1 mem
      exact .line _ _
  | answer m =>
      rcases List.mem_cons.1 mem with rfl | mem
      · exact .answer m
      · exact List.mem_singleton.1 mem ▸ .answering m
  | sendOn pull =>
      rcases List.mem_cons.1 mem with rfl | mem
      · exact .sendOn pull
      · exact List.mem_singleton.1 mem ▸ .sending pull
  | _ => cases mem

end Engine

end QueryStream
