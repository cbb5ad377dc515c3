/-
  Proofs/Reading/Reader.lean --- the one iteration that reads the records.

  A result hands out one iteration, and here it is the only one that declares demand.
  Whatever the move, the iteration is as it was, makes a step, is signalled, is left, or
  is made (`Step.reader`).  Demand comes onto the agenda only when the iteration fetches
  a batch (`Step.still`), and consumers are taken only for the iteration, or to drop the
  records (`Step.taking`).
-/
import QueryStream.Proofs.Cursor.Errands
import QueryStream.Proofs.Requests.Ledger

set_option autoImplicit false

namespace QueryStream

namespace Instruction

/-- Whether an instruction concerns iterations or results. -/
def isReading : Instruction → Bool
  | .iteration _ _ _ => true
  | .awaitSignal _ _ => true
  | .records _ _ _ _ => true
  | .openResult _ _ => true
  | .tellRecord (.feed _) _ => true
  | .tellEnd (.feed _) _ => true
  | .caught (.iteration _) _ => true
  | _ => false

/-- Whether an instruction changes the first iteration, once it is made. -/
def isReaders : Instruction → Bool
  | .iteration 0 _ _ => true
  | .tellRecord (.feed 0) _ => true
  | .tellEnd (.feed 0) _ => true
  | .caught (.iteration 0) _ => true
  | _ => false

/-- Whether an instruction declares demand, or goes on with an iteration that did. -/
def isDemand : Instruction → Bool
  | .iteration _ _ .requested => true
  | .cursor _ (.request _) => true
  | .channel (.request _) => true
  | .stream (.request _) => true
  | _ => false

/-- Whether an instruction has a cursor take a record consumer. -/
def isTaking : Instruction → Bool
  | .cursor _ (.install _) => true
  | _ => false

/-- Whether an instruction makes a result. -/
def isOpening : Instruction → Bool
  | .openResult _ _ => true
  | _ => false

/-- Whether an instruction is one that the one iteration may have carried out for it and
nobody else: it declares demand, has a record consumer taken or makes a result. -/
def isClaim (i : Instruction) : Bool := i.isDemand || i.isTaking || i.isOpening

end Instruction

/-! ## Rows, and who sends them -/

/-- The last request written in a history. -/
def lastRequest : List Move → Option Message
  | [] => none
  | .answered (.write request) _ :: _ => some request
  | _ :: h => lastRequest h

/-- How many rows were sent since the last request was written. -/
def sentRows : List Move → Int
  | [] => 0
  | .answered (.write _) _ :: _ => 0
  | .carried (.stream (.deliver _)) _ :: h => sentRows h + 1
  | _ :: h => sentRows h

/-- Whether metadata tells that there are more records. -/
def Value.HasMore (metadata : Value) : Prop :=
  ∃ raw, metadata.field "has_more" = .ok raw ∧ raw.isTrue = true

/-- A connection that sends as many rows as a request asks for before it tells that there
are more, and demand that is declared by one iteration only. -/
structure Conduct.Feeds (c : Conduct) : Prop extends c.Serves where
  /-- a request is written -/
  writes : ∀ request, c.tame (.write request)
  sole : ∀ i, c.Calls i → i.isClaim = false
  /-- a row comes only while there is room for it, and fits the keys -/
  rows : ∀ h fields r, c.keeps h (.carried (.stream (.deliver fields)) r) →
    (∃ n query, lastRequest h = some (.pull n query) ∧ (n = unlimited ∨ sentRows h < n)) ∧
      ∃ next, r = .go next
  /-- there are more only after as many rows as were asked for -/
  batches : ∀ h metadata r n query, c.keeps h (.carried (.stream (.succeed metadata)) r) →
    metadata.HasMore → lastRequest h = some (.pull n query) → n ≠ unlimited ∧ sentRows h = n

/-- Such surroundings, with an owner that lets nothing be thrown. -/
structure Conduct.FeedsCalmly (c : Conduct) : Prop extends c.Feeds, c.Errands

theorem Conduct.Feeds.taming {c : Conduct} (feeds : c.Feeds) :
    (c.taming fun a => a.isErrand = true).FeedsCalmly where
  toServes := feeds.toServes.taming _
  writes request := .inl (feeds.writes request)
  sole := feeds.sole
  rows := feeds.rows
  batches := feeds.batches
  toErrands := c.errands_taming

/-! ## What leaves iterations alone -/

/-- What an instruction that does not concern iterations keeps. -/
structure Aloof (e : Engine) (after : Engine × Reply) : Prop where
  iterations : after.1.iterations = e.iterations
  results : after.1.results = e.results
  next : ∀ j ∈ after.2.next, j.isClaim = false

namespace Engine

variable (e : Engine)

theorem aloof_cancel (p : PromiseId) : Aloof e (e.cancel p, .go []) := by
  unfold cancel
  repeat' split
  all_goals exact ⟨rfl, rfl, by simp⟩

theorem aloof_endTask (t : TaskId) (s : Settlement Delivery Failure) :
    Aloof e (e.endTask t s, .go []) := by
  unfold endTask
  split <;> exact ⟨rfl, rfl, by simp⟩

variable {e}

/-- What does not concern iterations leaves them and the results as they are. -/
theorem Alters.aloof {e' : Engine} {i : Instruction} (alters : e.Alters i e')
    (reading : i.isReading = false) :
    e'.iterations = e.iterations ∧ e'.results = e.results := by
  cases alters with
  | iteration | left | record | ended | records | openResult | awaitSignal => cases reading
  | cancel p => exact ⟨(e.aloof_cancel p).iterations, (e.aloof_cancel p).results⟩
  | finish t d st | caught t th st =>
      exact ⟨(e.aloof_endTask t st).iterations, (e.aloof_endTask t st).results⟩
  | _ => exact ⟨rfl, rfl⟩

/-- What does not concern iterations leads to no claim. -/
theorem Leads.isClaim {i j : Instruction} (leads : e.Leads i j) (reading : i.isReading = false)
    (stream : i.isStream = false) (pipe : i.isPipe = false) : j.isClaim = false := by
  cases leads with
  | stream => cases stream
  | cursor | channel | outside | attach | opened => cases pipe
  | iteration | left | thrown | warn | refused | install | reads | result | awaitSignal =>
      cases reading
  | hand p receives among => cases hands_of_mem among <;> rfl
  | body among => cases setsOut_of_mem among <;> rfl
  | exhausted among =>
      obtain ⟨d, rfl⟩ := finish_of_mem_exhausted among
      rfl
  | _ => rfl

variable (e)

/-- What does not concern iterations leaves them and the results as they are, and puts no
claim on the agenda. -/
theorem aloof_exec {i : Instruction} (reading : i.isReading = false)
    (stream : i.isStream = false) (pipe : i.isPipe = false) : Aloof e (e.exec i) :=
  ⟨((alters_exec i).aloof reading).1, ((alters_exec i).aloof reading).2,
    fun _ mem => (leads_exec mem).isClaim reading stream pipe⟩

/-- Turning a job into instructions leaves iterations alone, and puts no claim on the
agenda. -/
theorem aloof_runJob (j : Job) : Aloof e ((e.runJob j).1, .go (e.runJob j).2) := by
  have next : ∀ i ∈ (e.runJob j).2, i.isClaim = false :=
    fun i mem => by cases leadsBy_runJob mem <;> rfl
  generalize e.runJob j = after, altersBy_runJob (e := e) j = alters at next
  obtain ⟨e', instructions⟩ := after
  cases alters with
  | cancelled t => exact ⟨(e.aloof_endTask t _).iterations, (e.aloof_endTask t _).results, next⟩
  | _ => exact ⟨rfl, rfl, next⟩

end Engine

/-! ## The iteration -/

/-- The one iteration; before it is made, one of which nothing was read. -/
def Engine.reader (e : Engine) : Iteration := e.iterations[0]?.getD (.ofCursor 0 default)

/-- One result over the cursor, with at most one iteration. -/
inductive Engine.Sole (e : Engine) : Prop
  | unread (options : FullOptions) (results : e.results = #[⟨0, options, false⟩])
      (iterations : e.iterations = #[])
  | started (options : FullOptions) (it : Iteration) (results : e.results = #[⟨0, options, true⟩])
      (iterations : e.iterations = #[it]) (cursor : it.cursor = 0)

/-- There is still one result, and an iteration that was made is still there. -/
structure Engine.Resumes (e e' : Engine) : Prop where
  sole : e'.Sole
  made : e.iterations ≠ #[] → e'.iterations ≠ #[]

/-- What a move does to the iteration. -/
inductive Reads (s : Situation) (m : Move) (s' : Situation) : Prop
  /-- nothing, but that it may wait for another promise -/
  | apart (awaited : Option PromiseId)
      (reader : s'.engine.reader = { s.engine.reader with awaited })
      (other : ∀ i rest, s.agenda = i :: rest → i.isReaders = true → s.engine.iterations = #[])
  /-- it is made -/
  | made (size : FetchSize) (unread : s.engine.iterations = #[])
      (reader : s'.engine.reader = .ofCursor 0 size)
  /-- it makes a step -/
  | stepped (t : TaskId) (a : Iteration.Action) {rest : List Instruction}
      (head : s.agenda = .iteration 0 t a :: rest) (made : s.engine.iterations ≠ #[])
      (reader : s'.engine.reader = (s.engine.reader.step a).1)
      (next : s'.agenda = (s.engine.reader.step a).2.flatMap
        (Instruction.ofIteration 0 (s.engine.reader.step a).1 t) ++ rest)
  /-- it is told of a record or of the end -/
  | signalled (signal : Signal) {i : Instruction} {rest : List Instruction}
      (head : s.agenda = i :: rest)
      (sort : (∃ r, i = .tellRecord (.feed 0) r ∧ signal = .record r) ∨
        ∃ f, i = .tellEnd (.feed 0) f ∧ signal = .finish f)
      (reader : s'.engine.reader = { s.engine.reader with
        signals := s.engine.reader.signals ++ [signal], awaited := none })
      (next : s'.agenda = rest)
  /-- it is left -/
  | left (th : Thrown) {rest : List Instruction}
      (head : s.agenda = .caught (.iteration 0) th :: rest)
      (reader : s'.engine.reader = s.engine.reader.leave.1)
      (next : s'.agenda = s.engine.reader.leave.2.flatMap
        (Instruction.ofIteration 0 s.engine.reader.leave.1 0) ++ .throw th :: rest)

section Reads

variable {c : Conduct} {h : List Move} {s s' : Situation} {m : Move}

theorem Engine.reader_of_iterations {e : Engine} {it : Iteration} (h : e.iterations = #[it]) :
    e.reader = it := by
  simp [reader, h]

theorem Engine.Sole.cursor_eq {e : Engine} (sole : e.Sole) : e.reader.cursor = 0 := by
  cases sole with
  | unread options results iterations => simp [reader, iterations, Iteration.ofCursor]
  | started options it results iterations cursor => rw [reader_of_iterations iterations, cursor]

theorem Engine.Sole.of_eq {e e' : Engine} (sole : e.Sole)
    (iterations : e'.iterations = e.iterations) (results : e'.results = e.results) :
    e.Resumes e' := by
  refine ⟨?_, fun made => by rwa [iterations]⟩
  cases sole with
  | unread options hresults hiterations =>
      exact .unread options (results.trans hresults) (iterations.trans hiterations)
  | started options it hresults hiterations cursor =>
      exact .started options it (results.trans hresults) (iterations.trans hiterations) cursor

theorem reads_of_eq (sole : s.engine.Sole)
    (iterations : s'.engine.iterations = s.engine.iterations)
    (results : s'.engine.results = s.engine.results)
    (other : ∀ i rest, s.agenda = i :: rest → i.isReaders = true → s.engine.iterations = #[]) :
    Reads s m s' ∧ s.engine.Resumes s'.engine :=
  ⟨.apart s.engine.reader.awaited (by simp [Engine.reader, iterations]) other,
    sole.of_eq iterations results⟩

theorem other_of_head {e : Engine} {i : Instruction} {rest : List Instruction}
    (h : i.isReaders = true → e.iterations = #[]) :
    ∀ j tail, i :: rest = j :: tail → j.isReaders = true → e.iterations = #[] := by
  intro j tail heq hj
  obtain ⟨rfl, -⟩ := List.cons.inj heq
  exact h hj

theorem Engine.Sole.eq_empty {e : Engine} (sole : e.Sole) (none : e.iterations[0]? = none) :
    e.iterations = #[] := by
  cases sole with
  | unread options results iterations => exact iterations
  | started options it results iterations cursor => simp [iterations] at none

theorem Instruction.isReading_of_isReaders {i : Instruction} (h : i.isReaders = true) :
    i.isReading = true := by
  unfold isReaders at h
  split at h <;> first | rfl | cases h

theorem Engine.Sole.of_iteration {e e' : Engine} {it it' : Iteration} (sole : e.Sole)
    (found : e.iterations = #[it]) (iterations : e'.iterations = #[it'])
    (results : e'.results = e.results) (cursor : it'.cursor = it.cursor) : e.Resumes e' := by
  refine ⟨?_, fun _ => by simp [iterations]⟩
  cases sole with
  | unread options hresults hiterations => simp [found] at hiterations
  | started options it₀ hresults hiterations hcursor =>
      obtain rfl : it = it₀ := by simpa [found] using hiterations
      exact .started options it' (results.trans hresults) iterations (cursor.trans hcursor)

theorem Engine.Sole.find (e : Engine) (sole : e.Sole) (id : IterationId) :
    e.iterations[id]? = none ∨ ∃ it, id = 0 ∧ e.iterations = #[it] := by
  cases sole with
  | unread options results iterations => exact .inl (by simp [iterations])
  | started options it results iterations cursor =>
      cases id with
      | zero => exact .inr ⟨it, rfl, iterations⟩
      | succ id => exact .inl (by simp [iterations])

theorem Iteration.cursor_step (it : Iteration) (a : Iteration.Action) :
    (it.step a).1.cursor = it.cursor := by
  unfold step
  repeat' split
  all_goals rfl

theorem Engine.modifyIteration_of_none {e : Engine} {id : IterationId}
    (none : e.iterations[id]? = none) (f : Iteration → Iteration) :
    (e.modifyIteration id f).iterations = e.iterations := by
  have hsize : e.iterations.size ≤ id := by simpa using none
  refine Array.ext (by simp [modifyIteration]) fun k hk _ => ?_
  have hlt : k < e.iterations.size := by simpa [modifyIteration] using hk
  have hne : id ≠ k := Nat.ne_of_gt (Nat.lt_of_lt_of_le hlt hsize)
  simp [modifyIteration, Array.getElem_modify, hne]

theorem Engine.signal_of_none {e : Engine} {id : IterationId} (none : e.iterations[id]? = none)
    (sg : Signal) : e.signal id sg = e := by
  simp [signal, none]

theorem Engine.iterations_signal {e : Engine} {it : Iteration} (found : e.iterations = #[it])
    (sg : Signal) : (e.signal 0 sg).iterations
        = #[{ it with signals := it.signals ++ [sg], awaited := none }] ∧
      (e.signal 0 sg).results = e.results := by
  have hit : e.iterations[0]? = some it := by simp [found]
  unfold signal
  rw [hit]
  dsimp only
  have hmodify : (e.modifyIteration 0 fun iteration =>
      { iteration with signals := iteration.signals ++ [sg], awaited := none }).iterations
        = #[{ it with signals := it.signals ++ [sg], awaited := none }] := by
    simp [modifyIteration, found, Array.modify, Array.modifyM]
  split <;> exact ⟨hmodify, rfl⟩

theorem reads_of_signal {e : Engine} {i : Instruction} {rest : List Instruction} {id : IterationId}
    {sg : Signal} (sole : e.Sole)
    (sort : (∃ r, i = .tellRecord (.feed id) r ∧ sg = .record r) ∨
      ∃ f, i = .tellEnd (.feed id) f ∧ sg = .finish f) :
    Reads ⟨e, i :: rest⟩ m ⟨e.signal id sg, rest⟩ ∧ e.Resumes (e.signal id sg) := by
  rcases Engine.Sole.find e sole id with none | ⟨it, rfl, found⟩
  · rw [Engine.signal_of_none none]
    refine reads_of_eq sole rfl rfl (other_of_head fun reads => sole.eq_empty ?_)
    rcases sort with ⟨r, rfl, -⟩ | ⟨f, rfl, -⟩ <;> cases id <;>
      first | exact none | cases reads
  · obtain ⟨iterations, results⟩ := Engine.iterations_signal found sg
    refine ⟨.signalled sg rfl sort ?_ rfl, sole.of_iteration found iterations results rfl⟩
    rw [Engine.reader_of_iterations iterations, Engine.reader_of_iterations found]

/-- Records are not asked for twice. -/
theorem QueryResult.start_ne_ok {q : QueryResult} (fetchSize former : Value) (size : FetchSize)
    (started : q.isStarted = true) : (q.start fetchSize former).2 ≠ .ok size := by
  intro heq
  simp only [start, bind, Except.bind, started, if_true] at heq
  split at heq
  · cases heq
  · split at heq
    · cases heq
    · split at heq <;> cases heq

/-- The results and the iteration after the records are asked for. -/
theorem reads_of_records {e : Engine} {q : ResultId} {fetchSize former : Value}
    {receiver : Receiver} {rest agenda : List Instruction} (sole : e.Sole) :
    Reads ⟨e, .records q fetchSize former receiver :: rest⟩ m
        ⟨(e.startRecords q fetchSize former receiver).1, agenda⟩ ∧
      e.Resumes (e.startRecords q fetchSize former receiver).1 := by
  have refused : (e.startRecords q fetchSize former receiver).1 = e →
      Reads ⟨e, .records q fetchSize former receiver :: rest⟩ m
          ⟨(e.startRecords q fetchSize former receiver).1, agenda⟩ ∧
        e.Resumes (e.startRecords q fetchSize former receiver).1 := by
    intro heq
    rw [heq]
    exact reads_of_eq sole rfl rfl (other_of_head fun reads => (by cases reads))
  cases found : e.results[q]? with
  | none => exact refused (by simp [Engine.startRecords, found, Engine.goOn])
  | some result =>
      rcases hstart : result.start fetchSize former with ⟨warning, chosen⟩
      cases chosen with
      | error cause =>
          exact refused (by simp [Engine.startRecords, found, hstart, Engine.goOn])
      | ok size =>
          cases sole with
          | unread options results iterations =>
              rw [results] at found
              obtain ⟨rfl, rfl⟩ : q = 0 ∧ result = ⟨0, options, false⟩ := by
                cases q <;> simp_all
              have hafter : (e.startRecords 0 fetchSize former receiver).1.iterations
                    = #[.ofCursor 0 size] ∧
                  (e.startRecords 0 fetchSize former receiver).1.results
                    = #[⟨0, options, true⟩] := by
                simp [Engine.startRecords, results, iterations, hstart]
              refine ⟨.made size iterations ?_, .started options _ hafter.2 hafter.1 rfl,
                by simp [hafter.1]⟩
              exact Engine.reader_of_iterations hafter.1
          | started options it results iterations cursor =>
              rw [results] at found
              obtain ⟨rfl, rfl⟩ : q = 0 ∧ result = ⟨0, options, true⟩ := by
                cases q <;> simp_all
              exact absurd (by rw [hstart]) (QueryResult.start_ne_ok fetchSize former size rfl)

theorem reads_of_iteration {e : Engine} {rest : List Instruction} {id : IterationId} {t : TaskId}
    {a : Iteration.Action} (sole : e.Sole) :
    Reads ⟨e, .iteration id t a :: rest⟩ m ⟨(e.exec (.iteration id t a)).1,
      (e.exec (.iteration id t a)).2.onto rest⟩ ∧ e.Resumes (e.exec (.iteration id t a)).1 := by
  rcases Engine.Sole.find e sole id with none | ⟨it, rfl, found⟩
  · simp only [Engine.exec, Engine.stepIteration, none]
    refine reads_of_eq sole rfl rfl (other_of_head fun reads => sole.eq_empty ?_)
    cases id <;> first | exact none | cases reads
  · have hit : e.iterations[0]? = some it := by simp [found]
    have hafter : e.iterations.setIfInBounds 0 (it.step a).1 = #[(it.step a).1] := by
      simp [found]
    simp only [Engine.exec, Engine.stepIteration, hit]
    refine ⟨.stepped t a rfl (by simp [found]) ?_ ?_,
      sole.of_iteration found hafter rfl (it.cursor_step a)⟩
    · rw [Engine.reader_of_iterations hafter, Engine.reader_of_iterations found]
    · rw [Engine.reader_of_iterations found]
      rfl

theorem reads_of_awaitSignal {e : Engine} {rest : List Instruction} {id : IterationId}
    {t : TaskId} (sole : e.Sole) :
    Reads ⟨e, .awaitSignal id t :: rest⟩ m ⟨(e.exec (.awaitSignal id t)).1,
      (e.exec (.awaitSignal id t)).2.onto rest⟩ ∧ e.Resumes (e.exec (.awaitSignal id t)).1 := by
  rcases Engine.Sole.find e sole id with none | ⟨it, rfl, found⟩
  · exact reads_of_eq sole (Engine.modifyIteration_of_none none _) rfl
      (other_of_head fun reads => (by cases reads))
  · have hafter : (e.exec (.awaitSignal 0 t)).1.iterations
        = #[{ it with awaited := some e.loop.nextId }] := by
      simp [Engine.exec, Engine.awaitSignal, Engine.modifyIteration, Engine.withLoop,
        Engine.goOn, found, Array.modify, Array.modifyM]
    refine ⟨.apart (some e.loop.nextId) ?_ (other_of_head fun reads => (by cases reads)),
      sole.of_iteration found hafter rfl rfl⟩
    rw [Engine.reader_of_iterations hafter, Engine.reader_of_iterations found]

theorem reads_of_caught {e : Engine} {rest : List Instruction} {id : IterationId} {th : Thrown}
    (sole : e.Sole) :
    Reads ⟨e, .caught (.iteration id) th :: rest⟩ m ⟨(e.exec (.caught (.iteration id) th)).1,
      (e.exec (.caught (.iteration id) th)).2.onto rest⟩ ∧
      e.Resumes (e.exec (.caught (.iteration id) th)).1 := by
  rcases Engine.Sole.find e sole id with none | ⟨it, rfl, found⟩
  · simp only [Engine.exec, Engine.caught, none]
    refine reads_of_eq sole rfl rfl (other_of_head fun reads => sole.eq_empty ?_)
    cases id <;> first | exact none | cases reads
  · have hit : e.iterations[0]? = some it := by simp [found]
    have hafter : e.iterations.setIfInBounds 0 it.leave.1 = #[it.leave.1] := by
      simp [found]
    have hcursor : it.leave.1.cursor = it.cursor := by
      unfold Iteration.leave
      split <;> rfl
    simp only [Engine.exec, Engine.caught, hit]
    refine ⟨.left th rfl ?_ ?_, sole.of_iteration found hafter rfl hcursor⟩
    · rw [Engine.reader_of_iterations hafter, Engine.reader_of_iterations found]
    · rw [Engine.reader_of_iterations found]
      simp

/-- What concerns iterations changes the one there is, or makes it. -/
theorem reads_of_reading {e : Engine} {i : Instruction} {rest : List Instruction} (sole : e.Sole)
    (reading : i.isReading = true) (unopened : i.isOpening = false) :
    Reads ⟨e, i :: rest⟩ m ⟨(e.exec i).1, (e.exec i).2.onto rest⟩ ∧ e.Resumes (e.exec i).1 := by
  cases i with
  | iteration id t a => exact reads_of_iteration sole
  | awaitSignal id t => exact reads_of_awaitSignal sole
  | records q fetchSize former receiver => exact reads_of_records sole
  | openResult c o => simp [Instruction.isOpening] at unopened
  | tellRecord c r =>
      cases c with
      | feed id => exact reads_of_signal sole (.inl ⟨r, rfl, rfl⟩)
      | _ => simp [Instruction.isReading] at reading
  | tellEnd c f =>
      cases c with
      | feed id => exact reads_of_signal sole (.inr ⟨f, rfl, rfl⟩)
      | _ => simp [Instruction.isReading] at reading
  | caught g th =>
      cases g with
      | iteration id => exact reads_of_caught sole
      | _ => simp [Instruction.isReading] at reading
  | _ => simp [Instruction.isReading] at reading

theorem Step.reads (step : Step s m s') (permitted : c.Permits h m)
    (known : ∀ i ∈ s.agenda, i.isForeign = false)
    (unopened : ∀ i ∈ s.agenda, i.isOpening = false) (sole : s.engine.Sole) :
    Reads s m s' ∧ s.engine.Resumes s'.engine := by
  cases step.turn permitted with
  | stream steps => exact reads_of_eq sole rfl rfl (other_of_head fun reads => (by cases reads))
  | cursor found steps =>
      exact reads_of_eq sole rfl rfl (other_of_head fun reads => (by cases reads))
  | @refused e i rest cause sort error =>
      refine reads_of_eq sole rfl rfl (other_of_head fun reads => ?_)
      have reading := Instruction.isReading_of_isReaders reads
      cases i <;> simp [Instruction.isReading, Instruction.isStream, Instruction.isCursor] at *
  | absent a found => exact reads_of_eq sole rfl rfl (other_of_head fun reads => (by cases reads))
  | channel r own => exact reads_of_eq sole rfl rfl (other_of_head fun reads => (by cases reads))
  | outside r own => exact reads_of_eq sole rfl rfl (other_of_head fun reads => (by cases reads))
  | openCursor plan => simpa [Instruction.isForeign] using known (.openCursor plan) (by simp)
  | notify id summary f =>
      exact reads_of_eq sole rfl rfl (other_of_head fun reads => (by cases reads))
  | @other e i rest stream pipe own next =>
      cases reading : i.isReading with
      | true => exact reads_of_reading sole reading (unopened i (by simp))
      | false =>
          have aloof := e.aloof_exec reading stream pipe
          refine reads_of_eq sole aloof.iterations aloof.results (other_of_head fun reads => ?_)
          simp [Instruction.isReading_of_isReaders reads] at reading
  | answered answers => exact reads_of_eq sole rfl rfl (other_of_head fun reads => (by cases reads))
  | @began e j loop next =>
      have aloof := Engine.aloof_runJob { e with loop } j
      exact reads_of_eq sole aloof.iterations aloof.results fun _ _ heq => (by cases heq)
  | called made => exact reads_of_eq sole rfl rfl fun _ _ heq => (by cases heq)

/-- Whether an action of a cursor drops the records. -/
def Cursor.Action.isStage : Cursor.Action → Bool
  | .summary _ => true
  | .discardAll _ => true
  | _ => false

/-- How a claim comes onto the agenda. -/
inductive Claimed (s : Situation) : Instruction → Prop
  /-- the iteration fetches a batch -/
  | fetched {t : TaskId} {rest : List Instruction} {j : Instruction}
      (head : s.agenda = .iteration 0 t .fetch :: rest) (made : s.engine.iterations ≠ #[])
      (demand : j.isDemand = true) : Claimed s j
  /-- demand is passed on -/
  | passed {i : Instruction} {rest : List Instruction} {j : Instruction}
      (head : s.agenda = i :: rest) (demand : i.isDemand = true) (passes : j.isDemand = true) :
      Claimed s j
  /-- the records are dropped -/
  | staged {a : Cursor.Action} {rest : List Instruction} {j : Instruction}
      (head : s.agenda = .cursor 0 a :: rest) (stages : a.isStage = true)
      (taking : j = .cursor 0 (.install .discard)) : Claimed s j
  /-- the records are asked for -/
  | reading {q : ResultId} {fetchSize former : Value} {receiver : Receiver}
      {rest : List Instruction} {j : Instruction}
      (head : s.agenda = .records q fetchSize former receiver :: rest)
      (taking : j = .cursor 0 (.install (.feed 0))) : Claimed s j

theorem Instruction.isClaim_eq_true {i : Instruction} :
    i.isClaim = true ↔ i.isDemand = true ∨ i.isTaking = true ∨ i.isOpening = true := by
  simp [isClaim, or_assoc]

theorem Instruction.isDemand_of_isTaking {i : Instruction} (h : i.isTaking = true) :
    i.isDemand = false := by
  cases i with
  | cursor id a => cases a <;> first | rfl | simp [isTaking] at h
  | _ => simp [isTaking] at h

theorem Stream.Steps.isClaim_eq_false {x : Stream.Surroundings} {st st' : Stream}
    {a : Stream.Action} {effects : List Stream.Effect} (steps : Stream.Steps x st a st' effects) :
    ∀ effect ∈ effects, (Instruction.ofStream effect).isClaim = false := by
  intro effect mem
  cases effect with
  | andThen b =>
      rcases steps.isPublic_of_andThen mem with inner | ⟨-, rfl⟩
      · cases b <;> first | rfl | simp [Stream.Action.isPublic] at inner
      · rfl
  | _ => rfl

theorem Iteration.isClaim_of_step {it : Iteration} {a : Iteration.Action} {t : TaskId}
    {j : Instruction}
    (hj : j ∈ (it.step a).2.flatMap (Instruction.ofIteration 0 (it.step a).1 t))
    (claim : j.isClaim = true) : a = .fetch ∧ j.isDemand = true := by
  cases a with
  | fetch =>
      refine ⟨rfl, ?_⟩
      simp only [step] at hj
      split at hj
      · simp only [List.flatMap_cons, List.flatMap_nil, Instruction.ofIteration, List.mem_append,
          List.mem_singleton, List.not_mem_nil, or_false] at hj
        rcases hj with rfl | rfl | rfl
        · cases claim
        · rfl
        · rfl
      · simp only [List.flatMap_cons, List.flatMap_nil, Instruction.ofIteration, List.mem_append,
          List.mem_singleton, List.not_mem_nil, or_false] at hj
        subst hj
        cases claim
  | _ =>
      exfalso
      simp only [step] at hj
      repeat' split at hj
      all_goals
        simp [Instruction.ofIteration, leaveEffects] at hj
        rcases hj with rfl | rfl | rfl <;> cases claim

theorem isClaim_of_records {e : Engine} {q : ResultId} {fetchSize former : Value}
    {receiver : Receiver} {j : Instruction} (sole : e.Sole)
    (hj : j ∈ (e.startRecords q fetchSize former receiver).2.next) (claim : j.isClaim = true) :
    j = .cursor 0 (.install (.feed 0)) ∧
      (e.startRecords q fetchSize former receiver).1.iterations ≠ #[] := by
  cases found : e.results[q]? with
  | none => simp [Engine.startRecords, found, Engine.goOn] at hj
  | some result =>
      rcases hstart : result.start fetchSize former with ⟨warning, chosen⟩
      have warned : ∀ k ∈ warning.toList.map fun text => Instruction.ask (.warn text),
          k.isClaim = false := by
        intro k hk
        obtain ⟨text, _, rfl⟩ := List.mem_map.1 hk
        rfl
      cases chosen with
      | error cause =>
          simp only [Engine.startRecords, found, hstart, Engine.goOn, Reply.next_go] at hj
          rcases List.mem_append.1 hj with hj | hj
          · simp [warned j hj] at claim
          · rw [List.mem_singleton.1 hj] at claim
            cases claim
      | ok size =>
          simp only [Engine.startRecords, found, hstart, Reply.next_go] at hj
          rcases List.mem_append.1 hj with hj | hj
          · simp [warned j hj] at claim
          · cases sole with
            | unread options results iterations =>
                rw [results] at found
                obtain ⟨rfl, rfl⟩ : q = 0 ∧ result = ⟨0, options, false⟩ := by
                  cases q <;> simp_all
                simp only [iterations, List.mem_cons, List.not_mem_nil, or_false] at hj
                rcases hj with rfl | rfl
                · exact ⟨rfl, by simp [Engine.startRecords, results, hstart]⟩
                · cases claim
            | started options it results iterations cursor =>
                rw [results] at found
                obtain ⟨rfl, rfl⟩ : q = 0 ∧ result = ⟨0, options, true⟩ := by
                  cases q <;> simp_all
                exact absurd (by rw [hstart]) (QueryResult.start_ne_ok fetchSize former size rfl)

/-- What concerns iterations claims a batch, or has their consumer taken. -/
theorem claimed_of_reading {e : Engine} {i j : Instruction} {rest : List Instruction}
    (sole : e.Sole) (reading : i.isReading = true) (unopened : i.isOpening = false)
    (hj : j ∈ (e.exec i).2.next) (claim : j.isClaim = true) : Claimed ⟨e, i :: rest⟩ j := by
  cases i with
  | iteration id t a =>
      rcases Engine.Sole.find e sole id with none | ⟨it, rfl, found⟩
      · simp [Engine.exec, Engine.stepIteration, none, Engine.goOn] at hj
      · have hit : e.iterations[0]? = some it := by simp [found]
        simp only [Engine.exec, Engine.stepIteration, hit] at hj
        obtain ⟨rfl, demand⟩ := Iteration.isClaim_of_step hj claim
        exact .fetched rfl (by simp [found]) demand
  | awaitSignal id t =>
      simp only [Engine.exec, Engine.awaitSignal, Engine.goOn, Reply.next_go,
        List.mem_singleton] at hj
      subst hj
      cases claim
  | records q fetchSize former receiver => exact .reading rfl (isClaim_of_records sole hj claim).1
  | openResult c o => simp [Instruction.isOpening] at unopened
  | tellRecord c r =>
      cases c with
      | feed id => simp [Engine.exec, Engine.tellRecord] at hj
      | _ => simp [Instruction.isReading] at reading
  | tellEnd c f =>
      cases c with
      | feed id => simp [Engine.exec, Engine.tellEnd] at hj
      | _ => simp [Instruction.isReading] at reading
  | caught g th =>
      cases g with
      | iteration id =>
          exfalso
          simp only [Engine.exec, Engine.caught] at hj
          split at hj
          · simp at hj
          · simp only [Iteration.leave] at hj
            split at hj
            · simp at hj
              subst hj
              cases claim
            · simp [Iteration.leaveEffects, Instruction.ofIteration] at hj
              rcases hj with rfl | rfl | rfl <;> cases claim
      | _ => simp [Instruction.isReading] at reading
  | _ => simp [Instruction.isReading] at reading

/-- What is claimed as a cursor stages itself is that the records are dropped. -/
theorem Cursor.isClaim_of_stage {cursor next : Cursor} {done : Bool} {effect : Cursor.Effect}
    (mem : effect ∈ cursor.stage done)
    (claim : (Instruction.ofCursor 0 next effect).isClaim = true) :
    Instruction.ofCursor 0 next effect = .cursor 0 (.install .discard) := by
  unfold stage at mem
  split at mem
  · cases mem
  · simp only [List.mem_cons, List.not_mem_nil, or_false] at mem
    rcases mem with rfl | rfl | rfl | rfl
    · cases claim
    · rfl
    · cases claim
    · cases claim

/-- A cursor passes demand on, or has the records dropped as it stages itself. -/
theorem claimed_of_cursor {e : Engine} {done : Bool} {a : Cursor.Action} {cursor next : Cursor}
    {effects : List Cursor.Effect} {effect : Cursor.Effect} {rest : List Instruction}
    (steps : Cursor.Steps done cursor a next effects) (mem : effect ∈ effects)
    (claim : (Instruction.ofCursor 0 next effect).isClaim = true) :
    Claimed ⟨e, .cursor 0 a :: rest⟩ (.ofCursor 0 next effect) := by
  cases steps with
  | request unconsumed =>
      rw [List.mem_singleton.1 mem]
      exact .passed rfl rfl rfl
  | summary | discardAll =>
      refine .staged rfl rfl ?_
      rcases List.mem_append.1 mem with mem | mem
      · exact Cursor.isClaim_of_stage mem claim
      · rw [List.mem_singleton.1 mem] at claim
        cases claim
  | rollback line =>
      simp only [List.mem_cons, List.not_mem_nil, or_false] at mem
      rcases mem with rfl | rfl | rfl | rfl <;> cases claim
  | install line unconsumed free =>
      simp only [List.mem_cons, List.not_mem_nil, or_false] at mem
      rcases mem with rfl | rfl | rfl <;> cases claim
  | _ =>
      first
        | cases mem; done
        | (rw [List.mem_singleton.1 mem] at claim; cases claim)

/-- What is claimed after a move was claimed before, or by the iteration. -/
theorem Step.claims {cursor : Cursor} (feeds : c.FeedsCalmly) (step : Step s m s')
    (permitted : c.Permits h m) (known : ∀ i ∈ s.agenda, i.isForeign = false)
    (unopened : ∀ i ∈ s.agenda, i.isOpening = false) (sole : s.engine.Sole)
    (cursors : s.engine.cursors = #[cursor]) {j : Instruction} (hj : j ∈ s'.agenda)
    (claim : j.isClaim = true) : j ∈ s.agenda.tail ∨ Claimed s j := by
  have onto : ∀ {e e' : Engine} {i : Instruction} {rest : List Instruction} {r : Reply},
      (j ∈ r.next → Claimed ⟨e, i :: rest⟩ j) → j ∈ (⟨e', r.onto rest⟩ : Situation).agenda →
        j ∈ (⟨e, i :: rest⟩ : Situation).agenda.tail ∨ Claimed ⟨e, i :: rest⟩ j := by
    intro e e' i rest r hnext hj
    obtain ⟨front, tail, heq, leaves, hfront⟩ := r.exists_onto rest
    have hj : j ∈ front ++ tail := heq ▸ hj
    rcases List.mem_append.1 hj with hj | hj
    · rcases hfront with rfl | ⟨g, th, rfl, _⟩
      · exact .inr (hnext hj)
      · rw [List.mem_singleton.1 hj] at claim
        cases claim
    · exact .inl (leaves.suffix.mem hj)
  cases step.turn permitted with
  | stream steps =>
      refine onto (r := .go _) (fun hj => ?_) hj
      obtain ⟨effect, mem, rfl⟩ := List.mem_map.1 hj
      simp [steps.isClaim_eq_false effect mem] at claim
  | @cursor e id a rest found next effects hfound steps =>
      have hcursors : e.cursors = #[cursor] := cursors
      rw [hcursors] at hfound
      obtain ⟨rfl, rfl⟩ := eq_of_getElem?_singleton hfound
      refine onto (r := .go _) (fun hj => ?_) hj
      obtain ⟨effect, mem, rfl⟩ := List.mem_map.1 hj
      exact claimed_of_cursor steps mem claim
  | refused cause sort error => exact onto (by simp) hj
  | absent a found => exact .inl hj
  | channel r own =>
      rcases List.mem_cons.1 hj with rfl | hj
      · cases r with
        | request n => exact .inr (.passed rfl rfl rfl)
        | _ => cases claim
      · exact .inl hj
  | outside r own =>
      rcases List.mem_cons.1 hj with rfl | hj
      · cases claim
      · exact .inl hj
  | openCursor plan => simpa [Instruction.isForeign] using known (.openCursor plan) (by simp)
  | notify id summary f =>
      rcases List.mem_cons.1 hj with rfl | hj
      · cases claim
      · exact .inl hj
  | @other e i rest stream pipe own next =>
      refine onto (fun hj => ?_) hj
      cases reading : i.isReading with
      | true => exact claimed_of_reading sole reading (unopened i (by simp)) hj claim
      | false => simp [(e.aloof_exec reading stream pipe).next j hj] at claim
  | answered answers =>
      refine onto (fun hj => ?_) hj
      cases answers with
      | notice => cases hj
      | calls _ made _ => simp [feeds.sole j (made j hj)] at claim
      | raise => cases hj
      | released t =>
          rw [List.mem_singleton.1 hj] at claim
          cases claim
      | unending t =>
          rw [List.mem_singleton.1 hj] at claim
          cases claim
  | @began e k loop next =>
      simp [(Engine.aloof_runJob { e with loop } k).next j hj] at claim
  | called made => simp [feeds.sole j (made j hj)] at claim

theorem Step.unopened {cursor : Cursor} (feeds : c.FeedsCalmly) (step : Step s m s')
    (permitted : c.Permits h m) (known : ∀ i ∈ s.agenda, i.isForeign = false)
    (unopened : ∀ i ∈ s.agenda, i.isOpening = false) (sole : s.engine.Sole)
    (cursors : s.engine.cursors = #[cursor]) : ∀ j ∈ s'.agenda, j.isOpening = false := by
  intro j hj
  cases opening : j.isOpening with
  | false => rfl
  | true =>
      have claim : j.isClaim = true := Instruction.isClaim_eq_true.2 (.inr (.inr opening))
      have demandless : j.isDemand = false := by
        cases j <;> first | rfl | simp [Instruction.isOpening] at opening
      rcases step.claims feeds permitted known unopened sole cursors hj claim with hj | claimed
      · simp [unopened j (List.mem_of_mem_tail hj)] at opening
      · cases claimed with
        | fetched head made demand => simp [demandless] at demand
        | passed head demand passes => simp [demandless] at passes
        | staged head stages taking => simp [taking, Instruction.isOpening] at opening
        | reading head taking => simp [taking, Instruction.isOpening] at opening

/-- Demand comes onto the agenda only when the iteration fetches a batch. -/
theorem Step.still {cursor : Cursor} (feeds : c.FeedsCalmly) (step : Step s m s')
    (permitted : c.Permits h m) (known : ∀ i ∈ s.agenda, i.isForeign = false)
    (unopened : ∀ i ∈ s.agenda, i.isOpening = false) (sole : s.engine.Sole)
    (cursors : s.engine.cursors = #[cursor]) (still : ∀ i ∈ s.agenda, i.isDemand = false)
    (fetches : s.engine.iterations = #[] ∨ ∀ t rest, s.agenda ≠ .iteration 0 t .fetch :: rest) :
    ∀ j ∈ s'.agenda, j.isDemand = false := by
  intro j hj
  cases demand : j.isDemand with
  | false => rfl
  | true =>
      have claim : j.isClaim = true := Instruction.isClaim_eq_true.2 (.inl demand)
      rcases step.claims feeds permitted known unopened sole cursors hj claim with hj | claimed
      · simp [still j (List.mem_of_mem_tail hj)] at demand
      · cases claimed with
        | fetched head made _ =>
            exact fetches.elim (fun unread => absurd unread made) fun other =>
              absurd head (other _ _)
        | @passed i rest j head passed _ => simp [still i (by simp [head])] at passed
        | staged head stages taking => simp [taking, Instruction.isDemand] at demand
        | reading head taking => simp [taking, Instruction.isDemand] at demand

end Reads

end QueryStream
