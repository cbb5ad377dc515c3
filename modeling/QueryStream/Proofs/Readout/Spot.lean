/-
  Proofs/Readout/Spot.lean --- where a reading stands.

  A task reads the records of a result, and nothing else is asked of the engine.  A `Spot` is
  all that matters of it then: the stream, the iteration, the task, the jobs of the reading
  that are queued, and how the task ended.  What else there is goes on apart from it: a line
  to be written, a connection to be given back.  `Loop.Apart` says that what happened to the
  loop was of that kind, and keeps the spot (`Calm.of_apart`).
-/
import QueryStream.Proofs.Engine.Settling

set_option autoImplicit false

namespace QueryStream

/-! ## Jobs apart from the reading -/

/-- Whether a job only writes a line. -/
def Job.isNote : Job → Bool
  | .noteOutcome _ => true
  | .noteRelease _ => true
  | _ => false

/-- Whether a job has nothing to do with the task that reads, which is the first one. -/
def Job.isApart : Job → Bool
  | .start t => t != 0
  | k => k.isNote

theorem Job.isApart_of_isNote {k : Job} (note : k.isNote = true) : k.isApart = true := by
  cases k <;> first | exact note | cases note

namespace Loop

variable {p q : PromiseId} {l l' l'' : EngineLoop} {extra extra' : List Job}

/-- A promise for which only lines are to be written once it is settled. -/
def Noted (l : EngineLoop) (q : PromiseId) : Prop :=
  ∃ pr, l.promises[q]? = some pr ∧ ∀ k ∈ pr.watchers, k.isNote = true

/-- What happened to a loop was apart from the reading whose promise is `p`, and queued more
jobs. -/
structure Apart (p : PromiseId) (extra : List Job) (l l' : EngineLoop) : Prop where
  ready : l'.ready = l.ready ++ extra
  apart : ∀ k ∈ extra, k.isApart = true
  noted : ∀ q, l.Noted q → l'.Noted q
  kept : ∀ q pr, l.promises[q]? = some pr → q = p ∨ ¬ l.Noted q → l'.promises[q]? = some pr
  settled : ∀ q st, l.settlement? q = some st → l'.settlement? q = some st

namespace Apart

theorem trans (first : Apart p extra l l') (second : Apart p extra' l' l'') :
    Apart p (extra ++ extra') l l'' where
  ready := by rw [second.ready, first.ready, List.append_assoc]
  apart k mem := (List.mem_append.1 mem).elim (first.apart k) (second.apart k)
  noted q noted := second.noted q (first.noted q noted)
  kept q pr found other := by
    have found' := first.kept q pr found other
    refine second.kept q pr found' (other.imp_right fun other noted => other ?_)
    obtain ⟨pr', same, notes⟩ := noted
    rw [found', Option.some.injEq] at same
    exact ⟨pr, found, same ▸ notes⟩
  settled q st settled := second.settled q st (first.settled q st settled)

theorem push (pr : Promise Delivery Failure Job) : Apart p [] l ⟨l.promises.push pr, l.ready⟩ where
  ready := (List.append_nil _).symm
  apart := by simp
  noted q noted := by
    obtain ⟨pr', found, notes⟩ := noted
    refine ⟨pr', ?_, notes⟩
    rw [Array.getElem?_push, if_neg (Nat.ne_of_lt (lt_size_of_getElem? found))]
    exact found
  kept q pr' found _ := by
    rw [Array.getElem?_push, if_neg (Nat.ne_of_lt (lt_size_of_getElem? found))]
    exact found
  settled q st settled := by
    rw [settlement?_push, if_neg (Nat.ne_of_lt (lt_size_of_settlement? settled))]
    exact settled

theorem create : Apart p [] l l.create := push _

theorem createSettled (st : Settlement Delivery Failure) : Apart p [] l (l.createSettled st) :=
  push _

theorem soon {k : Job} (apart : k.isApart = true) : Apart p [k] l (l.soon k) where
  ready := rfl
  apart := by simpa using apart
  noted _ noted := noted
  kept _ _ found _ := found
  settled _ _ settled := settled

/-- A promise that is not settled, and for which lines are to be written, is changed into
another one. -/
theorem set {watchers : List Job} {pr : Promise Delivery Failure Job} (other : q ≠ p)
    (found : l.promises[q]? = some ⟨none, watchers⟩)
    (notes : ∀ k ∈ watchers, k.isNote = true) (notes' : ∀ k ∈ pr.watchers, k.isNote = true)
    (apart : ∀ k ∈ extra, k.isApart = true) :
    Apart p extra l ⟨l.promises.setIfInBounds q pr, l.ready ++ extra⟩ where
  ready := rfl
  apart := apart
  noted q' noted := by
    by_cases same : q = q'
    · subst same
      exact ⟨pr, by simp [lt_size_of_getElem? found], notes'⟩
    · obtain ⟨pr', found', notes⟩ := noted
      exact ⟨pr', by simpa [Array.getElem?_setIfInBounds, same] using found', notes⟩
  kept q' pr' found' apart' := by
    have same : q ≠ q' := by
      rintro rfl
      exact apart'.elim other fun unnoted => unnoted ⟨_, found, notes⟩
    simpa [Array.getElem?_setIfInBounds, same] using found'
  settled q' st settled := by
    have same : q' ≠ q := by
      rintro rfl
      rw [settlement?_of_unsettled found] at settled
      cases settled
    rw [settlement?_set _ _ (lt_size_of_getElem? found), if_neg same]
    exact settled

/-- Settling a promise for which lines are to be written queues no more than these. -/
theorem settle (st : Settlement Delivery Failure) (other : q ≠ p) (noted : l.Noted q) :
    ∃ extra, Apart p extra l (l.settle q st) ∧ ∀ k ∈ extra, k.isNote = true := by
  rcases settle_cases l q st with same | ⟨watchers, found, same⟩
  · rw [same]
    exact ⟨[], ⟨by simp, by simp, fun _ h => h, fun _ _ h _ => h, fun _ _ h => h⟩, by simp⟩
  · rw [same]
    obtain ⟨pr, found', notes⟩ := noted
    obtain rfl : (⟨none, watchers⟩ : Promise Delivery Failure Job) = pr :=
      Option.some.inj (found.symm.trans found')
    exact ⟨watchers, set other found notes (by simp) fun k mem =>
      Job.isApart_of_isNote (notes k mem), notes⟩

theorem watch {k : Job} (note : k.isNote = true) (other : q ≠ p) (noted : l.Noted q) :
    ∃ extra, Apart p extra l (l.watch q k) ∧ ∀ k ∈ extra, k.isNote = true := by
  rcases watch_cases l q k with ⟨watchers, found, same⟩ | ⟨_, _, same⟩ | ⟨_, same⟩
  · rw [same]
    obtain ⟨pr, found', notes⟩ := noted
    obtain rfl : (⟨none, watchers⟩ : Promise Delivery Failure Job) = pr :=
      Option.some.inj (found.symm.trans found')
    refine ⟨[], ?_, by simp⟩
    have notes' : ∀ j ∈ watchers ++ [k], j.isNote = true := by
      simpa [or_imp, forall_and] using ⟨notes, note⟩
    have kept : Apart p [] l ⟨l.promises.setIfInBounds q ⟨none, watchers ++ [k]⟩, l.ready ++ []⟩ :=
      set other found notes notes' (by simp)
    simpa using kept
  · rw [same]
    exact ⟨[k], soon (Job.isApart_of_isNote note), by simpa using note⟩
  · rw [same]
    exact ⟨[], ⟨by simp, by simp, fun _ h => h, fun _ _ h _ => h, fun _ _ h => h⟩, by simp⟩

theorem neverComes (k : Job) : Apart p [] l (l.create.watch l.nextId k) := by
  have same : l.create.watch l.nextId k = ⟨l.promises.push ⟨none, [k]⟩, l.ready⟩ := by
    simp only [Loop.watch, Loop.create, Loop.nextId, Array.getElem?_push_size, List.nil_append]
    congr 1
    refine Array.ext_getElem? fun i => ?_
    simp only [Array.getElem?_setIfInBounds, Array.getElem?_push, Array.size_push]
    grind
  rw [same]
  exact push _

end Apart

end Loop

/-! ## Spots -/

/-- Where a reading stands. -/
structure Spot where
  stream : Stream
  iteration : Iteration
  task : Task
  /-- the jobs of the reading that are queued, in order -/
  due : List Job
  /-- how the task ended, if it did -/
  verdict : Option (Settlement Delivery Failure)

namespace Spot

/-- The iteration is told something: who waits for it goes on. -/
def signal (s : Spot) (g : Signal) : Spot :=
  { s with
    iteration := { s.iteration with signals := s.iteration.signals ++ [g], awaited := none }
    due := s.due ++ (s.iteration.awaited.map fun _ => Job.resume 0).toList }

/-- The iteration is told several things, one after the other. -/
def signals (s : Spot) (told : List Signal) : Spot := told.foldl signal s

@[simp] theorem signals_nil (s : Spot) : s.signals [] = s := rfl

@[simp] theorem signals_cons (s : Spot) (g : Signal) (told : List Signal) :
    s.signals (g :: told) = (s.signal g).signals told := rfl

theorem signals_append (s : Spot) (first second : List Signal) :
    s.signals (first ++ second) = (s.signals first).signals second := by
  simp [signals]

/-- With nobody waiting, what an iteration is told is kept. -/
theorem signals_of_unawaited {s : Spot} (told : List Signal) (nobody : s.iteration.awaited = none) :
    s.signals told = { s with
      iteration := { s.iteration with signals := s.iteration.signals ++ told } } := by
  induction told generalizing s with
  | nil => simp
  | cons g told ih =>
      rw [signals_cons, ih rfl]
      simp [signal, nobody]

/-- Who waits for an iteration goes on once, and reads what else it is told. -/
theorem signals_of_awaited {s : Spot} {q : PromiseId} (g : Signal) (told : List Signal)
    (awaited : s.iteration.awaited = some q) :
    s.signals (g :: told) = { s with
      iteration := { s.iteration with
        signals := s.iteration.signals ++ g :: told, awaited := none }
      due := s.due ++ [.resume 0] } := by
  rw [signals_cons, signals_of_unawaited told rfl]
  simp [signal, awaited]

end Spot

/-- The promises and the queue of a loop are as a spot says: `o` is the outcome of the cursor
and `p` is the promise of the task that reads. -/
structure Calm (o p : PromiseId) (s : Spot) (tasks : Array Task) (l : EngineLoop) : Prop where
  own : l.promises[p]? = some ⟨s.verdict, []⟩
  due : l.ready.filter (fun k => !k.isApart) = s.due
  outcome : l.Noted o
  /-- the other tasks give the connection back -/
  others : ∀ t task, tasks[t + 1]? = some task → task.work = .release ∧
    task.isCancelRequested = false ∧ task.promise ≠ p ∧ l.Noted task.promise
  waits : ∀ q, s.iteration.awaited = some q →
    s.task.waitingFor = some q ∧ l.promises[q]? = some ⟨none, [.resume 0]⟩
  woken : s.iteration.awaited = none → ∀ q, s.task.waitingFor = some q →
    l.settlement? q = some (.value .nothing)

/-- An engine that was made like another one stands at a spot. -/
structure At (e₀ : Engine) (o p : PromiseId) (s : Spot) (e : Engine) : Prop
    extends Calm o p s e.tasks e.loop where
  hasStream : e.hasStream = true
  query : e.query = e₀.query
  server : e.server = e₀.server
  cap : e.cap = e₀.cap
  owner : e.owner = e₀.owner
  run : e.run = e₀.run
  stream : e.stream = s.stream
  cursor : ∃ cursor, e.cursors[0]? = some cursor ∧ cursor.isConsumed = false ∧
    cursor.outcome = o
  iteration : e.iterations[0]? = some s.iteration
  task : e.tasks[0]? = some s.task

namespace Calm

variable {o p q : PromiseId} {s : Spot} {tasks : Array Task} {l l' : EngineLoop}
  {extra ready : List Job} {k : Job}

/-- What happens apart from the reading keeps the spot. -/
theorem of_apart (calm : Calm o p s tasks l) (apart : Loop.Apart p extra l l') :
    Calm o p s tasks l' where
  own := apart.kept p _ calm.own (.inl rfl)
  due := by
    have none : extra.filter (fun k => !k.isApart) = [] := by
      simpa using apart.apart
    rw [apart.ready, List.filter_append, none, List.append_nil]
    exact calm.due
  outcome := apart.noted o calm.outcome
  others t task found := by
    obtain ⟨work, going, other, noted⟩ := calm.others t task found
    exact ⟨work, going, other, apart.noted _ noted⟩
  waits q awaited := by
    obtain ⟨waiting, found⟩ := calm.waits q awaited
    refine ⟨waiting, apart.kept q _ found (.inr ?_)⟩
    rintro ⟨pr, same, notes⟩
    rw [found, Option.some.injEq] at same
    simp [← same, Job.isNote] at notes
  woken nobody q waiting := apart.settled q _ (calm.woken nobody q waiting)

theorem soon (calm : Calm o p s tasks l) (mine : k.isApart = false) :
    Calm o p { s with due := s.due ++ [k] } tasks (l.soon k) :=
  { calm with due := by simp [Loop.soon, List.filter_append, calm.due, mine] }

theorem begin {due : List Job} (calm : Calm o p s tasks l) (next : l.ready = k :: ready)
    (mine : k.isApart = false) (first : s.due = k :: due) :
    Calm o p { s with due } tasks { l with ready } :=
  { calm with
    due := by
      have due := calm.due
      rw [next, List.filter_cons_of_pos (by simpa using mine), first] at due
      exact List.cons.inj due |>.2 }

theorem skip (calm : Calm o p s tasks l) (next : l.ready = k :: ready)
    (apart : k.isApart = true) : Calm o p s tasks { l with ready } :=
  { calm with
    due := by
      have due := calm.due
      rwa [next, List.filter_cons_of_neg (by simpa using apart)] at due }

/-- The iteration is told something that nobody waits for. -/
theorem keep (calm : Calm o p s tasks l) (g : Signal) (nobody : s.iteration.awaited = none) :
    Calm o p (s.signal g) tasks l :=
  { calm with
    due := by simpa [Spot.signal, nobody] using calm.due
    waits := fun q awaited => by cases awaited
    woken := fun _ => calm.woken nobody }

/-- The iteration is told something, and the task that waits for it is to go on. -/
theorem wake (calm : Calm o p s tasks l) (g : Signal) (awaited : s.iteration.awaited = some q) :
    Calm o p (s.signal g) tasks (l.settle q (.value .nothing)) := by
  obtain ⟨waiting, found⟩ := calm.waits q awaited
  have settled : l.settle q (.value .nothing)
      = ⟨l.promises.setIfInBounds q ⟨some (.value .nothing), []⟩, l.ready ++ [.resume 0]⟩ := by
    simp [Loop.settle, found]
  have inside := Loop.lt_size_of_getElem? found
  have noted : ∀ q', l.Noted q' → q' ≠ q := by
    rintro q' ⟨pr, same, notes⟩ rfl
    rw [found, Option.some.injEq] at same
    simp [← same, Job.isNote] at notes
  have still : ∀ q', l.Noted q' → (l.settle q (.value .nothing)).Noted q' := by
    intro q' noted'
    have other := noted q' noted'
    obtain ⟨pr, same, notes⟩ := noted'
    refine ⟨pr, ?_, notes⟩
    simpa [settled, Array.getElem?_setIfInBounds, other.symm] using same
  refine ⟨?_, ?_, still o calm.outcome, fun t task present => ?_, fun q' awaited' => ?_,
    fun _ q' waiting' => ?_⟩
  · have other : q ≠ p := (noted p ⟨_, calm.own, by simp⟩).symm
    rw [settled, Array.getElem?_setIfInBounds, if_neg other]
    exact calm.own
  · have mine : (Job.resume 0).isApart = false := rfl
    simp [settled, List.filter_append, calm.due, Spot.signal, awaited, mine]
  · obtain ⟨work, going, other, noted'⟩ := calm.others t task present
    exact ⟨work, going, other, still _ noted'⟩
  · cases awaited'
  · obtain rfl : q = q' := Option.some.inj (waiting.symm.trans waiting')
    rw [settled, Loop.settlement?_set _ _ inside, if_pos rfl]

theorem await (calm : Calm o p s tasks l) : Calm o p { s with
      iteration := { s.iteration with awaited := some l.nextId }
      task := { s.task with waitingFor := some l.nextId } }
      tasks (l.create.watch l.nextId (.resume 0)) := by
  have kept := calm.of_apart (.neverComes (.resume 0))
  refine { kept with waits := fun q awaited => ?_, woken := fun nobody => by cases nobody }
  obtain rfl := Option.some.inj awaited
  refine ⟨rfl, ?_⟩
  simp [Loop.watch, Loop.create, Loop.nextId]

theorem finish (calm : Calm o p s tasks l) (st : Settlement Delivery Failure)
    (other : o ≠ p) (going : s.verdict = none) (idle : s.task.waitingFor = none) :
    Calm o p { s with verdict := some st } tasks (l.settle p st) := by
  have found := calm.own
  rw [going] at found
  have settled : l.settle p st = ⟨l.promises.setIfInBounds p ⟨some st, []⟩, l.ready⟩ := by
    simp [Loop.settle, found]
  have still : ∀ q, q ≠ p → l.Noted q → (l.settle p st).Noted q := by
    rintro q other ⟨pr, same, notes⟩
    exact ⟨pr, by simpa [settled, Array.getElem?_setIfInBounds, other.symm] using same, notes⟩
  refine ⟨?_, ?_, still o other calm.outcome, fun t task present => ?_, fun q awaited => ?_,
    fun _ q waiting => ?_⟩
  · simp [settled, Loop.lt_size_of_getElem? found]
  · rw [settled]
    exact calm.due
  · obtain ⟨work, going, other, noted⟩ := calm.others t task present
    exact ⟨work, going, other, still _ other noted⟩
  · rw [(calm.waits q awaited).1] at idle
    cases idle
  · rw [idle] at waiting
    cases waiting

theorem spawn (calm : Calm o p s tasks l) (others : 0 < tasks.size) :
    Calm o p s (tasks.push ⟨l.nextId, .release, none, false, none, []⟩)
      ((l.create.soon (.start tasks.size)).watch l.nextId (.noteRelease l.nextId)) := by
  have mine : l.nextId ≠ p := (Nat.ne_of_lt (Loop.lt_size_of_getElem? calm.own)).symm
  have made : (l.create.soon (.start tasks.size)).Noted l.nextId :=
    ⟨⟨none, []⟩, by simp [Loop.create, Loop.soon, Loop.nextId], by simp⟩
  have queued : Loop.Apart p _ l (l.create.soon (.start tasks.size)) :=
    Loop.Apart.create.trans (.soon (by simpa [Job.isApart] using Nat.ne_of_gt others))
  obtain ⟨extra, watched, -⟩ :=
    Loop.Apart.watch (k := .noteRelease l.nextId) rfl mine made
  have kept := calm.of_apart (queued.trans watched)
  refine { kept with others := fun t task found => ?_ }
  rw [Array.getElem?_push] at found
  split at found
  · obtain rfl := Option.some.inj found
    exact ⟨rfl, rfl, mine, watched.noted _ made⟩
  · exact kept.others t task found

end Calm

end QueryStream
