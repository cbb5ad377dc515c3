/-
  Proofs/Backpressure/Requests.lean --- the requests that batches lead to.

  A batch that an iteration asks for is passed on to the stream, which requests it at once, or
  joins it to the demand that is pending and requests that later.  On its way it may be refused or
  lost, but nothing is added to it: what is on its way, pending, about to be written and written
  comes, taken together, to no more than the batches that were asked for (`Allotted`).  That is so
  whether batches are counted by their records or each as one (`Gauge`).
-/
import Mathlib.Algebra.GroupWithZero.Nat
import QueryStream.Proofs.Backpressure.Batches
import QueryStream.Proofs.Stream.Poised

set_option autoImplicit false

namespace QueryStream

/-! ## Counting demand -/

/-- A way to count demand that is made up of batches of so many records. -/
structure Gauge (f : Nat) where
  /-- what so many records count for -/
  of : Nat → Nat
  /-- what a batch counts for -/
  batch : Nat
  nothing : of 0 = 0
  single : of f ≤ batch
  join : ∀ n, of (min (n + f) maxDemand) ≤ of n + batch

/-- Records are counted. -/
def Gauge.records (f : Nat) : Gauge f := ⟨id, f, rfl, Nat.le_refl f, fun _ => Nat.min_le_left _ _⟩

/-- Whatever is requested at a time counts as one. -/
def Gauge.requests (f : Nat) : Gauge f :=
  ⟨fun n => min n 1, 1, rfl, Nat.min_le_right _ _, fun _ =>
    Nat.le_trans (Nat.min_le_right _ _) (Nat.le_add_left 1 _)⟩

/-- The number of records that a move requests. -/
def Move.pull? : Move → Option Int
  | .answered (.write (.pull n _)) _ => some n
  | _ => none

/-- The numbers of records that were requested, latest first. -/
def pulls (h : List Move) : List Int := h.filterMap Move.pull?

/-- What a request for so many records counts for. -/
def Gauge.pull {f : Nat} (g : Gauge f) (n : Int) : Nat := g.of n.toNat

/-- What was requested counts for. -/
def Gauge.pulled {f : Nat} (g : Gauge f) (h : List Move) : Nat := ((pulls h).map g.pull).sum

/-- What the demand counts for that an instruction passes on. -/
def Gauge.load {f : Nat} (g : Gauge f) : Instruction → Nat
  | .cursor _ (.request _) => g.batch
  | .channel (.request _) => g.batch
  | .stream (.request _) => g.batch
  | .ask (.write (.pull n _)) => g.pull n
  | _ => 0

/-- What all of the demand on an agenda counts for. -/
def Gauge.loads {f : Nat} (g : Gauge f) (agenda : List Instruction) : Nat := (agenda.map g.load).sum

/-- The demand that an instruction passes on is a batch, and what it requests is a number of
records. -/
def Instruction.Sized (f : Nat) : Instruction → Prop
  | .cursor _ (.request n) => n = f
  | .channel (.request n) => n = f
  | .stream (.request n) => n = f
  | .ask (.write (.pull n _)) => 1 ≤ n
  | _ => True

/-- An instruction passes nothing on, however that is counted. -/
def Instruction.Unloaded (f : Nat) (i : Instruction) : Prop :=
  i.Sized f ∧ ∀ g : Gauge f, g.load i = 0

/-- What is requested and what will be comes to no more than the batches that were asked for. -/
structure Allotted (k : IterationId) (f : Nat) (h : List Move) (s : Situation) : Prop where
  written : ∀ n ∈ pulls h, 1 ≤ n
  sized : ∀ i ∈ s.agenda, i.Sized f
  share : ∃ p, s.engine.stream.pending = .records p ∧ ∀ g : Gauge f,
    g.pulled h + g.loads s.agenda + g.of p ≤ g.batch * batchesAsked k h

section Requests

variable {c : Conduct} {h : List Move} {s s' : Situation} {m : Move} {i j : Instruction}
  {k : IterationId} {f : Nat} {rest : List Instruction} {e : Engine}

namespace Gauge

variable (g : Gauge f)

theorem loads_append (first second : List Instruction) :
    g.loads (first ++ second) = g.loads first + g.loads second := by
  simp [loads]

theorem loads_cons (i : Instruction) (rest : List Instruction) :
    g.loads (i :: rest) = g.load i + g.loads rest := by
  simp [loads]

theorem loads_eq_zero {agenda : List Instruction} (idle : ∀ i ∈ agenda, g.load i = 0) :
    g.loads agenda = 0 := by
  induction agenda with
  | nil => rfl
  | cons i rest ih =>
      have none := ih fun j mem => idle j (List.mem_cons_of_mem _ mem)
      rw [loads_cons, idle i (List.mem_cons_self ..), none]

theorem loads_onto (r : Reply) (rest : List Instruction) :
    g.loads (r.onto rest) ≤ g.loads r.next + g.loads rest := by
  obtain ⟨front, tail, after, leaves, brought⟩ := r.exists_onto rest
  obtain ⟨before, rfl⟩ := leaves.suffix
  rw [after, loads_append, loads_append]
  rcases brought with rfl | ⟨guard, th, rfl, -⟩
  · omega
  · simp only [loads_cons, load]
    simp only [loads, List.map_nil, List.sum_nil]
    omega

theorem pulled_cons (m : Move) (h : List Move) :
    g.pulled (m :: h) = (m.pull?.elim 0 g.pull) + g.pulled h := by
  simp only [pulled, pulls, List.filterMap_cons]
  cases m.pull? <;> simp

end Gauge

theorem Instruction.Unloaded.all {next : List Instruction} (idle : ∀ j ∈ next, j.Unloaded f) :
    (∀ j ∈ next, j.Sized f) ∧ ∀ g : Gauge f, g.loads next = 0 :=
  ⟨fun j mem => (idle j mem).1, fun g => g.loads_eq_zero fun j mem => (idle j mem).2 g⟩

theorem Reply.forall_onto {p : Instruction → Prop} {r : Reply} (next : ∀ j ∈ r.next, p j)
    (caught : ∀ guard th, p (.caught guard th)) (behind : ∀ j ∈ rest, p j) :
    ∀ j ∈ r.onto rest, p j := by
  intro j mem
  rcases Reply.mem_onto mem with mem | mem | ⟨guard, th, rfl⟩
  · exact behind j mem
  · exact next j mem
  · exact caught guard th

/-! ## The stream -/

/-- A positive number within the limit asks for as many records, and never for all. -/
theorem Demand.eq_records_of_ofInt? {d : Demand} (positive : 0 < f) (finite : f < maxDemand)
    (asked : Demand.ofInt? f = some d) : d = .records f := by
  have same := Demand.toInt_ofInt? (n := (f : Int)) (by omega) (by omega)
  rw [asked, Option.map_some] at same
  have same : d.toInt = f := Option.some.inj same
  cases d with
  | records q => exact congrArg _ (Int.natCast_inj.1 same)
  | all =>
      simp only [Demand.toInt, unlimited] at same
      omega

theorem Stream.Steps.share {x : Stream.Surroundings} {st st' : Stream} {a : Stream.Action}
    {effects : List Stream.Effect} {p : Nat} (steps : Stream.Steps x st a st' effects)
    (pending : st.pending = .records p) (sized : (Instruction.stream a).Sized f) (positive : 0 < f)
    (finite : f < maxDemand) : ∃ p', st'.pending = .records p' ∧
      (∀ j ∈ effects.map Instruction.ofStream, j.Sized f) ∧ ∀ g : Gauge f,
        g.loads (effects.map .ofStream) + g.of p' ≤ g.load (.stream a) + g.of p := by
  have demand : ∀ {n : Int} {d : Demand}, n = f → Demand.ofInt? n = some d → d = .records f := by
    rintro n d rfl asked
    exact Demand.eq_records_of_ofInt? positive finite asked
  -- what neither pulls nor adds to what is pending leaves the share as it was
  have calm : ∀ {st' : Stream} {effects : List Effect}, st'.pending = st.pending →
      (∀ effect ∈ effects, (Instruction.ofStream effect).Unloaded f) →
      ∃ p', st'.pending = .records p' ∧
        (∀ j ∈ effects.map Instruction.ofStream, j.Sized f) ∧ ∀ g : Gauge f,
          g.loads (effects.map .ofStream) + g.of p' ≤ g.load (.stream a) + g.of p := by
    intro st' effects same quiet
    obtain ⟨sized, loads⟩ := Instruction.Unloaded.all (List.forall_mem_map.2 quiet)
    refine ⟨p, same.trans pending, sized, fun g => ?_⟩
    rw [loads g]
    omega
  cases steps with
  | pull present asked phase =>
      obtain rfl := demand sized asked
      refine ⟨p, pending, ?_, fun g => ?_⟩
      · simp [pullEffects, Stream.debug, Instruction.ofStream, Instruction.Sized, Demand.toInt]
        omega
      · have single := g.single
        simp [pullEffects, Stream.debug, Instruction.ofStream, Gauge.loads, Gauge.load, Gauge.pull,
          Demand.toInt]
        omega
  | join present asked phase =>
      obtain rfl := demand sized asked
      refine ⟨min (p + f) maxDemand, by simp [pending, Demand.join], by simp, fun g => ?_⟩
      have join := g.join p
      simp only [List.map_nil, Gauge.loads, List.sum_nil, Gauge.load]
      omega
  | flush line phase positive =>
      refine ⟨0, rfl, ?_, fun g => ?_⟩
      · rw [pending] at positive ⊢
        simp only [Demand.isPositive, decide_eq_true_eq] at positive
        simp [pullEffects, Stream.debug, Instruction.ofStream, Instruction.Sized, Demand.toInt]
        omega
      · rw [pending]
        simp [pullEffects, Stream.debug, Instruction.ofStream, Gauge.loads, Gauge.load, Gauge.pull,
          Demand.toInt, g.nothing]
  | announce => exact calm rfl (st.forall_announcement fun _ => ⟨trivial, fun _ => rfl⟩)
  | conclude | concludeRefused | concludeFailure =>
      exact calm rfl (st.forall_endEffects (fun _ => ⟨trivial, fun _ => rfl⟩)
        fun _ => ⟨trivial, fun _ => rfl⟩)
  | discard | discardAgain =>
      refine calm rfl ?_
      simp only [discardEffects, List.cons_append, List.nil_append, List.forall_mem_cons]
      exact ⟨⟨trivial, fun g => rfl⟩, ⟨trivial, fun g => rfl⟩, ⟨trivial, fun g => rfl⟩, by simp⟩
  | _ =>
      exact calm rfl (by
        simp [Instruction.ofStream, Instruction.Unloaded, Instruction.Sized, Gauge.load])

/-! ## One move -/

theorem Instruction.unloaded (demand : i.isDemand = false) (write : i.isWrite = false) :
    i.Unloaded f := by
  cases i with
  | stream a => cases a <;> first | exact ⟨trivial, fun _ => rfl⟩ | cases demand
  | cursor id a => cases a <;> first | exact ⟨trivial, fun _ => rfl⟩ | cases demand
  | channel r => cases r <;> first | exact ⟨trivial, fun _ => rfl⟩ | cases demand
  | ask a => cases a <;> first | exact ⟨trivial, fun _ => rfl⟩ | cases write
  | _ => exact ⟨trivial, fun _ => rfl⟩

theorem Engine.Leads.unloaded (leads : e.Leads i j) (stream : i.isStream = false)
    (pipe : i.isPipe = false) (unfetched : ∀ n t, i ≠ .iteration n t .fetch) :
    j.Unloaded f := by
  cases leads with
  | stream => cases stream
  | cursor | channel | outside | attach | opened => cases pipe
  | @iteration n t a it effect j found yields among =>
      cases a with
      | fetch => exact absurd rfl (unfetched n t)
      | advance =>
          simp only [Iteration.step] at yields
          split at yields <;> obtain rfl := List.mem_singleton.1 yields <;>
            cases puts_of_mem among <;> exact ⟨trivial, fun _ => rfl⟩
      | close =>
          simp only [Iteration.step] at yields
          split at yields
          · simp only [Iteration.leaveEffects, List.cons_append, List.nil_append, List.mem_cons,
              List.not_mem_nil, or_false] at yields
            rcases yields with rfl | rfl | rfl <;> cases puts_of_mem among <;>
              exact ⟨trivial, fun _ => rfl⟩
          · obtain rfl := List.mem_singleton.1 yields
            cases puts_of_mem among
            exact ⟨trivial, fun _ => rfl⟩
      | requested =>
          obtain rfl := List.mem_singleton.1 yields
          cases puts_of_mem among
          exact ⟨trivial, fun _ => rfl⟩
      | take =>
          simp only [Iteration.step] at yields
          split at yields <;> obtain rfl := List.mem_singleton.1 yields <;>
            cases puts_of_mem among <;> exact ⟨trivial, fun _ => rfl⟩
  | @left n it effect j th found yields among =>
      unfold Iteration.leave at yields
      split at yields
      · cases yields
      · simp only [Iteration.leaveEffects, List.mem_cons, List.not_mem_nil, or_false] at yields
        rcases yields with rfl | rfl <;> cases puts_of_mem among <;> exact ⟨trivial, fun _ => rfl⟩
  | hand p receives among => cases hands_of_mem among <;> exact ⟨trivial, fun _ => rfl⟩
  | body among => cases setsOut_of_mem among <;> exact ⟨trivial, fun _ => rfl⟩
  | exhausted among =>
      obtain ⟨d, rfl⟩ := finish_of_mem_exhausted among
      exact ⟨trivial, fun _ => rfl⟩
  | _ => exact ⟨trivial, fun _ => rfl⟩

theorem Conduct.Permits.unwritten (permitted : c.Permits h m) (mem : j ∈ m.outside) :
    j.isWrite = false := by
  rcases permitted.outside mem with calls | ⟨t, rfl⟩ | ⟨t, rfl⟩
  · have call := calls.1
    cases j with
    | ask a => cases a <;> first | rfl | cases call
    | _ => rfl
  · rfl
  · rfl

/-- Whatever a cursor does, it passes on what it is asked for and nothing else. -/
theorem Cursor.Steps.share {done : Bool} {cursor next : Cursor} {a : Cursor.Action}
    {effects : List Cursor.Effect} (steps : Cursor.Steps done cursor a next effects)
    (id : CursorId) (sized : (Instruction.cursor id a).Sized f) (finite : f < maxDemand) :
    (∀ j ∈ effects.map (Instruction.ofCursor id next), j.Sized f) ∧
      ∀ g : Gauge f, g.loads (effects.map (.ofCursor id next)) ≤ g.load (.cursor id a) := by
  have calm : ∀ {next : Cursor} {effects : List Effect},
      (∀ effect ∈ effects, (Instruction.ofCursor id next effect).Unloaded f) →
      (∀ j ∈ effects.map (Instruction.ofCursor id next), j.Sized f) ∧
        ∀ g : Gauge f, g.loads (effects.map (.ofCursor id next)) ≤ g.load (.cursor id a) := by
    intro next effects quiet
    obtain ⟨sized, loads⟩ := Instruction.Unloaded.all (List.forall_mem_map.2 quiet)
    refine ⟨sized, fun g => ?_⟩
    rw [loads g]
    exact Nat.zero_le _
  cases steps with
  | request unconsumed =>
      obtain rfl : _ = (f : Int) := sized
      have uncapped : capped (f : Int) = f := by
        unfold capped
        omega
      rw [uncapped]
      refine ⟨by simp [Instruction.ofCursor, Instruction.Sized], fun g => ?_⟩
      simp [Instruction.ofCursor, Gauge.loads, Gauge.load]
  | summary | discardAll =>
      refine calm ?_
      unfold stage
      split <;>
        simp [Instruction.ofCursor, Instruction.Unloaded, Instruction.Sized, Gauge.load, line]
  | _ =>
      exact calm (by
        simp [Instruction.ofCursor, Instruction.Unloaded, Instruction.Sized, Gauge.load])

/-- What is passed on after a move adds up to no more than before, and one batch if it was asked
for. -/
theorem Allotted.next (allotted : Allotted k f h s) (written : ∀ n ∈ m.pull?, 1 ≤ n)
    (sized : ∀ i ∈ s'.agenda, i.Sized f)
    (share : ∀ p, s.engine.stream.pending = .records p →
      ∃ p', s'.engine.stream.pending = .records p' ∧ ∀ g : Gauge f,
        m.pull?.elim 0 g.pull + g.loads s'.agenda + g.of p' ≤
          g.loads s.agenda + g.of p + if m.asksBatch k then g.batch else 0) :
    Allotted k f (m :: h) s' := by
  obtain ⟨p, pending, allowed⟩ := allotted.share
  obtain ⟨p', pending', adds⟩ := share p pending
  refine ⟨fun n mem => ?_, sized, p', pending', fun g => ?_⟩
  · simp only [pulls, List.filterMap_cons] at mem
    cases asked : m.pull? with
    | none =>
        rw [asked] at mem
        exact allotted.written n mem
    | some q =>
        rw [asked] at mem
        rcases List.mem_cons.1 mem with rfl | mem
        · exact written n asked
        · exact allotted.written n mem
  · have before := allowed g
    have now := adds g
    rw [g.pulled_cons, batchesAsked_cons, Nat.mul_add]
    have counts : (g.batch * if m.asksBatch k = true then 1 else 0)
        = if m.asksBatch k = true then g.batch else 0 := by
      split <;> simp
    omega

/-- What is carried out or answered and changes nothing about the stream passes on what it was
to. -/
theorem Allotted.onto {r : Reply} (allotted : Allotted k f h ⟨e, i :: rest⟩) {e' : Engine}
    (stream : e'.stream = e.stream) (written : ∀ n ∈ m.pull?, 1 ≤ n)
    (sized : ∀ j ∈ r.next, j.Sized f)
    (loads : ∀ g : Gauge f, m.pull?.elim 0 g.pull + g.loads r.next ≤
      g.load i + if m.asksBatch k then g.batch else 0) :
    Allotted k f (m :: h) ⟨e', r.onto rest⟩ := by
  refine allotted.next written (Reply.forall_onto sized (fun _ _ => trivial)
    fun j mem => allotted.sized j (List.mem_cons_of_mem _ mem)) fun p pending => ?_
  refine ⟨p, (congrArg Stream.pending stream).trans pending, fun g => ?_⟩
  have brought := loads g
  have onto := g.loads_onto r rest
  rw [g.loads_cons]
  show _ + g.loads (r.onto rest) + _ ≤ _
  omega

/-- What leaves the stream alone and brings onto the agenda what passes nothing on. -/
theorem Allotted.idle {e' : Engine} {r : Reply} (allotted : Allotted k f h ⟨e, i :: rest⟩)
    (stream : e'.stream = e.stream) (none : m.pull? = none)
    (idle : ∀ j ∈ r.next, j.Unloaded f) : Allotted k f (m :: h) ⟨e', r.onto rest⟩ := by
  obtain ⟨sized, loads⟩ := Instruction.Unloaded.all idle
  refine allotted.onto stream (by simp [none]) sized fun g => ?_
  rw [none, loads g]
  exact Nat.zero_le _

theorem Engine.unloaded_fetch {n : IterationId} {t : TaskId}
    (sole : ∀ j, (Move.carried (.iteration n t .fetch)
      (e.exec (.iteration n t .fetch)).2).asksBatch j = true → j = k)
    (size : ∀ it, e.iterations[k]? = some it → it.fetchSize.value = f) :
    (∀ j ∈ (e.exec (.iteration n t .fetch)).2.next, j.Sized f) ∧ ∀ g : Gauge f,
      g.loads (e.exec (.iteration n t .fetch)).2.next ≤ if (Move.carried (.iteration n t .fetch)
        (e.exec (.iteration n t .fetch)).2).asksBatch k then g.batch else 0 := by
  cases found : e.iterations[n]? with
  | none =>
      rw [exec_iteration_of_none _ found]
      exact ⟨by simp [Reply.next], fun g => Nat.zero_le _⟩
  | some it =>
      rw [exec_iteration _ found] at sole ⊢
      by_cases idle : it.signals.isEmpty && it.outstanding == 0
      · have asks : n = k := by
          refine sole n ?_
          simp [Iteration.step, idle, Move.asksBatch, Instruction.ofIteration,
            Instruction.isDemand, Reply.next]
        subst asks
        have size := size it found
        simp [Iteration.step, idle, Move.asksBatch, Instruction.ofIteration,
          Instruction.isDemand, Reply.next, Instruction.Sized, Gauge.loads, Gauge.load, size]
      · simp [Iteration.step, idle, Instruction.ofIteration, Reply.next, Instruction.Sized,
          Gauge.loads, Gauge.load]

/-- A step of the stream passes on what was requested of it, and what was pending. -/
theorem Allotted.stream {a : Stream.Action} {rest : List Instruction} {after : Stream}
    {effects : List Stream.Effect} (allotted : Allotted k f h ⟨e, .stream a :: rest⟩)
    (steps : Stream.Steps e.surroundings e.stream a after effects) (positive : 0 < f)
    (finite : f < maxDemand) :
    Allotted k f (.carried (.stream a) (.go (effects.map .ofStream)) :: h)
      ⟨{ e with stream := after }, effects.map .ofStream ++ rest⟩ := by
  have asked : (Instruction.stream a).Sized f := allotted.sized _ (List.mem_cons_self ..)
  refine allotted.next (by simp [Move.pull?]) ?_ fun p pending => ?_
  · intro j mem
    obtain ⟨p, pending, -⟩ := allotted.share
    obtain ⟨p', -, sized, -⟩ := steps.share pending asked positive finite
    rcases List.mem_append.1 mem with mem | mem
    · exact sized j mem
    · exact allotted.sized j (List.mem_cons_of_mem _ mem)
  · obtain ⟨p', pending', -, adds⟩ := steps.share pending asked positive finite
    refine ⟨p', pending', fun g => ?_⟩
    have now := adds g
    simp only [Move.pull?, Option.elim_none, g.loads_append, g.loads_cons]
    omega

theorem Allotted.answered {a : Ask} {r : Reply} {rest : List Instruction}
    (allotted : Allotted k f h ⟨e, .ask a :: rest⟩) (unloaded : ∀ j ∈ r.next, j.Unloaded f) :
    Allotted k f (.answered a r :: h) ⟨e, r.onto rest⟩ := by
  obtain ⟨sized, loads⟩ := Instruction.Unloaded.all unloaded
  have asked : (Instruction.ask a).Sized f := allotted.sized _ (List.mem_cons_self ..)
  refine allotted.onto rfl ?_ sized fun g => ?_
  · cases a with
    | write message => cases message <;> simp_all [Move.pull?, Instruction.Sized]
    | _ => simp [Move.pull?]
  · rw [loads g]
    cases a with
    | write message => cases message <;> simp [Move.pull?, Gauge.load]
    | _ => simp [Move.pull?]

/-- Every move keeps what is requested within the batches that were asked for. -/
theorem Allotted.step (allotted : Allotted k f h s) (step : Step s m s')
    (permitted : c.Permits h m) (undemanding : ∀ i ∈ m.outside, i.isDemand = false)
    (sole : ∀ j, m.asksBatch j = true → j = k)
    (size : ∀ it, s.engine.iterations[k]? = some it → it.fetchSize.value = f) (positive : 0 < f)
    (finite : f < maxDemand) : Allotted k f (m :: h) s' := by
  have outside : ∀ j ∈ m.outside, j.Unloaded f := fun j mem =>
    j.unloaded (undemanding j mem) (permitted.unwritten mem)
  cases step.turn permitted with
  | stream steps => exact allotted.stream steps positive finite
  | @cursor e id a rest cursor next effects found steps =>
      obtain ⟨sized, loads⟩ := steps.share id (allotted.sized _ (List.mem_cons_self ..)) finite
      refine allotted.onto (r := .go _) rfl (by simp [Move.pull?]) sized fun g => ?_
      have passed := loads g
      simp only [Move.pull?, Option.elim_none, Reply.next]
      omega
  | refused cause sort error => exact allotted.idle rfl rfl (by simp [Reply.next])
  | absent a found => exact allotted.idle (r := .go []) rfl rfl (by simp [Reply.next])
  | channel r own =>
      -- the request is on its way all the same, through the stream instead of the channel
      have sized := allotted.sized _ (List.mem_cons_self ..)
      refine allotted.onto (r := .go [_]) rfl (by simp [Move.pull?]) ?_ fun g => ?_
      · cases r with
        | request n =>
            simpa [Reply.next, Instruction.ofChannelRequest, Instruction.Sized] using sized
        | _ => simp [Reply.next, Instruction.ofChannelRequest, Instruction.Sized]
      · cases r <;> simp [Move.pull?, Reply.next, Instruction.ofChannelRequest, Gauge.loads,
          Gauge.load]
  | outside r own =>
      refine allotted.idle (r := .go [_]) rfl rfl fun j mem => ?_
      obtain rfl := List.mem_singleton.1 mem
      exact ⟨trivial, fun _ => rfl⟩
  | notify id summary failed =>
      refine allotted.idle (r := .go [_]) rfl rfl fun j mem => ?_
      obtain rfl := List.mem_singleton.1 mem
      exact ⟨trivial, fun _ => rfl⟩
  | @openCursor e plan rest =>
      refine allotted.idle (e.keeps_exec (i := .openCursor plan) rfl).stream rfl fun j mem => ?_
      cases Engine.leads_of_openCursor mem with
      | line | attach | opened => exact ⟨trivial, fun _ => rfl⟩
      | hand p receives => cases receives
  | @other e i rest stream pipe own next =>
      by_cases fetch : ∃ n t, i = .iteration n t .fetch
      · obtain ⟨n, t, rfl⟩ := fetch
        obtain ⟨sized, loads⟩ := Engine.unloaded_fetch sole size
        refine allotted.onto (e.keeps_exec stream).stream (by simp [Move.pull?]) sized fun g => ?_
        have fetched := loads g
        simp only [Move.pull?, Option.elim_none]
        omega
      · exact allotted.idle (e.keeps_exec stream).stream rfl fun j mem =>
          (Engine.leads_exec mem).unloaded stream pipe fun n t same => fetch ⟨n, t, same⟩
  | answered answers => exact allotted.answered outside
  | @began e j loop next =>
      have begins : ∀ i ∈ ({ e with loop }.runJob j).2, i.Unloaded f := by
        intro i mem
        cases Engine.leadsBy_runJob mem <;> exact ⟨trivial, fun _ => rfl⟩
      obtain ⟨sized, loads⟩ := Instruction.Unloaded.all begins
      refine allotted.next (by simp [Move.pull?]) sized fun p pending => ⟨p, ?_, fun g => ?_⟩
      · rw [← pending]
        exact congrArg Stream.pending (Engine.began_runJob _ j).stream
      · simp only [Move.pull?, Option.elim_none, loads g]
        omega
  | @called e next made =>
      obtain ⟨sized, loads⟩ : (∀ j ∈ next, j.Sized f) ∧ ∀ g : Gauge f, g.loads next = 0 :=
        Instruction.Unloaded.all outside
      refine allotted.next (by simp [Move.pull?]) sized fun p pending => ⟨p, pending, fun g => ?_⟩
      simp only [Move.pull?, Option.elim_none, loads g]
      omega

end Requests

end QueryStream
