/-
  Proofs/Handled.lean --- promises made of other promises, along every course of a desk.

  A course is any sequence of steps at a desk, with the loop turning any number of times
  between them.  A `History` notes, beside the desk, which links were made and run so far and
  what steps have settled.  Settled is settled; the answer to a step says whether it was this
  that settled a promise; and a handler is called at most once, on a turn after its source was
  settled, and in the order in which the handlers of that source were given
  (`Desk.handlesOnce`).

  A handler is any function.  As it is called at most once, a handler that keeps a state, or
  that depends on anything outside the desk, is the function that its one call amounts to.

  A promise that was made of another may also be settled by a step, before its link is run.
  Then it stays as it is, and its handler is not called (`History.Ends.stepped`).  So it is not
  so that every such promise comes to what its handler answers, unless it is cancelled
  (`Desk.not_endsByHandler`).
-/
import QueryStream.Proofs.Handled.Links

set_option autoImplicit false

namespace QueryStream

/-- What happens at a desk. -/
inductive DeskMove where
  | take (step : DeskStep)
  /-- the loop runs what is first in the queue -/
  | turn

/-- Which promise a step is to settle, by its name, and how. -/
def DeskStep.settles? : DeskStep → Option (String × Outcome)
  | .complete name p => some (name, .value p)
  | .fail name f => some (name, .failure f)
  | .cancel name => some (name, .cancelled)
  | _ => none

namespace Desk

/-- The loop turns once. -/
def turn (d : Desk) : Desk := { d with chain := d.chain.step }

/-- The link that a step makes. -/
def makes? (d : Desk) : DeskStep → Option Link
  | .handle source _ handler =>
      (d.find? source).map fun p => ⟨p, d.chain.loop.nextId, handler⟩
  | _ => none

/-- What a step settles: a promise that it creates settled, or the promise that it is to settle
if the answer is that it did. -/
def gives? (d : Desk) : DeskStep → Option (PromiseId × Outcome)
  | .createWith _ p => some (d.chain.loop.nextId, .value p)
  | step =>
      match step.settles?, (d.take step).2 with
      | some (name, s), .ok (some true) => (d.find? name).map fun p => (p, s)
      | _, _ => none

end Desk

/-! ## The steps of a desk -/

namespace Desk

variable {d : Desk} {step : DeskStep} {name : String} {s : Outcome} {p : PromiseId}

theorem take_of_settles? (settles : step.settles? = some (name, s)) :
    d.take step = d.settle name s := by
  cases step <;> simp [DeskStep.settles?] at settles <;> obtain ⟨rfl, rfl⟩ := settles <;> rfl

theorem makes?_of_settles? (settles : step.settles? = some (name, s)) :
    d.makes? step = none := by
  cases step <;> simp [DeskStep.settles?] at settles <;> rfl

theorem gives?_of_settles? (settles : step.settles? = some (name, s)) :
    d.gives? step = match (d.settle name s).2 with
      | .ok (some true) => (d.find? name).map fun p => (p, s)
      | _ => none := by
  rw [← take_of_settles? (d := d) settles]
  cases step <;> simp [DeskStep.settles?] at settles <;> obtain ⟨rfl, rfl⟩ := settles <;>
    simp only [gives?, DeskStep.settles?] <;> split <;> simp_all

/-- A step settles the promise of a name if it is pending, and answers whether it was. -/
theorem settle_of_find? (found : d.find? name = some p)
    (created : p < d.chain.loop.promises.size) :
    d.settle name s = ({ d with chain := { d.chain with loop := d.chain.loop.settle p s } },
      .ok (some (d.chain.loop.settlement? p).isNone)) := by
  simp only [settle, found, Loop.canSettle_eq created]

theorem settle_of_unknown (unknown : d.find? name = none) :
    d.settle name s = (d, .error (.nameUnknown name)) := by
  simp only [settle, unknown]

end Desk

/-! ## Histories -/

/-- A desk, the links that were made and run so far, and what steps have settled. -/
structure History where
  desk : Desk
  made : List Link
  run : List Link
  given : List (PromiseId × Outcome)

namespace History

/-- Nothing has happened. -/
def empty : History := ⟨.empty, [], [], []⟩

/-- What a move adds. -/
def next (h : History) : DeskMove → History
  | .take step =>
      { desk := (h.desk.take step).1
        made := h.made ++ (h.desk.makes? step).toList
        run := h.run
        given := h.given ++ (h.desk.gives? step).toList }
  | .turn =>
      { h with
        desk := h.desk.turn
        run := h.run ++ h.desk.chain.loop.ready.head?.toList }

/-- The history of some moves, from the beginning. -/
def of (moves : List DeskMove) : History := moves.foldl next empty

/-- How a promise is settled. -/
def settlement? (h : History) (p : PromiseId) : Option Outcome := h.desk.chain.loop.settlement? p

/-- The calls of handlers, in the order in which they were made. -/
def calls (h : History) : List HandlerCall := h.desk.chain.calls.reverse

/-- The calls of the handlers that were given for a promise. -/
def callsOf (h : History) (p : PromiseId) : List HandlerCall :=
  h.calls.filter fun c => h.made.any fun k => k.source == p && k.target == c.target

/-- Nothing is left for the loop to do. -/
def IsIdle (h : History) : Prop := h.desk.chain.loop.ready = []

variable {h : History} {m : DeskMove} {p : PromiseId} {s : Outcome} {k : Link} {name : String}

theorem of_append (moves later : List DeskMove) :
    of (moves ++ later) = later.foldl next (of moves) := List.foldl_append

/-! ## What every history keeps -/

/-- The names stand for promises that are there, and the notes account for the desk. -/
structure Sound (h : History) : Prop where
  named : ∀ entry ∈ h.desk.names, entry.2 < h.desk.chain.loop.promises.size
  queued : Queued h.desk.chain.loop h.made h.run
  follows : h.desk.chain.Follows h.run h.given

namespace Sound

theorem lt_size_of_find? (sound : h.Sound) (found : h.desk.find? name = some p) :
    p < h.desk.chain.loop.promises.size := by
  obtain ⟨entry, listed, rfl⟩ := Option.map_eq_some_iff.1 found
  exact sound.named entry (List.mem_reverse.1 (List.mem_of_find?_eq_some listed))

/-- The promise that is created next has a name. -/
theorem named_withName (sound : h.Sound) (name : String) :
    ∀ entry ∈ h.desk.names ++ [(name, h.desk.chain.loop.nextId)],
      entry.2 < h.desk.chain.loop.create.promises.size := by
  intro entry listed
  rcases List.mem_append.1 listed with listed | last
  · exact Nat.lt_trans (sound.named entry listed) (Loop.nextId_lt_size_create _)
  · obtain rfl := List.mem_singleton.1 last
    exact Loop.nextId_lt_size_create _

theorem empty : Sound .empty := ⟨by simp [History.empty, Desk.empty], .empty, .empty⟩

theorem settle (sound : h.Sound) {step : DeskStep} (settles : step.settles? = some (name, s)) :
    Sound (h.next (.take step)) := by
  simp only [next, Desk.take_of_settles? settles, Desk.makes?_of_settles? settles,
    Desk.gives?_of_settles? settles, Option.toList_none, List.append_nil]
  cases found : h.desk.find? name with
  | none =>
      simp only [Desk.settle_of_unknown found, Option.toList_none, List.append_nil]
      exact sound
  | some p =>
      have created := sound.lt_size_of_find? found
      simp only [Desk.settle_of_find? found created]
      cases state : h.desk.chain.loop.settlement? p with
      | some t =>
          have same : h.desk.chain.loop.settle p s = h.desk.chain.loop :=
            Loop.settle_of_settled state
          simp only [same, Option.isNone_some, Option.toList_none, List.append_nil]
          exact sound
      | none =>
          refine ⟨fun entry listed => ?_, sound.queued.settle created state s,
            sound.follows.give sound.queued created state s⟩
          simpa only [Loop.size_settle] using sound.named entry listed

theorem createWith (sound : h.Sound) (name : String) (v : Payload) :
    Sound (h.next (.take (.createWith name v))) := by
  have queued := sound.queued.create
  have follows := sound.follows.reloop (l := h.desk.chain.loop.create)
    fun _ => Loop.settlement?_create
  have created := Loop.nextId_lt_size_create h.desk.chain.loop
  have pending : h.desk.chain.loop.create.settlement? h.desk.chain.loop.nextId = none := by
    rw [Loop.settlement?_create]
    simp [Loop.settlement?, Loop.nextId]
  simp only [next, Desk.take, Desk.withName, Desk.makes?, Desk.gives?, Option.toList_none,
    List.append_nil, Loop.createSettled_eq]
  exact ⟨by simpa only [Loop.size_settle] using sound.named_withName name,
    queued.settle created pending _, follows.give queued created pending _⟩

theorem handle (sound : h.Sound) (source name : String) (handler : Handler) :
    Sound (h.next (.take (.handle source name handler))) := by
  simp only [next, Desk.take, Desk.makes?, Desk.gives?, DeskStep.settles?]
  cases found : h.desk.find? source with
  | none =>
      simpa using sound
  | some p =>
      have back := sound.lt_size_of_find? found
      have created := Loop.nextId_lt_size_create h.desk.chain.loop
      simp only [Desk.withName, Chain.handle, Option.map_some, Option.toList_some,
        Option.toList_none, List.append_nil]
      refine ⟨by simpa only [Loop.size_watch] using sound.named_withName name,
        sound.queued.create.watch (k := ⟨p, h.desk.chain.loop.nextId, handler⟩) back created
          fun k' known => Nat.ne_of_lt (sound.queued.forward k' known).2,
        sound.follows.reloop fun _ => ?_⟩
      rw [Loop.settlement?_watch, Loop.settlement?_create]

theorem take (sound : h.Sound) (step : DeskStep) : Sound (h.next (.take step)) := by
  cases step with
  | create name =>
      simp only [next, Desk.take, Desk.makes?, Desk.gives?, DeskStep.settles?, Option.toList_none,
        List.append_nil]
      exact ⟨sound.named_withName name, sound.queued.create,
        sound.follows.reloop fun _ => Loop.settlement?_create⟩
  | createWith name v => exact sound.createWith name v
  | complete name v => exact sound.settle (s := .value v) rfl
  | fail name f => exact sound.settle (s := .failure f) rfl
  | cancel name => exact sound.settle (s := .cancelled) rfl
  | handle source name handler => exact sound.handle source name handler
  | nothing => simpa [next, Desk.take, Desk.makes?, Desk.gives?, DeskStep.settles?] using sound

theorem turn (sound : h.Sound) : Sound (h.next .turn) := by
  cases ready : h.desk.chain.loop.ready with
  | nil =>
      simpa only [next, Desk.turn, ready, List.head?_nil, Option.toList_none, List.append_nil,
        Chain.step_of_idle ready] using sound
  | cons k rest =>
      simp only [next, Desk.turn, ready, List.head?_cons, Option.toList_some]
      obtain ⟨queued, follows⟩ := sound.follows.step sound.queued ready
      exact ⟨by simpa only [Chain.size_step] using sound.named, queued, follows⟩

theorem next (sound : h.Sound) : ∀ m : DeskMove, Sound (h.next m)
  | .take step => sound.take step
  | .turn => sound.turn

theorem foldl (moves : List DeskMove) : ∀ {h : History}, h.Sound → (moves.foldl .next h).Sound := by
  induction moves with
  | nil => exact id
  | cons m moves ih => exact fun sound => ih (sound.next m)

end Sound

theorem sound_of (moves : List DeskMove) : Sound (of moves) := Sound.empty.foldl moves

/-! ## Settled is settled -/

theorem settlement?_next (settled : h.settlement? p = some s) (m : DeskMove) :
    (h.next m).settlement? p = some s := by
  cases m with
  | turn => exact Chain.settlement?_step settled
  | take step =>
      have settling : ∀ (name : String) (t : Outcome),
          (h.desk.settle name t).1.chain.loop.settlement? p = some s := by
        intro name t
        unfold Desk.settle
        split
        · exact Loop.settlement?_settle_of_settled settled
        · exact settled
      have created := Loop.settlement?_create.trans settled
      cases step with
      | create name => exact created
      | createWith name v =>
          have same := Loop.createSettled_eq h.desk.chain.loop (.value v)
          exact (congrArg (Loop.settlement? · p) same).trans
            (Loop.settlement?_settle_of_settled created)
      | complete name v => exact settling name _
      | fail name f => exact settling name _
      | cancel name => exact settling name _
      | handle source name handler =>
          simp only [settlement?, next, Desk.take]
          split
          · exact (Loop.settlement?_watch _).trans created
          · exact settled
      | nothing => exact settled

theorem settlement?_foldl (later : List DeskMove) :
    ∀ {h : History}, h.settlement? p = some s → (later.foldl next h).settlement? p = some s := by
  induction later with
  | nil => exact id
  | cons m later ih => exact fun settled => ih (settlement?_next settled m)

/-! ## The calls of handlers -/

theorem calls_take (step : DeskStep) : (h.next (.take step)).calls = h.calls := by
  have settling : ∀ (name : String) (t : Outcome),
      (h.desk.settle name t).1.chain.calls = h.desk.chain.calls := by
    intro name t
    unfold Desk.settle
    split <;> rfl
  refine congrArg List.reverse ?_
  cases step with
  | complete name v => exact settling name _
  | fail name f => exact settling name _
  | cancel name => exact settling name _
  | handle source name handler =>
      simp only [next, Desk.take]
      split <;> rfl
  | _ => rfl

/-- How a move comes to call a handler: the loop turns, and the source of the handler's link is
settled with what the handler is called with. -/
def Calls (h : History) (m : DeskMove) (call : HandlerCall) : Prop :=
  m = .turn ∧ ∃ k ∈ h.made, ∃ s, h.settlement? k.source = some s ∧ k.call? s = some call

theorem calls_next (sound : h.Sound) (m : DeskMove) :
    (h.next m).calls = h.calls ∨ ∃ call, h.Calls m call ∧ (h.next m).calls = h.calls ++ [call] := by
  cases m with
  | take step => exact .inl (calls_take step)
  | turn =>
      have same : (h.next .turn).calls = h.desk.chain.step.calls.reverse := rfl
      cases ready : h.desk.chain.loop.ready with
      | nil => exact .inl (by rw [same, Chain.step_of_idle ready]; rfl)
      | cons k rest =>
          have known : k ∈ h.run ++ h.desk.chain.loop.ready := by simp [ready]
          obtain ⟨s, source⟩ := sound.queued.due known
          rw [same, Chain.step_of_ready ready]
          let popped : Chain :=
            { h.desk.chain with loop := { h.desk.chain.loop with ready := rest } }
          cases target : h.desk.chain.loop.settlement? k.target with
          | some t =>
              have done : popped.loop.isDone k.target = true :=
                Option.isSome_iff_exists.2 ⟨t, target⟩
              exact .inl (by rw [Chain.follow_of_isDone (c := popped) done]; rfl)
          | none =>
              rw [Chain.follow_of_pending (c := popped) target source]
              cases called : k.call? s with
              | none => exact .inl rfl
              | some call =>
                  exact .inr ⟨call, ⟨rfl, k, sound.queued.mem_made known, s, source, called⟩,
                    by simp [popped, calls]⟩

/-- What is made of some entries of a list is in the order of the list. -/
theorem map_filterMap_sublist {α β γ : Type} {f : α → Option β} {g : β → γ} {e : α → γ}
    (same : ∀ a b, f a = some b → g b = e a) :
    ∀ entries : List α, ((entries.filterMap f).map g).Sublist (entries.map e)
  | [] => .slnil
  | a :: entries => by
      have rest := map_filterMap_sublist same entries
      cases made : f a with
      | none =>
          rw [List.filterMap_cons_none made, List.map_cons]
          exact rest.cons _
      | some b =>
          rw [List.filterMap_cons_some made, List.map_cons, List.map_cons, same a b made]
          exact rest.cons_cons _

theorem map_target_sublist (sound : h.Sound) :
    (h.calls.map HandlerCall.target).Sublist (h.run.map Link.target) := by
  rw [calls, sound.follows.calls]
  exact map_filterMap_sublist (fun _ _ => Link.target_of_calledIn) _

/-- The calls of the handlers of one promise are those of its links that were run. -/
theorem callsOf_eq (sound : h.Sound) (p : PromiseId) :
    h.callsOf p = (h.run.filter (·.source == p)).filterMap
      (·.calledIn h.desk.chain.loop h.given) := by
  rw [callsOf, calls, sound.follows.calls, List.filter_filterMap, List.filterMap_filter]
  refine List.filterMap_congr fun k ran => ?_
  cases called : k.calledIn h.desk.chain.loop h.given with
  | none => simp
  | some call =>
      have known := sound.queued.mem_made (List.mem_append_left _ ran)
      have own : (h.made.any fun k' => k'.source == p && k'.target == call.target)
          = (k.source == p) := by
        rw [Bool.eq_iff_iff, List.any_eq_true, Link.target_of_calledIn called]
        constructor
        · rintro ⟨k', made, both⟩
          simp only [Bool.and_eq_true, beq_iff_eq] at both
          rw [← sound.queued.eq_of_target_eq made known both.2, both.1, beq_self_eq_true]
        · intro source
          exact ⟨k, known, by simp [source]⟩
      simp [Option.filter, own]

/-- Handlers of one promise are called in the order in which they were given. -/
theorem callsOf_sublist (sound : h.Sound) (p : PromiseId) :
    ((h.callsOf p).map HandlerCall.target).Sublist
      ((h.made.filter (·.source == p)).map Link.target) := by
  have ran : (h.run.filter (·.source == p)).Sublist (h.made.filter (·.source == p)) := by
    rw [sound.queued.inLine p, List.append_assoc]
    exact List.sublist_append_left _ _
  rw [callsOf_eq sound]
  exact (map_filterMap_sublist (fun _ _ => Link.target_of_calledIn) _).trans (ran.map _)

/-! ## How it ends -/

/-- How the target of a link whose source is settled ends. -/
inductive Ends (h : History) (k : Link) (s : Outcome) : Prop
  /-- a step settled it before its link was run, and the handler is not called -/
  | stepped {t : Outcome} (given : h.given.lookup k.target = some t)
      (settled : h.settlement? k.target = some t)
      (uncalled : ∀ call ∈ h.calls, call.target ≠ k.target)
  /-- it is as the handler answered, or cancelled as its source is, and the handler is not called -/
  | handled (given : h.given.lookup k.target = none)
      (settled : h.settlement? k.target = some (k.outcome s))
      (called : ∀ call : HandlerCall, call.target = k.target →
        (call ∈ h.calls ↔ k.call? s = some call))

theorem ends_of_mem_run (sound : h.Sound) (ran : k ∈ h.run)
    (source : h.settlement? k.source = some s) : h.Ends k s := by
  have known : ∀ {k' : Link}, k' ∈ h.run → k' ∈ h.made := fun ran' =>
    sound.queued.mem_made (List.mem_append_left _ ran')
  have called : ∀ call : HandlerCall, call.target = k.target →
      (call ∈ h.calls ↔ k.calledIn h.desk.chain.loop h.given = some call) := by
    intro call target
    rw [calls, sound.follows.calls, List.mem_filterMap]
    constructor
    · rintro ⟨k', ran', called'⟩
      obtain rfl := sound.queued.eq_of_target_eq (known ran') (known ran)
        ((Link.target_of_calledIn called').symm.trans target)
      exact called'
    · exact fun called' => ⟨k, ran, called'⟩
  have settled := sound.follows.settled k.target
  cases given : h.given.lookup k.target with
  | some t =>
      rw [given, Option.some_or] at settled
      refine .stepped given settled fun call listed target => ?_
      have called' := (called call target).1 listed
      rw [Link.calledIn_eq_some, given] at called'
      cases called'.1
  | none =>
      obtain ⟨k', found⟩ : ∃ k', h.run.find? (·.target == k.target) = some k' :=
        Option.isSome_iff_exists.1 (List.find?_isSome.2 ⟨k, ran, by simp⟩)
      obtain rfl : k' = k := sound.queued.eq_of_target_eq
        (known (List.mem_of_find?_eq_some found)) (known ran)
        (by simpa using List.find?_some found)
      have source' : h.desk.chain.loop.settlement? k'.source = some s := source
      rw [given, found] at settled
      have ended : h.settlement? k'.target = some (k'.outcome s) :=
        settled.trans (by simp [Link.comesTo, source'])
      refine .handled given ended fun call target => ?_
      rw [called call target, Link.calledIn_eq_some]
      simp [given, source']

/-- With nothing left to do, every link whose source is settled was run. -/
theorem mem_run_of_idle (sound : h.Sound) (idle : h.IsIdle) (made : k ∈ h.made)
    (source : h.settlement? k.source = some s) : k ∈ h.run := by
  have ready : h.desk.chain.loop.ready = [] := idle
  have line := sound.queued.inLine k.source
  rw [ready, sound.queued.pending source] at line
  have listed : k ∈ h.made.filter (·.source == k.source) := List.mem_filter.2 ⟨made, by simp⟩
  rw [line] at listed
  simp at listed
  exact listed

/-- The loop can turn until nothing is left to do, and that is what running a desk does. -/
theorem exists_turns (moves : List DeskMove) :
    ∃ n, (of (moves ++ List.replicate n .turn)).desk = (of moves).desk.run
      ∧ (of (moves ++ List.replicate n .turn)).IsIdle := by
  have turned : ∀ (n : Nat) (h : History), ((List.replicate n DeskMove.turn).foldl next h).desk
      = { h.desk with chain := Chain.step^[n] h.desk.chain } := by
    intro n
    induction n with
    | zero => exact fun h => rfl
    | succ n ih => exact fun h => ih (h.next .turn)
  obtain ⟨n, same⟩ := Chain.exists_run_eq_iterate (of moves).desk.chain.loop.load
    (of moves).desk.chain
  have ran : (of (moves ++ List.replicate n .turn)).desk = (of moves).desk.run := by
    rw [of_append, turned, ← same]
    rfl
  refine ⟨n, ran, ?_⟩
  unfold IsIdle
  rw [ran]
  exact Chain.ready_run (Nat.le_refl _)

end History

/-! ## Along every course -/

open History in
/-- What holds at a desk after any moves. -/
structure Desk.HandlesOnce (moves : List DeskMove) : Prop where
  /-- what is settled stays settled as it is, whatever comes -/
  stays : ∀ {p : PromiseId} {s : Outcome} (later : List DeskMove),
    (of moves).settlement? p = some s → (of (moves ++ later)).settlement? p = some s
  /-- a step that is to settle a promise settles it if it is pending, and answers whether it was -/
  answered : ∀ {step : DeskStep} {name : String} {s : Outcome} {p : PromiseId},
    step.settles? = some (name, s) → (of moves).desk.find? name = some p →
      ((of moves).desk.take step).2 = .ok (some ((of moves).settlement? p).isNone) ∧
      (of (moves ++ [.take step])).settlement? p = ((of moves).settlement? p).or (some s)
  /-- no two steps have settled one promise -/
  givenOnce : ((of moves).given.map Prod.fst).Nodup
  given : ∀ {p : PromiseId} {s : Outcome},
    (of moves).given.lookup p = some s → (of moves).settlement? p = some s
  /-- a promise that was not made of another is settled by steps alone -/
  plain : ∀ {p : PromiseId}, (∀ k ∈ (of moves).made, k.target ≠ p) →
    (of moves).settlement? p = (of moves).given.lookup p
  calledOnce : ((of moves).calls.map HandlerCall.target).Nodup
  /-- a handler is called when the loop turns, with what its source is settled with by then -/
  calling : ∀ m : DeskMove, (of (moves ++ [m])).calls = (of moves).calls ∨
    ∃ call, (of moves).Calls m call ∧ (of (moves ++ [m])).calls = (of moves).calls ++ [call]
  inOrder : ∀ p : PromiseId, (((of moves).callsOf p).map HandlerCall.target).Sublist
    (((of moves).made.filter (·.source == p)).map Link.target)
  ended : (of moves).IsIdle → ∀ k ∈ (of moves).made, ∀ s : Outcome,
    (of moves).settlement? k.source = some s → (of moves).Ends k s
  /-- turning comes to an end -/
  settles : ∃ n, (of (moves ++ List.replicate n .turn)).desk = (of moves).desk.run ∧
    (of (moves ++ List.replicate n .turn)).IsIdle

/-- Whatever steps are taken at a desk and whenever its loop turns: a promise is settled once, and
the step that settled it is the one that was told so; a handler is called at most once, after
its source was settled and in the order of the handlers of that source; and with nothing left
to do, a promise whose source is settled is settled as its handler answered, or as a step had
settled it before. -/
theorem Desk.handlesOnce (moves : List DeskMove) : Desk.HandlesOnce moves := by
  have sound := History.sound_of moves
  refine
    { stays := fun later settled => ?_
      answered := fun {step name s p} settles found => ?_
      givenOnce := sound.follows.once
      given := fun given => ?_
      plain := fun {p} other => ?_
      calledOnce := (History.map_target_sublist sound).nodup sound.queued.ranOnce
      calling := fun m => ?_
      inOrder := History.callsOf_sublist sound
      ended := fun idle k made s source =>
        History.ends_of_mem_run sound (History.mem_run_of_idle sound idle made source) source
      settles := History.exists_turns moves }
  · rw [History.of_append]
    exact History.settlement?_foldl later settled
  · have created := sound.lt_size_of_find? found
    have taken := (Desk.take_of_settles? settles).trans (Desk.settle_of_find? found created)
    refine ⟨by rw [taken]; rfl, ?_⟩
    have after : (History.of (moves ++ [.take step])).settlement? p
        = ((History.of moves).desk.chain.loop.settle p s).settlement? p := by
      rw [History.of_append]
      simp only [List.foldl_cons, List.foldl_nil, History.settlement?, History.next, taken]
    rw [after, Loop.settlement?_settle_self created]
    rfl
  · exact (sound.follows.settled _).trans (by rw [given, Option.some_or])
  · have unfound : (History.of moves).run.find? (·.target == p) = none :=
      List.find?_eq_none.2 fun k ran => by
        simpa using other k (sound.queued.mem_made (List.mem_append_left _ ran))
    exact (sound.follows.settled p).trans (by simp [unfound])
  · rw [History.of_append]
    exact History.calls_next sound m

open History in
/-- With nothing left to do, a promise that was made of a settled one is as its handler answered,
or it is cancelled. -/
def Desk.EndsByHandler (moves : List DeskMove) : Prop :=
  (of moves).IsIdle → ∀ k ∈ (of moves).made, ∀ s : Outcome,
    (of moves).settlement? k.source = some s →
      (of moves).settlement? k.target = some (k.outcome s)
        ∨ (of moves).settlement? k.target = some .cancelled

/-- A promise that is made of another is completed before that one is. -/
def completedFirst : List DeskMove :=
  [.take (.create "a"), .take (.handle "a" "t" .report),
    .take (.complete "t" (.value (.int 1))), .take (.complete "a" (.value (.int 2))), .turn]

/-- It is not so that such promises are as their handlers answered, or cancelled: the promise that
was completed first stays as it is. -/
theorem Desk.not_endsByHandler : ¬ ∀ moves, Desk.EndsByHandler moves := by
  intro all
  have made : (⟨0, 1, .report⟩ : Link) ∈ (History.of completedFirst).made := by
    rw [show (History.of completedFirst).made = [⟨0, 1, .report⟩] from rfl]
    exact List.mem_singleton_self _
  have source : (History.of completedFirst).settlement? 0 = some (.value (.value (.int 2))) := rfl
  have target : (History.of completedFirst).settlement? 1 = some (.value (.value (.int 1))) := rfl
  rcases all completedFirst rfl _ made _ source with answered | cancelled
  · rw [target] at answered
    simp [Link.outcome, Link.outcome.answered, Handler.report] at answered
  · rw [target] at cancelled
    simp at cancelled

end QueryStream
