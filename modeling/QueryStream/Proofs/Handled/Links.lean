/-
  Proofs/Handled/Links.lean --- the links of a chain: where they stand, and what they come to.

  The links of one promise stand in one line: those that were run, then those that are
  queued, then those that wait for the promise (`Queued`).  A promise is settled as a step
  said, or else as the link comes to that was run for it, and the calls of handlers are those
  of the links that were run and whose targets no step had settled (`Chain.Follows`).  Both are
  kept by every operation of a chain.
-/
import Mathlib.Data.List.Nodup
import Mathlib.Logic.Function.Iterate
import QueryStream.Loop.Handled
import QueryStream.Proofs.Loops

set_option autoImplicit false

namespace QueryStream

/-- What the promises of a chain are settled with. -/
abbrev Outcome : Type := Settlement Payload Failure

/-! ## What a link comes to -/

namespace Link

/-- How the target of a link is settled once its source is, unless it was settled before. -/
def outcome (k : Link) : Outcome → Outcome
  | .value p => answered p none
  | .failure f => answered .nothing (some f)
  | .cancelled => .cancelled
where
  answered (value : Payload) (failure : Option Failure) : Outcome :=
    match k.handler.answer value failure with
    | .ok p => .value p
    | .error f => .failure f

/-- The call of the handler of a link, if its source was not cancelled: with a value and no
failure, or with no value and a failure. -/
def call? (k : Link) : Outcome → Option HandlerCall
  | .value p => some ⟨k.target, p, none⟩
  | .failure f => some ⟨k.target, .nothing, some f⟩
  | .cancelled => none

theorem target_of_call? {k : Link} {s : Outcome} {c : HandlerCall} (called : k.call? s = some c) :
    c.target = k.target := by
  cases s <;> simp [call?] at called <;> simp [← called]

end Link

namespace Chain

variable {c : Chain} {k : Link} {s : Outcome}

theorem follow_of_isDone (done : c.loop.isDone k.target = true) : c.follow k = c := by
  simp [follow, done]

/-- A link whose source is settled, and whose target is not, settles it as it comes to. -/
theorem follow_of_pending (pending : c.loop.settlement? k.target = none)
    (settled : c.loop.settlement? k.source = some s) :
    c.follow k = ⟨c.loop.settle k.target (k.outcome s), (k.call? s).toList ++ c.calls⟩ := by
  have notDone : c.loop.isDone k.target = false := by simp [Loop.isDone, pending]
  cases s <;> simp only [follow, notDone, settled] <;> rfl

theorem size_follow : (c.follow k).loop.promises.size = c.loop.promises.size := by
  unfold follow
  split
  · rfl
  · split <;> simp [call, Loop.size_settle]

theorem load_follow : (c.follow k).loop.load = c.loop.load := by
  unfold follow
  split
  · rfl
  · split
    · exact Loop.load_settle
    · exact Loop.load_settle
    · exact Loop.load_settle
    · rfl

theorem settlement?_follow {p : PromiseId} (settled : c.loop.settlement? p = some s) :
    (c.follow k).loop.settlement? p = some s := by
  unfold follow
  split
  · exact settled
  · split
    · exact Loop.settlement?_settle_of_settled settled
    · exact Loop.settlement?_settle_of_settled settled
    · exact Loop.settlement?_settle_of_settled settled
    · exact settled

theorem step_of_ready {rest : List Link} (ready : c.loop.ready = k :: rest) :
    c.step = follow { c with loop := { c.loop with ready := rest } } k := by
  simp [step, Loop.next?, ready]

theorem step_of_idle (idle : c.loop.ready = []) : c.step = c := by
  simp [step, Loop.next?, idle]

theorem size_step : c.step.loop.promises.size = c.loop.promises.size := by
  cases ready : c.loop.ready with
  | nil => rw [step_of_idle ready]
  | cons k rest => rw [step_of_ready ready, size_follow]

theorem settlement?_step {p : PromiseId} (settled : c.loop.settlement? p = some s) :
    c.step.loop.settlement? p = some s := by
  cases ready : c.loop.ready with
  | nil => rwa [step_of_idle ready]
  | cons k rest =>
      rw [step_of_ready ready]
      exact settlement?_follow settled

/-- Every turn of a loop that has something to do leaves it with less. -/
theorem load_step (busy : c.loop.ready ≠ []) : c.loop.load = c.step.loop.load + 1 := by
  obtain ⟨k, rest, ready⟩ := List.exists_cons_of_ne_nil busy
  rw [step_of_ready ready, load_follow]
  exact Loop.load_of_next? (k := k) (by simp [Loop.next?, ready])

theorem ready_run : ∀ {fuel : Nat} {c : Chain}, c.loop.load ≤ fuel → (run fuel c).loop.ready = []
  | 0, c, bound => by
      simp only [Loop.load] at bound
      exact List.eq_nil_of_length_eq_zero (by simp only [run]; omega)
  | fuel + 1, c, bound => by
      unfold run
      split
      · rename_i idle
        exact List.isEmpty_iff.1 idle
      · rename_i busy
        have less := load_step (c := c) fun idle => busy (List.isEmpty_iff.2 idle)
        exact ready_run (by omega)

theorem exists_run_eq_iterate : ∀ (fuel : Nat) (c : Chain), ∃ n, run fuel c = step^[n] c
  | 0, c => ⟨0, rfl⟩
  | fuel + 1, c => by
      unfold run
      split
      · exact ⟨0, rfl⟩
      · obtain ⟨n, same⟩ := exists_run_eq_iterate fuel c.step
        exact ⟨n + 1, by rw [same, Function.iterate_succ_apply]⟩

end Chain

/-! ## The lines of links -/

/-- Links were made, and some of them run, in a loop. -/
structure Queued (l : Loop Payload Failure Link) (made run : List Link) : Prop where
  forward : ∀ k ∈ made, k.source < k.target ∧ k.target < l.promises.size
  targets : (made.map Link.target).Nodup
  ranOnce : (run.map Link.target).Nodup
  inLine : ∀ p, made.filter (·.source == p)
    = run.filter (·.source == p) ++ l.ready.filter (·.source == p) ++ l.waiting p
  pending : ∀ {p s}, l.settlement? p = some s → l.waiting p = []
  due : ∀ {k}, k ∈ run ++ l.ready → ∃ s, l.settlement? k.source = some s

namespace Queued

variable {l : Loop Payload Failure Link} {made run : List Link} {k k' : Link} {p : PromiseId}
  {s : Outcome}

theorem source_of_mem_waiting (h : Queued l made run) (waits : k ∈ l.waiting p) :
    k.source = p := by
  have listed : k ∈ made.filter (·.source == p) := by
    rw [h.inLine p]
    exact List.mem_append_right _ waits
  simpa using (List.mem_filter.1 listed).2

theorem mem_made (h : Queued l made run) (known : k ∈ run ++ l.ready) : k ∈ made := by
  have listed : k ∈ made.filter (·.source == k.source) := by
    rw [h.inLine k.source, ← List.filter_append]
    exact List.mem_append_left _ (List.mem_filter.2 ⟨known, by simp⟩)
  exact (List.mem_filter.1 listed).1

theorem eq_of_target_eq (h : Queued l made run) (first : k ∈ made) (second : k' ∈ made)
    (same : k.target = k'.target) : k = k' :=
  List.inj_on_of_nodup_map h.targets first second same

theorem empty : Queued .idle [] [] where
  forward := by simp
  targets := by simp
  ranOnce := by simp
  inLine p := by simp [Loop.idle, Loop.waiting]
  pending _ := by simp [Loop.idle, Loop.waiting]
  due known := by simp [Loop.idle] at known

theorem create (h : Queued l made run) : Queued l.create made run where
  forward k known := by
    obtain ⟨back, there⟩ := h.forward k known
    exact ⟨back, by simpa [Loop.create] using Nat.lt_succ_of_lt there⟩
  targets := h.targets
  ranOnce := h.ranOnce
  inLine p := by rw [Loop.waiting_create, h.inLine p]; rfl
  pending settled := by
    rw [Loop.waiting_create]
    exact h.pending (Loop.settlement?_create.symm.trans settled)
  due known := by simpa only [Loop.settlement?_create] using h.due known

/-- Settling a promise queues the links that wait for it, in their order. -/
theorem settle (h : Queued l made run) (created : p < l.promises.size)
    (pending : l.settlement? p = none) (s : Outcome) : Queued (l.settle p s) made run where
  forward k known := by
    rw [Loop.size_settle]
    exact h.forward k known
  targets := h.targets
  ranOnce := h.ranOnce
  inLine q := by
    rw [h.inLine q, Loop.settle_of_pending created pending, Loop.waiting_set _ _ created,
      List.filter_append, List.append_assoc, List.append_assoc, List.append_assoc]
    by_cases same : q = p
    · subst same
      have whole : (l.waiting q).filter (·.source == q) = l.waiting q :=
        List.filter_eq_self.2 fun k waits => by simp [h.source_of_mem_waiting waits]
      simp [whole]
    · have none_ : (l.waiting p).filter (·.source == q) = [] :=
        List.filter_eq_nil_iff.2 fun k waits => by
          simp [h.source_of_mem_waiting waits, Ne.symm same]
      simp [none_, same]
  pending {q t} settled := by
    rw [Loop.settle_of_pending created pending, Loop.waiting_set _ _ created]
    split
    · rfl
    · rename_i other
      rw [Loop.settlement?_settle_of_ne (Ne.symm other)] at settled
      exact h.pending settled
  due {k} known := by
    rw [Loop.settle_of_pending created pending, ← List.append_assoc] at known
    rcases List.mem_append.1 known with known | waits
    · obtain ⟨t, settled⟩ := h.due known
      exact ⟨t, Loop.settlement?_settle_of_settled settled⟩
    · rw [h.source_of_mem_waiting waits]
      exact ⟨s, by rw [Loop.settlement?_settle_self created, pending, Option.none_or]⟩

/-- A link that is made of a promise stands at the end of the line of that promise. -/
theorem watch (h : Queued l made run) (back : k.source < k.target)
    (there : k.target < l.promises.size) (fresh : ∀ k' ∈ made, k'.target ≠ k.target) :
    Queued (l.watch k.source k) (made ++ [k]) run where
  forward k' known := by
    rw [Loop.size_watch]
    rcases List.mem_append.1 known with known | last
    · exact h.forward k' known
    · obtain rfl := List.mem_singleton.1 last
      exact ⟨back, there⟩
  targets := by
    rw [List.map_append, List.nodup_append]
    refine ⟨h.targets, by simp, fun t known u last => ?_⟩
    obtain ⟨k', made', rfl⟩ := List.mem_map.1 known
    obtain rfl : u = k.target := by simpa using last
    exact fresh k' made'
  ranOnce := h.ranOnce
  inLine p := by
    rw [List.filter_append, h.inLine p]
    -- a promise that is settled keeps no line, so the link is ready at once
    cases state : l.settlement? k.source with
    | none =>
        have created : k.source < l.promises.size := Nat.lt_trans back there
        rw [Loop.watch_of_pending created state, Loop.waiting_set _ _ created]
        by_cases same : p = k.source
        · simp [same]
        · simp [same, Ne.symm same]
    | some s =>
        have unchanged : (l.soon k).waiting p = l.waiting p := rfl
        rw [Loop.watch_of_settled state, unchanged, Loop.soon, List.filter_append]
        by_cases same : p = k.source
        · subst same
          simp [h.pending state]
        · simp [Ne.symm same]
  pending {p s} settled := by
    rw [Loop.settlement?_watch] at settled
    cases state : l.settlement? k.source with
    | none =>
        have created : k.source < l.promises.size := Nat.lt_trans back there
        have other : p ≠ k.source := by
          rintro rfl
          simp [state] at settled
        rw [Loop.watch_of_pending created state, Loop.waiting_set _ _ created, if_neg other,
          h.pending settled]
    | some t =>
        rw [Loop.watch_of_settled state]
        exact h.pending settled
  due {k'} known := by
    rw [Loop.settlement?_watch]
    cases state : l.settlement? k.source with
    | none =>
        rw [Loop.watch_of_pending (Nat.lt_trans back there) state] at known
        exact h.due known
    | some t =>
        rw [Loop.watch_of_settled state, Loop.soon, ← List.append_assoc] at known
        rcases List.mem_append.1 known with known | last
        · exact h.due known
        · rw [List.mem_singleton.1 last]
          exact ⟨t, state⟩

/-- The link at the head of the queue is the first of its source that was not run. -/
theorem next (h : Queued l made run) {rest : List Link} (ready : l.ready = k :: rest) :
    Queued { l with ready := rest } made (run ++ [k]) where
  forward := h.forward
  targets := h.targets
  ranOnce := by
    rw [List.map_append, List.nodup_append]
    refine ⟨h.ranOnce, by simp, fun t known u last same => ?_⟩
    obtain ⟨k', ran, rfl⟩ := List.mem_map.1 known
    obtain rfl : u = k.target := by simpa using last
    have queued : k ∈ run ++ l.ready := by simp [ready]
    obtain rfl : k' = k :=
      h.eq_of_target_eq (h.mem_made (List.mem_append_left _ ran)) (h.mem_made queued) same
    -- the link would stand in its line twice
    have line := (h.targets.of_map _).filter (·.source == k'.source)
    rw [h.inLine k'.source, ready] at line
    have disjoint := (List.nodup_append.1 (List.nodup_append.1 line).1).2.2
    exact disjoint k' (by simp [ran]) k' (by simp) rfl
  inLine p := by
    rw [h.inLine p, ready]
    have same : Loop.waiting { l with ready := rest } p = l.waiting p := rfl
    rw [same]
    by_cases own : k.source = p <;> simp [own]
  pending := h.pending
  due {k'} known := by
    refine h.due (k := k') ?_
    simpa [ready] using known

end Queued

/-! ## What was settled, and what was called -/

/-- What a link whose source is settled comes to. -/
def Link.comesTo (l : Loop Payload Failure Link) (k : Link) : Option Outcome :=
  (l.settlement? k.source).map k.outcome

/-- The call of the handler of a link that was run, unless a step had settled its target. -/
def Link.calledIn (l : Loop Payload Failure Link) (given : List (PromiseId × Outcome))
    (k : Link) : Option HandlerCall :=
  match given.lookup k.target with
  | some _ => none
  | none => (l.settlement? k.source).bind k.call?

namespace Link

variable {l : Loop Payload Failure Link} {given : List (PromiseId × Outcome)} {k : Link}
  {call : HandlerCall}

theorem calledIn_eq_some : k.calledIn l given = some call ↔ given.lookup k.target = none ∧
    ∃ s, l.settlement? k.source = some s ∧ k.call? s = some call := by
  unfold calledIn
  cases given.lookup k.target with
  | none => simp [Option.bind_eq_some_iff]
  | some s => simp

theorem target_of_calledIn (called : k.calledIn l given = some call) : call.target = k.target := by
  obtain ⟨-, s, -, called⟩ := calledIn_eq_some.1 called
  exact target_of_call? called

end Link

/-- A chain whose links were run, in which steps settled what is given, and that is settled by
nothing else: a promise is as a step has it, or else as its link comes to. -/
structure Chain.Follows (c : Chain) (run : List Link) (given : List (PromiseId × Outcome)) :
    Prop where
  once : (given.map Prod.fst).Nodup
  settled : ∀ p, c.loop.settlement? p
    = (given.lookup p).or ((run.find? (·.target == p)).bind (·.comesTo c.loop))
  calls : c.calls.reverse = run.filterMap (·.calledIn c.loop given)

namespace Chain.Follows

variable {c : Chain} {l : Loop Payload Failure Link} {made run : List Link} {k : Link}
  {given : List (PromiseId × Outcome)} {p : PromiseId} {s : Outcome}

theorem empty : Follows .empty [] [] where
  once := by simp
  settled p := by simp [Chain.empty, Loop.idle, Loop.settlement?]
  calls := rfl

theorem isSettled (h : c.Follows run given) (queued : Queued c.loop made run) (ran : k ∈ run) :
    ∃ t, c.loop.settlement? k.target = some t := by
  obtain ⟨k', found⟩ : ∃ k', run.find? (·.target == k.target) = some k' :=
    Option.isSome_iff_exists.1 (List.find?_isSome.2 ⟨k, ran, by simp⟩)
  obtain ⟨t, source⟩ := queued.due (List.mem_append_left _ (List.mem_of_find?_eq_some found))
  rw [h.settled, found]
  cases given.lookup k.target with
  | some u => exact ⟨u, rfl⟩
  | none => exact ⟨k'.outcome t, by simp [Link.comesTo, source]⟩

/-- Steps have settled none of the promises that are pending. -/
theorem lookup_of_pending (h : c.Follows run given) (pending : c.loop.settlement? p = none) :
    given.lookup p = none := by
  rw [h.settled] at pending
  exact (Option.or_eq_none_iff.1 pending).1

/-- What is settled where, and so what the links come to, is all that counts of a loop. -/
theorem reloop (h : c.Follows run given)
    (same : ∀ p, l.settlement? p = c.loop.settlement? p) :
    Follows { c with loop := l } run given where
  once := h.once
  settled p := by
    have comes : (fun k : Link => k.comesTo l) = fun k => k.comesTo c.loop :=
      funext fun k => by simp only [Link.comesTo, same]
    simp only [same, comes]
    exact h.settled p
  calls := by
    have called : (fun k : Link => k.calledIn l given) = fun k => k.calledIn c.loop given :=
      funext fun k => by simp only [Link.calledIn, same]
    simp only [called]
    exact h.calls

/-- Settling a promise changes nothing of what the links that were run have come to. -/
theorem comesTo_settle (queued : Queued c.loop made run) (ran : k ∈ run) :
    k.comesTo (c.loop.settle p s) = k.comesTo c.loop
      ∧ (c.loop.settle p s).settlement? k.source = c.loop.settlement? k.source := by
  obtain ⟨t, source⟩ := queued.due (List.mem_append_left _ ran)
  have stays := Loop.settlement?_settle_of_settled (q := p) (s := s) source
  exact ⟨by simp only [Link.comesTo, stays, source], stays.trans source.symm⟩

theorem find?_comesTo_settle (queued : Queued c.loop made run) (t : PromiseId) :
    (run.find? (·.target == t)).bind (·.comesTo (c.loop.settle p s))
      = (run.find? (·.target == t)).bind (·.comesTo c.loop) := by
  cases found : run.find? (·.target == t) with
  | none => rfl
  | some k => exact (comesTo_settle queued (List.mem_of_find?_eq_some found)).1

theorem give (h : c.Follows run given) (queued : Queued c.loop made run)
    (created : p < c.loop.promises.size) (pending : c.loop.settlement? p = none) (s : Outcome) :
    Follows { c with loop := c.loop.settle p s } run (given ++ [(p, s)]) where
  once := by
    rw [List.map_append, List.nodup_append]
    refine ⟨h.once, by simp, fun q known r last same => ?_⟩
    obtain ⟨⟨q, t⟩, entry, rfl⟩ := List.mem_map.1 known
    obtain rfl : r = p := by simpa using last
    have absent := List.lookup_eq_none_iff.1 (h.lookup_of_pending pending) (q, t) entry
    simp at absent
    exact absent same.symm
  settled q := by
    rw [List.lookup_append, find?_comesTo_settle queued]
    by_cases same : p = q
    · subst same
      rw [Loop.settlement?_settle_self created, pending, h.lookup_of_pending pending]
      simp
    · have missed : [(p, s)].lookup q = none := by simp [Ne.symm same]
      rw [Loop.settlement?_settle_of_ne same, h.settled, missed, Option.or_none]
  calls := by
    refine h.calls.trans (List.filterMap_congr fun k ran => ?_)
    obtain ⟨t, target⟩ := h.isSettled queued ran
    have other : k.target ≠ p := by
      rintro same
      rw [same, pending] at target
      cases target
    have missed : [(p, s)].lookup k.target = none := by simp [other]
    simp only [Link.calledIn, List.lookup_append, missed, Option.or_none,
      (comesTo_settle queued ran).2]

/-- A link whose target a step has settled changes nothing. -/
theorem pass (h : c.Follows run given) (fresh : ∀ k' ∈ run, k'.target ≠ k.target)
    (done : c.loop.settlement? k.target = some s) : c.Follows (run ++ [k]) given := by
  have unfound : run.find? (·.target == k.target) = none :=
    List.find?_eq_none.2 fun k' ran => by simpa using fresh k' ran
  have stepped : given.lookup k.target = some s := by
    rw [h.settled, unfound] at done
    simpa using done
  refine ⟨h.once, fun p => ?_, ?_⟩
  · rw [h.settled, List.find?_append]
    by_cases same : k.target = p
    · subst same
      simp [stepped]
    · simp [same]
  · rw [List.filterMap_append, ← h.calls]
    simp [Link.calledIn, stepped]

/-- A link whose target is pending settles it, and its handler is called. -/
theorem answer (h : c.Follows run given) (queued : Queued c.loop made run)
    (fresh : ∀ k' ∈ run, k'.target ≠ k.target) (created : k.target < c.loop.promises.size)
    (pending : c.loop.settlement? k.target = none)
    (source : c.loop.settlement? k.source = some s) :
    Follows ⟨c.loop.settle k.target (k.outcome s), (k.call? s).toList ++ c.calls⟩
      (run ++ [k]) given := by
  have unfound : run.find? (·.target == k.target) = none :=
    List.find?_eq_none.2 fun k' ran => by simpa using fresh k' ran
  have absent := h.lookup_of_pending pending
  have stays := Loop.settlement?_settle_of_settled (q := k.target) (s := k.outcome s) source
  refine ⟨h.once, fun p => ?_, ?_⟩
  · by_cases same : k.target = p
    · subst same
      rw [Loop.settlement?_settle_self created, pending, absent, List.find?_append, unfound]
      simp [Link.comesTo, stays]
    · have missed : [k].find? (·.target == p) = none := by simp [same]
      rw [Loop.settlement?_settle_of_ne same, h.settled, List.find?_append, missed,
        Option.or_none, find?_comesTo_settle queued]
  · have before : run.filterMap (·.calledIn (c.loop.settle k.target (k.outcome s)) given)
        = run.filterMap (·.calledIn c.loop given) :=
      List.filterMap_congr fun k' ran => by
        simp only [Link.calledIn, (comesTo_settle queued ran).2]
    rw [List.filterMap_append, before, ← h.calls]
    cases s <;> simp [Link.calledIn, absent, stays, Link.call?]

theorem step (h : c.Follows run given) (queued : Queued c.loop made run) {rest : List Link}
    (ready : c.loop.ready = k :: rest) :
    Queued c.step.loop made (run ++ [k]) ∧ c.step.Follows (run ++ [k]) given := by
  have known : k ∈ run ++ c.loop.ready := by simp [ready]
  obtain ⟨s, source⟩ := queued.due known
  have created := (queued.forward k (queued.mem_made known)).2
  have queued' := queued.next ready
  have fresh : ∀ k' ∈ run, k'.target ≠ k.target := by
    have once := queued'.ranOnce
    rw [List.map_append, List.nodup_append] at once
    exact fun k' ran => once.2.2 _ (List.mem_map_of_mem ran) _ (by simp)
  let popped : Chain := { c with loop := { c.loop with ready := rest } }
  have same : ∀ p, popped.loop.settlement? p = c.loop.settlement? p := fun _ => rfl
  rw [step_of_ready ready]
  cases state : c.loop.settlement? k.target with
  | some t =>
      rw [follow_of_isDone (c := popped) (by simp [Loop.isDone, same, state])]
      exact ⟨queued', (h.pass fresh state).reloop fun _ => rfl⟩
  | none =>
      rw [follow_of_pending (c := popped) state source]
      refine ⟨queued'.settle created state _,
        (h.answer queued fresh created state source).reloop fun p => ?_⟩
      rw [Loop.settle_of_pending (l := popped.loop) created state,
        Loop.settle_of_pending (l := c.loop) created state]
      rfl

end Chain.Follows

end QueryStream
