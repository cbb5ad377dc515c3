/-
  Proofs/Engine/Evolution.lean --- how the loop of an engine changes.

  An engine only ever creates promises, settles them, has jobs wait for them and
  queues jobs: `Loop.Evolves`.  So what is settled stays settled as it is, and a
  job that waits for a promise goes on waiting until the promise is settled and the
  job is queued.  A job that follows a promise is queued only once that promise is
  settled: `Loop.Sound`.
-/
import QueryStream.Engine.State
import QueryStream.Proofs.Loops

set_option autoImplicit false

namespace QueryStream

/-- The promise that a job follows, if it is one that settles another promise or
has one forgotten. -/
def Job.source? : Job → Option PromiseId
  | .relay source _ => some source
  | .unrelay _ target => some target
  | .report _ source _ => some source
  | _ => none

namespace Loop

/-- A job waits for a promise that is not settled. -/
def Watches (l : EngineLoop) (p : PromiseId) (k : Job) : Prop :=
  ∃ watchers, l.promises[p]? = some ⟨none, watchers⟩ ∧ k ∈ watchers

/-- One loop comes from another by what engines do to loops. -/
inductive Evolves (l : EngineLoop) : EngineLoop → Prop
  | refl : Evolves l l
  | create {l' : EngineLoop} (h : Evolves l l') : Evolves l l'.create
  | createSettled {l' : EngineLoop} (s : Settlement Delivery Failure) (h : Evolves l l') :
      Evolves l (l'.createSettled s)
  | settle {l' : EngineLoop} (p : PromiseId) (s : Settlement Delivery Failure)
      (h : Evolves l l') : Evolves l (l'.settle p s)
  /-- a job that follows a promise waits for that one -/
  | watch {l' : EngineLoop} (p : PromiseId) {k : Job} (follows : ∀ q ∈ k.source?, q = p)
      (h : Evolves l l') : Evolves l (l'.watch p k)
  /-- no job that follows a promise is queued by itself -/
  | soon {l' : EngineLoop} {k : Job} (follows : k.source? = none) (h : Evolves l l') :
      Evolves l (l'.soon k)

/-! ## What is settled stays settled -/

variable {l l' : EngineLoop} {p q : PromiseId} {s s' : Settlement Delivery Failure} {k j : Job}

theorem Evolves.settlement? (h : Evolves l l') (hs : l.settlement? p = some s) :
    l'.settlement? p = some s := by
  induction h with
  | refl => exact hs
  | create _ ih => exact settlement?_create.trans ih
  | createSettled _ _ ih =>
      rw [Loop.createSettled, settlement?_push, if_neg (Nat.ne_of_lt (lt_size_of_settlement? ih))]
      exact ih
  | settle _ _ _ ih => exact settlement?_settle_of_settled ih
  | watch _ _ _ ih => exact (settlement?_watch _).trans ih
  | soon _ _ ih => exact ih

theorem Evolves.isDone (h : Evolves l l') (hp : l.isDone p = true) : l'.isDone p = true := by
  obtain ⟨s, hs⟩ := Option.isSome_iff_exists.1 hp
  simp [Loop.isDone, h.settlement? hs]

theorem Evolves.size_le (h : Evolves l l') : l.promises.size ≤ l'.promises.size := by
  induction h with
  | refl => exact Nat.le_refl _
  | create _ ih => simpa [Loop.create] using Nat.le_succ_of_le ih
  | createSettled _ _ ih => simpa [Loop.createSettled] using Nat.le_succ_of_le ih
  | settle p s _ ih => rwa [size_settle]
  | @watch l' p k _ _ ih => rwa [size_watch]
  | soon _ _ ih => exact ih

/-! ## What waits is queued in the end -/

theorem watches_push {pr : Promise Delivery Failure Job} {ready : List Job}
    (h : l.Watches p k) : Watches ⟨l.promises.push pr, ready⟩ p k := by
  obtain ⟨watchers, hp, hk⟩ := h
  refine ⟨watchers, ?_, hk⟩
  rw [Array.getElem?_push, if_neg (Nat.ne_of_lt (lt_size_of_getElem? hp)), hp]

/-- A job that waits goes on waiting until it is queued. -/
theorem Evolves.watches (h : Evolves l l') (hw : l.Watches p k ∨ k ∈ l.ready) :
    l'.Watches p k ∨ k ∈ l'.ready := by
  induction h with
  | refl => exact hw
  | create _ ih => exact ih.imp_left watches_push
  | createSettled _ _ ih => exact ih.imp_left watches_push
  | @settle l' q s _ ih =>
      rcases settle_cases l' q s with heq | ⟨found, hq, heq⟩
      · rwa [heq]
      · rw [heq]
        rcases ih with ⟨watchers, hp, hk⟩ | hready
        · by_cases hpq : q = p
          · subst hpq
            obtain ⟨rfl⟩ : found = watchers := by simpa [hq] using hp
            exact .inr (List.mem_append_right _ hk)
          · exact .inl ⟨watchers, by simpa [Array.getElem?_setIfInBounds, hpq] using hp, hk⟩
        · exact .inr (List.mem_append_left _ hready)
  | @watch l' q j _ _ ih =>
      rcases watch_cases l' q j with ⟨found, hq, heq⟩ | ⟨_, _, heq⟩ | ⟨_, heq⟩
      · rw [heq]
        rcases ih with ⟨watchers, hp, hk⟩ | hready
        · by_cases hpq : q = p
          · subst hpq
            obtain ⟨rfl⟩ : found = watchers := by simpa [hq] using hp
            refine .inl ⟨found ++ [j], ?_, List.mem_append_left _ hk⟩
            rw [Array.getElem?_setIfInBounds]
            simp [lt_size_of_getElem? hq]
          · exact .inl ⟨watchers, by simpa [Array.getElem?_setIfInBounds, hpq] using hp, hk⟩
        · exact .inr hready
      · rw [heq]
        exact ih.imp_right (List.mem_append_left _)
      · rwa [heq]
  | soon _ _ ih => exact ih.imp_right (List.mem_append_left _)

/-- A job that has begun to wait for a promise waits, or is queued since the promise is
settled. -/
theorem watches_watch (h : p < l.promises.size) (k : Job) :
    (l.watch p k).Watches p k ∨ k ∈ (l.watch p k).ready := by
  rcases watch_cases l p k with ⟨found, hp, heq⟩ | ⟨s, hs, heq⟩ | ⟨hnone, heq⟩
  · rw [heq]
    refine .inl ⟨found ++ [k], ?_, by simp⟩
    rw [Array.getElem?_setIfInBounds]
    simp [h]
  · rw [heq]
    exact .inr (by simp [soon])
  · have hle : l.promises.size ≤ p := by simpa using hnone
    exact absurd h (Nat.not_lt_of_le hle)

theorem watches_unwatch {leaves : Job → Bool} (h : l.Watches p k) (stays : leaves k = false) :
    (l.unwatch q leaves).Watches p k := by
  obtain ⟨watchers, hp, hk⟩ := h
  unfold unwatch
  split
  · rename_i s found hq
    by_cases hpq : q = p
    · subst hpq
      obtain ⟨rfl, rfl⟩ : s = none ∧ found = watchers := by simpa [hq] using hp
      refine ⟨found.filter fun k => !leaves k, ?_, ?_⟩
      · rw [Array.getElem?_setIfInBounds]
        simp [lt_size_of_getElem? hq]
      · simp [hk, stays]
    · exact ⟨watchers, by simpa [Array.getElem?_setIfInBounds, hpq] using hp, hk⟩
  · exact ⟨watchers, hp, hk⟩

/-! ## What is queued -/

/-- Jobs that follow a promise wait for that one, and are queued only once it is
settled. -/
structure Sound (l : EngineLoop) : Prop where
  watching : ∀ {p : PromiseId} {k : Job}, l.Watches p k → ∀ q ∈ k.source?, q = p
  queued : ∀ {k : Job}, k ∈ l.ready → ∀ q ∈ k.source?, l.isDone q = true

theorem watches_of_push {pr : Promise Delivery Failure Job} {ready : List Job}
    (fresh : pr.watchers = []) (h : Watches ⟨l.promises.push pr, ready⟩ p k) :
    l.Watches p k := by
  obtain ⟨watchers, hp, hk⟩ := h
  rw [Array.getElem?_push] at hp
  split at hp
  · obtain rfl := Option.some.inj hp
    simp only at fresh
    simp [fresh] at hk
  · exact ⟨watchers, hp, hk⟩

theorem sound_idle : Sound (Loop.idle : EngineLoop) :=
  ⟨fun ⟨_, hp, _⟩ => by simp [idle] at hp, fun hk => by simp [idle] at hk⟩

theorem Sound.settle (sound : l.Sound) (p : PromiseId) (s : Settlement Delivery Failure) :
    (l.settle p s).Sound := by
  rcases settle_cases l p s with heq | ⟨found, hp, heq⟩
  · rwa [heq]
  · have hevolves : Evolves l (l.settle p s) := .settle p s .refl
    refine ⟨?_, ?_⟩
    · rintro q k ⟨watchers, hq, hk⟩
      rw [heq, Array.getElem?_setIfInBounds] at hq
      split at hq
      · split at hq <;> simp at hq
      · exact sound.watching ⟨watchers, hq, hk⟩
    · intro k hk q hq
      -- what watched the promise is queued now that it is settled
      have hk : k ∈ l.ready ++ found := by simpa [heq] using hk
      rcases List.mem_append.1 hk with hk | hk
      · exact hevolves.isDone (sound.queued hk q hq)
      · rw [sound.watching ⟨found, hp, hk⟩ q hq]
        exact isDone_settle (lt_size_of_getElem? hp) s

theorem Sound.watch {j : Job} (sound : l.Sound) (follows : ∀ q ∈ j.source?, q = p) :
    (l.watch p j).Sound := by
  rcases watch_cases l p j with ⟨found, hp, heq⟩ | ⟨s, hs, heq⟩ | ⟨_, heq⟩
  · have hevolves : Evolves l (l.watch p j) := .watch p follows .refl
    refine ⟨?_, ?_⟩
    · rintro q k ⟨watchers, hq, hk⟩
      rw [heq, Array.getElem?_setIfInBounds] at hq
      split at hq
      · rename_i hpq
        subst hpq
        rw [if_pos (lt_size_of_getElem? hp)] at hq
        obtain rfl : found ++ [j] = watchers := by simpa using hq
        rcases List.mem_append.1 hk with hk | hk
        · exact sound.watching ⟨found, hp, hk⟩
        · rw [List.mem_singleton.1 hk]
          exact follows
      · exact sound.watching ⟨watchers, hq, hk⟩
    · intro k hk q hq
      exact hevolves.isDone (sound.queued (by simpa [heq] using hk) q hq)
  · rw [heq]
    refine ⟨fun hw => sound.watching hw, fun hk q hq => ?_⟩
    rcases List.mem_append.1 hk with hk | hk
    · exact sound.queued hk q hq
    · rw [List.mem_singleton.1 hk] at hq
      rw [follows q hq]
      simp [Loop.soon, Loop.isDone, Loop.settlement?] at hs ⊢
      simp [hs]
  · rwa [heq]

theorem Sound.soon {j : Job} (sound : l.Sound) (follows : j.source? = none) :
    (l.soon j).Sound := by
  refine ⟨fun hw => sound.watching hw, fun hk q hq => ?_⟩
  rcases List.mem_append.1 hk with hk | hk
  · exact sound.queued hk q hq
  · rw [List.mem_singleton.1 hk, follows] at hq
    cases hq

theorem Sound.evolves (sound : l.Sound) (h : Evolves l l') : l'.Sound := by
  induction h with
  | refl => exact sound
  | @create l' _ ih =>
      refine ⟨fun hw => ih.watching (watches_of_push rfl hw), fun hk q hq => ?_⟩
      exact (Evolves.refl.create : Evolves l' _).isDone (ih.queued hk q hq)
  | @createSettled l' s _ ih =>
      refine ⟨fun hw => ih.watching (watches_of_push rfl hw), fun hk q hq => ?_⟩
      exact (Evolves.refl.createSettled s : Evolves l' _).isDone (ih.queued hk q hq)
  | settle p s _ ih => exact ih.settle p s
  | watch p follows _ ih => exact ih.watch follows
  | soon follows _ ih => exact ih.soon follows

theorem Sound.unwatch (sound : l.Sound) (q : PromiseId) (leaves : Job → Bool) :
    (l.unwatch q leaves).Sound := by
  unfold Loop.unwatch
  split
  · rename_i s found hq
    refine ⟨?_, fun hk r hr => ?_⟩
    · rintro p k ⟨watchers, hp, hk⟩
      rw [Array.getElem?_setIfInBounds] at hp
      split at hp
      · rename_i hqp
        subst hqp
        rw [if_pos (lt_size_of_getElem? hq)] at hp
        obtain ⟨rfl, rfl⟩ : s = none ∧ (found.filter fun k => !leaves k) = watchers := by
          simpa using hp
        exact sound.watching ⟨found, hq, (List.mem_filter.1 hk).1⟩
      · exact sound.watching ⟨watchers, hp, hk⟩
    · have hdone := sound.queued hk r hr
      rw [isDone, settlement?_set _ _ (lt_size_of_getElem? hq)]
      split
      · rename_i heq
        subst heq
        simpa [isDone, settlement?, hq] using hdone
      · exact hdone
  · exact sound

theorem Sound.of_next? (sound : l.Sound) (next : l.next? = some (j, l')) :
    l'.Sound ∧ j ∈ l.ready ∧ l'.promises = l.promises ∧
      ∀ k ∈ l.ready, k = j ∨ k ∈ l'.ready := by
  unfold Loop.next? at next
  split at next
  · cases next
  · rename_i first rest hready
    obtain ⟨rfl, rfl⟩ := Prod.mk.inj (Option.some.inj next)
    refine ⟨⟨fun hw => sound.watching hw, fun hk q hq => ?_⟩, by simp [hready], rfl, ?_⟩
    · exact sound.queued (by simp [hready, hk]) q hq
    · simp [hready]

end Loop

end QueryStream
