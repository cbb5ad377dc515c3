/-
  Proofs/Loops.lean --- promises, and the jobs that wait for them.

  What the operations of a loop do is said here once, whatever the promises are settled
  with and whatever the jobs are: to what a promise is settled with (`Loop.settlement?`), to
  the jobs that wait for it (`Loop.waiting`) and to the queue.  A promise is settled once; the
  jobs that wait for it are then queued in the order in which they began to wait.
-/
import Mathlib.Algebra.GroupWithZero.Nat
import QueryStream.Loop.Basic

set_option autoImplicit false

namespace QueryStream

namespace Loop

variable {α ε κ : Type} {l : Loop α ε κ} {p q : PromiseId} {s st : Settlement α ε}

/-- The jobs that wait for a promise, in the order in which they began to. -/
def waiting (l : Loop α ε κ) (p : PromiseId) : List κ :=
  (l.promises[p]?.map Promise.watchers).getD []

/-! ## Promises that are there -/

theorem lt_size_of_getElem? {pr : Promise α ε κ} (h : l.promises[p]? = some pr) :
    p < l.promises.size :=
  (Array.getElem?_eq_some_iff.1 h).1

theorem lt_size_of_settlement? (h : l.settlement? p = some s) : p < l.promises.size := by
  refine Nat.lt_of_not_le fun hle => ?_
  simp [settlement?, Array.getElem?_eq_none hle] at h

theorem settlement?_of_unsettled {watchers : List κ}
    (h : l.promises[p]? = some ⟨none, watchers⟩) : l.settlement? p = none := by
  simp [settlement?, h]

/-- A promise that is there and not settled, with the jobs that wait for it. -/
theorem getElem?_of_pending (created : p < l.promises.size) (pending : l.settlement? p = none) :
    l.promises[p]? = some ⟨none, l.waiting p⟩ := by
  obtain ⟨⟨settlement, watchers⟩, found⟩ : ∃ pr, l.promises[p]? = some pr :=
    ⟨_, Array.getElem?_eq_getElem created⟩
  obtain rfl : settlement = none := by simpa [settlement?, found] using pending
  simp [waiting, found]

theorem settlement?_push (pr : Promise α ε κ) (ready : List κ) :
    settlement? ⟨l.promises.push pr, ready⟩ p
      = if p = l.promises.size then pr.settlement else l.settlement? p := by
  unfold settlement?
  rw [Array.getElem?_push]
  split <;> simp

theorem settlement?_set (pr : Promise α ε κ) (ready : List κ) (hq : q < l.promises.size) :
    settlement? ⟨l.promises.setIfInBounds q pr, ready⟩ p
      = if p = q then pr.settlement else l.settlement? p := by
  unfold settlement?
  rw [Array.getElem?_setIfInBounds]
  by_cases hpq : q = p
  · subst hpq
    simp [hq]
  · simp [hpq, Ne.symm hpq]

theorem waiting_push (pr : Promise α ε κ) (ready : List κ) :
    waiting ⟨l.promises.push pr, ready⟩ p
      = if p = l.promises.size then pr.watchers else l.waiting p := by
  unfold waiting
  rw [Array.getElem?_push]
  split <;> simp

theorem waiting_set (pr : Promise α ε κ) (ready : List κ) (hq : q < l.promises.size) :
    waiting ⟨l.promises.setIfInBounds q pr, ready⟩ p
      = if p = q then pr.watchers else l.waiting p := by
  unfold waiting
  rw [Array.getElem?_setIfInBounds]
  by_cases hpq : q = p
  · subst hpq
    simp [hq]
  · simp [hpq, Ne.symm hpq]

/-! ## What settling and waiting come to -/

theorem settle_cases (l : Loop α ε κ) (p : PromiseId) (s : Settlement α ε) :
    l.settle p s = l ∨ ∃ watchers, l.promises[p]? = some ⟨none, watchers⟩ ∧
      l.settle p s = ⟨l.promises.setIfInBounds p ⟨some s, []⟩, l.ready ++ watchers⟩ := by
  unfold settle
  split
  · rename_i watchers h
    exact .inr ⟨watchers, h, rfl⟩
  · exact .inl rfl

theorem watch_cases (l : Loop α ε κ) (p : PromiseId) (k : κ) :
    (∃ watchers, l.promises[p]? = some ⟨none, watchers⟩ ∧
      l.watch p k = { l with
        promises := l.promises.setIfInBounds p ⟨none, watchers ++ [k]⟩ }) ∨
    (∃ s, l.settlement? p = some s ∧ l.watch p k = l.soon k) ∨
    (l.promises[p]? = none ∧ l.watch p k = l) := by
  unfold watch
  split
  · rename_i watchers h
    exact .inl ⟨watchers, h, rfl⟩
  · rename_i s watchers h
    exact .inr (.inl ⟨s, by simp [settlement?, h], rfl⟩)
  · rename_i h
    exact .inr (.inr ⟨h, rfl⟩)

/-- A promise that is there and not settled is settled, and the jobs that wait are queued. -/
theorem settle_of_pending (created : p < l.promises.size) (pending : l.settlement? p = none) :
    l.settle p s = ⟨l.promises.setIfInBounds p ⟨some s, []⟩, l.ready ++ l.waiting p⟩ := by
  simp [settle, getElem?_of_pending created pending]

theorem settle_of_settled (settled : l.settlement? p = some st) : l.settle p s = l := by
  rcases settle_cases l p s with same | ⟨watchers, found, -⟩
  · exact same
  · rw [settlement?_of_unsettled found] at settled
    cases settled

/-- A job that is to wait for such a promise waits, after those that wait already. -/
theorem watch_of_pending (created : p < l.promises.size) (pending : l.settlement? p = none)
    (k : κ) :
    l.watch p k
      = { l with promises := l.promises.setIfInBounds p ⟨none, l.waiting p ++ [k]⟩ } := by
  simp [watch, getElem?_of_pending created pending]

theorem watch_of_settled (settled : l.settlement? p = some s) (k : κ) :
    l.watch p k = l.soon k := by
  rcases watch_cases l p k with ⟨watchers, found, -⟩ | ⟨-, -, same⟩ | ⟨absent, -⟩
  · rw [settlement?_of_unsettled found] at settled
    cases settled
  · exact same
  · simp [settlement?, absent] at settled

theorem canSettle_eq (created : p < l.promises.size) :
    l.canSettle p = (l.settlement? p).isNone := by
  obtain ⟨⟨settlement, watchers⟩, found⟩ : ∃ pr, l.promises[p]? = some pr :=
    ⟨_, Array.getElem?_eq_getElem created⟩
  cases settlement with
  | none => simp [canSettle, settlement?, found]
  | some s => simp [canSettle, settlement?, found]

theorem size_settle (l : Loop α ε κ) (p : PromiseId) (s : Settlement α ε) :
    (l.settle p s).promises.size = l.promises.size := by
  rcases settle_cases l p s with heq | ⟨_, _, heq⟩ <;> simp [heq]

theorem size_watch (l : Loop α ε κ) (p : PromiseId) (k : κ) :
    (l.watch p k).promises.size = l.promises.size := by
  rcases watch_cases l p k with ⟨_, _, heq⟩ | ⟨_, _, heq⟩ | ⟨_, heq⟩ <;> simp [heq, soon]

theorem nextId_lt_size_create (l : Loop α ε κ) : l.nextId < l.create.promises.size := by
  simp [create, nextId]

/-- A promise that is created settled is one that is settled once it is created. -/
theorem createSettled_eq (l : Loop α ε κ) (s : Settlement α ε) :
    l.createSettled s = l.create.settle l.nextId s := by
  simp [createSettled, create, settle, nextId, Array.setIfInBounds_def, Array.set_push]

/-! ## What a promise is settled with -/

theorem settlement?_create : l.create.settlement? p = l.settlement? p := by
  rw [create, settlement?_push]
  split
  · rename_i heq
    simp [heq, settlement?]
  · rfl

theorem settlement?_createSettled (h : (l.createSettled s).settlement? p = some st) :
    l.settlement? p = some st ∨ l.promises.size ≤ p := by
  rw [createSettled, settlement?_push] at h
  split at h
  · rename_i heq
    exact .inr (Nat.le_of_eq heq.symm)
  · exact .inl h

theorem settlement?_watch (k : κ) : (l.watch q k).settlement? p = l.settlement? p := by
  rcases watch_cases l q k with ⟨watchers, found, heq⟩ | ⟨_, _, heq⟩ | ⟨_, heq⟩
  · rw [heq, settlement?_set _ _ (lt_size_of_getElem? found)]
    split
    · rename_i hpq
      rw [hpq, settlement?_of_unsettled found]
    · rfl
  · rw [heq]
    rfl
  · rw [heq]

theorem settlement?_settle (h : (l.settle q s).settlement? p = some st) :
    l.settlement? p = some st ∨ q = p ∧ s = st := by
  rcases settle_cases l q s with heq | ⟨watchers, found, heq⟩
  · exact .inl (heq ▸ h)
  · rw [heq, settlement?_set _ _ (lt_size_of_getElem? found)] at h
    split at h
    · rename_i hpq
      exact .inr ⟨hpq.symm, Option.some.inj h⟩
    · exact .inl h

theorem settlement?_settle_of_ne (other : q ≠ p) :
    (l.settle q s).settlement? p = l.settlement? p := by
  rcases settle_cases l q s with heq | ⟨watchers, found, heq⟩
  · rw [heq]
  · rw [heq, settlement?_set _ _ (lt_size_of_getElem? found), if_neg (Ne.symm other)]

theorem settlement?_settle_self (created : p < l.promises.size) :
    (l.settle p s).settlement? p = (l.settlement? p).or (some s) := by
  rcases settle_cases l p s with heq | ⟨watchers, found, heq⟩
  · cases pending : l.settlement? p with
    | some st => rw [heq, pending, Option.some_or]
    | none =>
        have settled := congrArg (settlement? · p) (settle_of_pending (s := s) created pending)
        simp only [settlement?_set _ _ created, ↓reduceIte] at settled
        exact settled
  · rw [heq, settlement?_set _ _ created, if_pos rfl, settlement?_of_unsettled found,
      Option.none_or]

theorem isDone_settle (h : p < l.promises.size) (s : Settlement α ε) :
    (l.settle p s).isDone p = true := by
  rw [isDone, settlement?_settle_self h]
  cases l.settlement? p <;> rfl

theorem settlement?_settle_of_settled (settled : l.settlement? p = some st) :
    (l.settle q s).settlement? p = some st := by
  by_cases same : q = p
  · subst same
    rw [settlement?_settle_self (lt_size_of_settlement? settled), settled, Option.some_or]
  · rw [settlement?_settle_of_ne same, settled]

theorem settlement?_of_next? {l' : Loop α ε κ} {k : κ} (next : l.next? = some (k, l')) :
    l'.settlement? p = l.settlement? p ∧ l'.promises = l.promises ∧ k ∈ l.ready := by
  unfold next? at next
  split at next
  · cases next
  · rename_i first rest hready
    obtain ⟨rfl, rfl⟩ := Prod.mk.inj (Option.some.inj next)
    exact ⟨rfl, rfl, by simp [hready]⟩

/-! ## The jobs that wait -/

theorem waiting_create : l.create.waiting p = l.waiting p := by
  rw [create, waiting_push]
  split
  · rename_i heq
    simp [heq, waiting]
  · rfl

/-! ## The load -/

/-- Putting one entry in the place of another exchanges what the two count for. -/
theorem sum_map_set {β : Type} (f : β → Nat) (b : β) :
    ∀ {entries : List β} {n : Nat} {a : β}, entries[n]? = some a →
      ((entries.set n b).map f).sum + f a = (entries.map f).sum + f b := by
  intro entries
  induction entries with
  | nil => intro n a found; cases found
  | cons x entries ih =>
      intro n a found
      cases n with
      | zero =>
          obtain rfl : x = a := by simpa using found
          simp only [List.set_cons_zero, List.map_cons, List.sum_cons]
          omega
      | succ n =>
          have rest := ih (n := n) (a := a) (by simpa using found)
          simp only [List.set_cons_succ, List.map_cons, List.sum_cons]
          omega

/-- Jobs that are queued since what they wait for is settled are no more and no fewer. -/
theorem load_settle : (l.settle p s).load = l.load := by
  rcases settle_cases l p s with same | ⟨watchers, found, same⟩
  · rw [same]
  · have listed : l.promises.toList[p]? = some ⟨none, watchers⟩ := by simpa using found
    have counted := sum_map_set (fun pr => pr.watchers.length) ⟨some s, []⟩ listed
    rw [same]
    simp only [load, List.length_append, List.length_flatMap, Array.toList_setIfInBounds]
    simp only [List.length_nil] at counted
    omega

theorem load_of_next? {l' : Loop α ε κ} {k : κ} (next : l.next? = some (k, l')) :
    l.load = l'.load + 1 := by
  unfold next? at next
  split at next
  · cases next
  · rename_i first rest hready
    obtain ⟨rfl, rfl⟩ := Prod.mk.inj (Option.some.inj next)
    simp only [load, hready, List.length_cons]
    omega

end Loop

end QueryStream
