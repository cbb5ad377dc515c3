/-
  Proofs/Granting/Calls.lean --- calls for the records of a result.

  A call first settles how many records are to be requested at a time: the value given under
  either name of the parameter, or else what the options of the result say.  A value that does
  not count is refused, and so is a second call.  Only then is the result marked and an iteration
  made, for the cursor to take and for the call to hand out (`Engine.begins_exec`).

  So a result is marked exactly when an iteration was made for it, which happens once
  (`Run.recorded`); and of what the agenda has left to hand out and what was handed out an
  iteration is one entry at most (`Run.entries_le`).
-/
import QueryStream.Proofs.Asking
import QueryStream.Proofs.LeavingEarly

set_option autoImplicit false

namespace QueryStream

/-! ## What a call settles on -/

theorem FetchSize.kind_of_ofValue? {v : Value} {cause : Cause}
    (refused : ofValue? v = .error cause) : cause.kind = .value := by
  unfold ofValue? ofInt? at refused
  split at refused
  · split at refused
    · cases refused
      rfl
    · split at refused <;> cases refused
      rfl
  · cases refused
    rfl

theorem Parameter.kind_of_resolve {v w : Value} {cause : Cause} (p : Parameter)
    (refused : (p.resolve v w).2 = .error cause) : cause.kind = .value := by
  unfold resolve at refused
  split at refused
  · cases refused
  · split at refused <;> cases refused
    rfl

namespace QueryResult

/-- The number of records to request at a time that a call settles on, whether or not the records
were asked for before. -/
def batch (r : QueryResult) (fetchSize former : Value) : Except Cause FetchSize := do
  let chosen ← (fetchSizeParameter.resolve fetchSize former).2
  if chosen.isNull then pure r.options.fetchSize else FetchSize.ofValue? chosen

/-- The warnings that are due to a call: one if a value is given under the former name. -/
def warnings (fetchSize former : Value) : List String :=
  (fetchSizeParameter.resolve fetchSize former).1.toList

variable {r : QueryResult} {fetchSize former : Value} {cause : Cause}

/-- A call is refused for its values first, and then for coming too late. -/
theorem start_eq (r : QueryResult) (fetchSize former : Value) :
    r.start fetchSize former =
      ((fetchSizeParameter.resolve fetchSize former).1, do
        let size ← r.batch fetchSize former
        if r.isStarted then .error .alreadyIterated else return size) := by
  unfold start batch
  rcases fetchSizeParameter.resolve fetchSize former with ⟨warning, cause | v⟩
  · rfl
  · cases empty : v.isNull <;> simp [bind, Except.bind, pure, Except.pure, empty]

/-- Values that do not count are refused as such. -/
theorem kind_of_batch (refused : r.batch fetchSize former = .error cause) :
    cause.kind = .value := by
  unfold batch at refused
  cases chosen : (fetchSizeParameter.resolve fetchSize former).2 with
  | error other =>
      rw [chosen] at refused
      cases refused
      exact fetchSizeParameter.kind_of_resolve chosen
  | ok v =>
      simp only [chosen, bind, Except.bind] at refused
      split at refused
      · cases refused
      · exact FetchSize.kind_of_ofValue? refused

end QueryResult

/-- The warnings that stand on an agenda. -/
def warns (texts : List String) : List Instruction := texts.map fun text => .ask (.warn text)

/-! ## How a call begins -/

/-- The iterations that a move has left to hand out for a result. -/
def Move.granted (q : ResultId) : Move → List IterationId
  | .carried (.records q' _ _ _) r => if q' = q then r.next.filterMap Instruction.handsOut? else []
  | _ => []

/-- The iterations that were made for a result in a history, latest first. -/
def granted (q : ResultId) (h : List Move) : List IterationId := h.flatMap (Move.granted q)

/-- How often an iteration that was made for a result was handed out in a history. -/
def handings (q : ResultId) (h : List Move) : Nat :=
  h.countP fun m => (granted q h).any fun k => m.handsOut k

/-- Whether the records of a result were asked for. -/
def Engine.isStarted (e : Engine) (q : ResultId) : Bool :=
  e.results[q]?.any QueryResult.isStarted

section Calls

variable {c : Conduct} {start : Situation} {h : List Move} {s s' : Situation} {m : Move}
  {e e' : Engine} {i j : Instruction} {q : ResultId} {k : IterationId} {result : QueryResult}
  {fetchSize former : Value} {receiver : Receiver}

namespace Engine

/-- How a call for the records of a result begins. -/
inductive Begins (e : Engine) (q : ResultId) (fetchSize former : Value) (receiver : Receiver) :
    Engine × Reply → Prop
  | absent (found : e.results[q]? = none) : Begins e q fetchSize former receiver (e, .go [])
  /-- the values given do not count -/
  | refused {result : QueryResult} {cause : Cause} (found : e.results[q]? = some result)
      (batch : result.batch fetchSize former = .error cause) :
      Begins e q fetchSize former receiver
        (e, .go (warns (QueryResult.warnings fetchSize former) ++ [.throw (.arising cause)]))
  /-- the records were asked for before -/
  | again {result : QueryResult} {size : FetchSize} (found : e.results[q]? = some result)
      (batch : result.batch fetchSize former = .ok size) (started : result.isStarted = true) :
      Begins e q fetchSize former receiver
        (e, .go (warns (QueryResult.warnings fetchSize former) ++
          [.throw (.arising .alreadyIterated)]))
  | first {result : QueryResult} {size : FetchSize} (found : e.results[q]? = some result)
      (batch : result.batch fetchSize former = .ok size) (unstarted : result.isStarted = false) :
      Begins e q fetchSize former receiver
        ({ e with
            results := e.results.setIfInBounds q { result with isStarted := true }
            iterations := e.iterations.push (.ofCursor result.cursor size) },
          .go (warns (QueryResult.warnings fetchSize former) ++
            [.cursor result.cursor (.install (.feed e.iterations.size)),
              .handIteration receiver e.iterations.size]))

theorem begins_exec (e : Engine) (q : ResultId) (fetchSize former : Value)
    (receiver : Receiver) :
    e.Begins q fetchSize former receiver (e.exec (.records q fetchSize former receiver)) := by
  have warned : (QueryResult.fetchSizeParameter.resolve fetchSize former).1.toList.map
      (fun text => Instruction.ask (.warn text))
        = warns (QueryResult.warnings fetchSize former) := rfl
  cases found : e.results[q]? with
  | none =>
      simp only [exec, startRecords, found]
      exact .absent found
  | some result =>
      simp only [exec, startRecords, found, result.start_eq, warned]
      cases batch : result.batch fetchSize former with
      | error cause => exact .refused found batch
      | ok size =>
          cases started : result.isStarted with
          | true => exact .again found batch started
          | false => exact .first found batch started

/-! ## Results -/

theorem results_signal (k : IterationId) (signal : Signal) :
    (e.signal k signal).results = e.results := by
  unfold Engine.signal
  split
  · rfl
  · split <;> rfl

theorem Alters.isStarted (alters : e.Alters i e')
    (other : ∀ fetchSize former receiver, i ≠ .records q fetchSize former receiver) :
    e'.isStarted q = e.isStarted q := by
  cases alters with
  | @records q' result size fetchSize former receiver found =>
      have apart : q' ≠ q := fun same => other fetchSize former receiver (same ▸ rfl)
      simp [Engine.isStarted, apart]
  | openResult id options =>
      simp only [Engine.isStarted, Array.getElem?_push]
      split
      · rename_i new
        simp [new]
      · rfl
  | record n r | ended n f =>
      unfold Engine.isStarted
      rw [results_signal]
  | cancel p =>
      unfold Engine.isStarted
      rw [(e.aloof_cancel p).results]
  | finish t d st | caught t th st =>
      unfold Engine.isStarted
      rw [(e.aloof_endTask t st).results]
  | _ => rfl

end Engine

/-- What a call for the records of a result leads to is how it begins. -/
theorem Step.begins {r : Reply}
    (step : Step s (.carried (.records q fetchSize former receiver) r) s') :
    s.engine.Begins q fetchSize former receiver (s'.engine, r) :=
  step.exec_of_carried ▸ s.engine.begins_exec q fetchSize former receiver

theorem granted_cons (q : ResultId) (m : Move) (h : List Move) :
    granted q (m :: h) = m.granted q ++ granted q h := List.flatMap_cons

@[simp] theorem filterMap_handsOut?_warns (texts : List String) :
    (warns texts).filterMap Instruction.handsOut? = [] := by
  induction texts with
  | nil => rfl
  | cons text texts ih => exact ih

/-- A call that has an iteration handed out made it. -/
theorem Move.granted_records (texts : List String) (id : CursorId) (a : Cursor.Action) :
    (Move.carried (.records q fetchSize former receiver)
      (.go (warns texts ++ [.cursor id a, .handIteration receiver k]))).granted q = [k] := by
  simp only [Move.granted, if_true, Reply.next_go, List.filterMap_append, filterMap_handsOut?_warns]
  rfl

/-- A move makes an iteration for a result and marks the result, or does neither. -/
theorem Step.granted_cases (step : Step s m s') (q : ResultId) :
    m.granted q = [] ∧ s'.engine.isStarted q = s.engine.isStarted q ∨
      m.granted q = [s.engine.iterations.size] ∧ s.engine.isStarted q = false ∧
        s'.engine.isStarted q = true := by
  cases step with
  | answer r => exact .inl ⟨rfl, rfl⟩
  | call next => exact .inl ⟨rfl, rfl⟩
  | @begin e j loop next =>
      refine .inl ⟨rfl, ?_⟩
      have same := (Engine.aloof_runJob { e with loop } j).results
      simp only [Engine.isStarted] at same ⊢
      rw [same]
  | @carry e i rest own =>
      by_cases call : ∃ fetchSize former receiver, i = .records q fetchSize former receiver
      · obtain ⟨fetchSize, former, receiver, rfl⟩ := call
        have begins := e.begins_exec q fetchSize former receiver
        generalize e.exec (.records q fetchSize former receiver) = after at begins ⊢
        cases begins with
        | absent | refused | again =>
            exact .inl ⟨by simp [Move.granted, Instruction.handsOut?], rfl⟩
        | first found batch unstarted =>
            have inBounds := (Array.getElem?_eq_some_iff.1 found).1
            refine .inr ⟨Move.granted_records .., ?_, ?_⟩
            · simp [Engine.isStarted, found, unstarted]
            · simp [Engine.isStarted, inBounds]
      · have other : ∀ fetchSize former receiver, i ≠ .records q fetchSize former receiver :=
          fun fetchSize former receiver same => call ⟨fetchSize, former, receiver, same⟩
        refine .inl ⟨?_, (e.alters_exec i).isStarted other⟩
        unfold Move.granted
        split
        · rename_i q' fetchSize former receiver r same
          have apart : q' ≠ q := fun heq => by
            cases same
            exact other fetchSize former receiver (by rw [heq])
          exact if_neg apart
        · rfl

/-- For a result that is not marked no iteration was made, and for one that is marked just
one. -/
structure Granted (q : ResultId) (h : List Move) (s : Situation) : Prop where
  unstarted : s.engine.isStarted q = false → granted q h = []
  started : s.engine.isStarted q = true → ∃ k, granted q h = [k]

theorem Granted.step (recorded : Granted q h s) (step : Step s m s') : Granted q (m :: h) s' := by
  rcases step.granted_cases q with ⟨nothing, same⟩ | ⟨one, unstarted, started⟩
  · refine ⟨fun unmarked => ?_, fun marked => ?_⟩
    · rw [granted_cons, nothing]
      exact recorded.unstarted (same ▸ unmarked)
    · rw [granted_cons, nothing]
      exact recorded.started (same ▸ marked)
  · refine ⟨fun unmarked => ?_, fun _ => ⟨s.engine.iterations.size, ?_⟩⟩
    · cases started.symm.trans unmarked
    · rw [granted_cons, one, recorded.unstarted unstarted]
      rfl

/-- A result is marked exactly when an iteration was made for it, which happens once. -/
theorem Run.recorded {e : Engine} (fresh : ∀ q, e.isStarted q = false)
    (run : Run c ⟨e, []⟩ h s) (q : ResultId) : Granted q h s :=
  run.invariant (I := fun h s => Granted q h s)
    ⟨fun _ => rfl, fun marked => by cases (fresh q).symm.trans marked⟩
    fun recorded step _ => recorded.step step

/-! ## Handing out -/

/-- Whether an instruction hands out an iteration. -/
def Instruction.hands (k : IterationId) (i : Instruction) : Bool := i.handsOut? == some k

theorem countP_hands_warns (texts : List String) :
    (warns texts).countP (Instruction.hands k) = 0 :=
  List.countP_eq_zero.2 fun i mem => by
    obtain ⟨text, -, rfl⟩ := List.mem_map.1 mem
    simp [Instruction.hands, Instruction.handsOut?]

/-- How often an iteration was handed out, or is to be. -/
def entries (k : IterationId) (h : List Move) (s : Situation) : Nat :=
  h.countP (Move.handsOut k) + s.agenda.countP (Instruction.hands k)

theorem Step.size_le (step : Step s m s') :
    s.engine.iterations.size ≤ s'.engine.iterations.size := by
  refine Nat.le_of_not_lt fun made => ?_
  obtain ⟨it, found, -⟩ := step.tended (Array.getElem?_eq_getElem made)
  simp at found

theorem Step.countP_brings_le (step : Step s m s') (permitted : c.Permits h m) :
    m.brings.countP (Instruction.hands k) ≤
      if k = s.engine.iterations.size ∧ k < s'.engine.iterations.size then 1 else 0 := by
  have outside : m.outside.countP (Instruction.hands k) = 0 :=
    List.countP_eq_zero.2 fun i mem => by
      simp [Instruction.hands, permitted.handsOut?_outside mem]
  cases step with
  | answer r => exact Nat.le_trans (Nat.le_of_eq outside) (Nat.zero_le _)
  | call next => exact Nat.le_trans (Nat.le_of_eq outside) (Nat.zero_le _)
  | begin next => exact Nat.zero_le _
  | @carry e i rest own =>
      simp only [Move.brings]
      by_cases call : ∃ q fetchSize former receiver, i = .records q fetchSize former receiver
      · obtain ⟨q, fetchSize, former, receiver, rfl⟩ := call
        have begins := e.begins_exec q fetchSize former receiver
        generalize e.exec (.records q fetchSize former receiver) = after at begins ⊢
        cases begins with
        | absent | refused | again =>
            simp [countP_hands_warns, Instruction.hands, Instruction.handsOut?]
        | first found batch unstarted =>
            simp only [Reply.next_go, List.countP_append, countP_hands_warns, Nat.zero_add,
              Array.size_push]
            by_cases made : k = e.iterations.size
            · subst made
              rw [if_pos ⟨rfl, Nat.lt_succ_self _⟩]
              simp [Instruction.hands, Instruction.handsOut?]
            · have other : ¬ e.iterations.size = k := fun same => made same.symm
              simp [Instruction.hands, Instruction.handsOut?, other]
      · have nothing : (e.exec i).2.next.countP (Instruction.hands k) = 0 :=
          List.countP_eq_zero.2 fun j mem hands => by
            obtain ⟨q, fetchSize, former, receiver, rfl, -⟩ :=
              (Engine.leads_exec mem).of_handsOut? (eq_of_beq hands)
            exact call ⟨q, fetchSize, former, receiver, rfl⟩
        exact Nat.le_trans (Nat.le_of_eq nothing) (Nat.zero_le _)

/-- What hands out an iteration is taken off the agenda. -/
theorem Step.handsOut_le (step : Step s m s') (k : IterationId) :
    (if m.handsOut k = true then 1 else 0) + s.agenda.tail.countP (Instruction.hands k) ≤
      s.agenda.countP (Instruction.hands k) := by
  by_cases hands : m.handsOut k = true
  · unfold Move.handsOut at hands
    split at hands
    · rename_i receiver k' r
      obtain rfl := eq_of_beq hands
      obtain ⟨rest, head⟩ := step.head_of_carried
      simp [head, Move.handsOut, Instruction.hands, Instruction.handsOut?, Nat.add_comm]
    · cases hands
  · rw [if_neg hands, Nat.zero_add]
    exact (List.tail_sublist _).countP_le

theorem Step.entries_le (step : Step s m s') (permitted : c.Permits h m) :
    entries k (m :: h) s' ≤ entries k h s +
      if k = s.engine.iterations.size ∧ k < s'.engine.iterations.size then 1 else 0 := by
  have agenda : s'.agenda.countP (Instruction.hands k) ≤
      m.brings.countP (Instruction.hands k) + s.agenda.tail.countP (Instruction.hands k) :=
    step.countP_agenda_le (fun g th => rfl) fun e j i leads => by cases leads <;> rfl
  have brings := step.countP_brings_le (k := k) permitted
  have taken := step.handsOut_le k
  simp only [entries, List.countP_cons]
  omega

/-- An iteration that was made has one entry at most, and one that was not made has none. -/
theorem Run.entries_le {e : Engine} (run : Run c ⟨e, []⟩ h s) (k : IterationId) :
    entries k h s ≤ if k < s.engine.iterations.size then 1 else 0 := by
  refine run.invariant
    (I := fun h s => entries k h s ≤ if k < s.engine.iterations.size then 1 else 0)
    (Nat.zero_le _) fun {h s s' m} bounded step permitted => ?_
  have next := step.entries_le (k := k) permitted
  have grows := step.size_le
  by_cases made : k < s.engine.iterations.size
  · rw [if_pos made] at bounded
    rw [if_neg fun new => Nat.ne_of_lt made new.1] at next
    rw [if_pos (Nat.lt_of_lt_of_le made grows)]
    omega
  · rw [if_neg made] at bounded
    by_cases makes : k < s'.engine.iterations.size
    · rw [if_pos makes]
      split at next <;> omega
    · rw [if_neg fun new => makes new.2] at next
      omega

/-- An iteration that is to be handed out was made, and is so for the first time. -/
theorem Run.of_due {e : Engine} (run : Run c ⟨e, []⟩ h s) {front rest : List Instruction}
    (agenda : s.agenda = front ++ .handIteration receiver k :: rest) :
    k < s.engine.iterations.size ∧ ¬ HandedOut k h ∧
      ∀ receiver', .handIteration receiver' k ∉ rest := by
  have bounded := run.entries_le k
  have here : Instruction.hands k (.handIteration receiver k) = true := beq_self_eq_true _
  simp only [entries, agenda, List.countP_append, List.countP_cons, if_pos here] at bounded
  have made : k < s.engine.iterations.size := by
    by_cases made : k < s.engine.iterations.size
    · exact made
    · rw [if_neg made] at bounded
      omega
  rw [if_pos made] at bounded
  refine ⟨made, fun handed => ?_, fun receiver' mem => ?_⟩
  · obtain ⟨receiver', r, mem⟩ := handed
    have some : 0 < h.countP (Move.handsOut k) :=
      List.countP_pos_iff.2 ⟨_, mem, beq_self_eq_true k⟩
    omega
  · have some : 0 < rest.countP (Instruction.hands k) :=
      List.countP_pos_iff.2 ⟨_, mem, beq_self_eq_true _⟩
    omega

/-- An iteration that was made and is never handed out. -/
structure Withheld (k : IterationId) (h : List Move) (s : Situation) : Prop where
  made : k < s.engine.iterations.size
  nowhere : entries k h s = 0

theorem Withheld.step (withheld : Withheld k h s) (step : Step s m s')
    (permitted : c.Permits h m) : Withheld k (m :: h) s' := by
  have next := step.entries_le (k := k) permitted
  have made := withheld.made
  have nowhere := withheld.nowhere
  refine ⟨Nat.lt_of_lt_of_le made step.size_le, ?_⟩
  rw [if_neg fun new => Nat.ne_of_lt made new.1] at next
  omega

theorem Withheld.not_handedOut (withheld : Withheld k h s) : ¬ HandedOut k h := by
  rintro ⟨receiver, r, mem⟩
  have some : 0 < h.countP (Move.handsOut k) :=
    List.countP_pos_iff.2 ⟨_, mem, beq_self_eq_true k⟩
  have nowhere := withheld.nowhere
  unfold entries at nowhere
  omega

/-- The iterations that were made for a result are handed out once altogether. -/
theorem Run.handings_le {e : Engine} (fresh : ∀ q, e.isStarted q = false)
    (run : Run c ⟨e, []⟩ h s) (q : ResultId) : handings q h ≤ 1 := by
  have recorded := run.recorded fresh q
  cases started : s.engine.isStarted q with
  | false => simp [handings, recorded.unstarted started]
  | true =>
      obtain ⟨k, one⟩ := recorded.started started
      have bounded := run.entries_le k
      have handed : handings q h = h.countP (Move.handsOut k) := by simp [handings, one]
      rw [handed]
      unfold entries at bounded
      split at bounded <;> omega

/-- What is handed out, or is to be, was made for a result. -/
theorem Run.exists_granted {e : Engine} (run : Run c ⟨e, []⟩ h s)
    (handed : HandedOut k h ∨ ∃ receiver, .handIteration receiver k ∈ s.agenda) :
    ∃ q, k ∈ granted q h := by
  induction run with
  | nil =>
      rcases handed with ⟨receiver, r, mem⟩ | ⟨receiver, mem⟩ <;> cases mem
  | @snoc h s s' m run step permitted ih =>
      have earlier : (HandedOut k h ∨ ∃ receiver, .handIteration receiver k ∈ s.agenda) →
          ∃ q, k ∈ granted q (m :: h) := fun before =>
        (ih before).imp fun q mem => by
          rw [granted_cons]
          exact List.mem_append_right _ mem
      rcases handed with ⟨receiver, r, mem⟩ | ⟨receiver, mem⟩
      · rcases List.mem_cons.1 mem with rfl | mem
        · obtain ⟨rest, head⟩ := step.head_of_carried
          exact earlier (.inr ⟨receiver, by simp [head]⟩)
        · exact earlier (.inl ⟨receiver, r, mem⟩)
      · rcases step.of_handing permitted mem with mem | ⟨q, fetchSize, former, rest, head, rfl⟩
        · exact earlier (.inr ⟨receiver, List.mem_of_mem_tail mem⟩)
        · obtain ⟨rfl, rfl⟩ := step.exec_of_head head rfl
          rcases Reply.mem_onto mem with behind | next | ⟨g, th, same⟩
          · exact earlier (.inr ⟨receiver, by simp [head, behind]⟩)
          · refine ⟨q, ?_⟩
            rw [granted_cons]
            refine List.mem_append_left _ ?_
            simp only [Move.granted, if_true]
            exact List.mem_filterMap.2 ⟨_, next, rfl⟩
          · cases same

end Calls

end QueryStream
