/-
  Proofs/Reports.lean --- how often the discard path reports a failure.

  The discard path tells whoever asks of a failure that nobody else was told of.  It does not
  count itself as somebody: as long as nobody else was told, it tells everyone who asks
  (`reported_askedTwice`).  So it tells one only if somebody else was told before it comes to the
  next one (`Run.reportedOnce`).
-/
import QueryStream.Proofs.Disclosure

set_option autoImplicit false

namespace QueryStream

/-! ## Promises that are kept with a refusal -/

/-- The promises that a move hands out with a refusal to interfere with a stream that is being
read. -/
def Move.refusedPromises : Move → List PromiseId
  | .carried (.keep _ _) r => r.next.filterMap Instruction.offered?
  | _ => []

/-- The promises of the discard path that were handed out in a history. -/
def discardPromises (id : CursorId) (h : List Move) : List PromiseId :=
  reportPromises id h ++ h.flatMap Move.refusedPromises

/-- What is kept is a refusal. -/
def Instruction.Refuses : Instruction → Prop
  | .keep _ d => d = .failure (.arising .nested)
  | _ => True

/-- Promises that were handed out with a refusal are kept with it. -/
structure Refusing (h : List Move) (s : Situation) : Prop where
  refuses : ∀ i ∈ s.agenda, i.Refuses
  kept : ∀ p ∈ h.flatMap Move.refusedPromises,
    s.engine.loop.settlement? p = some (.value (.failure (.arising .nested)))

section Refusals

variable {c : Conduct} {o p : PromiseId} {h : List Move} {s s' : Situation} {m : Move}
  {cursor : Cursor}

/-- A cursor keeps nothing but refusals. -/
theorem Cursor.refuses_of_step {done : Bool} {c c' : Cursor} {a : Cursor.Action}
    {effects : List Cursor.Effect} (accepted : c.step done a = .ok (c', effects)) (id : CursorId) :
    ∀ effect ∈ effects, (Instruction.ofCursor id c' effect).Refuses := by
  intro effect mem
  by_cases asked : ∃ receiver, a = .pullAll receiver
  · obtain ⟨receiver, rfl⟩ := asked
    simp only [Cursor.step] at accepted
    split at accepted
    all_goals
      cases accepted
      obtain rfl := List.mem_singleton.1 mem
    · rfl
    · trivial
  · cases (Cursor.steps_of_step accepted).yields mem with
    | keep => exact absurd ⟨_, rfl⟩ asked
    | _ => trivial

theorem Instruction.refuses_of_outer {i : Instruction} (outer : i.isInner = false) : i.Refuses := by
  cases i with
  | keep receiver d => cases outer
  | _ => trivial

theorem Engine.refuses_exec {e : Engine} {i j : Instruction} (mem : j ∈ (e.exec i).2.next) :
    j.Refuses := by
  cases leads_exec mem with
  | @stream _ _ _ effect => cases effect <;> trivial
  | cursor found accepted yields => exact Cursor.refuses_of_step accepted _ _ yields
  | iteration found effects among | left th found effects among =>
      cases puts_of_mem among <;> trivial
  | hand p receives among => cases hands_of_mem among <;> trivial
  | body among => cases setsOut_of_mem among <;> trivial
  | exhausted among =>
      obtain ⟨d, rfl⟩ := finish_of_mem_exhausted among
      trivial
  | _ => trivial

theorem Engine.keep_settled {e : Engine} {receiver : Receiver} {d : Delivery}
    (mem : p ∈ (e.exec (.keep receiver d)).2.next.filterMap Instruction.offered?) :
    (e.exec (.keep receiver d)).1.loop.settlement? p = some (.value d) := by
  obtain rfl := eq_of_mem_offered mem
  simp [exec, keep, Loop.createSettled, Loop.settlement?, Loop.nextId]

theorem Refusing.step (refusing : Refusing h s) (orderly : Orderly h s) (step : Step s m s')
    (permitted : c.Permits h m) : Refusing (m :: h) s' := by
  have onward := step.onward orderly.steady
  refine ⟨fun j mem => ?_, fun p mem => ?_⟩
  · cases step with
    | carry own =>
        rcases Reply.mem_onto mem with mem | mem | ⟨g, th, rfl⟩
        · exact refusing.refuses j (List.mem_cons_of_mem _ mem)
        · exact Engine.refuses_exec mem
        · trivial
    | answer r =>
        rcases Reply.mem_onto mem with mem | mem | ⟨g, th, rfl⟩
        · exact refusing.refuses j (List.mem_cons_of_mem _ mem)
        · have answers : c.Answers _ r := permitted.2
          cases answers with
          | calls _ made _ =>
              exact Instruction.refuses_of_outer
                (Instruction.isInner_eq_false_of_isCall (made j mem).1)
          | released t | unending t => exact List.mem_singleton.1 mem ▸ trivial
          | _ => cases mem
        · trivial
    | begin next => exact Instruction.refuses_of_outer ((Engine.began_runJob _ _).next j mem).1
    | call next =>
        exact Instruction.refuses_of_outer
          (Instruction.isInner_eq_false_of_isCall (permitted.2 j mem).1)
  · rw [List.flatMap_cons] at mem
    rcases List.mem_append.1 mem with mem | mem
    · unfold Move.refusedPromises at mem
      split at mem
      · rename_i receiver d r _
        obtain ⟨rest, head⟩ := step.head_of_carried
        obtain ⟨move, rfl⟩ := step.exec_of_head head rfl
        obtain rfl := (Move.carried.inj move).2
        have refusal : d = .failure (.arising .nested) :=
          refusing.refuses (.keep receiver d) (by simp [head])
        exact refusal ▸ Engine.keep_settled mem
      · cases mem
    · exact onward.settled (refusing.kept p mem)

theorem Run.refusing {e : Engine} (secluded : e.Secluded o) (sole : c.Sole) (holds : c.Holds)
    (run : Run c ⟨e, []⟩ h s) : Refusing h s := by
  obtain ⟨_, start⟩ := secluded.paired
  have both : (∃ cursor, Paired o h s cursor) ∧ Refusing h s := by
    refine run.invariant (I := fun h s => (∃ cursor, Paired o h s cursor) ∧ Refusing h s)
      ⟨⟨_, start⟩, by simp, by simp⟩ ?_
    rintro h s s' m ⟨⟨cursor, paired⟩, refusing⟩ step permitted
    exact ⟨paired.step sole holds step permitted, refusing.step paired.orderly step permitted⟩
  exact both.2

end Refusals

/-! ## Reports of one failure -/

section Reports

variable {c : Conduct} {o p q : PromiseId} {h : List Move} {s s' : Situation} {m : Move}
  {cursor : Cursor} {runError : Option Failure} {f : Failure}

/-- A promise carries a failure to who asked for it. -/
def Engine.Carries (e : Engine) (p : PromiseId) (f : Failure) : Prop :=
  e.loop.settlement? p = some (.value (.failure f))

/-- Whenever the discard path comes to a promise after it told somebody else of a failure, others
were told of that failure too. -/
def Relayed (o : PromiseId) (runError : Option Failure) (f : Failure) (h : List Move)
    (s : Situation) : Prop :=
  ∀ later earlier p q, h = later ++ .began (.report 0 o q) :: earlier →
    .began (.report 0 o p) ∈ earlier → p ≠ q → s.engine.Carries p f → Told 0 runError f earlier

/-- How often the discard path reported a failure, in a history and where it led. -/
structure Reported (o : PromiseId) (runError : Option Failure) (f : Failure) (h : List Move)
    (s : Situation) : Prop where
  /-- it told of it only those it came to before anybody else was told -/
  untold : ∀ p ∈ discardPromises 0 h, s.engine.Carries p f →
    ∃ later earlier, h = later ++ .began (.report 0 o p) :: earlier ∧ ¬ Told 0 runError f earlier
  /-- it told one, if others were told before it came to the next -/
  once : Relayed o runError f h s → ∀ p q, p ∈ discardPromises 0 h → q ∈ discardPromises 0 h →
    s.engine.Carries p f → s.engine.Carries q f → p = q

/-- Of two entries of a list one comes first. -/
theorem eq_or_mem_of_append {α : Type} {a b : α} {l later later' earlier earlier' : List α}
    (first : l = later ++ a :: earlier) (second : l = later' ++ b :: earlier') :
    a = b ∨ a ∈ earlier' ∨ b ∈ earlier := by
  rw [second, List.append_eq_append_iff] at first
  rcases first with ⟨between, -, same⟩ | ⟨between, -, same⟩
  · cases between with
    | nil => exact .inl (List.cons.inj same).1.symm
    | cons _ between =>
        refine .inr (.inl ?_)
        rw [(List.cons.inj same).2]
        simp
  · cases between with
    | nil => exact .inl (List.cons.inj same).1
    | cons _ between =>
        refine .inr (.inr ?_)
        rw [(List.cons.inj same).2]
        simp

/-- The discard path reports a failure as long as nobody else was told of it.  So it is reported
once if others are told before the discard path comes to the next promise. -/
theorem Run.reportedOnce {e : Engine} (secluded : e.Secluded o) (sole : c.Sole)
    (holds : c.Holds) (run : Run c ⟨e, []⟩ h s) (found : s.engine.cursors[0]? = some cursor)
    (failed : s.engine.loop.settlement? o = some (.failure f)) (other : f ≠ .arising .nested) :
    Reported o cursor.runError f h s := by
  have report : ∀ p ∈ discardPromises 0 h, s.engine.Carries p f →
      ∃ later earlier, h = later ++ .began (.report 0 o p) :: earlier ∧
        ¬ Told 0 cursor.runError f earlier := by
    intro p handed carries
    rcases List.mem_append.1 handed with handed | refused
    · have disclosure := run.disclosed secluded sole holds found failed handed
      obtain ⟨earlier, ⟨later, ran⟩, -, withheld, -⟩ := disclosure.settled _ carries (by simp)
      refine ⟨later, earlier, ran, fun told => ?_⟩
      cases withheld.2 told
    · have kept := (run.refusing secluded sole holds).kept p refused
      rw [carries] at kept
      exact absurd (by simpa using kept) other
  refine ⟨report, fun relayed p q handed handed' carries carries' => ?_⟩
  obtain ⟨later, earlier, ran, untold⟩ := report p handed carries
  obtain ⟨later', earlier', ran', untold'⟩ := report q handed' carries'
  refine Classical.byContradiction fun apart => ?_
  rcases eq_or_mem_of_append ran ran' with same | first | first
  · exact apart (by simpa using same)
  · exact untold' (relayed later' earlier' p q ran' first apart carries)
  · exact untold (relayed later earlier q p ran first (Ne.symm apart) carries')

end Reports

/-! ## Reports that are worked out -/

/-- Whether a move is the job of a promise of the discard path. -/
def Move.isReport : Move → Bool
  | .began (.report _ _ _) => true
  | _ => false

/-- Whether the summary was asked for before the discard path came to its second promise. -/
def summaryBetween : List Move → Bool
  | [] => true
  | m :: h =>
      (!m.isReport || !h.any Move.isReport || h.any (Move.asksSummary 0)) && summaryBetween h

theorem relayed_of_summaryBetween {o : PromiseId} {runError : Option Failure} {f : Failure}
    {s : Situation} : ∀ {h : List Move}, summaryBetween h = true → Relayed o runError f h s := by
  intro h
  induction h with
  | nil =>
      intro _ later earlier p q split
      simp at split
  | cons m h ih =>
      intro between later earlier p q split began apart carries
      simp only [summaryBetween, Bool.and_eq_true] at between
      cases later with
      | nil =>
          obtain ⟨rfl, rfl⟩ := List.cons.inj split
          have reports : h.any Move.isReport = true := List.any_eq_true.2 ⟨_, began, rfl⟩
          exact .summary (by simpa [Move.isReport, reports] using between.1)
      | cons _ later =>
          exact ih between.2 later earlier p q (List.cons.inj split).2 began apart carries

/-- The failure is asked for, and the stream fails; the failure is asked for once more, and once
more after the summary was asked for. -/
def askTwice (summaryFirst : Bool) : List Act :=
  [.calls [.cursor 0 (.discardAll (.caller "first")), .stream (.fail brokenLink)], .job, .job,
    .calls ((if summaryFirst then [.cursor 0 (.summary .nobody)] else [])
      ++ [.cursor 0 (.discardAll (.caller "second"))]), .job, .job]

/-- Where asking again leads, with its history. -/
def askedTwice (summaryFirst : Bool) : List Move × Situation :=
  Situation.acts 32 (askTwice summaryFirst) ([], ⟨soleEngine, []⟩)

/-- The failure that a promise was kept with. -/
def Engine.carried? (e : Engine) (p : PromiseId) : Option Failure :=
  match e.loop.settlement? p with
  | some (.value (.failure f)) => some f
  | _ => none

theorem Engine.carries_of_carried? {e : Engine} {p : PromiseId} {f : Failure}
    (carried : e.carried? p = some f) : e.Carries p f := by
  unfold carried? at carried
  split at carried
  · cases carried
    assumption
  · cases carried

/-- With nobody else told in between, both who ask are told. -/
theorem reported_askedTwice :
    discardPromises 0 (askedTwice false).1 = [2, 1] ∧
      (askedTwice false).2.engine.Carries 1 brokenLink ∧
      (askedTwice false).2.engine.Carries 2 brokenLink :=
  ⟨by decide +kernel, Engine.carries_of_carried? (by decide +kernel),
    Engine.carries_of_carried? (by decide +kernel)⟩

theorem reportedOnce_summaryBetween :
    ∃ f, Reported 0 none f (askedTwice true).1 (askedTwice true).2 ∧
      Relayed 0 none f (askedTwice true).1 (askedTwice true).2 ∧
      discardPromises 0 (askedTwice true).1 = [2, 1] ∧
      [1, 2].map (askedTwice true).2.engine.keepsFailure = [true, false] := by
  have run : Run .discreet ⟨soleEngine, []⟩ (askedTwice true).1 (askedTwice true).2 :=
    .of_acts rfl (by decide +kernel) (by decide +kernel)
  have noError : (askedTwice true).2.engine.cursors[0]?.map Cursor.runError = some none := by
    decide +kernel
  obtain ⟨cursor, found, runError⟩ := Option.map_eq_some_iff.1 noError
  have failure : (askedTwice true).2.engine.failure? 0 = some brokenLink := by decide +kernel
  obtain ⟨f, failed⟩ := Engine.failed_of_failure? (Option.isSome_of_eq_some failure)
  have same : f = brokenLink := by simpa [Engine.failure?, failed] using failure
  have other : f ≠ .arising .nested := same ▸ by decide
  have reported := run.reportedOnce secluded_soleEngine Conduct.discreet_sole
    Conduct.discreet_holds found failed other
  rw [runError] at reported
  exact ⟨f, reported, relayed_of_summaryBetween (by decide +kernel), by decide +kernel,
    by decide +kernel⟩

end QueryStream
