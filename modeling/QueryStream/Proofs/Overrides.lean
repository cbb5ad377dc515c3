/-
  Proofs/Overrides.lean --- options that are overridden time after time.

  Full options are overridden by options of which some settings may be open, by full ones, or by
  none at all, one after the other.  However many these are, each setting ends as the last of them
  that defines it has it, and as it was at first if none does, whatever becomes of the other
  setting.  A setting is defined if it is given, not by what it is given as: no value, zero and
  minus one are caps like any other.  All of the overrides merged are one that does the same
  (`FullOptions.overridden`).

  THE NUMBER OF RECORDS.  It is looked at in three places: where options are made, by a cursor and
  by a stream.  Their bounds differ, but what the first lets pass neither of the others refuses
  (`Cursor.takes_fetchSize`, `Stream.takes_fetchSize`).

  OPERANDS.  Options are values.  Overriding makes others of them, and changes none.
-/
import Mathlib.Data.List.Induction
import Mathlib.Data.List.ReduceOption
import QueryStream.Options
import QueryStream.Proofs.Cursor.Steps
import QueryStream.Proofs.Stream.Steps

set_option autoImplicit false

namespace QueryStream

/-! ## The last of several settings -/

/-- The last value in a list of which some may be missing. -/
def lastDefined {α : Type} (settings : List (Option α)) : Option α :=
  settings.reduceOption.getLast?

section LastDefined

variable {α β : Type} {settings : List (Option α)} {setting : Option α}

theorem lastDefined_append_singleton :
    lastDefined (settings ++ [setting]) = setting.or (lastDefined settings) := by
  cases setting <;> simp [lastDefined, List.reduceOption_append]

theorem lastDefined_map (f : α → β) :
    lastDefined (settings.map (Option.map f)) = (lastDefined settings).map f := by
  simp [lastDefined, List.reduceOption_map]

end LastDefined

/-! ## Merging -/

/-- Options of which every setting is open. -/
def StreamOptions.allOpen : StreamOptions := ⟨none, none⟩

namespace AnyOptions

/-- The settings that options define, if any are given. -/
def settings (given : Option AnyOptions) : StreamOptions :=
  (given.map toOptions).getD .allOpen

/-- The settings of several options in one, later ones before earlier ones. -/
def mergeAll (given : List (Option AnyOptions)) : StreamOptions :=
  given.foldl (fun merged next => merged.merge (settings next)) .allOpen

variable {given : List (Option AnyOptions)} {next : Option AnyOptions}

theorem mergeAll_append_singleton :
    mergeAll (given ++ [next]) = (mergeAll given).merge (settings next) := by
  simp [mergeAll]

/-- Each setting is merged on its own. -/
theorem mergeAll_eq : mergeAll given
    = ⟨lastDefined (given.map fun o => (settings o).fetchSize),
        lastDefined (given.map fun o => (settings o).maxRecordCount)⟩ := by
  induction given using List.reverseRecOn with
  | nil => rfl
  | append_singleton given next ih =>
      simp only [mergeAll_append_singleton, ih, StreamOptions.merge, List.map_append,
        List.map_singleton, lastDefined_append_singleton]

end AnyOptions

namespace FullOptions

variable {base : FullOptions} {given : List (Option AnyOptions)}

theorem overrideBy_eq (o : Option AnyOptions) :
    base.overrideBy o = base.override (AnyOptions.settings o) := by
  cases o <;> rfl

/-- One override after the other is one by both. -/
theorem override_merge (a b : StreamOptions) :
    (base.override a).override b = base.override (a.merge b) := by
  obtain ⟨size, cap⟩ := b
  cases size <;> cases cap <;> rfl

/-- Any number of overrides are one by all of them. -/
theorem foldl_overrideBy :
    given.foldl overrideBy base = base.override (AnyOptions.mergeAll given) := by
  induction given using List.reverseRecOn with
  | nil => rfl
  | append_singleton given next ih =>
      rw [List.foldl_append, ih, List.foldl_cons, List.foldl_nil, overrideBy_eq, override_merge,
        AnyOptions.mergeAll_append_singleton]

end FullOptions

/-! ## Making options -/

/-- A fetch size is made of the whole number that it is, and of nothing else. -/
theorem FetchSize.ofValue?_eq_ok_iff {v : Value} {size : FetchSize} :
    ofValue? v = .ok size ↔ v = .int size.value := by
  constructor
  · intro made
    cases v with
    | int n =>
        simp only [ofValue?, ofInt?] at made
        split at made
        · cases made
        · split at made <;> cases made
          rfl
    | _ => cases made
  · rintro rfl
    have valid := size.valid
    have low : ¬ (size.value ≤ 0 ∧ size.value ≠ unlimited) := by omega
    have high : ¬ size.value > maxDemand := by
      unfold unlimited at valid
      omega
    simp only [ofValue?, ofInt?, dif_neg low, dif_neg high]

theorem exists_of_map_eq_ok {α β : Type} {x : Except Cause α} {f : α → β} {b : β}
    (h : x.map f = .ok b) : ∃ a, x = .ok a ∧ f a = b := by
  cases x with
  | error c => cases h
  | ok a => exact ⟨a, rfl, Except.ok.inj h⟩

/-- Options out of values have the settings that they are made of. -/
theorem StreamOptions.settings_of_make? {fetchSize maxRecordCount : Option Value}
    {o : StreamOptions} (made : make? fetchSize maxRecordCount = .ok o) :
    fetchSize = o.fetchSize.map (fun size => .int size.value) ∧
      maxRecordCount = o.maxRecordCount := by
  cases fetchSize with
  | none =>
      cases made
      exact ⟨rfl, rfl⟩
  | some v =>
      obtain ⟨size, read, rfl⟩ := exists_of_map_eq_ok made
      exact ⟨congrArg some (FetchSize.ofValue?_eq_ok_iff.1 read), rfl⟩

namespace AnyOptions

theorem settings_of_make? {plan : OptionsPlan} {o : AnyOptions} (made : make? plan = .ok o) :
    plan.fetchSize = o.toOptions.fetchSize.map (fun size => .int size.value) ∧
      plan.maxRecordCount = o.toOptions.maxRecordCount := by
  obtain ⟨isFull, fetchSize, maxRecordCount⟩ := plan
  cases isFull with
  | false =>
      obtain ⟨o, read, rfl⟩ := exists_of_map_eq_ok made
      exact StreamOptions.settings_of_make? read
  | true =>
      cases fetchSize with
      | none => cases made
      | some v =>
          cases maxRecordCount with
          | none => cases made
          | some cap =>
              obtain ⟨size, read, rfl⟩ := exists_of_map_eq_ok made
              exact ⟨congrArg some (FetchSize.ofValue?_eq_ok_iff.1 read), rfl⟩

theorem settings_of_makeGiven? {plan : Option OptionsPlan} {o : Option AnyOptions}
    (made : makeGiven? plan = .ok o) :
    plan.bind OptionsPlan.fetchSize = (settings o).fetchSize.map (fun size => .int size.value) ∧
      plan.bind OptionsPlan.maxRecordCount = (settings o).maxRecordCount := by
  cases plan with
  | none =>
      cases made
      exact ⟨rfl, rfl⟩
  | some plan =>
      obtain ⟨o, read, rfl⟩ := exists_of_map_eq_ok made
      exact settings_of_make? read

theorem map_settings {plans : List (Option OptionsPlan)} {given : List (Option AnyOptions)}
    (made : List.Forall₂ (fun plan o => makeGiven? plan = .ok o) plans given) :
    plans.map (fun plan => plan.bind OptionsPlan.fetchSize)
        = (given.map fun o => (settings o).fetchSize).map
            (Option.map fun size => .int size.value) ∧
      plans.map (fun plan => plan.bind OptionsPlan.maxRecordCount)
        = given.map fun o => (settings o).maxRecordCount := by
  induction made with
  | nil => exact ⟨rfl, rfl⟩
  | cons made _ ih =>
      obtain ⟨size, cap⟩ := settings_of_makeGiven? made
      simp only [List.map_cons, size, cap, ih, and_self]

end AnyOptions

/-! ## Asking for as many records -/

/-- Every stream takes a number as demand, unless it lacks a consumer. -/
def Stream.Takes (n : Int) : Prop :=
  ∀ (x : Surroundings) (s : Stream), s.lacksConsumer = false →
    ∃ s' effects, s.step x (.request n) = .ok (s', effects)

/-- Every cursor takes a number, unless its result is consumed, and passes on one that streams
take. -/
def Cursor.Takes (n : Int) : Prop :=
  ∀ (done : Bool) (c : Cursor), c.isConsumed = false →
    ∃ m, c.step done (.request n) = .ok (c, [.channel (.request m)]) ∧ Stream.Takes m

theorem Stream.takes_of_valid {n : Int} (valid : n = unlimited ∨ 0 < n) : Stream.Takes n := by
  intro x s present
  obtain ⟨d, demand⟩ : ∃ d, Demand.ofInt? n = some d := by
    refine Option.ne_none_iff_exists'.1 fun none => ?_
    obtain ⟨low, limited⟩ := (Demand.ofInt?_eq_none_iff n).1 none
    omega
  simp only [step, request, ensureConsumers_eq_ok x present, demand]
  cases s.phase <;> exact ⟨_, _, rfl⟩

theorem Stream.takes_fetchSize (size : FetchSize) : Stream.Takes size.value := by
  have valid := size.valid
  exact takes_of_valid (by omega)

theorem Cursor.takes_fetchSize (size : FetchSize) : Cursor.Takes size.value := by
  intro done c unconsumed
  refine ⟨capped size.value, ?_, Stream.takes_of_valid ?_⟩
  · simp only [step, ensureOpen, unconsumed]
    rfl
  · rcases size.capped_cases with all | ⟨kept, positive, -⟩
    · exact .inl all
    · rw [kept]
      exact .inr positive

/-! ## Overriding -/

namespace FullOptions

/-- What is left of full options once the options made of plans were taken over, in turn. -/
structure Overridden (base : FullOptions) (plans : List (Option OptionsPlan))
    (given : List (Option AnyOptions)) (left : FullOptions) : Prop where
  /-- the fetch size is the last that was planned, if any was -/
  fetchSize : Value.int left.fetchSize.value
    = (lastDefined (plans.map fun plan => plan.bind OptionsPlan.fetchSize)).getD
        (.int base.fetchSize.value)
  /-- so is the cap, whatever value it was planned to be -/
  maxRecordCount : left.maxRecordCount
    = (lastDefined (plans.map fun plan => plan.bind OptionsPlan.maxRecordCount)).getD
        base.maxRecordCount
  /-- nothing changes where no options are given, or all their settings are open -/
  kept : base.overrideBy none = base ∧
    ∀ o : AnyOptions, o.toOptions = .allOpen → base.overrideBy (some o) = base
  /-- an override after another is one by both of them merged -/
  merged : ∀ a b : Option AnyOptions, (base.overrideBy a).overrideBy b
    = base.overrideBy (some (.partly ((AnyOptions.settings a).merge (AnyOptions.settings b))))
  /-- and all of them are one -/
  mergedAll : left = base.overrideBy (some (.partly (AnyOptions.mergeAll given)))
  /-- all records are to be requested at once, or as many as can be asked for -/
  range : left.fetchSize.value = unlimited ∨
    1 ≤ left.fetchSize.value ∧ left.fetchSize.value ≤ maxDemand
  /-- and neither cursors nor streams refuse that number -/
  taken : Cursor.Takes left.fetchSize.value ∧ Stream.Takes left.fetchSize.value

/-- Full options that are overridden time after time, by options out of any plans of which options
can be made, have each setting as the last plan defines it, and as they had it if none does, each
on its own.  To be overridden by none, or by options that are open, changes nothing; overrides in
turn are one by what they merge to; and the number of records to request is one that can be asked
for. -/
theorem overridden {base : FullOptions} {plans : List (Option OptionsPlan)}
    {given : List (Option AnyOptions)}
    (made : List.Forall₂ (fun plan o => AnyOptions.makeGiven? plan = .ok o) plans given) :
    base.Overridden plans given (given.foldl overrideBy base) := by
  obtain ⟨sizes, caps⟩ := AnyOptions.map_settings made
  exact {
    fetchSize := by
      rw [sizes, lastDefined_map, foldl_overrideBy, AnyOptions.mergeAll_eq, override]
      cases lastDefined (given.map fun o => (AnyOptions.settings o).fetchSize) <;> rfl
    maxRecordCount := by
      rw [caps, foldl_overrideBy, AnyOptions.mergeAll_eq, override]
    kept := ⟨rfl, fun o nothing => by
      rw [overrideBy, nothing]
      rfl⟩
    merged := fun a b => by
      rw [overrideBy_eq, overrideBy_eq, override_merge]
      rfl
    mergedAll := foldl_overrideBy
    range := FetchSize.valid _
    taken := ⟨Cursor.takes_fetchSize _, Stream.takes_fetchSize _⟩ }

section Sample

/-- Plans in turn: for a fetch size, for nothing, for full options without a cap, and for a cap
of zero. -/
def plansInTurn : List (Option OptionsPlan) :=
  [some ⟨false, some (.int 50), none⟩, none, some ⟨true, some (.int maxDemand), some .null⟩,
    some ⟨false, none, some (.int 0)⟩]

/-- The greatest fetch size is the last that is planned, and zero the last cap. -/
theorem overridden_inTurn :
    ∃ given,
      List.Forall₂ (fun plan o => AnyOptions.makeGiven? plan = .ok o) plansInTurn given ∧
      standard.Overridden plansInTurn given (given.foldl overrideBy standard) ∧
      (given.foldl overrideBy standard).fetchSize.value = maxDemand ∧
      (given.foldl overrideBy standard).maxRecordCount = .int 0 := by
  have made : List.Forall₂ (fun plan o => AnyOptions.makeGiven? plan = .ok o) plansInTurn
      [some (.partly ⟨some ⟨50, .inr (by decide)⟩, none⟩), none,
        some (.fully ⟨⟨maxDemand, .inr (by decide)⟩, .null⟩),
        some (.partly ⟨none, some (.int 0)⟩)] :=
    .cons rfl (.cons rfl (.cons rfl (.cons rfl .nil)))
  exact ⟨_, made, overridden made, rfl, rfl⟩

end Sample

end FullOptions

end QueryStream
