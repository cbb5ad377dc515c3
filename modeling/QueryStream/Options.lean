/-
  Options.lean --- how the records of a stream are pulled.

  Options may leave settings open; full options do not.  Full options take over
  every setting that an override defines and keep the others, each setting on
  its own: a defined setting is taken over whatever its value is.
-/
import QueryStream.Failure

set_option autoImplicit false

namespace QueryStream

/-- The number of records requested at a time: a positive number up to the
greatest demand, or minus one for all. -/
structure FetchSize where
  value : Int
  valid : value = unlimited ∨ (1 ≤ value ∧ value ≤ maxDemand)
  deriving DecidableEq, Repr

namespace FetchSize

instance : Inhabited FetchSize := ⟨⟨unlimited, .inl rfl⟩⟩

/-- One record may be requested at a time. -/
theorem one_valid : (1 : Int) = unlimited ∨ ((1 : Int) ≤ 1 ∧ (1 : Int) ≤ maxDemand) :=
  .inr (by decide)

/-- A fetch size out of a whole number. -/
def ofInt? (n : Int) : Except Cause FetchSize :=
  if low : n ≤ 0 ∧ n ≠ unlimited then .error (.fetchSizeLow n)
  else if high : n > maxDemand then .error (.fetchSizeHigh n)
  else .ok ⟨n, by unfold unlimited at *; omega⟩

/-- A fetch size out of a value: truth values are not numbers here. -/
def ofValue? (v : Value) : Except Cause FetchSize :=
  match v with
  | .int n => ofInt? n
  | _ => .error (.fetchSizeSort v.literal)

end FetchSize

/-- Options of a stream, in which settings may be open. -/
structure StreamOptions where
  fetchSize : Option FetchSize
  /-- the cap on the records delivered; only a positive number caps -/
  maxRecordCount : Option Value
  deriving Inhabited

/-- Options of a stream with every setting defined.  That is what such options are for; a
caller who makes them with a setting marked as open goes against their type, and such options
are not to be had here. -/
structure FullOptions where
  fetchSize : FetchSize
  maxRecordCount : Value
  deriving Inhabited

/-- The literal of an open setting. -/
def StreamOptions.openSetting : String := "(unset)"

namespace FullOptions

/-- The options in use where nothing else is said: a thousand records at a time,
and no cap. -/
def standard : FullOptions := ⟨⟨1000, .inr (by decide)⟩, .int (-1)⟩

/-- Full options as options of which no setting is open. -/
def toOptions (o : FullOptions) : StreamOptions := ⟨some o.fetchSize, some o.maxRecordCount⟩

/-- Take over the settings that an override defines. -/
def override (o : FullOptions) (change : StreamOptions) : FullOptions :=
  ⟨change.fetchSize.getD o.fetchSize, change.maxRecordCount.getD o.maxRecordCount⟩

/-- Whether an override leaves the options equal to what they were.  A setting
that is kept is equal whatever its value. -/
def isKeptBy (o : FullOptions) (change : StreamOptions) : Bool :=
  change.fetchSize.getD o.fetchSize == o.fetchSize
    && (match change.maxRecordCount with
        | some v => v.same o.maxRecordCount
        | none => true)

/-- Equality of full options. -/
def same (a b : FullOptions) : Bool :=
  a.fetchSize == b.fetchSize && a.maxRecordCount.same b.maxRecordCount

/-- The literal of full options. -/
def literal (o : FullOptions) : String :=
  Value.bracketed "FullStreamOptions(" ")"
    [s!"fetch_size={o.fetchSize.value}", "max_record_count=" ++ o.maxRecordCount.literal]

end FullOptions

namespace StreamOptions

/-- Options out of values, where a missing value leaves its setting open. -/
def make? (fetchSize maxRecordCount : Option Value) : Except Cause StreamOptions :=
  match fetchSize with
  | none => .ok ⟨none, maxRecordCount⟩
  | some v => (FetchSize.ofValue? v).map fun size => ⟨some size, maxRecordCount⟩

/-- The settings of the second where defined, those of the first otherwise. -/
def merge (a b : StreamOptions) : StreamOptions :=
  ⟨b.fetchSize.or a.fetchSize, b.maxRecordCount.or a.maxRecordCount⟩

/-- Equality of settings that may be open. -/
def sameSetting : Option Value → Option Value → Bool
  | none, none => true
  | some a, some b => a.same b
  | _, _ => false

/-- Equality of options. -/
def same (a b : StreamOptions) : Bool :=
  a.fetchSize == b.fetchSize && sameSetting a.maxRecordCount b.maxRecordCount

/-- The literal of options. -/
def literal (o : StreamOptions) : String :=
  Value.bracketed "StreamOptions(" ")"
    ["fetch_size=" ++ (o.fetchSize.map fun size => toString size.value).getD openSetting,
      "max_record_count=" ++ (o.maxRecordCount.map Value.literal).getD openSetting]

end StreamOptions

/-- What options are to be made of: values, where a missing value leaves its
setting open. -/
structure OptionsPlan where
  /-- whether no setting may be open -/
  isFull : Bool
  fetchSize : Option Value
  maxRecordCount : Option Value

/-- Options as they are given: with or without open settings. -/
inductive AnyOptions where
  | partly (o : StreamOptions)
  | fully (o : FullOptions)
  deriving Inhabited

namespace AnyOptions

/-- Options out of a plan.  Full options need both values. -/
def make? (plan : OptionsPlan) : Except Cause AnyOptions :=
  if plan.isFull then
    match plan.fetchSize, plan.maxRecordCount with
    | some v, some cap => (FetchSize.ofValue? v).map fun size => .fully ⟨size, cap⟩
    | _, _ => .error .wrongSort
  else (StreamOptions.make? plan.fetchSize plan.maxRecordCount).map .partly

/-- Options out of a plan that may be missing. -/
def makeGiven? : Option OptionsPlan → Except Cause (Option AnyOptions)
  | some plan => (make? plan).map some
  | none => .ok none

/-- The given options, seen as an override. -/
def toOptions : AnyOptions → StreamOptions
  | .partly o => o
  | .fully o => o.toOptions

/-- The full options that given options amount to: full ones as they are, others
over the standard. -/
def resolve : Option AnyOptions → FullOptions
  | none => .standard
  | some (.partly o) => FullOptions.standard.override o
  | some (.fully o) => o

/-- Equality of options: only of the same sort. -/
def same : AnyOptions → AnyOptions → Bool
  | .partly a, .partly b => a.same b
  | .fully a, .fully b => a.same b
  | _, _ => false

/-- The literal of given options. -/
def literal : AnyOptions → String
  | .partly o => o.literal
  | .fully o => o.literal

end AnyOptions

/-- Take over the settings that given options define, if any are given.  All are values: the
options that are overridden and those that override them stay what they are. -/
def FullOptions.overrideBy (o : FullOptions) : Option AnyOptions → FullOptions
  | none => o
  | some change => o.override change.toOptions

end QueryStream
