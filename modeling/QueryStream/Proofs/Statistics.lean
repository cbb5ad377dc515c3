/-
  Proofs/Statistics.lean --- counters that are reported and read back.

  Counters are reported as statistics, each field under its name with hyphens.  A counter that is
  zero and a flag that is missing may be left out, entries about other things may stand among
  them, and all of them may come in any order: what is read back are the counters that were
  reported.  Without flags, whether the graph was changed follows from its eleven counters, and
  whether the system was from the one that is left (`Counters.readsBack`).

  WHAT READING LOOKS AT.  An entry is looked up by its name, and no two fields have one name.  So
  all that counts is which entries there are (`Reported`): those that stand under the name of a
  field are right, and those that do not stand there are as in counters of which nothing is known,
  which is what a missing entry is read as.
-/
import Mathlib.Data.List.Nodup
import QueryStream.Proofs.Columns
import QueryStream.Summary.Counters

set_option autoImplicit false

namespace QueryStream

/-! ## Looking up -/

namespace Value

variable {entries : List (Value × Value)} {name : String} {v : Value}

theorem mem_of_find? (found : find? entries (.text name) = some v) :
    (.text name, v) ∈ entries := by
  obtain ⟨⟨key, value⟩, here, rfl⟩ := Option.map_eq_some_iff.1 found
  have same := List.find?_some here
  obtain rfl := sameKey_text_iff.1 same
  exact List.mem_of_find?_eq_some here

theorem not_mem_of_find?_eq_none (missing : find? entries (.text name) = none) :
    (.text name, v) ∉ entries := by
  intro mem
  have passes := List.find?_eq_none.1 (Option.map_eq_none_iff.1 missing) _ mem
  exact passes (sameKey_text_iff.2 rfl)

end Value

/-! ## Counters and their names -/

/-- The name under which a field is reported: without a low line in front, and with a hyphen for
every other. -/
def reportedName (field : String) : String :=
  let signs := field.toList
  .ofList ((if signs.head? = some '_' then signs.tail else signs).map
    fun sign => if sign = '_' then '-' else sign)

namespace Counter

theorem mem_all (k : Counter) : k ∈ all := by
  cases k <;> decide

theorem reportedName_name (k : Counter) : reportedName k.name = k.wireName := by
  cases k <;> rfl

/-- The counters of what changed in the graph: all but that of the system. -/
def ofGraph : List Counter := all.filter (· ≠ systemUpdates)

theorem mem_ofGraph {k : Counter} : k ∈ ofGraph ↔ k ≠ .systemUpdates := by
  simp [ofGraph, k.mem_all]

end Counter

namespace Counters

theorem count_zero (k : Counter) : zero.count k = 0 := by
  cases k <;> rfl

/-- Counters are what they count, and their flags. -/
theorem eq_of_counts {a b : Counters} (counts : ∀ k, a.count k = b.count k)
    (updates : a.updatesFlag = b.updatesFlag)
    (systemUpdates : a.systemUpdatesFlag = b.systemUpdatesFlag) : a = b := by
  cases a
  cases b
  simp only [mk.injEq]
  exact ⟨counts .nodesCreated, counts .nodesDeleted, counts .relationshipsCreated,
    counts .relationshipsDeleted, counts .propertiesSet, counts .labelsAdded,
    counts .labelsRemoved, counts .indexesAdded, counts .indexesRemoved, counts .constraintsAdded,
    counts .constraintsRemoved, counts .systemUpdates, updates, systemUpdates⟩

/-- The fields of counters, with their names. -/
def fields (c : Counters) : List (String × Value) :=
  (Counter.all.map fun k => (k.name, .int (c.count k)))
    ++ [("_contains_updates", c.updatesFlag), ("_contains_system_updates", c.systemUpdatesFlag)]

/-- The statistics that report every field. -/
def statistics (c : Counters) : List (Value × Value) :=
  c.fields.map fun field => (.text (reportedName field.1), field.2)

section Statistics

variable {c : Counters} {name v w : Value}

theorem statistics_eq (c : Counters) : c.statistics =
    [(.text "nodes-created", .int c.nodesCreated), (.text "nodes-deleted", .int c.nodesDeleted),
      (.text "relationships-created", .int c.relationshipsCreated),
      (.text "relationships-deleted", .int c.relationshipsDeleted),
      (.text "properties-set", .int c.propertiesSet), (.text "labels-added", .int c.labelsAdded),
      (.text "labels-removed", .int c.labelsRemoved), (.text "indexes-added", .int c.indexesAdded),
      (.text "indexes-removed", .int c.indexesRemoved),
      (.text "constraints-added", .int c.constraintsAdded),
      (.text "constraints-removed", .int c.constraintsRemoved),
      (.text "system-updates", .int c.systemUpdates), (.text "contains-updates", c.updatesFlag),
      (.text "contains-system-updates", c.systemUpdatesFlag)] := by
  simp only [statistics, fields, Counter.all, List.map_cons, List.map_nil, List.cons_append,
    List.nil_append, Counter.reportedName_name]
  rfl

theorem nodup_names (c : Counters) : (c.statistics.map Prod.fst).Nodup := by
  simp [statistics_eq]

theorem eq_of_mem_statistics (first : (name, v) ∈ c.statistics)
    (second : (name, w) ∈ c.statistics) : v = w :=
  congrArg Prod.snd (List.inj_on_of_nodup_map c.nodup_names first second rfl)

theorem count_mem_statistics (c : Counters) (k : Counter) :
    (.text k.wireName, .int (c.count k)) ∈ c.statistics := by
  refine List.mem_map.2 ⟨(k.name, .int (c.count k)), ?_, by rw [k.reportedName_name]⟩
  exact List.mem_append_left _ (List.mem_map.2 ⟨k, k.mem_all, rfl⟩)

theorem updatesFlag_mem_statistics (c : Counters) :
    (.text "contains-updates", c.updatesFlag) ∈ c.statistics := by
  simp [statistics_eq]

theorem systemUpdatesFlag_mem_statistics (c : Counters) :
    (.text "contains-system-updates", c.systemUpdatesFlag) ∈ c.statistics := by
  simp [statistics_eq]

end Statistics

/-! ## Reading back -/

/-- Entries report counters. -/
structure Reported (entries : List (Value × Value)) (c : Counters) : Prop where
  /-- what stands under the name of a field is that field -/
  sound : ∀ e ∈ entries, e.1 ∈ c.statistics.map Prod.fst → e ∈ c.statistics
  /-- a field is left out only if it is as in counters of which nothing is known -/
  complete : ∀ e ∈ c.statistics, e ∈ entries ∨ e ∈ zero.statistics

section Reading

variable {c : Counters} {entries reported unrelated : List (Value × Value)}

/-- Some of the fields among other entries report counters, if the fields that are left out are as
in counters of which nothing is known. -/
theorem reported_of_perm (kept : reported.Sublist c.statistics)
    (omitted : ∀ e ∈ c.statistics, e ∉ reported → e ∈ zero.statistics)
    (apart : ∀ e ∈ unrelated, e.1 ∉ c.statistics.map Prod.fst)
    (order : entries.Perm (reported ++ unrelated)) : Reported entries c := by
  refine ⟨fun e mem known => ?_, fun e mem => ?_⟩
  · rcases List.mem_append.1 (order.mem_iff.1 mem) with own | other
    · exact kept.subset own
    · exact absurd known (apart e other)
  · by_cases told : e ∈ reported
    · exact .inl (order.mem_iff.2 (List.mem_append_left _ told))
    · exact .inr (omitted e mem told)

/-- What is looked up is the field, be it reported or not. -/
theorem Reported.find?_getD (told : Reported entries c) {name : String} {v default : Value}
    (held : (.text name, v) ∈ c.statistics) (initial : (.text name, default) ∈ zero.statistics) :
    (Value.find? entries (.text name)).getD default = v := by
  cases found : Value.find? entries (.text name) with
  | some w =>
      have known : .text name ∈ c.statistics.map Prod.fst := List.mem_map.2 ⟨_, held, rfl⟩
      exact eq_of_mem_statistics (told.sound _ (Value.mem_of_find? found) known) held
  | none =>
      have left := (told.complete _ held).resolve_left (Value.not_mem_of_find?_eq_none found)
      exact eq_of_mem_statistics initial left

theorem Reported.readCount (told : Reported entries c) (k : Counter) :
    readCount (.map entries) k = .ok (c.count k) := by
  have initial : (.text k.wireName, .int 0) ∈ zero.statistics :=
    count_zero k ▸ zero.count_mem_statistics k
  have read := told.find?_getD (c.count_mem_statistics k) initial
  simp only [Counters.readCount, Value.field?, bind, Except.bind, read]
  rfl

theorem Reported.updatesFlag (told : Reported entries c) :
    (Value.map entries).field "contains-updates" = .ok c.updatesFlag :=
  congrArg Except.ok
    (told.find?_getD c.updatesFlag_mem_statistics zero.updatesFlag_mem_statistics)

theorem Reported.systemUpdatesFlag (told : Reported entries c) :
    (Value.map entries).field "contains-system-updates" = .ok c.systemUpdatesFlag :=
  congrArg Except.ok
    (told.find?_getD c.systemUpdatesFlag_mem_statistics zero.systemUpdatesFlag_mem_statistics)

theorem eq_zero_of_reported_nil (told : Reported [] c) : c = zero :=
  eq_of_counts (fun k => (Except.ok.inj (told.readCount k).symm).trans (count_zero k).symm)
    (Except.ok.inj told.updatesFlag.symm) (Except.ok.inj told.systemUpdatesFlag.symm)

/-- Reported counters are read back as they were. -/
theorem ofStats_of_reported (told : Reported entries c) : ofStats (.map entries) = .ok c := by
  cases entries with
  | nil =>
      -- statistics without entries are not looked at
      rw [eq_zero_of_reported_nil told]
      rfl
  | cons e entries =>
      have looked : (Value.map (e :: entries)).isTrue = true := rfl
      simp only [ofStats, looked, if_true, told.readCount, told.updatesFlag,
        told.systemUpdatesFlag, bind, Except.bind, pure, Except.pure, count]

end Reading

/-! ## Without flags -/

theorem containsUpdates_of_null {c : Counters} (unflagged : c.updatesFlag = .null) :
    ∃ b, c.containsUpdates = .bool b ∧
      (b = true ↔ ∃ k, k ≠ .systemUpdates ∧ c.count k ≠ 0) := by
  have missing : c.updatesFlag.isNull = true := by
    rw [unflagged]
    rfl
  refine ⟨(Counter.ofGraph.map c.count).any (· != 0), if_pos missing, ?_⟩
  simp [Counter.mem_ofGraph]

theorem containsSystemUpdates_of_null {c : Counters} (unflagged : c.systemUpdatesFlag = .null) :
    ∃ b, c.containsSystemUpdates = .bool b ∧ (b = true ↔ 0 < c.count .systemUpdates) := by
  have missing : c.systemUpdatesFlag.isNull = true := by
    rw [unflagged]
    rfl
  exact ⟨_, if_pos missing, decide_eq_true_iff⟩

/-- What is known of counters that were reported by some entries. -/
structure ReadBack (c : Counters) (entries : List (Value × Value)) : Prop where
  /-- they are read back as they were -/
  same : ofStats (.map entries) = .ok c
  /-- without a flag, the graph was changed just if one of its eleven counters is not zero -/
  updates : c.updatesFlag = .null → ∃ b, c.containsUpdates = .bool b ∧
    (b = true ↔ ∃ k, k ≠ .systemUpdates ∧ c.count k ≠ 0)
  /-- without a flag, the system was changed just if its one counter is positive -/
  systemUpdates : c.systemUpdatesFlag = .null → ∃ b, c.containsSystemUpdates = .bool b ∧
    (b = true ↔ 0 < c.count .systemUpdates)

/-- Any counters, whatever their flags, are read back from statistics that report some of their
fields and leave out only zeros and missing flags, with any unrelated entries among them and all
of them in any order. -/
theorem readsBack {c : Counters} {reported unrelated entries : List (Value × Value)}
    (kept : reported.Sublist c.statistics)
    (omitted : ∀ e ∈ c.statistics, e ∉ reported → e ∈ zero.statistics)
    (apart : ∀ e ∈ unrelated, e.1 ∉ c.statistics.map Prod.fst)
    (order : entries.Perm (reported ++ unrelated)) : c.ReadBack entries :=
  ⟨ofStats_of_reported (reported_of_perm kept omitted apart order), containsUpdates_of_null,
    containsSystemUpdates_of_null⟩

section Sample

/-- Counters of a query that changed the graph, though it is said that it did not. -/
def flaggedCounters : Counters :=
  { zero with
    nodesCreated := 2, propertiesSet := -4, systemUpdates := 3, updatesFlag := .bool false }

/-- A zero is reported as well, two entries are unrelated, and all come in reverse. -/
theorem readsBack_flaggedCounters :
    flaggedCounters.ReadBack
      [(.int 1, .null), (.text "db-hits", .int 7), (.text "contains-updates", .bool false),
        (.text "system-updates", .int 3), (.text "labels-added", .int 0),
        (.text "properties-set", .int (-4)), (.text "nodes-created", .int 2)] := by
  let reported : List (Value × Value) :=
    [(.text "nodes-created", .int 2), (.text "properties-set", .int (-4)),
      (.text "labels-added", .int 0), (.text "system-updates", .int 3),
      (.text "contains-updates", .bool false)]
  let unrelated : List (Value × Value) := [(.text "db-hits", .int 7), (.int 1, .null)]
  have kept : reported.Sublist flaggedCounters.statistics := by
    rw [statistics_eq]
    exact .cons_cons _ <| .cons _ <| .cons _ <| .cons _ <| .cons_cons _ <| .cons_cons _ <|
      .cons _ <| .cons _ <| .cons _ <| .cons _ <| .cons _ <| .cons_cons _ <| .cons_cons _ <|
      .cons _ .slnil
  have omitted : ∀ e ∈ flaggedCounters.statistics, e ∉ reported → e ∈ zero.statistics := by
    simp [reported, statistics_eq, flaggedCounters, zero]
  have apart : ∀ e ∈ unrelated, e.1 ∉ flaggedCounters.statistics.map Prod.fst := by
    simp [unrelated, statistics_eq]
  exact readsBack kept omitted apart (List.reverse_perm (reported ++ unrelated))

end Sample

end Counters

end QueryStream
