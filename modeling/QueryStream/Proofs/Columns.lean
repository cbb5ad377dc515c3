/-
  Proofs/Columns.lean --- the columns of a record, by name and by position.

  A record is made of as many values as names.  A name may stand more than once; then every way of
  looking it up finds the value at the last position at which it stands, be it no value at all.
  As a map, a record has its names in the order in which they first came.  Positions count from
  either end.  Made again of its own names and values it is the same record, and two records are
  equal just if their items are (`Record.tabulated`).
-/
import Mathlib.Data.List.Induction
import QueryStream.Record

set_option autoImplicit false

namespace QueryStream

/-! ## Names and their last positions -/

/-- A position is the last one at which a name stands. -/
structure LastAt (names : List String) (name : String) (i : Nat) : Prop where
  here : names[i]? = some name
  last : ∀ j, names[j]? = some name → j ≤ i

/-- The value of the last column of a name. -/
def lastValue? (columns : List (String × Value)) (name : String) : Option Value :=
  (columns.reverse.find? fun column => column.1 == name).map Prod.snd

/-- Columns as the entries of a map. -/
def entriesOf (columns : List (String × Value)) : List (Value × Value) :=
  columns.map (Prod.map Value.text id)

section Names

variable {columns : List (String × Value)} {names : List String} {values : List Value}
  {column : String × Value} {name last : String} {v : Value}

theorem lastValue?_append_singleton :
    lastValue? (columns ++ [column]) name
      = if column.1 = name then some column.2 else lastValue? columns name := by
  by_cases same : column.1 = name <;> simp [lastValue?, same]

theorem exists_lastAt (mem : name ∈ names) : ∃ i, LastAt names name i := by
  induction names using List.reverseRecOn with
  | nil => cases mem
  | append_singleton names last ih =>
      by_cases same : last = name
      · subst same
        refine ⟨names.length, by simp, fun j found => ?_⟩
        have bound := (List.getElem?_eq_some_iff.1 found).1
        simp only [List.length_append, List.length_singleton] at bound
        omega
      · have mem' : name ∈ names := by simpa [Ne.symm same] using mem
        obtain ⟨i, here, latest⟩ := ih mem'
        have bound := (List.getElem?_eq_some_iff.1 here).1
        refine ⟨i, by rw [List.getElem?_append_left bound, here], fun j found => ?_⟩
        rcases Nat.lt_or_ge j names.length with within | beyond
        · exact latest j (by rwa [List.getElem?_append_left within] at found)
        · rw [List.getElem?_append_right beyond, List.getElem?_singleton] at found
          split at found
          · exact absurd (Option.some.inj found) same
          · cases found

theorem LastAt.unique {i j : Nat} (first : LastAt names name i) (second : LastAt names name j) :
    i = j :=
  Nat.le_antisymm (second.last i first.here) (first.last j second.here)

/-- A name that stands no more at the end stands last where it did before. -/
theorem LastAt.of_append_singleton {i : Nat} (lastAt : LastAt (names ++ [last]) name i)
    (other : last ≠ name) : LastAt names name i ∧ i < names.length := by
  obtain ⟨here, latest⟩ := lastAt
  have within : i < names.length := by
    refine Nat.lt_of_not_le fun beyond => ?_
    rw [List.getElem?_append_right beyond, List.getElem?_singleton] at here
    split at here
    · exact other (Option.some.inj here)
    · cases here
  refine ⟨⟨by rwa [List.getElem?_append_left within] at here, fun j found => ?_⟩, within⟩
  have bound := (List.getElem?_eq_some_iff.1 found).1
  exact latest j (by rw [List.getElem?_append_left bound, found])

/-- The last column of a name is the one at its last position. -/
theorem lastValue?_zip (lengths : values.length = names.length) {i : Nat}
    (lastAt : LastAt names name i) : lastValue? (names.zip values) name = values[i]? := by
  induction names using List.reverseRecOn generalizing values with
  | nil => simpa using lastAt.here
  | append_singleton names last ih =>
      obtain rfl | ⟨front, v, rfl⟩ := values.eq_nil_or_concat
      · simp at lengths
      · have lengths : front.length = names.length := by simpa using lengths
        rw [List.concat_eq_append, List.zip_append lengths.symm, List.zip_cons_cons,
          List.zip_nil_left, lastValue?_append_singleton]
        split
        · rename_i same
          subst same
          have atEnd : i = names.length :=
            lastAt.unique ⟨by simp, fun j found => by
              have bound := (List.getElem?_eq_some_iff.1 found).1
              simp only [List.length_append, List.length_singleton] at bound
              omega⟩
          simp [atEnd, ← lengths]
        · rename_i other
          obtain ⟨lastAt', within⟩ := lastAt.of_append_singleton other
          rw [ih lengths lastAt', List.getElem?_append_left (lengths ▸ within)]

theorem lastValue?_zip_eq_none (absent : name ∉ names) :
    lastValue? (names.zip values) name = none := by
  have none : ∀ column ∈ names.zip values, column.1 ≠ name := by
    intro column mem same
    exact absent (same ▸ (List.of_mem_zip mem).1)
  simpa [lastValue?] using fun a b mem => none (a, b) mem

end Names

/-! ## Maps of columns -/

namespace Value

variable {entries : List (Value × Value)} {columns : List (String × Value)} {a v : Value}
  {s t : String}

theorem sameKey_text_iff : a.sameKey (.text s) = true ↔ a = .text s := by
  cases a <;> simp [sameKey, magnitude?]

theorem find?_put : find? (put entries (.text t) v) (.text s)
    = if t = s then some v else find? entries (.text s) := by
  induction entries with
  | nil => by_cases same : t = s <;> simp [put, find?, sameKey, same]
  | cons entry rest ih =>
      unfold put
      by_cases here : entry.1 = .text t
      · by_cases same : t = s <;> simp [find?, here, sameKey, same]
      · have passes : entry.1.sameKey (.text t) = false :=
          Bool.eq_false_iff.2 fun found => here (sameKey_text_iff.1 found)
        by_cases same : t = s
        · subst same
          simpa [find?, passes] using ih
        · rw [if_neg same] at ih ⊢
          rw [passes, if_neg (by decide)]
          unfold find? at ih ⊢
          simp only [List.find?_cons]
          split
          · rfl
          · exact ih

theorem map_fst_put_of_mem (mem : .text s ∈ entries.map Prod.fst) :
    (put entries (.text s) v).map Prod.fst = entries.map Prod.fst := by
  induction entries with
  | nil => cases mem
  | cons entry rest ih =>
      unfold put
      split
      · rfl
      · rename_i passes
        have later : .text s ∈ rest.map Prod.fst :=
          (List.mem_cons.1 mem).resolve_left fun here =>
            passes (sameKey_text_iff.2 here.symm)
        rw [List.map_cons, List.map_cons, ih later]

theorem map_fst_put_of_not_mem (absent : .text s ∉ entries.map Prod.fst) :
    (put entries (.text s) v).map Prod.fst = entries.map Prod.fst ++ [.text s] := by
  induction entries with
  | nil => rfl
  | cons entry rest ih =>
      rw [List.map_cons, List.mem_cons, not_or] at absent
      have passes : ¬ entry.1.sameKey (.text s) = true := fun found =>
        absent.1 (sameKey_text_iff.1 found).symm
      unfold put
      rw [if_neg passes, List.map_cons, List.map_cons, ih absent.2, List.cons_append]

theorem collect_append_singleton (entry : Value × Value) :
    collect (entries ++ [entry]) = put (collect entries) entry.1 entry.2 := by
  simp [collect]

theorem entriesOf_append_singleton (column : String × Value) :
    entriesOf (columns ++ [column]) = entriesOf columns ++ [(.text column.1, column.2)] := by
  simp [entriesOf, Prod.map]

/-- What is collected last under a name is found under it. -/
theorem find?_collect : find? (collect (entriesOf columns)) (.text s) = lastValue? columns s := by
  induction columns using List.reverseRecOn with
  | nil => rfl
  | append_singleton columns column ih =>
      rw [entriesOf_append_singleton, collect_append_singleton, find?_put, ih,
        lastValue?_append_singleton]

/-- What is collected has its names in the order in which they first came. -/
theorem map_fst_collect :
    (collect (entriesOf columns)).map Prod.fst
      = ((columns.map Prod.fst).eraseDups).map Value.text := by
  induction columns using List.reverseRecOn with
  | nil => rfl
  | append_singleton columns column ih =>
      rw [entriesOf_append_singleton, collect_append_singleton, List.map_append,
        List.map_singleton, List.eraseDups_append]
      by_cases mem : column.1 ∈ columns.map Prod.fst
      · have known : .text column.1 ∈ (collect (entriesOf columns)).map Prod.fst :=
          ih ▸ List.mem_map_of_mem (List.mem_eraseDups.2 mem)
        have dropped : [column.1].removeAll (columns.map Prod.fst) = [] := by
          simpa [List.removeAll] using mem
        rw [map_fst_put_of_mem known, ih, dropped, List.eraseDups_nil, List.append_nil]
      · have new : .text column.1 ∉ (collect (entriesOf columns)).map Prod.fst := by
          rw [ih]
          simpa using mem
        have kept : [column.1].removeAll (columns.map Prod.fst) = [column.1] := by
          simpa [List.removeAll] using mem
        rw [map_fst_put_of_not_mem new, ih, kept, List.eraseDups_cons]
        simp

end Value

/-! ## Equality -/

namespace Value

theorem sameItemsSharing_false (as : List Value) :
    ∀ bs, sameItemsSharing (fun _ => false) as bs = sameItems as bs := by
  induction as with
  | nil => intro bs; cases bs <;> simp [sameItemsSharing, sameItems]
  | cons a as ih => intro bs; cases bs <;> simp [sameItemsSharing, sameItems, ih]

theorem sameItemsSharing_self (values : List Value) :
    sameItemsSharing (fun _ => true) values values = true := by
  induction values with
  | nil => rfl
  | cons v values ih => simpa [sameItemsSharing] using ih

theorem sameItems_text_self (names : List String) :
    sameItems (names.map .text) (names.map .text) = true := by
  induction names with
  | nil => rfl
  | cons name names ih => simp [sameItems, same, sameKey, ih]

/-- Lists of columns are equal just if their names and their values are. -/
theorem sameColumnsSharing_zip {keys : List Value} :
    ∀ {values keys' values' : List Value} (shared : Nat → Bool),
      values.length = keys.length → values'.length = keys'.length →
        sameColumnsSharing shared (keys.zip values) (keys'.zip values')
          = (sameItems keys keys' && sameItemsSharing shared values values') := by
  induction keys with
  | nil =>
      intro values keys' values' shared lengths lengths'
      obtain rfl := List.eq_nil_of_length_eq_zero lengths
      cases keys' with
      | nil =>
          obtain rfl := List.eq_nil_of_length_eq_zero lengths'
          simp [sameColumnsSharing, sameItems, sameItemsSharing]
      | cons l keys' =>
          cases values' with
          | nil => cases lengths'
          | cons b values' => simp [sameColumnsSharing, sameItems]
  | cons k keys ih =>
      intro values keys' values' shared lengths lengths'
      cases values with
      | nil => cases lengths
      | cons a values =>
          cases keys' with
          | nil => simp [sameColumnsSharing, sameItems]
          | cons l keys' =>
              cases values' with
              | nil => cases lengths'
              | cons b values' =>
                  simp only [List.zip_cons_cons, sameColumnsSharing, sameItems, sameItemsSharing,
                    ih _ (Nat.succ.inj lengths) (Nat.succ.inj lengths')]
                  ac_rfl

end Value

namespace Record

theorem same_eq (a b : Record) :
    a.same b = (Value.sameItems a.keys b.keys && Value.sameItems a.values b.values) := by
  rw [same, sameSharing, Value.sameItemsSharing_false]

/-! ## Records -/

/-- What a record is over names with values. -/
structure Tabulates (names : List String) (values : List Value) (r : Record) : Prop where
  keysAre : r.keys = names.map .text
  valuesAre : r.values = values
  /-- a name has the value at its last position, however it is looked up -/
  named : ∀ name ∈ names, ∃ i v, LastAt names name i ∧ values[i]? = some v ∧
    r.item (.text name) = .ok v ∧ (∀ default, r.get (.text name) default = .ok v) ∧
      Value.find? r.data (.text name) = some v
  /-- what is no name has none -/
  unnamed : ∀ name, name ∉ names →
    (∃ c, r.item (.text name) = .error c ∧ c.kind = .key) ∧
      (∀ default, r.get (.text name) default = .ok default) ∧
      Value.find? r.data (.text name) = none
  /-- as a map it has each name once, in the order in which they first came -/
  order : r.data.map Prod.fst = names.eraseDups.map .text
  /-- positions count from the start and from the end -/
  within : ∀ (n : Nat) v, values[n]? = some v →
    r.item (.int n) = .ok v ∧ r.item (.int (n - values.length)) = .ok v
  /-- and there are no others -/
  beyond : ∀ i : Int, i < -values.length ∨ values.length ≤ i →
    ∃ c, r.item (.int i) = .error c ∧ c.kind = .index
  /-- made again of what it holds, it is the same, and equal to what it was -/
  again : make? r.keys r.values = .ok r ∧ r.sameSharing (fun _ => true) r = true
  /-- it equals another just if their items are equal -/
  equal : ∀ shared other,
    r.sameSharing shared other = Value.sameColumnsSharing shared r.items other.items
  /-- and where they share nothing, just if their names and their values are -/
  apart : ∀ other, r.same other
    = (Value.sameItems r.keys other.keys && Value.sameItems r.values other.values)

/-- What becomes of names and values: a record if there are as many of them, and else a refusal. -/
inductive Tabulated (names : List String) (values : List Value) : Except Cause Record → Prop
  | made {r : Record} (lengths : values.length = names.length)
      (tabulates : r.Tabulates names values) : Tabulated names values (.ok r)
  | refused {c : Cause} (lengths : values.length ≠ names.length)
      (cause : c = .lengthsDiffer names.length values.length) (kind : c.kind = .value) :
      Tabulated names values (.error c)

section Made

variable {names : List String} {values : List Value} {r : Record}

theorem items_eq_entriesOf (keys : r.keys = names.map .text) :
    r.items = entriesOf (names.zip r.values) := by
  rw [items, keys, entriesOf, List.zip_map_left]

theorem find?_eq_lastValue? (keys : r.keys = names.map .text) (name : String) :
    r.find? (.text name) = lastValue? (names.zip r.values) name := by
  have test : ((fun item : Value × Value => item.1.sameKey (.text name)) ∘ Prod.map Value.text id)
      = fun column : String × Value => column.1 == name := rfl
  rw [find?, items_eq_entriesOf keys, entriesOf, ← List.map_reverse, List.find?_map, test,
    lastValue?, Option.map_map]
  rfl

theorem find?_data (keys : r.keys = names.map .text) (name : String) :
    Value.find? r.data (.text name) = lastValue? (names.zip r.values) name := by
  rw [data, items_eq_entriesOf keys, Value.find?_collect]

/-- What is found by name is found in each way. -/
theorem lookups_of_find? {name : String} {v : Value} (found : r.find? (.text name) = some v) :
    r.item (.text name) = .ok v ∧ ∀ default, r.get (.text name) default = .ok v := by
  simp [item, get, Value.isKey, found]

theorem lookups_of_find?_eq_none {name : String} (missing : r.find? (.text name) = none) :
    (∃ c, r.item (.text name) = .error c ∧ c.kind = .key) ∧
      ∀ default, r.get (.text name) default = .ok default := by
  refine ⟨⟨.keyMissing (Text.quoted name), ?_, rfl⟩, ?_⟩ <;> simp [item, get, Value.isKey, missing]

theorem at?_of_getElem? {n : Nat} {v : Value} (found : r.values[n]? = some v) :
    r.at? n = .ok v ∧ r.at? (n - r.size) = .ok v := by
  have bound : n < r.size := (List.getElem?_eq_some_iff.1 found).1
  have fromStart : ¬ (n : Int) < 0 := by omega
  have fromEnd : (n : Int) - r.size < 0 := by omega
  have back : (n : Int) - r.size + r.size = n := by omega
  constructor
  · simp only [at?, if_neg fromStart, Int.toNat_natCast, found]
  · simp only [at?, if_pos fromEnd, back, if_neg fromStart, Int.toNat_natCast, found]

theorem at?_of_beyond {i : Int} (outside : i < -r.size ∨ r.size ≤ i) :
    ∃ c, r.at? i = .error c ∧ c.kind = .index := by
  have missing : (if (if i < 0 then i + r.size else i) < 0 then none
      else r.values[(if i < 0 then i + r.size else i).toNat]?) = none := by
    by_cases negative : i < 0
    · have low : i + r.size < 0 := by omega
      rw [if_pos negative, if_pos low]
    · rw [if_neg negative, if_neg negative, List.getElem?_eq_none]
      change r.size ≤ i.toNat
      omega
  unfold at?
  simp only [missing]
  split
  · exact ⟨_, rfl, rfl⟩
  · exact ⟨_, rfl, rfl⟩

/-- A record made of names and values tabulates them. -/
theorem tabulates_of_keys (keys : r.keys = names.map .text) (held : r.values = values) :
    r.Tabulates names values := by
  subst held
  have lengths : r.values.length = names.length := by rw [r.lengths, keys, List.length_map]
  refine ⟨keys, rfl, fun name mem => ?_, fun name absent => ?_, ?_, fun n v found => ?_,
    fun i outside => at?_of_beyond outside, ⟨?_, ?_⟩, fun shared other => ?_, r.same_eq⟩
  · obtain ⟨i, lastAt⟩ := exists_lastAt mem
    have bound : i < r.values.length := lengths ▸ (List.getElem?_eq_some_iff.1 lastAt.here).1
    have found : lastValue? (names.zip r.values) name = some r.values[i] := by
      rw [lastValue?_zip lengths lastAt, List.getElem?_eq_getElem bound]
    obtain ⟨item, get⟩ := lookups_of_find? ((find?_eq_lastValue? keys name).trans found)
    exact ⟨i, _, lastAt, List.getElem?_eq_getElem bound, item, get,
      (find?_data keys name).trans found⟩
  · have missing : lastValue? (names.zip r.values) name = none := lastValue?_zip_eq_none absent
    obtain ⟨item, get⟩ := lookups_of_find?_eq_none ((find?_eq_lastValue? keys name).trans missing)
    exact ⟨item, get, (find?_data keys name).trans missing⟩
  · have firsts : (names.zip r.values).map Prod.fst = names :=
      List.map_fst_zip (Nat.le_of_eq lengths.symm)
    rw [data, items_eq_entriesOf keys, Value.map_fst_collect, firsts]
  · exact at?_of_getElem? found
  · have able : r.keys.all Value.isKey = true := by simp [keys, Value.isKey]
    simp [make?, r.lengths, able]
  · rw [sameSharing, keys, Value.sameItems_text_self, Value.sameItemsSharing_self, Bool.and_true]
  · exact (Value.sameColumnsSharing_zip shared r.lengths other.lengths).symm

end Made

/-- Names and values make a record just if there are as many of them.  Under a name that occurs,
the record has the value at its last position in every way of looking it up, and under no other
name has it any; as a map it has the names in the order in which they first came; positions count
from either end; made again it is the same; and it equals another just if their items are equal. -/
theorem tabulated (names : List String) (values : List Value) :
    Tabulated names values (make? (names.map .text) values) := by
  by_cases lengths : values.length = names.length
  · have able : (names.map Value.text).all Value.isKey = true := by simp [Value.isKey]
    have made : make? (names.map .text) values
        = .ok ⟨names.map .text, values, by rw [lengths, List.length_map]⟩ := by
      simp [make?, lengths, able]
    rw [made]
    exact .made lengths (tabulates_of_keys rfl rfl)
  · have refused : make? (names.map .text) values
        = .error (.lengthsDiffer names.length values.length) := by
      simp [make?, lengths]
    rw [refused]
    exact .refused lengths rfl rfl

/-- A name that stands twice has its later value, though that is no value. -/
example : (make? [.text "n", .text "m", .text "n"] [.int 1, .int 2, .null]).bind
    (fun r => r.get (.text "n") (.int 0)) = .ok .null := rfl

end Record

end QueryStream
