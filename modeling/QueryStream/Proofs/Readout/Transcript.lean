/-
  Proofs/Readout/Transcript.lean --- what a server that answers by a script sends.

  A transcript says what becomes of the rows that are left: which of them are read, which
  requests are written for that, and how it ends.  It goes by batches, and each batch is one of
  four kinds.  What it comes to in all can be said at once (`readout`): there is a transcript of
  every server that answers, and it comes to that (`transcript_readout`).
-/
import QueryStream.Scenario.Connection

set_option autoImplicit false

namespace QueryStream

/-- How many of the rows a request for `n` records covers. -/
def covered (n : Int) (rows : List Value) : Nat :=
  if n = unlimited then rows.length else min n.toNat rows.length

/-- As many rows as there is room for, with so many records delivered before. -/
def underCap {α : Type} (m : Int) (n : Nat) (rows : List α) : List α :=
  if 0 < m then rows.take (m.toNat - n) else rows

/-- The answer to a request for records that breaks off, if it does. -/
def ConnectionScript.breakAt? (script : ConnectionScript) (pull : Nat) : Option BrokenBatch :=
  script.brokenBatch.filter fun b => b.pull == (pull : Int)

/-- What becomes of the rows that are left once so many requests for `n` records were answered
and so many records delivered: the rows read, the requests written, and the failure that ends
it, if one does.  At most `m` records are delivered, if `m` is positive. -/
inductive Transcript (script : ConnectionScript) (n m query : Int) :
    Nat → Nat → List Value → List Value → List Message → Option Failure → Prop
  /-- the batch breaks off -/
  | broken {pulls delivered : Nat} {rows : List Value} {b : BrokenBatch}
      (breaks : script.breakAt? (pulls + 1) = some b) :
      Transcript script n m query pulls delivered rows
        (underCap m delivered (rows.take (min (covered n rows) b.rows))) [.pull n query]
        (some b.failure)
  /-- the batch is the last one -/
  | last {pulls delivered : Nat} {rows : List Value}
      (whole : script.breakAt? (pulls + 1) = none) (all : rows.length ≤ covered n rows) :
      Transcript script n m query pulls delivered rows (underCap m delivered rows)
        [.pull n query] none
  /-- the batch reaches the cap, and what is left is dropped -/
  | capped {pulls delivered : Nat} {rows : List Value}
      (whole : script.breakAt? (pulls + 1) = none) (left : covered n rows < rows.length)
      (reached : 0 < m ∧ m ≤ ((delivered + covered n rows : Nat) : Int)) :
      Transcript script n m query pulls delivered rows
        (underCap m delivered (rows.take (covered n rows)))
        [.pull n query, .discardAll query] none
  /-- there is more to request after the batch -/
  | more {pulls delivered : Nat} {rows read : List Value} {written : List Message}
      {ending : Option Failure} (whole : script.breakAt? (pulls + 1) = none)
      (left : covered n rows < rows.length)
      (room : ¬ (0 < m ∧ m ≤ ((delivered + covered n rows : Nat) : Int)))
      (rest : Transcript script n m query (pulls + 1) (delivered + covered n rows)
        (rows.drop (covered n rows)) read written ending) :
      Transcript script n m query pulls delivered rows (rows.take (covered n rows) ++ read)
        (.pull n query :: written) ending

/-! ## What a transcript comes to -/

/-- How many requests for `n` records it takes to read so many. -/
def requestsFor (n : Int) (count : Nat) : Nat :=
  if n = unlimited then 1 else max 1 ((count + n.toNat - 1) / n.toNat)

/-- The answer that breaks off among those to the next `count` requests, if one does. -/
def ConnectionScript.breakAmong? (script : ConnectionScript) (pulls count : Nat) :
    Option BrokenBatch :=
  script.brokenBatch.filter fun b =>
    decide ((pulls : Int) < b.pull ∧ b.pull ≤ (pulls + count : Nat))

/-- How many rows were sent when an answer breaks off, with so many requests for `n` records
answered before. -/
def BrokenBatch.sent (b : BrokenBatch) (n : Int) (before : Nat) : Nat :=
  if n = unlimited then b.rows else before * n.toNat + min n.toNat b.rows

/-- What becomes of the rows that are left: those read, the requests written for that, and the
failure that ends it, if one does. -/
structure Readout where
  read : List Value
  written : List Message
  ending : Option Failure

/-- What becomes of the rows that are left once so many requests for `n` records were answered
and so many records delivered.  All rows are read, but no more than `m` if `m` is positive; it
takes as many requests as there are batches of `n` in them; and rows that are not even sent are
dropped.  If one of the answers breaks off, what was sent till then is read. -/
def readout (script : ConnectionScript) (n m query : Int) (pulls delivered : Nat)
    (rows : List Value) : Readout :=
  let count := requestsFor n (underCap m delivered rows).length
  match script.breakAmong? pulls count with
  | some b =>
      let before := (b.pull - pulls - 1).toNat
      ⟨underCap m delivered (rows.take (b.sent n before)),
        List.replicate (before + 1) (.pull n query), some b.failure⟩
  | none =>
      ⟨underCap m delivered rows,
        List.replicate count (.pull n query)
          ++ (if n ≠ unlimited ∧ count * n.toNat < rows.length then [.discardAll query] else []),
        none⟩

section Readout

variable {script : ConnectionScript} {n m query : Int} {pulls delivered count : Nat}
  {rows : List Value} {b : BrokenBatch}

theorem requestsFor_pos (n : Int) (count : Nat) : 0 < requestsFor n count := by
  unfold requestsFor
  split <;> omega

/-- What one request covers is read with one request. -/
theorem requestsFor_eq_one (fits : n = unlimited ∨ (count : Int) ≤ n) :
    requestsFor n count = 1 := by
  unfold requestsFor
  split
  · rfl
  · rename_i limited
    have fits : count ≤ n.toNat := by
      have := fits.resolve_left limited
      omega
    have small : (count + n.toNat - 1) / n.toNat ≤ 1 := by
      by_cases zero : n.toNat = 0
      · simp [zero]
      · exact Nat.lt_succ_iff.1 (Nat.div_lt_of_lt_mul (by omega))
    omega

/-- With more than one request covers, one more is needed than for what it leaves. -/
theorem requestsFor_add (positive : 0 < n) (some : 0 < count) :
    requestsFor n (n.toNat + count) = requestsFor n count + 1 := by
  have limited : n ≠ unlimited := by
    unfold unlimited
    omega
  have positive : 0 < n.toNat := by omega
  have one : 1 ≤ (count + n.toNat - 1) / n.toNat := (Nat.le_div_iff_mul_le positive).2 (by omega)
  have next : (n.toNat + count + n.toNat - 1) / n.toNat = (count + n.toNat - 1) / n.toNat + 1 := by
    rw [show n.toNat + count + n.toNat - 1 = (count + n.toNat - 1) + n.toNat by omega,
      Nat.add_div_right _ positive]
  simp only [requestsFor, if_neg limited, next]
  omega

/-- A batch that breaks off at the next request does so among the next ones. -/
theorem ConnectionScript.breakAmong?_of_breakAt? (breaks : script.breakAt? (pulls + 1) = some b)
    (positive : 0 < count) : script.breakAmong? pulls count = some b ∧ b.pull = pulls + 1 := by
  obtain ⟨found, pull⟩ := Option.filter_eq_some_iff.1 breaks
  have pull : b.pull = ((pulls + 1 : Nat) : Int) := by simpa using pull
  have among : (pulls : Int) < b.pull ∧ b.pull ≤ (pulls + count : Nat) := by omega
  exact ⟨Option.filter_eq_some_iff.2 ⟨found, by simpa using among⟩, by omega⟩

/-- If the next request is answered in full, the answers that may break off are those after it. -/
theorem ConnectionScript.breakAmong?_succ (whole : script.breakAt? (pulls + 1) = none) :
    script.breakAmong? pulls (count + 1) = script.breakAmong? (pulls + 1) count := by
  unfold breakAmong? breakAt? at *
  cases found : script.brokenBatch with
  | none => rfl
  | some b =>
      have other : b.pull ≠ ((pulls + 1 : Nat) : Int) := by simpa [found, Option.filter] using whole
      simp only [Option.filter]
      congr 2
      rw [decide_eq_decide]
      omega

@[simp] theorem ConnectionScript.breakAmong?_zero : script.breakAmong? pulls 0 = none := by
  unfold breakAmong?
  rw [Option.filter_eq_none_iff]
  intro b _
  simp

/-- Where there is room for a batch, it is read, and then what there is still room for. -/
theorem underCap_eq_append {k : Nat} (room : ¬ (0 < m ∧ m ≤ ((delivered + k : Nat) : Int))) :
    underCap m delivered rows
      = rows.take k ++ underCap m (delivered + k) (rows.drop k) := by
  unfold underCap
  by_cases caps : 0 < m
  · have split : m.toNat - delivered = k + (m.toNat - (delivered + k)) := by omega
    rw [if_pos caps, if_pos caps, split, List.take_add]
  · rw [if_neg caps, if_neg caps, List.take_append_drop]

theorem readout_of_break (breaks : script.breakAt? (pulls + 1) = some b) :
    readout script n m query pulls delivered rows =
      ⟨underCap m delivered (rows.take (min (covered n rows) b.rows)), [.pull n query],
        some b.failure⟩ := by
  obtain ⟨among, pull⟩ := script.breakAmong?_of_breakAt? breaks
    (requestsFor_pos n (underCap m delivered rows).length)
  have first : (b.pull - pulls - 1).toNat = 0 := by omega
  have sent : rows.take (b.sent n 0) = rows.take (min (covered n rows) b.rows) := by
    unfold BrokenBatch.sent covered
    split <;> simp [List.take_eq_take_iff] <;> omega
  simp only [readout, among]
  rw [first, sent]
  rfl

theorem readout_of_whole (whole : script.breakAt? (pulls + 1) = none)
    (fits : n = unlimited ∨ ((underCap m delivered rows).length : Int) ≤ n) :
    readout script n m query pulls delivered rows =
      ⟨underCap m delivered rows, .pull n query ::
        (if covered n rows < rows.length then [.discardAll query] else []), none⟩ := by
  have left : (n ≠ unlimited ∧ 1 * n.toNat < rows.length) ↔ covered n rows < rows.length := by
    unfold covered
    split
    · simp [*]
    · simp only [ne_eq, *, not_false_eq_true, Nat.one_mul, true_and]
      omega
  simp only [readout, requestsFor_eq_one fits, script.breakAmong?_succ whole,
    script.breakAmong?_zero, left]
  rfl

theorem readout_of_more (whole : script.breakAt? (pulls + 1) = none) (positive : 0 < n)
    (left : n.toNat < rows.length)
    (room : ¬ (0 < m ∧ m ≤ ((delivered + n.toNat : Nat) : Int))) :
    readout script n m query pulls delivered rows =
      let rest := readout script n m query (pulls + 1) (delivered + n.toNat) (rows.drop n.toNat)
      ⟨rows.take n.toNat ++ rest.read, .pull n query :: rest.written, rest.ending⟩ := by
  have limited : n ≠ unlimited := by
    unfold unlimited
    omega
  have append : underCap m delivered rows
      = rows.take n.toNat ++ underCap m (delivered + n.toNat) (rows.drop n.toNat) :=
    underCap_eq_append room
  have some : 0 < (underCap m (delivered + n.toNat) (rows.drop n.toNat)).length := by
    unfold underCap
    split <;> simp only [List.length_take, List.length_drop] <;> omega
  have count : requestsFor n (underCap m delivered rows).length
      = requestsFor n (underCap m (delivered + n.toNat) (rows.drop n.toNat)).length + 1 := by
    rw [append, List.length_append, List.length_take_of_le (Nat.le_of_lt left),
      requestsFor_add positive some]
  simp only [readout, count, script.breakAmong?_succ whole]
  cases among : script.breakAmong? (pulls + 1)
      (requestsFor n (underCap m (delivered + n.toNat) (rows.drop n.toNat)).length) with
  | none =>
      have more : (requestsFor n (underCap m (delivered + n.toNat) (rows.drop n.toNat)).length + 1)
          * n.toNat < rows.length ↔
          requestsFor n (underCap m (delivered + n.toNat) (rows.drop n.toNat)).length * n.toNat
            < (rows.drop n.toNat).length := by
        rw [Nat.add_mul, List.length_drop]
        omega
      simp only [append, more, List.replicate_succ, List.cons_append]
  | some b =>
      obtain ⟨-, within⟩ := Option.filter_eq_some_iff.1 among
      have within : ((pulls + 1 : Nat) : Int) < b.pull := (of_decide_eq_true within).1
      obtain ⟨before, next⟩ : ∃ before, (b.pull - (pulls + 1 : Nat) - 1).toNat = before ∧
          (b.pull - pulls - 1).toNat = before + 1 := ⟨_, rfl, by omega⟩
      have sent : b.sent n (before + 1) = n.toNat + b.sent n before := by
        simp only [BrokenBatch.sent, if_neg limited, Nat.add_mul]
        omega
      have read : underCap m delivered (rows.take (b.sent n (before + 1))) = _ :=
        underCap_eq_append room
      rw [sent, List.take_take, Nat.min_eq_left (Nat.le_add_right ..), List.drop_take,
        Nat.add_sub_cancel_left] at read
      simp only [next.1, next.2, sent, read, List.replicate_succ]

/-- The transcript of a server that answers.  The induction is on the rows that are left. -/
theorem transcript_readout (valid : n = unlimited ∨ 0 < n) :
    ∀ (rows : List Value) {pulls delivered : Nat}, ¬ (0 < m ∧ m ≤ (delivered : Int)) →
      Transcript script n m query pulls delivered rows
        (readout script n m query pulls delivered rows).read
        (readout script n m query pulls delivered rows).written
        (readout script n m query pulls delivered rows).ending := by
  intro rows
  induction size : rows.length using Nat.strongRecOn generalizing rows with
  | ind length ih =>
      intro pulls delivered under
      subst size
      cases whole : script.breakAt? (pulls + 1) with
      | some b =>
          rw [readout_of_break whole]
          exact .broken whole
      | none =>
          by_cases all : rows.length ≤ covered n rows
          · -- the last batch fits a request, whatever the cap leaves of it
            have fits : n = unlimited ∨ ((underCap m delivered rows).length : Int) ≤ n := by
              refine valid.imp_right fun positive => ?_
              have limited : n ≠ unlimited := by
                unfold unlimited
                omega
              simp only [covered, if_neg limited] at all
              unfold underCap
              split <;> simp <;> omega
            rw [readout_of_whole whole fits, if_neg (Nat.not_lt.2 all)]
            exact .last whole all
          · have left := Nat.not_le.1 all
            have positive : 0 < n := valid.resolve_left fun same => by
              simp [covered, same] at left
            have limited : n ≠ unlimited := by
              unfold unlimited
              omega
            have batch : covered n rows = n.toNat := by
              simp only [covered, if_neg limited] at left ⊢
              omega
            by_cases reached : 0 < m ∧ m ≤ ((delivered + covered n rows : Nat) : Int)
            · have fits : ((underCap m delivered rows).length : Int) ≤ n := by
                rw [batch] at reached
                simp only [underCap, if_pos reached.1, List.length_take]
                omega
              have read : underCap m delivered rows
                  = underCap m delivered (rows.take (covered n rows)) := by
                simp only [underCap, if_pos reached.1, List.take_take]
                congr 1
                omega
              rw [readout_of_whole whole (.inr fits), if_pos left, read]
              exact .capped whole left reached
            · rw [batch] at left reached
              rw [readout_of_more whole positive left reached, ← batch]
              refine .more whole (batch ▸ left) (batch ▸ reached) ?_
              refine ih _ ?_ _ rfl (batch ▸ reached)
              simp only [List.length_drop]
              omega

end Readout

end QueryStream
