/-
  Proofs/Readout/Underway.lean --- a reading between two turns of the connection.

  The connection sends what it sends turn by turn, and the task reads in between, so a batch may
  be under way while the task asks for the next one.  `Underway` says how the stream, the jobs
  and the wire stand then: a batch is being sent, the last one or one with more behind it; it
  was sent and more was demanded ahead; a request waits for its answer; more is to be requested;
  or what is left is to be dropped.  It also says what is yet to come of the records and the
  requests of the whole reading, and how far it is to the end: every turn comes nearer.
-/
import QueryStream.Proofs.Readout.Taking

set_option autoImplicit false

namespace QueryStream

/-- A reading: the engine as it was made, the promises of the outcome and of the task, how it
reads, and what it is to come to. -/
structure Reading where
  engine : Engine
  outcome : PromiseId
  promise : PromiseId
  size : FetchSize
  /-- the cap on the records delivered; only a positive number caps -/
  cap : Int
  /-- the record that a row is made into -/
  make : Value → Record
  /-- the records that are read, in order -/
  records : List Record
  /-- the requests that are written, in order -/
  written : List Message
  ending : Option Failure

namespace Reading

/-- The amount that each request for records asks for. -/
def amount (g : Reading) : Int := Cursor.capped g.size.value

def query (g : Reading) : Int := g.engine.run.query

/-- The promises of a reading are two, and its cap is that of the engine. -/
structure Sound (g : Reading) : Prop where
  other : g.outcome ≠ g.promise
  cap : g.engine.cap = .int g.cap

/-- The rows of a wire can be made into records. -/
def Makes (g : Reading) (x : Wire) : Prop :=
  ∀ row ∈ x.unsent ++ x.rows,
    Record.ofSequences? (.list g.engine.run.keys) row = .ok (g.make row)

/-- The records delivered of some rows, with so many delivered before. -/
def handed (g : Reading) (delivered : Nat) (rows : List Value) : List Record :=
  (underCap g.cap delivered rows).map g.make

end Reading

/-- A batch of which the given rows are unsent is the last that is read of: it breaks off, or
brings all that is left, or reaches the cap.  The requests are those written after it. -/
inductive LastBatch (script : ConnectionScript) (m query : Int) (pull delivered : Nat)
    (unsent rows : List Value) : List Message → Option Failure → Prop
  | broken {b : BrokenBatch} (breaks : script.breakAt? pull = some b) :
      LastBatch script m query pull delivered unsent rows [] (some b.failure)
  | last (whole : script.breakAt? pull = none) (nothing : rows = []) :
      LastBatch script m query pull delivered unsent rows [] none
  | capped (whole : script.breakAt? pull = none) (left : rows ≠ [])
      (reached : 0 < m ∧ m ≤ ((delivered + unsent.length : Nat) : Int)) :
      LastBatch script m query pull delivered unsent rows [.discardAll query] none

/-- Where a reading stands between two turns of the connection: the records told so far, those
of them that are unread, the stream, the job of the connection, and how far it is to the end. -/
inductive Reading.Underway (g : Reading) (x : Wire) (outstanding : Int) (unread : Nat)
    (before : List Record) : Stream → List Job → Nat → Prop
  /-- the batch that is being sent is the last that is read of -/
  | lastBatch {q : Demand} {d : Nat} {written : List Message}
      (last : LastBatch x.script g.cap g.query x.pulls d x.unsent x.rows written g.ending)
      (all : before ++ g.handed d x.unsent = g.records)
      (wrote : x.written.reverse ++ written = g.written) :
      g.Underway x outstanding unread before (.fed (Phase.underCap g.cap d) q d)
        [.sendOn x.pulls] (3 * written.length + x.pace.length + 1)
  /-- there is more to request after the batch that is being sent -/
  | batch {d : Nat} {read : List Value} {written : List Message}
      (whole : x.script.breakAt? x.pulls = none) (left : x.rows ≠ [])
      (limited : g.size.value ≠ unlimited)
      (room : ¬ (0 < g.cap ∧ g.cap ≤ ((d + x.unsent.length : Nat) : Int)))
      (count : outstanding = unread + x.unsent.length)
      (rest : Transcript x.script g.amount g.cap g.query x.pulls (d + x.unsent.length) x.rows
        read written g.ending)
      (all : before ++ (x.unsent ++ read).map g.make = g.records)
      (wrote : x.written.reverse ++ written = g.written) :
      g.Underway x outstanding unread before (.fed .streaming .zero d) [.sendOn x.pulls]
        (3 * written.length + x.pace.length + 1)
  /-- the batch was sent but for its end, and more was demanded -/
  | ahead {q : Demand} {d : Nat} {read : List Value} {written : List Message}
      (whole : x.script.breakAt? x.pulls = none) (left : x.rows ≠ []) (sent : x.unsent = [])
      (demand : Demand.ofInt? g.amount = some q) (none : unread = 0)
      (count : outstanding = g.size.value) (room : ¬ (0 < g.cap ∧ g.cap ≤ (d : Int)))
      (rest : Transcript x.script g.amount g.cap g.query x.pulls d x.rows
        read (.pull g.amount g.query :: written) g.ending)
      (all : before ++ read.map g.make = g.records)
      (wrote : x.written.reverse ++ .pull g.amount g.query :: written = g.written) :
      g.Underway x outstanding unread before (.fed .streaming q d) [.sendOn x.pulls]
        (3 * written.length + x.pace.length + 4)
  /-- a request waits for its answer -/
  | asked {d : Nat} {read : List Value} {written : List Message} (none : unread = 0)
      (count : outstanding = g.size.value) (room : ¬ (0 < g.cap ∧ g.cap ≤ (d : Int)))
      (rest : Transcript x.script g.amount g.cap g.query x.pulls d x.rows
        read (.pull g.amount g.query :: written) g.ending)
      (all : before ++ read.map g.make = g.records)
      (wrote : x.written.reverse ++ written = g.written) :
      g.Underway x outstanding unread before (.fed .streaming .zero d)
        [.answer (.pull g.amount g.query)] (3 * written.length + x.pace.length + 2)
  /-- there is more to request -/
  | ready {d : Nat} {read : List Value} {written : List Message} (count : outstanding = unread)
      (limited : unread = 0 ∨ g.size.value ≠ unlimited)
      (room : ¬ (0 < g.cap ∧ g.cap ≤ (d : Int)))
      (rest : Transcript x.script g.amount g.cap g.query x.pulls d x.rows
        read (.pull g.amount g.query :: written) g.ending)
      (all : before ++ read.map g.make = g.records)
      (wrote : x.written.reverse ++ .pull g.amount g.query :: written = g.written) :
      g.Underway x outstanding unread before (.fed .ready .zero d) []
        (3 * written.length + x.pace.length + 3)
  /-- what is left is to be dropped -/
  | dropping {q : Demand} {d : Nat} (all : before = g.records)
      (wrote : x.written.reverse = g.written) (ending : g.ending = none) :
      g.Underway x outstanding unread before (.fed .cancelled q d)
        [.answer (.discardAll g.query)] x.pace.length

/-- What a turn of the connection leads to, with so many records told before it: the stream,
what is told, the job that is left, and the wire. -/
inductive Reading.Advanced (g : Reading) (outstanding : Int) (unread : Nat) (before : List Record)
    (rank : Nat) : Stream → List Signal → List Job → Wire → Prop
  | goesOn {x : Wire} {st : Stream} {jobs : List Job} {records : List Record} {rank' : Nat}
      (serves : x.Serves g.engine) (makes : g.Makes x)
      (underway : g.Underway x outstanding (unread + records.length) (before ++ records) st jobs
        rank')
      (nearer : rank' < rank) :
      g.Advanced outstanding unread before rank st (records.map .record) jobs x
  | ends {x : Wire} {phase : Phase} {q : Demand} {d : Nat} {records : List Record}
      (all : before ++ records = g.records) (wrote : x.written.reverse = g.written) :
      g.Advanced outstanding unread before rank (.left phase q d)
        (records.map .record ++ [.finish g.ending]) [] x

section Facts

variable {script : ConnectionScript} {n m query : Int} {pull delivered : Nat}
  {first second rows : List Value} {read : List Value} {written : List Message}
  {ending : Option Failure}

/-- Of rows that come one after the other, the first are delivered first. -/
theorem underCap_append : underCap m delivered (first ++ second)
    = underCap m delivered first
      ++ underCap m (delivered + (underCap m delivered first).length) second := by
  unfold underCap
  split
  · rw [List.take_append, List.length_take]
    congr 2
    omega
  · rfl

theorem LastBatch.advance
    (last : LastBatch script m query pull delivered (first ++ second) rows written ending) :
    LastBatch script m query pull (delivered + (underCap m delivered first).length) second rows
      written ending := by
  cases last with
  | broken breaks => exact .broken breaks
  | last whole nothing => exact .last whole nothing
  | capped whole left reached =>
      refine .capped whole left ⟨reached.1, ?_⟩
      simp only [underCap, if_pos reached.1, List.length_append, List.length_take] at reached ⊢
      omega

/-- Rows for which there is room are all there. -/
theorem underCap_of_room (room : ¬ (0 < m ∧ m ≤ ((delivered + rows.length : Nat) : Int))) :
    underCap m delivered rows = rows := by
  unfold underCap
  split
  · rw [List.take_of_length_le (by omega)]
  · rfl

theorem Phase.underCap_of_room (room : ¬ (0 < m ∧ m ≤ (delivered : Int))) :
    Phase.underCap m delivered = .streaming := if_neg room

theorem Phase.underCap_running (m : Int) (n : Nat) :
    Phase.underCap m n = .streaming ∨ Phase.underCap m n = .cancelled := by
  unfold Phase.underCap
  split
  · exact .inr rfl
  · exact .inl rfl

/-- A request that leaves rows behind brings as many as it asks for. -/
theorem covered_of_left {size : FetchSize} {rows : List Value}
    (left : covered (Cursor.capped size.value) rows < rows.length) :
    size.value ≠ unlimited ∧ (covered (Cursor.capped size.value) rows : Int) = size.value ∧
      0 < covered (Cursor.capped size.value) rows := by
  have limited : Cursor.capped size.value ≠ unlimited := fun all => by
    simp [covered, all] at left
  rcases size.capped_cases with all | ⟨same, low, -⟩
  · exact absurd all limited
  · rw [same] at left limited ⊢
    simp only [covered, if_neg limited] at left ⊢
    omega

/-- What there is to read begins with a request. -/
theorem Transcript.exists_cons
    (rest : Transcript script n m query pull delivered rows read written ending) :
    ∃ others, written = .pull n query :: others := by
  cases rest <;> exact ⟨_, rfl⟩

end Facts

end QueryStream
