/-
  Proofs/Readout/Rounds.lean --- the rounds of the task that reads.

  Between two turns of the connection the task is at one of three places: it waits to be told
  something (`Waits`), it takes what it was told (`Takes`), or it read that and sees whether to
  ask for more (`Fetches`).  Each of them leads to the end of the reading if those do that are
  nearer to it, and going from one place to the next takes the reading no farther away
  (`follow`).
-/
import QueryStream.Proofs.Readout.Turns

set_option autoImplicit false

namespace QueryStream

/-! ## Where the task is between two turns -/

section Places

variable (g : Reading) (Q : World → Prop)

/-- What comes once the task ended, having read what it was to read, and everything was written
that was to be written. -/
def Reading.Onward : Prop :=
  ∀ e x st outstanding, At g.engine g.outcome g.promise (.ended g.promise g.size st outstanding
      g.records.reverse (Comes.verdict g.records g.ending)) e →
    x.written.reverse = g.written → Comes Q e x []

/-- A task that read everything so far waits to be told something. -/
def Reading.Waits (rank : Nat) : Prop :=
  ∀ {x : Wire} {outstanding : Int} {read : List Record} {st : Stream} {jobs : List Job}
    {q : PromiseId} {e : Engine}, x.Serves g.engine → g.Makes x →
    g.Underway x outstanding 0 read st jobs rank → outstanding ≠ 0 →
    At g.engine g.outcome g.promise
      (.waiting g.promise g.size st outstanding read.reverse jobs q) e →
    Comes Q e x []

/-- A task is to take what it was told.  If that is nothing, something is outstanding. -/
def Reading.Takes (rank : Nat) : Prop :=
  ∀ {x : Wire} {outstanding : Int} {read records : List Record} {st : Stream} {jobs : List Job}
    {e : Engine}, x.Serves g.engine → g.Makes x →
    g.Underway x outstanding records.length (read ++ records) st jobs rank →
    (records = [] → outstanding ≠ 0) →
    At g.engine g.outcome g.promise (.reading g.promise g.size st outstanding
      (records.map .record) read.reverse jobs) e →
    Comes Q e x (.iteration 0 0 .take :: inside)

/-- A task that read everything so far sees whether to ask for more. -/
def Reading.Fetches (rank : Nat) : Prop :=
  ∀ {x : Wire} {outstanding : Int} {read : List Record} {st : Stream} {jobs : List Job}
    {e : Engine}, x.Serves g.engine → g.Makes x →
    g.Underway x outstanding 0 read st jobs rank →
    At g.engine g.outcome g.promise
      (.reading g.promise g.size st outstanding [] read.reverse jobs) e →
    Comes Q e x (.iteration 0 0 .fetch :: inside)

end Places

section Rounds

variable {Q : World → Prop} {g : Reading} {x : Wire} {e : Engine} {st : Stream}
  {outstanding : Int} {unread rank : Nat} {read records : List Record} {told : List Signal}
  {jobs : List Job} {q : PromiseId}

/-- While something is outstanding that was not read, it is the turn of the connection. -/
theorem Reading.Underway.job (underway : g.Underway x outstanding unread read st jobs rank)
    (pending : outstanding ≠ unread) : ∃ k a, jobs = [k] ∧ k.ask? = some a := by
  cases underway with
  | ready count => exact absurd count pending
  | _ => exact ⟨_, _, rfl, rfl⟩

/-- Some of what was told is read. -/
theorem Reading.Underway.taken (underway : g.Underway x outstanding unread read st jobs rank)
    (some : 0 < unread) :
    g.Underway x (if g.size.value = unlimited then outstanding else outstanding - unread) 0 read
      st jobs rank := by
  cases underway with
  | lastBatch last all wrote => exact .lastBatch last all wrote
  | batch whole left limited room count rest all wrote =>
      rw [if_neg limited]
      exact .batch whole left limited room (by omega) rest all wrote
  | ahead _ _ _ _ none | asked none => omega
  | ready count limited room rest all wrote =>
      have limited := limited.resolve_left (by omega)
      rw [if_neg limited]
      exact .ready (by omega) (.inl rfl) room rest all wrote
  | dropping all wrote ending => exact .dropping all wrote ending

/-- What is told to a task that waits has it go on. -/
theorem Spot.signals_waiting {p : PromiseId} {size : FetchSize} {collected : List Record}
    (st' : Stream) (some : told ≠ []) :
    ({ Spot.waiting p size st outstanding collected [] q with stream := st' }.signals told).owe jobs
      = .woken p size st' outstanding told collected (.resume 0 :: jobs) q := by
  obtain ⟨s, others, rfl⟩ := List.exists_cons_of_ne_nil some
  rw [signals_of_awaited s others rfl]
  rfl

/-- What is told to a task that is busy is kept for it. -/
theorem Spot.signals_reading {p : PromiseId} {size : FetchSize} {collected : List Record}
    (st' : Stream) :
    ({ Spot.reading p size st outstanding [] collected [] with
        stream := st' }.signals told).owe jobs
      = .reading p size st' outstanding told collected jobs := by
  rw [signals_of_unawaited told rfl]
  rfl

namespace Comes

/-- The end of the stream was told, and the task reads what is left before it. -/
theorem readLeft (sound : g.Sound) (onward : g.Onward Q) (all : read ++ records = g.records)
    (wrote : x.written.reverse = g.written) (stands : At g.engine g.outcome g.promise
      (.reading g.promise g.size st outstanding (records.map .record ++ [.finish g.ending])
        read.reverse []) e) :
    Comes Q e x (.iteration 0 0 .take :: inside) := by
  refine takeOut records stands sound.other fun e' outstanding stands => ?_
  rw [← List.reverse_append, List.reverse_reverse, all] at stands
  exact onward e' x _ outstanding stands wrote

/-- A task that waits is told something at the next turn, or waits on. -/
theorem waits (sound : g.Sound) (onward : g.Onward Q)
    (nearer : ∀ rank' < rank, g.Waits Q rank' ∧ g.Takes Q rank') : g.Waits Q rank := by
  intro x outstanding read st jobs q e serves makes underway pending stands
  obtain ⟨k, a, rfl, asks⟩ := underway.job (by simpa using pending)
  refine turn stands rfl asks fun e' stands => ?_
  refine Carries.turn sound serves makes underway asks
    (.waiting g.promise g.size st outstanding read.reverse [] q) e' [.guarded .job] stands rfl
    fun st' told jobs x' e' turned stands => guarded ?_
  cases turned with
  | @goesOn _ _ _ records rank' serves makes underway less =>
      rw [Nat.zero_add] at underway
      by_cases nothing : records = []
      · subst nothing
        rw [List.append_nil] at underway
        exact (nearer rank' less).1 serves makes underway pending stands
      · rw [Spot.signals_waiting st' (by simpa using nothing)] at stands
        refine resume stands fun e' stands => ?_
        exact (nearer rank' less).2 serves makes underway (fun none => absurd none nothing) stands
  | ends all wrote =>
      rw [Spot.signals_waiting _ (by simp)] at stands
      exact resume stands fun e' stands => readLeft sound onward all wrote stands

/-- A task takes what it was told, and waits if that is nothing. -/
theorem takes (waits : g.Waits Q rank) (fetches : g.Fetches Q rank) : g.Takes Q rank := by
  intro x outstanding read records st jobs e serves makes underway pending stands
  -- Records are taken until none is left, which makes up for what was outstanding.
  cases records with
  | nil =>
      rw [List.append_nil] at underway
      exact suspend stands fun e' q stands => waits serves makes underway (pending rfl) stands
  | cons r records =>
      have some : 0 < (r :: records).length := Nat.succ_pos _
      have underway := underway.taken some
      refine takeRecord stands fun e' stands => ?_
      rw [← List.append_nil (records.map _)] at stands
      refine drain records stands fun e' stands => ?_
      have same : (if g.size.value = unlimited then
            (if g.size.value = unlimited then outstanding else outstanding - 1)
          else (if g.size.value = unlimited then outstanding else outstanding - 1) - records.length)
          = if g.size.value = unlimited then outstanding
            else outstanding - (r :: records).length := by
        split
        · rfl
        · simp only [List.length_cons]
          omega
      rw [same] at stands
      exact fetches serves makes underway (by simpa using stands)

theorem fetchReady {d : Nat} {rows : List Value} {written : List Message} (sound : g.Sound)
    (onward : g.Onward Q) (nearer : ∀ rank' < 3 * written.length + x.pace.length + 3,
      g.Takes Q rank')
    (serves : x.Serves g.engine) (makes : g.Makes x) (room : ¬ (0 < g.cap ∧ g.cap ≤ (d : Int)))
    (rest : Transcript x.script g.amount g.cap g.query x.pulls d x.rows
      rows (.pull g.amount g.query :: written) g.ending)
    (all : read ++ rows.map g.make = g.records)
    (wrote : x.written.reverse ++ .pull g.amount g.query :: written = g.written)
    (stands : At g.engine g.outcome g.promise
      (.reading g.promise g.size (.fed .ready .zero d) 0 [] read.reverse []) e) :
    Comes Q e x (.iteration 0 0 .fetch :: inside) := by
  have some : g.size.value ≠ 0 := g.size.value_ne_zero
  have wrote : (Message.pull g.amount g.query :: x.written).reverse ++ written = g.written := by
    simpa using wrote
  refine askForBatch stands fun e' stands => ?_
  refine pull stands rfl fun e' stands => write serves.writes ?_
  cases time : x.script.answers with
  | never => exact absurd time serves.answers
  | later =>
      have asked : g.Underway { x with written := .pull g.amount g.query :: x.written } g.size.value
          ([] : List Record).length (read ++ []) (.fed .streaming .zero d)
          [.answer (.pull g.amount g.query)] (3 * written.length + x.pace.length + 2) :=
        .asked rfl rfl room rest (by simpa using all) wrote
      refine soon stands rfl fun e' stands => requested stands fun e' stands => ?_
      exact nearer _ (Nat.lt_succ_self _) { serves with } makes asked (fun _ => some) stands
  | atOnce =>
      refine Carries.answer (x := { x with written := .pull g.amount g.query :: x.written }) sound
        { serves with } makes room rest all wrote
        (.reading g.promise g.size (.fed .streaming .zero d) 0 [] read.reverse []) e'
        (.iteration 0 0 .requested :: inside) stands rfl fun st' told jobs x' e' turned stands => ?_
      rw [Spot.signals_reading] at stands
      refine requested stands fun e' stands => ?_
      cases turned with
      | @goesOn _ _ _ records rank' serves makes underway less =>
          rw [Nat.zero_add] at underway
          exact nearer rank' (Nat.lt_succ_of_lt less) serves makes underway (fun _ => some) stands
      | ends all wrote =>
          exact readLeft sound onward all wrote stands

/-- A task with nothing to read asks for more unless something is outstanding, and waits. -/
theorem fetches (sound : g.Sound) (onward : g.Onward Q) (waits : g.Waits Q rank)
    (nearer : ∀ rank' < rank, g.Takes Q rank') : g.Fetches Q rank := by
  intro x outstanding read st jobs e serves makes underway stands
  have await : ∀ {e' outstanding st'}, outstanding ≠ 0 →
      g.Underway x outstanding 0 read st' jobs rank → At g.engine g.outcome g.promise
        (.reading g.promise g.size st' outstanding [] read.reverse jobs) e' →
      Comes Q e' x (.iteration 0 0 .take :: inside) := fun pending underway stands =>
    suspend stands fun e' q stands => waits serves makes underway pending stands
  by_cases pending : outstanding ≠ 0
  · exact fetchNothing stands pending fun e' stands => await pending underway stands
  · obtain rfl : outstanding = 0 := by simpa using pending
    have some : g.size.value ≠ 0 := g.size.value_ne_zero
    cases underway with
    | ready count limited room rest all wrote =>
        exact fetchReady sound onward nearer serves makes room rest all wrote stands
    | ahead _ _ _ _ _ count | asked _ count => exact absurd count.symm some
    | @lastBatch q d written last all wrote =>
        refine askForBatch stands fun e' stands => ?_
        rcases Phase.underCap_running g.cap d with running | running
        · refine join stands (by rw [Spot.reading, running]) fun e' more _ stands => ?_
          refine requested stands fun e' stands => await some ?_ stands
          rw [← running]
          exact .lastBatch last all wrote
        · refine ignore stands (by rw [Spot.reading, running]) fun e' stands => ?_
          exact requested stands fun e' stands => await some (.lastBatch last all wrote) stands
    | batch whole left limited room count rest all wrote =>
        -- everything that was sent is read, so only the end of the batch is to come
        have sent : x.unsent = [] := List.eq_nil_of_length_eq_zero (by omega)
        obtain ⟨others, rfl⟩ := rest.exists_cons
        obtain ⟨q, demand, -, -, more⟩ := demand g.size
        rw [sent, List.length_nil, Nat.add_zero] at room rest
        rw [sent, List.nil_append] at all
        refine askForBatch stands fun e' stands => ?_
        refine join stands rfl fun e' q' demand' stands => ?_
        obtain rfl : q = q' := Option.some.inj (demand.symm.trans demand')
        rw [more] at stands
        refine requested stands fun e' stands => await some ?_ stands
        have same : 3 * others.length + x.pace.length + 4
            = 3 * (Message.pull g.amount g.query :: others).length + x.pace.length + 1 := by
          simp only [List.length_cons]
          omega
        refine same ▸ ?_
        exact .ahead whole left sent demand rfl rfl room rest all wrote
    | dropping all wrote ending =>
        refine askForBatch stands fun e' stands => ignore stands rfl fun e' stands => ?_
        exact requested stands fun e' stands => await some (.dropping all wrote ending) stands

/-- A reading comes to its end, wherever the task is.  The induction is on how far it is. -/
theorem follow (sound : g.Sound) (onward : g.Onward Q) (rank : Nat) :
    g.Waits Q rank ∧ g.Fetches Q rank := by
  induction rank using Nat.strongRecOn with
  | ind rank ih =>
      have nearer : ∀ rank' < rank, g.Waits Q rank' ∧ g.Takes Q rank' := fun rank' less =>
        ⟨(ih rank' less).1, takes (ih rank' less).1 (ih rank' less).2⟩
      have waits : g.Waits Q rank := waits sound onward nearer
      exact ⟨waits, fetches sound onward waits fun rank' less => (nearer rank' less).2⟩

end Comes

end Rounds

end QueryStream
