/-
  Proofs/Readout/Turns.lean --- the turns of the connection.

  At its turn the connection sends some of what there is to send: rows, the end of a batch, that
  what is left was dropped.  Whatever else is on the agenda and whether or not the task waits,
  the reading is nearer to its end afterwards (`Carries.turn`).  An end may have the stream write
  a request, which a connection that answers at once answers before the turn is over.
-/
import QueryStream.Proofs.Readout.Underway

set_option autoImplicit false

namespace QueryStream

namespace Spot

variable {s : Spot} {told : List Signal}

/-- More jobs of the reading are queued. -/
def owe (s : Spot) (jobs : List Job) : Spot := { s with due := s.due ++ jobs }

@[simp] theorem owe_nil (s : Spot) : s.owe [] = s := by simp [owe]

theorem withStream_signals (told : List Signal) (s : Spot) (st : Stream) :
    { s.signals told with stream := st } = { s with stream := st }.signals told := by
  induction told generalizing s with
  | nil => rfl
  | cons g told ih =>
      rw [signals_cons, signals_cons, ih]
      rfl

theorem stream_signals (told : List Signal) (s : Spot) : (s.signals told).stream = s.stream := by
  induction told generalizing s with
  | nil => rfl
  | cons g told ih => exact ih (s.signal g)

end Spot

/-- What an outcome of a turn comes to: the stream, what is told, the jobs left, and the wire. -/
abbrev Outturn : Type := Stream → List Signal → List Job → Wire → Prop

/-- Wherever the stream of a reading is in some state, carrying out these instructions over a
wire leads to what is said of the stream, of what is told, of the jobs left and of the wire. -/
def Carries (Q : World → Prop) (g : Reading) (front : List Instruction) (st : Stream) (x : Wire)
    (P : Outturn) : Prop :=
  ∀ (s : Spot) (e : Engine) (rest : List Instruction), At g.engine g.outcome g.promise s e →
    s.stream = st →
    (∀ st' told jobs x' e', P st' told jobs x' →
      At g.engine g.outcome g.promise (({ s with stream := st' }.signals told).owe jobs) e' →
      Comes Q e' x' rest) →
    Comes Q e x (front ++ rest)

/-- What follows once some records were told. -/
def Outturn.after (P : Outturn) (records : List Record) : Outturn :=
  fun st told jobs x => P st (records.map .record ++ told) jobs x

namespace Carries

variable {Q : World → Prop} {g : Reading} {x x₀ : Wire} {P : Outturn} {st : Stream}
  {front : List Instruction} {q : Demand} {d : Nat}

theorem imp {P' : Outturn} (carries : Carries Q g front st x P)
    (weaker : ∀ {st told jobs x}, P st told jobs x → P' st told jobs x) :
    Carries Q g front st x P' :=
  fun s e rest stands same next => carries s e rest stands same
    fun st' told jobs x' e' came => next st' told jobs x' e' (weaker came)

/-- Some rows are delivered, and then the rest is carried out. -/
theorem deliver (sound : g.Sound) (rows : List Value)
    (makes : ∀ row ∈ rows,
      Record.ofSequences? (.list g.engine.run.keys) row = .ok (g.make row))
    (then' : Carries Q g front (.fed (Phase.underCap g.cap (d + (g.handed d rows).length)) q
      (d + (g.handed d rows).length)) x (P.after (g.handed d rows))) :
    Carries Q g (rows.map (fun row => .stream (.deliver row)) ++ front)
      (.fed (Phase.underCap g.cap d) q d) x P := by
  intro s e rest stands fed next
  rw [List.append_assoc]
  refine Comes.deliverAll sound.cap rows stands fed makes fun e' stands => ?_
  have count : (underCap g.cap d rows).length = (g.handed d rows).length := by
    rw [Reading.handed, List.length_map]
  rw [count] at stands
  refine then' _ _ _ stands (Spot.stream_signals _ _) fun st' told jobs x' e' came stands =>
    next st' _ jobs x' e' came ?_
  rwa [Spot.withStream_signals, ← Spot.signals_append] at stands

/-- What is left of a batch is left for another job. -/
theorem putOff {pull : Nat} (came : P st [] [.sendOn pull] x) :
    Carries Q g [.soon (.sendOn pull)] st x P := by
  intro s e rest stands same next
  refine Comes.soon stands rfl fun e' stands => next st [] _ x e' came ?_
  rw [← same]
  exact stands

/-- At a turn, rows are delivered, and either the rest is left for another one, or the batch
ends. -/
theorem portion {a : Ask} (sound : g.Sound) (makes : g.Makes x) (sends : Sends a x₀ x x.pulls)
    (some : ∀ quota pace, x.pace = quota :: pace → quota ≤ x.unsent.length →
      P (.fed (Phase.underCap g.cap (d + (g.handed d (x.unsent.take quota)).length)) q
          (d + (g.handed d (x.unsent.take quota)).length))
        ((g.handed d (x.unsent.take quota)).map .record) [.sendOn x.pulls]
        { x with unsent := x.unsent.drop quota, pace })
    (whole : Carries Q g [.ask (.endBatch x.pulls)]
      (.fed (Phase.underCap g.cap (d + (g.handed d x.unsent).length)) q
        (d + (g.handed d x.unsent).length))
      { x with unsent := [], pace := x.pace.tail } (P.after (g.handed d x.unsent))) :
    Carries Q g [.ask a] (.fed (Phase.underCap g.cap d) q d) x₀ P := by
  intro s e rest stands fed next
  have made : ∀ row ∈ x.unsent,
      Record.ofSequences? (.list g.engine.run.keys) row = .ok (g.make row) :=
    fun row mem => makes row (List.mem_append_left _ mem)
  by_cases turn : ∀ quota ∈ x.pace.head?, x.unsent.length < quota
  · refine Comes.sendRest sends turn ?_
    have carries := deliver (q := q) sound x.unsent made whole
    have comes := carries s e rest stands fed next
    rwa [List.append_assoc] at comes
  · obtain ⟨quota, head, few⟩ : ∃ quota, x.pace.head? = Option.some quota ∧
        quota ≤ x.unsent.length := by simpa using turn
    obtain ⟨pace, turn⟩ : ∃ pace, x.pace = quota :: pace := by
      cases pace : x.pace with
      | nil => simp [pace] at head
      | cons first others =>
          obtain rfl : first = quota := by simpa [pace] using head
          exact ⟨others, rfl⟩
    refine Comes.sendSome sends turn few ?_
    have left := putOff (Q := Q) (g := g)
      (P := P.after (g.handed d (x.unsent.take quota)))
      (by simpa [Outturn.after] using some quota pace turn few)
    have carries := deliver sound (x.unsent.take quota)
      (fun row mem => made row (List.mem_of_mem_take mem)) left
    have comes := carries s e rest stands fed next
    rwa [List.append_assoc] at comes

/-! ### How a batch ends -/

theorem fail {phase : Phase} {f : Failure} (sound : g.Sound) (serves : x.Serves g.engine)
    (running : phase = .streaming ∨ phase = .cancelled)
    (came : P (.left .failed q d) [.finish (some f)] [] x) :
    Carries Q g [.stream (.fail f)] (.fed phase q d) x P := by
  intro s e rest stands fed next
  exact Comes.fail stands sound.other serves fed running fun e' stands =>
    next _ _ _ x e' came (by simpa using stands)

theorem succeed {phase : Phase} {metadata : Value} (sound : g.Sound) (serves : x.Serves g.engine)
    (running : phase = .streaming ∨ phase = .cancelled) (closes : g.engine.Closes metadata)
    (came : P (.left .succeeded q d) [.finish none] [] x) :
    Carries Q g [.stream (.succeed metadata)] (.fed phase q d) x P := by
  intro s e rest stands fed next
  exact Comes.succeed stands sound.other serves fed running closes fun e' stands =>
    next _ _ _ x e' came (by simpa using stands)

/-- A batch is over with more behind it, and nothing was demanded meanwhile. -/
theorem more (sound : g.Sound) (came : P (.fed .ready .zero d) [] [] x) :
    Carries Q g [.stream (.succeed Connection.moreMetadata)] (.fed .streaming .zero d) x P := by
  intro s e rest stands fed next
  exact Comes.more stands sound.other fed fun e' stands =>
    next _ [] [] x e' came (by simpa using stands)

/-- A batch is over with more behind it, and what was demanded meanwhile is requested. -/
theorem flush (sound : g.Sound) (serves : x.Serves g.engine)
    (demand : Demand.ofInt? g.amount = some q)
    (later : P (.fed .streaming .zero d) [] [.answer (.pull g.amount g.query)]
      { x with written := .pull g.amount g.query :: x.written })
    (atOnce : Carries Q g [.ask (.answer (.pull g.amount g.query))] (.fed .streaming .zero d)
      { x with written := .pull g.amount g.query :: x.written } P)
    (attends : ∀ st told jobs x, P st told jobs x →
      st.summaryConsumer = some (.cursor 0) ∨ st.summaryConsumer = none) :
    Carries Q g [.stream (.succeed Connection.moreMetadata)] (.fed .streaming q d) x P := by
  intro s e rest stands fed next
  obtain ⟨q', demand', amount, pending, -⟩ := Comes.demand g.size
  obtain rfl : q = q' := Option.some.inj (demand.symm.trans demand')
  refine Comes.flush stands fed pending fun e' stands => Comes.write serves.writes ?_
  rw [amount]
  have ends : ∀ st told jobs x' e', P st told jobs x' → At g.engine g.outcome g.promise
      (({ s with stream := st }.signals told).owe jobs) e' →
      Comes Q e' x' (.stream .announce :: rest) := fun st told jobs x' e' came stands =>
    Comes.announce stands sound.other (Spot.stream_signals _ _) (attends st told jobs x' came)
      fun e' stands => next st told jobs x' e' came stands
  cases time : x.script.answers with
  | never => exact absurd time serves.answers
  | later =>
      exact Comes.soon stands rfl fun e' stands => ends _ [] _ _ e' later stands
  | atOnce =>
      refine atOnce _ e' (.stream .announce :: rest) stands rfl
        fun st told jobs x' e' came stands => ?_
      exact ends st told jobs x' e' came stands

/-- Dropping what is left is answered, or put off to another job. -/
theorem discard {phase : Phase} (sound : g.Sound) (serves : x.Serves g.engine)
    (running : phase = .streaming ∨ phase = .cancelled)
    (putsOff : x.pace ≠ [] → P (.fed phase q d) [] [.answer (.discardAll g.query)]
      { x with pace := x.pace.tail })
    (drops : P (.left .succeeded q d) [.finish none] []
      { x with rows := [], pace := x.pace.tail }) :
    Carries Q g [.ask (.answer (.discardAll g.query))] (.fed phase q d) x P := by
  intro s e rest stands fed next
  by_cases turn : x.pace.head? = some 0
  · have some : x.pace ≠ [] := by
      intro none
      simp [none] at turn
    refine Comes.putOffDiscard turn (Comes.soon stands rfl fun e' stands => ?_)
    refine next _ [] _ _ e' (putsOff some) ?_
    rw [← fed]
    exact stands
  · refine Comes.answerDiscard serves.drops serves.dropped turn ?_
    exact succeed (x := { x with rows := [], pace := x.pace.tail }) sound { serves with } running
      serves.discarded drops s e rest stands fed next

/-- A batch is over with more behind it, but the stream gave up: what is left is to be dropped. -/
theorem giveUp (sound : g.Sound) (serves : x.Serves g.engine)
    (waits : ∀ pace, pace.length ≤ x.pace.length →
      P (.fed .cancelled q d) [] [.answer (.discardAll g.query)]
        { x with written := .discardAll g.query :: x.written, pace })
    (drops : P (.left .succeeded q d) [.finish none] []
      { x with written := .discardAll g.query :: x.written, rows := [], pace := x.pace.tail }) :
    Carries Q g [.stream (.succeed Connection.moreMetadata)] (.fed .cancelled q d) x P := by
  intro s e rest stands fed next
  refine Comes.giveUp stands fed fun e' stands => Comes.write serves.writes ?_
  have settles : ∀ pace (e' : Engine), pace.length ≤ x.pace.length → At g.engine g.outcome
      g.promise { s with due := s.due ++ [.answer (.discardAll g.query)] } e' →
      Comes Q e' { x with written := .discardAll g.query :: x.written, pace }
        (.stream (.settle .cancelled true Connection.moreMetadata) :: rest) := by
    intro pace e' shorter stands
    refine Comes.settleCancelled stands fed fun e' stands => ?_
    refine next _ [] _ _ e' (waits pace shorter) ?_
    rw [← fed]
    exact stands
  cases time : x.script.answers with
  | never => exact absurd time serves.answers
  | later => exact Comes.soon stands rfl fun e' stands => settles x.pace e' (Nat.le_refl _) stands
  | atOnce =>
      by_cases turn : x.pace.head? = some 0
      · refine Comes.putOffDiscard turn (Comes.soon stands rfl fun e' stands => ?_)
        exact settles _ e' (by simp) stands
      · refine Comes.answerDiscard serves.drops serves.dropped turn ?_
        refine Comes.succeed stands sound.other { serves with } fed (.inr rfl) serves.discarded
          fun e' stands => ?_
        refine Comes.settleLeft stands { serves with } rfl fun e' stands => ?_
        exact next _ _ _ _ e' drops (by simpa using stands)

/-! ### What a turn comes to -/

theorem endBatch {pull : Nat} (ends : Carries Q g [.stream (x.batchEnd pull)] st x P) :
    Carries Q g [.ask (.endBatch pull)] st x P :=
  fun s e rest stands same next => Comes.endBatch (ends s e rest stands same next)

end Carries

namespace Wire

variable {x : Wire} {b : BrokenBatch}

theorem batchSize_of_break (n : Int) (breaks : x.script.breakAt? (x.pulls + 1) = some b) :
    x.batchSize n = min (covered n x.rows) b.rows := by
  have breaks : x.connection.breakAt? (x.pulls + 1) = some b := breaks
  simp only [batchSize, Connection.batchSize, breaks]
  rfl

theorem batchSize_of_whole (n : Int) (whole : x.script.breakAt? (x.pulls + 1) = none) :
    x.batchSize n = covered n x.rows := by
  have whole : x.connection.breakAt? (x.pulls + 1) = none := whole
  simp only [batchSize, Connection.batchSize, whole]
  rfl

theorem batchEnd_of_break (breaks : x.script.breakAt? x.pulls = some b) :
    x.batchEnd x.pulls = .fail b.failure := by
  have breaks : x.connection.breakAt? x.pulls = some b := breaks
  simp only [batchEnd, Connection.batchEnd, breaks]

theorem batchEnd_of_last (whole : x.script.breakAt? x.pulls = none) (nothing : x.rows = []) :
    x.batchEnd x.pulls = .succeed x.script.final := by
  have whole : x.connection.breakAt? x.pulls = none := whole
  have nothing : x.connection.rows = [] := nothing
  simp only [batchEnd, Connection.batchEnd, whole, nothing]
  rfl

theorem batchEnd_of_more (whole : x.script.breakAt? x.pulls = none) (left : x.rows ≠ []) :
    x.batchEnd x.pulls = .succeed Connection.moreMetadata := by
  have whole : x.connection.breakAt? x.pulls = none := whole
  have left : x.connection.rows ≠ [] := left
  have left : x.connection.rows.isEmpty = false := by simpa using left
  simp only [batchEnd, Connection.batchEnd, whole, left]
  rfl

end Wire

section Turns

variable {Q : World → Prop} {g : Reading} {x x₀ : Wire} {st : Stream} {outstanding : Int}
  {unread rank rank' d : Nat} {before records : List Record} {told : List Signal}
  {jobs : List Job} {q : Demand} {written : List Message}

theorem Reading.Advanced.after (turned : g.Advanced outstanding (unread + records.length)
      (before ++ records) rank st told jobs x) :
    g.Advanced outstanding unread before rank st (records.map .record ++ told) jobs x := by
  cases turned with
  | @goesOn _ _ _ others _ serves makes underway nearer =>
      rw [← List.map_append]
      refine .goesOn serves makes ?_ nearer
      rwa [List.length_append, ← Nat.add_assoc, ← List.append_assoc]
  | @ends _ _ _ _ others all wrote =>
      rw [← List.append_assoc, ← List.map_append]
      refine .ends ?_ wrote
      rwa [← List.append_assoc]

theorem Reading.Advanced.mono (turned : g.Advanced outstanding unread before rank st told jobs x)
    (le : rank ≤ rank') : g.Advanced outstanding unread before rank' st told jobs x := by
  cases turned with
  | goesOn serves makes underway nearer =>
      exact .goesOn serves makes underway (Nat.lt_of_lt_of_le nearer le)
  | ends all wrote => exact .ends all wrote

theorem Reading.Advanced.attends
    (turned : g.Advanced outstanding unread before rank st told jobs x) :
    st.summaryConsumer = some (.cursor 0) ∨ st.summaryConsumer = none := by
  cases turned with
  | goesOn _ _ underway _ => cases underway <;> exact .inl rfl
  | ends => exact .inr rfl

theorem Reading.Advanced.quiet (serves : x.Serves g.engine) (makes : g.Makes x)
    (underway : g.Underway x outstanding unread before st jobs rank') (nearer : rank' < rank) :
    g.Advanced outstanding unread before rank st [] jobs x := by
  have underway : g.Underway x outstanding (unread + ([] : List Record).length) (before ++ []) st
      jobs rank' := by simpa using underway
  exact .goesOn serves makes underway nearer

theorem Reading.Advanced.ended {phase : Phase} (all : before = g.records)
    (wrote : x.written.reverse = g.written) :
    g.Advanced outstanding unread before rank (.left phase q d) [.finish g.ending] [] x := by
  have all : before ++ [] = g.records := by simpa using all
  exact .ends all wrote

theorem Reading.handed_append {first second : List Value} : g.handed d (first ++ second)
    = g.handed d first ++ g.handed (d + (g.handed d first).length) second := by
  simp only [handed, underCap_append, List.map_append, List.length_map]

namespace Carries

/-- The last batch that is read of comes to its end. -/
theorem endLast (sound : g.Sound) (serves : x.Serves g.engine) (makes : g.Makes x)
    (last : LastBatch x.script g.cap g.query x.pulls d [] x.rows written g.ending)
    (all : before = g.records) (wrote : x.written.reverse ++ written = g.written) :
    Carries Q g [.ask (.endBatch x.pulls)] (.fed (Phase.underCap g.cap d) q d) x
      (g.Advanced outstanding unread before (x.pace.length + 1)) := by
  have ends : ∀ {x' : Wire} {phase : Phase}, x'.written.reverse = g.written →
      g.Advanced outstanding unread before (x.pace.length + 1) (.left phase q d)
        [.finish g.ending] [] x' := fun wrote =>
    .ended all wrote
  have running := Phase.underCap_running g.cap d
  refine endBatch ?_
  generalize hending : g.ending = ending at last
  cases last with
  | broken breaks =>
      rw [Wire.batchEnd_of_break breaks]
      rw [List.append_nil] at wrote
      exact fail sound serves running (hending ▸ ends wrote)
  | last whole nothing =>
      rw [Wire.batchEnd_of_last whole nothing]
      rw [List.append_nil] at wrote
      exact succeed sound serves running serves.final (hending ▸ ends wrote)
  | capped whole left reached =>
      rw [Wire.batchEnd_of_more whole left]
      have cancelled : Phase.underCap g.cap d = .cancelled := if_pos (by simpa using reached)
      have wrote' : (Message.discardAll g.query :: x.written).reverse = g.written := by
        simpa using wrote
      rw [cancelled]
      refine giveUp sound serves (fun pace shorter => ?_) (hending ▸ ends wrote')
      have dropping : g.Underway { x with written := .discardAll g.query :: x.written, pace }
          outstanding unread before (.fed .cancelled q d) [.answer (.discardAll g.query)]
          pace.length := .dropping all wrote' hending
      exact .quiet { serves with } makes dropping (by omega)

/-- A turn at which rows of the last batch that is read of are sent. -/
theorem sendLast {a : Ask} (sound : g.Sound) (serves : x.Serves g.engine) (makes : g.Makes x)
    (sends : Sends a x₀ x x.pulls)
    (last : LastBatch x.script g.cap g.query x.pulls d x.unsent x.rows written g.ending)
    (all : before ++ g.handed d x.unsent = g.records)
    (wrote : x.written.reverse ++ written = g.written) :
    Carries Q g [.ask a] (.fed (Phase.underCap g.cap d) q d) x₀
      (g.Advanced outstanding unread before (3 * written.length + x.pace.length + 1)) := by
  refine portion sound makes sends (fun quota pace turn few => ?_) ?_
  · have split := List.take_append_drop quota x.unsent
    rw [← split] at last all
    rw [Reading.handed_append, ← List.append_assoc] at all
    have last := last.advance
    rw [← List.length_map (f := g.make)] at last
    refine .goesOn { serves with } ?_ (.lastBatch last all wrote) (by simp [turn])
    intro row mem
    refine makes row ?_
    rcases List.mem_append.1 mem with mem | mem
    · exact List.mem_append_left _ (List.mem_of_mem_drop mem)
    · exact List.mem_append_right _ mem
  · have last : LastBatch x.script g.cap g.query x.pulls (d + (g.handed d x.unsent).length) []
        x.rows written g.ending := by
      rw [Reading.handed, List.length_map]
      exact LastBatch.advance (by rwa [List.append_nil])
    have makes' : g.Makes { x with unsent := [], pace := x.pace.tail } :=
      fun row mem => makes row (List.mem_append_right _ mem)
    refine (endLast (x := { x with unsent := [], pace := x.pace.tail }) sound { serves with } makes'
      last all wrote).imp fun turned => (turned.mono ?_).after
    simp only [List.length_tail]
    omega

/-- A turn at which rows of a batch are sent that has more behind it. -/
theorem sendMore {a : Ask} {read : List Value} (sound : g.Sound) (serves : x.Serves g.engine)
    (makes : g.Makes x) (sends : Sends a x₀ x x.pulls)
    (whole : x.script.breakAt? x.pulls = none) (left : x.rows ≠ [])
    (limited : g.size.value ≠ unlimited)
    (room : ¬ (0 < g.cap ∧ g.cap ≤ ((d + x.unsent.length : Nat) : Int)))
    (count : outstanding = unread + x.unsent.length)
    (rest : Transcript x.script g.amount g.cap g.query x.pulls (d + x.unsent.length) x.rows
      read written g.ending)
    (all : before ++ (x.unsent ++ read).map g.make = g.records)
    (wrote : x.written.reverse ++ written = g.written) :
    Carries Q g [.ask a] (.fed .streaming .zero d) x₀
      (g.Advanced outstanding unread before (3 * written.length + x.pace.length + 1)) := by
  -- There is room for all of the batch, so no portion of it reaches the cap.
  have streaming : Phase.underCap g.cap d = .streaming := Phase.underCap_of_room (by omega)
  have hands : ∀ quota, g.handed d (x.unsent.take quota) = (x.unsent.take quota).map g.make :=
    fun quota => by
      rw [Reading.handed, underCap_of_room]
      rw [List.length_take]
      omega
  rw [← streaming]
  refine portion sound makes sends (fun quota pace turn few => ?_) ?_
  · have size : (x.unsent.take quota).length = quota := List.length_take_of_le few
    have kept : quota + (x.unsent.drop quota).length = x.unsent.length := by
      rw [List.length_drop]
      omega
    rw [hands, List.length_map, size, Phase.underCap_of_room (by omega)]
    have sent : d + quota + (x.unsent.drop quota).length = d + x.unsent.length := by omega
    rw [← sent] at room rest
    refine .goesOn { serves with } (fun row mem => makes row ?_)
      (.batch whole left limited room ?_ rest ?_ wrote) (by simp [turn])
    · exact (List.mem_append.1 mem).elim
        (fun mem => List.mem_append_left _ (List.mem_of_mem_drop mem)) (List.mem_append_right _)
    · rw [List.length_map, size, count]
      simp only
      omega
    · rw [← all, List.append_assoc, ← List.map_append, ← List.append_assoc (x.unsent.take quota),
        List.take_append_drop]
  · have hands : g.handed d x.unsent = x.unsent.map g.make := by
      have hands := hands x.unsent.length
      rwa [List.take_length] at hands
    obtain ⟨others, rfl⟩ := rest.exists_cons
    rw [hands, List.length_map, Phase.underCap_of_room room]
    refine endBatch ?_
    rw [Wire.batchEnd_of_more (x := { x with unsent := [], pace := x.pace.tail }) whole left]
    have ready : g.Underway { x with unsent := [], pace := x.pace.tail } outstanding
        (unread + (x.unsent.map g.make).length) (before ++ x.unsent.map g.make)
        (.fed .ready .zero (d + x.unsent.length)) []
        (3 * others.length + x.pace.tail.length + 3) := by
      refine .ready ?_ (.inr limited) room rest ?_ wrote
      · simp [count]
      · rw [← all]
        simp
    refine more sound (Reading.Advanced.after (.quiet { serves with }
      (fun row mem => makes row (List.mem_append_right _ mem)) ready ?_))
    · simp only [List.length_cons, List.length_tail]
      omega

/-- A turn at which a request for records is answered. -/
theorem answer {read : List Value} (sound : g.Sound) (serves : x.Serves g.engine)
    (makes : g.Makes x) (room : ¬ (0 < g.cap ∧ g.cap ≤ (d : Int)))
    (rest : Transcript x.script g.amount g.cap g.query x.pulls d x.rows
      read (.pull g.amount g.query :: written) g.ending)
    (all : before ++ read.map g.make = g.records)
    (wrote : x.written.reverse ++ written = g.written) :
    Carries Q g [.ask (.answer (.pull g.amount g.query))] (.fed .streaming .zero d) x
      (g.Advanced g.size.value 0 before (3 * written.length + x.pace.length + 2)) := by
  have serves' : (x.afterBatch g.amount).Serves g.engine := { serves with }
  have makes' : g.Makes (x.afterBatch g.amount) := by
    intro row mem
    refine makes row (List.mem_append_right _ ?_)
    exact (List.mem_append.1 mem).elim List.mem_of_mem_take List.mem_of_mem_drop
  have sends := sends_answer x g.amount g.query
  have streaming : Phase.underCap g.cap d = .streaming := Phase.underCap_of_room room
  -- All cases but the last one end the reading with this batch, and differ in what is written after
  -- it.
  have last : ∀ {after : List Message} {unsent rows : List Value},
      (x.afterBatch g.amount).unsent = unsent → (x.afterBatch g.amount).rows = rows →
      LastBatch x.script g.cap g.query (x.pulls + 1) d unsent rows after g.ending →
      before ++ g.handed d unsent = g.records →
      x.written.reverse ++ after = g.written → after.length = written.length →
      Carries Q g [.ask (.answer (.pull g.amount g.query))] (.fed .streaming .zero d) x
        (g.Advanced g.size.value 0 before (3 * written.length + x.pace.length + 2)) := by
    rintro after unsent rows rfl rfl last all wrote same
    rw [← streaming, ← same]
    exact (sendLast sound serves' makes' sends last all wrote).imp fun turned =>
      turned.mono (Nat.le_succ _)
  generalize hwritten : Message.pull g.amount g.query :: written = requests at rest
  generalize hending : g.ending = ending at rest
  cases rest with
  | broken breaks =>
      obtain rfl : written = [] := (List.cons.inj hwritten).2
      have size := Wire.batchSize_of_break g.amount breaks
      refine last (by rw [Wire.afterBatch, size]) rfl ?_ all wrote rfl
      rw [hending]
      exact .broken breaks
  | last whole most =>
      obtain rfl : written = [] := (List.cons.inj hwritten).2
      have size := Wire.batchSize_of_whole g.amount whole
      have unsent : (x.afterBatch g.amount).unsent = x.rows := by
        rw [Wire.afterBatch, size, List.take_of_length_le most]
      have rows : (x.afterBatch g.amount).rows = [] := by
        rw [Wire.afterBatch, size, List.drop_of_length_le most]
      refine last unsent rows ?_ all wrote rfl
      rw [hending]
      exact .last whole rfl
  | capped whole less reached =>
      obtain rfl : written = [.discardAll g.query] := (List.cons.inj hwritten).2
      have size := Wire.batchSize_of_whole g.amount whole
      refine last (by rw [Wire.afterBatch, size]) (by rw [Wire.afterBatch, size]) ?_ all wrote rfl
      rw [hending]
      refine .capped whole (by simpa using less) ?_
      rwa [List.length_take_of_le (Nat.le_of_lt less)]
  | more whole less room' rest =>
      obtain rfl : written = _ := (List.cons.inj hwritten).2
      have size := Wire.batchSize_of_whole g.amount whole
      obtain ⟨limited, count, -⟩ := covered_of_left less
      have unsent : (x.afterBatch g.amount).unsent = x.rows.take (covered g.amount x.rows) := by
        rw [Wire.afterBatch, size]
      have rows : (x.afterBatch g.amount).rows = x.rows.drop (covered g.amount x.rows) := by
        rw [Wire.afterBatch, size]
      have length : (x.afterBatch g.amount).unsent.length = covered g.amount x.rows := by
        rw [unsent, List.length_take_of_le (Nat.le_of_lt less)]
      rw [← unsent] at all
      rw [← length] at room'
      rw [← rows, ← length, ← hending] at rest
      refine (sendMore sound serves' makes' sends whole ?_ limited room' ?_ rest all wrote).imp
        fun turned => turned.mono (Nat.le_succ _)
      · simpa [rows] using less
      · rw [length, ← count]
        simp [Reading.amount]

/-- A turn at which a batch ends, after which more was demanded. -/
theorem endAhead {read : List Value} (sound : g.Sound) (serves : x.Serves g.engine)
    (makes : g.Makes x) (whole : x.script.breakAt? x.pulls = none) (left : x.rows ≠ [])
    (sent : x.unsent = []) (demand : Demand.ofInt? g.amount = some q)
    (room : ¬ (0 < g.cap ∧ g.cap ≤ (d : Int)))
    (rest : Transcript x.script g.amount g.cap g.query x.pulls d x.rows
      read (.pull g.amount g.query :: written) g.ending)
    (all : before ++ read.map g.make = g.records)
    (wrote : x.written.reverse ++ .pull g.amount g.query :: written = g.written) :
    Carries Q g [.ask (.sendOn x.pulls)] (.fed .streaming q d) x
      (g.Advanced g.size.value 0 before (3 * written.length + x.pace.length + 4)) := by
  have streaming : Phase.underCap g.cap d = .streaming := Phase.underCap_of_room room
  have nothing : g.handed d x.unsent = [] := by
    rw [sent, Reading.handed]
    simp [underCap]
  rw [← streaming]
  refine portion sound makes (sends_sendOn x x.pulls) (fun quota pace turn few => ?_) ?_
  · obtain rfl : quota = 0 := by simpa [sent] using few
    have nothing : g.handed d (x.unsent.take 0) = [] := by simp [Reading.handed, underCap]
    rw [nothing, List.length_nil, Nat.add_zero d, streaming]
    exact .quiet { serves with } (by simpa [sent, Reading.Makes] using makes)
      (.ahead whole left (by simp [sent]) demand rfl rfl room rest all wrote) (by simp [turn])
  · rw [nothing, List.length_nil, Nat.add_zero d, streaming]
    refine endBatch ?_
    rw [Wire.batchEnd_of_more (x := { x with unsent := [], pace := x.pace.tail }) whole left]
    have makes' : g.Makes { x with
        unsent := [], pace := x.pace.tail, written := .pull g.amount g.query :: x.written } :=
      fun row mem => makes row (List.mem_append_right _ mem)
    have wrote' : (Message.pull g.amount g.query :: x.written).reverse ++ written = g.written := by
      simpa using wrote
    have shorter : x.pace.tail.length ≤ x.pace.length := by simp
    refine flush sound { serves with } demand ?_ ?_ fun st told jobs x turned => turned.attends
    · exact .quiet { serves with } makes' (.asked rfl rfl room rest all wrote')
        (by simp only; omega)
    · refine (answer (x := { x with
        unsent := [], pace := x.pace.tail, written := .pull g.amount g.query :: x.written }) sound
        { serves with } makes' room rest all wrote').imp fun turned => turned.mono ?_
      simp only
      omega

/-- A turn of the connection, whatever there is to send, brings the reading nearer to its end. -/
theorem turn {a : Ask} {k : Job} (sound : g.Sound) (serves : x.Serves g.engine)
    (makes : g.Makes x) (underway : g.Underway x outstanding unread before st [k] rank)
    (asks : k.ask? = some a) :
    Carries Q g [.ask a] st x (g.Advanced outstanding unread before rank) := by
  cases underway with
  | lastBatch last all wrote =>
      cases asks
      exact sendLast sound serves makes (sends_sendOn x x.pulls) last all wrote
  | batch whole left limited room count rest all wrote =>
      cases asks
      exact sendMore sound serves makes (sends_sendOn x x.pulls) whole left limited room count rest
        all wrote
  | ahead whole left sent demand none count room rest all wrote =>
      cases asks
      subst none count
      exact endAhead sound serves makes whole left sent demand room rest all wrote
  | asked none count room rest all wrote =>
      cases asks
      subst none count
      exact answer sound serves makes room rest all wrote
  | @dropping q d all wrote ending =>
      cases asks
      refine discard sound serves (.inr rfl) (fun some => ?_) ?_
      · have dropping : g.Underway { x with pace := x.pace.tail } outstanding unread before
            (.fed .cancelled q d) [.answer (.discardAll g.query)] x.pace.tail.length :=
          .dropping all wrote ending
        have shorter := List.length_pos_iff.2 some
        refine .quiet { serves with } makes dropping ?_
        rw [List.length_tail]
        omega
      · rw [← ending]
        exact .ended all wrote

end Carries

end Turns

end QueryStream
