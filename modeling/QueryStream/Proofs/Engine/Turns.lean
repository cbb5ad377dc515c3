/-
  Proofs/Engine/Turns.lean --- what one move changes, and what it leaves alone.

  A move is a step of the stream that was not refused, or it is quiet
  (`Step.stream_or_quiet`): the stream stays as it is, nothing that only a stream
  brings about is put on the agenda, and of the rest of the agenda an end is kept.
  Whatever the move, promises once settled stay settled and cursors keep the
  promise of their outcome (`Step.onward`).
-/
import QueryStream.Proofs.Engine.Frames

set_option autoImplicit false

namespace QueryStream

/-! ## Jobs -/

namespace Engine

variable (e : Engine)

/-- What turning a job into instructions keeps: like every other instruction, but a
promise may forget a job. -/
structure Began (e : Engine) (j : Job) (after : Engine × List Instruction) : Prop where
  stream : after.1.stream = e.stream
  hasStream : after.1.hasStream = e.hasStream
  cursors : after.1.cursors = e.cursors
  size : e.loop.promises.size ≤ after.1.loop.promises.size
  settled : ∀ {p : PromiseId} {s : Settlement Delivery Failure},
    e.loop.settlement? p = some s → after.1.loop.settlement? p = some s
  loop : (∀ source target, j ≠ .unrelay source target) → e.loop.Evolves after.1.loop
  next : ∀ i ∈ after.2, i.isInner = false ∧ i.isPiped = false ∧ i.isStray = false

theorem Began.of_frame {e' : Engine} {j : Job} {next : List Instruction} (frame : e.Frame e')
    (hnext : ∀ i ∈ next, i.isInner = false ∧ i.isPiped = false ∧ i.isStray = false) :
    e.Began j (e', next) :=
  ⟨frame.stream, frame.hasStream, frame.cursors, frame.loop.size_le,
    fun hs => frame.loop.settlement? hs, fun _ => frame.loop, hnext⟩

theorem settlement?_unwatch (l : EngineLoop) (p q : PromiseId) (leaves : Job → Bool) :
    (l.unwatch q leaves).settlement? p = l.settlement? p := by
  unfold Loop.unwatch
  split
  · rename_i s watchers hq
    rw [Loop.settlement?_set _ _ (Loop.lt_size_of_getElem? hq)]
    split
    · rename_i hpq
      simp [hpq, Loop.settlement?, hq]
    · rfl
  · rfl

theorem size_unwatch (l : EngineLoop) (p : PromiseId) (leaves : Job → Bool) :
    (l.unwatch p leaves).promises.size = l.promises.size := by
  unfold Loop.unwatch
  split <;> simp

theorem LeadsBy.outer {e : Engine} {j : Job} {i : Instruction} (leads : e.LeadsBy j i) :
    i.isInner = false ∧ i.isPiped = false ∧ i.isStray = false := by
  cases leads <;> exact ⟨rfl, rfl, rfl⟩

theorem began_runJob (j : Job) : e.Began j (e.runJob j) := by
  have next : ∀ i ∈ (e.runJob j).2, i.isInner = false ∧ i.isPiped = false ∧ i.isStray = false :=
    fun i mem => (leadsBy_runJob mem).outer
  generalize e.runJob j = after, altersBy_runJob (e := e) j = alters at next
  obtain ⟨e', instructions⟩ := after
  cases alters with
  | same => exact .of_frame _ .rfl' next
  | cancelled t => exact .of_frame e (e.frame_endTask t _) next
  | resumed t => exact .of_frame e ⟨rfl, rfl, rfl, .refl⟩ next
  | relayed target | reported target => exact .of_frame e (e.frame_settle target _) next
  | forgotten source target =>
      refine ⟨rfl, rfl, rfl, Nat.le_of_eq (size_unwatch _ _ _).symm, fun settled => ?_,
        fun other => absurd rfl (other _ _), next⟩
      rw [settlement?_unwatch]
      exact settled
  | abandoned k => exact .of_frame e (e.frame_spawn _) next

end Engine

/-! ## Answers -/

theorem Instruction.isStray_eq_false_of_isCall {i : Instruction} (h : i.isCall = true) :
    i.isStray = false := by
  cases i with
  | soon j => cases j <;> simp_all [isCall, isStray, Job.source?]
  | _ => rfl

/-- What an answer puts on the agenda is outside code's, or ends a task. -/
theorem Conduct.Answers.next {c : Conduct} {a : Ask} {r : Reply} (h : c.Answers a r) :
    ∀ j ∈ r.next, j.isInner = false ∧ j.isStray = false := by
  cases h with
  | notice => simp
  | calls _ made _ =>
      intro j hj
      have hcall := (made j hj).1
      exact ⟨Instruction.isInner_eq_false_of_isCall hcall,
        Instruction.isStray_eq_false_of_isCall hcall⟩
  | raise => simp
  | released t =>
      intro j hj
      rw [List.mem_singleton.1 hj]
      exact ⟨rfl, rfl⟩
  | unending t =>
      intro j hj
      rw [List.mem_singleton.1 hj]
      exact ⟨rfl, rfl⟩

theorem Conduct.Answers.of_isNotice {c : Conduct} {a : Ask} {r : Reply} (h : c.Answers a r)
    (hnotice : a.isNotice = true) : r = .go [] := by
  cases h with
  | notice => rfl
  | calls h' _ _ => simp [hnotice] at h'
  | raise _ h' _ => simp [hnotice] at h'
  | released t => simp [Ask.isNotice] at hnotice
  | unending t => simp [Ask.isNotice] at hnotice

/-! ## Moves -/

/-- A reply keeps an end of the rest, behind what it puts in front or what was
caught. -/
theorem Reply.exists_onto_of_forall {p : Instruction → Prop} {r : Reply} (h : ∀ j ∈ r.next, p j)
    (hcaught : ∀ g th, p (.caught g th)) (rest : List Instruction) :
    ∃ front tail, r.onto rest = front ++ tail ∧ tail <:+ rest ∧ ∀ j ∈ front, p j := by
  obtain ⟨front, tail, heq, hleaves, hfront⟩ := r.exists_onto rest
  refine ⟨front, tail, heq, hleaves.suffix, ?_⟩
  rcases hfront with rfl | ⟨g, th, rfl, _⟩
  · exact h
  · intro j hj
    rw [List.mem_singleton.1 hj]
    exact hcaught g th

/-- What can happen next, one case for each sort of instruction. -/
inductive Turn (c : Conduct) : Situation → Move → Situation → Prop
  /-- a step of the stream -/
  | stream {e : Engine} {a : Stream.Action} {rest : List Instruction} {next : Stream}
      {effects : List Stream.Effect}
      (steps : Stream.Steps e.surroundings e.stream a next effects) :
      Turn c ⟨e, .stream a :: rest⟩ (.carried (.stream a) (.go (effects.map .ofStream)))
        ⟨{ e with stream := next }, effects.map .ofStream ++ rest⟩
  /-- a step of a cursor -/
  | cursor {e : Engine} {id : CursorId} {a : Cursor.Action} {rest : List Instruction}
      {cursor next : Cursor} {effects : List Cursor.Effect}
      (found : e.cursors[id]? = some cursor)
      (steps : Cursor.Steps (e.isResolved cursor) cursor a next effects) :
      Turn c ⟨e, .cursor id a :: rest⟩
        (.carried (.cursor id a) (.go (effects.map (.ofCursor id next))))
        ⟨{ e with cursors := e.cursors.setIfInBounds id next },
          effects.map (.ofCursor id next) ++ rest⟩
  /-- a step that the stream or a cursor refuses -/
  | refused {e : Engine} {i : Instruction} {rest : List Instruction} (cause : Cause)
      (sort : i.isStream = true ∨ i.isCursor = true)
      (error : ∀ a, i = .stream a → e.stream.step e.surroundings a = .error cause) :
      Turn c ⟨e, i :: rest⟩ (.carried i (.raise (.arising cause)))
        ⟨e, (Reply.raise (.arising cause)).onto rest⟩
  /-- a cursor that is not there -/
  | absent {e : Engine} {id : CursorId} (a : Cursor.Action) {rest : List Instruction}
      (found : e.cursors[id]? = none) :
      Turn c ⟨e, .cursor id a :: rest⟩ (.carried (.cursor id a) (.go [])) ⟨e, rest⟩
  /-- the stream is the channel -/
  | channel {e : Engine} (r : ChannelRequest) {rest : List Instruction}
      (own : e.hasStream = true) :
      Turn c ⟨e, .channel r :: rest⟩
        (.carried (.channel r) (.go [.stream (Instruction.ofChannelRequest r)]))
        ⟨e, .stream (Instruction.ofChannelRequest r) :: rest⟩
  /-- the channel is outside -/
  | outside {e : Engine} (r : ChannelRequest) {rest : List Instruction}
      (own : e.hasStream = false) :
      Turn c ⟨e, .channel r :: rest⟩ (.carried (.channel r) (.go [.ask (.channel r)]))
        ⟨e, .ask (.channel r) :: rest⟩
  /-- a cursor is made -/
  | openCursor {e : Engine} (plan : CursorPlan) {rest : List Instruction} :
      Turn c ⟨e, .openCursor plan :: rest⟩ (.carried (.openCursor plan) (e.openCursor plan).2)
        ⟨(e.openCursor plan).1, (e.openCursor plan).2.onto rest⟩
  /-- a cursor is told of the end of a batch or of the stream -/
  | notify {e : Engine} (id : CursorId) (summary : Option Summary) (f : Option Failure)
      {rest : List Instruction} :
      Turn c ⟨e, .tellSummary (.cursor id) summary f :: rest⟩
        (.carried (.tellSummary (.cursor id) summary f) (.go [.cursor id (.notify summary f)]))
        ⟨e, .cursor id (.notify summary f) :: rest⟩
  /-- anything else, which leads to nothing inner and passes nothing on -/
  | other {e : Engine} {i : Instruction} {rest : List Instruction}
      (stream : i.isStream = false) (pipe : i.isPipe = false) (own : i.isAsk = false)
      (next : ∀ j ∈ (e.exec i).2.next, j.isInner = false ∧ j.isPiped = false) :
      Turn c ⟨e, i :: rest⟩ (.carried i (e.exec i).2)
        ⟨(e.exec i).1, (e.exec i).2.onto rest⟩
  | answered {e : Engine} {a : Ask} {rest : List Instruction} {r : Reply}
      (answers : c.Answers a r) :
      Turn c ⟨e, .ask a :: rest⟩ (.answered a r) ⟨e, r.onto rest⟩
  | began {e : Engine} {j : Job} {loop : EngineLoop} (next : e.loop.next? = some (j, loop)) :
      Turn c ⟨e, []⟩ (.began j)
        ⟨({ e with loop }.runJob j).1, ({ e with loop }.runJob j).2⟩
  | called {e : Engine} {next : List Instruction} (made : ∀ i ∈ next, c.Calls i) :
      Turn c ⟨e, []⟩ (.called next) ⟨e, next⟩

/-- Every permitted move is one of these. -/
theorem Step.turn {c : Conduct} {h : List Move} {s s' : Situation} {m : Move}
    (step : Step s m s') (permitted : c.Permits h m) : Turn c s m s' := by
  cases step with
  | answer r => exact .answered permitted.2
  | begin next => exact .began next
  | call next => exact .called permitted.2
  | @carry e i rest own =>
      cases i with
      | stream a =>
          cases hstep : e.stream.step e.surroundings a with
          | ok after =>
              rw [e.exec_stream hstep]
              exact .stream (Stream.steps_of_step hstep)
          | error cause =>
              rw [e.exec_stream_of_error hstep]
              refine .refused cause (.inl rfl) fun a' heq => ?_
              cases heq
              exact hstep
      | cursor id a =>
          cases found : e.cursors[id]? with
          | none =>
              rw [e.exec_cursor_of_none a found]
              exact .absent a found
          | some cursor =>
              cases hstep : cursor.step (e.isResolved cursor) a with
              | ok after =>
                  rw [e.exec_cursor found hstep]
                  exact .cursor found (Cursor.steps_of_step hstep)
              | error cause =>
                  rw [e.exec_cursor_of_error found hstep]
                  exact .refused cause (.inr rfl) fun _ heq => (by cases heq)
      | channel r =>
          cases hasStream : e.hasStream with
          | true =>
              rw [e.exec_channel hasStream]
              exact .channel r hasStream
          | false =>
              rw [e.exec_channel_outside hasStream]
              exact .outside r hasStream
      | openCursor plan => exact .openCursor plan
      | ask a => simp [Instruction.isAsk] at own
      | tellSummary consumer summary f =>
          cases consumer with
          | client id name =>
              refine .other rfl rfl rfl fun j hj => ?_
              rw [List.mem_singleton.1 hj]
              exact ⟨rfl, rfl⟩
          | cursor id => exact .notify id summary f
      | _ =>
          refine .other rfl rfl rfl fun j hj => ?_
          have leads := (e.keeps_exec rfl).next j hj
          exact ⟨leads.outer rfl, leads.piped rfl⟩

/-- What a move can bring onto the agenda. -/
inductive Brought (c : Conduct) (s : Situation) : Instruction → Prop
  | stream {a : Stream.Action} {rest : List Instruction} {next : Stream}
      {effects : List Stream.Effect} {effect : Stream.Effect}
      (head : s.agenda = .stream a :: rest)
      (steps : Stream.Steps s.engine.surroundings s.engine.stream a next effects)
      (mem : effect ∈ effects) : Brought c s (.ofStream effect)
  | cursor {id : CursorId} {a : Cursor.Action} {rest : List Instruction}
      {cursor next : Cursor} {effects : List Cursor.Effect} {effect : Cursor.Effect}
      (head : s.agenda = .cursor id a :: rest) (found : s.engine.cursors[id]? = some cursor)
      (steps : Cursor.Steps (s.engine.isResolved cursor) cursor a next effects)
      (mem : effect ∈ effects) : Brought c s (.ofCursor id next effect)
  | channel {r : ChannelRequest} {rest : List Instruction}
      (head : s.agenda = .channel r :: rest) :
      Brought c s (.stream (Instruction.ofChannelRequest r))
  | opened {plan : CursorPlan} {rest : List Instruction} (j : Instruction)
      (head : s.agenda = .openCursor plan :: rest) : Brought c s j
  | notify {id : CursorId} {summary : Option Summary} {f : Option Failure}
      {rest : List Instruction} (head : s.agenda = .tellSummary (.cursor id) summary f :: rest) :
      Brought c s (.cursor id (.notify summary f))
  /-- what has nothing to do with streams, channels and cursors -/
  | outer {j : Instruction} (inner : j.isInner = false) (piped : j.isPiped = false) :
      Brought c s j
  | called {j : Instruction} (calls : c.Calls j) : Brought c s j

theorem Conduct.Answers.brought {c : Conduct} {a : Ask} {r : Reply} {s : Situation}
    (h : c.Answers a r) : ∀ j ∈ r.next, Brought c s j := by
  cases h with
  | notice => simp
  | calls _ made _ => exact fun j hj => .called (made j hj)
  | raise => simp
  | released t =>
      intro j hj
      rw [List.mem_singleton.1 hj]
      exact .outer rfl rfl
  | unending t =>
      intro j hj
      rw [List.mem_singleton.1 hj]
      exact .outer rfl rfl

/-- What is on the agenda after a move was behind what was carried out, or was brought
there. -/
theorem Turn.mem {c : Conduct} {s s' : Situation} {m : Move} (turn : Turn c s m s')
    {j : Instruction} (hj : j ∈ s'.agenda) : j ∈ s.agenda.tail ∨ Brought c s j := by
  have onto : ∀ {e e' : Engine} {i : Instruction} {rest : List Instruction} {r : Reply},
      (∀ k ∈ r.next, Brought c ⟨e, i :: rest⟩ k) → j ∈ (⟨e', r.onto rest⟩ : Situation).agenda →
        j ∈ (⟨e, i :: rest⟩ : Situation).agenda.tail ∨ Brought c ⟨e, i :: rest⟩ j := by
    intro e e' i rest r hnext hj
    obtain ⟨front, tail, heq, htail, hfront⟩ :=
      Reply.exists_onto_of_forall hnext (fun g th => .outer rfl rfl) rest
    have hj : j ∈ front ++ tail := heq ▸ hj
    rcases List.mem_append.1 hj with hj | hj
    · exact .inr (hfront j hj)
    · exact .inl (htail.mem hj)
  cases turn with
  | stream steps =>
      rcases List.mem_append.1 hj with hj | hj
      · obtain ⟨effect, mem, rfl⟩ := List.mem_map.1 hj
        exact .inr (.stream rfl steps mem)
      · exact .inl hj
  | cursor found steps =>
      rcases List.mem_append.1 hj with hj | hj
      · obtain ⟨effect, mem, rfl⟩ := List.mem_map.1 hj
        exact .inr (.cursor rfl found steps mem)
      · exact .inl hj
  | refused cause sort error => exact onto (by simp) hj
  | absent a found => exact .inl hj
  | channel r own =>
      rcases List.mem_cons.1 hj with rfl | hj
      · exact .inr (.channel rfl)
      · exact .inl hj
  | outside r own =>
      rcases List.mem_cons.1 hj with rfl | hj
      · exact .inr (.outer rfl rfl)
      · exact .inl hj
  | openCursor plan => exact .inr (.opened j rfl)
  | notify id summary f =>
      rcases List.mem_cons.1 hj with rfl | hj
      · exact .inr (.notify rfl)
      · exact .inl hj
  | other stream pipe own next => exact onto (fun k hk => .outer (next k hk).1 (next k hk).2) hj
  | answered answers => exact onto answers.brought hj
  | @began e k loop next =>
      have began := Engine.began_runJob { e with loop } k
      exact .inr (.outer (began.next j hj).1 (began.next j hj).2.1)
  | called made => exact .inr (.called (made j hj))

theorem Step.head_of_carried {s s' : Situation} {i : Instruction} {r : Reply}
    (step : Step s (.carried i r) s') : ∃ rest, s.agenda = i :: rest := by
  cases step
  exact ⟨_, rfl⟩

theorem Step.exec_of_head {s s' : Situation} {m : Move} {i : Instruction}
    {rest : List Instruction} (step : Step s m s') (head : s.agenda = i :: rest)
    (own : i.isAsk = false) :
    m = .carried i (s.engine.exec i).2 ∧
      s' = ⟨(s.engine.exec i).1, (s.engine.exec i).2.onto rest⟩ := by
  obtain ⟨e, agenda⟩ := s
  obtain rfl : agenda = i :: rest := head
  cases step with
  | carry _ => exact ⟨rfl, rfl⟩
  | answer r => simp [Instruction.isAsk] at own

/-- What only tells something is noted, and the rest goes on. -/
theorem Step.of_notice {c : Conduct} {h : List Move} {s s' : Situation} {m : Move} {a : Ask}
    {rest : List Instruction} (step : Step s m s') (permitted : c.Permits h m)
    (head : s.agenda = .ask a :: rest) (notice : a.isNotice = true) :
    m = .answered a (.go []) ∧ s' = ⟨s.engine, rest⟩ := by
  obtain ⟨e, agenda⟩ := s
  obtain rfl : agenda = .ask a :: rest := head
  cases step with
  | carry own => simp [Instruction.isAsk] at own
  | answer r =>
      have answers : c.Answers a r := permitted.2
      obtain rfl := answers.of_isNotice notice
      exact ⟨rfl, rfl⟩

theorem isAsk_of_isLine {i : Instruction} (h : i.isLine = true) :
    ∃ line, i = .ask (.log line) := by
  cases i with
  | ask a =>
      cases a with
      | log line => exact ⟨line, rfl⟩
      | _ => simp [Instruction.isLine] at h
  | _ => simp [Instruction.isLine] at h

/-- What stands first, lines of the log aside, goes on to, or is what is carried out. -/
theorem Step.pastLines_or_head {c : Conduct} {h : List Move} {s s' : Situation} {m : Move}
    {i : Instruction} {rest : List Instruction} (step : Step s m s') (permitted : c.Permits h m)
    (first : pastLines s.agenda = i :: rest) :
    (∃ line, m = .answered (.log line) (.go [])) ∧ s'.engine = s.engine ∧
      pastLines s'.agenda = i :: rest ∨ s.agenda = i :: rest := by
  cases head : s.agenda with
  | nil => simp [head, pastLines] at first
  | cons j tail =>
      cases line : j.isLine with
      | true =>
          obtain ⟨text, rfl⟩ := isAsk_of_isLine line
          obtain ⟨rfl, rfl⟩ := step.of_notice permitted head rfl
          rw [head, pastLines_cons_line line] at first
          exact .inl ⟨⟨text, rfl⟩, rfl, first⟩
      | false =>
          rw [head, pastLines_cons_other line] at first
          exact .inr first

/-- A move that carries something out leads where that leads. -/
theorem Step.exec_of_carried {s s' : Situation} {i : Instruction} {r : Reply}
    (step : Step s (.carried i r) s') : s.engine.exec i = (s'.engine, r) := by
  generalize hm : Move.carried i r = m at step
  cases step <;> cases hm
  rfl

/-- What a move puts on the agenda by itself. -/
def Move.next : Move → List Instruction
  | .carried _ r => r.next
  | .answered _ r => r.next
  | _ => []

/-- What a move puts on the agenda by itself is what it brings there. -/
theorem Turn.brought {c : Conduct} {s s' : Situation} {m : Move} (turn : Turn c s m s')
    {j : Instruction} (mem : j ∈ m.next) : Brought c s j := by
  cases turn with
  | stream steps =>
      obtain ⟨effect, among, rfl⟩ := List.mem_map.1 mem
      exact .stream rfl steps among
  | cursor found steps =>
      obtain ⟨effect, among, rfl⟩ := List.mem_map.1 mem
      exact .cursor rfl found steps among
  | refused | absent | began | called => cases mem
  | channel r own =>
      obtain rfl := List.mem_singleton.1 mem
      exact .channel rfl
  | outside r own =>
      obtain rfl := List.mem_singleton.1 mem
      exact .outer rfl rfl
  | openCursor plan => exact .opened j rfl
  | notify id summary f =>
      obtain rfl := List.mem_singleton.1 mem
      exact .notify rfl
  | other stream pipe own next => exact .outer (next j mem).1 (next j mem).2
  | answered answers => exact answers.brought j mem

/-- A move that is no step of the stream. -/
structure Quiet (s : Situation) (m : Move) (s' : Situation) : Prop where
  stream : s'.engine.stream = s.engine.stream
  hasStream : s'.engine.hasStream = s.engine.hasStream
  agenda : ∃ front tail, s'.agenda = front ++ tail ∧ tail <:+ s.agenda.tail ∧
    ∀ j ∈ front, j.isDriven = false
  next : ∀ j ∈ m.next, j.isDriven = false
  line : ∀ i rest, s.agenda = i :: rest → i.isLine = true → s'.agenda = rest

/-- A step of the stream that was not refused. -/
structure StreamStep (s : Situation) (m : Move) (s' : Situation) (a : Stream.Action)
    (rest : List Instruction) (next : Stream) (effects : List Stream.Effect) : Prop where
  head : s.agenda = .stream a :: rest
  move : m = .carried (.stream a) (.go (effects.map .ofStream))
  steps : Stream.Steps s.engine.surroundings s.engine.stream a next effects
  engine : s'.engine = { s.engine with stream := next }
  agenda : s'.agenda = effects.map .ofStream ++ rest

theorem Quiet.of_onto {e e' : Engine} {i : Instruction} {m : Move} {r : Reply}
    {rest : List Instruction} (stream : e'.stream = e.stream)
    (hasStream : e'.hasStream = e.hasStream) (hm : m.next = r.next)
    (next : ∀ j ∈ r.next, j.isDriven = false) (line : i.isLine = true → r = .go []) :
    Quiet ⟨e, i :: rest⟩ m ⟨e', r.onto rest⟩ := by
  refine ⟨stream, hasStream, Reply.exists_onto_of_forall next (fun _ _ => rfl) rest,
    by rwa [hm], ?_⟩
  intro i' rest' heq hline
  simp only [List.cons.injEq] at heq
  obtain ⟨rfl, rfl⟩ := heq
  simp [line hline]

theorem isLine_eq_false {i : Instruction} (h : i.isStream = true ∨ i.isCursor = true) :
    i.isLine = false := by
  cases i <;> first | rfl | simp [Instruction.isStream, Instruction.isCursor] at h

theorem Quiet.of_cons {e e' : Engine} {i j : Instruction} {r : Reply} {rest : List Instruction}
    (stream : e'.stream = e.stream) (hasStream : e'.hasStream = e.hasStream)
    (driven : j.isDriven = false) (line : i.isLine = false) (hr : r = .go [j]) :
    Quiet ⟨e, i :: rest⟩ (.carried i r) ⟨e', j :: rest⟩ := by
  subst hr
  exact .of_onto (r := .go [j]) stream hasStream rfl (by simpa using driven) (by simp [line])

theorem Move.ne_stream {i : Instruction} (h : i.isStream = false) (r : Reply)
    (a : Stream.Action) (next : List Instruction) :
    Move.carried i r ≠ .carried (.stream a) (.go next) := by
  intro heq
  have hi : i = .stream a := (Move.carried.inj heq).1
  rw [hi] at h
  exact absurd h (by simp [Instruction.isStream])

/-- Every move is a step of the stream or quiet. -/
theorem Step.stream_or_quiet {c : Conduct} {h : List Move} {s s' : Situation} {m : Move}
    (step : Step s m s') (permitted : c.Permits h m) :
    (∃ a rest next effects, StreamStep s m s' a rest next effects) ∨
      ((∀ a next, m ≠ .carried (.stream a) (.go next)) ∧ Quiet s m s') := by
  cases step.turn permitted with
  | @stream e a rest next effects steps =>
      exact .inl ⟨a, rest, next, effects, rfl, rfl, steps, rfl, rfl⟩
  | @cursor e id a rest cursor next effects found steps =>
      refine .inr ⟨Move.ne_stream rfl _, .of_onto (r := .go (effects.map (.ofCursor id next)))
        rfl rfl rfl ?_ (by simp [Instruction.isLine])⟩
      intro j hj
      obtain ⟨effect, hmem, rfl⟩ := List.mem_map.1 hj
      exact (Engine.leadsTo_ofCursor steps effect hmem).driven
  | refused cause sort error =>
      refine .inr ⟨?_, .of_onto rfl rfl rfl (by simp) (by simp [isLine_eq_false sort])⟩
      intro a next heq
      cases heq
  | @absent e id a rest found =>
      exact .inr ⟨Move.ne_stream rfl _, .of_onto (r := .go []) rfl rfl rfl (by simp)
        (by simp [Instruction.isLine])⟩
  | channel r own =>
      refine .inr ⟨Move.ne_stream rfl _, .of_cons rfl rfl ?_ rfl rfl⟩
      cases r <;> rfl
  | outside r own => exact .inr ⟨Move.ne_stream rfl _, .of_cons rfl rfl rfl rfl rfl⟩
  | @openCursor e plan rest =>
      have keeps := e.keeps_exec (i := .openCursor plan) rfl
      exact .inr ⟨Move.ne_stream rfl _, .of_onto keeps.stream keeps.hasStream rfl
        (fun j hj => (keeps.next j hj).driven) (by simp [Instruction.isLine])⟩
  | notify id summary f => exact .inr ⟨Move.ne_stream rfl _, .of_cons rfl rfl rfl rfl rfl⟩
  | @other e i rest stream pipe own next =>
      have keeps := e.keeps_exec stream
      refine .inr ⟨Move.ne_stream stream _, .of_onto keeps.stream keeps.hasStream rfl
        (fun j hj => (keeps.next j hj).driven) fun hline => ?_⟩
      obtain ⟨line, rfl⟩ := isAsk_of_isLine hline
      simp [Instruction.isAsk] at own
  | @answered e a rest r answers =>
      refine .inr ⟨fun _ _ heq => (by cases heq), .of_onto rfl rfl rfl ?_ fun hline => ?_⟩
      · exact fun j hj => j.isDriven_eq_false (answers.next j hj).1
      · obtain ⟨line, hline⟩ := isAsk_of_isLine hline
        cases hline
        exact answers.of_isNotice rfl
  | @began e j loop next =>
      have began := Engine.began_runJob { e with loop } j
      refine .inr ⟨fun _ _ heq => (by cases heq), began.stream, began.hasStream,
        ⟨_, [], (List.append_nil _).symm, ?_, ?_⟩, by simp [Move.next], by simp⟩
      · exact List.nil_suffix
      · exact fun k hk => k.isDriven_eq_false (began.next k hk).1
  | @called e next made =>
      refine .inr ⟨fun _ _ heq => (by cases heq), rfl, rfl,
        ⟨next, [], (List.append_nil _).symm, List.nil_suffix, ?_⟩, by simp [Move.next], by simp⟩
      intro j hj
      exact j.isDriven_eq_false (Instruction.isInner_eq_false_of_isCall (made j hj).1)

theorem Step.exists_stream {c : Conduct} {h : List Move} {s s' : Situation} {m : Move}
    {a : Stream.Action} {rest : List Instruction} (step : Step s m s')
    (permitted : c.Permits h m) (agenda : s.agenda = .stream a :: rest)
    (accepts : ∀ cause, s.engine.stream.step s.engine.surroundings a ≠ .error cause) :
    ∃ next effects, StreamStep s m s' a rest next effects := by
  obtain ⟨e, todo⟩ := s
  obtain rfl : todo = _ := agenda
  cases step.turn permitted with
  | @stream _ _ _ next effects steps => exact ⟨next, effects, rfl, rfl, steps, rfl, rfl⟩
  | refused cause sort error => exact absurd (error a rfl) (accepts cause)
  | other stream pipe own next => simp [Instruction.isStream] at stream

/-! ## Behind a shield -/

/-- What is calm throws nothing, whatever the engine is and wherever it is asked. -/
structure Mild (c : Conduct) (e : Engine) (calm : Instruction → Prop) : Prop where
  carried : ∀ i, calm i → i.isAsk = false → ∃ next, (e.exec i).2 = .go next ∧ ∀ j ∈ next, calm j
  asked : ∀ a, calm (.ask a) → a.isNotice = true ∨ c.tame a
  guarded : ∀ g, g.isOutside = true → calm (.guarded g)
  caught : ∀ g th, g.isOutside = true → calm (.caught g th)

theorem Engine.isPlain_exec (e : Engine) {i : Instruction} (h : i.isPlain = true) :
    (∃ next, (e.exec i).2 = .go next ∧ ∀ j ∈ next, j.isPlain = true) ∨
      ∃ th, (e.exec i).2 = .raise th := by
  cases hstream : i.isStream with
  | false =>
      have keeps := e.keeps_exec hstream
      refine (keeps.plain h).imp_left ?_
      rintro ⟨next, hnext⟩
      refine ⟨next, hnext, fun j hj => (keeps.next j ?_).plain h⟩
      rwa [hnext]
  | true =>
      cases i with
      | stream a =>
          simp only [exec, stepStream]
          split
          · refine .inl ⟨_, rfl, fun j hj => ?_⟩
            obtain ⟨effect, _, rfl⟩ := List.mem_map.1 hj
            cases effect <;> rfl
          · exact .inr ⟨_, rfl⟩
      | _ => simp [Instruction.isStream] at hstream

/-- What stands behind a shield is still there after a move, behind a shield, unless it
is itself what is carried out. -/
theorem Step.of_shield {c : Conduct} {h : List Move} {s s' : Situation} {m : Move}
    {calm : Instruction → Prop} {i x : Instruction} {before rest : List Instruction}
    (step : Step s m s') (permitted : c.Permits h m) (mild : Mild c s.engine calm)
    (agenda : s.agenda = i :: (before ++ x :: rest)) (shield : Shield calm (i :: before)) :
    ∃ before', s'.agenda = before' ++ x :: rest ∧ Shield calm before' ∧
      ∀ j ∈ before', j ∈ before ∨ j ∈ m.next ∨ ∃ g th, j = .caught g th := by
  have hplain : i.isPlain = true := shield.plain i (by simp)
  cases step with
  | @carry e i' rest' own =>
      obtain ⟨rfl, rfl⟩ := List.cons.inj agenda
      -- what is calm goes on to calm instructions, and what is not may throw, up to the shield
      refine Reply.onto_of_shield shield (fun hi => ?_) (e.isPlain_exec hplain) mild.caught
      obtain ⟨next, hnext, hcalm⟩ := mild.carried _ hi own
      refine ⟨next, hnext, fun j hj => ?_, sealed_of_forall hcalm⟩
      rcases e.isPlain_exec hplain with ⟨next', heq, hj'⟩ | ⟨th, heq⟩
      · rw [hnext] at heq
        cases heq
        exact hj' j hj
      · rw [hnext] at heq
        cases heq
  | @answer e a rest' r =>
      obtain ⟨rfl, rfl⟩ := List.cons.inj agenda
      have answers : c.Answers a r := permitted.2
      refine Reply.onto_of_shield shield (fun hi => ?_) ?_ mild.caught
      · cases answers with
        | notice => exact ⟨[], rfl, .nil⟩
        | @calls _ next hnotice made caught =>
            refine ⟨next, rfl, fun j hj => Instruction.isPlain_of_isCall (made j hj).1, ?_⟩
            have htame : c.tame a := by simpa [hnotice] using mild.asked a hi
            exact (caught htame).sealed fun g hg => mild.guarded g (made _ hg).1
        | raise th hnotice wild =>
            have htame : c.tame a := by simpa [hnotice] using mild.asked a hi
            exact absurd htame wild
        | released t => simp [Instruction.isPlain] at hplain
        | unending t => simp [Instruction.isPlain] at hplain
      · cases answers with
        | notice => exact .inl ⟨[], rfl, by simp⟩
        | @calls _ next hnotice made caught =>
            exact .inl ⟨next, rfl, fun j hj => Instruction.isPlain_of_isCall (made j hj).1⟩
        | raise th _ _ => exact .inr ⟨th, rfl⟩
        | released t => simp [Instruction.isPlain] at hplain
        | unending t => simp [Instruction.isPlain] at hplain
  | begin next => cases agenda
  | call next => cases agenda

/-! ## Outcomes -/

/-- The outcomes of cursors are promises that were created. -/
def Engine.Ranged (e : Engine) : Prop :=
  ∀ (id : CursorId) (c : Cursor), e.cursors[id]? = some c → c.outcome < e.loop.promises.size

/-- An engine later on: promises are not given up, what was settled is settled as it
was, and cursors have the same outcomes. -/
structure Engine.Onward (e e' : Engine) : Prop where
  size_le : e.loop.promises.size ≤ e'.loop.promises.size
  settled : ∀ {p : PromiseId} {s : Settlement Delivery Failure},
    e.loop.settlement? p = some s → e'.loop.settlement? p = some s
  outcome : ∀ {id : CursorId} {c : Cursor}, e.cursors[id]? = some c →
    ∃ c', e'.cursors[id]? = some c' ∧ c'.outcome = c.outcome
  ranged : e.Ranged → e'.Ranged

theorem Engine.Onward.of_cursors_eq {e e' : Engine} (cursors : e'.cursors = e.cursors)
    (size : e.loop.promises.size ≤ e'.loop.promises.size)
    (settled : ∀ {p : PromiseId} {s : Settlement Delivery Failure},
      e.loop.settlement? p = some s → e'.loop.settlement? p = some s) : e.Onward e' := by
  refine ⟨size, settled, fun hc => ⟨_, by rw [cursors]; exact hc, rfl⟩, fun ranged id c hc => ?_⟩
  rw [cursors] at hc
  exact Nat.lt_of_lt_of_le (ranged id c hc) size

theorem Engine.Onward.isDone {e e' : Engine} (onward : e.Onward e') {p : PromiseId}
    (h : e.loop.isDone p = true) : e'.loop.isDone p = true := by
  obtain ⟨s, hs⟩ := Option.isSome_iff_exists.1 h
  simp [Loop.isDone, onward.settled hs]

theorem Cursor.Steps.outcome {done : Bool} {c c' : Cursor} {a : Cursor.Action}
    {effects : List Cursor.Effect} (h : Cursor.Steps done c a c' effects) :
    c'.outcome = c.outcome := by
  cases h <;> rfl

theorem Engine.onward_stepCursor (e : Engine) (id : CursorId) (a : Cursor.Action) :
    e.Onward (e.stepCursor id a).1 := by
  unfold stepCursor
  split
  · exact .of_cursors_eq rfl (Nat.le_refl _) (fun hs => hs)
  · rename_i c hc
    split
    · rename_i c' effects hstep
      have outcome := (Cursor.steps_of_step hstep).outcome
      refine ⟨Nat.le_refl _, fun hs => hs, fun {id' d} hd => ?_, fun ranged id' d hd => ?_⟩
      · by_cases hid : id = id'
        · subst hid
          obtain rfl : c = d := by simpa [hc] using hd
          refine ⟨c', ?_, outcome⟩
          have hlt := (Array.getElem?_eq_some_iff.1 hc).1
          simp [hlt]
        · exact ⟨d, by simpa [Array.getElem?_setIfInBounds, hid] using hd, rfl⟩
      · simp only [Array.getElem?_setIfInBounds] at hd
        split at hd
        · split at hd
          · obtain rfl := Option.some.inj hd
            rw [outcome]
            exact ranged id c hc
          · cases hd
        · exact ranged id' d hd
    · exact .of_cursors_eq rfl (Nat.le_refl _) (fun hs => hs)

theorem Engine.onward_openCursor (e : Engine) (plan : CursorPlan) :
    e.Onward (e.openCursor plan).1 := by
  unfold openCursor
  split
  · exact .of_cursors_eq rfl (Nat.le_refl _) (fun hs => hs)
  · split
    · exact .of_cursors_eq rfl (Nat.le_refl _) (fun hs => hs)
    · rename_i e' release chosen
      obtain ⟨releases, rfl, -⟩ := exists_of_chooseRelease chosen
      have evolves : e.loop.Evolves
          (e.loop.create.watch e.loop.nextId (.noteOutcome e.loop.nextId)) :=
        .watch _ (by simp [Job.source?]) (.create .refl)
      refine ⟨evolves.size_le, fun hs => evolves.settlement? hs, fun {id c} hc => ?_,
        fun ranged id c hc => ?_⟩
      · refine ⟨c, ?_, rfl⟩
        rw [Array.getElem?_push, if_neg, hc]
        exact Nat.ne_of_lt (Array.getElem?_eq_some_iff.1 hc).1
      · simp only [Array.getElem?_push] at hc
        split at hc
        · obtain rfl := Option.some.inj hc
          simp [Cursor.fresh, Loop.size_watch, Loop.create, Loop.nextId]
        · exact Nat.lt_of_lt_of_le (ranged id c hc) evolves.size_le

theorem Engine.onward_exec (e : Engine) {i : Instruction} (steady : i.isStray = false) :
    e.Onward (e.exec i).1 := by
  cases hstream : i.isStream with
  | true =>
      obtain ⟨a, rfl⟩ : ∃ a, i = .stream a := by
        cases i with
        | stream a => exact ⟨a, rfl⟩
        | _ => simp [Instruction.isStream] at hstream
      simp only [exec, stepStream]
      split <;> exact .of_cursors_eq rfl (Nat.le_refl _) (fun hs => hs)
  | false =>
      have keeps := e.keeps_exec hstream
      cases hcursors : i.changesCursors with
      | false =>
          have evolves := keeps.loop steady
          exact .of_cursors_eq (keeps.cursors hcursors) evolves.size_le
            fun hs => evolves.settlement? hs
      | true =>
          cases i with
          | cursor id a => exact e.onward_stepCursor id a
          | openCursor plan => exact e.onward_openCursor plan
          | _ => simp [Instruction.changesCursors] at hcursors

theorem Step.onward {s s' : Situation} {m : Move} (step : Step s m s')
    (steady : ∀ i ∈ s.agenda, i.isStray = false) : s.engine.Onward s'.engine := by
  cases step with
  | carry own => exact Engine.onward_exec _ (steady _ (by simp))
  | answer r => exact .of_cursors_eq rfl (Nat.le_refl _) (fun hs => hs)
  | @begin e j loop next =>
      have hloop : loop.promises = e.loop.promises := by
        unfold Loop.next? at next
        split at next
        · cases next
        · obtain ⟨-, rfl⟩ := Prod.mk.inj (Option.some.inj next)
          rfl
      have began := Engine.began_runJob { e with loop } j
      refine .of_cursors_eq began.cursors ?_ fun hs => began.settled ?_
      · have hsize := began.size
        rwa [hloop] at hsize
      · simp only [Loop.settlement?, hloop] at hs ⊢
        exact hs
  | call next => exact .of_cursors_eq rfl (Nat.le_refl _) (fun hs => hs)

theorem Step.steady {c : Conduct} {h : List Move} {s s' : Situation} {m : Move}
    (step : Step s m s') (permitted : c.Permits h m)
    (steady : ∀ i ∈ s.agenda, i.isStray = false) : ∀ i ∈ s'.agenda, i.isStray = false := by
  have onto : ∀ {r : Reply} {i : Instruction} {rest : List Instruction},
      (∀ j ∈ r.next, j.isStray = false) → (∀ j ∈ i :: rest, j.isStray = false) →
        ∀ j ∈ r.onto rest, j.isStray = false := by
    intro r i rest hnext hagenda j hj
    obtain ⟨front, tail, heq, htail, hfront⟩ :=
      Reply.exists_onto_of_forall hnext (fun _ _ => rfl) rest
    rw [heq] at hj
    rcases List.mem_append.1 hj with hj | hj
    · exact hfront j hj
    · exact hagenda j (List.mem_cons_of_mem _ (htail.mem hj))
  cases step with
  | @carry e i rest own =>
      refine onto (fun j hj => ?_) steady
      cases hstream : i.isStream with
      | false => exact ((e.keeps_exec hstream).next j hj).steady
      | true =>
          cases i with
          | stream a =>
              simp only [Engine.exec, Engine.stepStream] at hj
              split at hj
              · obtain ⟨effect, _, rfl⟩ := List.mem_map.1 hj
                cases effect <;> rfl
              · cases hj
          | _ => simp [Instruction.isStream] at hstream
  | answer r =>
      have answers : c.Answers _ r := permitted.2
      exact onto (fun j hj => (answers.next j hj).2) steady
  | @begin e j loop next =>
      exact fun k hk => ((Engine.began_runJob { e with loop } j).next k hk).2.2
  | @call e next =>
      have made : ∀ i ∈ next, c.Calls i := permitted.2
      exact fun i hi => Instruction.isStray_eq_false_of_isCall (made i hi).1

/-! ## Loops of jobs -/

theorem Engine.evolves_exec (e : Engine) {i : Instruction} (steady : i.isStray = false) :
    e.loop.Evolves (e.exec i).1.loop := by
  cases hstream : i.isStream with
  | false => exact (e.keeps_exec hstream).loop steady
  | true =>
      cases i with
      | stream a =>
          simp only [exec, stepStream]
          split <;> exact .refl
      | _ => simp [Instruction.isStream] at hstream

theorem Loop.Sound.step {s s' : Situation} {m : Move} (sound : s.engine.loop.Sound)
    (step : Step s m s')
    (steady : ∀ i ∈ s.agenda, i.isStray = false) : s'.engine.loop.Sound := by
  cases step with
  | @carry e i rest own => exact sound.evolves (e.evolves_exec (steady i (by simp)))
  | answer r => exact sound
  | call body => exact sound
  | @begin e j loop found =>
      obtain ⟨sound', _, _, _⟩ := sound.of_next? found
      by_cases unrelay : ∃ source target, j = .unrelay source target
      · obtain ⟨source, target, rfl⟩ := unrelay
        simp only [Engine.runJob, Engine.forget]
        split
        · exact sound'
        · exact sound'.unwatch source _
      · have began := Engine.began_runJob { e with loop } j
        exact sound'.evolves (began.loop fun source target heq => unrelay ⟨source, target, heq⟩)

end QueryStream
