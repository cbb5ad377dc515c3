/-
  Proofs/Run.lean --- runs of an engine in surroundings of any kind.

  WHAT A RUN IS.  An engine carries out its agenda one instruction at a time.
  Whatever is not the engine's own doing is left open: what the surroundings
  answer to an ask, which calls outside code makes while it has control, when it
  calls in, and when the loop takes its next job.  A run is any sequence of such
  moves; its history lists them, latest first.

  OUTSIDE CODE.  Control is handed out by an ask: to the connection while a
  request is written, to a consumer while it is told something, to the owner.
  Until it gives control back, outside code can make calls of its own, one after
  the other, let what they throw pass or catch it, and throw something itself.  A
  call is an instruction, and catching is a guard behind it, so the calls that
  answer an ask are put in front of whatever the engine has yet to do.

  CONDUCT.  What is taken for granted of the surroundings is a `Conduct`: which
  calls they refrain from, which asks they answer without letting anything be
  thrown, and what else they keep to in view of the history.  What need not be
  taken for granted, but turned out so in a run, is said of its history
  (`Calmly`).

  WORLDS.  A world with its script is one kind of surroundings: whatever it does is
  a move of its engine (`World.exists_step_of_turn?`).
-/
import QueryStream.Scenario.World

set_option autoImplicit false

namespace QueryStream

/-! ## Calls

What outside code can have the engine do.  Everything else an engine carries out
is what is left of a call, of a job or of a task. -/

/-- Whether a promise goes to a task. -/
def Receiver.isTask : Receiver → Bool
  | .task _ => true
  | _ => false

/-- Whether an action can be asked for from outside; the others are what is left
of one. -/
def Stream.Action.isPublic : Stream.Action → Bool
  | .installRecord _ => true
  | .installSummary _ => true
  | .request _ => true
  | .cancel => true
  | .succeed _ => true
  | .fail _ => true
  | .deliver _ => true
  | _ => false

/-- Whether an action can be asked for from outside, which is no task. -/
def Cursor.Action.isPublic : Cursor.Action → Bool
  | .install _ => true
  | .request _ => true
  | .cancel => true
  | .summary receiver => !receiver.isTask
  | .discardAll receiver => !receiver.isTask
  | .pullAll receiver => !receiver.isTask
  | .rollback receiver => !receiver.isTask
  | .surfaceError => true
  | _ => false

/-- Whether a guard is one that outside code sets up. -/
def Guard.isOutside : Guard → Bool
  | .job => true
  | .command => true
  | _ => false

namespace Instruction

/-- Whether an instruction is one that outside code can put on the agenda: a call,
a guard that catches what calls throw, something thrown, or outside code that
goes on. -/
def isCall : Instruction → Bool
  | .stream a => a.isPublic
  | .channel (.installRecord _) => true
  | .channel (.installSummary _) => true
  | .cursor _ a => a.isPublic
  | .runSucceed _ => true
  | .runFail _ => true
  | .release _ receiver => !receiver.isTask
  | .records _ _ _ receiver => !receiver.isTask
  | .openCursor _ => true
  | .openResult _ _ => true
  | .spawn work receiver => work != .release && !receiver.isTask
  | .cancelPromise _ => true
  | .soon (.answer _) => true
  | .soon (.sendOn _) => true
  | .soon (.abandon _) => true
  | .throw _ => true
  | .guarded g => g.isOutside
  | .ask (.answer _) => true
  | .ask (.sendOn _) => true
  | .ask (.endBatch _) => true
  | .ask (.perform _) => true
  | .ask (.report _) => true
  | _ => false

/-- Whether an instruction is an ask. -/
def isAsk : Instruction → Bool
  | .ask _ => true
  | _ => false

end Instruction

/-! ## Moves -/

/-- An engine and what it has yet to do. -/
structure Situation where
  engine : Engine
  agenda : List Instruction

/-- What happens next. -/
inductive Move where
  /-- an instruction of the engine's own is carried out, and ends so -/
  | carried (i : Instruction) (r : Reply)
  /-- the surroundings answer an ask -/
  | answered (a : Ask) (r : Reply)
  /-- nothing being under way, the loop takes its next job -/
  | began (j : Job)
  /-- nothing being under way, outside code calls in -/
  | called (next : List Instruction)

/-- A move, from one situation to the next. -/
inductive Step : Situation → Move → Situation → Prop
  | carry {e : Engine} {i : Instruction} {rest : List Instruction} (own : i.isAsk = false) :
      Step ⟨e, i :: rest⟩ (.carried i (e.exec i).2) ⟨(e.exec i).1, (e.exec i).2.onto rest⟩
  | answer {e : Engine} {a : Ask} {rest : List Instruction} (r : Reply) :
      Step ⟨e, .ask a :: rest⟩ (.answered a r) ⟨e, r.onto rest⟩
  | begin {e : Engine} {j : Job} {loop : EngineLoop} (next : e.loop.next? = some (j, loop)) :
      Step ⟨e, []⟩ (.began j)
        ⟨({ e with loop }.runJob j).1, ({ e with loop }.runJob j).2⟩
  | call {e : Engine} (next : List Instruction) : Step ⟨e, []⟩ (.called next) ⟨e, next⟩

/-! ## Conduct -/

/-- Whether an ask only tells something, so that no control is handed out. -/
def Ask.isNotice : Ask → Bool
  | .log _ => true
  | .warn _ => true
  | .promise _ _ => true
  | .cursor _ => true
  | .result _ => true
  | .jobFailed _ => true
  | .commandFailed _ => true
  | .report _ => true
  | _ => false

/-- Whether calls are made in such a way that nothing they throw gets past them:
behind the last of them stands a guard. -/
def Caught (calls : List Instruction) : Prop :=
  calls = [] ∨ ∃ body g, calls = body ++ [.guarded g]

/-- What is taken for granted of the surroundings. -/
structure Conduct where
  /-- calls that outside code does not make -/
  refrains : Instruction → Prop
  /-- asks that are answered without letting anything be thrown -/
  tame : Ask → Prop
  /-- what the moves keep to, in view of the history -/
  keeps : List Move → Move → Prop

namespace Conduct

/-- Nothing is taken for granted. -/
def any : Conduct := ⟨fun _ => False, fun _ => False, fun _ _ => True⟩

/-- The calls that outside code makes. -/
def Calls (c : Conduct) (i : Instruction) : Prop := i.isCall = true ∧ ¬ c.refrains i

/-- The answers that the surroundings give to an ask. -/
inductive Answers (c : Conduct) : Ask → Reply → Prop
  | notice {a : Ask} (h : a.isNotice = true) : Answers c a (.go [])
  | calls {a : Ask} {next : List Instruction} (h : a.isNotice = false)
      (made : ∀ i ∈ next, c.Calls i) (caught : c.tame a → Caught next) : Answers c a (.go next)
  | raise {a : Ask} (th : Thrown) (h : a.isNotice = false) (wild : ¬ c.tame a) :
      Answers c a (.raise th)
  /-- the connection was given back -/
  | released (t : TaskId) : Answers c (.runRelease t) (.go [.finish t .nothing])
  /-- giving the connection back does not come to an end -/
  | unending (t : TaskId) : Answers c (.runRelease t) (.go [.awaitNever t])

/-- The moves that a conduct permits. -/
def Permits (c : Conduct) (h : List Move) (m : Move) : Prop :=
  c.keeps h m ∧
    match m with
    | .answered a r => c.Answers a r
    | .called next => ∀ i ∈ next, c.Calls i
    | _ => True

end Conduct

/-! ## Runs -/

/-- A run from a situation, with its history, latest first. -/
inductive Run (c : Conduct) (start : Situation) : List Move → Situation → Prop
  | nil : Run c start [] start
  | snoc {h : List Move} {s s' : Situation} {m : Move} (run : Run c start h s)
      (step : Step s m s') (permitted : c.Permits h m) : Run c start (m :: h) s'

/-- What holds at the start and is kept by every permitted move holds throughout. -/
theorem Run.invariant {c : Conduct} {start : Situation} {I : List Move → Situation → Prop}
    (base : I [] start)
    (kept : ∀ {h : List Move} {s s' : Situation} {m : Move},
      I h s → Step s m s' → c.Permits h m → I (m :: h) s')
    {h : List Move} {s : Situation} (run : Run c start h s) : I h s := by
  induction run with
  | nil => exact base
  | snoc _ step permitted ih => exact kept ih step permitted

/-- Every move of a run was made from where a run led. -/
theorem Run.exists_step_of_append {c : Conduct} {start : Situation} {m : Move} :
    ∀ {later earlier : List Move} {s : Situation}, Run c start (later ++ m :: earlier) s →
      ∃ s₁ s₂, Run c start earlier s₁ ∧ Step s₁ m s₂ ∧ c.Permits earlier m := by
  intro later
  induction later with
  | nil =>
      intro earlier s run
      cases run with
      | snoc run step permitted => exact ⟨_, _, run, step, permitted⟩
  | cons m' later ih =>
      intro earlier s run
      cases run with
      | snoc run _ _ => exact ih run

theorem Step.unique {s s₁ s₂ : Situation} {m : Move} (first : Step s m s₁)
    (second : Step s m s₂) : s₁ = s₂ := by
  cases first with
  | carry own => cases second; rfl
  | answer r => cases second; rfl
  | begin next =>
      cases second with
      | begin next' =>
          rw [next] at next'
          cases next'
          rfl
  | call next => cases second; rfl

theorem Run.unique {c : Conduct} {start : Situation} {h : List Move} {s₁ s₂ : Situation}
    (first : Run c start h s₁) (second : Run c start h s₂) : s₁ = s₂ := by
  induction first generalizing s₂ with
  | nil => cases second; rfl
  | snoc run step permitted ih =>
      cases second with
      | snoc run' step' permitted' =>
          obtain rfl := ih run'
          exact step.unique step'

/-- What holds where a run led and is kept by every move that follows holds from there on. -/
theorem Run.following {c : Conduct} {start s₁ : Situation} {earlier : List Move}
    {I : List Move → Situation → Prop} (before : Run c start earlier s₁) (base : I [] s₁)
    (kept : ∀ {later : List Move} {s s' : Situation} {m : Move},
      I later s → Run c start (later ++ earlier) s → Step s m s' →
      c.Permits (later ++ earlier) m → I (m :: later) s') :
    ∀ {later : List Move} {s : Situation}, Run c start (later ++ earlier) s → I later s := by
  intro later
  induction later with
  | nil =>
      intro s run
      exact before.unique run ▸ base
  | cons m later ih =>
      intro s run
      cases run with
      | snoc run step permitted => exact kept (ih run) run step permitted

/-- What a move establishes and is kept by every move that follows holds after them. -/
theorem Run.followingMove {c : Conduct} {start s₁ : Situation} {m : Move} {earlier : List Move}
    {I : List Move → Situation → Prop} (before : Run c start earlier s₁)
    (base : ∀ {s₂ : Situation}, Step s₁ m s₂ → c.Permits earlier m → I [] s₂)
    (kept : ∀ {later : List Move} {s s' : Situation} {m' : Move},
      I later s → Run c start (later ++ m :: earlier) s → Step s m' s' →
      c.Permits (later ++ m :: earlier) m' → I (m' :: later) s')
    {later : List Move} {s : Situation} (run : Run c start (later ++ m :: earlier) s) :
    I later s := by
  obtain ⟨s₁', s₂, before', step, permitted⟩ := run.exists_step_of_append
  obtain rfl := before.unique before'
  exact (before.snoc step permitted).following (base step permitted) kept run

/-! ## Surroundings that let nothing be thrown

Whether an ask was answered without letting anything be thrown shows in the history.  What
holds where that is taken for granted holds in the runs in which it turned out so. -/

/-- Whether a reply lets nothing be thrown. -/
def Reply.Calm (r : Reply) : Prop := ∃ next, r = .go next ∧ Caught next

/-- In a history, asks of a kind were answered without letting anything be thrown. -/
def Calmly (kind : Ask → Prop) (h : List Move) : Prop :=
  ∀ a r, .answered a r ∈ h → kind a → r.Calm

/-- The same surroundings, if they are known to answer asks of a kind besides without letting
anything be thrown. -/
def Conduct.taming (c : Conduct) (kind : Ask → Prop) : Conduct :=
  { c with tame := fun a => c.tame a ∨ kind a }

section Taming

variable {c : Conduct} {kind : Ask → Prop} {start s : Situation} {h : List Move} {m : Move}

theorem Calmly.of_cons (calm : Calmly kind (m :: h)) : Calmly kind h :=
  fun a r mem => calm a r (List.mem_cons_of_mem _ mem)

theorem Conduct.Permits.taming (permitted : c.Permits h m)
    (calm : ∀ a r, m = .answered a r → kind a → r.Calm) : (c.taming kind).Permits h m := by
  refine ⟨permitted.1, ?_⟩
  have allowed := permitted.2
  cases m with
  | answered a r =>
      cases allowed with
      | notice notice => exact .notice notice
      | @calls a next notice made caught =>
          refine .calls notice made fun tame => ?_
          rcases tame with tame | mine
          · exact caught tame
          · obtain ⟨next', same, caught⟩ := calm a _ rfl mine
            obtain rfl := Reply.go.inj same
            exact caught
      | raise th notice wild =>
          refine .raise th notice fun tame => ?_
          rcases tame with tame | mine
          · exact wild tame
          · obtain ⟨next, same, -⟩ := calm a _ rfl mine
            cases same
      | released t => exact .released t
      | unending t => exact .unending t
  | _ => exact allowed

/-- A run in which nothing was thrown is one of surroundings that let nothing be thrown. -/
theorem Run.taming (run : Run c start h s) (calm : Calmly kind h) :
    Run (c.taming kind) start h s := by
  induction run with
  | nil => exact .nil
  | snoc run step permitted ih =>
      refine (ih calm.of_cons).snoc step (permitted.taming fun a r same => ?_)
      exact calm a r (same ▸ List.mem_cons_self ..)

/-- Whether a move is one with which the surroundings do nothing but give control back, if it is
an answer of theirs. -/
def Move.returns : Move → Bool
  | .answered _ (.go []) => true
  | .answered _ _ => false
  | _ => true

theorem calmly_of_returns (returns : h.all Move.returns = true) : Calmly kind h := by
  intro a r mem _
  have returns := List.all_eq_true.1 returns _ mem
  unfold Move.returns at returns
  split at returns
  · rename_i same
    cases same
    exact ⟨[], rfl, .inl rfl⟩
  · cases returns
  · rename_i other
    exact absurd rfl (other a r)

end Taming

/-! ## Runs that are worked out

Asks answered with nothing are what every conduct permits; so a run is got by carrying
out what is on the agenda. -/

/-- An engine over a stream of which nothing was asked. -/
def Engine.overStream (query : Query) (server : ServerInfo) (cap : Value) (owner : Owner)
    (run : RunOutcome) (release : Option Release) : Engine :=
  { query, server, cap, owner, bookmark := .null, hasStream := true
    channelRelease := release.map fun _ => 0, run, stream := .fresh
    releases := release.toArray, cursors := #[], results := #[], iterations := #[], tasks := #[]
    loop := .idle }

/-- The next move, an ask being answered with nothing, and where it leads. -/
def Situation.advance (s : Situation) : List Move × Situation :=
  match s.agenda with
  | [] => ([], s)
  | .ask a :: rest => ([.answered a (.go [])], ⟨s.engine, rest⟩)
  | i :: rest => ([.carried i (s.engine.exec i).2],
      ⟨(s.engine.exec i).1, (s.engine.exec i).2.onto rest⟩)

/-- The next moves, so many of them, after a history. -/
def Situation.advances : Nat → List Move × Situation → List Move × Situation
  | 0, point => point
  | n + 1, (h, s) => advances n (s.advance.1 ++ h, s.advance.2)

theorem Conduct.answers_nothing (c : Conduct) (a : Ask) : c.Answers a (.go []) := by
  cases notice : a.isNotice with
  | true => exact .notice notice
  | false => exact .calls notice (by simp) fun _ => .inl rfl

/-- With anything under way there is a next move, which every conduct permits that keeps to it. -/
theorem Situation.exists_step_advance {s : Situation} (busy : s.agenda.isEmpty = false) :
    ∃ m, s.advance.1 = [m] ∧ Step s m s.advance.2 ∧
      ∀ (c : Conduct) (h : List Move), c.keeps h m → c.Permits h m := by
  obtain ⟨e, agenda⟩ := s
  cases agenda with
  | nil => cases busy
  | cons i rest =>
      cases own : i.isAsk with
      | true =>
          cases i with
          | ask a =>
              exact ⟨_, rfl, .answer (.go []), fun c h keeps => ⟨keeps, c.answers_nothing a⟩⟩
          | _ => simp [Instruction.isAsk] at own
      | false =>
          have advances : (Situation.mk e (i :: rest)).advance
              = ([.carried i (e.exec i).2], ⟨(e.exec i).1, (e.exec i).2.onto rest⟩) := by
            cases i <;> first | rfl | simp [Instruction.isAsk] at own
          rw [advances]
          exact ⟨_, rfl, .carry own, fun c h keeps => ⟨keeps, trivial⟩⟩

/-- Carrying out what is on the agenda goes on with a run, if nothing else is taken for
granted of its moves. -/
theorem Run.advance {c : Conduct} {start s : Situation} {h : List Move}
    (keeps : ∀ m ∈ s.advance.1, c.keeps h m) (run : Run c start h s) :
    Run c start (s.advance.1 ++ h) s.advance.2 := by
  cases idle : s.agenda.isEmpty with
  | true =>
      have still : s.advance = ([], s) := by
        simp [Situation.advance, List.isEmpty_iff.1 idle]
      rw [still]
      exact run
  | false =>
      obtain ⟨m, move, step, permits⟩ := Situation.exists_step_advance idle
      rw [move] at keeps ⊢
      exact run.snoc step (permits c h (keeps m (List.mem_singleton_self m)))

/-- A conduct keeps to what it does in all of a history. -/
def Conduct.KeepsAll (c : Conduct) : List Move → Prop
  | [] => True
  | m :: h => c.keeps h m ∧ c.KeepsAll h

/-- A conduct keeps to what it does in all of a history of which something holds that says so of
the last move and holds of what came before. -/
theorem Conduct.keepsAll_of_cons {c : Conduct} (kept : List Move → Prop)
    (keeps : ∀ m h, kept (m :: h) → c.keeps h m ∧ kept h) {h : List Move} (all : kept h) :
    c.KeepsAll h := by
  induction h with
  | nil => trivial
  | cons m h ih =>
      obtain ⟨last, before⟩ := keeps m h all
      exact ⟨last, ih before⟩

theorem Conduct.keepsAll_of_forall {c : Conduct} (keeps : ∀ h m, c.keeps h m) (h : List Move) :
    c.KeepsAll h :=
  keepsAll_of_cons (fun _ => True) (fun m h _ => ⟨keeps h m, trivial⟩) trivial

theorem Situation.suffix_advances :
    ∀ (n : Nat) (h : List Move) (s : Situation), h <:+ (advances n (h, s)).1 := by
  intro n
  induction n with
  | zero => exact fun h _ => List.suffix_refl h
  | succ n ih =>
      intro h s
      have hsuffix : h <:+ s.advance.1 ++ h := List.suffix_append _ _
      exact hsuffix.trans (ih _ _)

theorem Situation.advances_succ (n : Nat) (point : List Move × Situation) :
    advances (n + 1) point = advances n (point.2.advance.1 ++ point.1, point.2.advance.2) := rfl

theorem Conduct.KeepsAll.of_append {c : Conduct} {later h : List Move}
    (keeps : c.KeepsAll (later ++ h)) : c.KeepsAll h := by
  induction later with
  | nil => exact keeps
  | cons m later ih => exact ih keeps.2

theorem Run.advances {c : Conduct} {start : Situation} :
    ∀ (n : Nat) {h : List Move} {s : Situation},
      c.KeepsAll (Situation.advances n (h, s)).1 → Run c start h s →
        Run c start (Situation.advances n (h, s)).1 (Situation.advances n (h, s)).2 := by
  intro n
  induction n with
  | zero => exact fun _ run => run
  | succ n ih =>
      intro h s keeps run
      refine ih keeps (run.advance fun m hm => ?_)
      obtain ⟨later, hlater⟩ := Situation.suffix_advances n (s.advance.1 ++ h) s.advance.2
      have hkeeps : c.KeepsAll (s.advance.1 ++ h) := by
        have hall : c.KeepsAll (Situation.advances n (s.advance.1 ++ h, s.advance.2)).1 := keeps
        rw [← hlater] at hall
        exact hall.of_append
      have hone : s.advance.1 = [m] := by
        unfold Situation.advance at hm ⊢
        split at hm <;> simp_all
      rw [hone] at hkeeps
      exact hkeeps.1

/-- A run leads to any point that carrying out what is on the agenda leads to. -/
theorem Run.advances_to {c : Conduct} {start s : Situation} {h : List Move}
    {point : List Move × Situation} (n : Nat) (run : Run c start h s)
    (worked : point = Situation.advances n (h, s)) (keeps : c.KeepsAll point.1) :
    Run c start point.1 point.2 := by
  subst worked
  exact run.advances n keeps

theorem Run.call {c : Conduct} {start s : Situation} {h : List Move} {next : List Instruction}
    (run : Run c start h s) (idle : s.agenda = []) (made : ∀ i ∈ next, c.Calls i)
    (keeps : c.keeps h (.called next)) : Run c start (.called next :: h) ⟨s.engine, next⟩ := by
  obtain ⟨e, agenda⟩ := s
  obtain rfl : agenda = [] := idle
  exact run.snoc (.call next) ⟨keeps, made⟩

/-- What is asked for can be answered with calls, unless it only tells something. -/
theorem Run.answer {c : Conduct} {start s : Situation} {h : List Move} {a : Ask}
    {rest next : List Instruction} (run : Run c start h s) (head : s.agenda = .ask a :: rest)
    (handed : a.isNotice = false) (made : ∀ i ∈ next, c.Calls i) (caught : c.tame a → Caught next)
    (keeps : c.keeps h (.answered a (.go next))) :
    Run c start (.answered a (.go next) :: h) ⟨s.engine, next ++ rest⟩ := by
  obtain ⟨e, agenda⟩ := s
  obtain rfl : agenda = .ask a :: rest := head
  exact run.snoc (.answer (.go next)) ⟨keeps, .calls handed made caught⟩

theorem Run.begin {c : Conduct} {start s : Situation} {h : List Move} {j : Job}
    {loop : EngineLoop} (run : Run c start h s) (idle : s.agenda = [])
    (next : s.engine.loop.next? = some (j, loop)) (keeps : c.keeps h (.began j)) :
    Run c start (.began j :: h)
      ⟨({ s.engine with loop }.runJob j).1, ({ s.engine with loop }.runJob j).2⟩ := by
  obtain ⟨e, agenda⟩ := s
  obtain rfl : agenda = [] := idle
  exact run.snoc (.begin next) ⟨keeps, trivial⟩

/-- What comes next once nothing is under way: calls, or the next job. -/
inductive Act where
  | calls (next : List Instruction)
  | job

/-- The move that an act is, if nothing is under way, and where it leads. -/
def Situation.act (s : Situation) (a : Act) : List Move × Situation :=
  match s.agenda, a with
  | [], .calls next => ([.called next], ⟨s.engine, next⟩)
  | [], .job =>
      match s.engine.loop.next? with
      | none => ([], s)
      | some (j, loop) =>
          ([.began j], ⟨({ s.engine with loop }.runJob j).1, ({ s.engine with loop }.runJob j).2⟩)
  | _ :: _, _ => ([], s)

/-- One act after the other, with so many moves behind each. -/
def Situation.acts (n : Nat) : List Act → List Move × Situation → List Move × Situation
  | [], point => point
  | a :: later, (h, s) => acts n later (advances n ((s.act a).1 ++ h, (s.act a).2))

theorem Run.act {c : Conduct} {start s : Situation} {h : List Move} (a : Act)
    (made : ∀ next, a = .calls next → ∀ i ∈ next, c.Calls i)
    (keeps : c.KeepsAll ((s.act a).1 ++ h)) (run : Run c start h s) :
    Run c start ((s.act a).1 ++ h) (s.act a).2 := by
  obtain ⟨e, agenda⟩ := s
  cases agenda with
  | cons i rest => exact run
  | nil =>
      cases a with
      | calls next => exact run.call rfl (made next rfl) keeps.1
      | job =>
          cases found : e.loop.next? with
          | none =>
              simp only [Situation.act, found] at keeps ⊢
              exact run
          | some job =>
              obtain ⟨j, loop⟩ := job
              simp only [Situation.act, found] at keeps ⊢
              exact run.begin rfl found keeps.1

theorem Situation.suffix_acts (n : Nat) :
    ∀ (acts : List Act) (h : List Move) (s : Situation),
      h <:+ (Situation.acts n acts (h, s)).1 := by
  intro acts
  induction acts with
  | nil => exact fun h _ => List.suffix_refl h
  | cons a later ih =>
      intro h s
      have hact : h <:+ (s.act a).1 ++ h := List.suffix_append _ _
      exact (hact.trans (suffix_advances n _ _)).trans (ih _ _)

theorem Run.acts {c : Conduct} {start : Situation} (n : Nat) :
    ∀ (acts : List Act) {h : List Move} {s : Situation},
      (∀ next, .calls next ∈ acts → ∀ i ∈ next, c.Calls i) →
        c.KeepsAll (Situation.acts n acts (h, s)).1 → Run c start h s →
          Run c start (Situation.acts n acts (h, s)).1 (Situation.acts n acts (h, s)).2 := by
  intro acts
  induction acts with
  | nil => exact fun _ _ run => run
  | cons a later ih =>
      intro h s made keeps run
      have keepsAdvances :
          c.KeepsAll (Situation.advances n ((s.act a).1 ++ h, (s.act a).2)).1 := by
        obtain ⟨front, hfront⟩ := Situation.suffix_acts n later
          (Situation.advances n ((s.act a).1 ++ h, (s.act a).2)).1
          (Situation.advances n ((s.act a).1 ++ h, (s.act a).2)).2
        have hall : c.KeepsAll (Situation.acts n later
          (Situation.advances n ((s.act a).1 ++ h, (s.act a).2))).1 := keeps
        rw [← hfront] at hall
        exact hall.of_append
      have keepsAct : c.KeepsAll ((s.act a).1 ++ h) := by
        obtain ⟨front, hfront⟩ := Situation.suffix_advances n ((s.act a).1 ++ h) (s.act a).2
        rw [← hfront] at keepsAdvances
        exact keepsAdvances.of_append
      have first := run.act a (fun next heq => made next (by simp [heq])) keepsAct
      exact ih (fun next mem => made next (by simp [mem])) keeps (first.advances n keepsAdvances)

/-- Whether outside code that is held to nothing can act so. -/
def Act.isOutside : Act → Bool
  | .calls next => next.all Instruction.isCall
  | .job => true

/-- Calls of any kind go on with a run in surroundings of any kind. -/
theorem Run.acts_of_isOutside {start : Situation} {former point : List Move × Situation} {n : Nat}
    {acts : List Act} (run : Run .any start former.1 former.2)
    (worked : point = Situation.acts n acts former) (made : acts.all Act.isOutside = true) :
    Run .any start point.1 point.2 := by
  subst worked
  refine .acts n acts (fun next mem i hi => ?_) (Conduct.keepsAll_of_forall (fun _ _ => trivial) _)
    run
  have outside : (Act.calls next).isOutside = true := List.all_eq_true.1 made _ mem
  exact ⟨List.all_eq_true.1 outside i hi, id⟩

/-! ## Worlds -/

/-- A world whose agenda is not done carries on by a move of its engine; one with
nothing on its agenda, by the next job. -/
theorem World.exists_step_of_turn? {w next : World} (h : w.turn? = some next) :
    ∃ m, Step ⟨w.engine, w.agenda⟩ m ⟨next.engine, next.agenda⟩ := by
  obtain ⟨e, scene, agenda⟩ := w
  cases agenda with
  | nil =>
      simp only [World.turn?, World.step?, Engine.nextJob?] at h
      cases hnext : e.loop.next? with
      | none => simp [hnext] at h
      | some found =>
          obtain ⟨j, loop⟩ := found
          simp only [hnext, Option.map_some, Option.some.injEq] at h
          subst h
          exact ⟨.began j, .begin hnext⟩
  | cons i rest =>
      simp only [World.turn?, World.step?, Option.some.injEq] at h
      subst h
      cases hask : i.isAsk with
      | false =>
          refine ⟨.carried i (e.exec i).2, ?_⟩
          cases i <;> first | exact .carry hask | simp [Instruction.isAsk] at hask
      | true =>
          cases i with
          | ask a => exact ⟨.answered a (scene.respond e a).2, .answer _⟩
          | _ => simp [Instruction.isAsk] at hask

end QueryStream
