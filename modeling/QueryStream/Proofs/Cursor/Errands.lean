/-
  Proofs/Cursor/Errands.lean --- between the end of a stream and the telling of it.

  A stream that has ended has its owner told before its consumers.  What that leads to throws
  nothing, if the connection and the transaction let nothing be thrown (`mild_isErrand`), so
  what is to be told behind it is told.  Then the cursor is told, which resolves its outcome,
  and nothing comes in between (`Parting`).
-/
import QueryStream.Proofs.Cursor.Attachment

set_option autoImplicit false

namespace QueryStream

/-- Whether an ask is what an owner asks for when a stream is over. -/
def Ask.isErrand : Ask → Bool
  | .release => true
  | .terminate _ => true
  | _ => false

/-- Whether an instruction is one that an owner is told something with, and throws
nothing. -/
def Instruction.isErrand : Instruction → Bool
  | .ask a => a.isNotice || a.isErrand
  | .guarded g => g.isOutside
  | .caught g _ => g.isOutside
  | .ownerSucceeded (.map _) => true
  | .ownerFailed _ => true
  | .release _ .nobody => true
  | .startRelease _ .nobody => true
  | .hand .nobody _ => true
  | _ => false

/-- An owner that lets nothing be thrown while it is told. -/
structure Conduct.Errands (c : Conduct) : Prop where
  /-- the connection begins to be given back -/
  releases : c.tame .release
  /-- the transaction is marked as terminated -/
  terminates : ∀ f, c.tame (.terminate f)

theorem Conduct.errands_taming (c : Conduct) : (c.taming fun a => a.isErrand = true).Errands :=
  ⟨.inr rfl, fun _ => .inr rfl⟩

/-- What stands in front of the telling of the end, from when the cursor is to be told
until its outcome is resolved. -/
inductive Parting (o : PromiseId) (e : Engine) (f : Option Failure) : List Instruction → Prop
  | telling (summary : Summary) : Parting o e f [.tellSummary (.cursor 0) (some summary) f]
  | notifying (summary : Summary) : Parting o e f [.cursor 0 (.notify (some summary) f)]
  | settling (st : Settlement Delivery Failure) : Parting o e f [.settle o st]
  | resolved (done : e.loop.isDone o = true) : Parting o e f []

section Steps

variable {c : Conduct} {o : PromiseId} {h : List Move} {s s' : Situation} {m : Move}
  {cursor : Cursor}

theorem Step.isDone_of_settle {p : PromiseId} {st : Settlement Delivery Failure}
    {rest : List Instruction} (step : Step s m s') (agenda : s.agenda = .settle p st :: rest)
    (created : p < s.engine.loop.promises.size) : s'.engine.loop.isDone p = true := by
  obtain ⟨e, todo⟩ := s
  obtain rfl : todo = _ := agenda
  cases step with
  | carry own => exact Loop.isDone_settle created st

/-- What an owner is told with throws nothing, if the connection and the transaction let
nothing be thrown. -/
theorem mild_isErrand (errands : c.Errands) (e : Engine) :
    Mild c e fun i => i.isErrand = true := by
  refine ⟨fun i hi own => ?_, fun a ha => ?_, fun g hg => hg, fun g th hg => hg⟩
  · cases i with
    | ask a => simp [Instruction.isAsk] at own
    | guarded g => exact ⟨[], rfl, by simp⟩
    | caught g th =>
        cases g with
        | job | command =>
            cases th with
            | failure f => exact ⟨_, rfl, by simp [Instruction.isErrand, Ask.isNotice]⟩
            | cancelled => exact ⟨[], rfl, by simp⟩
        | _ => simp [Instruction.isErrand, Guard.isOutside] at hi
    | ownerSucceeded metadata =>
        cases metadata with
        | map entries =>
            simp only [Engine.exec, Engine.ownerSucceeded]
            cases e.owner with
            | transaction => exact ⟨[], rfl, by simp⟩
            | session release => exact ⟨_, rfl, by simp [Instruction.isErrand]⟩
        | _ => simp [Instruction.isErrand] at hi
    | ownerFailed f =>
        simp only [Engine.exec, Engine.ownerFailed]
        cases e.owner with
        | transaction => exact ⟨_, rfl, by simp [Instruction.isErrand, Ask.isNotice, Ask.isErrand]⟩
        | session release => exact ⟨_, rfl, by simp [Instruction.isErrand]⟩
    | release r receiver =>
        cases receiver with
        | nobody =>
            obtain ⟨e', next, exec, invokes⟩ := e.exec_release r .nobody
            rw [exec]
            refine ⟨next, rfl, ?_⟩
            cases invokes <;> simp [Instruction.isErrand, Ask.isNotice, Ask.isErrand]
        | _ => simp [Instruction.isErrand] at hi
    | startRelease r receiver =>
        cases receiver with
        | nobody => exact ⟨_, rfl, by simp [Instruction.isErrand]⟩
        | _ => simp [Instruction.isErrand] at hi
    | hand receiver p =>
        cases receiver with
        | nobody => exact ⟨[], rfl, by simp⟩
        | _ => simp [Instruction.isErrand] at hi
    | _ => simp [Instruction.isErrand] at hi
  · simp only [Instruction.isErrand, Bool.or_eq_true] at ha
    refine ha.imp_right fun herrand => ?_
    cases a with
    | release => exact errands.releases
    | terminate f => exact errands.terminates f
    | _ => simp [Ask.isErrand] at herrand

/-- What a failed stream puts in front of the telling of the end. -/
theorem shield_ownerFailed (line : Log.Line) (f : Failure) :
    Shield (fun i => i.isErrand = true) [.ask (.log line), .ownerFailed f] :=
  ⟨by simp [Instruction.isPlain], sealed_of_forall (by simp [Instruction.isErrand, Ask.isNotice])⟩

theorem shield_ownerSucceeded (line : Log.Line) (entries : List (Value × Value)) :
    Shield (fun i => i.isErrand = true) [.ask (.log line), .ownerSucceeded (.map entries)] :=
  ⟨by simp [Instruction.isPlain], sealed_of_forall (by simp [Instruction.isErrand, Ask.isNotice])⟩

/-- Until the outcome is resolved, the telling of the end stays on the agenda. -/
theorem Parting.step {before rest : List Instruction} {f : Option Failure}
    (parting : Parting o s.engine f before) (attached : Attached o h s cursor)
    (created : o < s.engine.loop.promises.size) (step : Step s m s')
    (agenda : s.agenda = before ++ rest) (waits : before ≠ []) :
    ∃ before', s'.agenda = before' ++ rest ∧ Parting o s'.engine f before' ∧
      s'.engine.stream = s.engine.stream ∧ ∀ i ∈ before', i.isTelling = false := by
  have found : s.engine.cursors[0]? = some cursor := by simp [attached.cursors]
  have houtcome := attached.outcome_eq
  subst houtcome
  obtain ⟨e, todo⟩ := s
  obtain rfl : todo = _ := agenda
  cases parting with
  | telling summary =>
      cases step with
      | carry own => exact ⟨_, rfl, .notifying summary, rfl, by simp [Instruction.isTelling]⟩
  | notifying summary =>
      cases step with
      | carry own =>
          cases f with
          | some f =>
              rw [e.exec_cursor found rfl]
              exact ⟨_, rfl, .settling _, rfl,
                by simp [Instruction.isTelling, Instruction.ofCursor]⟩
          | none =>
              rw [e.exec_cursor found rfl]
              exact ⟨_, rfl, .settling _, rfl,
                by simp [Instruction.isTelling, Instruction.ofCursor]⟩
  | settling st =>
      have done := step.isDone_of_settle rfl created
      cases step with
      | carry own => exact ⟨[], rfl, .resolved done, rfl, by simp⟩
  | resolved done => exact absurd rfl waits

end Steps

end QueryStream
