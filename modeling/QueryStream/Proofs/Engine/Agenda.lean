/-
  Proofs/Engine/Agenda.lean --- how an agenda goes on.

  Carrying out an instruction puts others in front of the rest, or drops a part of
  the rest: up to the nearest guard if something is thrown, up to the end of a task
  if it waits.  Either way what is kept is an end of the rest
  (`Reply.exists_onto`).

  Three properties of agendas are followed through all moves.  `UpFront p` says that
  what `p` picks out stands at the front of the agenda, lines of the log aside: so
  nothing can come before it, and nothing thrown can drop it.  `Led lead p` says that
  what `p` picks out stands directly behind something that leads to it: so it is not
  reached unless that was carried out.  `Sealed calm` says of
  a part of the agenda that whatever is thrown in it is caught in it, what is calm
  throwing nothing: so what stands behind that part is carried out in the end
  (`Reply.onto_of_shield`).
-/
import QueryStream.Proofs.Run

set_option autoImplicit false

namespace QueryStream

/-! ## Replies -/

/-- What a reply puts in front. -/
def Reply.next : Reply → List Instruction
  | .go next => next
  | .exit next => next
  | _ => []

@[simp] theorem Reply.next_go (next : List Instruction) : (Reply.go next).next = next := rfl

@[simp] theorem Reply.next_exit (next : List Instruction) : (Reply.exit next).next = next := rfl

@[simp] theorem Reply.next_raise (th : Thrown) : (Reply.raise th).next = [] := rfl

@[simp] theorem Reply.next_suspend (t : TaskId) : (Reply.suspend t).next = [] := rfl

@[simp] theorem Reply.onto_go (next rest : List Instruction) :
    (Reply.go next).onto rest = next ++ rest := rfl

theorem exists_of_unwind {agenda tail : List Instruction} {g : Guard}
    (h : unwind agenda = some (g, tail)) : ∃ before, agenda = before ++ .guarded g :: tail := by
  induction agenda with
  | nil => simp [unwind] at h
  | cons i rest ih =>
      by_cases hguard : ∃ g', i = .guarded g'
      · obtain ⟨g', rfl⟩ := hguard
        simp only [unwind, Option.some.injEq, Prod.mk.injEq] at h
        obtain ⟨rfl, rfl⟩ := h
        exact ⟨[], rfl⟩
      · have hrest : unwind (i :: rest) = unwind rest := by
          cases i <;> first | rfl | exact absurd ⟨_, rfl⟩ hguard
        rw [hrest] at h
        obtain ⟨before, rfl⟩ := ih h
        exact ⟨i :: before, rfl⟩

/-- A guard on an agenda is found. -/
theorem unwind_append {before : List Instruction} (rest : List Instruction) {g : Guard}
    (h : .guarded g ∈ before) :
    ∃ front g' middle, before = front ++ .guarded g' :: middle ∧
      unwind (before ++ rest) = some (g', middle ++ rest) := by
  induction before with
  | nil => simp at h
  | cons i before ih =>
      by_cases hguard : ∃ g', i = .guarded g'
      · obtain ⟨g', rfl⟩ := hguard
        exact ⟨[], g', before, rfl, rfl⟩
      · have hmem : .guarded g ∈ before := by
          rcases List.mem_cons.1 h with heq | hmem
          · exact absurd ⟨g, heq.symm⟩ hguard
          · exact hmem
        obtain ⟨front, g', middle, rfl, hunwind⟩ := ih hmem
        refine ⟨i :: front, g', middle, rfl, ?_⟩
        rw [← hunwind]
        cases i <;> first | rfl | exact absurd ⟨_, rfl⟩ hguard

theorem afterTask_eq (t : TaskId) (agenda : List Instruction) :
    afterTask t agenda = [] ∨
      ∃ before, agenda = before ++ .guarded (.task t) :: afterTask t agenda := by
  induction agenda with
  | nil => exact .inl rfl
  | cons i rest ih =>
      by_cases hend : i = .guarded (.task t)
      · subst hend
        exact .inr ⟨[], by simp [afterTask]⟩
      · have hrest : afterTask t (i :: rest) = afterTask t rest := by
          cases i with
          | guarded g =>
              cases g with
              | task u =>
                  have hne : u ≠ t := fun heq => hend (heq ▸ rfl)
                  simp [afterTask, hne]
              | _ => rfl
          | _ => rfl
        rw [hrest]
        rcases ih with hnil | ⟨before, hbefore⟩
        · exact .inl hnil
        · refine .inr ⟨i :: before, ?_⟩
          rw [List.cons_append, ← hbefore]

/-- What a reply leaves of the rest of an agenda: all of it, nothing, or what
stands behind a guard. -/
inductive Reply.Leaves (rest : List Instruction) : Reply → List Instruction → Prop
  | all (next : List Instruction) : Leaves rest (.go next) rest
  | nothing (r : Reply) : Leaves rest r []
  | behind {tail before : List Instruction} {g : Guard} (r : Reply)
      (split : rest = before ++ .guarded g :: tail) : Leaves rest r tail

theorem Reply.Leaves.suffix {rest tail : List Instruction} {r : Reply}
    (h : r.Leaves rest tail) : tail <:+ rest := by
  cases h with
  | all next => exact List.suffix_refl _
  | nothing r => exact List.nil_suffix
  | @behind tail before g r split =>
      exact ⟨before ++ [.guarded g], by simp [split]⟩

/-- The agenda after a reply: what the reply puts in front, or what was caught,
and then what it leaves of the rest. -/
theorem Reply.exists_onto (r : Reply) (rest : List Instruction) :
    ∃ front tail, r.onto rest = front ++ tail ∧ r.Leaves rest tail ∧
      (front = r.next ∨ ∃ g th, front = [.caught g th] ∧ .guarded g ∈ rest) := by
  cases r with
  | go next => exact ⟨next, rest, rfl, .all next, .inl rfl⟩
  | exit next =>
      cases h : unwind rest with
      | none => exact ⟨next, [], by simp [Reply.onto, h], .nothing _, .inl rfl⟩
      | some found =>
          obtain ⟨g, tail⟩ := found
          obtain ⟨before, hbefore⟩ := exists_of_unwind h
          exact ⟨next, tail, by simp [Reply.onto, h], .behind _ hbefore, .inl rfl⟩
  | raise th =>
      cases h : unwind rest with
      | none => exact ⟨[], [], by simp [Reply.onto, h], .nothing _, .inl rfl⟩
      | some found =>
          obtain ⟨g, tail⟩ := found
          obtain ⟨before, hbefore⟩ := exists_of_unwind h
          refine ⟨[.caught g th], tail, by simp [Reply.onto, h], .behind _ hbefore, .inr ?_⟩
          exact ⟨g, th, rfl, by simp [hbefore]⟩
  | suspend t =>
      rcases afterTask_eq t rest with hnil | ⟨before, hbefore⟩
      · exact ⟨[], [], by simp [Reply.onto, hnil], .nothing _, .inl rfl⟩
      · exact ⟨[], afterTask t rest, rfl, .behind _ hbefore, .inl rfl⟩

/-- What is on the agenda after a reply was behind what was carried out or is part of the
reply, if it is not that something was caught. -/
theorem Reply.mem_onto {r : Reply} {rest : List Instruction} {j : Instruction}
    (mem : j ∈ r.onto rest) : j ∈ rest ∨ j ∈ r.next ∨ ∃ g th, j = .caught g th := by
  obtain ⟨front, tail, heq, leaves, hfront⟩ := r.exists_onto rest
  rw [heq] at mem
  rcases List.mem_append.1 mem with mem | mem
  · rcases hfront with rfl | ⟨g, th, rfl, _⟩
    · exact .inr (.inl mem)
    · exact .inr (.inr ⟨g, th, List.mem_singleton.1 mem⟩)
  · exact .inl (leaves.suffix.mem mem)

/-! ## At the front of an agenda -/

namespace Instruction

/-- Whether an instruction is a line of the log. -/
def isLine : Instruction → Bool
  | .ask (.log _) => true
  | _ => false

end Instruction

/-- An agenda without the lines of the log at its front. -/
def pastLines (agenda : List Instruction) : List Instruction :=
  agenda.dropWhile Instruction.isLine

/-- What a property picks out stands first on the agenda, lines of the log aside. -/
def UpFront (p : Instruction → Prop) (agenda : List Instruction) : Prop :=
  ∀ i ∈ (pastLines agenda).tail, ¬ p i

section UpFront

variable {p : Instruction → Prop}

theorem pastLines_cons_line {i : Instruction} (h : i.isLine = true)
    (rest : List Instruction) : pastLines (i :: rest) = pastLines rest := by
  simp [pastLines, h]

theorem pastLines_cons_other {i : Instruction} (h : i.isLine = false)
    (rest : List Instruction) : pastLines (i :: rest) = i :: rest := by
  simp [pastLines, h]

theorem mem_of_mem_tail_pastLines {i : Instruction} {agenda : List Instruction}
    (h : i ∈ (pastLines agenda).tail) : i ∈ agenda :=
  (List.dropWhile_suffix _).mem (List.mem_of_mem_tail h)

theorem upFront_of_forall {agenda : List Instruction} (h : ∀ i ∈ agenda, ¬ p i) :
    UpFront p agenda :=
  fun i hi => h i (mem_of_mem_tail_pastLines hi)

theorem UpFront.of_cons_line {i : Instruction} {rest : List Instruction}
    (h : UpFront p (i :: rest)) (hline : i.isLine = true) : UpFront p rest := by
  rwa [UpFront, pastLines_cons_line hline] at h

theorem UpFront.forall_of_cons {i : Instruction} {rest : List Instruction}
    (h : UpFront p (i :: rest)) (hline : i.isLine = false) : ∀ j ∈ rest, ¬ p j := by
  rwa [UpFront, pastLines_cons_other hline] at h

theorem upFront_cons_line (line : Log.Line) {rest : List Instruction} (h : UpFront p rest) :
    UpFront p (.ask (.log line) :: rest) := by
  rwa [UpFront, pastLines_cons_line rfl]

/-- Whatever stands first, only what comes after it matters. -/
theorem upFront_cons (i : Instruction) {rest : List Instruction} (h : ∀ j ∈ rest, ¬ p j) :
    UpFront p (i :: rest) := by
  cases hline : i.isLine with
  | true =>
      rw [UpFront, pastLines_cons_line hline]
      exact upFront_of_forall h
  | false =>
      rw [UpFront, pastLines_cons_other hline]
      exact h

theorem UpFront.append {next rest : List Instruction} (h : UpFront p next)
    (hrest : ∀ i ∈ rest, ¬ p i) : UpFront p (next ++ rest) := by
  induction next with
  | nil => exact upFront_of_forall hrest
  | cons i next ih =>
      cases hline : i.isLine with
      | true =>
          rw [UpFront, List.cons_append, pastLines_cons_line hline]
          exact ih (h.of_cons_line hline)
      | false =>
          rw [UpFront, List.cons_append, pastLines_cons_other hline]
          intro j hj
          rcases List.mem_append.1 hj with hnext | htail
          · exact h.forall_of_cons hline j hnext
          · exact hrest j htail

end UpFront

/-! ## One behind the other -/

/-- What `p` picks out stands directly behind something that leads to it; `before` is
what stands in front of the agenda. -/
def Led (lead p : Instruction → Prop) : Option Instruction → List Instruction → Prop
  | _, [] => True
  | before, i :: rest => (p i → ∃ j, before = some j ∧ lead j) ∧ Led lead p (some i) rest

section Led

variable {lead p : Instruction → Prop} {before : Option Instruction}

theorem led_of_forall {agenda : List Instruction} (h : ∀ i ∈ agenda, ¬ p i) :
    Led lead p before agenda := by
  induction agenda generalizing before with
  | nil => trivial
  | cons i rest ih =>
      have hi : ¬ p i := h i (by simp)
      exact ⟨fun hp => absurd hp hi, ih fun j hj => h j (by simp [hj])⟩

/-- Only what stands directly in front matters. -/
theorem Led.of_front {before' : Option Instruction} {agenda : List Instruction}
    (h : Led lead p before agenda)
    (front : ∀ j, before = some j → lead j → ∃ j', before' = some j' ∧ lead j') :
    Led lead p before' agenda := by
  cases agenda with
  | nil => trivial
  | cons i rest =>
      refine ⟨fun hp => ?_, h.2⟩
      obtain ⟨j, hj, hlead⟩ := h.1 hp
      exact front j hj hlead

theorem Led.append {next rest : List Instruction} (hnext : Led lead p before next)
    (hrest : Led lead p (next.getLast?.or before) rest) : Led lead p before (next ++ rest) := by
  induction next generalizing before with
  | nil => exact hrest
  | cons i next ih =>
      refine ⟨hnext.1, ih hnext.2 ?_⟩
      have hlast : (i :: next).getLast?.or before = next.getLast?.or (some i) := by
        rw [List.getLast?_cons]
        cases next.getLast? <;> rfl
      rwa [hlast] at hrest

/-- What stands behind an instruction of the agenda. -/
theorem Led.behind {front tail : List Instruction} {i : Instruction}
    (h : Led lead p before (front ++ i :: tail)) : Led lead p (some i) tail := by
  induction front generalizing before with
  | nil => exact h.2
  | cons j front ih => exact ih h.2

/-- What stands directly behind something stays there through a reply, if what leads to
it goes on with something that does. -/
theorem Led.onto {i : Instruction} {rest : List Instruction} {r : Reply}
    (h : Led lead p none (i :: rest)) (next : Led lead p none r.next)
    (goesOn : ∀ next, r = .go next → lead i → ∃ j, next.getLast? = some j ∧ lead j)
    (guards : ∀ g, ¬ lead (.guarded g)) (caught : ∀ g th, ¬ p (.caught g th)) :
    Led lead p none (r.onto rest) := by
  by_cases hgo : ∃ body, r = .go body
  · obtain ⟨body, rfl⟩ := hgo
    refine Led.append next (h.2.of_front fun j hj hlead => ?_)
    obtain rfl := Option.some.inj hj
    obtain ⟨last, hlast, hlead⟩ := goesOn body rfl hlead
    exact ⟨last, by rw [hlast]; rfl, hlead⟩
  · obtain ⟨front, tail, heq, leaves, hfront⟩ := r.exists_onto rest
    have hfront : Led lead p none front := by
      rcases hfront with rfl | ⟨g, th, rfl, _⟩
      · exact next
      · exact ⟨fun hp => absurd hp (caught g th), trivial⟩
    rw [heq]
    refine hfront.append ?_
    cases leaves with
    | all body => exact absurd ⟨body, rfl⟩ hgo
    | nothing r => trivial
    | @behind tail before g r split =>
        have hbehind : Led lead p (some (.guarded g)) tail := by
          have hrest := h.2
          rw [split] at hrest
          exact hrest.behind
        refine hbehind.of_front fun j hj hlead => ?_
        obtain rfl := Option.some.inj hj
        exact absurd hlead (guards g)

end Led

/-! ## Protected instructions -/

/-- Whatever is thrown by an instruction that is not calm is caught among the
instructions behind it. -/
def Sealed (calm : Instruction → Prop) : List Instruction → Prop
  | [] => True
  | i :: rest => (calm i ∨ ∃ g, .guarded g ∈ rest) ∧ Sealed calm rest

section Sealed

variable {calm calm' : Instruction → Prop}

theorem Sealed.append {next rest : List Instruction} (hnext : Sealed calm next)
    (hrest : Sealed calm rest) : Sealed calm (next ++ rest) := by
  induction next with
  | nil => exact hrest
  | cons i next ih =>
      obtain ⟨hi, hnext⟩ := hnext
      refine ⟨hi.imp_right ?_, ih hnext⟩
      rintro ⟨g, hg⟩
      exact ⟨g, List.mem_append_left _ hg⟩

theorem Sealed.append_of_mem {next rest : List Instruction} (hrest : Sealed calm rest)
    {g : Guard} (hg : .guarded g ∈ rest) : Sealed calm (next ++ rest) := by
  induction next with
  | nil => exact hrest
  | cons i next ih => exact ⟨.inr ⟨g, List.mem_append_right _ hg⟩, ih⟩

theorem Sealed.of_append {next rest : List Instruction} (h : Sealed calm (next ++ rest)) :
    Sealed calm rest := by
  induction next with
  | nil => exact h
  | cons i next ih => exact ih h.2

theorem sealed_of_forall {agenda : List Instruction} (h : ∀ i ∈ agenda, calm i) :
    Sealed calm agenda := by
  induction agenda with
  | nil => trivial
  | cons i rest ih => exact ⟨.inl (h i (by simp)), ih fun j hj => h j (by simp [hj])⟩

/-- Calls that let nothing past them are sealed, if guards are calm. -/
theorem Caught.sealed {calls : List Instruction} (h : Caught calls)
    (hguard : ∀ g, .guarded g ∈ calls → calm (.guarded g)) : Sealed calm calls := by
  rcases h with rfl | ⟨body, g, rfl⟩
  · trivial
  · have hlast : Sealed calm [.guarded g] := ⟨.inl (hguard g (by simp)), trivial⟩
    exact hlast.append_of_mem (List.mem_singleton_self (Instruction.guarded g))

end Sealed

/-! ## Tasks

What is bound to a task may wait, and then drops what is on the agenda up to the end
of its task. -/

namespace Instruction

/-- Whether an instruction has nothing to do with a task. -/
def isPlain : Instruction → Bool
  | .cursor _ (.summary receiver) => !receiver.isTask
  | .cursor _ (.discardAll receiver) => !receiver.isTask
  | .cursor _ (.pullAll receiver) => !receiver.isTask
  | .cursor _ (.rollback receiver) => !receiver.isTask
  | .iteration _ _ _ => false
  | .relay _ receiver => !receiver.isTask
  | .reportFailure _ receiver => !receiver.isTask
  | .keep receiver _ => !receiver.isTask
  | .release _ receiver => !receiver.isTask
  | .startRelease _ receiver => !receiver.isTask
  | .hand receiver _ => !receiver.isTask
  | .handIteration receiver _ => !receiver.isTask
  | .records _ _ _ receiver => !receiver.isTask
  | .spawn _ receiver => !receiver.isTask
  | .body _ => false
  | .await _ _ => false
  | .awaitNever _ => false
  | .awaitSignal _ _ => false
  | .woken _ _ => false
  | .yielded _ _ => false
  | .exhausted _ => false
  | .finish _ _ => false
  | .guarded g => g.isOutside
  | .caught g _ => g.isOutside
  | .ask (.runRelease _) => false
  | _ => true

theorem isPlain_of_isCall {i : Instruction} (h : i.isCall = true) : i.isPlain = true := by
  cases i with
  | cursor id a => cases a <;> simp_all [isCall, isPlain, Cursor.Action.isPublic]
  | ask a => cases a <;> simp_all [isCall, isPlain]
  | channel r => cases r <;> simp_all [isCall, isPlain]
  | soon j => cases j <;> simp_all [isCall, isPlain]
  | _ => simp_all [isCall, isPlain]

end Instruction

/-- A part of the agenda that is sealed and has nothing to do with tasks. -/
structure Shield (calm : Instruction → Prop) (before : List Instruction) : Prop where
  plain : ∀ i ∈ before, i.isPlain = true
  isSealed : Sealed calm before

section Shield

variable {calm : Instruction → Prop}

theorem Shield.nil : Shield calm [] := ⟨by simp, trivial⟩

theorem Shield.append {next before : List Instruction} (hnext : Shield calm next)
    (hbefore : Shield calm before) : Shield calm (next ++ before) := by
  refine ⟨fun i hi => ?_, hnext.isSealed.append hbefore.isSealed⟩
  rcases List.mem_append.1 hi with hi | hi
  · exact hnext.plain i hi
  · exact hbefore.plain i hi

/-- What stands behind a shield stands behind one after a reply to the first
instruction of the shield: what is calm goes on with a shield, and everything else may
also throw. -/
theorem Reply.onto_of_shield {i x : Instruction} {before rest : List Instruction} {r : Reply}
    (shield : Shield calm (i :: before))
    (hcalm : calm i → ∃ next, r = .go next ∧ Shield calm next)
    (hreply : (∃ next, r = .go next ∧ ∀ j ∈ next, j.isPlain = true) ∨ ∃ th, r = .raise th)
    (hcaught : ∀ g th, g.isOutside = true → calm (.caught g th)) :
    ∃ before', r.onto (before ++ x :: rest) = before' ++ x :: rest ∧ Shield calm before' ∧
      ∀ j ∈ before', j ∈ before ∨ j ∈ r.next ∨ ∃ g th, j = .caught g th := by
  obtain ⟨hplain, hfirst, hsealed⟩ := shield
  have hbefore : Shield calm before := ⟨fun j hj => hplain j (by simp [hj]), hsealed⟩
  have hgo : ∀ {next : List Instruction}, r = .go next → Shield calm (next ++ before) →
      ∃ before', r.onto (before ++ x :: rest) = before' ++ x :: rest ∧ Shield calm before' ∧
        ∀ j ∈ before', j ∈ before ∨ j ∈ r.next ∨ ∃ g th, j = .caught g th := by
    rintro next rfl hshield
    refine ⟨next ++ before, by simp, hshield, fun j hj => ?_⟩
    rcases List.mem_append.1 hj with hj | hj
    · exact .inr (.inl hj)
    · exact .inl hj
  rcases hfirst with hi | ⟨g, hg⟩
  · obtain ⟨next, hr, hnext⟩ := hcalm hi
    exact hgo hr (hnext.append hbefore)
  · rcases hreply with ⟨next, hr, hnext⟩ | ⟨th, rfl⟩
    · refine hgo hr ⟨fun j hj => ?_, hsealed.append_of_mem hg⟩
      rcases List.mem_append.1 hj with hj | hj
      · exact hnext j hj
      · exact hbefore.plain j hj
    · obtain ⟨front, g', middle, rfl, hunwind⟩ := unwind_append (x :: rest) hg
      have houtside : g'.isOutside = true := hbefore.plain (.guarded g') (by simp)
      refine ⟨.caught g' th :: middle, ?_, ⟨fun j hj => ?_, ?_⟩, fun j hj => ?_⟩
      · simp only [Reply.onto, hunwind, List.cons_append]
      · rcases List.mem_cons.1 hj with rfl | hj
        · exact houtside
        · exact hbefore.plain j (by simp [hj])
      · have hmiddle : Sealed calm (.guarded g' :: middle) := hsealed.of_append
        exact ⟨.inl (hcaught g' th houtside), hmiddle.2⟩
      · rcases List.mem_cons.1 hj with rfl | hj
        · exact .inr (.inr ⟨g', th, rfl⟩)
        · exact .inl (by simp [hj])

end Shield

end QueryStream
