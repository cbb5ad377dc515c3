/-
  Proofs/Releasing/Invocations.lean --- what comes of invoking a release.

  Engines may have any number of releases, each with any number of owners.  The first invocation
  of one with a connection calls its action, which hands out what is to be awaited or throws; and
  nothing else is carried out in between, as long as the action does not call in
  (`Move.isDirect`).  So one release at most has its action called at a time (`Invoking`), and of
  every release it is known how the calls of its action ended, and which promises its invocations
  returned (`ReleaseLedger`): all calls but one threw, and nobody calls the action once one did
  not.
-/
import QueryStream.Proofs.Course
import QueryStream.Proofs.GivingBack

set_option autoImplicit false

namespace QueryStream

/-! ## What is seen of a release -/

/-- Whether a reply throws something. -/
def Reply.isRaise : Reply → Bool
  | .raise _ => true
  | _ => false

/-- The promise that an instruction hands out. -/
def Instruction.handed? : Instruction → Option PromiseId
  | .hand _ p => some p
  | _ => none

namespace Move

/-- Whether a move invokes a release; where there is none, nothing comes of it. -/
def invokes (r : ReleaseId) : Move → Bool
  | .carried (.release r' _) reply => r' == r && !reply.next.isEmpty
  | _ => false

/-- The promise that an invocation of a release returns by a move. -/
def returned? (r : ReleaseId) : Move → Option PromiseId
  | .carried (.release r' _) reply =>
      if r' = r then reply.next.findSome? Instruction.handed? else none
  | .carried (.startRelease r' _) reply =>
      if r' = r then reply.next.findSome? Instruction.handed? else none
  | _ => none

/-- How a call of an action ended, if that is what a move is. -/
def action? : Move → Option Reply
  | .answered .release reply => some reply
  | _ => none

/-- Whether a move invokes a release, or is part of an invocation. -/
def isOfRelease : Move → Bool
  | .carried (.release _ _) _ => true
  | .carried (.startRelease _ _) _ => true
  | .answered .release _ => true
  | _ => false

/-- Whether the action of a release does not call in, if that is what a move is: it hands out
what is to be awaited, or throws. -/
def isDirect : Move → Bool
  | .answered .release reply => match reply with
      | .go [] => true
      | .raise _ => true
      | _ => false
  | _ => true

end Move

/-- How often a release was invoked. -/
def timesInvoked (r : ReleaseId) (h : List Move) : Nat := h.countP (Move.invokes r)

/-- The promises that invocations of a release returned. -/
def returned (r : ReleaseId) (h : List Move) : List PromiseId := h.filterMap (Move.returned? r)

/-- The release whose action is called next after a history, if one is to be. -/
def called? : List Move → Option ReleaseId
  | .carried (.release r _) _ :: _ => some r
  | .answered (.log _) _ :: h => called? h
  | _ => none

/-- How the calls of the action of a release ended, latest first. -/
def actionCalls (r : ReleaseId) : List Move → List Reply
  | [] => []
  | m :: h => (if called? h = some r then m.action?.toList else []) ++ actionCalls r h

/-- The release at a place; where there is none, it is one of nothing. -/
def Engine.releaseAt (e : Engine) (r : ReleaseId) : Release := (e.releases[r]?).getD .ofNothing

/-- Whether an instruction calls the action of a release, or has its promise made. -/
def Instruction.isActing : Instruction → Bool
  | .startRelease _ _ => true
  | .ask .release => true
  | _ => false

section Quiet

variable {r : ReleaseId} {m : Move} {h : List Move} {i : Instruction}

theorem Instruction.isActing_of_isGiving (apart : i.isGiving = false) : i.isActing = false := by
  cases i with
  | ask a => cases a <;> first | rfl | cases apart
  | _ => first | rfl | cases apart

theorem timesInvoked_cons (r : ReleaseId) (m : Move) (h : List Move) :
    timesInvoked r (m :: h) = timesInvoked r h + if m.invokes r then 1 else 0 :=
  List.countP_cons

theorem returned_cons (r : ReleaseId) (m : Move) (h : List Move) :
    returned r (m :: h) = (m.returned? r).toList ++ returned r h := by
  rw [returned, List.filterMap_cons]
  cases m.returned? r <;> rfl

theorem timesInvoked_of_quiet (quiet : m.isOfRelease = false) :
    timesInvoked r (m :: h) = timesInvoked r h := by
  refine List.countP_cons_of_neg fun invokes => ?_
  unfold Move.invokes at invokes
  split at invokes <;> first | cases invokes | cases quiet

theorem returned_of_quiet (quiet : m.isOfRelease = false) :
    returned r (m :: h) = returned r h := by
  refine List.filterMap_cons_none ?_
  unfold Move.returned?
  split <;> first | rfl | cases quiet

theorem actionCalls_of_quiet (quiet : m.isOfRelease = false) :
    actionCalls r (m :: h) = actionCalls r h := by
  have none : m.action? = none := by
    unfold Move.action?
    split <;> first | rfl | cases quiet
  simp [actionCalls, none]

end Quiet

/-! ## What is known of one release -/

/-- What a history tells of a release.  `due` is there while it is being invoked, and tells
whether its action was called already; `raises` are the calls that threw. -/
structure ReleaseLedger (r : ReleaseId) (h : List Move) (release : Release) (due : Option Bool)
    (raises : List Reply) : Prop where
  raised : ∀ reply ∈ raises, reply.isRaise = true
  /-- all calls threw but the one that led to the promise -/
  calls : actionCalls r h
    = (if release.hasConnection && release.isInvoked || due == some true then [.go []] else [])
      ++ raises
  /-- an invocation threw, returned or is under way -/
  invoked : timesInvoked r h = raises.length + (returned r h).length + due.toList.length
  returns : ∀ p ∈ returned r h, release.promise = some p
  promised : release.isInvoked = true → returned r h ≠ []
  bare : release.hasConnection = false → raises = []

section Ledgers

variable {r : ReleaseId} {m : Move} {h : List Move} {release : Release} {due : Option Bool}
  {raises : List Reply}

theorem ReleaseLedger.quiet (ledger : ReleaseLedger r h release due raises)
    (quiet : m.isOfRelease = false) : ReleaseLedger r (m :: h) release due raises where
  raised := ledger.raised
  calls := by rw [actionCalls_of_quiet quiet, ledger.calls]
  invoked := by rw [timesInvoked_of_quiet quiet, returned_of_quiet quiet, ledger.invoked]
  returns := by rw [returned_of_quiet quiet]; exact ledger.returns
  promised := by rw [returned_of_quiet quiet]; exact ledger.promised
  bare := ledger.bare

/-- Where there was no release, nothing is known of one that is made. -/
theorem ReleaseLedger.fresh (ledger : ReleaseLedger r h .ofNothing due raises)
    (unpromised : release.promise = none) : ReleaseLedger r h release due raises where
  raised := ledger.raised
  calls := by
    rw [ledger.calls]
    simp [Release.ofNothing, Release.isInvoked, unpromised]
  invoked := ledger.invoked
  returns p mem := by cases ledger.returns p mem
  promised invoked := by simp [Release.isInvoked, unpromised] at invoked
  bare _ := ledger.bare rfl

theorem ReleaseLedger.other (ledger : ReleaseLedger r h release due raises)
    (invokes : m.invokes r = false) (returned? : m.returned? r = none) (action : m.action? = none) :
    ReleaseLedger r (m :: h) release due raises := by
  have invoked : timesInvoked r (m :: h) = timesInvoked r h := by simp [timesInvoked_cons, invokes]
  have returned : returned r (m :: h) = returned r h := by simp [returned_cons, returned?]
  have calls : actionCalls r (m :: h) = actionCalls r h := by simp [actionCalls, action]
  exact
    { raised := ledger.raised
      calls := calls.trans ledger.calls
      invoked := by rw [invoked, returned, ledger.invoked]
      returns := by rw [returned]; exact ledger.returns
      promised := by rw [returned]; exact ledger.promised
      bare := ledger.bare }

/-- An invocation of a release that was invoked returns its promise. -/
theorem ReleaseLedger.reused {p : PromiseId} (ledger : ReleaseLedger r h release none raises)
    (promise : release.promise = some p) (invokes : m.invokes r = true)
    (returned? : m.returned? r = some p) (action : m.action? = none) :
    ReleaseLedger r (m :: h) release none raises where
  raised := ledger.raised
  calls := by
    rw [← ledger.calls]
    simp [actionCalls, action]
  invoked := by
    rw [timesInvoked_cons, returned_cons, ledger.invoked, invokes, returned?]
    simp
    omega
  returns q mem := by
    rw [returned_cons, returned?] at mem
    rcases List.mem_append.1 mem with mem | mem
    · rw [promise, List.mem_singleton.1 mem]
    · exact ledger.returns q mem
  promised _ := by simp [returned_cons, returned?]
  bare := ledger.bare

theorem ReleaseLedger.unreturned (ledger : ReleaseLedger r h release due raises)
    (unpromised : release.promise = none) : returned r h = [] := by
  refine List.eq_nil_iff_forall_not_mem.2 fun p mem => ?_
  have promise := ledger.returns p mem
  rw [unpromised] at promise
  cases promise

/-- A release gets its promise, once its action was called if it has one. -/
theorem ReleaseLedger.made {p : PromiseId} (ledger : ReleaseLedger r h release due raises)
    (unpromised : release.promise = none) (acted : release.hasConnection = (due == some true))
    (invoked : (if m.invokes r then 1 else 0) + due.toList.length = 1)
    (returned? : m.returned? r = some p) (action : m.action? = none) :
    ReleaseLedger r (m :: h) ⟨release.hasConnection, some p⟩ none raises where
  raised := ledger.raised
  calls := by
    simp only [actionCalls, action, Option.toList_none, ite_self, List.nil_append, ledger.calls,
      Release.isInvoked, unpromised, acted]
    simp
  invoked := by
    rw [timesInvoked_cons, returned_cons, ledger.invoked, returned?, ledger.unreturned unpromised]
    simp only [Option.toList_some, Option.toList_none, List.length_nil, List.append_nil,
      List.length_singleton]
    omega
  returns q mem := by
    rw [returned_cons, returned?, ledger.unreturned unpromised, List.append_nil] at mem
    rw [List.mem_singleton.1 mem]
  promised _ := by simp [returned_cons, returned?]
  bare := ledger.bare

/-- An invocation of a release with a connection has its action called. -/
theorem ReleaseLedger.acting (ledger : ReleaseLedger r h release none raises)
    (invokes : m.invokes r = true) (returned? : m.returned? r = none)
    (action : m.action? = none) : ReleaseLedger r (m :: h) release (some false) raises where
  raised := ledger.raised
  calls := by
    simp only [actionCalls, action, Option.toList_none, ite_self, List.nil_append, ledger.calls]
    simp
  invoked := by
    rw [timesInvoked_cons, returned_cons, ledger.invoked, invokes, returned?]
    simp
  returns := by rw [returned_cons, returned?]; exact ledger.returns
  promised := by rw [returned_cons, returned?]; exact ledger.promised
  bare := ledger.bare

theorem ReleaseLedger.acted (ledger : ReleaseLedger r h ⟨true, none⟩ (some false) raises)
    (called : called? h = some r) :
    ReleaseLedger r (.answered .release (.go []) :: h) ⟨true, none⟩ (some true) raises where
  raised := ledger.raised
  calls := by
    rw [actionCalls, if_pos called, ledger.calls]
    rfl
  invoked := by
    rw [timesInvoked_cons, returned_cons, ledger.invoked]
    rfl
  returns := ledger.returns
  promised := nofun
  bare := nofun

theorem ReleaseLedger.refused (ledger : ReleaseLedger r h ⟨true, none⟩ (some false) raises)
    (called : called? h = some r) (th : Thrown) :
    ReleaseLedger r (.answered .release (.raise th) :: h) ⟨true, none⟩ none
      (.raise th :: raises) where
  raised reply mem := by
    rcases List.mem_cons.1 mem with rfl | mem
    · rfl
    · exact ledger.raised reply mem
  calls := by
    rw [actionCalls, if_pos called, ledger.calls]
    rfl
  invoked := by
    rw [timesInvoked_cons, returned_cons, ledger.invoked]
    simp [Move.invokes, Move.returned?]
    omega
  returns := ledger.returns
  promised := nofun
  bare := nofun

end Ledgers

/-! ## Invocations that are under way -/

/-- What is on an agenda of the invocation of a release that calls its action. -/
inductive Acting (r : ReleaseId) (rest : List Instruction) : Bool → List Instruction → Prop
  | line (line : Log.Line) (receiver : Receiver) : Acting r rest false
      (.ask (.log line) :: .ask .release :: .startRelease r receiver :: rest)
  | ask (receiver : Receiver) : Acting r rest false
      (.ask .release :: .startRelease r receiver :: rest)
  | start (receiver : Receiver) : Acting r rest true (.startRelease r receiver :: rest)

/-- One release at most is being invoked in such a way, and of all of them it is known what
came of their invocations. -/
inductive Invoking (h : List Move) (s : Situation) : Prop
  | resting (clear : ∀ i ∈ s.agenda, i.isActing = false)
      (ledgers : ∀ r, ∃ raises, ReleaseLedger r h (s.engine.releaseAt r) none raises) :
      Invoking h s
  | acting (r : ReleaseId) (acted : Bool) (rest : List Instruction)
      (acting : Acting r rest acted s.agenda) (found : s.engine.releases[r]? = some ⟨true, none⟩)
      (clear : ∀ i ∈ rest, i.isActing = false) (called : acted = false → called? h = some r)
      (ledgers : ∀ r', ∃ raises, ReleaseLedger r' h (s.engine.releaseAt r')
        (if r' = r then some acted else none) raises) : Invoking h s

section Steps

variable {e : Engine} {h : List Move} {s s' : Situation} {m : Move} {i j : Instruction}

/-- Whatever is carried out that is no part of an invocation, the releases stay as they are, but
for one that is made. -/
theorem Engine.releaseAt_exec (released : ∀ r receiver, i ≠ .release r receiver)
    (started : ∀ r receiver, i ≠ .startRelease r receiver) (r : ReleaseId) :
    (e.exec i).1.releaseAt r = e.releaseAt r ∨
      e.releaseAt r = .ofNothing ∧ ((e.exec i).1.releaseAt r).promise = none := by
  cases changes : i.changesReleases with
  | false =>
      refine .inl ?_
      rw [releaseAt, (holding_exec changes).releases]
      rfl
  | true =>
      cases i with
      | release r receiver => exact absurd rfl (released r receiver)
      | startRelease r receiver => exact absurd rfl (started r receiver)
      | openCursor plan =>
          generalize (e.exec (.openCursor plan)).1 = e', alters_exec (e := e) _ = alters
          cases alters with
          | same => exact .inl rfl
          | openCursor plan release chosen =>
              rcases chosen with rfl | ⟨fresh, unpromised, rfl⟩
              · exact .inl rfl
              · simp only [releaseAt, Array.getElem?_push]
                split
                · rename_i last
                  subst last
                  exact .inr ⟨by simp, unpromised⟩
                · exact .inl rfl
      | _ => cases changes

/-- Where the releases are what they were, or there is one more. -/
theorem ReleaseLedger.kept {r : ReleaseId} {former release : Release} {due : Option Bool}
    {raises : List Reply} (ledger : ReleaseLedger r h former due raises)
    (kept : release = former ∨ former = .ofNothing ∧ release.promise = none) :
    ReleaseLedger r h release due raises := by
  rcases kept with rfl | ⟨rfl, unpromised⟩
  · exact ledger
  · exact ledger.fresh unpromised

theorem Engine.releaseAt_of_found {r : ReleaseId} {release : Release}
    (found : e.releases[r]? = some release) : e.releaseAt r = release := by
  rw [releaseAt, found]
  rfl

/-- What belongs to one release tells nothing of the others. -/
theorem ReleaseLedger.others {r r' : ReleaseId} {release : Release} {due : Option Bool}
    {raises : List Reply} (ledger : ReleaseLedger r' h release due raises) (apart : r' ≠ r)
    (own : (∃ receiver reply, m = .carried (.release r receiver) reply) ∨
      ∃ receiver reply, m = .carried (.startRelease r receiver) reply) :
    ReleaseLedger r' (m :: h) release due raises := by
  rcases own with ⟨receiver, reply, rfl⟩ | ⟨receiver, reply, rfl⟩
  · exact ledger.other (by simp [Move.invokes, apart.symm]) (by simp [Move.returned?, apart.symm])
      rfl
  · exact ledger.other rfl (by simp [Move.returned?, apart.symm]) rfl

/-- An invocation of a release returns its promise, or has its action called. -/
theorem invoking_of_release {r : ReleaseId} {receiver : Receiver} {rest : List Instruction}
    (clear : ∀ i ∈ rest, i.isActing = false)
    (ledgers : ∀ r, ∃ raises, ReleaseLedger r h (e.releaseAt r) none raises) :
    Invoking (.carried (.release r receiver) (e.exec (.release r receiver)).2 :: h)
      ⟨(e.exec (.release r receiver)).1, (e.exec (.release r receiver)).2.onto rest⟩ := by
  have own (reply : Reply) : (∃ receiver' reply',
      Move.carried (.release r receiver) reply = .carried (.release r receiver') reply') ∨
      ∃ receiver' reply',
        Move.carried (.release r receiver) reply = .carried (.startRelease r receiver') reply' :=
    .inl ⟨receiver, reply, rfl⟩
  obtain ⟨raises, ledger⟩ := ledgers r
  obtain ⟨e', next, exec, invokes⟩ := e.exec_release r receiver
  rw [exec]
  cases invokes with
  | absent found =>
      refine .resting clear fun r' => ?_
      obtain ⟨raises', ledger'⟩ := ledgers r'
      exact ⟨raises', ledger'.other (by simp [Move.invokes]) (by simp [Move.returned?]) rfl⟩
  | @reused release p found promise =>
      refine .resting (fun i mem => ?_) fun r' => ?_
      · simp only [Reply.onto_go, List.cons_append, List.nil_append, List.mem_cons] at mem
        rcases mem with rfl | rfl | mem
        · rfl
        · rfl
        · exact clear i mem
      · by_cases same : r' = r
        · subst same
          refine ⟨raises, ledger.reused (p := p) ?_ ?_ ?_ rfl⟩
          · rw [Engine.releaseAt_of_found found, promise]
          · simp [Move.invokes]
          · rw [Move.returned?, if_pos rfl]
            rfl
        · obtain ⟨raises', ledger'⟩ := ledgers r'
          exact ⟨raises', ledger'.others same (own _)⟩
  | made found =>
      rw [Engine.releaseAt_of_found found] at ledger
      refine .resting (fun i mem => ?_) fun r' => ?_
      · simp only [Reply.onto_go, List.cons_append, List.nil_append, List.mem_cons] at mem
        rcases mem with rfl | mem
        · rfl
        · exact clear i mem
      · have there : r < e.releases.size := (Array.getElem?_eq_some_iff.1 found).1
        by_cases same : r' = r
        · subst same
          refine ⟨raises, ?_⟩
          rw [@Engine.releaseAt_of_found _ _ ⟨false, some e.loop.nextId⟩ (by simp [there])]
          exact ledger.made rfl rfl (by simp [Move.invokes])
            (by simp [Move.returned?, Instruction.handed?]) rfl
        · obtain ⟨raises', ledger'⟩ := ledgers r'
          refine ⟨raises', ((ledger'.kept (.inl ?_)).others same (own _))⟩
          simp [Engine.releaseAt, Ne.symm same]
  | called found =>
      refine .acting r false rest (.line _ receiver) found clear (fun _ => rfl) fun r' => ?_
      by_cases same : r' = r
      · subst same
        rw [if_pos rfl]
        exact ⟨raises, ledger.acting (by simp [Move.invokes])
          (by simp [Move.returned?, Instruction.handed?]) rfl⟩
      · rw [if_neg same]
        obtain ⟨raises', ledger'⟩ := ledgers r'
        exact ⟨raises', ledger'.others same (own _)⟩

/-- What comes from outside has no action called by itself. -/
theorem Admits.isActing (admits : Admits h m) (mem : j ∈ m.outside) : j.isActing = false := by
  rcases admits.outside mem with foreseen | ⟨t, rfl⟩ | ⟨t, rfl⟩
  · cases j with
    | ask a => cases a <;> first | rfl | cases foreseen
    | _ => first | rfl | cases foreseen
  · rfl
  · rfl

/-- A move that invokes no release tells nothing of any. -/
theorem invoking_of_other (clear : ∀ i ∈ s.agenda, i.isActing = false)
    (ledgers : ∀ r, ∃ raises, ReleaseLedger r h (s.engine.releaseAt r) none raises)
    (uninvoked : ∀ r receiver rest, s.agenda ≠ .release r receiver :: rest) (step : Step s m s')
    (admits : Admits h m) : Invoking (m :: h) s' := by
  have quietly (quiet : m.isOfRelease = false) (clear' : ∀ i ∈ s'.agenda, i.isActing = false)
      (kept : ∀ r, s'.engine.releaseAt r = s.engine.releaseAt r ∨
        s.engine.releaseAt r = .ofNothing ∧ (s'.engine.releaseAt r).promise = none) :
      Invoking (m :: h) s' := by
    refine .resting clear' fun r => ?_
    obtain ⟨raises, ledger⟩ := ledgers r
    exact ⟨raises, (ledger.kept (kept r)).quiet quiet⟩
  cases step with
  | @carry e i rest own =>
      have released : ∀ r receiver, i ≠ .release r receiver := by
        rintro r receiver rfl
        exact uninvoked r receiver rest rfl
      have started : ∀ r receiver, i ≠ .startRelease r receiver := by
        rintro r receiver rfl
        cases clear (.startRelease r receiver) List.mem_cons_self
      refine quietly ?_ (fun j mem => ?_) (Engine.releaseAt_exec released started)
      · unfold Move.isOfRelease
        split
        · rename_i heq
          exact absurd (Move.carried.inj heq).1 (released _ _)
        · rename_i heq
          exact absurd (Move.carried.inj heq).1 (started _ _)
        · rename_i heq
          cases heq
        · rfl
      · rcases Reply.mem_onto mem with mem | mem | ⟨g, th, rfl⟩
        · exact clear j (List.mem_cons_of_mem _ mem)
        · exact Instruction.isActing_of_isGiving (Engine.isGiving_exec released started mem)
        · rfl
  | @answer e a rest r =>
      refine quietly ?_ (fun j mem => ?_) fun _ => .inl rfl
      · unfold Move.isOfRelease
        split
        · rename_i heq
          cases heq
        · rename_i heq
          cases heq
        · rename_i heq
          obtain rfl := (Move.answered.inj heq).1
          cases clear (.ask .release) List.mem_cons_self
        · rfl
      · rcases Reply.mem_onto mem with mem | mem | ⟨g, th, rfl⟩
        · exact clear j (List.mem_cons_of_mem _ mem)
        · exact admits.isActing mem
        · rfl
  | @begin e j loop next =>
      refine quietly rfl (fun i mem => ?_) fun r => .inl ?_
      · exact Instruction.isActing_of_isGiving
          (Instruction.isGiving_of_givesBack (Engine.givesBack_runJob mem))
      · rw [Engine.releaseAt, (Engine.holding_runJob j).releases]
        rfl
  | call next => exact quietly rfl (fun i mem => admits.isActing mem) fun _ => .inl rfl

/-- What the action of one release comes back with tells nothing of the others. -/
theorem ReleaseLedger.answered {r r' : ReleaseId} {release : Release} {raises : List Reply}
    (ledger : ReleaseLedger r' h release none raises) (called : called? h = some r)
    (apart : r' ≠ r) (reply : Reply) :
    ReleaseLedger r' (.answered .release reply :: h) release none raises := by
  have calls : actionCalls r' (.answered .release reply :: h) = actionCalls r' h := by
    simp [actionCalls, called, apart.symm]
  exact ⟨ledger.raised, calls.trans ledger.calls, ledger.invoked, ledger.returns, ledger.promised,
    ledger.bare⟩

/-- The action of a release comes back, or throws. -/
theorem invoking_of_answer {r : ReleaseId} {receiver : Receiver} {rest : List Instruction}
    {raises : List Reply} {reply : Reply} (found : e.releases[r]? = some ⟨true, none⟩)
    (clear : ∀ i ∈ rest, i.isActing = false) (called : called? h = some r)
    (ledger : ReleaseLedger r h ⟨true, none⟩ (some false) raises)
    (others : ∀ r', r' ≠ r → ∃ raises, ReleaseLedger r' h (e.releaseAt r') none raises)
    (direct : (Move.answered .release reply).isDirect = true) :
    Invoking (.answered .release reply :: h)
      ⟨e, reply.onto (.startRelease r receiver :: rest)⟩ := by
  have at_r : e.releaseAt r = ⟨true, none⟩ := Engine.releaseAt_of_found found
  cases reply with
  | go next =>
      cases next with
      | cons i next => cases direct
      | nil =>
          refine .acting r true rest (.start receiver) found clear nofun fun r' => ?_
          by_cases same : r' = r
          · subst same
            rw [if_pos rfl]
            exact ⟨raises, at_r ▸ ledger.acted called⟩
          · rw [if_neg same]
            obtain ⟨raises', ledger'⟩ := others r' same
            exact ⟨raises', ledger'.answered called same _⟩
  | raise th =>
      refine .resting (fun i mem => ?_) fun r' => ?_
      · -- what was to make the promise is left behind
        have mem : i ∈ (Reply.raise th).onto rest := mem
        rcases Reply.mem_onto mem with mem | mem | ⟨g, th', rfl⟩
        · exact clear i mem
        · cases mem
        · rfl
      · by_cases same : r' = r
        · subst same
          exact ⟨_, at_r ▸ ledger.refused called th⟩
        · obtain ⟨raises', ledger'⟩ := others r' same
          exact ⟨raises', ledger'.answered called same _⟩
  | exit next => cases direct
  | suspend t => cases direct

/-- The promise of a release is made once its action came back. -/
theorem invoking_of_start {r : ReleaseId} {receiver : Receiver} {rest : List Instruction}
    {raises : List Reply} (found : e.releases[r]? = some ⟨true, none⟩)
    (clear : ∀ i ∈ rest, i.isActing = false)
    (ledger : ReleaseLedger r h ⟨true, none⟩ (some true) raises)
    (others : ∀ r', r' ≠ r → ∃ raises, ReleaseLedger r' h (e.releaseAt r') none raises) :
    Invoking (.carried (.startRelease r receiver) (e.exec (.startRelease r receiver)).2 :: h)
      ⟨(e.exec (.startRelease r receiver)).1,
        (e.exec (.startRelease r receiver)).2.onto rest⟩ := by
  refine .resting (fun i mem => ?_) fun r' => ?_
  · rcases List.mem_cons.1 mem with rfl | mem
    · rfl
    · exact clear i mem
  · by_cases same : r' = r
    · subst same
      refine ⟨raises, ?_⟩
      rw [@Engine.releaseAt_of_found _ _ ⟨true, some e.loop.nextId⟩
        (by simp [Engine.exec, Engine.startRelease, Engine.goOn, Engine.spawn,
          Array.getElem?_modify, found])]
      exact ledger.made rfl rfl rfl (by rw [Move.returned?, if_pos rfl]; rfl) rfl
    · obtain ⟨raises', ledger'⟩ := others r' same
      refine ⟨raises', (ledger'.kept (.inl ?_)).others same (.inr ⟨receiver, _, rfl⟩)⟩
      simp [Engine.exec, Engine.startRelease, Engine.goOn, Engine.spawn, Engine.releaseAt,
        Array.getElem?_modify, Ne.symm same]

/-- The action of a release is called, and throws or leads to its promise. -/
theorem invoking_of_acting {r : ReleaseId} {acted : Bool} {rest : List Instruction}
    (acting : Acting r rest acted s.agenda) (found : s.engine.releases[r]? = some ⟨true, none⟩)
    (clear : ∀ i ∈ rest, i.isActing = false) (called : acted = false → called? h = some r)
    (ledgers : ∀ r', ∃ raises, ReleaseLedger r' h (s.engine.releaseAt r')
      (if r' = r then some acted else none) raises)
    (step : Step s m s') (admits : Admits h m) (direct : m.isDirect = true) :
    Invoking (m :: h) s' := by
  obtain ⟨e, agenda⟩ := s
  obtain ⟨raises, ledger⟩ := ledgers r
  rw [if_pos rfl, Engine.releaseAt_of_found found] at ledger
  have others (r' : ReleaseId) (apart : r' ≠ r) :
      ∃ raises, ReleaseLedger r' h (e.releaseAt r') none raises := by
    obtain ⟨raises, ledger⟩ := ledgers r'
    rw [if_neg apart] at ledger
    exact ⟨raises, ledger⟩
  cases acting with
  | line line receiver =>
      cases step with
      | carry own => cases own
      | answer reply =>
          cases admits.responds _ reply rfl with
          | notice =>
              refine .acting r false rest (.ask receiver) found clear (fun _ => called rfl)
                fun r' => ?_
              obtain ⟨raises', ledger'⟩ := ledgers r'
              exact ⟨raises', ledger'.quiet rfl⟩
          | go told => cases told
          | raise th told => cases told
  | ask receiver =>
      cases step with
      | carry own => cases own
      | answer reply => exact invoking_of_answer found clear (called rfl) ledger others direct
  | start receiver =>
      obtain ⟨rfl, rfl⟩ := step.exec_of_head rfl rfl
      exact invoking_of_start found clear ledger others

theorem Invoking.step (invoking : Invoking h s) (step : Step s m s') (admits : Admits h m)
    (direct : m.isDirect = true) : Invoking (m :: h) s' := by
  cases invoking with
  | resting clear ledgers =>
      by_cases released : ∃ r receiver rest, s.agenda = .release r receiver :: rest
      · obtain ⟨r, receiver, rest, head⟩ := released
        obtain ⟨rfl, rfl⟩ := step.exec_of_head head rfl
        rw [head] at clear
        exact invoking_of_release (fun i mem => clear i (List.mem_cons_of_mem _ mem)) ledgers
      · exact invoking_of_other clear ledgers
          (fun r receiver rest head => released ⟨r, receiver, rest, head⟩) step admits
  | acting r acted rest acting found clear called ledgers =>
      exact invoking_of_acting acting found clear called ledgers step admits direct

theorem Engine.Pristine.promise_eq (pristine : e.Pristine) (r : ReleaseId) :
    (e.releaseAt r).promise = none := by
  unfold Engine.releaseAt
  cases found : e.releases[r]? with
  | none => rfl
  | some release => exact pristine.releases release (Array.mem_of_getElem? found)

/-- Along a course on which actions do not call in, it is known what came of every invocation. -/
theorem Course.invoking (pristine : e.Pristine) (course : Course ⟨e, []⟩ h s)
    (direct : h.all Move.isDirect = true) : Invoking h s := by
  induction course with
  | nil =>
      refine .resting (by simp) fun r => ⟨[], by simp, ?_, rfl, nofun, ?_, fun _ => rfl⟩ <;>
        simp [Release.isInvoked, pristine.promise_eq, actionCalls]
  | snoc course step admits ih =>
      simp only [List.all_cons, Bool.and_eq_true] at direct
      exact (ih direct.2).step step admits direct.1

theorem Invoking.exists_ledger (invoking : Invoking h s) (r : ReleaseId) :
    ∃ due raises, ReleaseLedger r h (s.engine.releaseAt r) due raises ∧
      (s.IsOutside → due = none) := by
  cases invoking with
  | resting clear ledgers =>
      obtain ⟨raises, ledger⟩ := ledgers r
      exact ⟨none, raises, ledger, fun _ => rfl⟩
  | acting r' acted rest acting found clear called ledgers =>
      obtain ⟨raises, ledger⟩ := ledgers r
      refine ⟨_, raises, ledger, fun outside => ?_⟩
      rcases outside with idle | ⟨a, rest', head, control, other⟩
      · rw [idle] at acting
        cases acting
      · rw [head] at acting
        cases acting with
        | line => cases control
        | ask => exact absurd rfl other

end Steps

/-! ## What came of all invocations -/

section Ledgers

variable {r : ReleaseId} {h : List Move} {release : Release} {due : Option Bool}
  {raises : List Reply}

/-- What threw is told by the calls of the action. -/
theorem ReleaseLedger.countP_calls (ledger : ReleaseLedger r h release due raises) :
    (actionCalls r h).countP Reply.isRaise = raises.length := by
  rw [ledger.calls, List.countP_append, List.countP_eq_length.2 ledger.raised]
  split <;> simp [Reply.isRaise]

theorem ReleaseLedger.calls_cases (ledger : ReleaseLedger r h release due raises) :
    actionCalls r h = raises ∨ actionCalls r h = .go [] :: raises := by
  rw [ledger.calls]
  split
  · exact .inr rfl
  · exact .inl rfl

theorem ReleaseLedger.isInvoked_iff (ledger : ReleaseLedger r h release due raises) :
    release.isInvoked = true ↔ returned r h ≠ [] := by
  refine ⟨ledger.promised, fun some => ?_⟩
  obtain ⟨p, mem⟩ := List.exists_mem_of_ne_nil _ some
  rw [Release.isInvoked, ledger.returns p mem]
  rfl

/-- If no call threw, there is nothing among those that did. -/
theorem ReleaseLedger.raises_eq_nil (ledger : ReleaseLedger r h release due raises)
    (calm : ∀ reply ∈ actionCalls r h, reply.isRaise = false) : raises = [] := by
  refine List.eq_nil_iff_forall_not_mem.2 fun reply mem => ?_
  have among : reply ∈ actionCalls r h := by
    rw [ledger.calls]
    exact List.mem_append_right _ mem
  have raised := ledger.raised reply mem
  rw [calm reply among] at raised
  cases raised

end Ledgers

end QueryStream
