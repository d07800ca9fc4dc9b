import MilterManager.Manager.Manager

/-!
# The bookkeeping of leaders

Which leaders the manager still checks, which it keeps until they are unreferenced, and whether
the timer that checks them is live.
-/

namespace MilterManager.Manager

open MilterManager.Base

/-- The books are in order: the leaders listed have not finished, the next one to check is listed,
a finished leader waits to be unreferenced or has been, once, and the timer lives while there are
leaders and a connection asked for it. -/
structure BooksKept (s : State) : Prop where
  unfinished : ∀ leader ∈ s.leaders, leader ∉ s.finished
  cursor : ∀ leader, s.nextConnectionCheckedLeader = some leader → leader ∈ s.leaders
  kept : ∀ leader ∈ s.finished,
    s.finishedLeaders.count leader + s.unreferenced.count leader = 1
  timed : s.leaders ≠ [] → 0 < s.connectedInterval →
    s.periodicalConnectionCheckerId ∈ s.loop.timers

/-- The leaders that the next call of the timer checks. -/
def State.checkedLeaders (s : State) : List LeaderId :=
  (Cursor.nodes s.leaders s.firstCheckedLeader).take nLeadersPerConnectionCheck

/-- A connection does not find the id of a dead timer of the same interval, and a listed leader
finishes in the middle of the checks only when its own check in the same call of the timer finds it
disconnected. -/
def Met (s : State) : Event → Prop
  | .connectionEstablished =>
      0 < s.connectionCheckInterval →
        s.connectionCheckInterval = s.currentPeriodicalConnectionCheckInterval →
        s.periodicalConnectionCheckerId ∈ s.loop.timers
  | .timeout timer checks =>
      timer ∈ s.loop.timers →
        ∀ leader ∈ s.checkedLeaders, ∀ other ∈ s.leaders,
          .leaderFinished other ∈ (checks leader).meanwhile →
          other ∈ s.checkedLeaders ∧ (checks other).connected = false
  | _ => True

/-- Every leader that finished is accounted for, and the others are still listened to. -/
structure Accounted (s : State) : Prop where
  finishedMade : ∀ leader ∈ s.finished, leader < s.nLeaders
  handlers : ∀ leader, leader ∈ s.finishedHandlers ↔ leader < s.nLeaders ∧ leader ∉ s.finished
  kept : ∀ leader, s.finishedLeaders.count leader + s.unreferenced.count leader =
    if leader ∈ s.finished then 1 else 0

/-- What holds of the manager whatever happens. -/
structure Invariant (s : State) : Prop extends Accounted s where
  idle : s.connectionChecking = false
  nodup : s.leaders.Nodup
  made : ∀ leader ∈ s.leaders, leader < s.nLeaders
  cursor : ∀ leader, s.nextConnectionCheckedLeader = some leader → leader ∈ s.leaders
  timers : ∀ timer ∈ s.loop.timers, timer = s.periodicalConnectionCheckerId ∧ timer ≠ 0
  unarmed : s.periodicalConnectionCheckerId = 0 → s.currentPeriodicalConnectionCheckInterval = 0

theorem Invariant.init (interval : Nat) : Invariant (init interval) where
  finishedMade := fun _ h => absurd h List.not_mem_nil
  handlers := fun leader => by simp [Manager.init]
  kept := fun leader => by simp [Manager.init]
  idle := rfl
  nodup := List.nodup_nil
  made := fun _ h => absurd h List.not_mem_nil
  cursor := fun _ h => absurd h (Option.some_ne_none _).symm
  timers := fun _ h => absurd h List.not_mem_nil
  unarmed := fun _ => rfl

theorem BooksKept.init (interval : Nat) : BooksKept (init interval) where
  unfinished := fun _ h => absurd h List.not_mem_nil
  cursor := fun _ h => absurd h (Option.some_ne_none _).symm
  kept := fun _ h => absurd h List.not_mem_nil
  timed := fun h => absurd rfl h

/-- Of the books, only two entries can be out of order. -/
theorem Invariant.booksKept_iff {s : State} (h : Invariant s) :
    BooksKept s ↔ (∀ leader ∈ s.leaders, leader ∉ s.finished) ∧
      (s.leaders ≠ [] → 0 < s.connectedInterval →
        s.periodicalConnectionCheckerId ∈ s.loop.timers) := by
  constructor
  · intro hkept
    exact ⟨hkept.unfinished, hkept.timed⟩
  · intro ⟨hunfinished, htimed⟩
    exact
      { unfinished := hunfinished
        cursor := h.cursor
        kept := fun leader hfinished => by rw [h.kept leader, if_pos hfinished]
        timed := htimed }

/-- After the checker has been disposed there is no timer. -/
theorem dispose_eq {s : State}
    (htimers : ∀ timer ∈ s.loop.timers, timer = s.periodicalConnectionCheckerId ∧ timer ≠ 0) :
    s.disposePeriodicalConnectionChecker =
      { s with
        currentPeriodicalConnectionCheckInterval := 0
        periodicalConnectionCheckerId := 0
        loop := ⟨[], s.loop.lastId⟩ } := by
  have hremoved : s.loop.timers.filter (· ≠ s.periodicalConnectionCheckerId) = [] := by
    apply List.filter_eq_nil_iff.mpr
    intro timer htimer
    simp [(htimers timer htimer).1]
  unfold State.disposePeriodicalConnectionChecker
  by_cases hid : s.periodicalConnectionCheckerId = 0
  · have hnone : s.loop.timers = [] := by
      apply List.eq_nil_iff_forall_not_mem.mpr
      intro timer htimer
      obtain ⟨heq, hne⟩ := htimers timer htimer
      exact hne (heq.trans hid)
    have hloop : s.loop = ⟨[], s.loop.lastId⟩ := by
      rw [← hnone]
    simp only [hid, if_true]
    rw [hloop]
  · simp only [hid, if_false, EventLoop.remove]
    rw [hremoved]

section Finish

variable {s : State} {leader : LeaderId}

theorem Accounted.disposeFinishedLeaders (h : Accounted s) :
    Accounted s.disposeFinishedLeaders where
  finishedMade := h.finishedMade
  handlers := h.handlers
  kept := by
    intro other
    show ([] : List LeaderId).count other + (s.finishedLeaders ++ s.unreferenced).count other = _
    rw [List.count_nil, Nat.zero_add, List.count_append]
    exact h.kept other

/-- What the end of a leader leaves in the account, wherever it is raised. -/
theorem Accounted.finish (h : Accounted s) (hmade : leader < s.nLeaders) {t : State}
    (hnLeaders : t.nLeaders = s.nLeaders) (hfinished : t.finished = leader :: s.finished)
    (hhandlers : t.finishedHandlers = s.finishedHandlers.filter (· ≠ leader))
    (hleaders : t.finishedLeaders =
      if leader ∈ s.finished then s.finishedLeaders else leader :: s.finishedLeaders)
    (hunreferenced : t.unreferenced = s.unreferenced) : Accounted t where
  finishedMade := by
    intro other hother
    rw [hnLeaders]
    rw [hfinished] at hother
    rcases List.mem_cons.mp hother with rfl | hother
    · exact hmade
    · exact h.finishedMade other hother
  handlers := by
    intro other
    rw [hhandlers, hnLeaders, hfinished, List.mem_filter, h.handlers other]
    by_cases heq : other = leader
    · simp [heq]
    · simp [heq]
  kept := by
    intro other
    have hkept := h.kept other
    rw [hleaders, hunreferenced, hfinished]
    by_cases heq : other = leader
    · subst heq
      rw [if_pos List.mem_cons_self]
      by_cases hbefore : other ∈ s.finished
      · rw [if_pos hbefore] at hkept ⊢
        exact hkept
      · rw [if_neg hbefore] at hkept ⊢
        rw [List.count_cons_self]
        omega
    · have hmem : other ∈ leader :: s.finished ↔ other ∈ s.finished := by simp [heq]
      simp only [hmem]
      by_cases hbefore : leader ∈ s.finished
      · rw [if_pos hbefore]
        exact hkept
      · rw [if_neg hbefore, List.count_cons_of_ne (Ne.symm heq)]
        exact hkept

/-- While connections are checked the end of a leader changes nothing but the account. -/
theorem leaderFinished_of_checking (h : Accounted s) (hchecking : s.connectionChecking = true)
    (hmade : leader < s.nLeaders) :
    s.leaderFinished leader =
      { s with
        finished := leader :: s.finished
        finishedHandlers := s.finishedHandlers.filter (· ≠ leader)
        finishedLeaders :=
          if leader ∈ s.finished then s.finishedLeaders else leader :: s.finishedLeaders } := by
  unfold State.leaderFinished
  rw [if_pos hmade]
  by_cases hbefore : leader ∈ s.finished
  · have hnot : leader ∉ s.finishedHandlers := fun hmem => ((h.handlers leader).mp hmem).2 hbefore
    have hsame : s.finishedHandlers.filter (· ≠ leader) = s.finishedHandlers := by
      apply List.filter_eq_self.mpr
      intro other hother
      exact decide_eq_true fun heq => hnot (heq ▸ hother)
    simp only [hbefore, if_true]
    rw [if_neg hnot, hsame]
  · have hmem : leader ∈ s.finishedHandlers := (h.handlers leader).mpr ⟨hmade, hbefore⟩
    simp only [hbefore, if_false]
    rw [if_pos hmem]
    simp only [State.cbLeaderFinished, hchecking, if_true]

end Finish

section Check

/-- Nothing but the account differs. -/
def SameBesides (s t : State) : Prop :=
  t = { s with
    finished := t.finished
    finishedHandlers := t.finishedHandlers
    finishedLeaders := t.finishedLeaders
    unreferenced := t.unreferenced }

theorem SameBesides.trans {s t u : State} (hst : SameBesides s t) (htu : SameBesides t u) :
    SameBesides s u := by
  unfold SameBesides at hst htu ⊢
  rw [htu, hst]

variable {s : State}

theorem call_of_checking (h : Accounted s) (hchecking : s.connectionChecking = true)
    (callback : Call) :
    Accounted (s.call callback) ∧ SameBesides s (s.call callback) ∧
      ∀ leader, leader ∈ (s.call callback).finished ↔
        leader ∈ s.finished ∨ leader < s.nLeaders ∧ callback = .leaderFinished leader := by
  cases callback with
  | sessionsFinished =>
      refine ⟨h.disposeFinishedLeaders, rfl, ?_⟩
      intro leader
      simp [State.call, State.disposeFinishedLeaders]
  | leaderFinished finishing =>
      by_cases hmade : finishing < s.nLeaders
      · have heq : s.call (.leaderFinished finishing) = _ :=
          leaderFinished_of_checking h hchecking hmade
        refine ⟨?_, ?_, ?_⟩
        · rw [heq]
          exact h.finish hmade rfl rfl rfl rfl rfl
        · rw [heq]
          rfl
        · intro leader
          rw [heq, Call.leaderFinished.injEq]
          show leader ∈ finishing :: s.finished ↔ _
          rw [List.mem_cons]
          constructor
          · rintro (rfl | hbefore)
            · exact Or.inr ⟨hmade, rfl⟩
            · exact Or.inl hbefore
          · rintro (hbefore | ⟨-, rfl⟩)
            · exact Or.inr hbefore
            · exact Or.inl rfl
      · have heq : s.call (.leaderFinished finishing) = s := by
          show s.leaderFinished finishing = s
          rw [State.leaderFinished, if_neg hmade]
        rw [heq]
        refine ⟨h, rfl, ?_⟩
        intro leader
        constructor
        · exact Or.inl
        · rintro (hbefore | ⟨hleader, hcall⟩)
          · exact hbefore
          · rw [Call.leaderFinished.injEq] at hcall
            exact absurd (hcall ▸ hleader) hmade

theorem SameBesides.checking {s t : State} (h : SameBesides s t) :
    t.connectionChecking = s.connectionChecking := by
  rw [h]

theorem SameBesides.nLeaders {s t : State} (h : SameBesides s t) : t.nLeaders = s.nLeaders := by
  rw [h]

theorem SameBesides.leaders {s t : State} (h : SameBesides s t) : t.leaders = s.leaders := by
  rw [h]

theorem SameBesides.timer {s t : State} (h : SameBesides s t) :
    t.loop = s.loop ∧ t.periodicalConnectionCheckerId = s.periodicalConnectionCheckerId ∧
      t.currentPeriodicalConnectionCheckInterval = s.currentPeriodicalConnectionCheckInterval ∧
      t.connectedInterval = s.connectedInterval := by
  rw [h]
  exact ⟨rfl, rfl, rfl, rfl⟩

theorem foldl_call_of_checking (h : Accounted s) (hchecking : s.connectionChecking = true)
    (callbacks : List Call) :
    Accounted (callbacks.foldl State.call s) ∧ SameBesides s (callbacks.foldl State.call s) ∧
      ∀ leader, leader ∈ (callbacks.foldl State.call s).finished ↔
        leader ∈ s.finished ∨ leader < s.nLeaders ∧ .leaderFinished leader ∈ callbacks := by
  induction callbacks generalizing s with
  | nil => exact ⟨h, rfl, fun leader => by simp⟩
  | cons callback callbacks ih =>
      obtain ⟨hfirst, hsame, hmem⟩ := call_of_checking h hchecking callback
      obtain ⟨hall, hsames, hmems⟩ := ih hfirst (hsame.checking.trans hchecking)
      refine ⟨hall, hsame.trans hsames, ?_⟩
      intro leader
      rw [List.foldl_cons, hmems, hmem, hsame.nLeaders, List.mem_cons]
      constructor
      · rintro ((hbefore | ⟨hmade, hcall⟩) | ⟨hmade, hcall⟩)
        · exact Or.inl hbefore
        · exact Or.inr ⟨hmade, Or.inl hcall.symm⟩
        · exact Or.inr ⟨hmade, Or.inr hcall⟩
      · rintro (hbefore | ⟨hmade, hcall | hcall⟩)
        · exact Or.inl (Or.inl hbefore)
        · exact Or.inl (Or.inr ⟨hmade, hcall.symm⟩)
        · exact Or.inr ⟨hmade, hcall⟩

/-- The loop walks over the leaders and drops those whose client has gone; what is called back
meanwhile changes nothing but the account. -/
theorem checkConnections_spec (h : Accounted s) (hchecking : s.connectionChecking = true)
    (hnodup : s.leaders.Nodup) (checks : LeaderId → Check) (n : Nat) (node : Option LeaderId)
    (hnode : ∀ leader, node = some leader → leader ∈ s.leaders) :
    let o := s.checkConnections checks n node
    let walked := Cursor.walk (fun leader => (checks leader).connected) n node s.leaders
    o.1 = walked.1 ∧ Accounted o.2 ∧ SameBesides { s with leaders := walked.2 } o.2 ∧
      ∀ leader, leader ∈ o.2.finished ↔ leader ∈ s.finished ∨ leader < s.nLeaders ∧
        ∃ checked ∈ (Cursor.nodes s.leaders node).take n,
          .leaderFinished leader ∈ (checks checked).meanwhile := by
  intro o walked
  induction n generalizing s node with
  | zero =>
      refine ⟨rfl, h, rfl, ?_⟩
      intro leader
      simp [o, State.checkConnections]
  | succ n ih =>
      cases node with
      | none =>
          refine ⟨rfl, h, rfl, ?_⟩
          intro leader
          simp [o, State.checkConnections]
      | some checked =>
          have hchecked : checked ∈ s.leaders := hnode checked rfl
          obtain ⟨hcalled, hsame, hfinished⟩ :=
            foldl_call_of_checking h hchecking (checks checked).meanwhile
          let called := (checks checked).meanwhile.foldl State.call s
          let left :=
            if (checks checked).connected then s.leaders else s.leaders.erase checked
          have hleft : left.Nodup := by
            show (if _ then _ else _ : List LeaderId).Nodup
            split
            · exact hnodup
            · exact hnodup.erase checked
          have hnodes : Cursor.nodes left (Cursor.next s.leaders checked) =
              Cursor.nodes s.leaders (Cursor.next s.leaders checked) := by
            show Cursor.nodes (if _ then _ else _) _ = _
            split
            · rfl
            · exact Cursor.nodes_erase_next hnodup hchecked
          have hnext : ∀ leader, Cursor.next s.leaders checked = some leader → leader ∈ left := by
            intro leader hleader
            have hmem : leader ∈ s.leaders := Cursor.next_mem hleader
            show leader ∈ (if _ then _ else _ : List LeaderId)
            split
            · exact hmem
            · apply (List.mem_erase_of_ne _).mpr hmem
              exact fun heq => Cursor.next_ne hnodup hchecked (heq ▸ hleader)
          have hrest : (if (checks checked).connected then called
              else { called with leaders := called.leaders.erase checked }) =
              { called with leaders := left } := by
            have hleaders : called.leaders = s.leaders := hsame.leaders
            show _ = { called with leaders := if _ then _ else _ }
            rw [← hleaders]
            split <;> rfl
          have ho : o = State.checkConnections checks n (Cursor.next s.leaders checked)
              { called with leaders := left } := by
            rw [← hrest]
            rfl
          obtain ⟨hcursor, haccounted, hbesides, hmem⟩ :=
            @ih { called with leaders := left } ⟨hcalled.finishedMade, hcalled.handlers,
              hcalled.kept⟩ (hsame.checking.trans hchecking) hleft _ hnext
          rw [← ho] at hcursor haccounted hbesides hmem
          refine ⟨hcursor, haccounted, ?_, ?_⟩
          · apply SameBesides.trans _ hbesides
            exact congrArg (fun t : State => { t with leaders := walked.2 }) hsame
          · intro leader
            rw [hmem, hnodes, Cursor.nodes_of_mem hnodup hchecked, List.take_succ_cons]
            show leader ∈ called.finished ∨ leader < called.nLeaders ∧ _ ↔ _
            rw [hfinished, hsame.nLeaders]
            simp only [List.mem_cons, exists_eq_or_imp]
            tauto

end Check

/-- What a call of the timer leaves: the leaders found disconnected are dropped, and the next one
to check is the first that was not reached. -/
theorem connectionCheck_spec {s : State} (h : Invariant s) (checks : LeaderId → Check) :
    let o := s.connectionCheck checks
    let dropped := fun leader => leader ∈ s.checkedLeaders ∧ (checks leader).connected = false
    o.1 = (o.2.leaders ≠ [] : Bool) ∧ Invariant o.2 ∧
      (∀ leader, leader ∈ o.2.leaders ↔ leader ∈ s.leaders ∧ ¬dropped leader) ∧
      (∀ leader, leader ∈ o.2.finished ↔ leader ∈ s.finished ∨ leader < s.nLeaders ∧
        ∃ checked ∈ s.checkedLeaders, .leaderFinished leader ∈ (checks checked).meanwhile) ∧
      o.2.loop = s.loop ∧
      o.2.periodicalConnectionCheckerId = s.periodicalConnectionCheckerId ∧
      o.2.connectedInterval = s.connectedInterval := by
  intro o dropped
  let start : State :=
    { s with connectionChecking := true, nextConnectionCheckedLeader := s.firstCheckedLeader }
  have hfirst : ∀ leader, s.firstCheckedLeader = some leader → leader ∈ s.leaders := by
    intro leader hleader
    unfold State.firstCheckedLeader at hleader
    cases hnext : s.nextConnectionCheckedLeader with
    | none =>
        rw [hnext] at hleader
        exact List.mem_of_mem_head? hleader
    | some next =>
        rw [hnext] at hleader
        exact h.cursor leader (hnext.trans hleader)
  obtain ⟨hcursor, haccounted, hbesides, hfinished⟩ :=
    @checkConnections_spec start ⟨h.finishedMade, h.handlers, h.kept⟩ rfl h.nodup checks
      nLeadersPerConnectionCheck s.firstCheckedLeader hfirst
  rw [Cursor.walk_eq _ _ h.nodup hfirst] at hcursor hbesides
  let checked := start.checkConnections checks nLeadersPerConnectionCheck s.firstCheckedLeader
  have ho : o.2 =
      { checked.2 with nextConnectionCheckedLeader := checked.1, connectionChecking := false } :=
    rfl
  have hleaders : checked.2.leaders = s.leaders.filter fun leader =>
      decide (leader ∉ s.checkedLeaders) || (checks leader).connected := hbesides.leaders
  have hmem : ∀ leader, leader ∈ o.2.leaders ↔ leader ∈ s.leaders ∧ ¬dropped leader := by
    intro leader
    rw [ho]
    show leader ∈ checked.2.leaders ↔ _
    rw [hleaders, List.mem_filter]
    simp only [dropped, Bool.or_eq_true, decide_eq_true_eq, not_and, Bool.not_eq_false]
    tauto
  obtain ⟨hloop, hid, hinterval, hconnected⟩ := hbesides.timer
  refine ⟨rfl, ?_, hmem, hfinished, ?_, ?_, ?_⟩
  · exact
      { finishedMade := haccounted.finishedMade
        handlers := haccounted.handlers
        kept := haccounted.kept
        idle := rfl
        nodup := by
          show checked.2.leaders.Nodup
          rw [hleaders]
          exact h.nodup.filter _
        made := by
          intro leader hleader
          show leader < checked.2.nLeaders
          rw [hbesides.nLeaders]
          exact h.made leader ((hmem leader).mp hleader).1
        cursor := by
          intro leader hleader
          have hlast : ((Cursor.nodes s.leaders s.firstCheckedLeader).drop
              nLeadersPerConnectionCheck).head? = some leader := hcursor.symm.trans hleader
          have hdrop := List.mem_of_mem_head? hlast
          have hnodes : (Cursor.nodes s.leaders s.firstCheckedLeader).Nodup :=
            h.nodup.sublist (Cursor.nodes_sublist _ _).sublist
          apply (hmem leader).mpr
          constructor
          · exact (Cursor.nodes_sublist _ _).subset (List.mem_of_mem_drop hdrop)
          · intro hdropped
            exact List.disjoint_take_drop hnodes (Nat.le_refl _) hdropped.1 hdrop
        timers := by
          show ∀ timer ∈ checked.2.loop.timers, timer = checked.2.periodicalConnectionCheckerId ∧ _
          rw [hloop, hid]
          exact h.timers
        unarmed := by
          show checked.2.periodicalConnectionCheckerId = 0 → _
          rw [hid]
          exact fun hzero => hinterval.trans (h.unarmed hzero) }
  · exact hloop
  · exact hid
  · exact hconnected

section Step

variable {s : State}

theorem timeout_of_live {timer : Nat} (checks : LeaderId → Check)
    (hlive : timer ∈ s.loop.timers) :
    s.timeout timer checks =
      let o := s.connectionCheck checks
      if o.1 then o.2 else { o.2 with loop := o.2.loop.remove timer } := by
  rw [State.timeout, if_pos hlive]

theorem timeout_of_dead {timer : Nat} (checks : LeaderId → Check)
    (hdead : timer ∉ s.loop.timers) : s.timeout timer checks = s := by
  rw [State.timeout, if_neg hdead]

theorem timeout_keeps (h : Invariant s) (timer : Nat) (checks : LeaderId → Check) :
    Invariant (s.timeout timer checks) := by
  obtain ⟨-, hnext, -⟩ := connectionCheck_spec h checks
  by_cases hlive : timer ∈ s.loop.timers
  · rw [timeout_of_live checks hlive]
    show Invariant (if (s.connectionCheck checks).1 then _ else _)
    by_cases hagain : (s.connectionCheck checks).1 = true
    · rw [if_pos hagain]
      exact hnext
    · rw [if_neg hagain]
      exact
        { hnext with
          timers := fun other hother => hnext.timers other (List.mem_filter.mp hother).1 }
  · rw [timeout_of_dead checks hlive]
    exact h

theorem booksKept_timeout_iff (h : Invariant s) (hbooks : BooksKept s) (timer : Nat)
    (checks : LeaderId → Check) :
    BooksKept (s.timeout timer checks) ↔ Met s (.timeout timer checks) := by
  obtain ⟨hagain, hnext, hleaders, hfinished, hloop, hid, hinterval⟩ :=
    connectionCheck_spec h checks
  let o := s.connectionCheck checks
  rw [(timeout_keeps h timer checks).booksKept_iff]
  by_cases hlive : timer ∈ s.loop.timers
  · have hstep : s.timeout timer checks =
        if o.1 then o.2 else { o.2 with loop := o.2.loop.remove timer } :=
      timeout_of_live checks hlive
    have hleft : (s.timeout timer checks).leaders = o.2.leaders := by
      rw [hstep]
      split <;> rfl
    have hdone : (s.timeout timer checks).finished = o.2.finished := by
      rw [hstep]
      split <;> rfl
    have htimed : (s.timeout timer checks).leaders ≠ [] →
        0 < (s.timeout timer checks).connectedInterval →
        (s.timeout timer checks).periodicalConnectionCheckerId ∈
          (s.timeout timer checks).loop.timers := by
      intro hne hpositive
      rw [hleft] at hne
      have hagain' : o.1 = true := by
        rw [hagain]
        exact decide_eq_true hne
      rw [hstep, if_pos hagain'] at hpositive ⊢
      obtain ⟨leader, hleader⟩ := List.exists_mem_of_ne_nil _ hne
      have hsome : s.leaders ≠ [] := List.ne_nil_of_mem ((hleaders leader).mp hleader).1
      rw [hinterval] at hpositive
      rw [hloop, hid]
      exact hbooks.timed hsome hpositive
    rw [and_iff_left htimed, hleft, hdone]
    constructor
    · intro hunfinished _ checked hchecked other hother hcall
      by_contra hnot
      have hlisted : other ∈ o.2.leaders := (hleaders other).mpr ⟨hother, hnot⟩
      apply hunfinished other hlisted
      exact (hfinished other).mpr (Or.inr ⟨h.made other hother, checked, hchecked, hcall⟩)
    · intro hmet leader hleader hbad
      obtain ⟨hlisted, hnot⟩ := (hleaders leader).mp hleader
      rcases (hfinished leader).mp hbad with hbefore | ⟨-, checked, hchecked, hcall⟩
      · exact hbooks.unfinished leader hlisted hbefore
      · exact hnot (hmet hlive checked hchecked leader hlisted hcall)
  · rw [timeout_of_dead checks hlive, ← h.booksKept_iff]
    constructor
    · intro _ hlive'
      exact absurd hlive' hlive
    · intro _
      exact hbooks

theorem disposeFinishedLeaders_keeps (h : Invariant s) : Invariant s.disposeFinishedLeaders :=
  { h with
    kept := h.toAccounted.disposeFinishedLeaders.kept }

theorem setupContextSignals_keeps (h : Invariant s) : Invariant s.setupContextSignals :=
  have hfresh : s.nLeaders ∉ s.leaders := fun hmem => Nat.lt_irrefl _ (h.made _ hmem)
  have hunheard : s.nLeaders ∉ s.finished := fun hmem => Nat.lt_irrefl _ (h.finishedMade _ hmem)
  { h with
    finishedMade := fun leader hleader => Nat.lt_succ_of_lt (h.finishedMade leader hleader)
    handlers := by
      intro leader
      show leader ∈ s.nLeaders :: s.finishedHandlers ↔ leader < s.nLeaders + 1 ∧ _
      rw [List.mem_cons, h.handlers leader, Nat.lt_succ_iff_lt_or_eq]
      constructor
      · rintro (rfl | ⟨hmade, hunfinished⟩)
        · exact ⟨Or.inr rfl, hunheard⟩
        · exact ⟨Or.inl hmade, hunfinished⟩
      · rintro ⟨hmade | rfl, hunfinished⟩
        · exact Or.inr ⟨hmade, hunfinished⟩
        · exact Or.inl rfl
    nodup := List.nodup_cons.mpr ⟨hfresh, h.nodup⟩
    made := by
      intro leader hleader
      rcases List.mem_cons.mp hleader with rfl | hbefore
      · exact Nat.lt_succ_self _
      · exact Nat.lt_succ_of_lt (h.made leader hbefore)
    cursor := fun leader hleader => List.mem_cons_of_mem _ (h.cursor leader hleader) }

theorem startPeriodicalConnectionChecker_eq (h : Invariant s) :
    s.startPeriodicalConnectionChecker =
      if s.connectionCheckInterval = 0 then
        { s with
          currentPeriodicalConnectionCheckInterval := 0
          periodicalConnectionCheckerId := 0
          loop := ⟨[], s.loop.lastId⟩ }
      else if s.connectionCheckInterval = s.currentPeriodicalConnectionCheckInterval then s
      else
        { s with
          currentPeriodicalConnectionCheckInterval := s.connectionCheckInterval
          periodicalConnectionCheckerId := s.loop.lastId + 1
          loop := ⟨[s.loop.lastId + 1], s.loop.lastId + 1⟩ } := by
  unfold State.startPeriodicalConnectionChecker
  by_cases hzero : s.connectionCheckInterval = 0
  · have hnot : ¬0 < s.connectionCheckInterval := by omega
    show (if 0 < s.connectionCheckInterval then _ else _) = _
    rw [if_neg hnot, if_pos hzero]
    exact dispose_eq h.timers
  · have hpositive : 0 < s.connectionCheckInterval := by omega
    show (if 0 < s.connectionCheckInterval then _ else _) = _
    rw [if_pos hpositive, if_neg hzero]
    by_cases hsame : s.connectionCheckInterval = s.currentPeriodicalConnectionCheckInterval
    · have hid : s.periodicalConnectionCheckerId ≠ 0 := by
        intro hid
        exact hzero (hsame.trans (h.unarmed hid))
      rw [if_neg (by simp [hid, hsame]), if_pos hsame]
    · rw [if_pos (Or.inr hsame), if_neg hsame, dispose_eq h.timers]
      rfl

theorem startPeriodicalConnectionChecker_keeps (h : Invariant s) :
    Invariant s.startPeriodicalConnectionChecker := by
  rw [startPeriodicalConnectionChecker_eq h]
  split
  · exact
      { h with
        timers := fun timer htimer => absurd htimer List.not_mem_nil
        unarmed := fun _ => rfl }
  · split
    · exact h
    · exact
        { h with
          timers := by
            intro timer htimer
            rw [List.mem_singleton.mp htimer]
            exact ⟨rfl, Nat.succ_ne_zero _⟩
          unarmed := fun hzero => absurd hzero (Nat.succ_ne_zero _) }

theorem connectionEstablished_keeps (h : Invariant s) : Invariant s.connectionEstablished :=
  { startPeriodicalConnectionChecker_keeps (setupContextSignals_keeps h) with }

theorem booksKept_connectionEstablished_iff (h : Invariant s) (hbooks : BooksKept s) :
    BooksKept s.connectionEstablished ↔ Met s .connectionEstablished := by
  rw [(connectionEstablished_keeps h).booksKept_iff]
  have hstart := startPeriodicalConnectionChecker_eq (setupContextSignals_keeps h)
  have hunheard : s.nLeaders ∉ s.finished := fun hmem => Nat.lt_irrefl _ (h.finishedMade _ hmem)
  have hleaders : s.connectionEstablished.leaders = s.nLeaders :: s.leaders := by
    show s.setupContextSignals.startPeriodicalConnectionChecker.leaders = _
    rw [hstart]
    split
    · rfl
    · split <;> rfl
  have hfinished : s.connectionEstablished.finished = s.finished := by
    show s.setupContextSignals.startPeriodicalConnectionChecker.finished = _
    rw [hstart]
    split
    · rfl
    · split <;> rfl
  have hunfinished : ∀ leader ∈ s.connectionEstablished.leaders,
      leader ∉ s.connectionEstablished.finished := by
    intro leader hleader
    rw [hfinished]
    rw [hleaders] at hleader
    rcases List.mem_cons.mp hleader with rfl | hbefore
    · exact hunheard
    · exact hbooks.unfinished leader hbefore
  have hne : s.connectionEstablished.leaders ≠ [] := by
    rw [hleaders]
    exact List.cons_ne_nil _ _
  have hinterval : s.connectionEstablished.connectedInterval = s.connectionCheckInterval := rfl
  rw [and_iff_right hunfinished, forall_prop_of_true hne, hinterval]
  show (0 < s.connectionCheckInterval →
      s.setupContextSignals.startPeriodicalConnectionChecker.periodicalConnectionCheckerId ∈
        s.setupContextSignals.startPeriodicalConnectionChecker.loop.timers) ↔
    (0 < s.connectionCheckInterval →
      s.connectionCheckInterval = s.currentPeriodicalConnectionCheckInterval →
      s.periodicalConnectionCheckerId ∈ s.loop.timers)
  apply imp_congr_right
  intro hpositive
  have hsome : s.setupContextSignals.connectionCheckInterval ≠ 0 :=
    Nat.pos_iff_ne_zero.mp hpositive
  rw [hstart, if_neg hsome]
  by_cases hsame : s.setupContextSignals.connectionCheckInterval =
      s.setupContextSignals.currentPeriodicalConnectionCheckInterval
  · rw [if_pos hsame]
    constructor
    · intro hlive _
      exact hlive
    · intro hmet
      exact hmet hsame
  · rw [if_neg hsame]
    constructor
    · intro _ heq
      exact absurd heq hsame
    · intro _
      exact List.mem_singleton_self _

theorem unlistLeader_eq {leader : LeaderId}
    (hcursor : ∀ other, s.nextConnectionCheckedLeader = some other → other ∈ s.leaders) :
    s.unlistLeader leader =
      { s with
        nextConnectionCheckedLeader :=
          if s.nextConnectionCheckedLeader = some leader then Cursor.next s.leaders leader
          else s.nextConnectionCheckedLeader
        leaders := s.leaders.erase leader } := by
  unfold State.unlistLeader
  by_cases hmem : leader ∈ s.leaders
  · rw [if_pos hmem]
  · have hnext : s.nextConnectionCheckedLeader ≠ some leader :=
      fun heq => hmem (hcursor leader heq)
    rw [if_neg hmem, if_neg hnext, List.erase_of_not_mem hmem]

/-- A leader that finishes on its own is unlisted, and the last one takes the timer with it. -/
theorem cbLeaderFinished_eq (leader : LeaderId) (hidle : s.connectionChecking = false)
    (hcursor : ∀ other, s.nextConnectionCheckedLeader = some other → other ∈ s.leaders)
    (htimers : ∀ timer ∈ s.loop.timers, timer = s.periodicalConnectionCheckerId ∧ timer ≠ 0) :
    s.cbLeaderFinished leader =
      let t := { s with
        finishedHandlers := s.finishedHandlers.filter (· ≠ leader)
        nextConnectionCheckedLeader :=
          if s.nextConnectionCheckedLeader = some leader then Cursor.next s.leaders leader
          else s.nextConnectionCheckedLeader
        leaders := s.leaders.erase leader
        finishedLeaders := leader :: s.finishedLeaders }
      if s.leaders.erase leader = [] then
        { t with
          currentPeriodicalConnectionCheckInterval := 0
          periodicalConnectionCheckerId := 0
          loop := ⟨[], s.loop.lastId⟩ }
      else t := by
  let unheard : State :=
    { s with finishedHandlers := s.finishedHandlers.filter (· ≠ leader) }
  let left : State :=
    { unheard with
      nextConnectionCheckedLeader :=
        if s.nextConnectionCheckedLeader = some leader then Cursor.next s.leaders leader
        else s.nextConnectionCheckedLeader
      leaders := s.leaders.erase leader }
  let finish : State → State := fun r => { r with finishedLeaders := leader :: r.finishedLeaders }
  have hunlist : unheard.unlistLeader leader = left := unlistLeader_eq hcursor
  have hbranch : s.cbLeaderFinished leader =
      finish (if left.leaders = [] then left.disposePeriodicalConnectionChecker else left) := by
    rw [← hunlist]
    simp only [State.cbLeaderFinished, hidle, Bool.false_eq_true, if_false, finish, unheard]
  rw [hbranch]
  by_cases hlast : s.leaders.erase leader = []
  · have hlast' : left.leaders = [] := hlast
    have hdispose := @dispose_eq left htimers
    simp only [hlast]
    rw [if_pos hlast', hdispose]
    simp only [finish, left, unheard, hlast, if_true]
  · have hlast' : left.leaders ≠ [] := hlast
    rw [if_neg hlast']
    simp only [hlast, if_false]
    rfl

/-- A leader that had finished before has no handler left. -/
theorem leaderFinished_of_finished (h : Invariant s) {leader : LeaderId}
    (hfinished : leader ∈ s.finished) :
    s.leaderFinished leader = { s with finished := leader :: s.finished } := by
  have hnot : leader ∉ s.finishedHandlers := fun hmem => ((h.handlers leader).mp hmem).2 hfinished
  rw [State.leaderFinished, if_pos (h.finishedMade leader hfinished)]
  exact if_neg hnot

theorem leaderFinished_of_unfinished (h : Invariant s) {leader : LeaderId}
    (hmade : leader < s.nLeaders) (hunfinished : leader ∉ s.finished) :
    s.leaderFinished leader =
      let t := { s with
        finished := leader :: s.finished
        finishedHandlers := s.finishedHandlers.filter (· ≠ leader)
        nextConnectionCheckedLeader :=
          if s.nextConnectionCheckedLeader = some leader then Cursor.next s.leaders leader
          else s.nextConnectionCheckedLeader
        leaders := s.leaders.erase leader
        finishedLeaders := leader :: s.finishedLeaders }
      if s.leaders.erase leader = [] then
        { t with
          currentPeriodicalConnectionCheckInterval := 0
          periodicalConnectionCheckerId := 0
          loop := ⟨[], s.loop.lastId⟩ }
      else t := by
  have hmem : leader ∈ s.finishedHandlers := (h.handlers leader).mpr ⟨hmade, hunfinished⟩
  rw [State.leaderFinished, if_pos hmade]
  show (if leader ∈ s.finishedHandlers then _ else _) = _
  rw [if_pos hmem]
  exact @cbLeaderFinished_eq { s with finished := leader :: s.finished } leader h.idle h.cursor
    h.timers

theorem leaderFinished_keeps (h : Invariant s) (leader : LeaderId) :
    Invariant (s.leaderFinished leader) := by
  by_cases hmade : leader < s.nLeaders
  · by_cases hfinished : leader ∈ s.finished
    · rw [leaderFinished_of_finished h hfinished]
      have hsame : s.finishedHandlers = s.finishedHandlers.filter (· ≠ leader) := by
        apply (List.filter_eq_self.mpr _).symm
        intro other hother
        apply decide_eq_true
        intro heq
        exact ((h.handlers other).mp hother).2 (heq ▸ hfinished)
      exact
        { h with
          toAccounted := h.toAccounted.finish hmade rfl rfl hsame (if_pos hfinished).symm rfl }
    · rw [leaderFinished_of_unfinished h hmade hfinished]
      have hunlisted : ∀ other, (if s.nextConnectionCheckedLeader = some leader then
          Cursor.next s.leaders leader else s.nextConnectionCheckedLeader) = some other →
          other ∈ s.leaders.erase leader := by
        intro other hother
        by_cases hnext : s.nextConnectionCheckedLeader = some leader
        · rw [if_pos hnext] at hother
          apply (List.mem_erase_of_ne _).mpr (Cursor.next_mem hother)
          exact fun heq => Cursor.next_ne h.nodup (h.cursor leader hnext) (heq ▸ hother)
        · rw [if_neg hnext] at hother
          apply (List.mem_erase_of_ne _).mpr (h.cursor other hother)
          exact fun heq => hnext (heq ▸ hother)
      have hmade' : ∀ other ∈ s.leaders.erase leader, other < s.nLeaders :=
        fun other hother => h.made other (List.mem_of_mem_erase hother)
      by_cases hlast : s.leaders.erase leader = []
      · simp only [hlast, if_true]
        rw [hlast] at hunlisted
        exact
          { toAccounted := h.toAccounted.finish hmade rfl rfl rfl (if_neg hfinished).symm rfl
            idle := h.idle
            nodup := List.nodup_nil
            made := fun other hother => absurd hother List.not_mem_nil
            cursor := hunlisted
            timers := fun timer htimer => absurd htimer List.not_mem_nil
            unarmed := fun _ => rfl }
      · simp only [hlast, if_false]
        exact
          { toAccounted := h.toAccounted.finish hmade rfl rfl rfl (if_neg hfinished).symm rfl
            idle := h.idle
            nodup := h.nodup.erase leader
            made := hmade'
            cursor := hunlisted
            timers := h.timers
            unarmed := h.unarmed }
  · rw [State.leaderFinished, if_neg hmade]
    exact h

theorem leaderFinished_booksKept (h : Invariant s) (hbooks : BooksKept s) (leader : LeaderId) :
    BooksKept (s.leaderFinished leader) := by
  apply (leaderFinished_keeps h leader).booksKept_iff.mpr
  by_cases hmade : leader < s.nLeaders
  · by_cases hfinished : leader ∈ s.finished
    · rw [leaderFinished_of_finished h hfinished]
      constructor
      · intro other hother hmem
        rcases List.mem_cons.mp hmem with rfl | hbefore
        · exact hbooks.unfinished other hother hfinished
        · exact hbooks.unfinished other hother hbefore
      · exact hbooks.timed
    · rw [leaderFinished_of_unfinished h hmade hfinished]
      by_cases hlast : s.leaders.erase leader = []
      · simp only [hlast, if_true]
        constructor
        · intro other hother
          exact absurd hother List.not_mem_nil
        · intro hne
          exact absurd rfl hne
      · simp only [hlast, if_false]
        constructor
        · intro other hother hmem
          rcases List.mem_cons.mp hmem with rfl | hbefore
          · exact h.nodup.not_mem_erase hother
          · exact hbooks.unfinished other (List.mem_of_mem_erase hother) hbefore
        · intro _ hpositive
          apply hbooks.timed _ hpositive
          intro hnil
          rw [hnil] at hlast
          exact hlast rfl
  · rw [State.leaderFinished, if_neg hmade]
    exact ⟨hbooks.unfinished, hbooks.timed⟩

theorem Invariant.step (h : Invariant s) (event : Event) : Invariant (step s event) := by
  cases event with
  | connectionEstablished => exact connectionEstablished_keeps h
  | leaderFinished leader => exact leaderFinished_keeps h leader
  | timeout timer checks => exact timeout_keeps h timer checks
  | setConnectionCheckInterval interval => exact { h with }
  | sessionsFinished => exact disposeFinishedLeaders_keeps h

/-- A step keeps the books in order exactly when it meets the condition. -/
theorem booksKept_step_iff (h : Invariant s) (hbooks : BooksKept s) (event : Event) :
    BooksKept (step s event) ↔ Met s event := by
  cases event with
  | connectionEstablished => exact booksKept_connectionEstablished_iff h hbooks
  | leaderFinished leader => exact iff_of_true (leaderFinished_booksKept h hbooks leader) trivial
  | timeout timer checks => exact booksKept_timeout_iff h hbooks timer checks
  | setConnectionCheckInterval interval => exact iff_of_true { hbooks with } trivial
  | sessionsFinished =>
      apply iff_of_true _ trivial
      apply (disposeFinishedLeaders_keeps h).booksKept_iff.mpr
      exact ⟨hbooks.unfinished, hbooks.timed⟩

end Step

/-- The books are in order in every state of a run exactly when all its steps meet the
condition. -/
theorem booksKept_along_iff (interval : Nat) (events : List Event) :
    Along step (fun s event => BooksKept (step s event)) (init interval) events ↔
      Along step Met (init interval) events :=
  Along.iff_of_invariant (fun _ event h => h.step event)
    (fun _ event h hbooks => booksKept_step_iff h hbooks event)
    (Invariant.init interval) (BooksKept.init interval)

/-- A call of the timer drops the only leader and ends the timer, whose id stays; the next
connection takes the id for a live timer. -/
theorem not_booksKept_along : ¬∀ interval events,
    Along step (fun s event => BooksKept (step s event)) (init interval) events := by
  intro h
  have hrun := h 5
    [.connectionEstablished, .timeout 1 fun _ => ⟨false, []⟩, .connectionEstablished]
  have htimed := hrun.2.2.1.timed (by decide) (by decide)
  exact absurd htimed (by decide)

end MilterManager.Manager
