import MilterManager.Base.Runs
import Mathlib.Data.List.Count
import Mathlib.Logic.Function.Basic

/-!
# The watchers of the libev event loop

`MilterLibevEventLoop`, from `milter/core/milter-libev-event-loop.c`: the table of watchers, the
functions that libev calls and the counter of an iteration. Callbacks and destroy notifies run in
between; the calls that have not returned yet are on a stack.
-/

namespace MilterManager.Events

open MilterManager.Base

/-- The kinds of watchers. -/
inductive WatcherKind where
  | io
  | child
  | timeout
  | idle
deriving DecidableEq, Repr

/-- An `ev_watcher` with its `WatcherPrivate`: the allocation, the identifier, and whether there is
a destroy notify. -/
structure Watcher where
  allocation : Nat
  kind : WatcherKind
  id : Nat
  notify : Bool
deriving DecidableEq, Repr

/-- The number of values of a `guint`. -/
def guintSize : Nat := 0x100000000

/-- `MilterLibevEventLoopPrivate`. -/
structure LibevEventLoop where
  id : Nat
  watchers : Nat → Option Watcher
  nCalled : Nat

/-- The loop of `add_watcher`, of at most `fuel` rounds: the identifiers after `id` in turn, without
zero and those in the table. -/
def nextId (watchers : Nat → Option Watcher) : Nat → Nat → Option Nat
  | 0, _ => none
  | fuel + 1, id =>
      let id := (id + 1) % guintSize
      if id = 0 then nextId watchers fuel id
      else if (watchers id).isSome then nextId watchers fuel id
      else some id

/-- The calls that add a watcher: the file descriptor of a channel, or whether an interval is
negative, decides whether they do. -/
inductive AddCall where
  | watchIoFull (fd : Int)
  | watchChildFull
  | addTimeoutFull (negative : Bool)
  | addIdleFull
deriving DecidableEq, Repr

namespace AddCall

/-- The kind of the watcher. -/
def kind : AddCall → WatcherKind
  | watchIoFull _ => .io
  | watchChildFull => .child
  | addTimeoutFull _ => .timeout
  | addIdleFull => .idle

/-- The call returns 0 before it makes a watcher. -/
def refused : AddCall → Bool
  | watchIoFull fd => fd == -1
  | watchChildFull => false
  | addTimeoutFull negative => negative
  | addIdleFull => false

end AddCall

/-- A call that has not returned: an iteration and whether it has invoked a callback, the callback
of a watcher, or its destroy notify. -/
inductive Frame where
  | iterate (invoked : Bool)
  | callback (watcher : Watcher)
  | notify (watcher : Watcher)
deriving DecidableEq, Repr

/-- An event loop that runs: the watchers that libev has started, the calls on the stack, all
watchers that were added and those whose destroy notify ran, and the number of callbacks invoked
since an iteration began. -/
structure LoopRun where
  loop : LibevEventLoop
  started : List Watcher
  stack : List Frame
  added : List Watcher
  notified : List Watcher
  called : Nat

/-- What happens: a call of a user, which is also made from callbacks and notifies, what libev does
in an iteration, and the return of a callback or a notify. -/
inductive LoopEvent where
  | add (call : AddCall) (notify : Bool)
  | remove (id : Nat)
  | iterate
  | deliver (watcher : Watcher)
  | finishIteration
  | returnCallback (again : Bool)
  | returnNotify
deriving DecidableEq, Repr

namespace LoopRun

/-- `milter_libev_event_loop_init`. -/
def init : LoopRun := ⟨⟨0, fun _ => none, 0⟩, [], [], [], [], 0⟩

/-- Code of a user is running: nothing is on the stack, or a callback or a notify. -/
def userRuns (s : LoopRun) : Bool :=
  match s.stack with
  | .iterate _ :: _ => false
  | _ => true

/-- `watch_io_full`, `watch_child_full`, `add_timeout_full` and `add_idle_full`, with `add_watcher`,
`milter/core/milter-libev-event-loop.c:306`; the loop of `add_watcher` does not end without a free
identifier. -/
def add (s : LoopRun) (call : AddCall) (notify : Bool) : LoopRun :=
  if call.refused then s
  else
    match nextId s.loop.watchers guintSize s.loop.id with
    | none => s
    | some id =>
        let watcher := ⟨s.added.length, call.kind, id, notify⟩
        { s with
          loop :=
            { s.loop with
              id := id
              watchers := Function.update s.loop.watchers id (some watcher) }
          started := watcher :: s.started
          added := watcher :: s.added }

/-- `remove_watcher`, `milter/core/milter-libev-event-loop.c:363`, and `destroy_watcher`, up to the
destroy notify. -/
def removeWatcher (s : LoopRun) (id : Nat) : LoopRun :=
  match s.loop.watchers id with
  | none => s
  | some watcher =>
      { s with
        loop := { s.loop with watchers := Function.update s.loop.watchers id none }
        started := s.started.erase watcher
        notified := if watcher.notify then watcher :: s.notified else s.notified
        stack := if watcher.notify then .notify watcher :: s.stack else s.stack }

/-- The beginning of `iterate`, `milter/core/milter-libev-event-loop.c:372`. -/
def iterate (s : LoopRun) : LoopRun :=
  { s with loop := { s.loop with nCalled := 0 }, stack := .iterate false :: s.stack, called := 0 }

/-- `io_func`, `child_func`, `timer_func` and `idle_func` up to the callback. -/
def deliver (s : LoopRun) (watcher : Watcher) : LoopRun :=
  match s.stack with
  | .iterate _ :: stack =>
      if watcher ∈ s.started then
        { s with
          loop := { s.loop with nCalled := (s.loop.nCalled + 1) % guintSize }
          stack := .callback watcher :: .iterate true :: stack
          called := s.called + 1 }
      else s
  | _ => s

/-- The functions behind the callback: `child_func` always removes the watcher, the others when the
callback returned `FALSE`. -/
def returnCallback (s : LoopRun) (again : Bool) : LoopRun :=
  match s.stack with
  | .callback watcher :: stack =>
      if again = true ∧ watcher.kind ≠ .child then { s with stack := stack }
      else removeWatcher { s with stack := stack } watcher.id
  | _ => s

/-- One event; an event for which it is not the time changes nothing. -/
def step (s : LoopRun) : LoopEvent → LoopRun
  | .add call notify => if s.userRuns then s.add call notify else s
  | .remove id => if s.userRuns then s.removeWatcher id else s
  | .iterate => if s.userRuns then s.iterate else s
  | .deliver watcher => s.deliver watcher
  | .finishIteration =>
      match s.stack with
      | .iterate _ :: stack => { s with stack := stack }
      | _ => s
  | .returnCallback again => s.returnCallback again
  | .returnNotify =>
      match s.stack with
      | .notify _ :: stack => { s with stack := stack }
      | _ => s

/-- What `milter_event_loop_remove` returns. -/
def removeResult (s : LoopRun) (id : Nat) : Bool := (s.loop.watchers id).isSome

/-- What `milter_event_loop_iterate` returns. -/
def iterateResult (s : LoopRun) : Bool := decide (0 < s.loop.nCalled)

/-- The identifiers of live watchers are not zero and differ. -/
def DistinctIds (s : LoopRun) : Prop :=
  ∀ watcher ∈ s.started, watcher.id ≠ 0 ∧ watcher.id < guintSize ∧
    ∀ other ∈ s.started, other.id = watcher.id → other = watcher

/-- The destroy notify of every watcher that is not live any more ran once, and no other ran. -/
def NotifiedOnce (s : LoopRun) : Prop :=
  ∀ watcher ∈ s.added,
    s.notified.count watcher = if watcher ∉ s.started ∧ watcher.notify = true then 1 else 0

/-- What the calls and the callbacks have to do: an identifier is removed with its live watcher if
there is one, and else nothing happens; a callback that does not want to go on loses its own watcher
and no other; an iteration reports whether it has invoked a callback. -/
def Answers (s : LoopRun) : LoopEvent → Prop
  | .remove id =>
      (s.removeResult id = true ↔ ∃ watcher ∈ s.started, watcher.id = id) ∧
        (s.userRuns = true → ∀ watcher ∈ s.started, watcher.id = id →
          watcher ∉ (s.step (.remove id)).started) ∧
        (s.removeResult id = false → s.step (.remove id) = s)
  | .returnCallback again =>
      ∀ watcher stack, s.stack = .callback watcher :: stack →
        again = false ∨ watcher.kind = .child →
        watcher ∉ (s.step (.returnCallback again)).started ∧
          ∀ other ∈ s.started, other ≠ watcher →
            other ∈ (s.step (.returnCallback again)).started
  | .finishIteration =>
      ∀ invoked stack, s.stack = .iterate invoked :: stack →
        (s.iterateResult = true ↔ invoked = true)
  | _ => True

/-- The live watchers have different identifiers, the destroy notifies run once each, no watcher
comes back, and the event does what it has to do. -/
def Orderly (s : LoopRun) (event : LoopEvent) : Prop :=
  (s.step event).DistinctIds ∧ (s.step event).NotifiedOnce ∧
    (∀ watcher ∈ s.added, watcher ∉ s.started → watcher ∉ (s.step event).started) ∧
    s.Answers event

/-- A watcher is not removed for another one that got its identifier while its callback ran, and an
iteration that has invoked a callback has invoked one since the last iteration within it began, and
not a multiple of `2 ^ 32`. -/
def Undisturbed (s : LoopRun) : LoopEvent → Prop
  | .returnCallback again =>
      ∀ watcher stack, s.stack = .callback watcher :: stack →
        again = false ∨ watcher.kind = .child →
        ∀ other ∈ s.started, other.id = watcher.id → other = watcher
  | .finishIteration => ∀ stack, s.stack = .iterate true :: stack → s.called % guintSize ≠ 0
  | _ => True

/-- What holds in every state, also while callbacks and notifies run. -/
structure Inv (s : LoopRun) : Prop where
  registered : ∀ watcher ∈ s.started, s.loop.watchers watcher.id = some watcher
  started : ∀ id watcher, s.loop.watchers id = some watcher →
    watcher ∈ s.started ∧ watcher.id = id
  ids : ∀ watcher ∈ s.started, watcher.id ≠ 0 ∧ watcher.id < guintSize
  added : ∀ watcher ∈ s.started, watcher ∈ s.added
  allocated : ∀ watcher ∈ s.added, watcher.allocation < s.added.length
  nodup : s.started.Nodup
  once : s.NotifiedOnce
  notified : ∀ watcher ∈ s.notified, watcher ∈ s.added
  counter : s.loop.nCalled = s.called % guintSize
  quiet : ∀ stack, s.stack = .iterate false :: stack → s.called = 0
  below : .iterate false ∉ s.stack.tail

theorem inv_init : init.Inv where
  registered watcher h := absurd h List.not_mem_nil
  started id watcher h := by cases h
  ids watcher h := absurd h List.not_mem_nil
  added watcher h := absurd h List.not_mem_nil
  allocated watcher h := absurd h List.not_mem_nil
  nodup := List.nodup_nil
  once watcher h := absurd h List.not_mem_nil
  notified watcher h := absurd h List.not_mem_nil
  counter := rfl
  quiet stack h := by cases h
  below := List.not_mem_nil

theorem nextId_spec {watchers : Nat → Option Watcher} {fuel id free : Nat}
    (h : nextId watchers fuel id = some free) :
    free ≠ 0 ∧ free < guintSize ∧ watchers free = none := by
  induction fuel generalizing id with
  | zero => cases h
  | succ fuel ih =>
      rw [nextId] at h
      split at h
      · exact ih h
      · next hzero =>
          split at h
          · exact ih h
          · next hfree =>
              cases h
              exact ⟨hzero, Nat.mod_lt _ (by decide), by simpa using hfree⟩

section Steps

variable {s : LoopRun}

theorem distinctIds_of_inv (h : s.Inv) : s.DistinctIds := by
  intro watcher hwatcher
  refine ⟨(h.ids watcher hwatcher).1, (h.ids watcher hwatcher).2, fun other hother hid => ?_⟩
  have hsame := h.registered other hother
  rw [hid, h.registered watcher hwatcher] at hsame
  exact (Option.some.inj hsame).symm

/-- A user's code runs above iterations that have all invoked a callback. -/
theorem no_fresh_iteration (h : s.Inv) (huser : s.userRuns = true) : .iterate false ∉ s.stack := by
  intro hmem
  have hbelow := h.below
  rw [userRuns] at huser
  cases hstack : s.stack with
  | nil =>
      rw [hstack] at hmem
      exact absurd hmem List.not_mem_nil
  | cons frame stack =>
      rw [hstack] at hmem hbelow huser
      rcases List.mem_cons.mp hmem with rfl | hmem
      · cases huser
      · exact hbelow hmem

theorem inv_add (h : s.Inv) (call : AddCall) (notify : Bool) : (s.add call notify).Inv := by
  rw [add]
  split
  · exact h
  · split
    · exact h
    · next id hid =>
        have hspec := nextId_spec hid
        have hnew : ∀ watcher ∈ s.added,
            watcher ≠ ⟨s.added.length, call.kind, id, notify⟩ := by
          rintro watcher hwatcher rfl
          exact absurd (h.allocated _ hwatcher) (Nat.lt_irrefl _)
        have hold : ∀ watcher ∈ s.started, watcher.id ≠ id := by
          intro watcher hwatcher heq
          have hregistered := h.registered watcher hwatcher
          rw [heq, hspec.2.2] at hregistered
          cases hregistered
        exact
          { registered := by
              intro watcher hwatcher
              rcases List.mem_cons.mp hwatcher with rfl | hwatcher
              · exact Function.update_self _ _ _
              · show Function.update s.loop.watchers id _ watcher.id = some watcher
                rw [Function.update_of_ne (hold watcher hwatcher)]
                exact h.registered watcher hwatcher
            started := by
              intro other watcher hother
              by_cases heq : other = id
              · subst heq
                have hsame := hother.symm.trans (Function.update_self _ _ _)
                cases hsame
                exact ⟨List.mem_cons_self, rfl⟩
              · have hsame := hother.symm.trans (Function.update_of_ne heq _ _)
                have hstarted := h.started other watcher hsame.symm
                exact ⟨List.mem_cons_of_mem _ hstarted.1, hstarted.2⟩
            ids := by
              intro watcher hwatcher
              rcases List.mem_cons.mp hwatcher with rfl | hwatcher
              · exact ⟨hspec.1, hspec.2.1⟩
              · exact h.ids watcher hwatcher
            added := by
              intro watcher hwatcher
              rcases List.mem_cons.mp hwatcher with rfl | hwatcher
              · exact List.mem_cons_self
              · exact List.mem_cons_of_mem _ (h.added watcher hwatcher)
            allocated := by
              intro watcher hwatcher
              show watcher.allocation < s.added.length + 1
              rcases List.mem_cons.mp hwatcher with rfl | hwatcher
              · exact Nat.lt_succ_self _
              · exact Nat.lt_succ_of_lt (h.allocated watcher hwatcher)
            nodup := by
              apply List.nodup_cons.mpr
              exact ⟨fun hmem => hnew _ (h.added _ hmem) rfl, h.nodup⟩
            once := by
              intro watcher hwatcher
              show s.notified.count watcher = _
              rcases List.mem_cons.mp hwatcher with rfl | hwatcher
              · rw [if_neg (fun hdead => hdead.1 List.mem_cons_self), List.count_eq_zero]
                intro hmem
                exact hnew _ (h.notified _ hmem) rfl
              · rw [h.once watcher hwatcher]
                have hiff : watcher ∈ (⟨s.added.length, call.kind, id, notify⟩ :: s.started) ↔
                    watcher ∈ s.started := by
                  rw [List.mem_cons]
                  exact or_iff_right (hnew watcher hwatcher)
                simp only [hiff]
            notified := fun watcher hwatcher =>
              List.mem_cons_of_mem _ (h.notified watcher hwatcher)
            counter := h.counter
            quiet := h.quiet
            below := h.below }

theorem removeWatcher_of_none {id : Nat} (h : s.loop.watchers id = none) :
    s.removeWatcher id = s := by
  rw [removeWatcher, h]

theorem inv_removeWatcher (h : s.Inv) (hstack : .iterate false ∉ s.stack) (id : Nat) :
    (s.removeWatcher id).Inv := by
  cases hid : s.loop.watchers id with
  | none =>
      rw [removeWatcher_of_none hid]
      exact h
  | some watcher =>
      have hstarted := h.started id watcher hid
      have herase (other : Watcher) :
          other ∈ s.started.erase watcher ↔ other ≠ watcher ∧ other ∈ s.started :=
        h.nodup.mem_erase_iff
      have hdead : watcher ∉ s.started.erase watcher := fun hmem => ((herase watcher).mp hmem).1 rfl
      rw [removeWatcher, hid]
      exact
        { registered := by
            intro other hother
            obtain ⟨hne, hlive⟩ := (herase other).mp hother
            have hregistered := h.registered other hlive
            have hother : other.id ≠ id := by
              intro heq
              rw [heq, hid] at hregistered
              exact hne (Option.some.inj hregistered).symm
            show Function.update s.loop.watchers id none other.id = some other
            rw [Function.update_of_ne hother]
            exact hregistered
          started := by
            intro key other hkey
            by_cases heq : key = id
            · subst heq
              cases hkey.symm.trans (Function.update_self _ _ _)
            · have hsame := hkey.symm.trans (Function.update_of_ne heq _ _)
              have hlive := h.started key other hsame.symm
              refine ⟨(herase other).mpr ⟨?_, hlive.1⟩, hlive.2⟩
              rintro rfl
              exact heq (hlive.2.symm.trans hstarted.2)
          ids := fun other hother => h.ids other ((herase other).mp hother).2
          added := fun other hother => h.added other ((herase other).mp hother).2
          allocated := h.allocated
          nodup := h.nodup.erase watcher
          once := by
            intro other hother
            have hcount := h.once other hother
            show (if watcher.notify then watcher :: s.notified else s.notified).count other =
              if other ∉ s.started.erase watcher ∧ other.notify = true then 1 else 0
            by_cases heq : other = watcher
            · subst heq
              rw [if_neg fun hgone => hgone.1 hstarted.1] at hcount
              cases hnotify : other.notify with
              | true => simp [hdead, hcount]
              | false => simp [hcount]
            · have hlive : other ∈ s.started.erase watcher ↔ other ∈ s.started := by
                rw [herase]
                exact and_iff_right heq
              simp only [hlive]
              rw [← hcount]
              split
              · exact List.count_cons_of_ne (Ne.symm heq)
              · rfl
          notified := by
            intro other hother
            change other ∈ if watcher.notify then watcher :: s.notified else s.notified at hother
            split at hother
            · rcases List.mem_cons.mp hother with rfl | hother
              · exact h.added _ hstarted.1
              · exact h.notified other hother
            · exact h.notified other hother
          counter := h.counter
          quiet := by
            intro stack hquiet
            change (if watcher.notify then .notify watcher :: s.stack else s.stack) =
              .iterate false :: stack at hquiet
            split at hquiet
            · cases hquiet
            · exact h.quiet stack hquiet
          below := by
            show .iterate false ∉
              (if watcher.notify then .notify watcher :: s.stack else s.stack).tail
            split
            · exact hstack
            · exact h.below }

theorem inv_pop (h : s.Inv) {frame : Frame} {stack : List Frame} (hs : s.stack = frame :: stack) :
    ({ s with stack := stack } : LoopRun).Inv ∧ .iterate false ∉ stack := by
  have hbelow : .iterate false ∉ stack := by
    have hbelow := h.below
    rwa [hs] at hbelow
  refine ⟨?_, hbelow⟩
  exact
    { registered := h.registered
      started := h.started
      ids := h.ids
      added := h.added
      allocated := h.allocated
      nodup := h.nodup
      once := h.once
      notified := h.notified
      counter := h.counter
      quiet := by
        rintro rest rfl
        exact absurd List.mem_cons_self hbelow
      below := fun hmem => hbelow (List.mem_of_mem_tail hmem) }

theorem inv_iterate (h : s.Inv) (huser : s.userRuns = true) : s.iterate.Inv where
  registered := h.registered
  started := h.started
  ids := h.ids
  added := h.added
  allocated := h.allocated
  nodup := h.nodup
  once := h.once
  notified := h.notified
  counter := rfl
  quiet _ _ := rfl
  below := no_fresh_iteration h huser

theorem inv_deliver (h : s.Inv) (watcher : Watcher) : (s.deliver watcher).Inv := by
  rw [deliver]
  split
  · next invoked stack hs =>
      split
      · have hpop := inv_pop h hs
        exact
          { registered := h.registered
            started := h.started
            ids := h.ids
            added := h.added
            allocated := h.allocated
            nodup := h.nodup
            once := h.once
            notified := h.notified
            counter := by
              show (s.loop.nCalled + 1) % guintSize = (s.called + 1) % guintSize
              rw [h.counter, Nat.mod_add_mod]
            quiet := by
              rintro rest ⟨⟩
            below := by
              show .iterate false ∉ Frame.iterate true :: stack
              simp [hpop.2] }
      · exact h
  · exact h

theorem inv_returnCallback (h : s.Inv) (again : Bool) : (s.returnCallback again).Inv := by
  rw [returnCallback]
  split
  · next watcher stack hs =>
      have hpop := inv_pop h hs
      split
      · exact hpop.1
      · exact inv_removeWatcher hpop.1 hpop.2 watcher.id
  · exact h

theorem inv_step (h : s.Inv) (event : LoopEvent) : (s.step event).Inv := by
  cases event with
  | add call notify =>
      rw [step]
      split
      · exact inv_add h call notify
      · exact h
  | remove id =>
      rw [step]
      split
      · next huser => exact inv_removeWatcher h (no_fresh_iteration h huser) id
      · exact h
  | iterate =>
      rw [step]
      split
      · next huser => exact inv_iterate h huser
      · exact h
  | deliver watcher => exact inv_deliver h watcher
  | finishIteration =>
      rw [step]
      split
      · next hs => exact (inv_pop h hs).1
      · exact h
  | returnCallback again => exact inv_returnCallback h again
  | returnNotify =>
      rw [step]
      split
      · next hs => exact (inv_pop h hs).1
      · exact h

/-- Removing an identifier takes the live watcher that has it, and no other. -/
theorem mem_removeWatcher (h : s.Inv) (id : Nat) (other : Watcher) :
    other ∈ (s.removeWatcher id).started ↔ other ∈ s.started ∧ other.id ≠ id := by
  cases hid : s.loop.watchers id with
  | none =>
      rw [removeWatcher_of_none hid]
      refine ⟨fun hother => ⟨hother, ?_⟩, And.left⟩
      rintro rfl
      cases hid.symm.trans (h.registered other hother)
  | some watcher =>
      have hstarted := h.started id watcher hid
      have hmem : other ∈ (s.removeWatcher id).started ↔ other ≠ watcher ∧ other ∈ s.started := by
        rw [removeWatcher, hid]
        exact h.nodup.mem_erase_iff
      rw [hmem, and_comm]
      apply and_congr_right
      intro hother
      constructor
      · intro hne heq
        have hregistered := h.registered other hother
        rw [heq, hid] at hregistered
        exact hne (Option.some.inj hregistered).symm
      · rintro hne rfl
        exact hne hstarted.2

/-- A watcher that is not live any more stays so. -/
theorem dead_step (h : s.Inv) (event : LoopEvent) {watcher : Watcher} (hadded : watcher ∈ s.added)
    (hdead : watcher ∉ s.started) : watcher ∉ (s.step event).started := by
  have hremoved {t : LoopRun} (ht : t.Inv) (hsame : t.started = s.started) (id : Nat) :
      watcher ∉ (t.removeWatcher id).started := by
    rw [mem_removeWatcher ht, hsame]
    exact fun hlive => hdead hlive.1
  cases event with
  | add call notify =>
      rw [step]
      split
      · rw [add]
        split
        · exact hdead
        · split
          · exact hdead
          · intro hmem
            rcases List.mem_cons.mp hmem with rfl | hmem
            · exact absurd (h.allocated _ hadded) (Nat.lt_irrefl _)
            · exact hdead hmem
      · exact hdead
  | remove id =>
      rw [step]
      split
      · exact hremoved h rfl id
      · exact hdead
  | iterate =>
      rw [step]
      split
      · exact hdead
      · exact hdead
  | deliver other =>
      rw [step, deliver]
      split
      · split
        · exact hdead
        · exact hdead
      · exact hdead
  | finishIteration =>
      rw [step]
      split
      · exact hdead
      · exact hdead
  | returnCallback again =>
      rw [step, returnCallback]
      split
      · next hs =>
          split
          · exact hdead
          · exact hremoved (inv_pop h hs).1 rfl _
      · exact hdead
  | returnNotify =>
      rw [step]
      split
      · exact hdead
      · exact hdead

theorem answers_remove (h : s.Inv) (id : Nat) : s.Answers (.remove id) := by
  refine ⟨?_, ?_, ?_⟩
  · rw [removeResult, Option.isSome_iff_exists]
    constructor
    · rintro ⟨watcher, hid⟩
      exact ⟨watcher, h.started id watcher hid⟩
    · rintro ⟨watcher, hlive, rfl⟩
      exact ⟨watcher, h.registered watcher hlive⟩
  · intro huser watcher _ hid
    rw [step, if_pos huser, mem_removeWatcher h]
    exact fun hlive => hlive.2 hid
  · intro hnone
    have hid : s.loop.watchers id = none := Option.isNone_iff_eq_none.mp (by
      rw [← Option.not_isSome]
      exact Bool.not_eq_true' _ ▸ hnone)
    rw [step, removeWatcher_of_none hid]
    exact ite_self s

theorem answers_returnCallback_iff (h : s.Inv) (again : Bool) :
    s.Answers (.returnCallback again) ↔ s.Undisturbed (.returnCallback again) := by
  rw [Answers, Undisturbed]
  apply forall_congr'
  intro watcher
  apply forall_congr'
  intro stack
  apply imp_congr_right
  intro hs
  apply imp_congr_right
  intro hremoves
  have hkeep : ¬(again = true ∧ watcher.kind ≠ .child) := by
    rcases hremoves with rfl | hchild
    · exact fun hboth => Bool.false_ne_true hboth.1
    · exact fun hboth => hboth.2 hchild
  have hstep (other : Watcher) : other ∈ (s.step (.returnCallback again)).started ↔
      other ∈ s.started ∧ other.id ≠ watcher.id := by
    rw [step, returnCallback, hs]
    dsimp only
    rw [if_neg hkeep]
    exact mem_removeWatcher (inv_pop h hs).1 watcher.id other
  simp only [hstep]
  constructor
  · rintro ⟨-, hothers⟩ other hother hid
    by_contra hne
    exact (hothers other hother hne).2 hid
  · intro hown
    refine ⟨fun hlive => hlive.2 rfl, fun other hother hne => ⟨hother, fun hid => ?_⟩⟩
    exact hne (hown other hother hid)

theorem answers_finishIteration_iff (h : s.Inv) :
    s.Answers .finishIteration ↔ s.Undisturbed .finishIteration := by
  rw [Answers, Undisturbed, iterateResult, h.counter, decide_eq_true_eq, Nat.pos_iff_ne_zero]
  constructor
  · intro hresult stack hs
    exact (hresult true stack hs).mpr rfl
  · intro hcalled invoked stack hs
    cases invoked with
    | true => exact iff_of_true (hcalled stack hs) rfl
    | false =>
        rw [h.quiet stack hs]
        exact iff_of_false (fun hne => hne (Nat.zero_mod _)) Bool.false_ne_true

/-- One event is orderly exactly when it is undisturbed. -/
theorem orderly_iff (h : s.Inv) (event : LoopEvent) : s.Orderly event ↔ s.Undisturbed event := by
  have hnext := inv_step h event
  have hdead : ∀ watcher ∈ s.added, watcher ∉ s.started → watcher ∉ (s.step event).started :=
    fun watcher hadded hgone => dead_step h event hadded hgone
  rw [Orderly, and_iff_right (distinctIds_of_inv hnext), and_iff_right hnext.once,
    and_iff_right hdead]
  cases event with
  | remove id => exact iff_of_true (answers_remove h id) trivial
  | returnCallback again => exact answers_returnCallback_iff h again
  | finishIteration => exact answers_finishIteration_iff h
  | _ => exact Iff.rfl

end Steps

/-- In every run of the loop the watchers are kept in order exactly when every return of a callback
and every end of an iteration is undisturbed. -/
theorem orderly_along_iff (events : List LoopEvent) :
    Along step Orderly init events ↔ Along step Undisturbed init events := by
  apply @Along.congr_of_invariant _ _ step Inv
  · exact fun s event h _ => inv_step h event
  · exact fun s event h => orderly_iff h event
  · exact inv_init

/-- An iteration within the callback of a timeout finds nothing to do, and the iteration around it
does not report the callback. -/
theorem not_orderly_along_nested :
    ¬∀ events : List LoopEvent, Along step Orderly init events := by
  intro h
  have hrun := h [.add (.addTimeoutFull false) false, .iterate, .deliver ⟨0, .timeout, 1, false⟩,
    .iterate, .finishIteration, .returnCallback true, .finishIteration]
  have hresult := hrun.2.2.2.2.2.2.1.2.2.2 true [] rfl
  revert hresult
  decide

end LoopRun

end MilterManager.Events
