import MilterManager.Children.ContextRun

/-!
# Waiting for a reply

While a context waits for the reply to a command it has a timer and takes no other command,
`milter/server/milter-server-context.c:1259` on. The commands that wait are counted beside the run:
one more for each that is flushed and wants a reply, one less for each answer.
-/

namespace MilterManager.Children

open MilterManager.Base MilterManager.Core MilterManager.Server

/-- A context whose connection has just been established, with the handlers of its owner. -/
def Connected (fallbackStatus : Status) (evaluationMode hasCommand : Bool)
    (stopOn : ContextState → Bool) : Context :=
  { Context.init fallbackStatus evaluationMode hasCommand with
    writer := .started
    stopOn := stopOn
    handlers := 1 }

/-- A reply that ends the wait for one. -/
def isAnswer : Reply → Bool
  | .negotiateReply _ | .continue | .replyCode _ _ _ | .temporaryFailure | .reject | .accept
  | .discard | .connectionFailure | .shutdown | .skip => true
  | _ => false

namespace Wire

/-- A flushed command waits for a reply; nothing is heard of an abort or a quit. -/
def awaits (line : Wire) (state : ContextState) : Bool :=
  state ≠ .invalid && !state.interrupts && line.needReply state

/-- The commands that wait after one more is flushed; an abort and a quit end every wait. -/
def waitingAfter (line : Wire) (outstanding : Nat) (state : ContextState) : Nat :=
  if state.interrupts then 0 else if line.awaits state then outstanding + 1 else outstanding

/-- A command for which a timer is registered when it has been flushed. -/
def armsTimer (line : Wire) (state : ContextState) : Bool :=
  line.awaits state && (state ≠ .body || line.body ≠ [])

/-- The child is heard. -/
def heard (line : Wire) : Bool := line.writer ≠ .absent && !line.finished

/-- The end of the registered timeout shuts the connection down. -/
def expires (line : Wire) : Bool :=
  line.timeout = some .writing || line.timeout = some .reading || line.timeout = some .endOfMessage

/-- The buffer of the writer is flushed, if it is not empty: while the connection is up, or at its
end. -/
def flushes (last : LastWrite) (line : Wire) : ContextEvent → Bool
  | .flushed => line.writer = .started
  | .hangUp => line.heard && line.writer = .started && last.flushes
  | .expireTimeout => line.expires && line.writer = .started && last.flushes
  | _ => false

/-- The commands that an event tells to be flushed. -/
def flushedBy (last : LastWrite) (line : Wire) (event : ContextEvent) : List ContextState :=
  if line.flushes last event then line.nextStates else []

theorem flushedBy_of_shutdown {last : LastWrite} {line : Wire} {event : ContextEvent}
    (hevent : line.flushes last event = (line.writer = .started && last.flushes)) :
    line.flushedBy last event =
      if line.writer = .started ∧ last.flushes then line.nextStates else [] := by
  rw [flushedBy, hevent]
  simp

/-- A timer runs while a reply is outstanding, and none when nothing is. -/
structure TimerRight (line : Wire) (outstanding : Nat) : Prop where
  waiting : 0 < outstanding →
    line.timeout = some .reading ∨ line.timeout = some .endOfMessage ∨ line.timeout = some .expired
  idle : line.nextStates = [] → outstanding = 0 → line.timeout = none

end Wire

/-- A context and the number of its commands that were flushed and not answered. -/
structure Watched where
  state : State
  outstanding : Nat

namespace Watched

/-- The commands that an event tells to be flushed. -/
def flushedBy (child : ChildId) (watched : Watched) (event : ContextEvent) : List ContextState :=
  (wire (watched.state.context child)).flushedBy (watched.state.surroundings.lastWrite child) event

/-- What happens to the context, and what it waits for afterwards. -/
def next (child : ChildId) (watched : Watched) (event : ContextEvent) : Watched :=
  let line := wire (watched.state.context child)
  { state := (event.program child watched.state).state
    outstanding :=
      match event with
      | .receive reply =>
          if line.heard && isAnswer reply then watched.outstanding - 1 else watched.outstanding
      | event => (watched.flushedBy child event).foldl line.waitingAfter watched.outstanding }

/-- What the timer and the refusal of commands owe to the owner at one event. -/
structure Guarded (child : ChildId) (watched : Watched) (event : ContextEvent) : Prop where
  timer : (wire ((watched.next child event).state.context child)).TimerRight
    (watched.next child event).outstanding
  refuses : ∀ state, event.command = some state → state.interrupts = false →
    event.leftOut (watched.state.context child) = false → 0 < watched.outstanding →
    (event.program child watched.state).value = false ∧
      packets (event.program child watched.state).trace = []
  accepts : ∀ state, event.command = some state →
    (watched.state.context child).nextStates = [] → watched.outstanding = 0 →
    (watched.state.context child).writer ≠ .stopped →
    (event.program child watched.state).value = true

/-- The last command flushed is one for which a timer is registered, if any waits; an answer does
not come while another is outstanding, nor progress while none is; nothing is written to a
connection that was shut down while a reply is outstanding. -/
def Met (child : ChildId) (watched : Watched) (event : ContextEvent) : Prop :=
  let line := wire (watched.state.context child)
  match event with
  | .receive reply =>
      line.heard = true →
        (isAnswer reply = true → watched.outstanding ≤ 1) ∧
        (reply = .progress → (watched.state.context child).state = .endOfMessage →
          line.quitted = false → watched.outstanding = 0 → line.nextStates ≠ [])
  | .quit | .abort => line.writer = .stopped → watched.outstanding = 0
  | event =>
      (watched.next child event).outstanding ≠ 0 →
        (watched.flushedBy child event).getLast?.all line.armsTimer = true

end Watched

namespace Wire

variable {line next : Wire} {outstanding : Nat}

theorem TimerRight.congr (h : line.TimerRight outstanding) (htimeout : next.timeout = line.timeout)
    (hstates : next.nextStates = line.nextStates) : next.TimerRight outstanding where
  waiting hwaiting := by
    rw [htimeout]
    exact h.waiting hwaiting
  idle hnone hzero := by
    rw [htimeout]
    exact h.idle (hstates ▸ hnone) hzero

/-- Without a timer nothing is outstanding. -/
theorem TimerRight.outstanding_eq_zero (h : line.TimerRight outstanding)
    (htimeout : line.timeout = none) : outstanding = 0 := by
  by_contra hne
  have hwaiting := h.waiting (by omega)
  rw [htimeout] at hwaiting
  simp at hwaiting

theorem TimerRight.afterWrite (h : line.TimerRight outstanding) {state : ContextState}
    (hstopped : state.interrupts = true → line.writer = .stopped → outstanding = 0) :
    (line.afterWrite state).TimerRight outstanding := by
  unfold Wire.afterWrite
  by_cases hinterrupts : state.interrupts = true
  · simp only [hinterrupts, Bool.not_true, Bool.false_and, Bool.false_eq_true, if_false, if_true]
    by_cases hwriter : line.writer = .stopped
    · rw [if_pos hwriter]
      have hzero := hstopped hinterrupts hwriter
      exact ⟨fun hwaiting => by omega, fun _ _ => rfl⟩
    · rw [if_neg hwriter]
      exact ⟨h.waiting, fun hnone => absurd hnone (by simp)⟩
  · simp only [hinterrupts, Bool.not_false, Bool.true_and]
    cases htimeout : line.timeout with
    | some timeout =>
        rw [Option.isSome_some, if_pos rfl]
        exact h
    | none =>
        have hzero := h.outstanding_eq_zero htimeout
        rw [Option.isSome_none, if_neg Bool.false_ne_true]
        by_cases hwriter : line.writer = .stopped
        · rw [if_pos hwriter]
          exact ⟨fun hwaiting => by omega, fun _ _ => rfl⟩
        · rw [if_neg hwriter]
          exact ⟨fun hwaiting => by omega, fun hnone => absurd hnone (by simp)⟩

theorem afterFlush_timeout (line : Wire) :
    line.afterFlush.timeout = (line.afterWrite .body).timeout := by
  unfold Wire.afterFlush
  by_cases hwrites : line.writes .body = true
  · simp only [hwrites, if_true]
  · simp only [hwrites, if_false, Bool.false_eq_true]

theorem afterFlush_nextStates (line : Wire) :
    line.afterFlush.nextStates = (line.afterWrite .body).nextStates := by
  unfold Wire.afterFlush
  by_cases hwrites : line.writes .body = true
  · simp only [hwrites, if_true]
  · simp only [hwrites, if_false, Bool.false_eq_true]

theorem TimerRight.afterFlush (h : line.TimerRight outstanding) :
    line.afterFlush.TimerRight outstanding := by
  have hbody : ContextState.body.interrupts = true → line.writer = .stopped → outstanding = 0 :=
    fun h => absurd h (by decide)
  exact (h.afterWrite hbody).congr (afterFlush_timeout line) (afterFlush_nextStates line)

/-- Writing keeps the option. -/
theorem afterWrite_option (line : Wire) (state : ContextState) :
    (line.afterWrite state).option = line.option := by
  unfold Wire.afterWrite
  split
  · rfl
  · split
    · rfl
    · rfl

theorem afterFlush_option (line : Wire) : line.afterFlush.option = line.option := by
  unfold Wire.afterFlush
  by_cases hwrites : line.writes .body = true
  · simp only [hwrites, if_true, afterWrite_option]
  · simp only [hwrites, if_false, Bool.false_eq_true, afterWrite_option]

theorem needReply_congr (h : next.option = line.option) (state : ContextState) :
    next.needReply state = line.needReply state := by
  rw [Wire.needReply, Wire.needReply, h]

/-- What waits to be flushed are parts of a body that wait for no reply. -/
def Trails (line : Wire) : Prop :=
  ∀ state ∈ line.nextStates, state = .body ∧ line.needReply .body = false

/-- A shutdown keeps the option and a body that waits for its replies, and starts no timer for what
waits for none. -/
structure Gentle (shutdown : Wire → Wire) : Prop where
  option : ∀ line, (shutdown line).option = line.option
  body : ∀ line, line.needReply .body = true → (shutdown line).body = line.body
  trails : ∀ line, line.Trails → (shutdown line).Trails
  timeout : ∀ line, line.Trails → line.timeout = none → (shutdown line).timeout = none

theorem gentle_id : Gentle id :=
  ⟨fun _ => rfl, fun _ _ => rfl, fun _ h => h, fun _ _ h => h⟩

section States

variable {shutdown : Wire → Wire} (hshutdown : Gentle shutdown)

include hshutdown

theorem afterNextState_option (line : Wire) (state : ContextState) :
    (line.afterNextState shutdown state).option = line.option := by
  cases state with
  | body =>
      simp only [Wire.afterNextState]
      split
      · rfl
      · split
        · exact afterFlush_option _
        · rfl
  | quit => exact hshutdown.option _
  | _ => rfl

/-- A body that waits for its replies is not flushed by another one. -/
theorem afterNextState_body (hneed : line.needReply .body = true) (state : ContextState) :
    (line.afterNextState shutdown state).body = line.body := by
  cases state with
  | body =>
      simp only [Wire.afterNextState, hneed, Bool.not_true, Bool.false_eq_true, if_false]
      split
      · rfl
      · rfl
  | quit => exact hshutdown.body _ hneed
  | _ => rfl

theorem foldl_afterNextState_option (states : List ContextState) :
    (states.foldl (Wire.afterNextState shutdown) line).option = line.option := by
  induction states generalizing line with
  | nil => rfl
  | cons state states ih => rw [List.foldl_cons, ih, afterNextState_option hshutdown]

theorem foldl_afterNextState_body (hneed : line.needReply .body = true)
    (states : List ContextState) :
    (states.foldl (Wire.afterNextState shutdown) line).body = line.body := by
  induction states generalizing line with
  | nil => rfl
  | cons state states ih =>
      have hstep : (line.afterNextState shutdown state).needReply .body = true := by
        rw [needReply_congr (afterNextState_option hshutdown line state), hneed]
      rw [List.foldl_cons, ih hstep, afterNextState_body hshutdown hneed]

/-- Only a body that waits for no reply is written when a state is flushed. -/
theorem Trails.afterNextState (h : line.Trails) (state : ContextState) :
    (line.afterNextState shutdown state).Trails := by
  cases state with
  | body =>
      by_cases hempty : line.body = []
      · simp only [Wire.afterNextState, hempty, if_true]
        exact h
      by_cases hneed : line.needReply .body = true
      · simp only [Wire.afterNextState, hempty, hneed, if_false, Bool.not_true, Bool.false_eq_true]
        exact h
      · have hafter : line.afterNextState shutdown .body =
            ({ line with timeout := none } : Wire).afterFlush := by
          simp [Wire.afterNextState, hempty, hneed]
        have hreply : (line.afterNextState shutdown .body).needReply .body = false := by
          rw [needReply_congr (afterNextState_option hshutdown line .body)]
          simpa using hneed
        intro state hmem
        refine ⟨?_, hreply⟩
        rw [hafter, afterFlush_nextStates] at hmem
        by_cases hwriter : line.writer = .stopped
        · exact (h state (by simpa [Wire.afterWrite, hwriter] using hmem)).1
        · have hmem : state ∈ line.nextStates ∨ state = .body := by
            simpa [Wire.afterWrite, hwriter, ContextState.interrupts] using hmem
          exact hmem.elim (fun hold => (h state hold).1) id
  | quit => exact hshutdown.trails _ h
  | _ => exact h

theorem Trails.foldl (h : line.Trails) (states : List ContextState) :
    (states.foldl (Wire.afterNextState shutdown) line).Trails := by
  induction states generalizing line with
  | nil => exact h
  | cons state states ih => exact ih (h.afterNextState hshutdown state)

end States

/-- What registers a timer does so. -/
theorem timeout_of_armsTimer {shutdown : Wire → Wire} {state : ContextState}
    (h : line.armsTimer state = true) :
    (line.afterNextState shutdown state).timeout = some .reading ∨
      (line.afterNextState shutdown state).timeout = some .endOfMessage := by
  simp only [Wire.armsTimer, Wire.awaits, Bool.and_eq_true, Bool.or_eq_true,
    decide_eq_true_eq] at h
  obtain ⟨⟨⟨hinvalid, hinterrupts⟩, hneed⟩, hbody⟩ := h
  cases state with
  | invalid => exact absurd rfl hinvalid
  | endOfMessage => exact .inr rfl
  | body =>
      have hnonempty : line.body ≠ [] := hbody.resolve_left fun h => h rfl
      left
      simp [Wire.afterNextState, hnonempty, hneed]
  | quit => exact absurd hinterrupts (by decide)
  | abort => exact absurd hinterrupts (by decide)
  | _ =>
      left
      simp [Wire.afterNextState, hneed]

/-- What waits for no reply leaves no timer, unless it writes more of a body. -/
theorem timeout_of_not_awaits {shutdown : Wire → Wire} (hshutdown : Gentle shutdown)
    (htrails : line.Trails) {state : ContextState} (hinvalid : state ≠ .invalid)
    (h : line.awaits state = false)
    (hstates : (line.afterNextState shutdown state).nextStates = []) :
    (line.afterNextState shutdown state).timeout = none := by
  cases state with
  | invalid => exact absurd rfl hinvalid
  | quit => exact hshutdown.timeout { line with timeout := none } htrails rfl
  | abort => rfl
  | endOfMessage =>
      have hneed : line.needReply .endOfMessage = true := by
        unfold Wire.needReply
        cases line.option with
        | none => rfl
        | some option => simp [Context.noReplyFlag]
      exact absurd (hneed.symm.trans h) (by decide)
  | body =>
      have hneed : line.needReply .body = false := h
      by_cases hempty : line.body = []
      · simp [Wire.afterNextState, hempty]
      · have hafter : line.afterNextState shutdown .body =
            ({ line with timeout := none } : Wire).afterFlush := by
          simp [Wire.afterNextState, hempty, hneed]
        rw [hafter, afterFlush_nextStates] at hstates
        rw [hafter, afterFlush_timeout]
        unfold Wire.afterWrite at hstates ⊢
        by_cases hwriter : line.writer = .stopped
        · simp [hwriter, ContextState.interrupts]
        · simp [hwriter, ContextState.interrupts] at hstates
  | _ =>
      have hneed : line.needReply _ = false := h
      simp [Wire.afterNextState, hneed]

/-- Going through the states of a flush keeps timer and count in step when the last command
registers a timer if any waits. -/
theorem TimerRight.foldl {shutdown : Wire → Wire} (hshutdown : Gentle shutdown)
    (htrails : line.Trails) (states : List ContextState) (hne : states ≠ [])
    (hinvalid : .invalid ∉ states)
    (hmet : states.foldl line.waitingAfter outstanding ≠ 0 →
      states.getLast?.all line.armsTimer = true) :
    (states.foldl (Wire.afterNextState shutdown) line).TimerRight
      (states.foldl line.waitingAfter outstanding) := by
  obtain ⟨front, last, rfl⟩ := List.eq_nil_or_concat states |>.resolve_left hne
  rw [List.concat_eq_append] at hinvalid hmet ⊢
  rw [List.getLast?_concat, Option.all_some] at hmet
  rw [List.foldl_append, List.foldl_cons, List.foldl_nil] at hmet ⊢
  rw [List.foldl_append, List.foldl_cons, List.foldl_nil]
  let before := front.foldl (Wire.afterNextState shutdown) line
  have hneed : ∀ state, before.needReply state = line.needReply state :=
    needReply_congr (foldl_afterNextState_option hshutdown front)
  have hawaits : before.awaits last = line.awaits last := by
    rw [Wire.awaits, Wire.awaits, hneed]
  refine ⟨fun hwaiting => ?_, fun hstates hzero => ?_⟩
  · have harms : before.armsTimer last = true := by
      have h := hmet (by omega)
      rw [Wire.armsTimer, Bool.and_eq_true] at h ⊢
      refine ⟨hawaits.trans h.1, ?_⟩
      by_cases hbody : last = .body
      · subst hbody
        have hreply : line.needReply .body = true := h.1
        have hkept : before.body = line.body := foldl_afterNextState_body hshutdown hreply front
        rw [hkept]
        exact h.2
      · simp [hbody]
    rcases timeout_of_armsTimer harms with h | h
    · exact .inl h
    · exact .inr (.inl h)
  · apply timeout_of_not_awaits hshutdown (htrails.foldl hshutdown front) _ _ hstates
    · exact fun h => hinvalid (by simp [h])
    · rw [hawaits]
      by_contra h
      rw [Bool.not_eq_false] at h
      have hinterrupts : last.interrupts = false := by
        simp only [Wire.awaits, Bool.and_eq_true] at h
        simpa using h.1.2
      rw [Wire.waitingAfter, hinterrupts, if_neg Bool.false_ne_true, if_pos h] at hzero
      omega

/-- What waits for no reply starts no timer at the end of the connection. -/
theorem foldl_afterNextState_timeout (states : List ContextState) (htimeout : line.timeout = none)
    (hwriter : line.writer = .stopped)
    (hstates : ∀ state ∈ states, state = .body ∧ line.needReply .body = false) :
    (states.foldl (Wire.afterNextState id) line).timeout = none := by
  induction states generalizing line with
  | nil => exact htimeout
  | cons state states ih =>
      obtain ⟨rfl, hneed⟩ := hstates state List.mem_cons_self
      have hoption := afterNextState_option gentle_id line .body
      apply ih
      · by_cases hempty : line.body = []
        · simp [Wire.afterNextState, hempty]
        · simp [Wire.afterNextState, hempty, hneed, afterFlush_timeout, Wire.afterWrite, hwriter]
      · exact line.afterNextState_stopped .body hwriter
      · intro state hmem
        rw [needReply_congr hoption]
        exact hstates state (List.mem_cons_of_mem _ hmem)

theorem gentle_afterShutdown (last : LastWrite) : Gentle (Wire.afterShutdown last) where
  option line := by
    unfold Wire.afterShutdown Wire.afterWriterShutdown
    split
    · split
      · exact foldl_afterNextState_option gentle_id _
      · rfl
    · rfl
  body line hneed := by
    unfold Wire.afterShutdown Wire.afterWriterShutdown
    split
    · split
      · exact @foldl_afterNextState_body
          { line with finished := true, writer := .stopped, nextStates := [] } id gentle_id hneed _
      · rfl
    · rfl
  trails line h := by
    unfold Wire.afterShutdown Wire.afterWriterShutdown
    split
    · split
      · exact Trails.foldl gentle_id (fun _ hmem => absurd hmem List.not_mem_nil) _
      · exact h
    · exact h
  timeout line h htimeout := by
    unfold Wire.afterShutdown Wire.afterWriterShutdown
    split
    · split
      · exact foldl_afterNextState_timeout _ htimeout rfl h
      · exact htimeout
    · exact htimeout

theorem afterReply_of_final (line : Wire) (state : ContextState) :
    ∃ mid : Wire, mid.timeout = none ∧ mid.nextStates = line.nextStates ∧
      (line.afterReply state .accept = mid ∨ line.afterReply state .accept = mid.afterFlush) := by
  by_cases hbody : state = .body ∧ (!line.quitted) = true
  · refine ⟨{ line with timeout := none, bodyResponseQueue := [] }, rfl, rfl, .inl ?_⟩
    simp only [Wire.afterReply, hbody, and_self, if_true]
  · refine ⟨{ line with timeout := none }, rfl, rfl, .inl ?_⟩
    simp only [Wire.afterReply, hbody, if_false]

/-- A reply that ends a wait stops the timer; only a body goes on behind it. -/
theorem afterReply_of_answers (line : Wire) (state : ContextState) {reply : Reply}
    (h : isAnswer reply = true) :
    ∃ mid : Wire, mid.timeout = none ∧ mid.nextStates = line.nextStates ∧
      (line.afterReply state reply = mid ∨ line.afterReply state reply = mid.afterFlush) := by
  cases reply with
  | negotiateReply option =>
      refine ⟨_, ?_, ?_, .inl rfl⟩
      · simp only [Wire.afterReply]
        split
        · rfl
        · rfl
      · simp only [Wire.afterReply]
        split
        · rfl
        · rfl
  | «continue» =>
      obtain ⟨queue, hqueue⟩ := ({ line with timeout := none } : Wire).afterDecrement_queue
      by_cases hbody : state = .body ∧ (!line.quitted) = true
      · refine ⟨({ line with timeout := none } : Wire).afterDecrement, ?_, ?_, ?_⟩
        · rw [hqueue]
        · rw [hqueue]
        · by_cases hempty : line.body = []
          · left
            simp only [Wire.afterReply, hbody, and_self, if_true, hempty]
          · right
            simp only [Wire.afterReply, hbody, and_self, if_true, hempty, if_false]
      · refine ⟨{ line with timeout := none }, rfl, rfl, .inl ?_⟩
        simp only [Wire.afterReply, hbody, if_false]
  | connectionFailure => exact ⟨{ line with timeout := none }, rfl, rfl, .inl rfl⟩
  | shutdown => exact ⟨{ line with timeout := none }, rfl, rfl, .inl rfl⟩
  | replyCode code extendedCode message => exact afterReply_of_final line state
  | temporaryFailure => exact afterReply_of_final line state
  | reject => exact afterReply_of_final line state
  | accept => exact afterReply_of_final line state
  | discard => exact afterReply_of_final line state
  | skip => exact afterReply_of_final line state
  | _ => exact absurd h Bool.false_ne_true

theorem TimerRight.afterReply (h : line.TimerRight outstanding) (state : ContextState)
    (reply : Reply) (hanswer : isAnswer reply = true → outstanding ≤ 1)
    (hprogress : reply = .progress → state = .endOfMessage → line.quitted = false →
      outstanding = 0 → line.nextStates ≠ []) :
    (line.afterReply state reply).TimerRight
      (if isAnswer reply then outstanding - 1 else outstanding) := by
  by_cases hanswers : isAnswer reply = true
  · have hzero : outstanding - 1 = 0 := by have := hanswer hanswers; omega
    rw [if_pos hanswers, hzero]
    obtain ⟨mid, htimeout, -, hafter⟩ := line.afterReply_of_answers state hanswers
    have hmid : mid.TimerRight 0 := ⟨fun hwaiting => by omega, fun _ _ => htimeout⟩
    rcases hafter with hafter | hafter
    · rw [hafter]
      exact hmid
    · rw [hafter]
      exact hmid.afterFlush
  · rw [if_neg hanswers]
    cases reply with
    | progress =>
        simp only [Wire.afterReply]
        by_cases hstate : state = .endOfMessage ∧ (!line.quitted) = true
        · rw [if_pos hstate]
          have hquitted : line.quitted = false := by simpa using hstate.2
          exact ⟨fun _ => .inr (.inl rfl),
            fun hnone hzero => absurd hnone (hprogress rfl hstate.1 hquitted hzero)⟩
        · rw [if_neg hstate]
          exact h
    | negotiateReply option => exact absurd rfl hanswers
    | «continue» => exact absurd rfl hanswers
    | replyCode code extendedCode message => exact absurd rfl hanswers
    | temporaryFailure => exact absurd rfl hanswers
    | reject => exact absurd rfl hanswers
    | accept => exact absurd rfl hanswers
    | discard => exact absurd rfl hanswers
    | connectionFailure => exact absurd rfl hanswers
    | shutdown => exact absurd rfl hanswers
    | skip => exact absurd rfl hanswers
    | _ => exact h

/-- A timer that expires while a reply is outstanding stays the timer of that reply. -/
theorem TimerRight.expired (h : line.TimerRight outstanding) {timeout : Timeout}
    (htimeout : line.timeout = some timeout) :
    ({ line with timeout := some .expired } : Wire).TimerRight outstanding where
  waiting _ := .inr (.inr rfl)
  idle hnone hzero := absurd ((h.idle hnone hzero).symm.trans htimeout) (by simp)

/-- What is flushed at the end of the connection is waited for as what is flushed before. -/
theorem TimerRight.afterShutdown {last : LastWrite} (h : line.TimerRight outstanding)
    (hinvalid : .invalid ∉ line.nextStates)
    (hmet : line.writer = .started → last.flushes = true →
      line.nextStates.foldl line.waitingAfter outstanding ≠ 0 →
        line.nextStates.getLast?.all line.armsTimer = true) :
    (line.afterShutdown last).TimerRight
      (if line.writer = .started ∧ last.flushes then
        line.nextStates.foldl line.waitingAfter outstanding
      else outstanding) := by
  unfold Wire.afterShutdown Wire.afterWriterShutdown
  by_cases hwriter : line.writer = .started
  · rw [if_pos hwriter]
    by_cases hflushes : last.flushes = true
    · rw [if_pos hflushes, if_pos ⟨hwriter, hflushes⟩]
      by_cases hstates : line.nextStates = []
      · rw [Wire.afterNextStates, hstates]
        exact h.congr rfl hstates.symm
      · refine @TimerRight.foldl
          { line with finished := true, writer := .stopped, nextStates := [] }
          outstanding id gentle_id ?_ line.nextStates hstates hinvalid (hmet hwriter hflushes)
        exact fun _ hmem => absurd hmem List.not_mem_nil
    · rw [if_neg hflushes, if_neg fun h => hflushes h.2]
      exact h.congr rfl rfl
  · rw [if_neg hwriter, if_neg fun h => hwriter h.1]
    exact h.congr rfl rfl

/-- Only states of commands are waiting for the flush. -/
def Named (line : Wire) : Prop := .invalid ∉ line.nextStates

theorem Named.congr (h : line.Named) (hstates : next.nextStates = line.nextStates) :
    next.Named := by
  rw [Named, hstates]
  exact h

theorem Named.afterWrite (h : line.Named) {state : ContextState} (hstate : state ≠ .invalid) :
    (line.afterWrite state).Named := by
  unfold Wire.afterWrite
  split
  · exact h
  · split
    · exact h
    · simp only [Named, List.mem_append, List.mem_singleton, not_or]
      exact ⟨h, hstate.symm⟩

theorem Named.afterFlush (h : line.Named) : line.afterFlush.Named :=
  (h.afterWrite (by decide : ContextState.body ≠ .invalid)).congr (afterFlush_nextStates line)

/-- What a shutdown leaves waiting for the flush are states of commands. -/
theorem Named.afterNextState {shutdown : Wire → Wire}
    (hshutdown : ∀ line : Wire, line.Named → (shutdown line).Named) (h : line.Named)
    (state : ContextState) : (line.afterNextState shutdown state).Named := by
  cases state with
  | quit => exact hshutdown _ h
  | body =>
      simp only [Wire.afterNextState]
      split
      · exact h
      · split
        · exact Named.afterFlush h
        · exact h
  | _ => exact h

theorem Named.foldl {shutdown : Wire → Wire}
    (hshutdown : ∀ line : Wire, line.Named → (shutdown line).Named) (h : line.Named)
    (states : List ContextState) :
    (states.foldl (Wire.afterNextState shutdown) line).Named := by
  induction states generalizing line with
  | nil => exact h
  | cons state states ih => exact ih (h.afterNextState hshutdown state)

theorem Named.afterShutdown (h : line.Named) (last : LastWrite) :
    (line.afterShutdown last).Named := by
  unfold Wire.afterShutdown Wire.afterWriterShutdown
  split
  · split
    · exact @Named.foldl { line with finished := true, writer := .stopped, nextStates := [] } id
        (fun _ h => h) List.not_mem_nil _
    · exact h
  · exact h

theorem Named.afterReply (h : line.Named) (state : ContextState) (reply : Reply) :
    (line.afterReply state reply).Named := by
  by_cases hanswers : isAnswer reply = true
  · obtain ⟨mid, -, hstates, hafter⟩ := line.afterReply_of_answers state hanswers
    have hmid : mid.Named := h.congr hstates
    rcases hafter with hafter | hafter
    · rw [hafter]
      exact hmid
    · rw [hafter]
      exact hmid.afterFlush
  · cases reply with
    | progress =>
        simp only [Wire.afterReply]
        split
        · exact h
        · exact h
    | negotiateReply option => exact absurd rfl hanswers
    | «continue» => exact absurd rfl hanswers
    | replyCode code extendedCode message => exact absurd rfl hanswers
    | temporaryFailure => exact absurd rfl hanswers
    | reject => exact absurd rfl hanswers
    | accept => exact absurd rfl hanswers
    | discard => exact absurd rfl hanswers
    | connectionFailure => exact absurd rfl hanswers
    | shutdown => exact absurd rfl hanswers
    | skip => exact absurd rfl hanswers
    | _ => exact h

end Wire

namespace Watched

variable {child : ChildId} {watched : Watched}

/-- The invariant of a run. -/
def Invariant (child : ChildId) (watched : Watched) : Prop :=
  (wire (watched.state.context child)).TimerRight watched.outstanding ∧
    (wire (watched.state.context child)).Named

/-- A command keeps the invariant. -/
theorem command_keeps {event : ContextEvent} {state : ContextState} (h : Invariant child watched)
    (hcommand : event.command = some state)
    (hstopped : state.interrupts = true →
      (watched.state.context child).writer = .stopped → watched.outstanding = 0) :
    (wire ((event.program child watched.state).state.context child)).TimerRight
        watched.outstanding ∧
      (wire ((event.program child watched.state).state.context child)).Named := by
  by_cases hbody : state = .body
  · subst hbody
    obtain ⟨chunk, rfl⟩ := ContextEvent.eq_body_of_command hcommand
    obtain ⟨hleft, hwritten⟩ := serverBody_apply child watched.state chunk
    cases hout : (ContextEvent.body chunk).leftOut (watched.state.context child) with
    | true =>
        have hwire := (hleft hout).2.1
        rw [ContextEvent.program, hwire]
        exact h
    | false =>
        have hwire := (hwritten hout).2.1
        rw [ContextEvent.program, hwire]
        exact ⟨Wire.TimerRight.afterFlush (h.1.congr rfl rfl),
          Wire.Named.afterFlush (h.2.congr rfl)⟩
  · have hends := ends_program child watched.state hcommand hbody
    cases hout : event.leftOut (watched.state.context child) with
    | true =>
        rw [(hends.of_leftOut hout).2.1]
        exact h
    | false =>
        rw [(hends.of_written hout).2.1]
        refine ⟨?_, ?_⟩
        · apply Wire.TimerRight.afterWrite
          · exact h.1.congr (ContextEvent.prepare_timeout _ event)
              (ContextEvent.prepare_nextStates _ event)
          · intro hinterrupts hwriter
            rw [ContextEvent.prepare_writer] at hwriter
            exact hstopped hinterrupts hwriter
        · apply Wire.Named.afterWrite
          · exact h.2.congr (ContextEvent.prepare_nextStates _ event)
          · exact ContextEvent.command_ne_invalid hcommand

/-- What is flushed while the connection is up. -/
theorem flushed_keeps (h : Invariant child watched) (hmet : Met child watched .flushed) :
    Invariant child (watched.next child .flushed) := by
  let line := wire (watched.state.context child)
  let last := watched.state.surroundings.lastWrite child
  have hwire : wire ((watched.next child .flushed).state.context child) = line.afterFlushed last :=
    (flushed_apply child watched.state).1
  by_cases hstarted : line.writer = .started
  · have hflushes : watched.flushedBy child .flushed = line.nextStates :=
      if_pos (decide_eq_true hstarted)
    have hcount : (watched.next child .flushed).outstanding =
        line.nextStates.foldl line.waitingAfter watched.outstanding := by
      rw [← hflushes]
      rfl
    have hmet' : (watched.next child .flushed).outstanding ≠ 0 →
        line.nextStates.getLast?.all line.armsTimer = true := by
      rw [← hflushes]
      exact hmet
    rw [hcount] at hmet'
    rw [Invariant, hcount, hwire, Wire.afterFlushed, if_pos hstarted]
    refine ⟨?_, @Wire.Named.foldl { line with nextStates := [] } _
      (fun _ h => Wire.Named.afterShutdown h last) List.not_mem_nil line.nextStates⟩
    by_cases hstates : line.nextStates = []
    · rw [Wire.afterNextStates, hstates]
      exact h.1.congr rfl hstates.symm
    · refine Wire.TimerRight.foldl (Wire.gentle_afterShutdown last) ?_ line.nextStates hstates h.2
        hmet'
      exact fun _ hmem => absurd hmem List.not_mem_nil
  · have hflushes : watched.flushedBy child .flushed = [] :=
      if_neg fun h => hstarted (of_decide_eq_true h)
    have hcount : (watched.next child .flushed).outstanding = watched.outstanding := by
      show (watched.flushedBy child .flushed).foldl _ _ = _
      rw [hflushes]
      rfl
    rw [Invariant, hcount, hwire, Wire.afterFlushed, if_neg hstarted]
    exact h

/-- What is flushed when the connection is shut down, whatever became of the timer before. -/
theorem shutdown_keeps {line : Wire} {outstanding : Nat} {states : List ContextState}
    (hright : line.TimerRight outstanding) (hnamed : line.Named) (last : LastWrite)
    (hflushes : states =
      if line.writer = .started ∧ last.flushes then line.nextStates else [])
    (hmet : states.foldl line.waitingAfter outstanding ≠ 0 →
      states.getLast?.all line.armsTimer = true) :
    (line.afterShutdown last).TimerRight (states.foldl line.waitingAfter outstanding) ∧
      (line.afterShutdown last).Named := by
  refine ⟨?_, hnamed.afterShutdown last⟩
  subst hflushes
  have hshutdown := @Wire.TimerRight.afterShutdown line outstanding last hright hnamed
  by_cases hdoes : line.writer = .started ∧ last.flushes = true
  · rw [if_pos hdoes] at hmet hshutdown ⊢
    exact hshutdown fun _ _ => hmet
  · rw [if_neg hdoes] at hshutdown ⊢
    exact hshutdown fun hwriter hflushes => absurd ⟨hwriter, hflushes⟩ hdoes

theorem hangUp_keeps (h : Invariant child watched) (hmet : Met child watched .hangUp) :
    Invariant child (watched.next child .hangUp) := by
  let line := wire (watched.state.context child)
  let last := watched.state.surroundings.lastWrite child
  have hwire : wire ((watched.next child .hangUp).state.context child) = line.afterHangUp last :=
    (hangUp_apply child watched.state).1
  rw [Invariant, hwire, Wire.afterHangUp]
  by_cases hup : line.writer ≠ .absent ∧ (!line.finished) = true
  · have hheard : line.heard = true := by simpa [Wire.heard] using hup
    rw [if_pos hup]
    refine shutdown_keeps h.1 h.2 last (Wire.flushedBy_of_shutdown ?_) hmet
    show (line.heard && _ && _) = _
    rw [hheard, Bool.true_and]
  · have hheard : line.heard = false := by simpa [Wire.heard] using hup
    have hflushes : watched.flushedBy child .hangUp = [] := by
      show (if (line.heard && _ && _) = true then _ else _) = _
      rw [hheard, Bool.false_and, Bool.false_and, if_neg Bool.false_ne_true]
    have hcount : (watched.next child .hangUp).outstanding = watched.outstanding := by
      show (watched.flushedBy child .hangUp).foldl _ _ = _
      rw [hflushes]
      rfl
    rw [if_neg hup, hcount]
    exact h

theorem expireTimeout_keeps (h : Invariant child watched)
    (hmet : Met child watched .expireTimeout) :
    Invariant child (watched.next child .expireTimeout) := by
  let line := wire (watched.state.context child)
  let last := watched.state.surroundings.lastWrite child
  have hwire : wire ((watched.next child .expireTimeout).state.context child) =
      line.afterTimeout last := (expireTimeout_apply child watched.state).1
  have hsame (hexpires : line.expires = false) :
      (watched.next child .expireTimeout).outstanding = watched.outstanding := by
    have hflushes : watched.flushedBy child .expireTimeout = [] := by
      show (if (line.expires && _ && _) = true then _ else _) = _
      rw [hexpires, Bool.false_and, Bool.false_and, if_neg Bool.false_ne_true]
    show (watched.flushedBy child .expireTimeout).foldl _ _ = _
    rw [hflushes]
    rfl
  have hshutdown {timeout : Timeout} (htimeout : line.timeout = some timeout)
      (hexpires : line.expires = true) :
      (({ line with timeout := some .expired } : Wire).afterShutdown last).TimerRight
          (watched.next child .expireTimeout).outstanding ∧
        (({ line with timeout := some .expired } : Wire).afterShutdown last).Named := by
    refine @shutdown_keeps { line with timeout := some .expired } _ (watched.flushedBy child _)
      (h.1.expired htimeout) h.2 last (Wire.flushedBy_of_shutdown ?_) hmet
    show (line.expires && _ && _) = _
    rw [hexpires, Bool.true_and]
  rw [Invariant, hwire, Wire.afterTimeout]
  cases htimeout : line.timeout with
  | none =>
      rw [hsame (by simp [Wire.expires, htimeout])]
      exact h
  | some timeout =>
      cases timeout with
      | expired =>
          rw [hsame (by simp [Wire.expires, htimeout])]
          exact h
      | connection =>
          rw [hsame (by simp [Wire.expires, htimeout])]
          exact ⟨h.1.expired htimeout, h.2⟩
      | _ => exact hshutdown htimeout (by simp [Wire.expires, htimeout])

/-- Every event that meets the condition keeps the invariant. -/
theorem next_keeps {event : ContextEvent} (h : Invariant child watched)
    (hmet : Met child watched event) : Invariant child (watched.next child event) := by
  cases event with
  | resetMessageRelatedData =>
      have hwire : wire ((watched.next child .resetMessageRelatedData).state.context child) =
          { wire (watched.state.context child) with
            bodyResponseQueue := []
            processBodyCount := 0
            sentEndOfMessage := false } := by
        simp [next, ContextEvent.program, ContextEvent.done, wire, Context.resetMessageRelatedData]
      rw [Invariant, hwire]
      exact ⟨h.1.congr rfl rfl, h.2.congr rfl⟩
  | flushed => exact flushed_keeps h hmet
  | receive reply =>
      have hwire := (receive_apply child watched.state reply).1
      let line := wire (watched.state.context child)
      change wire ((watched.next child (.receive reply)).state.context child) = _ at hwire
      rw [Invariant, hwire]
      by_cases hheard : line.heard = true
      · have hheard' : line.writer ≠ .absent ∧ (!line.finished) = true := by
          simpa [Wire.heard] using hheard
        have hcount : (watched.next child (.receive reply)).outstanding =
            if isAnswer reply then watched.outstanding - 1 else watched.outstanding := by
          show (if line.heard && isAnswer reply then _ else _) = _
          rw [hheard, Bool.true_and]
        obtain ⟨hanswer, hprogress⟩ := hmet hheard
        rw [if_pos hheard', hcount]
        exact ⟨h.1.afterReply _ reply hanswer hprogress, h.2.afterReply _ reply⟩
      · have hheard' : ¬(line.writer ≠ .absent ∧ (!line.finished) = true) := by
          simpa [Wire.heard] using hheard
        have hcount : (watched.next child (.receive reply)).outstanding = watched.outstanding := by
          show (if line.heard && isAnswer reply then _ else _) = _
          rw [Bool.not_eq_true] at hheard
          rw [hheard, Bool.false_and, if_neg Bool.false_ne_true]
        rw [if_neg hheard', hcount]
        exact h
  | hangUp => exact hangUp_keeps h hmet
  | failWriter =>
      have hwire := (failWriter_apply child watched.state).1
      change wire ((watched.next child .failWriter).state.context child) = _ at hwire
      rw [Invariant, hwire]
      exact ⟨h.1.congr rfl rfl, h.2.congr rfl⟩
  | failConnection =>
      have hwire : (watched.next child .failConnection).state = watched.state :=
        emitErrorOn_state child watched.state .other
      rw [Invariant, hwire]
      exact h
  | expireTimeout => exact expireTimeout_keeps h hmet
  | quit => exact command_keeps h rfl fun _ => hmet
  | abort => exact command_keeps h rfl fun _ => hmet
  | _ => exact command_keeps h rfl fun hinterrupts => absurd hinterrupts (by decide)

/-- How a command is answered: left out, or as `write_packet` isAnswer. -/
theorem value_of_command {event : ContextEvent} {state : ContextState}
    (hcommand : event.command = some state) (s : State) :
    (event.leftOut (s.context child) = true → (event.program child s).value = true) ∧
      (event.leftOut (s.context child) = false →
        (event.program child s).value = (wire (s.context child)).writes state ∧
        ((wire (s.context child)).writes state = false →
          packets (event.program child s).trace = [])) := by
  by_cases hbody : state = .body
  · subst hbody
    obtain ⟨chunk, rfl⟩ := ContextEvent.eq_body_of_command hcommand
    obtain ⟨hleft, hwritten⟩ := serverBody_apply child s chunk
    refine ⟨fun hout => (hleft hout).1, fun hout => ⟨(hwritten hout).1, fun hwrites => ?_⟩⟩
    rw [ContextEvent.program, (hwritten hout).2.2, if_neg (by simp [hwrites])]
  · have hends := ends_program child s hcommand hbody
    have hwrites : (event.prepare (wire (s.context child))).writes state =
        (wire (s.context child)).writes state := by
      rw [Wire.writes, Wire.writes, ContextEvent.prepare_timeout, ContextEvent.prepare_writer]
    refine ⟨fun hout => (hends.of_leftOut hout).1, fun hout => ?_⟩
    obtain ⟨hvalue, -, hpackets⟩ := hends.of_written hout
    rw [hwrites] at hvalue hpackets
    refine ⟨hvalue, fun hnot => ?_⟩
    rw [hpackets, if_neg (by simp [hnot])]

/-- The invariant gives the timer and the refusals that the owner is owed. -/
theorem guarded_of_invariant {event : ContextEvent} (h : Invariant child watched)
    (hmet : Met child watched event) : Guarded child watched event where
  timer := (next_keeps h hmet).1
  refuses state hcommand hinterrupts hout hwaiting := by
    obtain ⟨hvalue, hpackets⟩ := (value_of_command hcommand watched.state).2 hout
    have hsome : (wire (watched.state.context child)).timeout.isNone = false := by
      rcases h.1.waiting hwaiting with ht | ht | ht
      · rw [ht, Option.isNone_some]
      · rw [ht, Option.isNone_some]
      · rw [ht, Option.isNone_some]
    have hnot : (wire (watched.state.context child)).writes state = false := by
      rw [Wire.writes, hinterrupts, hsome, Bool.false_or, Bool.false_and]
    exact ⟨hvalue.trans hnot, hpackets hnot⟩
  accepts state hcommand hstates hzero hwriter := by
    obtain ⟨hleft, hwritten⟩ := value_of_command hcommand watched.state
    cases hout : event.leftOut (watched.state.context child) with
    | true => exact hleft hout
    | false =>
        have hnone : (wire (watched.state.context child)).timeout = none := h.1.idle hstates hzero
        have hworks : (wire (watched.state.context child)).writer ≠ .stopped := hwriter
        rw [(hwritten hout).1, Wire.writes, hnone]
        simp [hworks]

/-- A state with one context that has just connected. -/
def alone : State :=
  { State.init [] false .absent ⟨1, by decide⟩ .plain with
    context := fun _ => Connected .accept false false fun _ => false }

/-- A run up to the reply to a `helo`. -/
def heloRun : List ContextEvent :=
  [.negotiate ⟨6, 0#32, 0#32⟩, .flushed, .receive (.negotiateReply ⟨6, 0#32, 0#32⟩),
    .helo [97], .flushed, .data, .receive .continue]

/-- A run in which the only body of a message is flushed. -/
def bodyRun : List ContextEvent :=
  [.negotiate ⟨6, 0#32, 0#32⟩, .flushed, .receive (.negotiateReply ⟨6, 0#32, 0#32⟩),
    .body [97], .flushed]

end Watched

end MilterManager.Children
