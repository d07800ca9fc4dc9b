import MilterManager.Children.Recipients

/-!
# An abort and the message after it

Whether the packet of an abort has been flushed before the sender of the next message is given,
from `milter/server/milter-server-context.c:1303`, `:1845` and `:2299`.
-/

namespace MilterManager.Children

open MilterManager.Base MilterManager.Core MilterManager.Server

/-- What a list of events leaves, and the packets written on the way. -/
def runEvents (child : ChildId) : List ContextEvent → State → State × List Packet
  | [], s => (s, [])
  | event :: events, s =>
      let o := event.program child s
      let rest := runEvents child events o.state
      (rest.1, packets o.trace ++ rest.2)

/-- The abort is flushed before the sender of the next message is given. -/
def flushedBefore (sender : Bytes) : List ContextEvent :=
  [.abort, .flushed, .envelopeFrom sender, .flushed]

/-- The abort is flushed together with the sender of the next message. -/
def flushedAfter (sender : Bytes) : List ContextEvent :=
  [.abort, .envelopeFrom sender, .flushed]

/-- Both orders leave the same context and write the same, and the late flush leaves the result
of the new message alone. -/
structure FlushIndependent (child : ChildId) (sender : Bytes) (s : State) : Prop where
  context : (runEvents child (flushedBefore sender) s).1.context child =
    (runEvents child (flushedAfter sender) s).1.context child
  packets : (runEvents child (flushedBefore sender) s).2 =
    (runEvents child (flushedAfter sender) s).2
  result : ((runEvents child (flushedAfter sender) s).1.context child).messageResult =
    ((runEvents child [.abort, .envelopeFrom sender] s).1.context child).messageResult

section Message

variable (child : ChildId) (s : State)

theorem message_writePacket (packet : Packet) (nextState : ContextState) :
    message ((writePacket onlyListen child packet nextState s).state.context child) =
      message (s.context child) := by
  by_cases hinterrupts : nextState.interrupts = true
  · by_cases hstopped : (s.context child).writer = .stopped
    · simp [writePacket, writePacketNow, hinterrupts, hstopped, disableTimeout, message]
    · by_cases hstarted : (s.context child).writer = .started
      · simp [writePacket, writePacketNow, hinterrupts, hstarted, Proc.when, message]
      · simp [writePacket, writePacketNow, hinterrupts, hstopped, hstarted, Proc.when, message]
  · cases htimeout : (s.context child).timeout with
    | some timeout => simp [writePacket, hinterrupts, Context.isProcessing, htimeout]
    | none =>
        by_cases hstopped : (s.context child).writer = .stopped
        · simp [writePacket, writePacketNow, hinterrupts, Context.isProcessing, htimeout,
            hstopped, disableTimeout, registerTimeout, message]
        · by_cases hstarted : (s.context child).writer = .started
          · simp [writePacket, writePacketNow, hinterrupts, Context.isProcessing, htimeout,
              hstarted, Proc.when, registerTimeout, message]
          · simp [writePacket, writePacketNow, hinterrupts, Context.isProcessing, htimeout,
              hstopped, hstarted, Proc.when, registerTimeout, message]

theorem keeps_updateContext {P : Context → Prop} {f : Context → Context}
    (hf : ∀ context, P context → P (f context)) :
    Proc.Keeps (fun _ t => P (t.context child)) (updateContext child f) := by
  intro past t h
  show P ((updateContext child f t).state.context child)
  rw [updateContext_context]
  exact hf _ h

/-- A body that is flushed leaves the state and the result of the message. -/
theorem message_flushBody :
    message ((flushBody onlyListen child s).state.context child) = message (s.context child) := by
  let P : Context → Prop := fun context => message context = message (s.context child)
  have hkeeps : Proc.Keeps (fun _ t => P (t.context child)) (flushBody onlyListen child) := by
    apply Proc.Keeps.bind
    · exact keeps_updateContext child (P := P) fun _ h => h
    intro _
    apply Proc.Keeps.bind (keeps_contextOf child)
    intro context
    apply Proc.Keeps.bind
    · intro past t h
      exact (message_writePacket child t _ _).trans h
    intro written
    apply Proc.Keeps.ite
    · apply Proc.Keeps.bind
      · exact keeps_updateContext child (P := P) fun _ h => h
      intro _
      exact Proc.Keeps.pure _
    · exact Proc.Keeps.pure _
  exact hkeeps [] s rfl

section States

variable (shutdown : Program PUnit)

/-- What is flushed of a body or of a sender leaves the result of the message. -/
theorem processNextState_result {nextState : ContextState}
    (h : nextState = .body ∨ nextState = .envelopeFrom) :
    let c' := (processNextState shutdown onlyListen child nextState s).state.context child
    c'.messageResult = (s.context child).messageResult ∧ c'.state = nextState := by
  rcases h with rfl | rfl
  · let entered := (setContextState child .body (disableTimeout child s).state).state
    have hentered : message (entered.context child) =
        (.body, (s.context child).currentRecipient, (s.context child).messageResult) := by
      simp [entered, setContextState, disableTimeout, message]
    have hrun : processNextState shutdown onlyListen child .body s =
        processNextStateBody onlyListen child entered := by
      simp [processNextState, entered]
    have hbody : message ((processNextStateBody onlyListen child entered).state.context child) =
        message (entered.context child) := by
      rw [processNextStateBody, contextOf_bind]
      split
      · rfl
      · split
        · exact message_flushBody child entered
        · simp [registerTimeout, message]
    have hall := hbody.trans hentered
    rw [hrun]
    exact ⟨congrArg (·.2.2) hall, congrArg (·.1) hall⟩
  · by_cases hneed : (s.context child).needReply .envelopeFrom = true
    · have hneed' : ∀ timeout state processing, Context.needReply { s.context child with
          timeout := timeout, state := state, processingMessage := processing } .envelopeFrom =
          true := fun _ _ _ => hneed
      simp [processNextState, disableTimeout, setContextState, Proc.when, hneed', registerTimeout]
    · have hneed' : ∀ timeout state processing, Context.needReply { s.context child with
          timeout := timeout, state := state, processingMessage := processing } .envelopeFrom =
          false := fun _ _ _ => Bool.eq_false_iff.mpr hneed
      simp [processNextState, disableTimeout, setContextState, Proc.when, hneed']

theorem each_processNextState_result {nextStates : List ContextState}
    (hall : ∀ state ∈ nextStates, state = .body ∨ state = .envelopeFrom) :
    let c' :=
      (Proc.each (processNextState shutdown onlyListen child) nextStates s).state.context child
    c'.messageResult = (s.context child).messageResult ∧
      (c'.state = (s.context child).state ∨ c'.state = .body ∨ c'.state = .envelopeFrom) := by
  induction nextStates generalizing s with
  | nil => exact ⟨rfl, Or.inl rfl⟩
  | cons state nextStates ih =>
      have hfirst := hall state List.mem_cons_self
      obtain ⟨hresult, hstate⟩ := processNextState_result child s shutdown hfirst
      obtain ⟨hresults, hstates⟩ := ih (processNextState shutdown onlyListen child state s).state
        fun other hother => hall other (List.mem_cons_of_mem _ hother)
      rw [Proc.each_cons, Proc.bind_apply]
      refine ⟨hresults.trans hresult, ?_⟩
      rcases hstates with hsame | hother
      · rw [show _ = _ from hsame, hstate]
        exact Or.inr hfirst
      · exact Or.inr hother

/-- A flushed abort ends the message. -/
theorem processNextState_abort :
    let c' := (processNextState shutdown onlyListen child .abort s).state.context child
    c'.messageResult = none ∧ c'.state = .abort := by
  simp [processNextState, disableTimeout, setContextState, Context.resetMessageRelatedData,
    Context.emitMessageProcessedSignal]

end States

/-- A sender that a stop-on signal stops ends the message, any other has a result. -/
theorem serverEnvelopeFrom_result (sender : Bytes) :
    let c := s.context child
    let c' := (serverEnvelopeFrom onlyListen child sender s).state.context child
    (c.stopOn .envelopeFrom = true → c'.messageResult = none ∧ c'.state = .envelopeFrom) ∧
      (c.stopOn .envelopeFrom = false →
        c'.messageResult = some (c.messageResult.getD .empty)) := by
  intro c c'
  let ensured := (updateContext child Context.ensureMessageResult s).state
  have hensured : ensured.context child = c.ensureMessageResult := updateContext_context child s _
  have hrun : serverEnvelopeFrom onlyListen child sender s =
      askAndSend onlyListen child .envelopeFrom
        (fun context => { context with processingMessage := true }) .continue
        (·.isEnableStep StepFlags.noEnvelopeFrom)
        (writePacket onlyListen child (.envelopeFrom sender) .envelopeFrom) ensured := rfl
  constructor
  · intro hstop
    have hstop' : (ensured.context child).stopOn .envelopeFrom = true := by
      rw [hensured]
      exact hstop
    simp [c', hrun, askAndSend, stopOnState, setContextState, hstop', ContextState.inMessage,
      ContextState.toNat, Context.emitMessageProcessedSignal]
  · intro hstop
    have hstop' : (ensured.context child).stopOn .envelopeFrom = false := by
      rw [hensured]
      exact hstop
    have hresult : (ensured.context child).messageResult = some (c.messageResult.getD .empty) := by
      rw [hensured]
      rfl
    let prepared := (updateContext child
      (fun context => { context with processingMessage := true }) ensured).state
    have hprepared : prepared.context child =
        { ensured.context child with processingMessage := true } :=
      updateContext_context child ensured _
    have hask : serverEnvelopeFrom onlyListen child sender s =
        sendOrSkip onlyListen child .envelopeFrom .continue
          (·.isEnableStep StepFlags.noEnvelopeFrom)
          (writePacket onlyListen child (.envelopeFrom sender) .envelopeFrom) prepared := by
      rw [hrun]
      simp [askAndSend, hstop', prepared]
    have hsame : (prepared.context child).messageResult =
        (ensured.context child).messageResult := by
      rw [hprepared]
    rw [show c' = _ from congrArg (fun o => o.state.context child) hask, ← hresult, ← hsame]
    by_cases hskip : (prepared.context child).isEnableStep StepFlags.noEnvelopeFrom = true
    · simp [sendOrSkip, setContextState, hskip]
    · rw [sendOrSkip, contextOf_bind, if_neg hskip]
      exact congrArg (·.2.2) (message_writePacket child prepared _ _)

end Message

section Wires

variable {line : Wire}

theorem Wire.afterWrite_stopOn (line : Wire) (state : ContextState) :
    (line.afterWrite state).stopOn = line.stopOn ∧
      (line.afterWrite state).writer = line.writer := by
  unfold Wire.afterWrite
  split
  · exact ⟨rfl, rfl⟩
  · split
    · exact ⟨rfl, rfl⟩
    · exact ⟨rfl, rfl⟩

theorem Wire.afterFlush_stopOn (line : Wire) : line.afterFlush.stopOn = line.stopOn := by
  unfold Wire.afterFlush
  split
  · exact (line.afterWrite_stopOn .body).1
  · exact (line.afterWrite_stopOn .body).1

/-- A flush of a body asks for nothing but bodies to be flushed later. -/
theorem Wire.mem_afterFlush_nextStates (line : Wire) {state : ContextState}
    (h : state ∈ line.afterFlush.nextStates) : state ∈ line.nextStates ∨ state = .body := by
  rw [Wire.afterFlush_nextStates] at h
  unfold Wire.afterWrite at h
  split at h
  · exact Or.inl h
  · split at h
    · exact Or.inl h
    · rcases List.mem_append.mp h with hbefore | hnew
      · exact Or.inl hbefore
      · exact Or.inr (List.mem_singleton.mp hnew)

/-- What is left to be flushed was left before, or is of a body. -/
structure Wire.Drains (line after : Wire) : Prop where
  stopOn : after.stopOn = line.stopOn
  nextStates : ∀ state ∈ after.nextStates, state ∈ line.nextStates ∨ state = .body

section States

variable {shutdown : Wire → Wire} (hshutdown : ∀ line : Wire, line.Drains (shutdown line))

include hshutdown

theorem Wire.drains_afterNextState (line : Wire) (nextState : ContextState) :
    line.Drains (line.afterNextState shutdown nextState) := by
  cases nextState with
  | body =>
      simp only [Wire.afterNextState]
      split
      · exact ⟨rfl, fun _ h => Or.inl h⟩
      · split
        · let idle : Wire := { line with timeout := none }
          exact ⟨idle.afterFlush_stopOn, fun _ h => idle.mem_afterFlush_nextStates h⟩
        · exact ⟨rfl, fun _ h => Or.inl h⟩
  | quit => exact ⟨(hshutdown _).stopOn, (hshutdown _).nextStates⟩
  | _ => exact ⟨rfl, fun _ h => Or.inl h⟩

theorem Wire.drains_foldl (line : Wire) (nextStates : List ContextState) :
    line.Drains (nextStates.foldl (Wire.afterNextState shutdown) line) := by
  induction nextStates generalizing line with
  | nil => exact ⟨rfl, fun state h => Or.inl h⟩
  | cons nextState nextStates ih =>
      have hfirst := Wire.drains_afterNextState hshutdown line nextState
      have hrest := ih (line.afterNextState shutdown nextState)
      refine ⟨hrest.stopOn.trans hfirst.stopOn, ?_⟩
      intro state hstate
      rcases hrest.nextStates state hstate with hbefore | hbody
      · exact hfirst.nextStates state hbefore
      · exact Or.inr hbody

end States

/-- At the end of a connection what was left is gone through. -/
theorem Wire.drains_afterShutdown (last : LastWrite) (line : Wire) :
    line.Drains (line.afterShutdown last) := by
  unfold Wire.afterShutdown Wire.afterWriterShutdown
  split
  · split
    · have hid : ∀ line : Wire, line.Drains (id line) := fun _ => ⟨rfl, fun _ h => Or.inl h⟩
      let cleared : Wire := { line with finished := true, writer := .stopped, nextStates := [] }
      have hall := Wire.drains_foldl hid cleared line.nextStates
      refine ⟨hall.stopOn, ?_⟩
      intro state hstate
      exact Or.inr ((hall.nextStates state hstate).resolve_left List.not_mem_nil)
    · exact ⟨rfl, fun _ h => Or.inl h⟩
  · exact ⟨rfl, fun _ h => Or.inl h⟩

end Wires

section Schedules

variable {child : ChildId} {s : State}

/-- Without a connection nothing is flushed. -/
theorem flushed_of_not_started (h : (s.context child).writer ≠ .started) :
    (ContextEvent.flushed.program child s).state = s ∧
      packets (ContextEvent.flushed.program child s).trace = [] := by
  have hrun : flushed onlyListen child s = ⟨⟨⟩, s, []⟩ := by
    rw [flushed, contextOf_bind, if_neg h]
    rfl
  constructor
  · exact congrArg Outcome.state hrun
  · show packets (ContextEvent.done (flushed onlyListen child) s).trace = []
    rw [ContextEvent.done_trace, hrun]
    rfl

/-- An abort is written at once. -/
theorem abort_wire :
    wire ((ContextEvent.abort.program child s).state.context child) =
      (wire (s.context child)).afterWrite .abort :=
  ((@ends_program child s .abort .abort rfl (by decide)).of_written rfl).2.1

/-- What the sender of a message leaves of the connection. -/
theorem envelopeFrom_wire (sender : Bytes) :
    let line := wire (s.context child)
    let line' := wire (((ContextEvent.envelopeFrom sender).program child s).state.context child)
    line'.writer = line.writer ∧ line'.stopOn = line.stopOn ∧
      ∃ written, line'.nextStates = line.nextStates ++ written ∧
        (∀ state ∈ written, state = .envelopeFrom) ∧
        (line.stopOn .envelopeFrom = true → written = []) := by
  intro line line'
  have hends := @ends_program child s (.envelopeFrom sender) .envelopeFrom rfl (by decide)
  cases hout : (ContextEvent.envelopeFrom sender).leftOut (s.context child) with
  | true =>
      have hsame : line' = line := (hends.of_leftOut hout).2.1
      rw [hsame]
      exact ⟨rfl, rfl, [], (List.append_nil _).symm, fun _ h => absurd h List.not_mem_nil,
        fun _ => rfl⟩
  | false =>
      have hafter : line' = line.afterWrite .envelopeFrom := (hends.of_written hout).2.1
      have hgoes : line.stopOn .envelopeFrom = false := by
        simp only [ContextEvent.leftOut, Bool.or_eq_false_iff] at hout
        exact hout.1
      obtain ⟨hstop, hwriter⟩ := line.afterWrite_stopOn .envelopeFrom
      rw [hafter]
      refine ⟨hwriter, hstop, ?_⟩
      unfold Wire.afterWrite
      split
      · exact ⟨[], (List.append_nil _).symm, fun _ h => absurd h List.not_mem_nil, fun _ => rfl⟩
      · split
        · exact ⟨[], (List.append_nil _).symm, fun _ h => absurd h List.not_mem_nil, fun _ => rfl⟩
        · exact ⟨[.envelopeFrom], rfl, fun _ h => List.mem_singleton.mp h,
            fun h => absurd h (by rw [hgoes]; decide)⟩

/-- What was flushed up to an abort and after it. -/
theorem each_processNextState_abort (s : State) (shutdown : Program PUnit)
    (front : List ContextState) {back : List ContextState}
    (hback : ∀ state ∈ back, state = .envelopeFrom) :
    let c' := (Proc.each (processNextState shutdown onlyListen child) (front ++ .abort :: back)
      s).state.context child
    c'.messageResult = none ∧ (back = [] → c'.state = .abort) := by
  let before := (Proc.each (processNextState shutdown onlyListen child) front s).state
  let aborted := (processNextState shutdown onlyListen child .abort before).state
  obtain ⟨hnone, hstate⟩ := processNextState_abort child before shutdown
  have hrest := @each_processNextState_result child aborted shutdown back
    fun state h => Or.inr (hback state h)
  rw [Proc.each_append]
  refine ⟨hrest.1.trans hnone, ?_⟩
  intro hnil
  subst hnil
  exact hstate

/-- The flush of a connection that works. -/
theorem flushed_of_started (h : (s.context child).writer = .started) :
    ∃ emptied : State,
      emptied.context child = { s.context child with nextStates := [] } ∧
      (ContextEvent.flushed.program child s).state =
        (Proc.each (processNextState (agentShutdown onlyListen child) onlyListen child)
          (s.context child).nextStates emptied).state := by
  refine ⟨(updateContext child (fun context => { context with nextStates := [] }) s).state,
    updateContext_context child s _, ?_⟩
  show (flushed onlyListen child s).state = _
  rw [flushed, contextOf_bind, if_pos h]
  rfl

end Schedules

section Comparison

variable {child : ChildId} {s : State}

/-- An abort of a connection that works waits for its flush. -/
theorem abort_of_started (h : (s.context child).writer = .started) :
    let line := wire ((ContextEvent.abort.program child s).state.context child)
    line.writer = .started ∧ line.stopOn = (s.context child).stopOn ∧
      line.nextStates = (s.context child).nextStates ++ [.abort] := by
  intro line
  have hline : line = (wire (s.context child)).afterWrite .abort := abort_wire
  have hnot : (wire (s.context child)).writer ≠ .stopped := by
    rw [show (wire (s.context child)).writer = .started from h]
    decide
  obtain ⟨hstop, hwriter⟩ := (wire (s.context child)).afterWrite_stopOn .abort
  rw [hline]
  refine ⟨hwriter.trans h, hstop, ?_⟩
  rw [Wire.afterWrite, if_neg (by simp [ContextState.interrupts]), if_neg hnot]
  rfl

/-- What the late flush leaves: no result, whatever the new message was given. -/
theorem flushedAfter_result (sender : Bytes) (h : (s.context child).writer = .started) :
    let c' := (runEvents child (flushedAfter sender) s).1.context child
    c'.messageResult = none ∧
      ((s.context child).stopOn .envelopeFrom = true → c'.state = .abort) := by
  intro c'
  let aborted := (ContextEvent.abort.program child s).state
  let given := ((ContextEvent.envelopeFrom sender).program child aborted).state
  obtain ⟨hwriter, hstop, hstates⟩ := abort_of_started h
  obtain ⟨hwriter', -, written, hstates', hall, hnone⟩ :=
    @envelopeFrom_wire child aborted sender
  have hworks : (given.context child).writer = .started := hwriter'.trans hwriter
  obtain ⟨emptied, -, hrun⟩ := flushed_of_started hworks
  have hpending : (given.context child).nextStates =
      (s.context child).nextStates ++ .abort :: written := by
    have happend : (given.context child).nextStates = _ := hstates'
    rw [happend, hstates, List.append_assoc]
    rfl
  have hflush := @each_processNextState_abort child emptied (agentShutdown onlyListen child)
    (s.context child).nextStates written hall
  rw [← hpending] at hflush
  have hc' : c' = (Proc.each (processNextState (agentShutdown onlyListen child) onlyListen child)
      (given.context child).nextStates emptied).state.context child :=
    congrArg (State.context · child) hrun
  rw [hc']
  refine ⟨hflush.1, ?_⟩
  intro hstopped
  apply hflush.2
  apply hnone
  rw [show (wire (aborted.context child)).stopOn = _ from hstop]
  exact hstopped

/-- What the early flush leaves: the result of the new message, unless that is stopped. -/
theorem flushedBefore_result (sender : Bytes) (h : (s.context child).writer = .started) :
    let c' := (runEvents child (flushedBefore sender) s).1.context child
    ((s.context child).stopOn .envelopeFrom = true → c'.state ≠ .abort) ∧
      ((s.context child).stopOn .envelopeFrom = false → c'.messageResult ≠ none) := by
  intro c'
  let aborted := (ContextEvent.abort.program child s).state
  let flushed := (ContextEvent.flushed.program child aborted).state
  let given := ((ContextEvent.envelopeFrom sender).program child flushed).state
  obtain ⟨hwriter, hstop, -⟩ := abort_of_started h
  obtain ⟨hresult, hresult'⟩ := serverEnvelopeFrom_result child flushed sender
  -- the early flush leaves nothing but bodies to be flushed
  let last := aborted.surroundings.lastWrite child
  have hflushed : wire (flushed.context child) =
      (wire (aborted.context child)).afterFlushed last := (flushed_apply child aborted).1
  rw [Wire.afterFlushed, if_pos hwriter, Wire.afterNextStates] at hflushed
  obtain ⟨hstop', hleft⟩ := Wire.drains_foldl (Wire.drains_afterShutdown last)
    { wire (aborted.context child) with nextStates := [] } (wire (aborted.context child)).nextStates
  rw [← hflushed] at hstop' hleft
  have hbodies : ∀ state ∈ (flushed.context child).nextStates, state = .body := by
    intro state hstate
    exact (hleft state hstate).resolve_left List.not_mem_nil
  have hstops : (flushed.context child).stopOn = (s.context child).stopOn := hstop'.trans hstop
  obtain ⟨-, -, written, hstates, hall, -⟩ := @envelopeFrom_wire child flushed sender
  have hpending : ∀ state ∈ (given.context child).nextStates,
      state = .body ∨ state = .envelopeFrom := by
    intro state hstate
    rw [show (given.context child).nextStates = _ from hstates] at hstate
    rcases List.mem_append.mp hstate with hbefore | hnew
    · exact Or.inl (hbodies state hbefore)
    · exact Or.inr (hall state hnew)
  have hlate : c'.messageResult = (given.context child).messageResult ∧
      (c'.state = (given.context child).state ∨ c'.state = .body ∨ c'.state = .envelopeFrom) := by
    by_cases hworks : (given.context child).writer = .started
    · obtain ⟨emptied, hemptied, hrun⟩ := flushed_of_started hworks
      have heach := each_processNextState_result child emptied (agentShutdown onlyListen child)
        hpending
      rw [hemptied] at heach
      have hc' : c' = (Proc.each
          (processNextState (agentShutdown onlyListen child) onlyListen child)
          (given.context child).nextStates emptied).state.context child :=
        congrArg (State.context · child) hrun
      rw [hc']
      exact heach
    · have hc' : c' = given.context child :=
        congrArg (State.context · child) (flushed_of_not_started hworks).1
      rw [hc']
      exact ⟨rfl, Or.inl rfl⟩
  rw [hstops] at hresult hresult'
  constructor
  · intro hstopped
    have hstate : (given.context child).state = .envelopeFrom := (hresult hstopped).2
    rcases hlate.2 with hsame | hbody | hsender
    · rw [hsame, hstate]
      decide
    · rw [hbody]
      decide
    · rw [hsender]
      decide
  · intro hgoes
    rw [hlate.1, show (given.context child).messageResult = _ from hresult' hgoes]
    exact Option.some_ne_none _

end Comparison

/-- The order of the flush makes no difference exactly when there is no connection on which anything
could be flushed. -/
theorem flushIndependent_iff (child : ChildId) (sender : Bytes) (s : State) :
    FlushIndependent child sender s ↔ (s.context child).writer ≠ .started := by
  constructor
  · intro hsame hworks
    obtain ⟨hnone, habort⟩ := flushedAfter_result sender hworks
    obtain ⟨hother, hsome⟩ := flushedBefore_result sender hworks
    rw [hsame.context] at hother hsome
    cases hstop : (s.context child).stopOn .envelopeFrom with
    | true => exact hother hstop (habort hstop)
    | false => exact hsome hstop hnone
  · intro hbroken
    let aborted := (ContextEvent.abort.program child s).state
    let given := ((ContextEvent.envelopeFrom sender).program child aborted).state
    have haborted : (aborted.context child).writer ≠ .started := by
      have hwriter := congrArg Wire.writer (@abort_wire child s)
      rw [((wire (s.context child)).afterWrite_stopOn .abort).2] at hwriter
      rw [show (aborted.context child).writer = _ from hwriter]
      exact hbroken
    have hgiven : (given.context child).writer ≠ .started := by
      rw [show (given.context child).writer = _ from (@envelopeFrom_wire child aborted sender).1]
      exact haborted
    obtain ⟨hflushed, hsilent⟩ := flushed_of_not_started haborted
    obtain ⟨hflushed', -⟩ := flushed_of_not_started hgiven
    exact
      { context := by
          simp only [flushedBefore, flushedAfter, runEvents]
          rw [hflushed]
        packets := by
          simp only [flushedBefore, flushedAfter, runEvents]
          rw [hflushed, hsilent, List.nil_append]
        result := by
          simp only [flushedAfter, runEvents]
          rw [hflushed'] }

/-- A message is in progress and its sender was accepted: the late flush takes the result of the
next message away. -/
theorem not_flushIndependent_mailed :
    (RecipientLedger.mailed.context 0).isProcessingMessage = true ∧
      ¬FlushIndependent 0 [116] RecipientLedger.mailed := by
  refine ⟨rfl, ?_⟩
  intro h
  have hresult := h.result
  revert hresult
  decide

end MilterManager.Children
