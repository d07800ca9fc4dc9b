import Mathlib.Data.List.Perm.Basic
import MilterManager.Children.Waiting

/-!
# The recipients of a message

Which recipients the result of a message lists when some of them are refused, from
`milter/server/milter-server-context.c:1917` on: the recipients a context is given, and the
replies and the timeout that answer them.
-/

namespace MilterManager.Children

open MilterManager.Base MilterManager.Core MilterManager.Server

/-- A reply to a recipient. -/
inductive RecipientReply where
  | continue
  | accept
  | reject
  | temporaryFailure
  | replyCode (code : Nat) (extendedCode message : Option Bytes)
deriving DecidableEq, Repr

namespace RecipientReply

/-- The reply as it is decoded. -/
def reply : RecipientReply → Reply
  | .continue => .continue
  | .accept => .accept
  | .reject => .reject
  | .temporaryFailure => .temporaryFailure
  | .replyCode code extendedCode message => .replyCode code extendedCode message

/-- The reply refuses the recipient. -/
def refuses : RecipientReply → Bool
  | .continue | .accept => false
  | .reject | .temporaryFailure | .replyCode _ _ _ => true

/-- The refusal is a temporary one. -/
def failed : RecipientReply → Bool
  | .temporaryFailure => true
  | .replyCode code _ _ => 400 ≤ code && code < 500
  | _ => false

end RecipientReply

/-- What happens to a context while it is given the recipients of a message. -/
inductive RecipientEvent where
  | recipient (address : Bytes)
  | flushed
  | receive (reply : RecipientReply)
  | expireTimeout
deriving DecidableEq, Repr

/-- The event of the context. -/
def RecipientEvent.event : RecipientEvent → ContextEvent
  | .recipient address => .envelopeRecipient address
  | .flushed => .flushed
  | .receive reply => .receive reply.reply
  | .expireTimeout => .expireTimeout

/-- The recipients written in a trace. -/
def sentRecipients (trace : List Action) : List Bytes :=
  (packets trace).filterMap fun
    | .envelopeRecipient recipient => some recipient
    | _ => none

/-- A context and the account of a message: the recipients sent, those of them that were refused,
those that wait for their replies, and the result that was handed over with `message-processed`. -/
structure RecipientLedger where
  state : State
  sent : List Bytes
  refused : List Bytes
  awaiting : List Bytes
  handedOver : Option MessageResult

namespace RecipientLedger

/-- What happens to the context, and what the account says afterwards: a reply answers the
recipient that has waited longest. -/
def next (child : ChildId) (ledger : RecipientLedger) (event : RecipientEvent) : RecipientLedger :=
  let context := ledger.state.context child
  let o := event.event.program child ledger.state
  let written := sentRecipients o.trace
  let queued := ledger.awaiting ++ if context.needReply .envelopeRecipient then written else []
  { state := o.state
    sent := ledger.sent ++ written
    refused :=
      match event with
      | .receive reply =>
          if (wire context).heard && reply.refuses then
            ledger.refused ++ ledger.awaiting.take 1
          else ledger.refused
      | _ => ledger.refused
    awaiting :=
      match event with
      | .receive _ => if (wire context).heard then queued.tail else queued
      | _ => queued
    handedOver :=
      if context.messageResult.isSome && (o.state.context child).messageResult.isNone then
        context.messageResult
      else ledger.handedOver }

/-- The recipients in the result of the message. -/
def recorded (child : ChildId) (ledger : RecipientLedger) : List Bytes :=
  match ledger.handedOver with
  | some result => result.recipients
  | none => ((ledger.state.context child).messageResult.map (·.recipients)).getD []

/-- Recipients were sent, and none of them is left. -/
def AllRefused (ledger : RecipientLedger) : Prop :=
  ledger.sent ≠ [] ∧ ledger.refused.Perm ledger.sent

/-- The result lists the recipients sent without the refused ones, and the context says that none
was accepted when all were refused. -/
structure Accounted (child : ChildId) (ledger : RecipientLedger) : Prop where
  recorded : (ledger.recorded child ++ ledger.refused).Perm ledger.sent
  hasAccepted : (ledger.state.context child).hasAcceptedRecipient = false ↔ ledger.AllRefused

/-- A recipient is given to a context that is connected and idle, does not leave it out and has
not accepted the message; a refusal answers a recipient that has been flushed; the message is not
accepted when all its recipients have been refused. -/
def Met (child : ChildId) (ledger : RecipientLedger) : RecipientEvent → Prop
  | .recipient address =>
      let context := ledger.state.context child
      context.writer = .started ∧ context.timeout = none ∧
        (ContextEvent.envelopeRecipient address).leftOut context = false ∧
        ledger.handedOver = none
  | .receive reply =>
      let context := ledger.state.context child
      (wire context).heard = true →
        (reply.refuses = true → ledger.awaiting ≠ [] ∧ context.state = .envelopeRecipient) ∧
        (reply = .accept → ¬ledger.AllRefused)
  | _ => True

end RecipientLedger

/-- The sender of a message has been accepted, and no recipient has been given yet. -/
structure Begun (context : Context) : Prop where
  state : context.state = .envelopeFrom
  nextStates : context.nextStates = []
  timeout : context.timeout = none
  quitted : context.quitted = false
  messageResult : context.messageResult = none ∨ context.messageResult = some .empty

section Programs

variable (child : ChildId) (s : State)

/-- A command that is written by an idle context whose connection works. -/
theorem writePacket_started (packet : Packet) {nextState : ContextState}
    (hinterrupts : nextState.interrupts = false) (hwriter : (s.context child).writer = .started)
    (htimeout : (s.context child).timeout = none) :
    let o := writePacket onlyListen child packet nextState s
    o.state.context child =
        { s.context child with
          timeout := some .writing
          nextStates := (s.context child).nextStates ++ [nextState] } ∧
      packets o.trace = [packet] := by
  simp [writePacket, writePacketNow, hinterrupts, Context.isProcessing, htimeout,
    registerTimeout, hwriter, Proc.when]

/-- A recipient that is sent is recorded, and is the one that the next reply is about. -/
theorem serverEnvelopeRecipient_sent (address : Bytes)
    (hwriter : (s.context child).writer = .started) (htimeout : (s.context child).timeout = none)
    (hwanted : (ContextEvent.envelopeRecipient address).leftOut (s.context child) = false) :
    let o := serverEnvelopeRecipient onlyListen child address s
    let result := (s.context child).messageResult.getD .empty
    o.state.context child =
        { s.context child with
          currentRecipient := some address
          messageResult := some { result with recipients := result.recipients ++ [address] }
          timeout := some .writing
          nextStates := (s.context child).nextStates ++ [.envelopeRecipient] } ∧
      packets o.trace = [.envelopeRecipient address] := by
  intro o result
  let record : Context → Context := fun context =>
    let result := context.messageResult.getD .empty
    { context with
      currentRecipient := some address
      messageResult := some { result with recipients := result.recipients ++ [address] } }
  let recorded : State := (updateContext child record s).state
  let given : State := (updateContext child id recorded).state
  have hgiven : given.context child = record (s.context child) := by
    rw [updateContext_context, updateContext_context, id]
  have hsend : o = writePacket onlyListen child (.envelopeRecipient address) .envelopeRecipient
      given := by
    apply (askAndSend_apply child recorded .envelopeRecipient id .continue _ _ (fun _ => rfl)
      fun _ => rfl).2
    rw [updateContext_context]
    exact hwanted
  have hwriter' : (given.context child).writer = .started := by
    rw [hgiven]
    exact hwriter
  have htimeout' : (given.context child).timeout = none := by
    rw [hgiven]
    exact htimeout
  have hwrite := @writePacket_started child given (.envelopeRecipient address) .envelopeRecipient
    rfl hwriter' htimeout'
  rw [← hsend, hgiven] at hwrite
  exact hwrite

/-- What `process_next_state` leaves for a recipient that is flushed. -/
theorem processNextState_recipient (shutdown : Program PUnit) :
    let o := processNextState shutdown onlyListen child .envelopeRecipient s
    o.state.context child =
        { s.context child with
          state := .envelopeRecipient
          timeout :=
            if (s.context child).needReply .envelopeRecipient then some .reading else none } ∧
      packets o.trace = [] := by
  have hneed : ∀ timeout state, Context.needReply { s.context child with
      timeout := timeout, state := state } .envelopeRecipient =
      (s.context child).needReply .envelopeRecipient := fun _ _ => rfl
  by_cases h : (s.context child).needReply .envelopeRecipient = true
  · simp [processNextState, disableTimeout, setContextState, Proc.when, h, hneed, registerTimeout]
  · simp [processNextState, disableTimeout, setContextState, Proc.when, h, hneed]

theorem each_processNextState_recipients (shutdown : Program PUnit)
    {nextStates : List ContextState} (hall : ∀ state ∈ nextStates, state = .envelopeRecipient)
    (hne : nextStates ≠ []) :
    (Proc.each (processNextState shutdown onlyListen child) nextStates s).state.context child =
      { s.context child with
        state := .envelopeRecipient
        timeout :=
          if (s.context child).needReply .envelopeRecipient then some .reading else none } := by
  induction nextStates generalizing s with
  | nil => exact absurd rfl hne
  | cons state nextStates ih =>
      have hfirst : state = .envelopeRecipient := hall state List.mem_cons_self
      subst hfirst
      obtain ⟨hcontext, -⟩ := processNextState_recipient child s shutdown
      rw [Proc.each_cons, Proc.bind_apply]
      by_cases hlast : nextStates = []
      · subst hlast
        exact hcontext
      · have hrest := ih (processNextState shutdown onlyListen child .envelopeRecipient s).state
          (fun other hother => hall other (List.mem_cons_of_mem _ hother)) hlast
        rw [hcontext] at hrest
        exact hrest

/-- What the states leave that are gone through when nothing but recipients was written. -/
theorem processNextStates_recipients (shutdown : Program PUnit)
    (hall : ∀ state ∈ (s.context child).nextStates, state = .envelopeRecipient)
    (hne : (s.context child).nextStates ≠ []) :
    (processNextStates shutdown onlyListen child s).state.context child =
      { s.context child with
        nextStates := []
        state := .envelopeRecipient
        timeout :=
          if (s.context child).needReply .envelopeRecipient then some .reading else none } := by
  let emptied := (updateContext child (fun context => { context with nextStates := [] }) s).state
  have hemptied : emptied.context child = { s.context child with nextStates := [] } :=
    updateContext_context child s _
  have hrun : processNextStates shutdown onlyListen child s =
      Proc.each (processNextState shutdown onlyListen child) (s.context child).nextStates
        emptied := rfl
  rw [hrun, each_processNextState_recipients child emptied shutdown hall hne, hemptied]
  rfl

/-- With nothing written there is nothing to go through. -/
theorem processNextStates_nothing (shutdown : Program PUnit)
    (hnone : (s.context child).nextStates = []) :
    (processNextStates shutdown onlyListen child s).state.context child = s.context child := by
  rw [processNextStates, contextOf_bind, hnone]
  simp only [Proc.bind_apply, Proc.each_nil, Proc.pure_apply, updateContext_context]
  rw [← hnone]

/-- What `flushed` leaves when nothing but recipients was written. -/
theorem flushed_recipients (hwriter : (s.context child).writer = .started)
    (hall : ∀ state ∈ (s.context child).nextStates, state = .envelopeRecipient)
    (hne : (s.context child).nextStates ≠ []) :
    (flushed onlyListen child s).state.context child =
      { s.context child with
        nextStates := []
        state := .envelopeRecipient
        timeout :=
          if (s.context child).needReply .envelopeRecipient then some .reading else none } := by
  rw [flushed, contextOf_bind, if_pos hwriter]
  exact processNextStates_recipients child s _ hall hne

/-- There is nothing to flush, or no connection to flush it to. -/
theorem flushed_nothing
    (h : (s.context child).writer = .started → (s.context child).nextStates = []) :
    (flushed onlyListen child s).state.context child = s.context child := by
  rw [flushed, contextOf_bind]
  by_cases hwriter : (s.context child).writer = .started
  · rw [if_pos hwriter]
    exact processNextStates_nothing child s _ (h hwriter)
  · rw [if_neg hwriter]
    rfl

theorem decoderContinue_inMessage (hquitted : (s.context child).quitted = false)
    (hstate : (s.context child).state = .envelopeFrom ∨
      (s.context child).state = .envelopeRecipient) :
    (decoderContinue onlyListen child s).state.context child =
      { s.context child with timeout := none } := by
  rcases hstate with hstate | hstate
  · simp [decoderContinue, hstate, hquitted, disableTimeout]
  · simp [decoderContinue, hstate, hquitted, disableTimeout]

theorem decoderAccept_inMessage (hquitted : (s.context child).quitted = false)
    (hstate : (s.context child).state = .envelopeFrom ∨
      (s.context child).state = .envelopeRecipient) :
    (decoderAccept onlyListen child s).state.context child =
      { s.context child with timeout := none, messageResult := none } := by
  rcases hstate with hstate | hstate
  · simp [decoderAccept, decoderFinalStatus, concludeReply, hstate, hquitted, disableTimeout,
      ContextState.inMessage, ContextState.toNat, Context.emitMessageProcessedSignal]
  · simp [decoderAccept, decoderFinalStatus, concludeReply, hstate, hquitted, disableTimeout,
      ContextState.inMessage, ContextState.toNat, Context.emitMessageProcessedSignal]

/-- The recipient refused leaves the recipients and joins the refusals. -/
theorem removeCurrentRecipient_result {context : Context} {address : Bytes}
    (h : context.currentRecipient = some address) (failed : Bool) :
    let result := context.messageResult.getD .empty
    ∃ removed, (context.removeCurrentRecipient failed).messageResult = some removed ∧
      removed.recipients = result.recipients.erase address ∧
      removed.temporaryFailedRecipients.length + removed.rejectedRecipients.length =
        result.temporaryFailedRecipients.length + result.rejectedRecipients.length + 1 := by
  intro result
  rw [Context.removeCurrentRecipient, h]
  cases failed with
  | true =>
      refine ⟨_, rfl, rfl, ?_⟩
      show (result.temporaryFailedRecipients ++ [_]).length + result.rejectedRecipients.length = _
      rw [List.length_append, List.length_singleton]
      omega
  | false =>
      refine ⟨_, rfl, rfl, ?_⟩
      show result.temporaryFailedRecipients.length + (result.rejectedRecipients ++ [_]).length = _
      rw [List.length_append, List.length_singleton]
      omega

/-- A refusal of a recipient takes it out and leaves the message as it is. -/
theorem decode_recipient_refusal {reply : RecipientReply} (hrefuses : reply.refuses = true)
    (hquitted : (s.context child).quitted = false)
    (hstate : (s.context child).state = .envelopeRecipient) :
    (decode onlyListen child reply.reply s).state.context child =
      { (s.context child).removeCurrentRecipient reply.failed with timeout := none } := by
  cases reply with
  | «continue» => exact absurd hrefuses Bool.false_ne_true
  | accept => exact absurd hrefuses Bool.false_ne_true
  | reject =>
      simp [RecipientReply.reply, RecipientReply.failed, decode, decoderReject, decoderFinalStatus,
        concludeReply, hstate, hquitted, disableTimeout, rejectionConcludes, Proc.when,
        Context.removeCurrentRecipient]
  | temporaryFailure =>
      simp [RecipientReply.reply, RecipientReply.failed, decode, decoderTemporaryFailure,
        decoderFinalStatus, concludeReply, hstate, hquitted, disableTimeout, rejectionConcludes,
        Proc.when, Context.removeCurrentRecipient]
  | replyCode code extendedCode message =>
      simp [RecipientReply.reply, RecipientReply.failed, decode, decoderReplyCode,
        concludeReply, hstate, hquitted, disableTimeout, rejectionConcludes, Proc.when,
        Context.removeCurrentRecipient]

/-- What the account of the recipients reads in a context. -/
def message (context : Context) : ContextState × Option Bytes × Option MessageResult :=
  (context.state, context.currentRecipient, context.messageResult)

/-- What the end of a connection on which nothing but recipients waits leaves of its message. -/
structure Ended (context after : Context) : Prop where
  quitted : after.quitted = context.quitted
  option : after.option = context.option
  currentRecipient : after.currentRecipient = context.currentRecipient
  messageResult : after.messageResult = context.messageResult
  state : after.state = context.state ∨ after.state = .envelopeRecipient
  nextStates : after.nextStates = [] ∨ after.nextStates = context.nextStates
  busy : context.timeout ≠ none → context.needReply .envelopeRecipient = true →
    after.timeout ≠ none

theorem Ended.refl (context : Context) : Ended context context :=
  ⟨rfl, rfl, rfl, rfl, Or.inl rfl, Or.inr rfl, fun h _ => h⟩

theorem Ended.needReply {context after : Context} (h : Ended context after)
    (state : ContextState) : after.needReply state = context.needReply state := by
  rw [Context.needReply, Context.needReply, h.option]

theorem Ended.pending {context after : Context} (h : Ended context after)
    (hall : ∀ state ∈ context.nextStates, state = .envelopeRecipient) :
    ∀ state ∈ after.nextStates, state = .envelopeRecipient := by
  rcases h.nextStates with hnone | hsame
  · rw [hnone]
    intro state hstate
    exact absurd hstate List.not_mem_nil
  · rw [hsame]
    exact hall

theorem Ended.trans {context middle after : Context} (h : Ended context middle)
    (h' : Ended middle after) : Ended context after where
  quitted := h'.quitted.trans h.quitted
  option := h'.option.trans h.option
  currentRecipient := h'.currentRecipient.trans h.currentRecipient
  messageResult := h'.messageResult.trans h.messageResult
  state := by
    rcases h'.state with hsame | hother
    · rw [hsame]
      exact h.state
    · exact Or.inr hother
  nextStates := by
    rcases h'.nextStates with hnone | hsame
    · exact Or.inl hnone
    · rw [hsame]
      exact h.nextStates
  busy htimeout hneed := h'.busy (h.busy htimeout hneed) ((h.needReply _).trans hneed)

theorem ended_writerShutdown
    (hall : ∀ state ∈ (s.context child).nextStates, state = .envelopeRecipient) :
    Ended (s.context child) ((writerShutdown onlyListen child s).state.context child) := by
  rw [writerShutdown, contextOf_bind]
  by_cases hstarted : (s.context child).writer = .started
  · let stopped :=
      (updateContext child (fun context => { context with writer := .stopped }) s).state
    have hstopped : stopped.context child = { s.context child with writer := .stopped } :=
      updateContext_context child s _
    let last := s.surroundings.lastWrite child
    have hfails : (Proc.when last.fails (emitErrorOn onlyListen child .other) stopped).state =
        stopped := by
      by_cases hfails : last.fails
      · simp [Proc.when, hfails]
      · simp [Proc.when, hfails]
    have hend : Ended (s.context child)
        ((Proc.when last.flushes (processNextStates (pure PUnit.unit) onlyListen child)
          stopped).state.context child) := by
      have hstop : Ended (s.context child) (stopped.context child) := by
        rw [hstopped]
        exact ⟨rfl, rfl, rfl, rfl, Or.inl rfl, Or.inr rfl, fun h _ => h⟩
      by_cases hflushes : last.flushes
      · simp only [Proc.when, hflushes, if_true]
        by_cases hnone : (stopped.context child).nextStates = []
        · rw [processNextStates_nothing child stopped _ hnone]
          exact hstop
        · rw [processNextStates_recipients child stopped _ (hstop.pending hall) hnone, hstopped]
          refine ⟨rfl, rfl, rfl, rfl, Or.inr rfl, Or.inl rfl, fun _ hneed => ?_⟩
          have hneed' : Context.needReply { s.context child with writer := .stopped }
              .envelopeRecipient = true := hneed
          simp [hneed']
      · simp only [Proc.when, hflushes, if_false, Bool.false_eq_true]
        exact hstop
    rw [if_pos hstarted]
    simp only [Proc.bind_apply, Proc.getState_apply]
    show Ended _ ((Proc.when last.flushes _
      (Proc.when last.fails (emitErrorOn onlyListen child .other) stopped).state).state.context
      child)
    rw [hfails]
    exact hend
  · rw [if_neg hstarted]
    exact Ended.refl _

theorem ended_emitFinished
    (hall : ∀ state ∈ (s.context child).nextStates, state = .envelopeRecipient) :
    Ended (s.context child) ((emitFinished onlyListen child s).state.context child) := by
  let finished := (updateContext child (fun context => { context with finished := true }) s).state
  have hfinished : finished.context child = { s.context child with finished := true } :=
    updateContext_context child s _
  have hfirst : Ended (s.context child) (finished.context child) := by
    rw [hfinished]
    exact ⟨rfl, rfl, rfl, rfl, Or.inl rfl, Or.inr rfl, fun h _ => h⟩
  have hrun : (emitFinished onlyListen child s).state =
      (writerShutdown onlyListen child finished).state := by
    simp [emitFinished, finished]
  rw [hrun]
  exact hfirst.trans (ended_writerShutdown child finished (hfirst.pending hall))

theorem ended_agentShutdown
    (hall : ∀ state ∈ (s.context child).nextStates, state = .envelopeRecipient) :
    Ended (s.context child) ((agentShutdown onlyListen child s).state.context child) := by
  rw [agentShutdown, contextOf_bind]
  by_cases hfinished : (s.context child).finished = true
  · simp only [Proc.when, hfinished, Bool.not_true, Bool.false_eq_true, if_false, Proc.bind_apply,
      Proc.pure_apply]
    exact ended_writerShutdown child s hall
  · have hfinish := ended_emitFinished child s hall
    simp only [Proc.when, hfinished, Bool.not_false, if_true, Proc.bind_apply]
    exact hfinish.trans (ended_writerShutdown child _ (hfinish.pending hall))

theorem ended_expire (hall : ∀ state ∈ (s.context child).nextStates, state = .envelopeRecipient)
    (callback : Callback) :
    Ended (s.context child) (((do
      registerTimeout child .expired
      emitOn onlyListen child callback
      agentShutdown onlyListen child : Program PUnit) s).state.context child) := by
  let expired := (registerTimeout child .expired s).state
  have hexpired : expired.context child = { s.context child with timeout := some .expired } := by
    simp [expired, registerTimeout]
  have hfirst : Ended (s.context child) (expired.context child) := by
    rw [hexpired]
    exact ⟨rfl, rfl, rfl, rfl, Or.inl rfl, Or.inr rfl, fun _ _ => Option.some_ne_none _⟩
  simp only [Proc.bind_apply, emitOn_state]
  exact hfirst.trans (ended_agentShutdown child expired (hfirst.pending hall))

theorem ended_expire_connection :
    Ended (s.context child) (((do
      registerTimeout child .expired
      emitOnAttempts onlyListen child .connectionTimeout : Program PUnit) s).state.context
        child) := by
  let expired := (registerTimeout child .expired s).state
  have hkeeps : Proc.Keeps (Quiet expired) (emitOnAttempts onlyListen child .connectionTimeout) :=
    quiet_emitOnAttempts child expired fun _ => by simp
  have hquiet := hkeeps [] expired ⟨rfl, rfl, by simp⟩
  have hexpired : expired.context child = { s.context child with timeout := some .expired } := by
    simp [expired, registerTimeout]
  show Ended _ ((emitOnAttempts onlyListen child .connectionTimeout expired).state.context child)
  rw [hquiet.1, hexpired]
  exact ⟨rfl, rfl, rfl, rfl, Or.inl rfl, Or.inr rfl, fun _ _ => Option.some_ne_none _⟩

/-- A child that is heard is decoded, any other is not. -/
theorem receive_state (reply : Reply) :
    (receive onlyListen child reply s).state =
      if (wire (s.context child)).heard then (decode onlyListen child reply s).state else s := by
  rw [receive, contextOf_bind]
  by_cases hheard : (wire (s.context child)).heard = true
  · have hopen : (wire (s.context child)).writer ≠ .absent ∧
        (!(wire (s.context child)).finished) = true := by
      simpa [Wire.heard] using hheard
    have hopen' : (s.context child).writer ≠ .absent ∧ (!(s.context child).finished) = true := hopen
    rw [if_pos hopen', if_pos hheard]
  · have hopen : ¬((wire (s.context child)).writer ≠ .absent ∧
        (!(wire (s.context child)).finished) = true) := by
      simpa [Wire.heard] using hheard
    have hopen' : ¬((s.context child).writer ≠ .absent ∧
      (!(s.context child).finished) = true) := hopen
    rw [if_neg hopen', if_neg hheard]
    rfl

/-- The end of a timeout leaves the message as it is. -/
theorem ended_expireTimeout
    (hall : ∀ state ∈ (s.context child).nextStates, state = .envelopeRecipient) :
    Ended (s.context child) ((expireTimeout onlyListen child s).state.context child) := by
  rw [expireTimeout, contextOf_bind]
  cases (s.context child).timeout with
  | none => exact Ended.refl _
  | some timeout =>
      cases timeout with
      | expired => exact Ended.refl _
      | connection => exact ended_expire_connection child s
      | writing => exact ended_expire child s hall .writingTimeout
      | reading => exact ended_expire child s hall .readingTimeout
      | endOfMessage => exact ended_expire child s hall .endOfMessageTimeout

/-- Only a recipient makes a context write one. -/
theorem sentRecipients_of_body {trace : List Action}
    (h : ∀ packet ∈ packets trace, ∃ bytes, packet = .body bytes) : sentRecipients trace = [] := by
  apply List.filterMap_eq_nil_iff.mpr
  intro packet hpacket
  obtain ⟨bytes, rfl⟩ := h packet hpacket
  rfl

theorem body_of_mem_flushPackets {packet : Packet} {shutdown : Wire → Wire} (line : Wire)
    (nextStates : List ContextState) (h : packet ∈ line.flushPackets shutdown nextStates) :
    ∃ bytes, packet = .body bytes := by
  induction nextStates generalizing line with
  | nil => exact absurd h List.not_mem_nil
  | cons state nextStates ih =>
      rw [Wire.flushPackets, List.mem_append] at h
      rcases h with h | h
      · unfold Wire.nextPackets at h
        split at h
        · exact ⟨_, List.mem_singleton.mp h⟩
        · exact absurd h List.not_mem_nil
      · exact ih _ h

theorem body_of_mem_replyPackets {packet : Packet} (line : Wire) (state : ContextState)
    (reply : Reply) (h : packet ∈ line.replyPackets state reply) :
    ∃ bytes, packet = .body bytes := by
  unfold Wire.replyPackets at h
  split at h
  · exact ⟨_, List.mem_singleton.mp h⟩
  · exact absurd h List.not_mem_nil

theorem sentRecipients_event {event : RecipientEvent}
    (h : ∀ address, event ≠ .recipient address) :
    sentRecipients (event.event.program child s).trace = [] := by
  apply sentRecipients_of_body
  intro packet hpacket
  cases event with
  | recipient address => exact absurd rfl (h address)
  | flushed =>
      have hpackets : packets (ContextEvent.flushed.program child s).trace = _ :=
        (congrArg packets (ContextEvent.done_trace _ s)).trans (flushed_apply child s).2
      rw [show RecipientEvent.flushed.event = .flushed from rfl, hpackets] at hpacket
      split at hpacket
      · exact body_of_mem_flushPackets _ _ hpacket
      · exact absurd hpacket List.not_mem_nil
  | receive reply =>
      have hpackets : packets ((ContextEvent.receive reply.reply).program child s).trace = _ :=
        (congrArg packets (ContextEvent.done_trace _ s)).trans (receive_apply child s _).2
      rw [show (RecipientEvent.receive reply).event = .receive reply.reply from rfl,
        hpackets] at hpacket
      split at hpacket
      · exact body_of_mem_replyPackets _ _ _ hpacket
      · exact absurd hpacket List.not_mem_nil
  | expireTimeout =>
      have hpackets : packets (ContextEvent.expireTimeout.program child s).trace = [] :=
        (congrArg packets (ContextEvent.done_trace _ s)).trans (expireTimeout_apply child s).2
      rw [show RecipientEvent.expireTimeout.event = .expireTimeout from rfl, hpackets] at hpacket
      exact absurd hpacket List.not_mem_nil

end Programs

namespace RecipientLedger

variable {child : ChildId} {ledger : RecipientLedger}

/-- A recipient waits for its reply only while the context is busy, and is the current one. -/
structure Waits (context : Context) (address : Bytes) : Prop where
  current : context.currentRecipient = some address
  busy : context.timeout ≠ none
  needed : context.needReply .envelopeRecipient = true
  recorded : address ∈ (context.messageResult.getD .empty).recipients

/-- The result accounts for what was sent and refused. -/
structure Balanced (result : MessageResult) (sent refused : List Bytes) : Prop where
  recipients : (result.recipients ++ refused).Perm sent
  refusals : result.temporaryFailedRecipients.length + result.rejectedRecipients.length =
    refused.length

/-- What every event of a run keeps. -/
structure Invariant (child : ChildId) (ledger : RecipientLedger) : Prop where
  quitted : (ledger.state.context child).quitted = false
  state : (ledger.state.context child).state = .envelopeFrom ∨
    (ledger.state.context child).state = .envelopeRecipient
  pending : ∀ state ∈ (ledger.state.context child).nextStates, state = .envelopeRecipient
  awaiting : ledger.awaiting = [] ∨
    ∃ address, ledger.awaiting = [address] ∧ Waits (ledger.state.context child) address
  balanced : ledger.handedOver = none →
    Balanced ((ledger.state.context child).messageResult.getD .empty) ledger.sent ledger.refused
  closed : ∀ result, ledger.handedOver = some result →
    (ledger.state.context child).messageResult = none ∧
      (result.recipients ++ ledger.refused).Perm ledger.sent ∧ ledger.awaiting = [] ∧
      ¬ledger.AllRefused

theorem Balanced.allRefused_iff {result : MessageResult} {sent refused : List Bytes}
    (h : Balanced result sent refused) :
    (sent ≠ [] ∧ refused.Perm sent) ↔ refused ≠ [] ∧ result.recipients = [] := by
  have hlength := h.recipients.length_eq
  rw [List.length_append] at hlength
  constructor
  · intro ⟨hsent, hperm⟩
    have hsame := hperm.length_eq
    have hempty : result.recipients.length = 0 := by omega
    refine ⟨?_, List.length_eq_zero_iff.mp hempty⟩
    intro hnil
    rw [hnil] at hperm
    exact hsent hperm.nil_eq.symm
  · intro ⟨hrefused, hempty⟩
    have hperm := h.recipients
    rw [hempty, List.nil_append] at hperm
    refine ⟨?_, hperm⟩
    intro hnil
    rw [hnil] at hperm
    exact hrefused hperm.eq_nil

/-- The query agrees with the account of a message that has its result. -/
theorem Balanced.hasAccepted {context : Context} {sent refused : List Bytes}
    (h : Balanced (context.messageResult.getD .empty) sent refused) :
    context.hasAcceptedRecipient = false ↔ sent ≠ [] ∧ refused.Perm sent := by
  rw [h.allRefused_iff]
  have hrefusals := h.refusals
  unfold Context.hasAcceptedRecipient
  cases hresult : context.messageResult with
  | none =>
      rw [hresult] at hrefusals
      have hnone : refused = [] := List.length_eq_zero_iff.mp hrefusals.symm
      simp [hnone]
  | some result =>
      rw [hresult] at hrefusals
      rw [Option.getD_some] at hrefusals ⊢
      have hlisted : (result.rejectedRecipients.isEmpty &&
          result.temporaryFailedRecipients.isEmpty) = true ↔ refused = [] := by
        rw [Bool.and_eq_true, List.isEmpty_iff_length_eq_zero, List.isEmpty_iff_length_eq_zero,
          ← List.length_eq_zero_iff]
        omega
      by_cases hnone : refused = []
      · simp [hlisted.mpr hnone, hnone]
      · have hsome := mt hlisted.mp hnone
        rw [Bool.not_eq_true] at hsome
        simp [hsome, hnone]

theorem Invariant.accounted (h : Invariant child ledger) : Accounted child ledger := by
  cases hover : ledger.handedOver with
  | none =>
      have hbalanced := h.balanced hover
      have hrecorded : ledger.recorded child =
          ((ledger.state.context child).messageResult.getD .empty).recipients := by
        rw [recorded, hover]
        cases (ledger.state.context child).messageResult <;> rfl
      exact
        { recorded := by
            rw [hrecorded]
            exact hbalanced.recipients
          hasAccepted := hbalanced.hasAccepted }
  | some result =>
      obtain ⟨hnone, hrecipients, -, hnot⟩ := h.closed result hover
      exact
        { recorded := by
            rw [recorded, hover]
            exact hrecipients
          hasAccepted := by
            rw [Context.hasAcceptedRecipient, hnone]
            exact iff_of_false (by decide) hnot }

/-- An event that leaves the result and the account as they are. -/
theorem Invariant.frame (h : Invariant child ledger) {after : RecipientLedger}
    (hsent : after.sent = ledger.sent) (hrefused : after.refused = ledger.refused)
    (hover : after.handedOver = ledger.handedOver)
    (hresult : (after.state.context child).messageResult =
      (ledger.state.context child).messageResult)
    (hquitted : (after.state.context child).quitted = false)
    (hstate : (after.state.context child).state = .envelopeFrom ∨
      (after.state.context child).state = .envelopeRecipient)
    (hpending : ∀ state ∈ (after.state.context child).nextStates, state = .envelopeRecipient)
    (hawaiting : after.awaiting = [] ∨ after.awaiting = ledger.awaiting ∧
      ∀ address, Waits (ledger.state.context child) address →
        Waits (after.state.context child) address) : Invariant child after where
  quitted := hquitted
  state := hstate
  pending := hpending
  awaiting := by
    rcases hawaiting with hnone | ⟨hsame, hwaits⟩
    · exact Or.inl hnone
    · rw [hsame]
      rcases h.awaiting with hnone | ⟨address, haddress, hwaiting⟩
      · exact Or.inl hnone
      · exact Or.inr ⟨address, haddress, hwaits address hwaiting⟩
  balanced := by
    rw [hover, hresult, hsent, hrefused]
    exact h.balanced
  closed := by
    intro result hresult'
    rw [hover] at hresult'
    obtain ⟨hnone, hrecipients, hidle, hnot⟩ := h.closed result hresult'
    rw [hresult, AllRefused, hsent, hrefused]
    refine ⟨hnone, hrecipients, ?_, hnot⟩
    rcases hawaiting with hnone' | ⟨hsame, -⟩
    · exact hnone'
    · exact hsame.trans hidle

/-- An event that sends nothing gives the context nothing to wait for. -/
theorem next_of_unsent {event : RecipientEvent} (h : ∀ address, event ≠ .recipient address) :
    (ledger.next child event).sent = ledger.sent ∧
      (ledger.awaiting ++ if (ledger.state.context child).needReply .envelopeRecipient then
        sentRecipients (event.event.program child ledger.state).trace else []) =
        ledger.awaiting := by
  have hnone := sentRecipients_event child ledger.state h
  constructor
  · show ledger.sent ++ sentRecipients _ = _
    rw [hnone, List.append_nil]
  · rw [hnone, ite_self, List.append_nil]

/-- The result of the message stays where it is unless it is taken away. -/
theorem next_handedOver {event : RecipientEvent}
    (h : ((ledger.next child event).state.context child).messageResult =
      (ledger.state.context child).messageResult) :
    (ledger.next child event).handedOver = ledger.handedOver := by
  unfold next at h ⊢
  simp only at h ⊢
  rw [h]
  cases (ledger.state.context child).messageResult <;> simp

theorem expireTimeout_keeps (h : Invariant child ledger) :
    Invariant child (ledger.next child .expireTimeout) := by
  let after := ledger.next child .expireTimeout
  obtain ⟨hsent, hqueued⟩ := @next_of_unsent child ledger .expireTimeout (by simp)
  have hended : Ended (ledger.state.context child) (after.state.context child) :=
    ended_expireTimeout child ledger.state h.pending
  apply h.frame hsent rfl (next_handedOver hended.messageResult) hended.messageResult
  · exact hended.quitted.trans h.quitted
  · rcases hended.state with hsame | hrecipient
    · rw [show ((ledger.next child .expireTimeout).state.context child).state = _ from hsame]
      exact h.state
    · exact Or.inr hrecipient
  · exact hended.pending h.pending
  · refine Or.inr ⟨hqueued, ?_⟩
    intro address hwaits
    exact
      { current := hended.currentRecipient.trans hwaits.current
        busy := hended.busy hwaits.busy hwaits.needed
        needed := (hended.needReply _).trans hwaits.needed
        recorded := by
          rw [show ((ledger.next child .expireTimeout).state.context child).messageResult = _ from
            hended.messageResult]
          exact hwaits.recorded }

theorem flushed_keeps (h : Invariant child ledger) :
    Invariant child (ledger.next child .flushed) := by
  obtain ⟨hsent, hqueued⟩ := @next_of_unsent child ledger .flushed (by simp)
  let context := ledger.state.context child
  let after := ledger.next child .flushed
  have hafter : after.state.context child =
      (flushed onlyListen child ledger.state).state.context child := rfl
  by_cases hflushes : context.writer = .started ∧ context.nextStates ≠ []
  · have hcontext := hafter.trans
      (flushed_recipients child ledger.state hflushes.1 h.pending hflushes.2)
    have hresult : (after.state.context child).messageResult =
        (ledger.state.context child).messageResult := by
      rw [hcontext]
    apply h.frame hsent rfl (next_handedOver hresult) hresult
    · rw [show ledger.next child .flushed = after from rfl, hcontext]
      exact h.quitted
    · rw [show ledger.next child .flushed = after from rfl, hcontext]
      exact Or.inr rfl
    · rw [show ledger.next child .flushed = after from rfl, hcontext]
      intro state hstate
      exact absurd hstate List.not_mem_nil
    · refine Or.inr ⟨hqueued, ?_⟩
      intro address hwaits
      rw [show ledger.next child .flushed = after from rfl, hcontext]
      exact
        { current := hwaits.current
          busy := by
            rw [if_pos hwaits.needed]
            exact Option.some_ne_none _
          needed := hwaits.needed
          recorded := hwaits.recorded }
  · have hcontext : after.state.context child = context := by
      apply hafter.trans (flushed_nothing child ledger.state _)
      intro hwriter
      by_contra hne
      exact hflushes ⟨hwriter, hne⟩
    have hresult : (after.state.context child).messageResult =
        (ledger.state.context child).messageResult := by
      rw [hcontext]
    apply h.frame hsent rfl (next_handedOver hresult) hresult
    · rw [show ledger.next child .flushed = after from rfl, hcontext]
      exact h.quitted
    · rw [show ledger.next child .flushed = after from rfl, hcontext]
      exact h.state
    · rw [show ledger.next child .flushed = after from rfl, hcontext]
      exact h.pending
    · refine Or.inr ⟨hqueued, ?_⟩
      intro address hwaits
      rw [show ledger.next child .flushed = after from rfl, hcontext]
      exact hwaits

theorem recipient_keeps (h : Invariant child ledger) {address : Bytes}
    (hmet : Met child ledger (.recipient address)) :
    Invariant child (ledger.next child (.recipient address)) := by
  obtain ⟨hwriter, htimeout, hwanted, hopen⟩ := hmet
  let context := ledger.state.context child
  let result := context.messageResult.getD .empty
  let after := ledger.next child (.recipient address)
  obtain ⟨hcontext, hpackets⟩ :=
    serverEnvelopeRecipient_sent child ledger.state address hwriter htimeout hwanted
  have hwritten : sentRecipients
      ((RecipientEvent.recipient address).event.program child ledger.state).trace = [address] :=
    congrArg (List.filterMap _) hpackets
  have hcontext' : after.state.context child = _ := hcontext
  have hsent : after.sent = ledger.sent ++ [address] := congrArg (ledger.sent ++ ·) hwritten
  have hidle : ledger.awaiting = [] := by
    rcases h.awaiting with hnone | ⟨other, -, hwaits⟩
    · exact hnone
    · exact absurd htimeout hwaits.busy
  have hawaiting : after.awaiting =
      if context.needReply .envelopeRecipient then [address] else [] := by
    show ledger.awaiting ++ (if _ then sentRecipients _ else []) = _
    rw [hwritten, hidle, List.nil_append]
  have hover : after.handedOver = none := by
    have hkept : (after.state.context child).messageResult.isNone = false := by
      rw [hcontext']
      rfl
    show (if context.messageResult.isSome &&
      (after.state.context child).messageResult.isNone then _ else _) = _
    rw [hkept, Bool.and_false, if_neg Bool.false_ne_true]
    exact hopen
  have hbalanced := h.balanced hopen
  exact
    { quitted := by
        rw [hcontext']
        exact h.quitted
      state := by
        rw [hcontext']
        exact h.state
      pending := by
        rw [hcontext']
        intro state hstate
        rcases List.mem_append.mp hstate with hbefore | hnew
        · exact h.pending state hbefore
        · exact List.mem_singleton.mp hnew
      awaiting := by
        rw [hawaiting, hcontext']
        by_cases hneed : context.needReply .envelopeRecipient = true
        · rw [if_pos hneed]
          refine Or.inr ⟨address, rfl, ?_⟩
          exact
            { current := rfl
              busy := Option.some_ne_none _
              needed := hneed
              recorded := List.mem_append_right _ (List.mem_singleton_self address) }
        · rw [if_neg hneed]
          exact Or.inl rfl
      balanced := by
        intro _
        rw [hcontext', hsent]
        exact
          { recipients := by
              show ((result.recipients ++ [address]) ++ ledger.refused).Perm _
              rw [List.append_assoc]
              have hmoved : (result.recipients ++ ([address] ++ ledger.refused)).Perm
                  (result.recipients ++ (ledger.refused ++ [address])) :=
                List.Perm.append_left _ List.perm_append_comm
              apply hmoved.trans
              rw [← List.append_assoc]
              exact hbalanced.recipients.append_right _
            refusals := hbalanced.refusals }
      closed := by
        intro handed hhanded
        rw [hover] at hhanded
        exact absurd hhanded.symm (Option.some_ne_none _) }

theorem receive_unheard_keeps (h : Invariant child ledger) {reply : RecipientReply}
    (hheard : (wire (ledger.state.context child)).heard = false) :
    Invariant child (ledger.next child (.receive reply)) := by
  obtain ⟨hsent, hqueued⟩ := @next_of_unsent child ledger (.receive reply) (by simp)
  let after := ledger.next child (.receive reply)
  have hsame : after.state = ledger.state := by
    show (receive onlyListen child reply.reply ledger.state).state = _
    rw [receive_state, hheard, if_neg Bool.false_ne_true]
  have hresult : (after.state.context child).messageResult =
      (ledger.state.context child).messageResult := by
    rw [hsame]
  have hrefused : after.refused = ledger.refused := by
    show (if _ && _ then _ else _) = _
    rw [hheard, Bool.false_and, if_neg Bool.false_ne_true]
  have hawaiting : after.awaiting = ledger.awaiting := by
    show (if _ then List.tail _ else _) = _
    rw [hheard, if_neg Bool.false_ne_true]
    exact hqueued
  have hcontext : after.state.context child = ledger.state.context child := by
    rw [hsame]
  apply h.frame hsent hrefused (next_handedOver hresult) hresult
  · exact (congrArg Context.quitted hcontext).trans h.quitted
  · rw [show (after.state.context child).state = _ from congrArg Context.state hcontext]
    exact h.state
  · rw [show (after.state.context child).nextStates = _ from congrArg Context.nextStates hcontext]
    exact h.pending
  · refine Or.inr ⟨hawaiting, ?_⟩
    intro address hwaits
    rw [show ledger.next child (.receive reply) = after from rfl, hcontext]
    exact hwaits

/-- After a reply nothing waits any more. -/
theorem Invariant.awaiting_tail (h : Invariant child ledger) : ledger.awaiting.tail = [] := by
  rcases h.awaiting with hnone | ⟨address, haddress, -⟩
  · rw [hnone]
    rfl
  · rw [haddress]
    rfl

section Heard

variable (h : Invariant child ledger) (hheard : (wire (ledger.state.context child)).heard = true)
include h hheard

theorem awaiting_of_heard (reply : RecipientReply) :
    (ledger.next child (.receive reply)).awaiting = [] := by
  obtain ⟨-, hqueued⟩ := @next_of_unsent child ledger (.receive reply) (by simp)
  show (if _ then List.tail _ else _) = _
  rw [hheard, if_pos rfl]
  exact (congrArg List.tail hqueued).trans h.awaiting_tail

theorem continue_keeps : Invariant child (ledger.next child (.receive .continue)) := by
  obtain ⟨hsent, -⟩ := @next_of_unsent child ledger (.receive .continue) (by simp)
  let after := ledger.next child (.receive .continue)
  have hcontext : after.state.context child =
      { ledger.state.context child with timeout := none } := by
    show (receive onlyListen child .continue ledger.state).state.context child = _
    rw [receive_state, hheard, if_pos rfl]
    exact decoderContinue_inMessage child ledger.state h.quitted h.state
  have hresult : (after.state.context child).messageResult =
      (ledger.state.context child).messageResult := by
    rw [hcontext]
  have hrefused : after.refused = ledger.refused := by
    show (if _ && false then _ else _) = _
    rw [Bool.and_false, if_neg Bool.false_ne_true]
  apply h.frame hsent hrefused (next_handedOver hresult) hresult
  · exact (congrArg Context.quitted hcontext).trans h.quitted
  · rw [show (after.state.context child).state = _ from congrArg Context.state hcontext]
    exact h.state
  · rw [show (after.state.context child).nextStates = _ from congrArg Context.nextStates hcontext]
    exact h.pending
  · exact Or.inl (awaiting_of_heard h hheard .continue)

theorem accept_keeps (hnot : ¬ledger.AllRefused) :
    Invariant child (ledger.next child (.receive .accept)) := by
  obtain ⟨hsent, -⟩ := @next_of_unsent child ledger (.receive .accept) (by simp)
  let after := ledger.next child (.receive .accept)
  have hcontext : after.state.context child =
      { ledger.state.context child with timeout := none, messageResult := none } := by
    show (receive onlyListen child .accept ledger.state).state.context child = _
    rw [receive_state, hheard, if_pos rfl]
    exact decoderAccept_inMessage child ledger.state h.quitted h.state
  have hrefused : after.refused = ledger.refused := by
    show (if _ && false then _ else _) = _
    rw [Bool.and_false, if_neg Bool.false_ne_true]
  have hidle := awaiting_of_heard h hheard .accept
  have hquitted := (congrArg Context.quitted hcontext).trans h.quitted
  have hstate : (after.state.context child).state = .envelopeFrom ∨
      (after.state.context child).state = .envelopeRecipient := by
    rw [show (after.state.context child).state = _ from congrArg Context.state hcontext]
    exact h.state
  have hpending : ∀ state ∈ (after.state.context child).nextStates, state = .envelopeRecipient := by
    rw [show (after.state.context child).nextStates = _ from congrArg Context.nextStates hcontext]
    exact h.pending
  have hnone : (after.state.context child).messageResult = none :=
    congrArg Context.messageResult hcontext
  cases hresult : (ledger.state.context child).messageResult with
  | none =>
      have hsame := hnone.trans hresult.symm
      exact h.frame hsent hrefused (next_handedOver hsame) hsame hquitted hstate hpending
        (Or.inl hidle)
  | some result =>
      have hopen : ledger.handedOver = none := by
        cases hover : ledger.handedOver with
        | none => rfl
        | some handed =>
            rw [(h.closed handed hover).1] at hresult
            exact absurd hresult.symm (Option.some_ne_none _)
      have hover : after.handedOver = some result := by
        show (if Option.isSome (ledger.state.context child).messageResult &&
          Option.isNone (after.state.context child).messageResult then _ else _) = _
        rw [hresult, hnone]
        rfl
      have hbalanced := h.balanced hopen
      rw [hresult] at hbalanced
      exact
        { quitted := hquitted
          state := hstate
          pending := hpending
          awaiting := Or.inl hidle
          balanced := by
            intro hopen'
            rw [show (ledger.next child (.receive .accept)).handedOver = _ from hover] at hopen'
            exact absurd hopen' (Option.some_ne_none _)
          closed := by
            intro handed hhanded
            rw [show (ledger.next child (.receive .accept)).handedOver = _ from hover] at hhanded
            obtain rfl := Option.some.inj hhanded
            rw [AllRefused, hsent, show (ledger.next child (.receive .accept)).refused = _ from
              hrefused]
            exact ⟨hnone, hbalanced.recipients, hidle, hnot⟩ }

theorem refusal_keeps {reply : RecipientReply} (hrefuses : reply.refuses = true)
    (hwaiting : ledger.awaiting ≠ [])
    (hstate : (ledger.state.context child).state = .envelopeRecipient) :
    Invariant child (ledger.next child (.receive reply)) := by
  obtain ⟨hsent, -⟩ := @next_of_unsent child ledger (.receive reply) (by simp)
  let context := ledger.state.context child
  let after := ledger.next child (.receive reply)
  obtain ⟨address, haddress, hwaits⟩ := h.awaiting.resolve_left hwaiting
  have hopen : ledger.handedOver = none := by
    cases hover : ledger.handedOver with
    | none => rfl
    | some handed => exact absurd (h.closed handed hover).2.2.1 hwaiting
  have hbalanced := h.balanced hopen
  have hcontext : after.state.context child =
      { context.removeCurrentRecipient reply.failed with timeout := none } := by
    show (receive onlyListen child reply.reply ledger.state).state.context child = _
    rw [receive_state, hheard, if_pos rfl]
    exact decode_recipient_refusal child ledger.state hrefuses h.quitted hstate
  have hrefused : after.refused = ledger.refused ++ [address] := by
    show (if _ && _ then ledger.refused ++ ledger.awaiting.take 1 else _) = _
    rw [hheard, hrefuses, Bool.true_and, if_pos rfl, haddress]
    rfl
  have hidle := awaiting_of_heard h hheard reply
  obtain ⟨removed, hremoved', hrecipients, hrefusals⟩ :=
    removeCurrentRecipient_result hwaits.current reply.failed
  have hremoved : (after.state.context child).messageResult = some removed :=
    (congrArg Context.messageResult hcontext).trans hremoved'
  have hover : after.handedOver = none := by
    show (if Option.isSome context.messageResult &&
      Option.isNone (after.state.context child).messageResult then _ else _) = _
    rw [hremoved, Option.isNone_some, Bool.and_false, if_neg Bool.false_ne_true]
    exact hopen
  exact
    { quitted := (congrArg Context.quitted hcontext).trans h.quitted
      state := Or.inr ((congrArg Context.state hcontext).trans hstate)
      pending := by
        rw [show (after.state.context child).nextStates = _ from
          congrArg Context.nextStates hcontext]
        exact h.pending
      awaiting := Or.inl hidle
      balanced := by
        intro _
        rw [show ((ledger.next child (.receive reply)).state.context child).messageResult = _ from
          hremoved, hsent, show (ledger.next child (.receive reply)).refused = _ from hrefused]
        exact
          { recipients := by
              rw [Option.getD_some, hrecipients]
              have hput := (List.perm_cons_erase hwaits.recorded).symm
              have hmoved : ((context.messageResult.getD .empty).recipients.erase address ++
                  (ledger.refused ++ [address])).Perm
                  ((address :: (context.messageResult.getD .empty).recipients.erase address) ++
                    ledger.refused) := by
                rw [← List.append_assoc]
                apply List.perm_append_comm.trans
                rfl
              exact hmoved.trans ((hput.append_right _).trans hbalanced.recipients)
            refusals := by
              rw [Option.getD_some, List.length_append, List.length_singleton]
              exact hrefusals.trans (congrArg (· + 1) hbalanced.refusals) }
      closed := by
        intro handed hhanded
        rw [show (ledger.next child (.receive reply)).handedOver = _ from hover] at hhanded
        exact absurd hhanded.symm (Option.some_ne_none _) }

end Heard

theorem receive_keeps (h : Invariant child ledger) {reply : RecipientReply}
    (hmet : Met child ledger (.receive reply)) :
    Invariant child (ledger.next child (.receive reply)) := by
  by_cases hheard : (wire (ledger.state.context child)).heard = true
  · obtain ⟨hrefusal, haccept⟩ := hmet hheard
    cases reply with
    | «continue» => exact continue_keeps h hheard
    | accept => exact accept_keeps h hheard (haccept rfl)
    | reject => exact refusal_keeps h hheard rfl (hrefusal rfl).1 (hrefusal rfl).2
    | temporaryFailure => exact refusal_keeps h hheard rfl (hrefusal rfl).1 (hrefusal rfl).2
    | replyCode code extendedCode message =>
        exact refusal_keeps h hheard rfl (hrefusal rfl).1 (hrefusal rfl).2
  · exact receive_unheard_keeps h (Bool.eq_false_iff.mpr hheard)

theorem Invariant.next (h : Invariant child ledger) {event : RecipientEvent}
    (hmet : Met child ledger event) : Invariant child (ledger.next child event) := by
  cases event with
  | recipient address => exact recipient_keeps h hmet
  | flushed => exact flushed_keeps h
  | receive reply => exact receive_keeps h hmet
  | expireTimeout => exact expireTimeout_keeps h

/-- The account of a message that has just begun. -/
def start (s : State) : RecipientLedger := ⟨s, [], [], [], none⟩

theorem Invariant.start {s : State} (h : Begun (s.context child)) :
    Invariant child (start s) where
  quitted := h.quitted
  state := Or.inl h.state
  pending := by
    rw [show ((RecipientLedger.start s).state.context child).nextStates = _ from h.nextStates]
    intro state hstate
    exact absurd hstate List.not_mem_nil
  awaiting := Or.inl rfl
  balanced := by
    intro _
    have hempty : (s.context child).messageResult.getD .empty = .empty := by
      rcases h.messageResult with hnone | hsome
      · rw [hnone]
        rfl
      · rw [hsome]
        rfl
    rw [show (RecipientLedger.start s).state = s from rfl, hempty]
    exact ⟨List.Perm.refl [], rfl⟩
  closed := fun _ hover => absurd hover (Option.some_ne_none _).symm

/-- In every run over the recipients of a message whose events all meet the condition, the result
of the message accounts for the recipients after every event. -/
theorem accounted_along (child : ChildId) (s : State) (hbegun : Begun (s.context child))
    (events : List RecipientEvent) (hmet : Along (next child) (Met child) (start s) events) :
    Along (next child) (fun ledger event => Accounted child (ledger.next child event)) (start s)
      events := by
  have hstep : ∀ ledger event, Invariant child ledger → Met child ledger event →
      Invariant child (ledger.next child event) ∧ Accounted child (ledger.next child event) :=
    fun ledger event h hevent => ⟨h.next hevent, (h.next hevent).accounted⟩
  exact Along.of_invariant hstep (Invariant.start hbegun) hmet

/-- The context after the sender of its first message has been accepted. -/
def mailed : State :=
  [ContextEvent.negotiate ⟨6, 0#32, 0#32⟩, .flushed,
    .receive (.negotiateReply ⟨6, 0#32, 0#32⟩), .envelopeFrom [115], .flushed,
    .receive .continue].foldl (fun s event => (event.program 0 s).state) Watched.alone

theorem begun_mailed : Begun (mailed.context 0) where
  state := rfl
  nextStates := rfl
  timeout := rfl
  quitted := rfl
  messageResult := Or.inr rfl

/-- A recipient that is refused the first time and accepted the second. -/
def twiceRun : List RecipientEvent :=
  [.recipient [97], .flushed, .receive .reject, .recipient [97], .flushed, .receive .continue]

theorem accounted_along_twice : Along (next 0)
    (fun ledger event => Accounted 0 (ledger.next 0 event)) (start mailed) twiceRun := by
  apply accounted_along 0 mailed begun_mailed twiceRun
  refine ⟨⟨rfl, rfl, rfl, rfl⟩, trivial, ?_, ⟨rfl, rfl, rfl, rfl⟩, trivial, ?_, trivial⟩
  · intro _
    exact ⟨fun _ => ⟨by decide, rfl⟩, fun h => absurd h (by decide)⟩
  · intro _
    exact ⟨fun h => absurd h (by decide), fun h => absurd h (by decide)⟩

/-- A second recipient is given while the first waits for its reply. -/
def busyRun : List RecipientEvent :=
  [.recipient [97], .flushed, .recipient [98], .receive .reject]

/-- The second recipient is recorded although it is not sent, and the refusal of the first takes
it out again. -/
theorem not_accounted_along_busy : Begun (mailed.context 0) ∧ ¬Along (next 0)
    (fun ledger event => Accounted 0 (ledger.next 0 event)) (start mailed) busyRun := by
  refine ⟨begun_mailed, ?_⟩
  intro h
  have hlength := h.2.2.2.1.recorded.length_eq
  revert hlength
  decide

end RecipientLedger

end MilterManager.Children
