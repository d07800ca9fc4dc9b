import MilterManager.Children.Connection

/-!
# What the connection to a child keeps

The functions of `Children/Connection.lean` change the data of one child, write packets and enter
handlers; what holds of these programs holds of all of them. It may be that an invariant is kept,
or that a run agrees with another one that stores the body elsewhere: no connection looks at where
it is stored. `allowed` are the callbacks whose handlers are such programs.
-/

namespace MilterManager.Children

open MilterManager.Base MilterManager.Core MilterManager.Server MilterManager.Base.Proc.Law

/-- Where the body of a message is stored, and what of it was sent. -/
structure Storage where
  body : Option Bytes
  bodyFile : Option BodyFile
  bodyLimit : Option Nat
  sentBodyOffset : Nat

/-- The part of the object that stores the body. -/
def State.storage (s : State) : Storage :=
  ⟨s.body, s.bodyFile, s.bodyLimit, s.sentBodyOffset⟩

/-- The object with its body stored otherwise. -/
def State.withStorage (storage : Storage) (s : State) : State :=
  { s with
    body := storage.body
    bodyFile := storage.bodyFile
    bodyLimit := storage.bodyLimit
    sentBodyOffset := storage.sentBodyOffset }

/-- A property of the programs of the children object that their constructs keep, wherever the body
is stored. -/
abbrev ProgramLaw := Proc.Law Action State.withStorage

/-- To keep an invariant is such a property. -/
abbrev ProgramLaw.keeps (inv : List Action → State → Prop) : ProgramLaw :=
  Proc.Law.keeps State.withStorage inv

/-- The signal that a reply of a child turns into. -/
def replyCallback : Reply → Callback
  | .negotiateReply option => .negotiateReply option
  | .continue => .continue
  | .replyCode code extendedCode message => .replyCode code extendedCode message
  | .temporaryFailure => .temporaryFailure
  | .reject => .reject
  | .accept => .accept
  | .discard => .discard
  | .addHeader name value => .addHeader name value
  | .insertHeader index name value => .insertHeader index name value
  | .changeHeader name index value => .changeHeader name index value
  | .deleteHeader name index => .deleteHeader name index
  | .changeFrom sender parameters => .changeFrom sender parameters
  | .addRecipient recipient parameters => .addRecipient recipient parameters
  | .deleteRecipient recipient => .deleteRecipient recipient
  | .replaceBody chunk => .replaceBody chunk
  | .progress => .progress
  | .quarantine reason => .quarantine reason
  | .connectionFailure => .connectionFailure
  | .shutdown => .shutdown
  | .skip => .skip

/-- What becomes of a child besides its state: whether it negotiated and whether it left. -/
def standing (context : Context) : Bool × Bool := (context.negotiated, context.quitted)

/-- The data of a child change as its connection changes them: its setup and its standing stay, so
does its state unless it takes one of the states in `enters`, and no negotiation is queued. -/
def Follows (enters : ContextState → Prop) (context next : Context) : Prop :=
  next.setup = context.setup ∧ (next.state = context.state ∨ enters next.state) ∧
    standing next = standing context ∧
      (.negotiate ∈ next.nextStates → .negotiate ∈ context.nextStates)

/-- Enter a handler unless none is connected. -/
def enter (call : Handlers) (child : ChildId) (callback : Callback) : Program PUnit := do
  let context ← contextOf child
  if context.handlers = 0 then pure ⟨⟩ else call child callback

/-- The callbacks that are entered without a look at the handlers of the child: those of the
connection attempts, and the continue of a child that a command is not written to. -/
def isDirect : Callback → Bool
  | .connectionTimeout _ | .connectionError _ _ | .ready _ | .continue => true
  | _ => false

/-- What holds of the programs that change the data of a child as its connection does, of those that
write packets to it after the negotiation, and of the handlers of the allowed callbacks; failures of
the connection are always allowed. -/
structure ConnectionKeeps (law : ProgramLaw) (call : Handlers)
    (enters : ContextState → Prop) (allowed : Callback → Prop) : Prop where
  context : ∀ child f, (∀ context, Follows enters context (f context)) →
    law.Holds (updateContext child f)
  sent : ∀ child packet, (∀ option, packet ≠ .negotiate option) →
    law.Holds (Proc.record fun _ => Action.sent child packet)
  called : ∀ child callback, allowed callback → isDirect callback → law.Holds (call child callback)
  entered : ∀ child callback, allowed callback → law.Holds (enter call child callback)
  error : ∀ domain, domain ≠ .children → allowed (.error domain)
  connectionError : ∀ attempt domain, domain ≠ .children → allowed (.connectionError attempt domain)

namespace ConnectionKeeps

variable {law : ProgramLaw} {call : Handlers} {enters : ContextState → Prop}
variable {allowed : Callback → Prop} {child : ChildId} {callback : Callback}

theorem of_contextOf : law.Holds (contextOf child) :=
  Holds.getState (fun _ _ => rfl) fun _ => Holds.pure _

/-- What holds of a handler in any case holds of entering it. -/
theorem of_enter (h : law.Holds (call child callback)) :
    law.Holds (enter call child callback) :=
  of_contextOf.bind fun _ => Holds.ite (Holds.pure _) h

/-- What was true of an earlier trace and stays so is kept besides. -/
theorem and_past {inv : List Action → State → Prop} {P : List Action → Prop}
    (hP : ∀ front back, P front → P (front ++ back))
    (h : ConnectionKeeps (.keeps inv) call enters allowed) :
    ConnectionKeeps (.keeps fun past s => inv past s ∧ P past) call enters allowed where
  context child f hf := (h.context child f hf).and_past hP
  sent child packet hpacket := (h.sent child packet hpacket).and_past hP
  called child callback hcallback hdirect := (h.called child callback hcallback hdirect).and_past hP
  entered child callback hcallback := (h.entered child callback hcallback).and_past hP
  error := h.error
  connectionError := h.connectionError

theorem of_emitOn (h : ConnectionKeeps law call enters allowed) (hcallback : allowed callback) :
    law.Holds (emitOn call child callback) := by
  refine of_contextOf.bind fun context => Holds.each _ ?_
  intro _ _
  exact h.entered child callback hcallback

theorem of_emitOnAttempts {callback : Nat → Callback}
    (hcalled : ∀ attempt, law.Holds (call child (callback attempt))) :
    law.Holds (emitOnAttempts call child callback) := by
  refine Holds.getState (fun _ _ => rfl) fun s => Holds.each _ ?_
  intro data _
  exact Holds.getState (fun _ _ => rfl) fun s => Holds.ite
    (hcalled data.id) (Holds.pure _)

theorem of_emitErrorOn (h : ConnectionKeeps law call enters allowed) {domain : ErrorDomain}
    (hdomain : domain ≠ .children) : law.Holds (emitErrorOn call child domain) :=
  (of_emitOnAttempts fun attempt =>
    h.called child _ (h.connectionError attempt domain hdomain) rfl).bind fun _ =>
      h.of_emitOn (h.error domain hdomain)

theorem of_disableTimeout (h : ConnectionKeeps law call enters allowed) :
    law.Holds (disableTimeout child) :=
  h.context child _ fun _ => ⟨rfl, .inl rfl, rfl, id⟩

theorem of_registerTimeout (h : ConnectionKeeps law call enters allowed) {timeout : Timeout} :
    law.Holds (registerTimeout child timeout) :=
  h.context child _ fun _ => ⟨rfl, .inl rfl, rfl, id⟩

theorem of_setContextState (h : ConnectionKeeps law call enters allowed) {state : ContextState}
    (hstate : enters state) : law.Holds (setContextState child state) :=
  h.context child _ fun _ => ⟨rfl, .inr hstate, rfl, id⟩

theorem of_writePacketNow (h : ConnectionKeeps law call enters allowed) {packet : Packet}
    {nextState : ContextState}
    (hsent : law.Holds (Proc.record fun _ => Action.sent child packet))
    (hqueued : law.Holds (updateContext child fun context =>
      { context with nextStates := context.nextStates ++ [nextState] })) :
    law.Holds (writePacketNow call child packet nextState) := by
  unfold writePacketNow
  refine of_contextOf.bind fun context => Holds.ite ?_ ?_
  · exact h.of_disableTimeout.bind fun _ =>
      (h.of_emitErrorOn (by decide)).bind fun _ => Holds.pure _
  · exact (Holds.when fun _ => hsent).bind fun _ =>
      Holds.bind hqueued fun _ => Holds.pure _

theorem of_writePacket (h : ConnectionKeeps law call enters allowed) {packet : Packet}
    {nextState : ContextState}
    (hsent : law.Holds (Proc.record fun _ => Action.sent child packet))
    (hqueued : law.Holds (updateContext child fun context =>
      { context with nextStates := context.nextStates ++ [nextState] })) :
    law.Holds (writePacket call child packet nextState) := by
  unfold writePacket
  refine Holds.ite (h.of_writePacketNow hsent hqueued) ?_
  refine of_contextOf.bind fun context => Holds.ite ?_ ?_
  · exact (h.of_emitErrorOn (by decide)).bind fun _ => Holds.pure _
  · exact h.of_registerTimeout.bind fun _ => h.of_writePacketNow hsent hqueued

/-- A command other than that of the negotiation. -/
theorem of_writeCommand (h : ConnectionKeeps law call enters allowed) {packet : Packet}
    {nextState : ContextState} (hpacket : ∀ option, packet ≠ .negotiate option)
    (hstate : nextState ≠ .negotiate) :
    law.Holds (writePacket call child packet nextState) := by
  refine h.of_writePacket (h.sent child packet hpacket) (h.context child _ fun context => ?_)
  refine ⟨rfl, .inl rfl, rfl, fun hqueued => ?_⟩
  rcases List.mem_append.mp hqueued with hqueued | hqueued
  · exact hqueued
  · exact absurd (List.mem_singleton.mp hqueued).symm hstate

theorem of_stopOnState (h : ConnectionKeeps law call enters allowed) (hstopped : allowed .stopped)
    {state : ContextState} (hstate : enters state) :
    law.Holds (stopOnState call child state) := by
  unfold stopOnState
  refine (h.of_setContextState hstate).bind fun _ => (h.of_emitOn hstopped).bind fun _ => ?_
  exact of_contextOf.bind fun context => Holds.ite
    (h.context child _ fun _ => ⟨rfl, .inl rfl, rfl, id⟩) (Holds.pure _)

theorem of_sendOrSkip (h : ConnectionKeeps law call enters allowed) {state : ContextState}
    {skips : Context → Bool} {send : Program Bool} (hstate : enters state)
    (hcallback : allowed callback) (hsend : law.Holds send) :
    law.Holds (sendOrSkip call child state callback skips send) := by
  unfold sendOrSkip
  refine of_contextOf.bind fun context => Holds.ite ?_ hsend
  exact (h.of_setContextState hstate).bind fun _ =>
    (h.of_emitOn hcallback).bind fun _ => Holds.pure _

theorem of_askAndSend (h : ConnectionKeeps law call enters allowed) (hstopped : allowed .stopped)
    {state : ContextState} {prepare : Context → Context} {skips : Context → Bool}
    {send : Program Bool} (hstate : enters state)
    (hprepare : ∀ context, Follows enters context (prepare context)) (hcallback : allowed callback)
    (hsend : law.Holds send) :
    law.Holds (askAndSend call child state prepare callback skips send) := by
  unfold askAndSend
  refine of_contextOf.bind fun context => Holds.ite ?_ ?_
  · exact (h.of_stopOnState hstopped hstate).bind fun _ => Holds.pure _
  · exact Holds.bind (h.context child _ hprepare) fun _ => h.of_sendOrSkip hstate hcallback hsend

theorem of_serverNegotiate (h : ConnectionKeeps law call enters allowed) {option : MilterOption}
    (hoption : law.Holds (updateContext child fun context =>
      { context with option := some option }))
    (hsent : law.Holds (Proc.record fun _ => Action.sent child (.negotiate option)))
    (hqueued : law.Holds (updateContext child fun context =>
      { context with nextStates := context.nextStates ++ [.negotiate] })) :
    law.Holds (serverNegotiate call child option) :=
  Holds.bind hoption fun _ => h.of_writePacket hsent hqueued

theorem of_serverQuit (h : ConnectionKeeps law call enters allowed)
    (hquit : law.Holds (updateContext child fun context => { context with quitted := true })) :
    law.Holds (serverQuit call child) :=
  Holds.bind hquit fun _ => h.of_writeCommand (by simp) (by simp)

theorem of_serverAbort (h : ConnectionKeeps law call enters allowed) :
    law.Holds (serverAbort call child) :=
  (h.of_writeCommand (by simp) (by simp)).bind fun _ =>
    Holds.bind (h.context child _ fun _ => ⟨rfl, .inl rfl, rfl, id⟩) fun _ => Holds.pure _

theorem of_flushBody (h : ConnectionKeeps law call enters allowed) :
    law.Holds (flushBody call child) := by
  unfold flushBody
  refine Holds.bind (h.context child _ fun _ => ⟨rfl, .inl rfl, rfl, id⟩) fun _ =>
    of_contextOf.bind fun context => ?_
  refine (h.of_writeCommand (by simp) (by simp)).bind fun written => Holds.ite ?_ (Holds.pure _)
  exact Holds.bind (h.context child _ fun _ => ⟨rfl, .inl rfl, rfl, id⟩) fun _ => Holds.pure _

section Commands

variable (h : ConnectionKeeps law call enters allowed) (hstopped : allowed .stopped)

include h

theorem of_ensureMessageResult :
    law.Holds (updateContext child Context.ensureMessageResult) :=
  h.context child _ fun _ => ⟨rfl, .inl rfl, rfl, id⟩

include hstopped

theorem of_serverConnect {hostName : Bytes} (hstate : enters .connect)
    (hcontinue : allowed .continue) : law.Holds (serverConnect call child hostName) :=
  h.of_askAndSend hstopped hstate (fun _ => ⟨rfl, .inl rfl, rfl, id⟩) hcontinue
    (h.of_writeCommand (by simp) (by simp))

theorem of_serverHelo {fqdn : Bytes} (hstate : enters .helo) (hcontinue : allowed .continue) :
    law.Holds (serverHelo call child fqdn) :=
  h.of_askAndSend hstopped hstate (fun _ => ⟨rfl, .inl rfl, rfl, id⟩) hcontinue
    (h.of_writeCommand (by simp) (by simp))

theorem of_serverEnvelopeFrom {sender : Bytes} (hstate : enters .envelopeFrom)
    (hcontinue : allowed .continue) : law.Holds (serverEnvelopeFrom call child sender) :=
  h.of_ensureMessageResult.bind fun _ =>
    h.of_askAndSend hstopped hstate (fun _ => ⟨rfl, .inl rfl, rfl, id⟩) hcontinue
      (h.of_writeCommand (by simp) (by simp))

theorem of_serverEnvelopeRecipient {recipient : Bytes} (hstate : enters .envelopeRecipient)
    (hcontinue : allowed .continue) :
    law.Holds (serverEnvelopeRecipient call child recipient) := by
  unfold serverEnvelopeRecipient
  refine Holds.bind (h.context child _ fun _ => ⟨rfl, .inl rfl, rfl, id⟩) fun _ => ?_
  exact h.of_askAndSend hstopped hstate (fun _ => ⟨rfl, .inl rfl, rfl, id⟩) hcontinue
    (h.of_writeCommand (by simp) (by simp))

theorem of_serverData (hstate : enters .data) (hcontinue : allowed .continue) :
    law.Holds (serverData call child) :=
  h.of_ensureMessageResult.bind fun _ =>
    h.of_askAndSend hstopped hstate (fun _ => ⟨rfl, .inl rfl, rfl, id⟩) hcontinue
      (h.of_writeCommand (by simp) (by simp))

omit hstopped in
theorem of_serverUnknown {command : Bytes} (hstate : enters .unknown)
    (hcontinue : allowed .continue) : law.Holds (serverUnknown call child command) :=
  h.of_sendOrSkip hstate hcontinue (h.of_writeCommand (by simp) (by simp))

theorem of_serverHeader {name : Bytes} {value : Option Bytes} (hstate : enters .header)
    (hcontinue : allowed .continue) : law.Holds (serverHeader call child name value) :=
  h.of_ensureMessageResult.bind fun _ =>
    h.of_askAndSend hstopped hstate (fun _ => ⟨rfl, .inl rfl, rfl, id⟩) hcontinue
      (h.of_writeCommand (by simp) (by simp))

theorem of_serverEndOfHeader (hstate : enters .endOfHeader) (hcontinue : allowed .continue) :
    law.Holds (serverEndOfHeader call child) :=
  h.of_ensureMessageResult.bind fun _ =>
    h.of_askAndSend hstopped hstate (fun _ => ⟨rfl, .inl rfl, rfl, id⟩) hcontinue
      (h.of_writeCommand (by simp) (by simp))

theorem of_serverBody {chunk : Bytes} (hstate : enters .body) (hskip : allowed .skip) :
    law.Holds (serverBody call child chunk) := by
  refine h.of_ensureMessageResult.bind fun _ => ?_
  refine h.of_askAndSend hstopped hstate (fun _ => ⟨rfl, .inl rfl, rfl, id⟩) hskip ?_
  exact Holds.bind (h.context child _ fun _ => ⟨rfl, .inl rfl, rfl, id⟩) fun _ => h.of_flushBody

theorem of_serverEndOfMessage {chunk : Bytes} (hstate : enters .endOfMessage)
    (hcontinue : allowed .continue) : law.Holds (serverEndOfMessage call child chunk) :=
  h.of_ensureMessageResult.bind fun _ =>
    h.of_askAndSend hstopped hstate (fun _ => ⟨rfl, .inl rfl, rfl, id⟩) hcontinue
      (h.of_writeCommand (by simp) (by simp))

end Commands

theorem of_processNextStateBody (h : ConnectionKeeps law call enters allowed) :
    law.Holds (processNextStateBody call child) := by
  unfold processNextStateBody
  refine of_contextOf.bind fun context => Holds.ite (Holds.pure _) ?_
  exact Holds.ite (h.of_flushBody.bind fun _ => Holds.pure _) h.of_registerTimeout

theorem of_processNextState (h : ConnectionKeeps law call enters allowed)
    {shutdown : Program PUnit} (hshutdown : law.Holds shutdown) {nextState : ContextState}
    (hstate : enters nextState) :
    law.Holds (processNextState shutdown call child nextState) := by
  unfold processNextState
  refine Holds.ite (h.of_emitErrorOn (by decide)) ?_
  refine h.of_disableTimeout.bind fun _ => ?_
  split
  · refine Holds.bind (h.context child _ fun context => ?_) fun _ => h.of_registerTimeout
    split
    · exact ⟨rfl, .inr hstate, rfl, id⟩
    · exact ⟨rfl, .inl rfl, rfl, id⟩
  · exact (h.of_setContextState hstate).bind fun _ => h.of_processNextStateBody
  · exact hshutdown.bind fun _ => h.of_setContextState hstate
  · exact (h.of_setContextState hstate).bind fun _ => Holds.bind (h.context child _ fun _ =>
      ⟨rfl, .inl rfl, rfl, id⟩) fun _ => h.context child _ fun _ => ⟨rfl, .inl rfl, rfl, id⟩
  · refine Holds.bind (Holds.when fun _ => h.context child _ fun _ =>
      ⟨rfl, .inl rfl, rfl, id⟩) fun _ => ?_
    refine (h.of_setContextState hstate).bind fun _ => of_contextOf.bind fun context => ?_
    exact Holds.ite h.of_registerTimeout (Holds.pure _)

theorem of_processNextStates (h : ConnectionKeeps law call enters allowed)
    {child : ChildId} {shutdown : Program PUnit} (hshutdown : law.Holds shutdown)
    (hstates : ∀ state, enters state) : law.Holds (processNextStates shutdown call child) := by
  unfold processNextStates
  refine of_contextOf.bind fun context => ?_
  refine Holds.bind (h.context child _ fun _ => ⟨rfl, .inl rfl, rfl, by simp⟩) fun _ => ?_
  exact Holds.each _ fun _ _ => h.of_processNextState hshutdown (hstates _)

theorem of_writerShutdown (h : ConnectionKeeps law call enters allowed)
    (hnext : law.Holds (processNextStates (pure ⟨⟩) call child)) :
    law.Holds (writerShutdown call child) := by
  unfold writerShutdown
  refine of_contextOf.bind fun context => Holds.ite ?_ (Holds.pure _)
  refine Holds.bind (h.context child _ fun _ => ⟨rfl, .inl rfl, rfl, id⟩) fun _ => ?_
  refine Holds.getState (fun _ _ => rfl) fun s => ?_
  refine Holds.bind (Holds.when fun _ => h.of_emitErrorOn (by decide)) fun _ => ?_
  exact Holds.when fun _ => hnext

theorem of_emitFinished (h : ConnectionKeeps law call enters allowed)
    (hfinished : allowed .finished)
    (hnext : law.Holds (processNextStates (pure ⟨⟩) call child)) :
    law.Holds (emitFinished call child) := by
  refine (h.of_emitOn hfinished).bind fun _ => ?_
  refine Holds.bind (h.context child _ fun _ => ⟨rfl, .inl rfl, rfl, id⟩) fun _ => ?_
  exact h.of_writerShutdown hnext

theorem of_agentShutdown (h : ConnectionKeeps law call enters allowed)
    (hfinished : allowed .finished)
    (hnext : law.Holds (processNextStates (pure ⟨⟩) call child)) :
    law.Holds (agentShutdown call child) := by
  unfold agentShutdown
  refine of_contextOf.bind fun context => ?_
  refine (Holds.when fun _ => ?_).bind fun _ => h.of_writerShutdown hnext
  exact h.of_emitFinished hfinished hnext

theorem of_flushed (h : ConnectionKeeps law call enters allowed) (hfinished : allowed .finished)
    (hstates : ∀ state, enters state) : law.Holds (flushed call child) := by
  unfold flushed
  refine of_contextOf.bind fun context => Holds.ite ?_ (Holds.pure _)
  have hnext := @of_processNextStates law call enters allowed h child _ (Holds.pure ⟨⟩) hstates
  exact h.of_processNextStates (h.of_agentShutdown hfinished hnext) hstates

theorem of_expireTimeout (h : ConnectionKeeps law call enters allowed)
    (hfinished : allowed .finished)
    (hnext : law.Holds (processNextStates (pure ⟨⟩) call child))
    (hconnection : ∀ attempt, allowed (.connectionTimeout attempt))
    (hwriting : allowed .writingTimeout) (hreading : allowed .readingTimeout)
    (hendOfMessage : allowed .endOfMessageTimeout) :
    law.Holds (expireTimeout call child) := by
  have hgone {callback : Callback} (hcallback : allowed callback) : law.Holds (do
      registerTimeout child .expired
      emitOn call child callback
      agentShutdown call child) :=
    h.of_registerTimeout.bind fun _ => (h.of_emitOn hcallback).bind fun _ =>
      h.of_agentShutdown hfinished hnext
  unfold expireTimeout
  refine of_contextOf.bind fun context => ?_
  split
  · exact Holds.pure _
  · exact Holds.pure _
  · exact h.of_registerTimeout.bind fun _ =>
      of_emitOnAttempts fun attempt => h.called child _ (hconnection attempt) rfl
  · exact hgone hwriting
  · exact hgone hreading
  · exact hgone hendOfMessage

theorem of_connectWatch (h : ConnectionKeeps law call enters allowed)
    (hready : ∀ attempt, law.Holds (call child (.ready attempt))) {established : Bool} :
    law.Holds (connectWatch call child established) := by
  unfold connectWatch
  refine of_contextOf.bind fun context => Holds.ite ?_ (Holds.pure _)
  refine Holds.bind (h.context child _ fun _ => ⟨rfl, .inl rfl, rfl, id⟩) fun _ =>
    Holds.ite ?_ (h.of_emitErrorOn (by decide))
  exact Holds.bind (h.context child _ fun _ => ⟨rfl, .inl rfl, rfl, id⟩) fun _ =>
    of_emitOnAttempts hready

theorem of_decoderNegotiateReply (h : ConnectionKeeps law call enters allowed)
    {option : MilterOption}
    (hoption : ∀ own combined, MilterOption.combine own option = some combined →
      law.Holds (updateContext child fun context => { context with option := some combined }))
    (hnegotiated : law.Holds
      (updateContext child fun context => { context with negotiated := true }))
    (hreply : allowed (.negotiateReply option)) :
    law.Holds (decoderNegotiateReply call child option) := by
  unfold decoderNegotiateReply
  refine of_contextOf.bind fun context => h.of_disableTimeout.bind fun _ => ?_
  split
  · exact h.of_emitErrorOn (by decide)
  · next combined hcombine =>
      refine (hoption _ combined hcombine).bind fun _ => ?_
      refine Holds.ite ?_ (h.of_emitErrorOn (by decide))
      refine Holds.ite ?_ (Holds.pure _)
      exact Holds.bind hnegotiated fun _ => h.of_emitOn hreply

theorem of_clearProcessBodyCount (h : ConnectionKeeps law call enters allowed)
    (hend : enters .endOfMessage) :
    law.Holds (updateContext child Context.clearProcessBodyCount) := by
  refine h.context child _ fun context => ⟨rfl, ?_, rfl, id⟩
  unfold Context.clearProcessBodyCount
  by_cases hsent : context.sentEndOfMessage
  · exact .inr (by simpa [hsent] using hend)
  · exact .inl (by simp [hsent])

theorem of_decrementProcessBodyCount (h : ConnectionKeeps law call enters allowed)
    (hcontinue : allowed .continue) (hend : enters .endOfMessage) :
    law.Holds (decrementProcessBodyCount call child) := by
  unfold decrementProcessBodyCount
  refine of_contextOf.bind fun context => ?_
  split
  · exact Holds.pure _
  · refine Holds.ite ?_ (h.context child _ fun _ => ⟨rfl, .inl rfl, rfl, id⟩)
    refine Holds.bind (h.context child _ fun _ => ⟨rfl, .inl rfl, rfl, id⟩) fun _ => ?_
    refine (h.of_emitOn hcontinue).bind fun _ => h.context child _ fun context => ⟨rfl, ?_, rfl, id⟩
    by_cases hsent : context.sentEndOfMessage
    · exact .inr (by simpa [hsent] using hend)
    · exact .inl (by simp [hsent])

theorem of_decoderContinue (h : ConnectionKeeps law call enters allowed)
    (hcontinue : allowed .continue) (hend : enters .endOfMessage) :
    law.Holds (decoderContinue call child) := by
  have hconclude : law.Holds (updateContext child Context.emitMessageProcessedSignal) :=
    h.context child _ fun _ => ⟨rfl, .inl rfl, rfl, id⟩
  unfold decoderContinue
  refine of_contextOf.bind fun context => h.of_disableTimeout.bind fun _ => ?_
  split
  · refine Holds.ite ?_ (Holds.pure _)
    refine (h.of_decrementProcessBodyCount hcontinue hend).bind fun _ => ?_
    refine of_contextOf.bind fun context => Holds.ite ?_ (Holds.pure _)
    exact h.of_flushBody.bind fun _ => Holds.pure _
  case h_11 => exact h.of_emitErrorOn (by decide)
  all_goals
    refine Holds.ite ?_ (Holds.pure _)
    refine (h.of_emitOn hcontinue).bind fun _ => of_contextOf.bind fun context => ?_
    exact Holds.ite hconclude (Holds.pure _)

theorem of_concludeReply (h : ConnectionKeeps law call enters allowed)
    {concludes : ContextState → Bool} : law.Holds (concludeReply child concludes) := by
  unfold concludeReply
  refine of_contextOf.bind fun context => Holds.ite ?_ (Holds.pure _)
  exact h.context child _ fun _ => ⟨rfl, .inl rfl, rfl, id⟩

theorem of_decoderReplyCode (h : ConnectionKeeps law call enters allowed) {code : Nat}
    {extendedCode message : Option Bytes}
    (hreply : allowed (.replyCode code extendedCode message)) (hend : enters .endOfMessage) :
    law.Holds (decoderReplyCode call child code extendedCode message) := by
  unfold decoderReplyCode
  refine of_contextOf.bind fun context => ?_
  refine Holds.bind
    (Holds.when fun _ => h.context child _ fun _ => ⟨rfl, .inl rfl, rfl, id⟩) fun _ => ?_
  refine h.of_disableTimeout.bind fun _ => ?_
  split
  case h_11 => exact h.of_emitErrorOn (by decide)
  all_goals
    refine Holds.ite ?_ (Holds.pure _)
    refine Holds.bind (Holds.when fun _ => h.of_clearProcessBodyCount hend) fun _ => ?_
    exact (h.of_emitOn hreply).bind fun _ => h.of_concludeReply

theorem of_decoderFinalStatus (h : ConnectionKeeps law call enters allowed)
    {concludes : ContextState → Bool} (hreply : allowed callback) (hend : enters .endOfMessage) :
    law.Holds (decoderFinalStatus call child callback concludes) := by
  unfold decoderFinalStatus
  refine h.of_disableTimeout.bind fun _ => of_contextOf.bind fun context => ?_
  refine Holds.ite ?_ (Holds.pure _)
  refine (h.of_emitOn hreply).bind fun _ => h.of_concludeReply.bind fun _ => ?_
  exact of_contextOf.bind fun context =>
    Holds.ite (h.of_clearProcessBodyCount hend) (Holds.pure _)

theorem of_decoderRefusal (h : ConnectionKeeps law call enters allowed) {failed : Bool}
    (hreply : allowed callback) (hend : enters .endOfMessage) :
    law.Holds (do
      let context ← contextOf child
      Proc.when (context.state = .envelopeRecipient) <|
        updateContext child (·.removeCurrentRecipient failed)
      decoderFinalStatus call child callback rejectionConcludes) := by
  refine of_contextOf.bind fun context => Holds.bind ?_ fun _ =>
    h.of_decoderFinalStatus hreply hend
  exact Holds.when fun _ => h.context child _ fun _ => ⟨rfl, .inl rfl, rfl, id⟩

theorem of_decoderAtEndOfMessage (h : ConnectionKeeps law call enters allowed)
    {conclude : Context → Context} (hreply : allowed callback)
    (hconclude : ∀ context, Follows enters context (conclude context)) :
    law.Holds (decoderAtEndOfMessage call child callback conclude) := by
  unfold decoderAtEndOfMessage
  refine of_contextOf.bind fun context => Holds.ite ?_ (h.of_emitErrorOn (by decide))
  refine Holds.ite ?_ (Holds.pure _)
  exact (h.of_emitOn hreply).bind fun _ => h.context child _ hconclude

theorem of_decoderProgress (h : ConnectionKeeps law call enters allowed)
    (hreply : allowed .progress) : law.Holds (decoderProgress call child) := by
  unfold decoderProgress
  refine of_contextOf.bind fun context => Holds.ite ?_ (h.of_emitErrorOn (by decide))
  refine Holds.ite ?_ (Holds.pure _)
  exact h.of_registerTimeout.bind fun _ => h.of_emitOn hreply

theorem of_decoderGone (h : ConnectionKeeps law call enters allowed) (hreply : allowed callback) :
    law.Holds (decoderGone call child callback) := by
  unfold decoderGone
  refine h.of_disableTimeout.bind fun _ => of_contextOf.bind fun context => ?_
  exact Holds.ite (h.of_emitOn hreply) (Holds.pure _)

theorem of_decoderSkip (h : ConnectionKeeps law call enters allowed) (hreply : allowed .skip)
    (hend : enters .endOfMessage) : law.Holds (decoderSkip call child) := by
  unfold decoderSkip
  refine h.of_disableTimeout.bind fun _ => of_contextOf.bind fun context => ?_
  refine Holds.ite ?_ (h.of_emitErrorOn (by decide))
  refine Holds.ite ?_ (Holds.pure _)
  refine (h.of_emitOn hreply).bind fun _ => (h.of_clearProcessBodyCount hend).bind fun _ => ?_
  exact h.context child _ fun _ => ⟨rfl, .inl rfl, rfl, id⟩

/-- A reply other than that to the negotiation. -/
theorem of_decode (h : ConnectionKeeps law call enters allowed) {reply : Reply}
    (hreply : allowed (replyCallback reply)) (hend : enters .endOfMessage)
    (hother : ∀ option, reply ≠ .negotiateReply option) :
    law.Holds (decode call child reply) := by
  have hkept : ∀ context : Context, Follows enters context context := fun _ =>
    ⟨rfl, .inl rfl, rfl, id⟩
  have hresult : ∀ context : Context, Follows enters context context.ensureMessageResult :=
    fun _ => ⟨rfl, .inl rfl, rfl, id⟩
  cases reply with
  | negotiateReply option => exact absurd rfl (hother option)
  | «continue» => exact h.of_decoderContinue hreply hend
  | replyCode code extendedCode message => exact h.of_decoderReplyCode hreply hend
  | temporaryFailure | reject => exact h.of_decoderRefusal hreply hend
  | accept | discard => exact h.of_decoderFinalStatus hreply hend
  | addHeader | insertHeader | changeHeader | deleteHeader | quarantine =>
      exact h.of_decoderAtEndOfMessage hreply hresult
  | changeFrom | addRecipient | deleteRecipient | replaceBody =>
      exact h.of_decoderAtEndOfMessage hreply hkept
  | progress => exact h.of_decoderProgress hreply
  | connectionFailure | shutdown => exact h.of_decoderGone hreply
  | skip => exact h.of_decoderSkip hreply hend

theorem of_receive {reply : Reply}
    (hreply : law.Holds (decode call child reply)) :
    law.Holds (receive call child reply) := by
  unfold receive
  exact of_contextOf.bind fun context => Holds.ite hreply (Holds.pure _)

theorem of_hangUp (h : ConnectionKeeps law call enters allowed) (hfinished : allowed .finished)
    (hnext : law.Holds (processNextStates (pure ⟨⟩) call child)) :
    law.Holds (hangUp call child) := by
  unfold hangUp
  refine of_contextOf.bind fun context => Holds.ite ?_ (Holds.pure _)
  exact h.of_emitFinished hfinished hnext

theorem of_failWriter (h : ConnectionKeeps law call enters allowed) :
    law.Holds (failWriter call child) := by
  unfold failWriter
  refine of_contextOf.bind fun context => Holds.ite ?_ (Holds.pure _)
  refine (h.of_emitErrorOn (by decide)).bind fun _ => ?_
  exact h.context child _ fun _ => ⟨rfl, .inl rfl, rfl, id⟩

theorem of_failConnection (h : ConnectionKeeps law call enters allowed) :
    law.Holds (failConnection call child) :=
  h.of_emitErrorOn (by decide)

end ConnectionKeeps

end MilterManager.Children
