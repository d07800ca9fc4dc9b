import MilterManager.Children.State

/-!
# Commands to a child and replies from it

What the `MilterServerContext` of a child does, from `milter/server/milter-server-context.c`: the
packets it writes for each command, the states it takes when they are flushed, its timeouts, and
the signals it emits for what the child replies.
-/

namespace MilterManager.Children

open MilterManager.Base MilterManager.Core MilterManager.Server

/-- `disable_timeout`. -/
def disableTimeout (child : ChildId) : Program PUnit :=
  updateContext child fun context => { context with timeout := none }

/-- Register a timeout in the place of the one registered before. -/
def registerTimeout (child : ChildId) (timeout : Timeout) : Program PUnit :=
  updateContext child fun context => { context with timeout := some timeout }

/-- `milter_server_context_set_state`, `milter/server/milter-server-context.c:788`. -/
def setContextState (child : ChildId) (state : ContextState) : Program PUnit :=
  updateContext child fun context => { context with state := state }

/-- The part of `write_packet` behind the check for a command being processed. -/
def writePacketNow (call : Handlers) (child : ChildId) (packet : Packet)
    (nextState : ContextState) : Program Bool := do
  let context ← contextOf child
  if context.writer = .stopped then
    disableTimeout child
    emitErrorOn call child .serverContext
    pure false
  else
    Proc.when (context.writer = .started) <| Proc.record fun _ => .sent child packet
    updateContext child fun context =>
      { context with nextStates := context.nextStates ++ [nextState] }
    pure true

/-- `write_packet`, `milter/server/milter-server-context.c:1479`. -/
def writePacket (call : Handlers) (child : ChildId) (packet : Packet)
    (nextState : ContextState) : Program Bool := do
  if nextState.interrupts then
    writePacketNow call child packet nextState
  else
    let context ← contextOf child
    if context.isProcessing then
      emitErrorOn call child .serverContext
      pure false
    else
      registerTimeout child .writing
      writePacketNow call child packet nextState

/-- `stop_on_state`, `milter/server/milter-server-context.c:1626`. -/
def stopOnState (call : Handlers) (child : ChildId) (state : ContextState) : Program PUnit := do
  setContextState child state
  emitOn call child .stopped
  let context ← contextOf child
  if context.state.inMessage then updateContext child Context.emitMessageProcessedSignal

/-- The part of a command after its stop-on signal: a child that does not want the command
answers at once with `reply`. -/
def sendOrSkip (call : Handlers) (child : ChildId) (state : ContextState) (reply : Callback)
    (skips : Context → Bool) (send : Program Bool) : Program Bool := do
  let context ← contextOf child
  if skips context then
    setContextState child state
    emitOn call child reply
    pure true
  else send

/-- A command that asks first whether to stop, and then does `prepare`. -/
def askAndSend (call : Handlers) (child : ChildId) (state : ContextState)
    (prepare : Context → Context) (reply : Callback) (skips : Context → Bool)
    (send : Program Bool) : Program Bool := do
  let context ← contextOf child
  if context.stopOn state then
    stopOnState call child state
    pure true
  else
    updateContext child prepare
    sendOrSkip call child state reply skips send

/-- `milter_server_context_negotiate`, `milter/server/milter-server-context.c:1656`. -/
def serverNegotiate (call : Handlers) (child : ChildId) (option : MilterOption) :
    Program Bool := do
  updateContext child fun context => { context with option := some option }
  writePacket call child (.negotiate option) .negotiate

/-- `milter_server_context_connect`, `milter/server/milter-server-context.c:1770`. -/
def serverConnect (call : Handlers) (child : ChildId) (hostName : Bytes) : Program Bool :=
  askAndSend call child .connect id .continue (·.isEnableStep StepFlags.noConnect)
    (writePacket call child (.connect hostName) .connect)

/-- `milter_server_context_helo`, `milter/server/milter-server-context.c:1696`. -/
def serverHelo (call : Handlers) (child : ChildId) (fqdn : Bytes) : Program Bool :=
  askAndSend call child .helo id .continue (·.isEnableStep StepFlags.noHelo)
    (writePacket call child (.helo fqdn) .helo)

/-- `milter_server_context_envelope_from`, `milter/server/milter-server-context.c:1845`. -/
def serverEnvelopeFrom (call : Handlers) (child : ChildId) (sender : Bytes) : Program Bool := do
  updateContext child Context.ensureMessageResult
  askAndSend call child .envelopeFrom (fun context => { context with processingMessage := true })
    .continue (·.isEnableStep StepFlags.noEnvelopeFrom)
    (writePacket call child (.envelopeFrom sender) .envelopeFrom)

/-- `milter_server_context_envelope_recipient`, `milter/server/milter-server-context.c:1917`. -/
def serverEnvelopeRecipient (call : Handlers) (child : ChildId) (recipient : Bytes) :
    Program Bool := do
  updateContext child fun context =>
    let result := context.messageResult.getD .empty
    { context with
      currentRecipient := some recipient
      messageResult := some { result with recipients := result.recipients ++ [recipient] } }
  askAndSend call child .envelopeRecipient id .continue
    (·.isEnableStep StepFlags.noEnvelopeRecipient)
    (writePacket call child (.envelopeRecipient recipient) .envelopeRecipient)

/-- `milter_server_context_data`, `milter/server/milter-server-context.c:1981`; a child of an old
version does not know the command. -/
def serverData (call : Handlers) (child : ChildId) : Program Bool := do
  updateContext child Context.ensureMessageResult
  askAndSend call child .data id .continue
    (fun context =>
      context.option.any (·.version < 4) || context.isEnableStep StepFlags.noData)
    (writePacket call child .data .data)

/-- `milter_server_context_unknown`, `milter/server/milter-server-context.c:2032`. -/
def serverUnknown (call : Handlers) (child : ChildId) (command : Bytes) : Program Bool :=
  sendOrSkip call child .unknown .continue (·.isEnableStep StepFlags.noUnknown)
    (writePacket call child (.unknown command) .unknown)

/-- `milter_server_context_header`, `milter/server/milter-server-context.c:2067`. -/
def serverHeader (call : Handlers) (child : ChildId) (name : Bytes) (value : Option Bytes) :
    Program Bool := do
  updateContext child Context.ensureMessageResult
  askAndSend call child .header id .continue (·.isEnableStep StepFlags.noHeaders)
    (writePacket call child (.header name value) .header)

/-- `milter_server_context_end_of_header`, `milter/server/milter-server-context.c:2124`. -/
def serverEndOfHeader (call : Handlers) (child : ChildId) : Program Bool := do
  updateContext child Context.ensureMessageResult
  askAndSend call child .endOfHeader id .continue (·.isEnableStep StepFlags.noEndOfHeader)
    (writePacket call child .endOfHeader .endOfHeader)

/-- `increment_process_body_count`. -/
def incrementProcessBodyCount (queue : List Nat) : List Nat :=
  match queue.getLast? with
  | none => []
  | some count => queue.dropLast ++ [count + 1]

/-- `flush_body`, `milter/server/milter-server-context.c:1210`: one packet of what is buffered. -/
def flushBody (call : Handlers) (child : ChildId) : Program Bool := do
  updateContext child fun context =>
    { context with bodyResponseQueue := context.bodyResponseQueue ++ [0] }
  let context ← contextOf child
  let packed := context.body.take milterChunkSize
  if ← writePacket call child (.body packed) .body then
    updateContext child fun context =>
      { context with
        body := context.body.drop packed.length
        bodyResponseQueue := incrementProcessBodyCount context.bodyResponseQueue }
    pure true
  else pure false

/-- `milter_server_context_body`, `milter/server/milter-server-context.c:2179`. -/
def serverBody (call : Handlers) (child : ChildId) (chunk : Bytes) : Program Bool := do
  updateContext child Context.ensureMessageResult
  askAndSend call child .body id .skip (·.isEnableStep StepFlags.noBody) do
    updateContext child fun context => { context with body := context.body ++ chunk }
    flushBody call child

/-- `milter_server_context_end_of_message`, `milter/server/milter-server-context.c:2228`. -/
def serverEndOfMessage (call : Handlers) (child : ChildId) (chunk : Bytes) : Program Bool := do
  updateContext child Context.ensureMessageResult
  askAndSend call child .endOfMessage id .continue (fun _ => false)
    (writePacket call child (.endOfMessage chunk) .endOfMessage)

/-- `milter_server_context_quit`, `milter/server/milter-server-context.c:2276`. -/
def serverQuit (call : Handlers) (child : ChildId) : Program Bool := do
  updateContext child fun context => { context with quitted := true }
  writePacket call child .quit .quit

/-- `milter_server_context_abort`, `milter/server/milter-server-context.c:2299`. -/
def serverAbort (call : Handlers) (child : ChildId) : Program Bool := do
  let success ← writePacket call child .abort .abort
  updateContext child fun context => { context with processingMessage := false }
  pure success

/-- `process_next_state_body`, `milter/server/milter-server-context.c:1260`. -/
def processNextStateBody (call : Handlers) (child : ChildId) : Program PUnit := do
  let context ← contextOf child
  if context.body = [] then pure ⟨⟩
  else if !context.needReply .body then
    let _ ← flushBody call child
    pure ⟨⟩
  else registerTimeout child .reading

/-- `process_next_state`, `milter/server/milter-server-context.c:1303`, with what
`milter_agent_shutdown` does. -/
def processNextState (shutdown : Program PUnit) (call : Handlers) (child : ChildId)
    (nextState : ContextState) : Program PUnit := do
  if nextState = .invalid then emitErrorOn call child .serverContext
  else
    disableTimeout child
    match nextState with
    | .endOfMessage =>
        updateContext child fun context =>
          if context.processBodyCount = 0 then { context with state := .endOfMessage }
          else { context with sentEndOfMessage := true }
        registerTimeout child .endOfMessage
    | .body =>
        setContextState child .body
        processNextStateBody call child
    | .quit =>
        shutdown
        setContextState child .quit
    | .abort =>
        setContextState child .abort
        updateContext child Context.emitMessageProcessedSignal
        updateContext child Context.resetMessageRelatedData
    | nextState =>
        Proc.when (nextState = .envelopeFrom) <|
          updateContext child fun context => { context with processingMessage := true }
        setContextState child nextState
        let context ← contextOf child
        if context.needReply nextState then registerTimeout child .reading

/-- `flushed`, `milter/server/milter-server-context.c:1422`. -/
def processNextStates (shutdown : Program PUnit) (call : Handlers) (child : ChildId) :
    Program PUnit := do
  let context ← contextOf child
  updateContext child fun context => { context with nextStates := [] }
  Proc.each (processNextState shutdown call child) context.nextStates

/-- `milter_writer_shutdown`, `milter/core/milter-writer.c:677`, with `flush_buffer_on_shutdown`.
The agent has finished by then, and to shut it down once more does nothing. -/
def writerShutdown (call : Handlers) (child : ChildId) : Program PUnit := do
  let context ← contextOf child
  if context.writer = .started then
    updateContext child fun context => { context with writer := .stopped }
    let s ← Proc.getState
    let lastWrite := s.surroundings.lastWrite child
    Proc.when lastWrite.fails <| emitErrorOn call child .other
    Proc.when lastWrite.flushes <| processNextStates (pure ⟨⟩) call child

/-- The agent's signal `finished` with its default handler, `milter/core/milter-agent.c:358`. -/
def emitFinished (call : Handlers) (child : ChildId) : Program PUnit := do
  emitOn call child .finished
  updateContext child fun context => { context with finished := true }
  writerShutdown call child

/-- `milter_agent_shutdown`, `milter/core/milter-agent.c:642`: the reader finishes, then the writer
is shut down. -/
def agentShutdown (call : Handlers) (child : ChildId) : Program PUnit := do
  let context ← contextOf child
  Proc.when (!context.finished) <| emitFinished call child
  writerShutdown call child

/-- The writer has written its buffer: `flush_watch_func`, `milter/core/milter-writer.c:270`. -/
def flushed (call : Handlers) (child : ChildId) : Program PUnit := do
  let context ← contextOf child
  if context.writer = .started then processNextStates (agentShutdown call child) call child

/-- The registered timeout expires: `cb_writing_timeout`, `cb_reading_timeout`,
`cb_end_of_message_timeout` and `cb_connection_timeout` of
`milter/server/milter-server-context.c`. -/
def expireTimeout (call : Handlers) (child : ChildId) : Program PUnit := do
  let context ← contextOf child
  match context.timeout with
  | none | some .expired => pure ⟨⟩
  | some .connection =>
      registerTimeout child .expired
      emitOnAttempts call child .connectionTimeout
  | some .writing =>
      registerTimeout child .expired
      emitOn call child .writingTimeout
      agentShutdown call child
  | some .reading =>
      registerTimeout child .expired
      emitOn call child .readingTimeout
      agentShutdown call child
  | some .endOfMessage =>
      registerTimeout child .expired
      emitOn call child .endOfMessageTimeout
      agentShutdown call child

/-- `connect_watch_func`, `milter/server/milter-server-context.c:3399`. -/
def connectWatch (call : Handlers) (child : ChildId) (established : Bool) : Program PUnit := do
  let context ← contextOf child
  if context.connecting then
    updateContext child fun context => { context with timeout := none, connecting := false }
    if established then
      updateContext child fun context => { context with writer := .started }
      emitOnAttempts call child .ready
    else emitErrorOn call child .serverContext

/-- `invalid_state`, `milter/server/milter-server-context.c:2349`. -/
def invalidState (call : Handlers) (child : ChildId) : Program PUnit :=
  emitErrorOn call child .serverContext

/-- `cb_decoder_negotiate_reply`, `milter/server/milter-server-context.c:2388`. -/
def decoderNegotiateReply (call : Handlers) (child : ChildId) (option : MilterOption) :
    Program PUnit := do
  let context ← contextOf child
  disableTimeout child
  match (context.option.getD option).combine option with
  | none => emitErrorOn call child .serverContext
  | some combined =>
      updateContext child fun context => { context with option := some combined }
      if context.state = .negotiate then
        if !context.quitted then
          updateContext child fun context => { context with negotiated := true }
          emitOn call child (.negotiateReply option)
      else invalidState call child

/-- `decrement_process_body_count`, `milter/server/milter-server-context.c:2474`; the counters are
32 bits wide. -/
def decrementProcessBodyCount (call : Handlers) (child : ChildId) : Program PUnit := do
  let context ← contextOf child
  match context.bodyResponseQueue with
  | [] => pure ⟨⟩
  | count :: rest =>
      let count := (count + 0xffffffff) % 0x100000000
      if count = 0 then
        updateContext child fun context => { context with bodyResponseQueue := rest }
        emitOn call child .continue
        updateContext child fun context =>
          { context with
            state := if context.sentEndOfMessage then .endOfMessage else context.state }
      else updateContext child fun context => { context with bodyResponseQueue := count :: rest }

/-- `cb_decoder_continue`, `milter/server/milter-server-context.c:2517`. -/
def decoderContinue (call : Handlers) (child : ChildId) : Program PUnit := do
  let context ← contextOf child
  disableTimeout child
  match context.state with
  | .body =>
      if !context.quitted then
        decrementProcessBodyCount call child
        let context ← contextOf child
        if context.body ≠ [] then
          let _ ← flushBody call child
  | .connect | .helo | .envelopeFrom | .envelopeRecipient | .unknown | .data | .header
  | .endOfHeader | .endOfMessage =>
      if !context.quitted then
        emitOn call child .continue
        let context ← contextOf child
        if context.state = .endOfMessage then
          updateContext child Context.emitMessageProcessedSignal
  | _ => invalidState call child

/-- What follows the signal of a final reply: the message is over for the child. -/
def concludeReply (child : ChildId) (concludes : ContextState → Bool) : Program PUnit := do
  let context ← contextOf child
  if concludes context.state then updateContext child Context.emitMessageProcessedSignal

/-- The states in which a rejection concludes the message of a child. -/
def rejectionConcludes (state : ContextState) : Bool :=
  state.inMessage && state ≠ .envelopeRecipient

/-- `cb_decoder_reply_code`, `milter/server/milter-server-context.c:2583`. -/
def decoderReplyCode (call : Handlers) (child : ChildId) (code : Nat)
    (extendedCode message : Option Bytes) : Program PUnit := do
  let context ← contextOf child
  Proc.when (context.state = .envelopeRecipient) <|
    updateContext child (·.removeCurrentRecipient (400 ≤ code && code < 500))
  disableTimeout child
  match context.state with
  | .body | .connect | .helo | .envelopeFrom | .envelopeRecipient | .unknown | .data | .header
  | .endOfHeader | .endOfMessage =>
      if !context.quitted then
        Proc.when (context.state = .body) <| updateContext child Context.clearProcessBodyCount
        emitOn call child (.replyCode code extendedCode message)
        concludeReply child rejectionConcludes
  | _ => invalidState call child

/-- The end of the decoder handlers for a final status: the signal, the end of the message for
the child, and the body replies it no longer owes. -/
def decoderFinalStatus (call : Handlers) (child : ChildId) (callback : Callback)
    (concludes : ContextState → Bool) : Program PUnit := do
  disableTimeout child
  let context ← contextOf child
  if !context.quitted then
    emitOn call child callback
    concludeReply child concludes
    let context ← contextOf child
    if context.state = .body then updateContext child Context.clearProcessBodyCount

/-- `cb_decoder_temporary_failure`, `milter/server/milter-server-context.c:2671`. -/
def decoderTemporaryFailure (call : Handlers) (child : ChildId) : Program PUnit := do
  let context ← contextOf child
  Proc.when (context.state = .envelopeRecipient) <|
    updateContext child (·.removeCurrentRecipient true)
  decoderFinalStatus call child .temporaryFailure rejectionConcludes

/-- `cb_decoder_reject`, `milter/server/milter-server-context.c:2733`. -/
def decoderReject (call : Handlers) (child : ChildId) : Program PUnit := do
  let context ← contextOf child
  Proc.when (context.state = .envelopeRecipient) <|
    updateContext child (·.removeCurrentRecipient false)
  decoderFinalStatus call child .reject rejectionConcludes

/-- `cb_decoder_accept`, `milter/server/milter-server-context.c:2795`. -/
def decoderAccept (call : Handlers) (child : ChildId) : Program PUnit :=
  decoderFinalStatus call child .accept ContextState.inMessage

/-- `cb_decoder_discard`, `milter/server/milter-server-context.c:2844`. -/
def decoderDiscard (call : Handlers) (child : ChildId) : Program PUnit :=
  decoderFinalStatus call child .discard ContextState.inMessage

/-- A reply that is allowed at the end of a message only. -/
def decoderAtEndOfMessage (call : Handlers) (child : ChildId) (callback : Callback)
    (conclude : Context → Context) : Program PUnit := do
  let context ← contextOf child
  if context.state = .endOfMessage then
    if !context.quitted then
      emitOn call child callback
      updateContext child conclude
  else invalidState call child

/-- `cb_decoder_progress`, `milter/server/milter-server-context.c:3130`. -/
def decoderProgress (call : Handlers) (child : ChildId) : Program PUnit := do
  let context ← contextOf child
  if context.state = .endOfMessage then
    if !context.quitted then
      registerTimeout child .endOfMessage
      emitOn call child .progress
  else invalidState call child

/-- `cb_decoder_connection_failure` and `cb_decoder_shutdown`,
`milter/server/milter-server-context.c:3181`. -/
def decoderGone (call : Handlers) (child : ChildId) (callback : Callback) : Program PUnit := do
  disableTimeout child
  let context ← contextOf child
  if !context.quitted then emitOn call child callback

/-- `cb_decoder_skip`, `milter/server/milter-server-context.c:3240`. -/
def decoderSkip (call : Handlers) (child : ChildId) : Program PUnit := do
  disableTimeout child
  let context ← contextOf child
  if context.state = .body then
    if !context.quitted then
      emitOn call child .skip
      updateContext child Context.clearProcessBodyCount
      updateContext child fun context => { context with skipBody := true }
  else invalidState call child

/-- The handler of the reply decoder for each reply. -/
def decode (call : Handlers) (child : ChildId) : Reply → Program PUnit
  | .negotiateReply option => decoderNegotiateReply call child option
  | .continue => decoderContinue call child
  | .replyCode code extendedCode message => decoderReplyCode call child code extendedCode message
  | .temporaryFailure => decoderTemporaryFailure call child
  | .reject => decoderReject call child
  | .accept => decoderAccept call child
  | .discard => decoderDiscard call child
  | .addHeader name value =>
      decoderAtEndOfMessage call child (.addHeader name value) Context.ensureMessageResult
  | .insertHeader index name value =>
      decoderAtEndOfMessage call child (.insertHeader index name value) Context.ensureMessageResult
  | .changeHeader name index value =>
      decoderAtEndOfMessage call child (.changeHeader name index value) Context.ensureMessageResult
  | .deleteHeader name index =>
      decoderAtEndOfMessage call child (.deleteHeader name index) Context.ensureMessageResult
  | .changeFrom sender parameters =>
      decoderAtEndOfMessage call child (.changeFrom sender parameters) id
  | .addRecipient recipient parameters =>
      decoderAtEndOfMessage call child (.addRecipient recipient parameters) id
  | .deleteRecipient recipient => decoderAtEndOfMessage call child (.deleteRecipient recipient) id
  | .replaceBody chunk => decoderAtEndOfMessage call child (.replaceBody chunk) id
  | .progress => decoderProgress call child
  | .quarantine reason =>
      decoderAtEndOfMessage call child (.quarantine reason) Context.ensureMessageResult
  | .connectionFailure => decoderGone call child .connectionFailure
  | .shutdown => decoderGone call child .shutdown
  | .skip => decoderSkip call child

/-- A reply arrives over the connection. -/
def receive (call : Handlers) (child : ChildId) (reply : Reply) : Program PUnit := do
  let context ← contextOf child
  if context.writer ≠ .absent ∧ !context.finished then decode call child reply

/-- The child closes the connection: the reader finishes. -/
def hangUp (call : Handlers) (child : ChildId) : Program PUnit := do
  let context ← contextOf child
  if context.writer ≠ .absent ∧ !context.finished then emitFinished call child

/-- The connection of the child fails in another way: an error of the agent. -/
def failConnection (call : Handlers) (child : ChildId) : Program PUnit :=
  emitErrorOn call child .other

/-- The channel of the writer fails: `error_watch_func`, `milter/core/milter-writer.c:520`, with
`cb_writer_finished`, `milter/core/milter-agent.c:517`. -/
def failWriter (call : Handlers) (child : ChildId) : Program PUnit := do
  let context ← contextOf child
  if context.writer = .started then
    emitErrorOn call child .other
    updateContext child fun context =>
      { context with writer := if context.writer = .started then .lost else context.writer }

end MilterManager.Children
