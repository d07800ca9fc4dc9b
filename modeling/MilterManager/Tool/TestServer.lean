import MilterManager.Base.Proc
import MilterManager.Children.Connection

/-!
# The test server

`milter-test-server` plays the part of an MTA: it gives one mail to a milter, from
`tool/milter-test-server.c`, over a `MilterServerContext`, from
`milter/server/milter-server-context.c`. A run is the list of what happens on the connection.
-/

namespace MilterManager.Tool

open MilterManager.Base MilterManager.Core MilterManager.Server

/-- The packets that a server context writes. -/
abbrev Packet := Children.Packet

/-- What the command line sets, the static variables of the tool. -/
structure Options where
  connectHost : Option Bytes
  heloHost : Bytes
  envelopeFrom : Bytes
  recipients : List Bytes
  unknownCommand : Option Bytes
  optionHeaders : Headers
  bodyChunks : List Bytes
  negotiateVersion : Nat

/-- The name of the connecting host when none is given, `mx.example.net`. -/
def defaultConnectHost : Bytes :=
  [109, 120, 46, 101, 120, 97, 109, 112, 108, 101, 46, 110, 101, 116]

/-- The errors of the tool: its timeouts, and the errors of the context that it copies. -/
inductive ToolError where
  | timeout (timeout : Timeout)
  | context
deriving DecidableEq, Repr

/-- `Message`: the mail as the milter changes it. -/
structure Mail where
  envelopeFrom : Bytes
  recipients : List Bytes
  headers : Headers
  replacedBody : Bytes
deriving DecidableEq, Repr

/-- `ProcessData`. -/
structure ProcessData where
  success : Bool
  replyCode : Nat
  replyExtendedCode : Option Bytes
  replyMessage : Option Bytes
  quarantineReason : Option Bytes
  option : Option MilterOption
  optionHeaders : Headers
  currentRecipient : Nat
  bodyChunks : List Bytes
  currentBodyChunk : Nat
  message : Mail
  error : Option ToolError
deriving DecidableEq, Repr

/-- `init_process_data`, `tool/milter-test-server.c:1670`. -/
def initProcessData (options : Options) : ProcessData where
  success := true
  replyCode := 0
  replyExtendedCode := none
  replyMessage := none
  quarantineReason := none
  option := none
  optionHeaders := options.optionHeaders
  currentRecipient := 0
  bodyChunks := options.bodyChunks
  currentBodyChunk := 0
  message := ⟨options.envelopeFrom, options.recipients, options.optionHeaders, []⟩
  error := none

/-- The tool with the context it uses. -/
structure TestServer where
  context : Context
  data : ProcessData

/-- A part of the tool, with the packets it writes. -/
abbrev Program := Proc TestServer Packet

/-- The handlers that the tool connects to the signals that the context emits for the replies. -/
abbrev Handlers := Reply → Program PUnit

/-- The private data of the context. -/
def contextOf : Program Context := do
  let s ← Proc.getState
  pure s.context

/-- Change the private data of the context. -/
def updateContext (f : Context → Context) : Program PUnit :=
  Proc.update fun s => { s with context := f s.context }

/-- Change the data of the tool. -/
def updateData (f : ProcessData → ProcessData) : Program PUnit :=
  Proc.update fun s => { s with data := f s.data }

@[simp] theorem contextOf_apply (s : TestServer) : contextOf s = ⟨s.context, s, []⟩ := rfl

@[simp] theorem updateContext_apply (f : Context → Context) (s : TestServer) :
    updateContext f s = ⟨⟨⟩, { s with context := f s.context }, []⟩ := rfl

@[simp] theorem updateData_apply (f : ProcessData → ProcessData) (s : TestServer) :
    updateData f s = ⟨⟨⟩, { s with data := f s.data }, []⟩ := rfl

/-! ## The context -/

/-- `milter_agent_shutdown`, `milter/core/milter-agent.c:642`, with `cb_finished`, which quits the
loop of the tool. -/
def agentShutdown : Program PUnit :=
  updateContext fun context =>
    { context with
      finished := true
      writer := if context.writer = .started then .stopped else context.writer }

/-- `cb_error`, `tool/milter-test-server.c:704`. -/
def cbError : Program PUnit := do
  updateData fun data => { data with error := some .context }
  agentShutdown

/-- `disable_timeout`. -/
def disableTimeout : Program PUnit :=
  updateContext fun context => { context with timeout := none }

/-- Register a timeout in the place of the one registered before. -/
def registerTimeout (timeout : Timeout) : Program PUnit :=
  updateContext fun context => { context with timeout := some timeout }

/-- The part of `write_packet` behind the check for a command being processed. -/
def writePacketNow (packet : Packet) (nextState : ContextState) : Program Bool := do
  let context ← contextOf
  if context.writer = .started then
    Proc.record fun _ => packet
    updateContext fun context => { context with nextStates := context.nextStates ++ [nextState] }
    pure true
  else
    disableTimeout
    cbError
    pure false

/-- `write_packet`, `milter/server/milter-server-context.c:1479`. -/
def writePacket (packet : Packet) (nextState : ContextState) : Program Bool := do
  if nextState.interrupts then
    writePacketNow packet nextState
  else
    let context ← contextOf
    if context.isProcessing then
      cbError
      pure false
    else
      registerTimeout .writing
      writePacketNow packet nextState

/-- A command that the milter does not want: the context replies to it itself. -/
def sendOrSkip (call : Handlers) (state : ContextState) (reply : Reply) (skips : Context → Bool)
    (send : Program Bool) : Program Bool := do
  let context ← contextOf
  if skips context then
    updateContext fun context => { context with state := state }
    call reply
    pure true
  else send

/-- `milter_server_context_negotiate`, `milter/server/milter-server-context.c:1656`. -/
def contextNegotiate (option : MilterOption) : Program Bool := do
  updateContext fun context => { context with option := some option }
  writePacket (.negotiate option) .negotiate

/-- The commands of a session, with what the context does before it writes their packets. -/
def contextGive (call : Handlers) (packet : Packet) (state : ContextState)
    (skips : Context → Bool) : Program Bool :=
  sendOrSkip call state .continue skips (writePacket packet state)

/-- `milter_server_context_connect`, `milter/server/milter-server-context.c:1770`. -/
def contextConnect (call : Handlers) (hostName : Bytes) : Program Bool :=
  contextGive call (.connect hostName) .connect (·.isEnableStep StepFlags.noConnect)

/-- `milter_server_context_helo`, `milter/server/milter-server-context.c:1696`. -/
def contextHelo (call : Handlers) (fqdn : Bytes) : Program Bool :=
  contextGive call (.helo fqdn) .helo (·.isEnableStep StepFlags.noHelo)

/-- `milter_server_context_envelope_from`, `milter/server/milter-server-context.c:1845`. -/
def contextEnvelopeFrom (call : Handlers) (sender : Bytes) : Program Bool :=
  contextGive call (.envelopeFrom sender) .envelopeFrom (·.isEnableStep StepFlags.noEnvelopeFrom)

/-- `milter_server_context_envelope_recipient`, `milter/server/milter-server-context.c:1917`. -/
def contextEnvelopeRecipient (call : Handlers) (recipient : Bytes) : Program Bool :=
  contextGive call (.envelopeRecipient recipient) .envelopeRecipient
    (·.isEnableStep StepFlags.noEnvelopeRecipient)

/-- `milter_server_context_unknown`, `milter/server/milter-server-context.c:2032`. -/
def contextUnknown (call : Handlers) (command : Bytes) : Program Bool :=
  contextGive call (.unknown command) .unknown (·.isEnableStep StepFlags.noUnknown)

/-- `milter_server_context_data`, `milter/server/milter-server-context.c:1981`; a milter of an old
version does not know the command. -/
def contextData (call : Handlers) : Program Bool :=
  contextGive call .data .data fun context =>
    context.option.any (·.version < 4) || context.isEnableStep StepFlags.noData

/-- `milter_server_context_header`, `milter/server/milter-server-context.c:2067`. -/
def contextHeader (call : Handlers) (header : Header) : Program Bool :=
  contextGive call (.header header.name header.value) .header
    (·.isEnableStep StepFlags.noHeaders)

/-- `milter_server_context_end_of_header`, `milter/server/milter-server-context.c:2124`. -/
def contextEndOfHeader (call : Handlers) : Program Bool :=
  contextGive call .endOfHeader .endOfHeader (·.isEnableStep StepFlags.noEndOfHeader)

/-- `flush_body`, `milter/server/milter-server-context.c:1210`: one packet of what is buffered. -/
def flushBody : Program Bool := do
  updateContext fun context =>
    { context with bodyResponseQueue := context.bodyResponseQueue ++ [0] }
  let context ← contextOf
  let packed := context.body.take Children.milterChunkSize
  if ← writePacket (.body packed) .body then
    updateContext fun context =>
      { context with
        body := context.body.drop packed.length
        bodyResponseQueue := Children.incrementProcessBodyCount context.bodyResponseQueue }
    pure true
  else pure false

/-- `milter_server_context_body`, `milter/server/milter-server-context.c:2179`. -/
def contextBody (call : Handlers) (chunk : Bytes) : Program Bool :=
  sendOrSkip call .body .skip (·.isEnableStep StepFlags.noBody) do
    updateContext fun context => { context with body := context.body ++ chunk }
    flushBody

/-- `milter_server_context_end_of_message`, `milter/server/milter-server-context.c:2228`. -/
def contextEndOfMessage : Program Bool :=
  writePacket (.endOfMessage []) .endOfMessage

/-- `milter_server_context_quit`, `milter/server/milter-server-context.c:2276`. -/
def contextQuit : Program Bool := do
  updateContext fun context => { context with quitted := true }
  writePacket .quit .quit

/-- `milter_server_context_abort`, `milter/server/milter-server-context.c:2299`. -/
def contextAbort : Program Bool :=
  writePacket .abort .abort

/-! ## What the tool sends -/

/-- `send_quit`, `tool/milter-test-server.c:147`. -/
def sendQuit : Program PUnit := do
  let _ ← contextQuit
  agentShutdown

/-- `send_abort`, `tool/milter-test-server.c:154`. -/
def sendAbort : Program PUnit := do
  let _ ← contextAbort
  sendQuit

namespace ProcessData

/-- `milter_option_get_step` of the negotiated option. -/
def step (data : ProcessData) : Flags := (data.option.map (·.step)).getD 0#32

/-- `milter_option_get_version` of the negotiated option. -/
def version (data : ProcessData) : Nat := (data.option.map (·.version)).getD 0

/-- The milter negotiated one of the steps. -/
def hasStep (data : ProcessData) (step : Flags) : Bool := data.step &&& step != 0#32

end ProcessData

section Send

variable (options : Options) (call : Handlers)

/-- Send a packet when there is one to send. -/
def sendWhen (sends : ProcessData → Bool) (send : Program Bool)
    (advance : ProcessData → ProcessData) : Program Bool := do
  let s ← Proc.getState
  if sends s.data then
    let _ ← send
    updateData advance
    pure true
  else pure false

/-- `send_connect`, `tool/milter-test-server.c:249`. -/
def sendConnect : Program Bool :=
  sendWhen (fun data => !data.hasStep StepFlags.noConnect)
    (contextConnect call (options.connectHost.getD defaultConnectHost)) id

/-- `send_helo`, `tool/milter-test-server.c:283`. -/
def sendHelo : Program Bool :=
  sendWhen (fun data => !data.hasStep StepFlags.noHelo) (contextHelo call options.heloHost) id

/-- `send_envelope_from`, `tool/milter-test-server.c:294`. -/
def sendEnvelopeFrom : Program Bool := do
  updateContext Context.resetMessageRelatedData
  sendWhen (fun data => !data.hasStep StepFlags.noEnvelopeFrom)
    (contextEnvelopeFrom call options.envelopeFrom) id

/-- `send_envelope_recipient`, `tool/milter-test-server.c:306`. -/
def sendEnvelopeRecipient : Program Bool := do
  let s ← Proc.getState
  match options.recipients[s.data.currentRecipient]? with
  | none => pure false
  | some recipient =>
      sendWhen (fun data => !data.hasStep StepFlags.noEnvelopeRecipient)
        (contextEnvelopeRecipient call recipient)
        fun data => { data with currentRecipient := data.currentRecipient + 1 }

/-- `send_unknown`, `tool/milter-test-server.c:326`. -/
def sendUnknown : Program Bool :=
  match options.unknownCommand with
  | none => pure false
  | some command =>
      sendWhen (fun data => !data.hasStep StepFlags.noUnknown && 3 ≤ data.version)
        (contextUnknown call command) id

/-- `send_data`, `tool/milter-test-server.c:341`. -/
def sendData : Program Bool :=
  sendWhen (fun data => !data.hasStep StepFlags.noData && 4 ≤ data.version) (contextData call) id

/-- `send_header`, `tool/milter-test-server.c:355`. -/
def sendHeader : Program Bool := do
  let s ← Proc.getState
  match s.data.optionHeaders.getNthHeader 1 with
  | none => pure false
  | some header =>
      sendWhen (fun data => !data.hasStep StepFlags.noHeaders) (contextHeader call header)
        fun data => { data with optionHeaders := data.optionHeaders.remove header }

/-- `send_end_of_header`, `tool/milter-test-server.c:372`. -/
def sendEndOfHeader : Program Bool :=
  sendWhen (fun data => !data.hasStep StepFlags.noEndOfHeader) (contextEndOfHeader call) id

/-- `send_body`, `tool/milter-test-server.c:383`. -/
def sendBody : Program Bool := do
  let s ← Proc.getState
  match s.data.bodyChunks[s.data.currentBodyChunk]? with
  | none => pure false
  | some chunk =>
      sendWhen (fun data => !data.hasStep StepFlags.noBody) (contextBody call chunk)
        fun data => { data with currentBodyChunk := data.currentBodyChunk + 1 }

/-- `send_end_of_message`, `tool/milter-test-server.c:401`. -/
def sendEndOfMessage : Program Bool :=
  sendWhen (fun _ => true) contextEndOfMessage id

/-- The function that sends the command of a state. -/
def send : ContextState → Program Bool
  | .connect => sendConnect options call
  | .helo => sendHelo options call
  | .envelopeFrom => sendEnvelopeFrom options call
  | .envelopeRecipient => sendEnvelopeRecipient options call
  | .unknown => sendUnknown options call
  | .data => sendData call
  | .header => sendHeader call
  | .endOfHeader => sendEndOfHeader call
  | .body => sendBody call
  | .endOfMessage => sendEndOfMessage
  | _ => pure false

/-- A line of a `switch` that falls through its cases: `if (send_...) break;`, or
`if (!(step & MILTER_STEP_NO_REPLY_...)) break;`. -/
inductive Line where
  | send (state : ContextState)
  | unlessReplied (state : ContextState)
deriving DecidableEq, Repr

/-- The lines from a case label on. -/
def fallThrough : List Line → Program PUnit
  | [] => pure ⟨⟩
  | .send state :: lines => do
      let sent ← send options call state
      if sent then pure ⟨⟩ else fallThrough lines
  | .unlessReplied state :: lines => do
      let s ← Proc.getState
      if s.data.hasStep (Context.noReplyFlag state) then fallThrough lines else pure ⟨⟩

end Send

/-- The cases of `cb_continue`, `tool/milter-test-server.c:409`. -/
def continueLines : ContextState → List Line
  | .negotiate => .send .connect :: afterConnect
  | .connect => afterConnect
  | .helo => afterHelo
  | .envelopeFrom => afterEnvelopeFrom
  | .envelopeRecipient => afterEnvelopeRecipient
  | .unknown => afterUnknown
  | .data => afterData
  | .header => afterHeader
  | .endOfHeader => afterEndOfHeader
  | .body => afterBody
  | _ => []
where
  afterBody := [.send .body, .send .endOfMessage]
  afterEndOfHeader := .send .body :: afterBody
  afterHeader := .send .header :: .send .endOfHeader :: afterEndOfHeader
  afterData := .send .header :: afterHeader
  afterUnknown := .send .data :: afterData
  afterEnvelopeRecipient := .send .envelopeRecipient :: .send .unknown :: afterUnknown
  afterEnvelopeFrom := .send .envelopeRecipient :: afterEnvelopeRecipient
  afterHelo := .send .envelopeFrom :: afterEnvelopeFrom
  afterConnect := .send .helo :: afterHelo

/-- The cases of `cb_state_transited`, `tool/milter-test-server.c:768`. -/
def transitedLines : ContextState → List Line
  | .connect => .unlessReplied .connect :: .send .helo :: helo
  | .helo => helo
  | .envelopeFrom => envelopeFrom
  | .envelopeRecipient => envelopeRecipient
  | .unknown => unknown
  | .data => data
  | .header => header
  | .endOfHeader => endOfHeader
  | .body => body
  | _ => []
where
  body := [.unlessReplied .body, .send .body, .send .endOfMessage]
  endOfHeader := .unlessReplied .endOfHeader :: .send .body :: body
  header := .unlessReplied .header :: .send .header :: .send .endOfHeader :: endOfHeader
  data := .unlessReplied .data :: .send .header :: header
  unknown := .unlessReplied .unknown :: .send .data :: data
  envelopeRecipient :=
    .unlessReplied .envelopeRecipient :: .send .envelopeRecipient :: .send .unknown ::
      .send .data :: unknown
  envelopeFrom := .unlessReplied .envelopeFrom :: .send .envelopeRecipient :: envelopeRecipient
  helo := .unlessReplied .helo :: .send .envelopeFrom :: envelopeFrom

/-! ## The handlers of the tool -/

section Handle

variable (options : Options) (call : Handlers)

/-- `cb_continue`, `tool/milter-test-server.c:409`. -/
def cbContinue : Program PUnit := do
  let context ← contextOf
  match context.state with
  | .endOfMessage => sendQuit
  | .negotiate | .connect | .helo | .envelopeFrom | .envelopeRecipient | .unknown | .data
  | .header | .endOfHeader | .body => fallThrough options call (continueLines context.state)
  | _ => sendAbort

/-- `cb_state_transited`, `tool/milter-test-server.c:768`. -/
def cbStateTransited (state : ContextState) : Program PUnit :=
  fallThrough options call (transitedLines state)

/-- `cb_negotiate_reply`, `tool/milter-test-server.c:462`. -/
def cbNegotiateReply (option : MilterOption) : Program PUnit := do
  let s ← Proc.getState
  if s.data.option.isSome then sendAbort
  else
    updateData fun data => { data with option := some option }
    cbContinue options call

/-- `remove_recipient`, `tool/milter-test-server.c:130`, of the recipient sent last. -/
def removeCurrentRecipient (data : ProcessData) : ProcessData :=
  match options.recipients[data.currentRecipient - 1]? with
  | none => data
  | some recipient =>
      { data with
        message := { data.message with recipients := data.message.recipients.erase recipient } }

/-- The session is over, `send_abort` with what becomes of it. -/
def giveUp (success : Bool) : Program PUnit := do
  sendAbort
  updateData fun data => { data with success := success }

/-- `cb_temporary_failure` and `cb_reject`, `tool/milter-test-server.c:480`: a recipient that is
refused leaves the mail to the others. -/
def cbRefuse : Program PUnit := do
  let context ← contextOf
  if context.state = .envelopeRecipient then
    updateData (removeCurrentRecipient options)
    let s ← Proc.getState
    if s.data.message.recipients = [] then giveUp false
    else cbContinue options call
  else giveUp false

/-- `cb_reply_code`, `tool/milter-test-server.c:525`. -/
def cbReplyCode (code : Nat) (extendedCode message : Option Bytes) : Program PUnit := do
  updateData fun data =>
    { data with replyCode := code, replyExtendedCode := extendedCode, replyMessage := message }
  cbRefuse options call

/-- `normalize_envelope_address`, `tool/milter-test-server.c:607`. -/
def normalizeEnvelopeAddress (address : Bytes) : Bytes :=
  if address.head? = some 60 ∧ address.getLast? = some 62 then address
  else 60 :: (address ++ [62])

/-- Change the mail. -/
def updateMail (f : Mail → Mail) : Program PUnit :=
  updateData fun data => { data with message := f data.message }

/-- `cb_skip`, `tool/milter-test-server.c:694`. -/
def cbSkip : Program PUnit := do
  updateData fun data =>
    { data with currentBodyChunk := max data.currentBodyChunk data.bodyChunks.length }
  cbContinue options call

/-- The handlers that the tool connects, `setup` of `tool/milter-test-server.c:839`. -/
def handle : Reply → Program PUnit
  | .negotiateReply option => cbNegotiateReply options call option
  | .continue => cbContinue options call
  | .replyCode code extendedCode message => cbReplyCode options call code extendedCode message
  | .temporaryFailure | .reject => cbRefuse options call
  | .accept => giveUp true
  | .discard => giveUp false
  | .addHeader name value =>
      updateMail fun mail => { mail with headers := mail.headers.addHeader name value }
  | .insertHeader index name value =>
      updateMail fun mail => { mail with headers := mail.headers.insertHeader index name value }
  | .changeHeader name index value =>
      updateMail fun mail => { mail with headers := mail.headers.changeHeader name index value }
  | .deleteHeader name index =>
      updateMail fun mail => { mail with headers := mail.headers.deleteHeader name index }
  | .changeFrom sender _ =>
      updateMail fun mail => { mail with envelopeFrom := normalizeEnvelopeAddress sender }
  | .addRecipient recipient _ =>
      updateMail fun mail =>
        { mail with recipients := mail.recipients ++ [normalizeEnvelopeAddress recipient] }
  | .deleteRecipient recipient =>
      updateMail fun mail =>
        { mail with recipients := mail.recipients.erase (normalizeEnvelopeAddress recipient) }
  | .replaceBody chunk =>
      updateMail fun mail => { mail with replacedBody := mail.replacedBody ++ chunk }
  | .progress => pure ⟨⟩
  | .quarantine reason => updateData fun data => { data with quarantineReason := some reason }
  | .connectionFailure | .shutdown => sendAbort
  | .skip => cbSkip options call

end Handle

/-- The handlers with at most `depth` replies that the context gives itself within another. -/
def dispatch (options : Options) : Nat → Handlers
  | 0 => fun _ => pure ⟨⟩
  | depth + 1 => handle options (dispatch options depth)

/-! ## What happens on the connection -/

section Receive

variable (options : Options) (call : Handlers)

/-- `process_next_state_body`, `milter/server/milter-server-context.c:1260`. -/
def processNextStateBody : Program PUnit := do
  let context ← contextOf
  if context.body = [] then pure ⟨⟩
  else if !context.needReply .body then
    let _ ← flushBody
    pure ⟨⟩
  else registerTimeout .reading

/-- `process_next_state`, `milter/server/milter-server-context.c:1303`. -/
def processNextState (nextState : ContextState) : Program PUnit := do
  if nextState = .invalid then cbError
  else
    disableTimeout
    match nextState with
    | .endOfMessage =>
        updateContext fun context =>
          if context.processBodyCount = 0 then { context with state := .endOfMessage }
          else { context with sentEndOfMessage := true }
        registerTimeout .endOfMessage
    | .body =>
        updateContext fun context => { context with state := .body }
        processNextStateBody
    | .quit =>
        agentShutdown
        updateContext fun context => { context with state := .quit }
    | .abort =>
        updateContext fun context => { context with state := .abort }
        updateContext Context.resetMessageRelatedData
    | nextState =>
        updateContext fun context => { context with state := nextState }
        let context ← contextOf
        if context.needReply nextState then registerTimeout .reading

/-- `flushed`, `milter/server/milter-server-context.c:1422`, with the handler of
`state-transited`. -/
def flushed : Program PUnit := do
  let context ← contextOf
  updateContext fun context => { context with nextStates := [] }
  Proc.each (fun nextState => do
    processNextState nextState
    cbStateTransited options call nextState) context.nextStates

/-- `cb_decoder_negotiate_reply`, `milter/server/milter-server-context.c:2388`. -/
def decoderNegotiateReply (option : MilterOption) : Program PUnit := do
  let context ← contextOf
  disableTimeout
  match (context.option.getD option).combine option with
  | none => cbError
  | some combined =>
      updateContext fun context => { context with option := some combined }
      if context.state = .negotiate then
        if !context.quitted then handle options call (.negotiateReply option)
      else cbError

/-- `decrement_process_body_count`, `milter/server/milter-server-context.c:2474`. -/
def decrementProcessBodyCount : Program PUnit := do
  let context ← contextOf
  match context.bodyResponseQueue with
  | [] => pure ⟨⟩
  | count :: rest =>
      let count := (count + 0xffffffff) % 0x100000000
      if count = 0 then
        updateContext fun context => { context with bodyResponseQueue := rest }
        handle options call .continue
        updateContext fun context =>
          { context with
            state := if context.sentEndOfMessage then .endOfMessage else context.state }
      else updateContext fun context => { context with bodyResponseQueue := count :: rest }

/-- `cb_decoder_continue`, `milter/server/milter-server-context.c:2517`. -/
def decoderContinue : Program PUnit := do
  let context ← contextOf
  disableTimeout
  match context.state with
  | .body =>
      if !context.quitted then
        decrementProcessBodyCount options call
        let context ← contextOf
        if context.body ≠ [] then
          let _ ← flushBody
  | .connect | .helo | .envelopeFrom | .envelopeRecipient | .unknown | .data | .header
  | .endOfHeader | .endOfMessage =>
      if !context.quitted then handle options call .continue
  | _ => cbError

/-- `cb_decoder_reply_code`, `milter/server/milter-server-context.c:2583`. -/
def decoderReplyCode (code : Nat) (extendedCode message : Option Bytes) : Program PUnit := do
  let context ← contextOf
  disableTimeout
  match context.state with
  | .body | .connect | .helo | .envelopeFrom | .envelopeRecipient | .unknown | .data | .header
  | .endOfHeader | .endOfMessage =>
      if !context.quitted then
        Proc.when (context.state = .body) <| updateContext Context.clearProcessBodyCount
        handle options call (.replyCode code extendedCode message)
  | _ => cbError

/-- The end of the decoder handlers for a final status,
`milter/server/milter-server-context.c:2671`. -/
def decoderFinalStatus (reply : Reply) : Program PUnit := do
  disableTimeout
  let context ← contextOf
  if !context.quitted then
    handle options call reply
    let context ← contextOf
    if context.state = .body then updateContext Context.clearProcessBodyCount

/-- A reply that is allowed at the end of a message only,
`milter/server/milter-server-context.c:2890`. -/
def decoderAtEndOfMessage (reply : Reply) : Program PUnit := do
  let context ← contextOf
  if context.state = .endOfMessage then
    if !context.quitted then handle options call reply
  else cbError

/-- `cb_decoder_progress`, `milter/server/milter-server-context.c:3130`. -/
def decoderProgress : Program PUnit := do
  let context ← contextOf
  if context.state = .endOfMessage then
    if !context.quitted then
      registerTimeout .endOfMessage
      handle options call .progress
  else cbError

/-- `cb_decoder_connection_failure` and `cb_decoder_shutdown`,
`milter/server/milter-server-context.c:3181`. -/
def decoderGone (reply : Reply) : Program PUnit := do
  disableTimeout
  let context ← contextOf
  if !context.quitted then handle options call reply

/-- `cb_decoder_skip`, `milter/server/milter-server-context.c:3240`. -/
def decoderSkip : Program PUnit := do
  disableTimeout
  let context ← contextOf
  if context.state = .body then
    if !context.quitted then
      handle options call .skip
      updateContext Context.clearProcessBodyCount
      updateContext fun context => { context with skipBody := true }
  else cbError

/-- The handler of the reply decoder for each reply. -/
def decode : Reply → Program PUnit
  | .negotiateReply option => decoderNegotiateReply options call option
  | .continue => decoderContinue options call
  | .replyCode code extendedCode message => decoderReplyCode options call code extendedCode message
  | .progress => decoderProgress options call
  | .skip => decoderSkip options call
  | .connectionFailure => decoderGone options call .connectionFailure
  | .shutdown => decoderGone options call .shutdown
  | .temporaryFailure => decoderFinalStatus options call .temporaryFailure
  | .reject => decoderFinalStatus options call .reject
  | .accept => decoderFinalStatus options call .accept
  | .discard => decoderFinalStatus options call .discard
  | reply => decoderAtEndOfMessage options call reply

end Receive

/-- The registered timeout expires: `cb_writing_timeout`, `cb_reading_timeout` and
`cb_end_of_message_timeout` of `milter/server/milter-server-context.c:884`, with the handlers of
`tool/milter-test-server.c:734`. -/
def expireTimeout : Program PUnit := do
  let context ← contextOf
  match context.timeout with
  | none | some .expired => pure ⟨⟩
  | some timeout =>
      registerTimeout .expired
      updateData fun data => { data with success := false, error := some (.timeout timeout) }
      Proc.when (timeout = .reading ∨ timeout = .endOfMessage) sendAbort
      Proc.when (timeout ≠ .connection) agentShutdown

/-- What happens on the connection: what was written is flushed, the milter replies, a timeout
expires, or the milter closes the connection. -/
inductive Event where
  | flushed
  | replied (reply : Reply)
  | expired
  | hungUp
deriving DecidableEq, Repr

/-- One iteration of the loop of the tool, which ends when the connection is finished. -/
def step (options : Options) (call : Handlers) (event : Event) : Program PUnit := do
  let context ← contextOf
  if context.finished then pure ⟨⟩
  else
    match event with
    | .flushed => flushed options call
    | .replied reply => decode options call reply
    | .expired => expireTimeout
    | .hungUp => agentShutdown

namespace StepFlags

/-- The steps that the tool offers to the milter, `negotiate` of
`tool/milter-test-server.c:877`. -/
def offered : Flags := StepFlags.noMask ||| StepFlags.yesMask

end StepFlags

/-- The option that the tool offers; its actions are those a milter knows. -/
def offeredOption (options : Options) : MilterOption where
  version := options.negotiateVersion
  action := 0x1ff#32
  step := StepFlags.offered

/-- The tool when the connection is ready, before `cb_ready`. -/
def ready (options : Options) : TestServer where
  context := { Context.init .accept false false with writer := .started }
  data := initProcessData options

/-- A run of the tool, from `cb_ready` of `tool/milter-test-server.c:918` on. -/
def run (options : Options) (depth : Nat) (events : List Event) : Program PUnit := do
  let _ ← contextNegotiate (offeredOption options)
  Proc.each (step options (dispatch options depth)) events

end MilterManager.Tool
