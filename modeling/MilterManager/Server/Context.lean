import MilterManager.Core.Option

/-!
# The connection to one child

The private data of a `MilterServerContext`, from `milter/server/milter-server-context.c`, with the
configuration of the `MilterManagerChild` it belongs to, and the queries that read them.
-/

namespace MilterManager.Server

open MilterManager.Core

/-- The timeout a context has registered, `timeout_id` of the source, which keeps its value when
the timeout has `expired`. -/
inductive Timeout where
  | connection
  | writing
  | reading
  | endOfMessage
  | expired
deriving DecidableEq, Repr

/-- The writer of the agent: none before the connection is established, unusable after a
shutdown, and gone when its channel failed. -/
inductive Writer where
  | absent
  | started
  | stopped
  | lost
deriving DecidableEq, Repr

/-- A reply decoded from what a child wrote, the signals of a `MilterReplyDecoder`. -/
inductive Reply where
  | negotiateReply (option : MilterOption)
  | continue
  | replyCode (code : Nat) (extendedCode message : Option Bytes)
  | temporaryFailure
  | reject
  | accept
  | discard
  | addHeader (name : Bytes) (value : Option Bytes)
  | insertHeader (index : Nat) (name : Bytes) (value : Option Bytes)
  | changeHeader (name : Bytes) (index : Nat) (value : Option Bytes)
  | deleteHeader (name : Bytes) (index : Nat)
  | changeFrom (sender : Bytes) (parameters : Option Bytes)
  | addRecipient (recipient : Bytes) (parameters : Option Bytes)
  | deleteRecipient (recipient : Bytes)
  | replaceBody (chunk : Bytes)
  | progress
  | quarantine (reason : Bytes)
  | connectionFailure
  | shutdown
  | skip
deriving DecidableEq, Repr

/-- The recipients of a `MilterMessageResult`. -/
structure MessageResult where
  recipients : List Bytes
  temporaryFailedRecipients : List (Option Bytes)
  rejectedRecipients : List (Option Bytes)
deriving DecidableEq, Repr

/-- `milter_message_result_new`. -/
def MessageResult.empty : MessageResult := ⟨[], [], []⟩

/-- `MilterServerContextPrivate`, with the fallback status, the evaluation mode and the command of
the child. -/
structure Context where
  state : ContextState
  nextStates : List ContextState
  option : Option MilterOption
  timeout : Option Timeout
  connecting : Bool
  writer : Writer
  finished : Bool
  skipBody : Bool
  body : Bytes
  bodyResponseQueue : List Nat
  processBodyCount : Nat
  sentEndOfMessage : Bool
  negotiated : Bool
  processingMessage : Bool
  quitted : Bool
  currentRecipient : Option Bytes
  messageResult : Option MessageResult
  /-- What the stop-on signals answer, by the state they ask about. -/
  stopOn : ContextState → Bool
  /-- How many times the handlers of the children object are connected. -/
  handlers : Nat
  fallbackStatus : Status
  evaluationMode : Bool
  hasCommand : Bool

namespace Context

/-- `milter_server_context_init`, with the handlers not connected. -/
def init (fallbackStatus : Status) (evaluationMode hasCommand : Bool) : Context where
  state := .start
  nextStates := []
  option := none
  timeout := none
  connecting := false
  writer := .absent
  finished := false
  skipBody := false
  body := []
  bodyResponseQueue := []
  processBodyCount := 0
  sentEndOfMessage := false
  negotiated := false
  processingMessage := false
  quitted := false
  currentRecipient := none
  messageResult := none
  stopOn := fun _ => false
  handlers := 0
  fallbackStatus := fallbackStatus
  evaluationMode := evaluationMode
  hasCommand := hasCommand

/-- What only the negotiation and the children object change: the option, the handlers connected,
and the configuration of the child. -/
def setup (context : Context) : Option MilterOption × Nat × Status × Bool :=
  (context.option, context.handlers, context.fallbackStatus, context.evaluationMode)

/-- `milter_server_context_is_processing`, `milter/server/milter-server-context.c:962`. -/
def isProcessing (context : Context) : Bool := context.timeout.isSome

/-- The no-reply flag for a command, `milter/server/milter-server-context.c:1118`. -/
def noReplyFlag : ContextState → Flags
  | .connect => StepFlags.noReplyConnect
  | .helo => StepFlags.noReplyHelo
  | .envelopeFrom => StepFlags.noReplyEnvelopeFrom
  | .envelopeRecipient => StepFlags.noReplyEnvelopeRecipient
  | .data => StepFlags.noReplyData
  | .header => StepFlags.noReplyHeader
  | .endOfHeader => StepFlags.noReplyEndOfHeader
  | .body => StepFlags.noReplyBody
  | .unknown => StepFlags.noReplyUnknown
  | _ => 0#32

/-- `milter_server_context_need_reply`, `milter/server/milter-server-context.c:1110`. -/
def needReply (context : Context) (state : ContextState) : Bool :=
  match context.option with
  | none => true
  | some option => option.step &&& noReplyFlag state == 0#32

/-- `milter_server_context_is_enable_step`, `milter/server/milter-server-context.c:1759`. -/
def isEnableStep (context : Context) (step : Flags) : Bool :=
  match context.option with
  | none => true
  | some option => option.step &&& step != 0#32

/-- `milter_server_context_is_processing_message`,
`milter/server/milter-server-context.c:3654`. -/
def isProcessingMessage (context : Context) : Bool :=
  context.negotiated && !context.quitted && context.processingMessage

/-- `milter_server_context_is_quitted`, `milter/server/milter-server-context.c:3674`. -/
def isQuitted (context : Context) : Bool :=
  !context.negotiated || context.quitted

/-- `milter_server_context_has_accepted_recipient`,
`milter/server/milter-server-context.c:3715`. -/
def hasAcceptedRecipient (context : Context) : Bool :=
  match context.messageResult with
  | none => true
  | some result =>
      (result.rejectedRecipients.isEmpty && result.temporaryFailedRecipients.isEmpty) ||
        !result.recipients.isEmpty

/-- `ensure_message_result`. -/
def ensureMessageResult (context : Context) : Context :=
  { context with messageResult := some (context.messageResult.getD .empty) }

/-- `milter_server_context_reset_message_related_data`,
`milter/server/milter-server-context.c:1820`. -/
def resetMessageRelatedData (context : Context) : Context :=
  { context with
    skipBody := false
    processingMessage := false
    bodyResponseQueue := []
    processBodyCount := 0
    sentEndOfMessage := false
    messageResult := none }

/-- The state of which `emit_message_processed_signal`,
`milter/server/milter-server-context.c:1063`, disposes: the result of the message. -/
def emitMessageProcessedSignal (context : Context) : Context :=
  { context with messageResult := none }

/-- `clear_process_body_count`, `milter/server/milter-server-context.c:2458`. -/
def clearProcessBodyCount (context : Context) : Context :=
  { context with
    bodyResponseQueue := []
    state := if context.sentEndOfMessage then .endOfMessage else context.state }

/-- A recipient that was not accepted leaves the recipients of the message,
`milter/server/milter-server-context.c:2610`. -/
def removeCurrentRecipient (context : Context) (failed : Bool) : Context :=
  let result := context.messageResult.getD .empty
  let result :=
    if failed then
      { result with
        temporaryFailedRecipients := result.temporaryFailedRecipients ++
          [context.currentRecipient] }
    else
      { result with rejectedRecipients := result.rejectedRecipients ++ [context.currentRecipient] }
  let result :=
    match context.currentRecipient with
    | none => result
    | some recipient => { result with recipients := result.recipients.erase recipient }
  { context with messageResult := some result, currentRecipient := none }

end Context

end MilterManager.Server
