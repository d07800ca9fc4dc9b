import MilterManager.Children.Message

/-!
# The commands of the MTA

The functions through which the commands of the MTA reach the children, from
`milter/manager/milter-manager-children.c:3192` on, and `remove_child_from_queue`, which ends a
command once the last child in the reply queue has answered.
-/

namespace MilterManager.Children

open MilterManager.Base MilterManager.Core MilterManager.Server

/-- `milter_manager_children_check_alive`, `milter/manager/milter-manager-children.c:3192`. -/
def checkAlive : Program Bool := do
  let s ← Proc.getState
  if s.allExpiredAsFallbackOnNegotiated then pure false
  else if s.milters.any fun child => !(s.context child).isQuitted then pure true
  else
    emitSignal (.error .children)
    pure false

/-- `milter_manager_children_check_processing_message`,
`milter/manager/milter-manager-children.c:3229`. -/
def checkProcessingMessage : Program Bool := do
  let s ← Proc.getState
  if s.milters.any fun child => (s.context child).isProcessingMessage then pure true
  else
    emitSignal (.error .children)
    pure false

/-- `init_reply_queue`, `milter/manager/milter-manager-children.c:3058`. -/
def initReplyQueue (state : ContextState) : Program PUnit := do
  setState state
  Proc.update fun s => { s with replyQueue := [] }
  setReplyStatus state .notChange

/-- `g_queue_push_tail (priv->reply_queue, ...)`. -/
def pushReplyQueue (child : ChildId) : Program PUnit :=
  Proc.update fun s => { s with replyQueue := s.replyQueue ++ [child] }

/-- The children pushed one after the other stand behind those in the reply queue. -/
theorem each_pushReplyQueue (children : List ChildId) (s : State) :
    Proc.each pushReplyQueue children s =
      ⟨⟨⟩, { s with replyQueue := s.replyQueue ++ children }, []⟩ := by
  induction children generalizing s with
  | nil => simp
  | cons child children ih =>
      rw [Proc.each_cons, Proc.bind_apply, ih]
      simp [pushReplyQueue]

/-- Send a command to each of the children; whether one of them took it. -/
def sendToTargets (send : ChildId → Program Bool) : List ChildId → Program Bool
  | [] => pure false
  | child :: rest => do
      let sent ← send child
      let others ← sendToTargets send rest
      pure (sent || others)

/-- The children in the reply queue get the command, and those that will not reply to it are
taken as continuing. -/
def sendToReplyQueue (call : Handlers) (state : ContextState) (send : ChildId → Program Bool) :
    Program Bool := do
  let s ← Proc.getState
  let targets := s.replyQueue
  let success ← sendToTargets send targets
  Proc.each (fun child => do
    let context ← contextOf child
    if !context.needReply state then call child .continue) targets
  pure success

/-- A command that goes to all children of a kind at once. -/
def sendToAll (call : Handlers) (state : ContextState) (takes : Context → Bool)
    (send : ChildId → Program Bool) : Program Bool := do
  initReplyQueue state
  let s ← Proc.getState
  Proc.each pushReplyQueue (s.milters.filter fun child => takes (s.context child))
  sendToReplyQueue call state send

/-- `milter_manager_children_connect`, `milter/manager/milter-manager-children.c:3260`. -/
def childrenConnect (call : Handlers) (hostName : Bytes) : Program Bool := do
  if ← checkAlive then
    sendToAll call .connect (!·.isQuitted) fun child => serverConnect call child hostName
  else pure false

/-- `milter_manager_children_helo`, `milter/manager/milter-manager-children.c:3312`. -/
def childrenHelo (call : Handlers) (fqdn : Bytes) : Program Bool := do
  if ← checkAlive then
    sendToAll call .helo (!·.isQuitted) fun child => serverHelo call child fqdn
  else pure false

/-- `milter_manager_children_envelope_from`,
`milter/manager/milter-manager-children.c:3354`. -/
def childrenEnvelopeFrom (call : Handlers) (sender : Bytes) : Program Bool := do
  if ← checkAlive then
    sendToAll call .envelopeFrom (!·.isQuitted) fun child => serverEnvelopeFrom call child sender
  else pure false

/-- `milter_manager_children_envelope_recipient`,
`milter/manager/milter-manager-children.c:3397`. -/
def childrenEnvelopeRecipient (call : Handlers) (recipient : Bytes) : Program Bool := do
  if ← checkProcessingMessage then
    sendToAll call .envelopeRecipient (·.isProcessingMessage) fun child =>
      serverEnvelopeRecipient call child recipient
  else pure false

/-- `milter_manager_children_data`, `milter/manager/milter-manager-children.c:3441`: a child that
accepted no recipient is told to abort. -/
def childrenData (call : Handlers) : Program Bool := do
  if ← checkProcessingMessage then
    initReplyQueue .data
    let s ← Proc.getState
    Proc.each (fun child => do
      let context ← contextOf child
      if context.isProcessingMessage then
        if context.hasAcceptedRecipient then pushReplyQueue child
        else
          let _ ← serverAbort call child) s.milters
    sendToReplyQueue call .data (serverData call)
  else pure false

/-- `milter_manager_children_unknown`, `milter/manager/milter-manager-children.c:3501`. -/
def childrenUnknown (call : Handlers) (command : Bytes) : Program Bool := do
  if ← checkAlive then
    sendToAll call .unknown (!·.isQuitted) fun child => serverUnknown call child command
  else pure false

/-- `need_data_commmand_emulation`, `milter/manager/milter-manager-children.c:3579`. -/
def needDataCommandEmulation (s : State) : Bool :=
  s.state == .envelopeRecipient &&
    (s.option.bind fun option => s.options[option]?).any (4 ≤ ·.version)

/-- A command of the message: it waits for an emulated `DATA` when the MTA sent none. -/
def messageCommand (call : Handlers) (request : PendingMessageRequest)
    (perform : Program Bool) : Program Bool := do
  if ← checkProcessingMessage then
    let s ← Proc.getState
    if needDataCommandEmulation s then
      let success ← childrenData call
      Proc.when success <|
        Proc.update fun s => { s with pendingMessageRequest := some request }
      pure success
    else perform
  else pure false

/-- `g_strndup`: the bytes up to the first `NUL`, padded with `NUL` to the same length. -/
def copyWithin (chunk : Bytes) : Bytes :=
  let head := chunk.takeWhile (· ≠ 0)
  head ++ List.replicate (chunk.length - head.length) 0

/-- `milter_manager_children_header`, `milter/manager/milter-manager-children.c:3587`. -/
def childrenHeader (call : Handlers) (name : Bytes) (value : Option Bytes) : Program Bool :=
  messageCommand call (.header name value) do
    setState .header
    Proc.update fun s =>
      { s with headers := some ((s.headers.getD []).appendHeader name value) }
    initCommandWaitingChildQueue call .header
    let status ← sendCommandToFirstWaitingChild call .header
    pure (status == .progress)

/-- `milter_manager_children_end_of_header`,
`milter/manager/milter-manager-children.c:3625`. -/
def childrenEndOfHeader (call : Handlers) : Program Bool :=
  messageCommand call .endOfHeader do
    setState .endOfHeader
    initCommandWaitingChildQueue call .endOfHeader
    let status ← sendCommandToFirstWaitingChild call .endOfHeader
    pure (status == .progress)

/-- `milter_manager_children_body`, `milter/manager/milter-manager-children.c:3771`. -/
def childrenBody (call : Handlers) (chunk : Bytes) : Program Bool :=
  messageCommand call (.body (copyWithin chunk)) do
    initCommandWaitingChildQueue call .body
    let s ← Proc.getState
    match s.commandWaitingChildQueue with
    | [] => pure false
    | firstChild :: _ =>
        storeBody chunk
        setState .body
        Proc.update fun s => { s with replacedBodyForEachChild := false, sendingBody := false }
        let context ← contextOf firstChild
        if context.skipBody then
          -- A child that skips the body is moved on with a continue of its own.
          setContextState firstChild .body
          emitOn call firstChild .continue
          pure true
        else serverBody call firstChild chunk

/-- The next read of the file is from its start. -/
def rewindBody : Program PUnit := do
  Proc.record fun s => .used s .rewind
  Proc.update fun s =>
    { s with bodyFile := s.bodyFile.map fun file => { file with position := 0 } }

/-- `milter_manager_children_end_of_message`,
`milter/manager/milter-manager-children.c:4018`; the chunk is copied up to its first `NUL`. -/
def childrenEndOfMessage (call : Handlers) (chunk : Option Bytes) (size : Nat) : Program Bool :=
  messageCommand call (.endOfMessage (chunk.map copyWithin) size) do
    initCommandWaitingChildQueue call .endOfMessage
    Proc.update fun s =>
      let headers := s.headers.getD []
      { s with
        processingHeaderIndex := 0
        headers := some headers
        originalHeaders := some (s.originalHeaders.getD headers)
        endOfMessageChunk := chunk.map (·.takeWhile (· ≠ 0))
        endOfMessageSize := size }
    rewindBody
    setState .endOfMessage
    let status ← sendCommandToFirstWaitingChild call .endOfMessage
    pure (status == .progress)

/-- `process_pending_message_request`, `milter/manager/milter-manager-children.c:981`. -/
def processPendingMessageRequest (call : Handlers) : PendingMessageRequest → Program Bool
  | .header name value => childrenHeader call name value
  | .endOfHeader => childrenEndOfHeader call
  | .body chunk => childrenBody call chunk
  | .endOfMessage chunk size => childrenEndOfMessage call chunk size

/-- The part of `remove_child_from_queue` about the command that waits for an emulated `DATA`;
whether the command was processed. -/
def resumePendingMessageRequest (call : Handlers) (status : Status) : Program Bool := do
  let s ← Proc.getState
  match s.pendingMessageRequest with
  | none => pure false
  | some request =>
      let processed ← (if status = .continue then processPendingMessageRequest call request
        else pure false)
      disposePendingMessageRequest
      pure (processed || (status == .progress))

/-- The statuses after which the other children abort. -/
def abortsWithStatus (processingState : ContextState) : Status → Bool
  | .reject | .temporaryFailure => processingState ≠ .envelopeRecipient
  | .discard => true
  | _ => false

/-- `remove_child_from_queue`, `milter/manager/milter-manager-children.c:1037`. -/
def removeChildFromQueue (call : Handlers) (child : ChildId) : Program Status := do
  Proc.update fun s => { s with replyQueue := s.replyQueue.erase child }
  let s ← Proc.getState
  if s.replyQueue ≠ [] then pure .progress
  else
    let status := getReplyStatusForState s s.processingState
    let processed ← resumePendingMessageRequest call status
    if processed then pure .progress
    else
      let s ← Proc.getState
      emitReplyStatusOfState s.processingState
      let s ← Proc.getState
      Proc.when (abortsWithStatus s.processingState status) <| childrenAbort call
      pure status

/-- `milter_manager_children_quit`, `milter/manager/milter-manager-children.c:4068`. -/
def childrenQuit (call : Handlers) : Program PUnit := do
  setState .quit
  let s ← Proc.getState
  Proc.each (fun child => do
    let context ← contextOf child
    if !context.isQuitted ∧ context.state ≠ .quit then
      let _ ← serverQuit call child) s.milters
  let s ← Proc.getState
  if !s.finished then
    emitSignal .finished
    Proc.update fun s => { s with finished := true }

end MilterManager.Children
