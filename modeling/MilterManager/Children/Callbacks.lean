import MilterManager.Children.Negotiation

/-!
# The handlers of the children object

What the children object does for each signal of a child, from
`milter/manager/milter-manager-children.c:1363` to `:2418`.
-/

namespace MilterManager.Children

open MilterManager.Base MilterManager.Core MilterManager.Server

/-- What a child in `state` is sent after a continue of its. -/
def continueFrom (call : Handlers) (child : ChildId) (state : ContextState) :
    Program Status := do
  let s ← Proc.getState
  match state with
  | .endOfHeader => sendNextCommand call child state
  | .header =>
      if s.state.toNat < state.toNat then pure .notChange
      else if s.processingHeaderIndex < (s.headers.getD []).length then
        sendNextHeaderToChild call child
      else sendNextCommand call child state
  | .body =>
      if s.state.toNat < state.toNat then pure .notChange
      else if s.sendingBody then do
        let status ← sendBodyToChild call child
        if status = .notChange then sendNextCommand call child state else pure status
      else sendNextCommand call child state
  | .endOfMessage => sendFirstCommandToNextChild call child
  | _ =>
      let _ ← removeChildFromQueue call child
      pure .progress

/-- `cb_continue`, `milter/manager/milter-manager-children.c:1364`. -/
def cbContinue (call : Handlers) (child : ChildId) : Program PUnit := do
  let context ← contextOf child
  compileReplyStatus context.state .continue
  let status ← continueFrom call child context.state
  handleStatus status

/-- The common part of `cb_temporary_failure`, `cb_reject` and `cb_discard`; they differ in what
they do with a child that is in none of the states of a message. -/
def refuse (call : Handlers) (child : ChildId) (refusal : Status) : Program PUnit := do
  let context ← contextOf child
  let state := context.state
  compileReplyStatus state (if context.evaluationMode then .accept else refusal)
  match state with
  | .envelopeFrom | .data =>
      updateContext child fun context => { context with processingMessage := false }
      let _ ← removeChildFromQueue call child
  | .envelopeRecipient =>
      let _ ← removeChildFromQueue call child
  | .header | .endOfHeader | .body | .endOfMessage =>
      updateContext child fun context => { context with processingMessage := false }
      emitReplyForMessageOrientedCommand state
      childrenAbort call
  | _ =>
      let _ ← serverQuit call child

/-- `cb_temporary_failure`, `milter/manager/milter-manager-children.c:1415`. -/
def cbTemporaryFailure (call : Handlers) (child : ChildId) : Program PUnit :=
  refuse call child .temporaryFailure

/-- `cb_reject`, `milter/manager/milter-manager-children.c:1486`. -/
def cbReject (call : Handlers) (child : ChildId) : Program PUnit :=
  refuse call child .reject

/-- `cb_reply_code`, `milter/manager/milter-manager-children.c:1556`. -/
def cbReplyCode (call : Handlers) (child : ChildId) (code : Nat)
    (extendedCode message : Option Bytes) : Program PUnit := do
  disposeReplyRelatedData
  Proc.update fun s =>
    { s with replyCode := code, replyExtendedCode := extendedCode, replyMessage := message }
  if code / 100 = 4 then cbTemporaryFailure call child else cbReject call child

/-- `cb_accept`, `milter/manager/milter-manager-children.c:1580`. -/
def cbAccept (call : Handlers) (child : ChildId) : Program PUnit := do
  let context ← contextOf child
  let state := context.state
  compileReplyStatus state .accept
  match state with
  | .envelopeFrom | .data | .envelopeRecipient =>
      updateContext child fun context => { context with processingMessage := false }
      let _ ← removeChildFromQueue call child
  | .header | .endOfHeader | .body | .endOfMessage =>
      updateContext child fun context => { context with processingMessage := false }
      let _ ← sendFirstCommandToNextChild call child
  | _ =>
      let _ ← serverQuit call child

/-- `cb_discard`, `milter/manager/milter-manager-children.c:1632`. -/
def cbDiscard (call : Handlers) (child : ChildId) : Program PUnit :=
  refuse call child .discard

/-- `cb_skip`, `milter/manager/milter-manager-children.c:1696`. -/
def cbSkip (call : Handlers) (child : ChildId) : Program PUnit := do
  let context ← contextOf child
  compileReplyStatus context.state .skip
  let s ← Proc.getState
  if s.state.toNat < ContextState.endOfMessage.toNat then emitSignal .continue
  else
    let _ ← sendNextCommand call child context.state

/-- `normalize_header_value`, `milter/manager/milter-manager-children.c:1733`. -/
def normalizeHeaderValue (s : State) (child : ChildId) (value : Option Bytes) : Option Bytes :=
  if needHeaderValueLeadingSpaceConversion s child then
    value.map fun bytes => if bytes.head? = some 32 then bytes else 32 :: bytes
  else value

/-- A modification that a child may ask for at the end of a message only, and that a child in
evaluation mode asks for in vain. -/
def modification (call : Handlers) (child : ChildId) (modify : Program PUnit) :
    Program PUnit := do
  let context ← contextOf child
  if context.state = .endOfMessage then
    if !context.evaluationMode then modify
  else
    let _ ← serverQuit call child

/-- A modification of the headers that the next child gets. -/
def modifyHeaders (f : State → Headers → Headers) : Program PUnit :=
  Proc.update fun s => { s with headers := s.headers.map (f s) }

/-- `cb_add_header`, `milter/manager/milter-manager-children.c:1838`. -/
def cbAddHeader (call : Handlers) (child : ChildId) (name : Bytes) (value : Option Bytes) :
    Program PUnit :=
  modification call child <|
    modifyHeaders fun s headers => headers.addHeader name (normalizeHeaderValue s child value)

/-- `cb_insert_header`, `milter/manager/milter-manager-children.c:1878`. -/
def cbInsertHeader (call : Handlers) (child : ChildId) (index : Nat) (name : Bytes)
    (value : Option Bytes) : Program PUnit :=
  modification call child <|
    modifyHeaders fun s headers =>
      headers.insertHeader index name (normalizeHeaderValue s child value)

/-- `cb_change_header`, `milter/manager/milter-manager-children.c:1920`. -/
def cbChangeHeader (call : Handlers) (child : ChildId) (name : Bytes) (index : Nat)
    (value : Option Bytes) : Program PUnit :=
  modification call child <|
    modifyHeaders fun s headers =>
      headers.changeHeader name index (normalizeHeaderValue s child value)

/-- `cb_delete_header`, `milter/manager/milter-manager-children.c:1959`. -/
def cbDeleteHeader (call : Handlers) (child : ChildId) (name : Bytes) (index : Nat) :
    Program PUnit :=
  modification call child <| modifyHeaders fun _ headers => headers.deleteHeader name index

/-- `cb_change_from`, `milter/manager/milter-manager-children.c:1980`. -/
def cbChangeFrom (call : Handlers) (child : ChildId) (sender : Bytes)
    (parameters : Option Bytes) : Program PUnit :=
  modification call child <|
    Proc.update fun s => { s with changeFrom := some sender, changeFromParameters := parameters }

/-- `cb_add_recipient`, `milter/manager/milter-manager-children.c:2010`. -/
def cbAddRecipient (call : Handlers) (child : ChildId) (recipient : Bytes)
    (parameters : Option Bytes) : Program PUnit :=
  modification call child <| emitSignal (.addRecipient recipient parameters)

/-- `cb_delete_recipient`, `milter/manager/milter-manager-children.c:2035`. -/
def cbDeleteRecipient (call : Handlers) (child : ChildId) (recipient : Bytes) : Program PUnit :=
  modification call child <| emitSignal (.deleteRecipient recipient)

/-- What a child replaces the body with takes the place of what is stored, behind what it has
replaced it with before; the argument of the signal is declared as `G_TYPE_STRING`. -/
def replaceBody (child : ChildId) (chunk : Bytes) : Program PUnit := do
  Proc.record fun s => .used s (.replace child chunk)
  let s ← Proc.getState
  Proc.when (!s.replacedBodyForEachChild) disposeBodyRelatedData
  writeBody (readCopy s chunk chunk.length)
  Proc.update fun s => { s with replacedBodyForEachChild := true, replacedBody := true }

/-- `cb_replace_body`, `milter/manager/milter-manager-children.c:2050`. -/
def cbReplaceBody (call : Handlers) (child : ChildId) (chunk : Bytes) : Program PUnit :=
  modification call child (replaceBody child chunk)

/-- `cb_progress`, `milter/manager/milter-manager-children.c:2077`. -/
def cbProgress (call : Handlers) (child : ChildId) : Program PUnit := do
  let context ← contextOf child
  if context.state = .endOfMessage then emitSignal .progress
  else
    let _ ← serverQuit call child

/-- `cb_quarantine`, `milter/manager/milter-manager-children.c:2100`. -/
def cbQuarantine (call : Handlers) (child : ChildId) (reason : Bytes) : Program PUnit :=
  modification call child <| Proc.update fun s => { s with quarantineReason := some reason }

/-- `cb_stopped`, `milter/manager/milter-manager-children.c:2137`. -/
def cbStopped (call : Handlers) (child : ChildId) : Program PUnit := do
  let context ← contextOf child
  let state := context.state
  match state with
  | .connect | .helo =>
      compileReplyStatus state .accept
      let _ ← serverAbort call child
      let _ ← serverQuit call child
  | .envelopeFrom =>
      compileReplyStatus state .accept
      cbContinue call child
  | .envelopeRecipient => cbContinue call child
  | .data | .header | .endOfHeader | .body | .endOfMessage =>
      compileReplyStatus state .accept
      let _ ← serverAbort call child
      let _ ← sendFirstCommandToNextChild call child
  | _ =>
      compileReplyStatus state .temporaryFailure
      let _ ← serverAbort call child
      let _ ← serverQuit call child

/-- The common body of `cb_writing_timeout`, `cb_reading_timeout`, `cb_end_of_message_timeout` and
`cb_error`: the child falls back to its fallback status and leaves. -/
def fallBack (call : Handlers) (child : ChildId) : Program PUnit := do
  let context ← contextOf child
  compileReplyStatus context.state context.fallbackStatus
  expireChild child
  let _ ← removeChildFromQueue call child

/-- `cb_writing_timeout`, `milter/manager/milter-manager-children.c:2194`. -/
def cbWritingTimeout (call : Handlers) (child : ChildId) : Program PUnit :=
  fallBack call child

/-- `cb_reading_timeout`, `milter/manager/milter-manager-children.c:2234`. -/
def cbReadingTimeout (call : Handlers) (child : ChildId) : Program PUnit :=
  fallBack call child

/-- `cb_end_of_message_timeout`, `milter/manager/milter-manager-children.c:2274`. -/
def cbEndOfMessageTimeout (call : Handlers) (child : ChildId) : Program PUnit :=
  fallBack call child

/-- `cb_error`, `milter/manager/milter-manager-children.c:2315`. -/
def cbError (call : Handlers) (child : ChildId) : Program PUnit :=
  fallBack call child

/-- `cb_finished`, `milter/manager/milter-manager-children.c:2357`. -/
def cbFinished (call : Handlers) (child : ChildId) : Program PUnit := do
  let context ← contextOf child
  Proc.when context.isProcessing <| compileReplyStatus context.state context.fallbackStatus
  expireChild child
  let s ← Proc.getState
  match s.processingState with
  | .negotiate => removeQueueInNegotiate child
  | .header | .endOfHeader | .body | .endOfMessage =>
      if !s.emittedReplyForMessageOrientedCommand ∧ (s.context child).isProcessing then
        let _ ← sendFirstCommandToNextChild call child
  | _ =>
      let _ ← removeChildFromQueue call child

/-- The handler of the children object for a signal of a child. -/
def handle (call : Handlers) (child : ChildId) : Callback → Program PUnit
  | .negotiateReply option => cbNegotiateReply child option
  | .continue => cbContinue call child
  | .replyCode code extendedCode message => cbReplyCode call child code extendedCode message
  | .temporaryFailure => cbTemporaryFailure call child
  | .reject => cbReject call child
  | .accept => cbAccept call child
  | .discard => cbDiscard call child
  | .addHeader name value => cbAddHeader call child name value
  | .insertHeader index name value => cbInsertHeader call child index name value
  | .changeHeader name index value => cbChangeHeader call child name index value
  | .deleteHeader name index => cbDeleteHeader call child name index
  | .changeFrom sender parameters => cbChangeFrom call child sender parameters
  | .addRecipient recipient parameters => cbAddRecipient call child recipient parameters
  | .deleteRecipient recipient => cbDeleteRecipient call child recipient
  | .replaceBody chunk => cbReplaceBody call child chunk
  | .progress => cbProgress call child
  | .quarantine reason => cbQuarantine call child reason
  | .connectionFailure => emitSignal .connectionFailure
  | .shutdown => emitSignal .shutdown
  | .skip => cbSkip call child
  | .stopped => cbStopped call child
  | .writingTimeout => cbWritingTimeout call child
  | .readingTimeout => cbReadingTimeout call child
  | .endOfMessageTimeout => cbEndOfMessageTimeout call child
  | .error _ => cbError call child
  | .finished => cbFinished call child
  | .ready attempt => cbReady call attempt
  | .connectionTimeout attempt => cbConnectionTimeout attempt
  | .connectionError attempt domain => cbConnectionError attempt domain

/-- The handlers entered from one another down to a depth. -/
def dispatch : Nat → Handlers
  | 0 => fun _ _ => pure ⟨⟩
  | depth + 1 => fun child callback => do
      Proc.record fun s => .called s child callback
      handle (dispatch depth) child callback

/-- What happens to a children object: the calls of its owner, its timers, and what its children
and the connections to them do. -/
inductive Event where
  | negotiate (offered : MilterOption) (established : ChildId → Bool)
  | connect (hostName : Bytes)
  | helo (fqdn : Bytes)
  | envelopeFrom (sender : Bytes)
  | envelopeRecipient (recipient : Bytes)
  | data
  | unknown (command : Bytes)
  | header (name : Bytes) (value : Option Bytes)
  | endOfHeader
  | body (chunk : Bytes)
  | endOfMessage (chunk : Option Bytes) (size : Nat)
  | quit
  | abort
  | idle
  | retry (attempt : Nat) (established : Bool)
  | connected (child : ChildId) (established : Bool)
  | flushed (child : ChildId)
  | timeout (child : ChildId)
  | reply (child : ChildId) (reply : Reply)
  | hangUp (child : ChildId)
  | fail (child : ChildId)
  | failWriter (child : ChildId)
  | setChunkSize (size : Nat)
  | stopOn (child : ChildId) (state : ContextState) (stops : Bool)

/-- Run a command whose result the caller ignores. -/
def ignoring (m : Program Bool) : Program PUnit := do
  let _ ← m
  pure ⟨⟩

/-- One event, the handlers being entered through `call`. -/
def perform (call : Handlers) : Event → Program PUnit
  | .negotiate offered established => childrenNegotiate offered established
  | .connect hostName => ignoring (childrenConnect call hostName)
  | .helo fqdn => ignoring (childrenHelo call fqdn)
  | .envelopeFrom sender => ignoring (childrenEnvelopeFrom call sender)
  | .envelopeRecipient recipient => ignoring (childrenEnvelopeRecipient call recipient)
  | .data => ignoring (childrenData call)
  | .unknown command => ignoring (childrenUnknown call command)
  | .header name value => ignoring (childrenHeader call name value)
  | .endOfHeader => ignoring (childrenEndOfHeader call)
  | .body chunk => ignoring (childrenBody call chunk)
  | .endOfMessage chunk size => ignoring (childrenEndOfMessage call chunk size)
  | .quit => childrenQuit call
  | .abort => childrenAbort call
  | .idle => idleReplyNegotiate
  | .retry attempt established => retryEstablishConnection attempt established
  | .connected child established => connectWatch call child established
  | .flushed child => flushed call child
  | .timeout child => expireTimeout call child
  | .reply child reply => receive call child reply
  | .hangUp child => hangUp call child
  | .fail child => failConnection call child
  | .failWriter child => failWriter call child
  | .setChunkSize size => Proc.update fun s => { s with chunkSize := .ofSize size }
  | .stopOn child state stops =>
      updateContext child fun context =>
        { context with stopOn := Function.update context.stopOn state stops }

/-- A run: events one after the other. -/
def run (depth : Nat) (events : List Event) : Program PUnit :=
  Proc.each (perform (dispatch depth)) events

/-- The signals of a trace. -/
def signals (trace : List Action) : List Signal :=
  trace.filterMap fun action =>
    match action with
    | .emitted _ signal => some signal
    | _ => none

end MilterManager.Children
