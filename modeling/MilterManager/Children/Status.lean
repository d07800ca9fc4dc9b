import MilterManager.Children.Connection

/-!
# Reply statuses and the data of a message

How the children object combines the answers of its children and emits the result, and how it
keeps and disposes of the data of a message; from
`milter/manager/milter-manager-children.c:410` and on.
-/

namespace MilterManager.Children

open MilterManager.Base MilterManager.Core MilterManager.Server

/-- `status_to_signal_name`, `milter/manager/milter-manager-children.c:698`. -/
def statusToSignal : Status → Signal
  | .continue => .continue
  | .reject => .reject
  | .discard => .discard
  | .accept => .accept
  | .temporaryFailure => .temporaryFailure
  | .skip => .skip
  | .progress => .progress
  | _ => .continue

/-- `get_reply_status_for_state`, `milter/manager/milter-manager-children.c:759`. -/
def getReplyStatusForState (s : State) (state : ContextState) : Status :=
  if s.replyStatuses state = .default then .notChange else s.replyStatuses state

/-- `milter_manager_children_is_important_status`. -/
def isImportantStatus (s : State) (state : ContextState) (status : Status) : Bool :=
  statusCompare (getReplyStatusForState s state) status < 0

/-- `milter_manager_children_set_status`. -/
def setReplyStatus (state : ContextState) (status : Status) : Program PUnit :=
  Proc.update fun s => { s with replyStatuses := Function.update s.replyStatuses state status }

/-- `compile_reply_status`, `milter/manager/milter-manager-children.c:777`. -/
def compileReplyStatus (state : ContextState) (status : Status) : Program PUnit := do
  let s ← Proc.getState
  if isImportantStatus s state status then setReplyStatus state status

/-- `dispose_pending_message_request`. -/
def disposePendingMessageRequest : Program PUnit :=
  Proc.update fun s => { s with pendingMessageRequest := none }

/-- `dispose_body_related_data`, `milter/manager/milter-manager-children.c:413`. -/
def disposeBodyRelatedData : Program PUnit :=
  Proc.update fun s =>
    { s with emittedReplyForMessageOrientedCommand := false, body := none, bodyFile := none }

/-- `dispose_reply_related_data`, `milter/manager/milter-manager-children.c:435`. -/
def disposeReplyRelatedData : Program PUnit :=
  Proc.update fun s => { s with replyCode := 0, replyExtendedCode := none, replyMessage := none }

/-- `dispose_message_related_data`, `milter/manager/milter-manager-children.c:452`. -/
def disposeMessageRelatedData : Program PUnit := do
  Proc.record fun _ => .disposed
  disposePendingMessageRequest
  Proc.update fun s =>
    { s with
      commandWaitingChildQueue := []
      commandQueue := []
      originalHeaders := none
      headers := none }
  disposeBodyRelatedData
  Proc.update fun s =>
    { s with
      endOfMessageChunk := none
      changeFrom := none
      changeFromParameters := none
      quarantineReason := none }

/-- A reply code goes with a status of its own class only. -/
def replyCodeFits (s : State) (status : Status) : Bool :=
  (s.replyCode / 100 == 4 && status == .temporaryFailure) ||
    (s.replyCode / 100 == 5 && status == .reject)

/-- The reply code or the signal for a status, when there is a status. -/
def emitReplyStatus (s : State) (status : Status) : Program PUnit :=
  if replyCodeFits s status then do
    emitSignal (.replyCode s.replyCode s.replyExtendedCode s.replyMessage)
    disposeReplyRelatedData
  else Proc.when (status ≠ .notChange) <| emitSignal (statusToSignal status)

/-- `emit_reply_status_of_state`, `milter/manager/milter-manager-children.c:911`. -/
def emitReplyStatusOfState (state : ContextState) : Program PUnit := do
  let s ← Proc.getState
  let status := getReplyStatusForState s state
  emitReplyStatus s status
  Proc.when (state = .endOfMessage) disposeMessageRelatedData

/-- `expire_child`, `milter/manager/milter-manager-children.c:897`. -/
def expireChild (child : ChildId) : Program PUnit :=
  updateContext child fun context => { context with quitted := true, handlers := 0 }

/-- `set_state`, `milter/manager/milter-manager-children.c:3046`. -/
def setState (state : ContextState) : Program PUnit :=
  Proc.update fun s => { s with state := state, processingState := state }

/-- `milter_manager_children_abort`, `milter/manager/milter-manager-children.c:4102`. -/
def childrenAbort (call : Handlers) : Program PUnit := do
  setState .abort
  let s ← Proc.getState
  Proc.each (fun child => do
    let context ← contextOf child
    if context.isProcessingMessage || context.state = .envelopeFrom then
      let _ ← serverAbort call child) s.milters
  disposeMessageRelatedData
  Proc.each (fun child => do
    let context ← contextOf child
    if !context.isQuitted then updateContext child Context.resetMessageRelatedData) s.milters

/-- `write_body_to_file`: what is written replaces what the file has at its position. -/
def BodyFile.write (file : BodyFile) (chunk : Bytes) : BodyFile where
  content := file.content.take file.position ++ chunk ++
    file.content.drop (file.position + chunk.length)
  position := file.position + chunk.length

/-- `g_io_channel_read_chars` of up to `size` bytes: nothing at the end of the file, but a read of
no bytes is never at the end. -/
def BodyFile.readChars (file : BodyFile) (size : Nat) : Option (Bytes × BodyFile) :=
  let chunk := (file.content.drop file.position).take size
  if size ≠ 0 ∧ chunk = [] then none
  else some (chunk, { file with position := file.position + chunk.length })

/-- The body is longer than what is kept in memory. -/
def exceeds : Option Nat → Nat → Bool
  | none, _ => false
  | some limit, size => decide (limit < size)

/-- `write_body`, `milter/manager/milter-manager-children.c:3757`. -/
def writeBody (chunk : Bytes) : Program PUnit :=
  Proc.update fun s =>
    match s.bodyFile with
    | some file => { s with bodyFile := some (file.write chunk) }
    | none =>
        let body := s.body.getD [] ++ chunk
        if exceeds s.bodyLimit body.length then
          { s with body := none, bodyFile := some (BodyFile.write ⟨[], 0⟩ body) }
        else { s with body := some body }

/-- A chunk of the MTA is stored. -/
def storeBody (chunk : Bytes) : Program PUnit := do
  Proc.record fun s => .used s (.write chunk)
  writeBody chunk

/-- What is read where a chunk was copied up to its first `NUL`: the copy, the `NUL` and what is in
memory behind it. -/
def readCopy (s : State) (chunk : Bytes) (size : Nat) : Bytes :=
  let copy := chunk.takeWhile (· ≠ 0)
  (List.range size).map fun i =>
    if h : i < copy.length then copy[i]
    else if i = copy.length then 0 else s.surroundings.beyondCopy (i - copy.length - 1)

/-- A chunk in the signal, whose argument is declared as `G_TYPE_STRING`. -/
def emitChunk (chunk : Bytes) : Program PUnit := do
  let s ← Proc.getState
  emitSignal (.replaceBody (readCopy s chunk chunk.length))

/-- The loop of `emit_replace_body_signal_string`, `milter/manager/milter-manager-children.c:1132`;
rounds that are left over when it does not end are not made. -/
def emitReplaceBodySignalString (body : Bytes) (chunkSize : Nat) :
    (rounds offset : Nat) → Program PUnit
  | 0, _ => Proc.record fun _ => .endless
  | rounds + 1, offset =>
      if body.length ≤ offset then pure ⟨⟩
      else do
        let chunk := (body.drop offset).take chunkSize
        emitChunk chunk
        emitReplaceBodySignalString body chunkSize rounds (offset + chunk.length)

/-- The loop of `emit_replace_body_signal_file`, `milter/manager/milter-manager-children.c:1082`. -/
def emitReplaceBodySignalFile (chunkSize : Nat) : (rounds : Nat) → Program PUnit
  | 0 => Proc.record fun _ => .endless
  | rounds + 1 => do
      let s ← Proc.getState
      match s.bodyFile.bind (·.readChars chunkSize) with
      | none => pure ⟨⟩
      | some (chunk, file) => do
          Proc.update fun s => { s with bodyFile := some file }
          emitChunk chunk
          emitReplaceBodySignalFile chunkSize rounds

/-- `emit_replace_body_signal`, `milter/manager/milter-manager-children.c:1151`. A loop that ends
makes a round for each byte at most. -/
def emitReplaceBodySignal : Program PUnit := do
  Proc.record fun s => .used s .emit
  let s ← Proc.getState
  (match s.body with
    | some body => emitReplaceBodySignalString body s.chunkSize.value (body.length + 1) 0
    | none => do
        Proc.update fun s =>
          { s with bodyFile := s.bodyFile.map fun file => { file with position := 0 } }
        let size := (s.bodyFile.map (·.content.length)).getD 0
        emitReplaceBodySignalFile s.chunkSize.value (size + 1))
  Proc.record fun s => .used s .emitted

/-- `emit_signals_on_end_of_message`, `milter/manager/milter-manager-children.c:1270`. -/
def emitSignalsOnEndOfMessage : Program PUnit := do
  let s ← Proc.getState
  Proc.when s.replacedBody emitReplaceBodySignal
  (match s.originalHeaders with
    | none => pure ⟨⟩
    | some originalHeaders =>
        Proc.each (fun signal => emitSignal (.header signal))
          (emitHeaderSignals originalHeaders (s.headers.getD [])))
  (match s.changeFrom with
    | none => pure ⟨⟩
    | some sender => emitSignal (.changeFrom sender s.changeFromParameters))
  (match s.quarantineReason with
    | none => pure ⟨⟩
    | some reason => emitSignal (.quarantine reason))

/-- `emit_reply_for_message_oriented_command`,
`milter/manager/milter-manager-children.c:1289`. -/
def emitReplyForMessageOrientedCommand (state : ContextState) : Program PUnit := do
  let s ← Proc.getState
  if s.emittedReplyForMessageOrientedCommand then pure ⟨⟩
  else
    Proc.update fun s => { s with emittedReplyForMessageOrientedCommand := true }
    Proc.when (state = .endOfMessage) emitSignalsOnEndOfMessage
    emitReplyStatusOfState state

/-- `handle_status`, `milter/manager/milter-manager-children.c:1355`. -/
def handleStatus (status : Status) : Program PUnit :=
  if status = .progress then pure ⟨⟩ else emitSignal (statusToSignal status)

end MilterManager.Children
