import MilterManager.Children.Status

/-!
# The commands of a message, child after child

The header, end-of-header, body and end-of-message commands reach one child after the other: each
child gets all of them before the next one starts, replayed from what the children before it left.
From `milter/manager/milter-manager-children.c:1162`, `:2943` and `:3543` on.
-/

namespace MilterManager.Children

open MilterManager.Base MilterManager.Core MilterManager.Server

/-- `state_to_command`; `none` is `MILTER_COMMAND_UNKNOWN`. -/
def stateToCommand : ContextState → Option Command
  | .data => some .data
  | .header => some .header
  | .endOfHeader => some .endOfHeader
  | .body => some .body
  | .endOfMessage => some .endOfMessage
  | _ => none

/-- The command behind the first occurrence of `command`. -/
def commandAfter (command : Command) : List Command → Option Command
  | [] => none
  | first :: rest => if first = command then rest.head? else commandAfter command rest

/-- `get_next_command`, `milter/manager/milter-manager-children.c:2943`. -/
def getNextCommand (s : State) (state : ContextState) : Option Command :=
  (stateToCommand state).bind fun command => commandAfter command s.commandQueue

/-- `init_command_waiting_child_queue`, `milter/manager/milter-manager-children.c:2986`. -/
def initCommandWaitingChildQueue (call : Handlers) (command : Command) : Program PUnit := do
  Proc.update fun s =>
    { s with
      commandQueue :=
        if command ∈ s.commandQueue then s.commandQueue else s.commandQueue ++ [command] }
  let s ← Proc.getState
  if s.commandWaitingChildQueue ≠ [] then pure ⟨⟩
  else
    Proc.each (fun child => do
      let context ← contextOf child
      if context.isProcessingMessage then
        if context.hasAcceptedRecipient then
          Proc.record fun _ => .queued child
          Proc.update fun s =>
            { s with commandWaitingChildQueue := s.commandWaitingChildQueue ++ [child] }
        else
          let _ ← serverAbort call child) s.milters

/-- `need_header_value_leading_space_conversion`,
`milter/manager/milter-manager-children.c:1713`. -/
def needHeaderValueLeadingSpaceConversion (s : State) (child : ChildId) : Bool :=
  if (s.context child).isEnableStep StepFlags.headerValueWithLeadingSpace then false
  else
    match s.option.bind fun option => s.options[option]? with
    | none => false
    | some option => option.step &&& StepFlags.headerValueWithLeadingSpace != 0#32

/-- The value sent to a child that does not expect the leading space. -/
def stripLeadingSpace : Bytes → Bytes
  | [] => []
  | c :: rest => if c = 32 then rest else c :: rest

/-- `send_next_header_to_child`, `milter/manager/milter-manager-children.c:3543`. -/
def sendNextHeaderToChild (call : Handlers) (child : ChildId) : Program Status := do
  Proc.update fun s =>
    { s with
      processingState := .header
      processingHeaderIndex := s.processingHeaderIndex + 1 }
  let s ← Proc.getState
  match (s.headers.getD []).getNthHeader s.processingHeaderIndex with
  | none => pure .notChange
  | some header =>
      let value :=
        if needHeaderValueLeadingSpaceConversion s child then header.value.map stripLeadingSpace
        else header.value
      if ← serverHeader call child header.name value then
        let s ← Proc.getState
        Proc.when (!(s.context child).needReply s.processingState) <|
          emitOn call child .continue
        pure .progress
      else
        let context ← contextOf child
        pure context.fallbackStatus

/-- `init_child_for_body`, `milter/manager/milter-manager-children.c:3875`. -/
def initChildForBody : Program PUnit := do
  Proc.record fun s => .used s .begin
  Proc.update fun s =>
    let s :=
      { s with
        processingState := .body
        replacedBodyForEachChild := false
        sendingBody := true }
    match s.body with
    | some _ => { s with sentBodyOffset := 0 }
    | none => { s with bodyFile := s.bodyFile.map fun file => { file with position := 0 } }

/-- The status of a command that the connection took or refused. -/
def statusOfSending (child : ChildId) (sent : Bool) : Program Status := do
  let context ← contextOf child
  pure (if sent then .progress else context.fallbackStatus)

/-- `send_body_to_child_file`, `milter/manager/milter-manager-children.c:3898`. -/
def sendBodyToChildFile (call : Handlers) (child : ChildId) : Program Status := do
  let s ← Proc.getState
  match s.bodyFile with
  | none => pure .notChange
  | some file =>
      match file.readChars s.chunkSize.value with
      | none =>
          Proc.record fun s => .used s (.complete child)
          pure .notChange
      | some (chunk, file) =>
          Proc.update fun s => { s with bodyFile := some file }
          Proc.record fun s => .used s (.hand child chunk)
          let sent ← serverBody call child chunk
          Proc.record fun s => .used s (.handed child sent)
          statusOfSending child sent

/-- `send_body_to_child_string`, `milter/manager/milter-manager-children.c:3958`. -/
def sendBodyToChildString (call : Handlers) (child : ChildId) (body : Bytes) : Program Status := do
  let s ← Proc.getState
  if body.length ≤ s.sentBodyOffset then
    Proc.record fun s => .used s (.complete child)
    pure .notChange
  else
    let chunk := (body.drop s.sentBodyOffset).take s.chunkSize.value
    Proc.record fun s => .used s (.hand child chunk)
    let sent ← serverBody call child chunk
    Proc.record fun s => .used s (.handed child sent)
    Proc.when sent do
      Proc.update fun s => { s with sentBodyOffset := s.sentBodyOffset + chunk.length }
      initCommandWaitingChildQueue call .body
    statusOfSending child sent

/-- The next chunk of what is stored goes to the child. -/
def sendStoredBody (call : Handlers) (child : ChildId) : Program Status := do
  Proc.record fun s => .used s (.send child)
  let s ← Proc.getState
  match s.body with
  | some body => sendBodyToChildString call child body
  | none => sendBodyToChildFile call child

/-- `send_body_to_child`, `milter/manager/milter-manager-children.c:3988`. -/
def sendBodyToChild (call : Handlers) (child : ChildId) : Program Status := do
  Proc.update fun s => { s with processingState := .body }
  let s ← Proc.getState
  if (s.context child).skipBody then
    Proc.update fun s => { s with sendingBody := false }
    pure .notChange
  else
    let status ← sendStoredBody call child
    let s ← Proc.getState
    Proc.when (status = .progress ∧ !(s.context child).needReply s.processingState) <|
      emitOn call child .continue
    Proc.when (status ≠ .progress) <| Proc.update fun s => { s with sendingBody := false }
    pure status

/-- The bytes an end-of-message packet takes from the copy of its chunk. -/
def endOfMessagePayload (s : State) : Bytes :=
  match s.endOfMessageChunk with
  | none => []
  | some copy => readCopy s copy s.endOfMessageSize

/-- `send_command_to_child`, `milter/manager/milter-manager-children.c:1163`. -/
def sendCommandToChild (call : Handlers) (child : ChildId) (command : Command) :
    Program Status := do
  match command with
  | .header => sendNextHeaderToChild call child
  | .endOfHeader =>
      Proc.update fun s => { s with processingState := .endOfHeader }
      if ← serverEndOfHeader call child then
        let s ← Proc.getState
        Proc.when (!(s.context child).needReply s.processingState) <|
          emitOn call child .continue
        pure .progress
      else
        let context ← contextOf child
        pure context.fallbackStatus
  | .body => sendBodyToChild call child
  | .endOfMessage =>
      Proc.update fun s =>
        { s with processingHeaderIndex := 0, processingState := .endOfMessage }
      let s ← Proc.getState
      let sent ← serverEndOfMessage call child (endOfMessagePayload s)
      statusOfSending child sent
  | .data =>
      let context ← contextOf child
      pure context.fallbackStatus

/-- `send_next_command`, `milter/manager/milter-manager-children.c:2962`. -/
def sendNextCommand (call : Handlers) (child : ChildId) (processingState : ContextState) :
    Program Status := do
  let s ← Proc.getState
  match getNextCommand s processingState with
  | none => pure .notChange
  | some command =>
      Proc.when (command = .body ∧ processingState ≠ .body) initChildForBody
      sendCommandToChild call child command

/-- `send_first_command_to_next_child`, `milter/manager/milter-manager-children.c:1324`. -/
def sendFirstCommandToNextChild (call : Handlers) (child : ChildId) : Program Status := do
  Proc.update fun s =>
    { s with
      processingHeaderIndex := 0
      commandWaitingChildQueue := s.commandWaitingChildQueue.erase child }
  let s ← Proc.getState
  (match s.commandWaitingChildQueue with
    | [] => emitReplyForMessageOrientedCommand s.state
    | nextChild :: _ =>
        match s.commandQueue with
        | [] => emitSignal .continue
        | firstCommand :: _ => do
            let _ ← sendCommandToChild call nextChild firstCommand)
  pure .progress

/-- `send_command_to_first_waiting_child`. -/
def sendCommandToFirstWaitingChild (call : Handlers) (command : Command) : Program Status := do
  let s ← Proc.getState
  match s.commandWaitingChildQueue with
  | [] => pure .notChange
  | firstChild :: _ => sendCommandToChild call firstChild command

end MilterManager.Children
