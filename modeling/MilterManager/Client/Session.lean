import MilterManager.Client.Context
import MilterManager.Codec.EncoderHistory

/-!
# A session with the MTA

What `MilterClientContext`, `milter/client/milter-client-context.c`, writes to the MTA: the packets
that modify a message, which are buffered, and the answers to the commands.
-/

namespace MilterManager.Client

open MilterManager.Base MilterManager.Core MilterManager.Codec

/-- `MilterClientContextState`: a command came in, or was answered. -/
inductive ContextState where
  | start
  | received (command : Command)
  | replied (command : Command)
deriving DecidableEq, Repr

/-- `MilterClientContextError`, without the errors of input and output. -/
inductive ContextError where
  | null
  | empty
  | invalidState
  | invalidAction
deriving DecidableEq, Repr

/-- `MilterClientContextPrivate`, with the encoder of the agent. -/
structure Session where
  context : ClientContext
  state : ContextState
  encoder : Encoder
  quarantineReason : Option CString
  bufferedPackets : Bytes
  buffering : Bool
  packetBufferSize : Nat

/-- What is written to the MTA. -/
inductive Written where
  | packets (bytes : Bytes)
  | progress (bytes : Bytes)
  | answer (packet : ReplyPacket) (bytes : Bytes)
deriving DecidableEq, Repr

/-- A function of the context in a session. -/
abbrev SessionProc (α : Type) : Type := Proc Session Written α

/-- The bytes of a packet, none for `NULL`; a crash is the end of the run. -/
def packetBytes : EncodedPacket → Bytes
  | .packet bytes => bytes
  | .null | .crash => []

/-- The call of the encoder for a packet. -/
def ReplyPacket.call (macrosRequests : Option MacrosRequests) : ReplyPacket → ReplyCall
  | .negotiate option => .negotiate option macrosRequests
  | .continue => .continue
  | .replyCode code extendedCode message =>
      .replyCode ((formatReplyCode code extendedCode message).map CString.ofBytes)
  | .temporaryFailure => .temporaryFailure
  | .reject => .reject
  | .accept => .accept
  | .discard => .discard
  | .skip => .skip

namespace Session

/-- `milter_client_context_init`, with a packet buffer of some size. -/
def init (size : Nat) : Session := ⟨.init, .start, .init, none, [], false, size⟩

section Write

variable (order : RequestsOrder)

/-- A call of the encoder of the agent. -/
def encode (call : ReplyCall) : SessionProc Bytes := do
  let s ← Proc.getState
  let encoded := call.apply order s.encoder
  Proc.update fun s => { s with encoder := encoded.1 }
  pure (packetBytes encoded.2)

/-- `flush`, `milter/client/milter-client-context.c:3636`. -/
def flush : SessionProc PUnit := do
  let s ← Proc.getState
  if s.buffering then do
    Proc.update fun s => { s with buffering := false }
    Proc.record fun _ => .packets s.bufferedPackets
    Proc.update fun s => { s with bufferedPackets := [] }
  else pure ⟨⟩

/-- `write_packet`, `milter/client/milter-client-context.c:2089`: the writer has the packet before
the agent flushes what is buffered. -/
def writePacket (written : Written) : SessionProc PUnit := do
  Proc.record fun _ => written
  flush

/-- `write_packet_on_end_of_message`, `milter/client/milter-client-context.c:2179`. -/
def writePacketOnEndOfMessage (packet : Bytes) : SessionProc PUnit := do
  Proc.update fun s =>
    { s with bufferedPackets := s.bufferedPackets ++ packet, buffering := true }
  let s ← Proc.getState
  if s.bufferedPackets.length > s.packetBufferSize then flush else pure ⟨⟩

end Write

section Modify

variable (order : RequestsOrder)

/-- `validate_state`, `milter/client/milter-client-context.c:2110`. -/
def validateState (s : Session) (expected : ContextState) : Option ContextError :=
  if expected = s.state then none else some .invalidState

/-- `validate_action`, `milter/client/milter-client-context.c:2139`. -/
def validateAction (s : Session) (expected : Flags) : Option ContextError :=
  match s.context.option with
  | none => some .null
  | some option => if option.action &&& expected = expected then none else some .invalidAction

/-- What the functions that modify a message have of their own: the error of the arguments, the
action that must be allowed and the packet. -/
structure Modification where
  invalid : Option ContextError
  action : Flags
  call : ReplyCall

/-- The error that a modification meets, if any. -/
def refusal (s : Session) (modification : Modification) : Option ContextError :=
  modification.invalid.or <|
    (s.validateState (.received .endOfMessage)).or (s.validateAction modification.action)

/-- What the functions have in common that modify a message with one packet. -/
def modify (modification : Modification) : SessionProc (Option ContextError) := do
  let s ← Proc.getState
  match s.refusal modification with
  | some error => pure (some error)
  | none =>
      let packet ← encode order modification.call
      writePacketOnEndOfMessage packet
      pure none

/-- The error of an argument that must not be `NULL`. -/
def nullError (argument : Option CString) : Option ContextError :=
  if argument.isNone then some .null else none

/-- The error of an argument that must be neither `NULL` nor empty. -/
def emptyError (argument : Option CString) : Option ContextError :=
  match argument with
  | none => some .null
  | some text => if text.bytes = [] then some .empty else none

/-- `milter_client_context_add_header`, `milter/client/milter-client-context.c:2222`. -/
def addHeader (name value : Option CString) : Modification :=
  ⟨(nullError name).or (nullError value), ActionFlags.addHeaders, .addHeader name value⟩

/-- `milter_client_context_insert_header`, `milter/client/milter-client-context.c:2265`. -/
def insertHeader (index : UInt32) (name value : Option CString) : Modification :=
  ⟨(nullError name).or (nullError value), ActionFlags.addHeaders, .insertHeader index name value⟩

/-- `milter_client_context_change_header`, `milter/client/milter-client-context.c:2310`. -/
def changeHeader (name : Option CString) (index : UInt32) (value : Option CString) :
    Modification :=
  ⟨nullError name, ActionFlags.changeHeaders, .changeHeader name index value⟩

/-- `milter_client_context_delete_header`, `milter/client/milter-client-context.c:2354`. -/
def deleteHeader (name : Option CString) (index : UInt32) : Modification :=
  ⟨nullError name, ActionFlags.changeHeaders, .deleteHeader name index⟩

/-- `milter_client_context_change_from`, `milter/client/milter-client-context.c:2397`. -/
def changeFrom (sender parameters : Option CString) : Modification :=
  ⟨emptyError sender, ActionFlags.changeEnvelopeFrom, .changeFrom sender parameters⟩

/-- `milter_client_context_add_recipient`, `milter/client/milter-client-context.c:2451`. -/
def addRecipient (recipient parameters : Option CString) : Modification :=
  ⟨emptyError recipient, ActionFlags.addEnvelopeRecipient, .addRecipient recipient parameters⟩

/-- `milter_client_context_delete_recipient`, `milter/client/milter-client-context.c:2506`. -/
def deleteRecipient (recipient : Option CString) : Modification :=
  ⟨emptyError recipient, ActionFlags.deleteEnvelopeRecipient, .deleteRecipient recipient⟩

/-- The loop of `milter_client_context_replace_body`. -/
def replaceBodyRest (rest : Bytes) : SessionProc PUnit := do
  if _hrest : rest = [] then pure ⟨⟩
  else do
    let s ← Proc.getState
    let encoded := ReplyEncoder.encodeReplaceBody s.encoder rest
    Proc.update fun s => { s with encoder := encoded.1.1 }
    writePacketOnEndOfMessage (packetBytes encoded.1.2)
    replaceBodyRest (rest.drop encoded.2)
termination_by rest.length
decreasing_by
  have hlength : 0 < rest.length := List.length_pos_iff.mpr _hrest
  rw [ReplyEncoder.encodeReplaceBody, if_neg (Nat.ne_of_gt hlength), List.length_drop]
  apply Nat.sub_lt hlength
  by_cases hlong : rest.length > chunkSize
  · exact lt_of_lt_of_eq (by decide : 0 < chunkSize) (if_pos hlong).symm
  · exact lt_of_lt_of_eq hlength (if_neg hlong).symm

/-- `milter_client_context_replace_body`, `milter/client/milter-client-context.c:2556`. -/
def replaceBody (body : Bytes) : SessionProc (Option ContextError) := do
  let s ← Proc.getState
  match (s.validateState (.received .endOfMessage)).or
    (s.validateAction ActionFlags.changeBody) with
  | some error => pure (some error)
  | none =>
      replaceBodyRest body
      pure none

/-- `milter_client_context_progress`, `milter/client/milter-client-context.c:2606`. -/
def progress : SessionProc PUnit := do
  let packet ← encode order .progress
  writePacket (.progress packet)

/-- `milter_client_context_quarantine`, `milter/client/milter-client-context.c:2623`; the state is
not checked. -/
def quarantine (reason : Option CString) : SessionProc PUnit :=
  Proc.update fun s => { s with quarantineReason := reason }

/-- `milter_client_context_set_reply`, `milter/client/milter-client-context.c:1984`. -/
def setReply (code : Nat) (extendedCode message : Option Bytes) : SessionProc PUnit :=
  Proc.update fun s =>
    { s with context := (s.context.setReply code extendedCode message).getD s.context }

end Modify

section Answer

variable (order : RequestsOrder)

/-- `reply`, `milter/client/milter-client-context.c:2712`, with the packet that
`create_reply_packet` chooses. -/
def reply (macrosRequests : Option MacrosRequests) (packet : Option ReplyPacket) :
    SessionProc PUnit :=
  match packet with
  | none => pure ⟨⟩
  | some packet => do
      let bytes ← encode order (packet.call macrosRequests)
      writePacket (.answer packet bytes)

/-- `reply_on_end_of_message`, `milter/client/milter-client-context.c:2726`. -/
def replyOnEndOfMessage (status : Status) : SessionProc PUnit := do
  flush
  let s ← Proc.getState
  match s.context.createReplyPacket status with
  | none => pure ⟨⟩
  | some packet =>
      let bytes ← encode order (packet.call none)
      match s.quarantineReason with
      | none => writePacket (.answer packet bytes)
      | some reason =>
          let quarantine ← encode order (.quarantine (some reason))
          writePacket (.answer packet (quarantine ++ bytes))

/-- `negotiate_response`, `milter/client/milter-client-context.c:2863`. -/
def negotiateResponse (option : Option MilterOption) (macrosRequests : Option MacrosRequests)
    (status : Status) : SessionProc PUnit := do
  Proc.update fun s => { s with state := .replied .negotiate }
  let s ← Proc.getState
  Proc.update fun s => { s with context := (s.context.negotiateResponse option status).1 }
  reply order macrosRequests (s.context.negotiateResponse option status).2

/-- `end_of_message_response`, `milter/client/milter-client-context.c:3214`. -/
def endOfMessageResponse (status : Status) : SessionProc PUnit := do
  Proc.update fun s => { s with state := .replied .endOfMessage }
  replyOnEndOfMessage order (if status = .default then .continue else status)

/-- The responses to the other commands, `milter/client/milter-client-context.c:2926` to
`:3260`. -/
def commandResponse (command : Command) (status : Status) : SessionProc PUnit := do
  Proc.update fun s => { s with state := .replied command }
  let s ← Proc.getState
  reply order none (s.context.response command status)

/-- The handlers of the decoder's signals, `milter/client/milter-client-context.c:3297` to `:3593`,
up to the signal of the command; the option is that of a negotiation. -/
def cbDecoder (command : Command) (option : Option MilterOption) : SessionProc PUnit := do
  Proc.update fun s => { s with state := .received command }
  match command with
  | .negotiate => Proc.update fun s => { s with context := { s.context with option := option } }
  | .endOfMessage => Proc.update fun s => { s with quarantineReason := none }
  | _ => pure ⟨⟩

/-- The response signals. -/
def respond (command : Command) (option : Option MilterOption)
    (macrosRequests : Option MacrosRequests) (status : Status) : SessionProc PUnit :=
  match command with
  | .quit => pure ⟨⟩
  | .negotiate => negotiateResponse order option macrosRequests status
  | .endOfMessage => endOfMessageResponse order status
  | command => commandResponse order command status

end Answer

/-- What happens in a session: a command of the MTA comes in, a response is emitted, then or later,
or a milter calls a function of the context. -/
inductive Event where
  | command (command : Command) (option : Option MilterOption)
  | respond (command : Command) (option : Option MilterOption)
      (macrosRequests : Option MacrosRequests) (status : Status)
  | setReply (code : Nat) (extendedCode message : Option Bytes)
  | addHeader (name value : Option CString)
  | insertHeader (index : UInt32) (name value : Option CString)
  | changeHeader (name : Option CString) (index : UInt32) (value : Option CString)
  | deleteHeader (name : Option CString) (index : UInt32)
  | changeFrom (sender parameters : Option CString)
  | addRecipient (recipient parameters : Option CString)
  | deleteRecipient (recipient : Option CString)
  | replaceBody (body : Bytes)
  | progress
  | quarantine (reason : Option CString)

/-- The modification with one packet that an event calls for. -/
def Event.modification : Event → Option Modification
  | .addHeader name value => some (Session.addHeader name value)
  | .insertHeader index name value => some (Session.insertHeader index name value)
  | .changeHeader name index value => some (Session.changeHeader name index value)
  | .deleteHeader name index => some (Session.deleteHeader name index)
  | .changeFrom sender parameters => some (Session.changeFrom sender parameters)
  | .addRecipient recipient parameters => some (Session.addRecipient recipient parameters)
  | .deleteRecipient recipient => some (Session.deleteRecipient recipient)
  | _ => none

/-- The function behind an event. -/
def perform (order : RequestsOrder) (event : Event) : SessionProc PUnit :=
  match event.modification with
  | some modification => do
      let _ ← modify order modification
      pure ⟨⟩
  | none =>
      match event with
      | .command command option => cbDecoder command option
      | .respond command option macrosRequests status =>
          respond order command option macrosRequests status
      | .setReply code extendedCode message => setReply code extendedCode message
      | .replaceBody body => do
          let _ ← replaceBody body
          pure ⟨⟩
      | .progress => progress order
      | .quarantine reason => quarantine reason
      | _ => pure ⟨⟩

/-- The session without its buffer. -/
def bare (s : Session) : Session :=
  { s with bufferedPackets := [], buffering := false, packetBufferSize := 0 }

section Apply

variable (order : RequestsOrder) (s : Session)

theorem flush_apply_buffering (h : s.buffering = true) :
    flush s = ⟨⟨⟩, { s with buffering := false, bufferedPackets := [] },
      [.packets s.bufferedPackets]⟩ := by
  simp [flush, h]

theorem flush_apply_idle (h : s.buffering = false) : flush s = ⟨⟨⟩, s, []⟩ := by
  simp [flush, h]

@[simp] theorem encode_apply (call : ReplyCall) :
    encode order call s = ⟨packetBytes (call.apply order s.encoder).2,
      { s with encoder := (call.apply order s.encoder).1 }, []⟩ := rfl

@[simp] theorem writePacket_apply (written : Written) :
    writePacket written s = ⟨⟨⟩, (flush s).state, written :: (flush s).trace⟩ := rfl

theorem writePacketOnEndOfMessage_apply (packet : Bytes) :
    writePacketOnEndOfMessage packet s =
      (if (s.bufferedPackets ++ packet).length > s.packetBufferSize then flush else pure ⟨⟩)
        { s with bufferedPackets := s.bufferedPackets ++ packet, buffering := true } := rfl

theorem modify_apply_refused (modification : Modification) {error : ContextError}
    (h : s.refusal modification = some error) :
    modify order modification s = ⟨some error, s, []⟩ := by
  simp [modify, h]

theorem modify_apply_accepted (modification : Modification) (h : s.refusal modification = none) :
    modify order modification s =
      let encoded := modification.call.apply order s.encoder
      ⟨none, (writePacketOnEndOfMessage (packetBytes encoded.2)
          { s with encoder := encoded.1 }).state,
        (writePacketOnEndOfMessage (packetBytes encoded.2)
          { s with encoder := encoded.1 }).trace⟩ := by
  simp [modify, h]

theorem replaceBodyRest_nil : replaceBodyRest [] s = ⟨⟨⟩, s, []⟩ := by
  simp [replaceBodyRest]

theorem replaceBodyRest_apply {rest : Bytes} (h : rest ≠ []) :
    replaceBodyRest rest s =
      (writePacketOnEndOfMessage (packetBytes (ReplyEncoder.encodeReplaceBody s.encoder rest).1.2)
          >>= fun _ =>
        replaceBodyRest (rest.drop (ReplyEncoder.encodeReplaceBody s.encoder rest).2))
        { s with encoder := (ReplyEncoder.encodeReplaceBody s.encoder rest).1.1 } := by
  rw [replaceBodyRest, dif_neg h]
  rfl

theorem bare_flush : (flush s).state.bare = s.bare := by
  cases h : s.buffering with
  | true => rw [flush_apply_buffering s h]; rfl
  | false => rw [flush_apply_idle s h]

theorem bare_writePacketOnEndOfMessage (packet : Bytes) :
    (writePacketOnEndOfMessage packet s).state.bare = s.bare := by
  rw [writePacketOnEndOfMessage_apply]
  split
  · exact bare_flush _
  · rfl

end Apply

/-- The session after an event. -/
def step (order : RequestsOrder) (s : Session) (event : Event) : Session :=
  (perform order event s).state

end Session

end MilterManager.Client
