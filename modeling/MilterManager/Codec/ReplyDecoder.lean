import MilterManager.Codec.Decoder
import MilterManager.Codec.Packet

/-!
# The decoder of replies

`MilterReplyDecoder`, from `milter/core/milter-reply-decoder.c`: one handler for each reply and the
dispatch on the first byte of the buffer.
-/

namespace MilterManager.Codec

open MilterManager.Base MilterManager.Core

/-- The symbols table of a `MilterMacrosRequests`. -/
abbrev MacrosRequests := Finmap fun _ : MilterCommand => List CString

/-- `milter_utils_macro_stage_to_command`, `milter/core/milter-utils.c:302`. -/
def macroStageToCommand : Nat → Option MilterCommand
  | 0 => some .connect
  | 1 => some .helo
  | 2 => some .envelopeFrom
  | 3 => some .envelopeRecipient
  | 4 => some .data
  | 5 => some .endOfMessage
  | 6 => some .endOfHeader
  | _ => none

/-- The signals of `MilterReplyDecoder`. -/
inductive ReplySignal where
  | negotiateReply (option : MilterOption) (macrosRequests : Option MacrosRequests)
  | continue
  | replyCode (code : Nat) (extendedCode : CString) (message : Option CString)
  | temporaryFailure
  | reject
  | accept
  | discard
  | addHeader (name value : CString)
  | insertHeader (index : UInt32) (name : CString) (value : Option CString)
  | changeHeader (name : CString) (index : UInt32) (value : CString)
  | deleteHeader (name : CString) (index : UInt32)
  | changeFrom (sender : CString) (parameters : Option CString)
  | addRecipient (recipient : CString) (parameters : Option CString)
  | deleteRecipient (recipient : CString)
  | replaceBody (chunk : Bytes) (size : Int)
  | progress
  | quarantine (reason : CString)
  | connectionFailure
  | shutdown
  | skip
deriving DecidableEq

namespace ReplyDecoder

/-- `decode_reply_continue`, `milter/core/milter-reply-decoder.c:126`. -/
def decodeReplyContinue : Handler ReplySignal := decodeSimple .continue "CONTINUE reply"

/-- `decode_reply_temporary_failure`, `milter/core/milter-reply-decoder.c:241`. -/
def decodeReplyTemporaryFailure : Handler ReplySignal :=
  decodeSimple .temporaryFailure "TEMPORARY FAILURE reply"

/-- `decode_reply_reject`, `milter/core/milter-reply-decoder.c:264`. -/
def decodeReplyReject : Handler ReplySignal := decodeSimple .reject "REJECT reply"

/-- `decode_reply_accept`, `milter/core/milter-reply-decoder.c:287`. -/
def decodeReplyAccept : Handler ReplySignal := decodeSimple .accept "ACCEPT reply"

/-- `decode_reply_discard`, `milter/core/milter-reply-decoder.c:310`. -/
def decodeReplyDiscard : Handler ReplySignal := decodeSimple .discard "DISCARD reply"

/-- `decode_reply_progress`, `milter/core/milter-reply-decoder.c:640`. -/
def decodeReplyProgress : Handler ReplySignal := decodeSimple .progress "PROGRESS reply"

/-- `decode_reply_connection_failure`, `milter/core/milter-reply-decoder.c:689`. -/
def decodeReplyConnectionFailure : Handler ReplySignal :=
  decodeSimple .connectionFailure "CONNECTION FAILURE reply"

/-- `decode_reply_shutdown`, `milter/core/milter-reply-decoder.c:712`. -/
def decodeReplyShutdown : Handler ReplySignal := decodeSimple .shutdown "SHUTDOWN reply"

/-- `decode_reply_skip`, `milter/core/milter-reply-decoder.c:735`. -/
def decodeReplySkip : Handler ReplySignal := decodeSimple .skip "SKIP reply"

/-- `decode_reply_delete_recipient`, `milter/core/milter-reply-decoder.c:595`. -/
def decodeReplyDeleteRecipient : Handler ReplySignal :=
  decodeText .deleteRecipient "Recipient isn't terminated by NULL on DELETE RECIPIENT reply"

/-- `decode_reply_quarantine`, `milter/core/milter-reply-decoder.c:663`. -/
def decodeReplyQuarantine : Handler ReplySignal :=
  decodeText .quarantine "Reason isn't terminated by NULL on QUARANTINE reply"

/-- `find_space_character`, `milter/core/milter-reply-decoder.c:149`. -/
def findSpaceCharacter (buffer : Memory) (length : Int) : Option Nat :=
  (buffer.take length.toNat).findIdx? (· == 32)

/-- `g_ascii_isdigit`. -/
def isDigit (byte : UInt8) : Bool :=
  48 ≤ byte && byte ≤ 57

/-- Whether bytes begin with a reply code `4XX` or `5XX`. -/
def isReplyCode : Bytes → Bool
  | a :: b :: c :: _ => (a == 52 || a == 53) && isDigit b && isDigit c
  | _ => false

/-- `atoi` of the three digits. -/
def replyCodeOf (digits : Bytes) : Nat :=
  digits.foldl (fun n digit => n * 10 + (digit.toNat - 48)) 0

/-- `decode_reply_reply_code`, `milter/core/milter-reply-decoder.c:162`. -/
def decodeReplyReplyCode : Handler ReplySignal := fun buffer commandLength => do
  let buffer := buffer.advance 1
  let commandLength := commandLength - 1
  checkCommandLength buffer commandLength 3 .atLeast "Reply code doesn't have SMTP reply code"
  let digits := buffer.take 3
  if ¬ isReplyCode digits then
    throw (.error ⟨.longCommandLength, "SMTP reply code should be 4XX or 5XX.",
      [(buffer.stringWithin 3).bytes]⟩)
  let _ ← decodeNonEmptyValue buffer commandLength
    "Reply code isn't terminated by NULL on REPLY CODE reply" []
  let skipped := if buffer.get 3 = 32 then 4 else 3
  let buffer := buffer.advance skipped
  let commandLength := commandLength - (skipped : Nat)
  match findSpaceCharacter buffer commandLength with
  | none => emit (.replyCode (replyCodeOf digits) buffer.string none)
  | some spaceCharacterPoint =>
      emit (.replyCode (replyCodeOf digits) (buffer.stringWithin spaceCharacterPoint)
        (some (buffer.advance (spaceCharacterPoint + 1)).string))

/-- `decode_reply_add_header`, `milter/core/milter-reply-decoder.c:333`. -/
def decodeReplyAddHeader : Handler ReplySignal := decodeNameAndValue .addHeader

/-- `decode_header_content_with_index`, `milter/core/milter-reply-decoder.c:359`; an empty value is
`NULL`. -/
def decodeHeaderContentWithIndex (buffer : Memory) (length : Int) :
    Except Failure (UInt32 × CString × Option CString) := do
  if length < 4 then throw .silent
  let index := UInt32.ofNat (ofBigEndian (buffer.take 4))
  let buffer := buffer.advance 4
  let length := length - 4
  let nullCharacterPoint ← decodeNonEmptyValue buffer length
    "name isn't terminated by NULL on header:" []
  let name := buffer.string
  let buffer := buffer.advance (nullCharacterPoint + 1)
  let length := length - (nullCharacterPoint + 1)
  let nullCharacterPoint ← decodeNullTerminatedValue buffer length
    "value isn't terminated by NULL on header" [name.bytes]
  if nullCharacterPoint = 0 then return (index, name, none)
  return (index, name, some buffer.string)

/-- `decode_reply_insert_header`, `milter/core/milter-reply-decoder.c:410`: the length given for the
fields is two bytes more than the frame has. -/
def decodeReplyInsertHeader : Handler ReplySignal := fun buffer commandLength => do
  let (index, name, value) ←
    decodeHeaderContentWithIndex (buffer.advance 1) (commandLength + 1)
  emit (.insertHeader index name value)

/-- `decode_reply_change_header`, `milter/core/milter-reply-decoder.c:436`; the length is the one
of `decodeReplyInsertHeader`. -/
def decodeReplyChangeHeader : Handler ReplySignal := fun buffer commandLength => do
  let (index, name, value) ←
    decodeHeaderContentWithIndex (buffer.advance 1) (commandLength + 1)
  match value with
  | some value => emit (.changeHeader name index value)
  | none => emit (.deleteHeader name index)

/-- `decode_two_string`, `milter/core/milter-reply-decoder.c:468`. -/
def decodeTwoString (buffer : Memory) (length : Int) (firstMessage secondMessage : String) :
    Except Failure (CString × Option CString) := do
  let nullCharacterPoint ← decodeNonEmptyValue buffer length firstMessage []
  let first := buffer.string
  let buffer := buffer.advance (nullCharacterPoint + 1)
  let length := length - (nullCharacterPoint + 1)
  if length ≤ 0 then return (first, none)
  let _ ← decodeNonEmptyValue buffer length secondMessage [first.bytes]
  return (first, some buffer.string)

/-- `decode_reply_change_from`, `milter/core/milter-reply-decoder.c:513`. -/
def decodeReplyChangeFrom : Handler ReplySignal := fun buffer commandLength => do
  let (sender, parameters) ← decodeTwoString (buffer.advance 1) (commandLength - 1)
    "From isn't terminated by NULL on CHANGE FROM reply"
    "Parameter isn't terminated by NULL on CHANGE FROM reply"
  emit (.changeFrom sender parameters)

/-- `decode_reply_add_recipient`, `milter/core/milter-reply-decoder.c:543`: a missing NUL sets the
error, but does not stop the handler. -/
def decodeReplyAddRecipient : Handler ReplySignal := fun buffer commandLength =>
  let recipient := (buffer.advance 1).string
  match decodeNullTerminatedValue (buffer.advance 1) (commandLength - 1)
      "Recipient isn't terminated by NULL on ADD RECIPIENT reply" [] with
  | .error (.error error) => .ok ⟨.addRecipient recipient none, some error⟩
  | _ => .ok ⟨.addRecipient recipient none, none⟩

/-- `decode_reply_add_recipient_with_parameters`, `milter/core/milter-reply-decoder.c:565`. -/
def decodeReplyAddRecipientWithParameters : Handler ReplySignal := fun buffer commandLength => do
  let (recipient, parameters) ← decodeTwoString (buffer.advance 1) (commandLength - 1)
    "Recipient isn't terminated by NULL on ADD RECIPIENT WITH PARAMETERS reply"
    "Parameter isn't terminated by NULL on ADD RECIPIENT WITH PARAMETERS reply"
  emit (.addRecipient recipient parameters)

/-- `decode_reply_replace_body`, `milter/core/milter-reply-decoder.c:621`. -/
def decodeReplyReplaceBody : Handler ReplySignal := decodeChunk .replaceBody

/-- `g_strsplit (symbols, " ", -1)` of a string that is not empty. -/
def splitSymbols (symbols : CString) : List CString :=
  (symbols.bytes.splitOn 32).map .ofBytes

/-- The loop of `decode_macros_requests`, `milter/core/milter-reply-decoder.c:758`. -/
def decodeMacrosRequestsFrom :
    Nat → Memory → Int → MacrosRequests → Except Failure MacrosRequests
  | 0, _, _, requests => .ok requests
  | fuel + 1, buffer, length, requests =>
      if length ≤ 0 then .ok requests
      else do
        checkCommandLength buffer length 4 .atLeast
          "Stage index doesn't exist in NEGOTIATE reply"
        let stage := ofBigEndian (buffer.take 4)
        let encodedStage := buffer.take 4
        let buffer := buffer.advance 4
        let length := length - 4
        let nullCharacterPoint ← decodeNonEmptyValue buffer length
          "Symbol list isn't terminated by NULL on NEGOTIATE reply" []
        match macroStageToCommand stage with
        | none =>
            throw (.error ⟨.unexpectedMacroStage, "unexpected macro stage was received",
              [encodedStage]⟩)
        | some command =>
            decodeMacrosRequestsFrom fuel (buffer.advance (nullCharacterPoint + 1))
              (length - (nullCharacterPoint + 1))
              (requests.insert command (splitSymbols buffer.string))

/-- `decode_macros_requests`, `milter/core/milter-reply-decoder.c:758`. -/
def decodeMacrosRequests (buffer : Memory) (length : Int) :
    Except Failure (Option MacrosRequests) := do
  if length = 0 then return none
  let requests ← decodeMacrosRequestsFrom length.toNat buffer length ∅
  return some requests

/-- `decode_reply_negotiate`, `milter/core/milter-reply-decoder.c:823`. -/
def decodeReplyNegotiate : Handler ReplySignal := fun buffer commandLength => do
  let option ← decodeNegotiate buffer commandLength
  checkCommandLength (buffer.advance negotiateLength) (commandLength - negotiateLength) 0
    .atLeast "option negotiation command"
  let macrosRequests ← decodeMacrosRequests (buffer.advance negotiateLength)
    (commandLength - negotiateLength)
  emit (.negotiateReply option macrosRequests)

/-- The handlers of replies measure nothing. -/
def scan : Scan := fun _ => none

/-- The handler of a reply. -/
def handlerOf : MilterReply → Option (Handler ReplySignal)
  | .continue => some decodeReplyContinue
  | .replyCode => some decodeReplyReplyCode
  | .temporaryFailure => some decodeReplyTemporaryFailure
  | .reject => some decodeReplyReject
  | .accept => some decodeReplyAccept
  | .discard => some decodeReplyDiscard
  | .addHeader => some decodeReplyAddHeader
  | .insertHeader => some decodeReplyInsertHeader
  | .changeHeader => some decodeReplyChangeHeader
  | .changeFrom => some decodeReplyChangeFrom
  | .addRecipient => some decodeReplyAddRecipient
  | .addRecipientWithParameters => some decodeReplyAddRecipientWithParameters
  | .deleteRecipient => some decodeReplyDeleteRecipient
  | .replaceBody => some decodeReplyReplaceBody
  | .progress => some decodeReplyProgress
  | .quarantine => some decodeReplyQuarantine
  | .connectionFailure => some decodeReplyConnectionFailure
  | .shutdown => some decodeReplyShutdown
  | .skip => some decodeReplySkip
  | .setSymbolList => none

/-- `decode`, `milter/core/milter-reply-decoder.c:871`. -/
def decode : Handler ReplySignal := fun buffer commandLength =>
  if buffer.get 0 = MilterCommand.negotiate.toByte then decodeReplyNegotiate buffer commandLength
  else
    match (MilterReply.ofByte (buffer.get 0)).bind handlerOf with
    | some handler => handler buffer commandLength
    | none =>
        .error (.error ⟨.unexpectedCommand, "unexpected reply was received", [[buffer.get 0]]⟩)

end ReplyDecoder

end MilterManager.Codec
