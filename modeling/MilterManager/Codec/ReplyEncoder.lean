import MilterManager.Codec.Encoder
import MilterManager.Codec.ReplyDecoder

/-!
# The encoder of replies

`MilterReplyEncoder`, from `milter/core/milter-reply-encoder.c`: one function for each reply. Some
of them leave `NULL` instead of a packet.
-/

namespace MilterManager.Codec

open MilterManager.Base MilterManager.Core

/-- `milter_utils_command_to_macro_stage`, `milter/core/milter-utils.c:267`. -/
def commandToMacroStage : MilterCommand → Option Nat
  | .connect => some 0
  | .helo => some 1
  | .envelopeFrom => some 2
  | .envelopeRecipient => some 3
  | .data => some 4
  | .endOfMessage => some 5
  | .endOfHeader => some 6
  | _ => none

/-- The keys of a table of macros requests in the order in which `g_hash_table_foreach` visits
them. -/
structure RequestsOrder where
  commands : MacrosRequests → List MilterCommand
  mem_commands : ∀ requests command, command ∈ commands requests ↔ command ∈ requests

/-- What an encoding leaves in `packet`. -/
inductive EncodedPacket where
  | packet (bytes : Bytes)
  | null
  | crash
deriving DecidableEq, Repr

/-- The replies that can be encoded, with the arguments of their functions. -/
inductive Reply where
  | negotiate (option : MilterOption) (macrosRequests : Option MacrosRequests)
  | continue
  | replyCode (code : CString)
  | temporaryFailure
  | reject
  | accept
  | discard
  | addHeader (name value : CString)
  | insertHeader (index : UInt32) (name : CString) (value : Option CString)
  | changeHeader (name : CString) (index : UInt32) (value : CString)
  | deleteHeader (name : CString) (index : UInt32)
  | changeFrom (sender : CString) (parameters : Option CString)
  | addRecipient (recipient : CString) (parameters : Option CString)
  | deleteRecipient (recipient : CString)
  | replaceBody (body : Bytes)
  | progress
  | quarantine (reason : CString)
  | connectionFailure
  | shutdown
  | skip
deriving DecidableEq

/-- `milter_encoder_pack` behind a content that is filled anew. -/
def Encoder.packReply (encoder : Encoder) (content : Bytes) : Encoder × EncodedPacket :=
  let (encoder, bytes) := encoder.packContent content
  (encoder, .packet bytes)

namespace ReplyEncoder

variable (encoder : Encoder)

/-- `encode_macros_request`, `milter/core/milter-reply-encoder.c:72`; `none` where the symbols of an
empty list are read. -/
def encodeMacrosRequest (command : MilterCommand) (symbols : List CString) : Option Bytes :=
  match commandToMacroStage command with
  | none => some []
  | some stage =>
      match symbols with
      | [] => none
      | symbol :: symbols =>
          some (bigEndian stage ++ (symbol.bytes ++
            symbols.flatMap fun symbol => 32 :: symbol.bytes) ++ [0])

/-- A visit of `g_hash_table_foreach` in `encode_macros_requests`. -/
def appendMacrosRequest (requests : MacrosRequests) (encoded : Bytes) (command : MilterCommand) :
    Option Bytes :=
  match requests.lookup command with
  | none => some encoded
  | some symbols => (encodeMacrosRequest command symbols).map (encoded ++ ·)

/-- `encode_macros_requests`, `milter/core/milter-reply-encoder.c:103`. -/
def encodeMacrosRequests (order : RequestsOrder) (requests : MacrosRequests) : Option Bytes :=
  (order.commands requests).foldlM (appendMacrosRequest requests) []

/-- `milter_reply_encoder_encode_negotiate`, `milter/core/milter-reply-encoder.c:109`; the buffer is
not cleared. -/
def encodeNegotiate (order : RequestsOrder) (option : Option MilterOption)
    (macrosRequests : Option MacrosRequests) : Encoder × EncodedPacket :=
  let encoder := encoder.encodeNegotiate option
  match macrosRequests.elim (some []) (encodeMacrosRequests order) with
  | none => (encoder, .crash)
  | some requests =>
      let (encoder, bytes) := (encoder.append requests).pack
      (encoder, .packet bytes)

/-- A packet without arguments. -/
def encodeSimple (reply : MilterReply) : Encoder × EncodedPacket :=
  encoder.packReply [reply.toByte]

/-- `milter_reply_encoder_encode_continue`, `milter/core/milter-reply-encoder.c:128`. -/
def encodeContinue : Encoder × EncodedPacket := encodeSimple encoder .continue

/-- `milter_reply_encoder_encode_reply_code`, `milter/core/milter-reply-encoder.c:145`. -/
def encodeReplyCode (code : Option CString) : Encoder × EncodedPacket :=
  match code with
  | none => (encoder, .null)
  | some code => encoder.packReply (MilterReply.replyCode.toByte :: (code.bytes ++ [0]))

/-- `milter_reply_encoder_encode_temporary_failure`,
`milter/core/milter-reply-encoder.c:171`. -/
def encodeTemporaryFailure : Encoder × EncodedPacket := encodeSimple encoder .temporaryFailure

/-- `milter_reply_encoder_encode_reject`, `milter/core/milter-reply-encoder.c:188`. -/
def encodeReject : Encoder × EncodedPacket := encodeSimple encoder .reject

/-- `milter_reply_encoder_encode_accept`, `milter/core/milter-reply-encoder.c:205`. -/
def encodeAccept : Encoder × EncodedPacket := encodeSimple encoder .accept

/-- `milter_reply_encoder_encode_discard`, `milter/core/milter-reply-encoder.c:222`. -/
def encodeDiscard : Encoder × EncodedPacket := encodeSimple encoder .discard

/-- `encode_reply_header`, `milter/core/milter-reply-encoder.c:239`. -/
def encodeReplyHeader (reply : MilterReply) (name : CString) (value : Option CString)
    (index : UInt32) : Encoder × EncodedPacket :=
  if name.bytes = [] then (encoder, .null)
  else
    let encodedIndex := if reply ≠ .addHeader then bigEndian index.toNat else []
    let encodedValue := value.elim [] CString.bytes
    encoder.packReply (reply.toByte ::
      (encodedIndex ++ (name.bytes ++ 0 :: (encodedValue ++ [0]))))

/-- `milter_reply_encoder_encode_add_header`, `milter/core/milter-reply-encoder.c:276`. -/
def encodeAddHeader (name : CString) (value : Option CString) : Encoder × EncodedPacket :=
  encodeReplyHeader encoder .addHeader name value 0

/-- `milter_reply_encoder_encode_insert_header`, `milter/core/milter-reply-encoder.c:289`. -/
def encodeInsertHeader (index : UInt32) (name : CString) (value : Option CString) :
    Encoder × EncodedPacket :=
  encodeReplyHeader encoder .insertHeader name value index

/-- `milter_reply_encoder_encode_change_header`, `milter/core/milter-reply-encoder.c:303`. -/
def encodeChangeHeader (name : CString) (index : UInt32) (value : Option CString) :
    Encoder × EncodedPacket :=
  encodeReplyHeader encoder .changeHeader name value index

/-- `milter_reply_encoder_encode_delete_header`, `milter/core/milter-reply-encoder.c:317`. -/
def encodeDeleteHeader (name : CString) (index : UInt32) : Encoder × EncodedPacket :=
  encodeReplyHeader encoder .changeHeader name none index

/-- `milter_reply_encoder_encode_change_from`, `milter/core/milter-reply-encoder.c:330`; parameters
that are empty, but not `NULL`, are encoded. -/
def encodeChangeFrom (sender : CString) (parameters : Option CString) : Encoder × EncodedPacket :=
  if sender.bytes = [] then (encoder, .null)
  else
    let encodedParameters := parameters.elim [] fun parameters => parameters.bytes ++ [0]
    encoder.packReply (MilterReply.changeFrom.toByte ::
      (sender.bytes ++ 0 :: encodedParameters))

/-- `milter_reply_encoder_encode_add_recipient`, `milter/core/milter-reply-encoder.c:360`. -/
def encodeAddRecipient (recipient : CString) (parameters : Option CString) :
    Encoder × EncodedPacket :=
  if recipient.bytes = [] then (encoder, .null)
  else
    let encodedParameters := parameters.elim [] CString.bytes
    if encodedParameters ≠ [] then
      encoder.packReply (MilterReply.addRecipientWithParameters.toByte ::
        (recipient.bytes ++ 0 :: (encodedParameters ++ [0])))
    else
      encoder.packReply (MilterReply.addRecipient.toByte :: (recipient.bytes ++ [0]))

/-- A packet with one text, none when the text is empty. -/
def encodeText (reply : MilterReply) (text : CString) : Encoder × EncodedPacket :=
  if text.bytes = [] then (encoder, .null)
  else encoder.packReply (reply.toByte :: (text.bytes ++ [0]))

/-- `milter_reply_encoder_encode_delete_recipient`, `milter/core/milter-reply-encoder.c:397`. -/
def encodeDeleteRecipient (recipient : CString) : Encoder × EncodedPacket :=
  encodeText encoder .deleteRecipient recipient

/-- `milter_reply_encoder_encode_replace_body`, `milter/core/milter-reply-encoder.c:422`; the size
is the one that was packed. -/
def encodeReplaceBody (body : Bytes) : (Encoder × EncodedPacket) × Nat :=
  if body.length = 0 then ((encoder, .null), 0)
  else
    let packedSize := if body.length > chunkSize then chunkSize else body.length
    (encoder.packReply (MilterReply.replaceBody.toByte :: body.take packedSize), packedSize)

/-- `milter_reply_encoder_encode_progress`, `milter/core/milter-reply-encoder.c:452`. -/
def encodeProgress : Encoder × EncodedPacket := encodeSimple encoder .progress

/-- `milter_reply_encoder_encode_quarantine`, `milter/core/milter-reply-encoder.c:468`. -/
def encodeQuarantine (reason : CString) : Encoder × EncodedPacket :=
  encodeText encoder .quarantine reason

/-- `milter_reply_encoder_encode_connection_failure`,
`milter/core/milter-reply-encoder.c:493`. -/
def encodeConnectionFailure : Encoder × EncodedPacket := encodeSimple encoder .connectionFailure

/-- `milter_reply_encoder_encode_shutdown`, `milter/core/milter-reply-encoder.c:510`. -/
def encodeShutdown : Encoder × EncodedPacket := encodeSimple encoder .shutdown

/-- `milter_reply_encoder_encode_skip`, `milter/core/milter-reply-encoder.c:526`. -/
def encodeSkip : Encoder × EncodedPacket := encodeSimple encoder .skip

/-- The packet of a reply. -/
def encode (order : RequestsOrder) : Reply → Encoder × EncodedPacket
  | .negotiate option macrosRequests => encodeNegotiate encoder order (some option) macrosRequests
  | .continue => encodeContinue encoder
  | .replyCode code => encodeReplyCode encoder (some code)
  | .temporaryFailure => encodeTemporaryFailure encoder
  | .reject => encodeReject encoder
  | .accept => encodeAccept encoder
  | .discard => encodeDiscard encoder
  | .addHeader name value => encodeAddHeader encoder name (some value)
  | .insertHeader index name value => encodeInsertHeader encoder index name value
  | .changeHeader name index value => encodeChangeHeader encoder name index (some value)
  | .deleteHeader name index => encodeDeleteHeader encoder name index
  | .changeFrom sender parameters => encodeChangeFrom encoder sender parameters
  | .addRecipient recipient parameters => encodeAddRecipient encoder recipient parameters
  | .deleteRecipient recipient => encodeDeleteRecipient encoder recipient
  | .replaceBody body => (encodeReplaceBody encoder body).1
  | .progress => encodeProgress encoder
  | .quarantine reason => encodeQuarantine encoder reason
  | .connectionFailure => encodeConnectionFailure encoder
  | .shutdown => encodeShutdown encoder
  | .skip => encodeSkip encoder

end ReplyEncoder

end MilterManager.Codec
