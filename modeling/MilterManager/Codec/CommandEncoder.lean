import MilterManager.Codec.CommandDecoder
import MilterManager.Codec.Encoder

/-!
# The encoder of commands

`MilterCommandEncoder`, from `milter/core/milter-command-encoder.c`: one function for each command.
The commands and their arguments are those that the decoder signals.
-/

namespace MilterManager.Codec

open MilterManager.Base MilterManager.Core

/-- The keys of a table of macros in the order in which `g_list_sort` leaves them. -/
structure KeyOrder where
  keys : Macros → List CString
  mem_keys : ∀ macros key, key ∈ keys macros ↔ key ∈ macros
  nodup_keys : ∀ macros, (keys macros).Nodup

namespace CommandEncoder

open CommandDecoder (SocketFamily ipv6Prefix)

variable (encoder : Encoder)

/-- `milter_command_encoder_encode_negotiate`, `milter/core/milter-command-encoder.c:73`; the buffer
is not cleared. -/
def encodeNegotiate (option : Option MilterOption) : Encoder × Bytes :=
  (encoder.encodeNegotiate option).pack

/-- The name of a macro as it is sent: braces are put around a long one that begins with none. -/
def bracedName (key : CString) : Bytes :=
  if key.bytes.head? = some 123 ∨ key.bytes.length = 1 then key.bytes
  else 123 :: (key.bytes ++ [125])

/-- One round of the loop of `encode_macros`, `milter/core/milter-command-encoder.c:99`. -/
def encodeMacro (macros : Macros) (key : CString) : Bytes :=
  if key.bytes = [] then []
  else
    let value :=
      match macros.lookup key with
      | some (some value) => value.bytes
      | some none | none => []
    bracedName key ++ 0 :: (value ++ [0])

/-- `encode_macros`, `milter/core/milter-command-encoder.c:99`. -/
def encodeMacros (order : KeyOrder) (macros : Macros) : Bytes :=
  (order.keys macros).flatMap (encodeMacro macros)

/-- `milter_command_encoder_encode_define_macro`, `milter/core/milter-command-encoder.c:127`. -/
def encodeDefineMacro (order : KeyOrder) (context : MilterCommand) (macros : Option Macros) :
    Encoder × Bytes :=
  encoder.packContent (MilterCommand.defineMacro.toByte :: context.toByte ::
    match macros with
    | some macros => encodeMacros order macros
    | none => [])

section Connect

variable (addressText : AddressText)

/-- The bytes of `sin_port`. -/
def portBytes (port : UInt16) : Bytes :=
  [UInt8.ofNat (port.toNat / 0x100), UInt8.ofNat port.toNat]

/-- `encode_connect_inet`, `milter/core/milter-command-encoder.c:149`. -/
def encodeConnectInet (address : BitVec 32) (port : UInt16) : Bytes :=
  SocketFamily.inet.toByte :: (portBytes port ++ (addressText.ntop address).bytes)

/-- `encode_connect_inet6`, `milter/core/milter-command-encoder.c:163`. -/
def encodeConnectInet6 (address : BitVec 128) (port : UInt16) : Bytes :=
  SocketFamily.inet6.toByte ::
    (portBytes port ++ (ipv6Prefix ++ (addressText.ntop6 address).bytes))

/-- `encode_connect_unix`, `milter/core/milter-command-encoder.c:178`. -/
def encodeConnectUnix (path : CString) : Bytes :=
  SocketFamily.unix.toByte :: ([0, 0] ++ path.bytes)

/-- `encode_connect_unknown`, `milter/core/milter-command-encoder.c:190`. -/
def encodeConnectUnknown : Bytes := [SocketFamily.unknown.toByte]

/-- The address of a connect command, with its NUL. -/
def encodeAddress : SocketAddress → Bytes
  | .inet address port => encodeConnectInet addressText address port ++ [0]
  | .inet6 address port => encodeConnectInet6 addressText address port ++ [0]
  | .unix path => encodeConnectUnix path ++ [0]
  | .unknown => encodeConnectUnknown

/-- `milter_command_encoder_encode_connect`, `milter/core/milter-command-encoder.c:196`. -/
def encodeConnect (hostName : CString) (address : SocketAddress) : Encoder × Bytes :=
  encoder.packContent (MilterCommand.connect.toByte ::
    (hostName.bytes ++ 0 :: encodeAddress addressText address))

end Connect

/-- A packet with one text. -/
def encodeText (command : MilterCommand) (text : CString) : Encoder × Bytes :=
  encoder.packContent (command.toByte :: (text.bytes ++ [0]))

/-- A packet without arguments. -/
def encodeSimple (command : MilterCommand) : Encoder × Bytes :=
  encoder.packContent [command.toByte]

/-- `milter_command_encoder_encode_helo`, `milter/core/milter-command-encoder.c:236`. -/
def encodeHelo (fqdn : CString) : Encoder × Bytes := encodeText encoder .helo fqdn

/-- `milter_command_encoder_encode_envelope_from`,
`milter/core/milter-command-encoder.c:255`. -/
def encodeEnvelopeFrom (sender : CString) : Encoder × Bytes :=
  encodeText encoder .envelopeFrom sender

/-- `milter_command_encoder_encode_envelope_recipient`,
`milter/core/milter-command-encoder.c:274`. -/
def encodeEnvelopeRecipient (recipient : CString) : Encoder × Bytes :=
  encodeText encoder .envelopeRecipient recipient

/-- `milter_command_encoder_encode_data`, `milter/core/milter-command-encoder.c:293`. -/
def encodeData : Encoder × Bytes := encodeSimple encoder .data

/-- `milter_command_encoder_encode_header`, `milter/core/milter-command-encoder.c:309`. -/
def encodeHeader (name value : CString) : Encoder × Bytes :=
  encoder.packContent (MilterCommand.header.toByte ::
    (name.bytes ++ 0 :: (value.bytes ++ [0])))

/-- `milter_command_encoder_encode_end_of_header`,
`milter/core/milter-command-encoder.c:330`. -/
def encodeEndOfHeader : Encoder × Bytes := encodeSimple encoder .endOfHeader

/-- `milter_command_encoder_encode_body`, `milter/core/milter-command-encoder.c:346`; the size is
the one that was packed. -/
def encodeBody (chunk : Bytes) : (Encoder × Bytes) × Nat :=
  let packedChunkSize := if chunk.length > chunkSize then chunkSize else chunk.length
  (encoder.packContent (MilterCommand.body.toByte :: chunk.take packedChunkSize), packedChunkSize)

/-- `milter_command_encoder_encode_end_of_message`,
`milter/core/milter-command-encoder.c:373`. -/
def encodeEndOfMessage (chunk : Option Bytes) : Encoder × Bytes :=
  encoder.packContent (MilterCommand.endOfMessage.toByte ::
    match chunk with
    | some chunk => if chunk.length > 0 then chunk else []
    | none => [])

/-- `milter_command_encoder_encode_abort`, `milter/core/milter-command-encoder.c:392`. -/
def encodeAbort : Encoder × Bytes := encodeSimple encoder .abort

/-- `milter_command_encoder_encode_quit`, `milter/core/milter-command-encoder.c:408`. -/
def encodeQuit : Encoder × Bytes := encodeSimple encoder .quit

/-- `milter_command_encoder_encode_unknown`, `milter/core/milter-command-encoder.c:424`. -/
def encodeUnknown (command : CString) : Encoder × Bytes := encodeText encoder .unknown command

/-- The packet of a command; the size of a chunk is the one it has. -/
def encode (order : KeyOrder) (addressText : AddressText) : CommandSignal → Encoder × Bytes
  | .negotiate option => encodeNegotiate encoder (some option)
  | .defineMacro context macros => encodeDefineMacro encoder order context (some macros)
  | .connect hostName address => encodeConnect encoder addressText hostName address
  | .helo fqdn => encodeHelo encoder fqdn
  | .envelopeFrom sender => encodeEnvelopeFrom encoder sender
  | .envelopeRecipient recipient => encodeEnvelopeRecipient encoder recipient
  | .data => encodeData encoder
  | .header name value => encodeHeader encoder name value
  | .endOfHeader => encodeEndOfHeader encoder
  | .body chunk _ => (encodeBody encoder chunk).1
  | .endOfMessage chunk _ => encodeEndOfMessage encoder chunk
  | .abort => encodeAbort encoder
  | .quit => encodeQuit encoder
  | .unknown command => encodeUnknown encoder command

end CommandEncoder

end MilterManager.Codec
