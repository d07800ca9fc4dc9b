import MilterManager.Codec.Decoder
import MilterManager.Codec.Packet

/-!
# The decoder of commands

`MilterCommandDecoder`, from `milter/core/milter-command-decoder.c`: one handler for each command
and the dispatch on the first byte of the buffer.
-/

namespace MilterManager.Codec

open MilterManager.Base MilterManager.Core

/-- The signals of `MilterCommandDecoder`; a chunk is a copy up to its first NUL. -/
inductive CommandSignal where
  | negotiate (option : MilterOption)
  | defineMacro (context : MilterCommand) (macros : Macros)
  | connect (hostName : CString) (address : SocketAddress)
  | helo (fqdn : CString)
  | envelopeFrom (sender : CString)
  | envelopeRecipient (recipient : CString)
  | data
  | header (name value : CString)
  | endOfHeader
  | body (chunk : Bytes) (size : Int)
  | endOfMessage (chunk : Option Bytes) (size : Int)
  | abort
  | quit
  | unknown (command : CString)
deriving DecidableEq

namespace CommandDecoder

/-- The commands for which `check_macro_context` is `TRUE`,
`milter/core/milter-command-decoder.c:281`. -/
def isMacroContext : MilterCommand → Bool
  | .connect | .helo | .envelopeFrom | .envelopeRecipient | .data | .header | .endOfHeader
  | .body | .endOfMessage | .unknown => true
  | .abort | .defineMacro | .quitNewConnection | .negotiate | .quit => false

/-- `check_macro_context`, `milter/core/milter-command-decoder.c:281`. -/
def checkMacroContext (macroContext : UInt8) : Except Failure MilterCommand :=
  match MilterCommand.ofByte macroContext with
  | some command =>
      if isMacroContext command then .ok command
      else .error (.error ⟨.unknownMacroContext, "unknown macro context", [[macroContext]]⟩)
  | none => .error (.error ⟨.unknownMacroContext, "unknown macro context", [[macroContext]]⟩)

/-- The name of a macro without the braces around it. -/
def normalizeMacroName (key : CString) : CString :=
  if key.bytes.head? = some 123 ∧ key.bytes.getLast? = some 125 then
    .ofBytes key.bytes.tail.dropLast
  else key

/-- The loop of `decode_define_macros`, `milter/core/milter-command-decoder.c:310`. -/
def decodeDefineMacrosFrom : Nat → Memory → Int → Macros → Except Failure Macros
  | 0, _, _, macros => .ok macros
  | fuel + 1, buffer, length, macros =>
      if length ≤ 0 then .ok macros
      else do
        let nullCharacterPoint ← decodeNonEmptyValue buffer length
          "name isn't terminated by NULL on define macro command" []
        let key := buffer.string
        let buffer := buffer.advance (nullCharacterPoint + 1)
        let length := length - (nullCharacterPoint + 1)
        let nullCharacterPoint ← decodeNullTerminatedValue buffer length
          "value isn't terminated by NULL on define macro command" []
        let value := buffer.string
        decodeDefineMacrosFrom fuel (buffer.advance (nullCharacterPoint + 1))
          (length - (nullCharacterPoint + 1)) (macros.insert (normalizeMacroName key) (some value))

/-- `decode_define_macros`, `milter/core/milter-command-decoder.c:310`. -/
def decodeDefineMacros (buffer : Memory) (length : Int) : Except Failure Macros :=
  decodeDefineMacrosFrom length.toNat buffer length ∅

/-- `decode_define_macro`, `milter/core/milter-command-decoder.c:369`: the length that is checked
is the one of the C string in the buffer. -/
def decodeDefineMacro : Handler CommandSignal := fun buffer commandLength => do
  checkCommandLength (buffer.advance 1) ((buffer.string.length : Int) - 1) 1 .atLeast
    "macro context on define macro command"
  let context ← checkMacroContext (buffer.get 1)
  let macros ← decodeDefineMacros (buffer.advance 2) (commandLength - 2)
  emit (.defineMacro context macros)

/-- The C string that `decode_define_macro` measures; it can go on behind the frame. -/
def scan : Scan := fun buffer =>
  if MilterCommand.ofByte (buffer.get 0) = some .defineMacro then some buffer.string else none

section Connect

variable (addressText : AddressText)

/-- `g_ntohs`. -/
def portNumber (port : Bytes) : UInt16 := UInt16.ofNat (ofBigEndian port)

/-- `decode_connect_inet_address`, `milter/core/milter-command-decoder.c:409`. -/
def decodeConnectInetAddress (text : CString) (port : Bytes) (quoted : List Bytes) :
    Except Failure SocketAddress :=
  match addressText.pton text with
  | some address => .ok (.inet address (portNumber port))
  | none =>
      .error (.error ⟨.invalidFormat, "invalid IPv4 address on connect command",
        quoted ++ [port, text.bytes]⟩)

/-- `"IPv6:"`. -/
def ipv6Prefix : Bytes := [73, 80, 118, 54, 58]

/-- The text of an IPv6 address without the prefix it can have. -/
def withoutIpv6Prefix (text : CString) : CString :=
  if ipv6Prefix.isPrefixOf text.bytes then .ofBytes (text.bytes.drop ipv6Prefix.length) else text

/-- `decode_connect_inet6_address`, `milter/core/milter-command-decoder.c:441`. -/
def decodeConnectInet6Address (text : CString) (port : Bytes) (quoted : List Bytes) :
    Except Failure SocketAddress :=
  match addressText.pton6 (withoutIpv6Prefix text) with
  | some address => .ok (.inet6 address (portNumber port))
  | none =>
      .error (.error ⟨.invalidFormat, "invalid IPv6 address on connect command",
        quoted ++ [port, text.bytes]⟩)

/-- `decode_connect_unix_address`, `milter/core/milter-command-decoder.c:479`: `strcpy` into
`sun_path`, with the NUL. -/
def decodeConnectUnixAddress (text : CString) : Except Failure SocketAddress :=
  if sunPathSize ≤ text.length then .error .overrun else .ok (.unix text)

/-- `MilterSocketFamily`. -/
inductive SocketFamily where
  | unknown
  | unix
  | inet
  | inet6
deriving DecidableEq, Repr

/-- The byte of a socket family. -/
def SocketFamily.toByte : SocketFamily → UInt8
  | .unknown => 85
  | .unix => 76
  | .inet => 52
  | .inet6 => 54

/-- The socket family that a byte names. -/
def SocketFamily.ofByte (byte : UInt8) : Option SocketFamily :=
  [SocketFamily.unknown, .unix, .inet, .inet6].find? (·.toByte == byte)

/-- The port and the NUL-terminated text of an address. -/
def decodeConnectText (buffer : Memory) (length : Int) (quoted : List Bytes) :
    Except Failure (Bytes × CString) := do
  checkCommandLength buffer length 2 .atLeast "port number on connect command"
  let port := buffer.take 2
  let _ ← decodeNonEmptyValue (buffer.advance 2) (length - 2)
    "address name isn't terminated by NULL on connect command" (quoted ++ [port])
  return (port, (buffer.advance 2).string)

/-- The address of `decode_connect_content`, behind its family. -/
def decodeConnectAddress (family : UInt8) (buffer : Memory) (length : Int) (hostName : CString) :
    Except Failure (CString × SocketAddress) := do
  let quoted := [hostName.bytes, [family]]
  match SocketFamily.ofByte family with
  | some .inet => do
      let (port, text) ← decodeConnectText buffer length quoted
      let address ← decodeConnectInetAddress addressText text port quoted
      return (hostName, address)
  | some .inet6 => do
      let (port, text) ← decodeConnectText buffer length quoted
      let address ← decodeConnectInet6Address addressText text port quoted
      return (hostName, address)
  | some .unix => do
      let (_, text) ← decodeConnectText buffer length quoted
      let address ← decodeConnectUnixAddress text
      return (hostName, address)
  | some .unknown => do
      checkCommandLength buffer length 0 .exact "unknown family on connect command"
      return (hostName, .unknown)
  | none =>
      throw (.error ⟨.unknownSocketFamily, "unexpected family on connect command", quoted⟩)

/-- `decode_connect_content`, `milter/core/milter-command-decoder.c:499`. -/
def decodeConnectContent (buffer : Memory) (length : Int) :
    Except Failure (CString × SocketAddress) := do
  let nullCharacterPoint ← decodeNonEmptyValue buffer length
    "host name isn't terminated by NULL on connect command" []
  decodeConnectAddress addressText (buffer.get (nullCharacterPoint + 1))
    (buffer.advance (nullCharacterPoint + 2)) (length - (nullCharacterPoint + 2)) buffer.string

/-- `decode_connect`, `milter/core/milter-command-decoder.c:609`. -/
def decodeConnect : Handler CommandSignal := fun buffer commandLength => do
  let (hostName, address) ← decodeConnectContent addressText (buffer.advance 1) (commandLength - 1)
  emit (.connect hostName address)

end Connect

/-- `decode_helo`, `milter/core/milter-command-decoder.c:637`. -/
def decodeHelo : Handler CommandSignal :=
  decodeText .helo "FQDN isn't terminated by NULL on HELO command"

/-- `decode_envelope_from`, `milter/core/milter-command-decoder.c:663`. -/
def decodeEnvelopeFrom : Handler CommandSignal :=
  decodeText .envelopeFrom "FROM isn't terminated by NULL on MAIL command"

/-- `decode_envelope_recipient`, `milter/core/milter-command-decoder.c:689`. -/
def decodeEnvelopeRecipient : Handler CommandSignal :=
  decodeText .envelopeRecipient "TO isn't terminated by NULL on RCPT command"

/-- `decode_unknown`, `milter/core/milter-command-decoder.c:877`. -/
def decodeUnknown : Handler CommandSignal :=
  decodeText .unknown "command value isn't terminated by NULL on unknown command"

/-- `decode_data`, `milter/core/milter-command-decoder.c:714`. -/
def decodeData : Handler CommandSignal := decodeSimple .data "DATA command"

/-- `decode_end_of_header`, `milter/core/milter-command-decoder.c:764`. -/
def decodeEndOfHeader : Handler CommandSignal :=
  decodeSimple .endOfHeader "END OF HEADER command"

/-- `decode_abort`, `milter/core/milter-command-decoder.c:831`. -/
def decodeAbort : Handler CommandSignal := decodeSimple .abort "ABORT command"

/-- `decode_quit`, `milter/core/milter-command-decoder.c:854`. -/
def decodeQuit : Handler CommandSignal := decodeSimple .quit "QUIT command"

/-- `decode_header`, `milter/core/milter-command-decoder.c:737`. -/
def decodeHeader : Handler CommandSignal := decodeNameAndValue .header

/-- `decode_body`, `milter/core/milter-command-decoder.c:787`. -/
def decodeBody : Handler CommandSignal := decodeChunk .body

/-- `decode_end_of_message`, `milter/core/milter-command-decoder.c:805`. -/
def decodeEndOfMessage : Handler CommandSignal := fun buffer commandLength =>
  if commandLength > 1 then
    emit (.endOfMessage (some (buffer.advance 1).string.bytes) (commandLength - 1))
  else emit (.endOfMessage none 0)

/-- `decode_negotiate`, `milter/core/milter-command-decoder.c:903`. -/
def decodeNegotiate : Handler CommandSignal := fun buffer commandLength => do
  let option ← Codec.decodeNegotiate buffer commandLength
  checkCommandLength (buffer.advance negotiateLength) (commandLength - negotiateLength) 0 .exact
    "option negotiation command"
  emit (.negotiate option)

/-- `decode`, `milter/core/milter-command-decoder.c:938`. -/
def decode (addressText : AddressText) : Handler CommandSignal := fun buffer commandLength =>
  match MilterCommand.ofByte (buffer.get 0) with
  | some .negotiate => decodeNegotiate buffer commandLength
  | some .defineMacro => decodeDefineMacro buffer commandLength
  | some .connect => decodeConnect addressText buffer commandLength
  | some .helo => decodeHelo buffer commandLength
  | some .envelopeFrom => decodeEnvelopeFrom buffer commandLength
  | some .envelopeRecipient => decodeEnvelopeRecipient buffer commandLength
  | some .data => decodeData buffer commandLength
  | some .header => decodeHeader buffer commandLength
  | some .endOfHeader => decodeEndOfHeader buffer commandLength
  | some .body => decodeBody buffer commandLength
  | some .endOfMessage => decodeEndOfMessage buffer commandLength
  | some .abort => decodeAbort buffer commandLength
  | some .quit => decodeQuit buffer commandLength
  | some .unknown => decodeUnknown buffer commandLength
  | some .quitNewConnection | none =>
      .error (.error ⟨.unexpectedCommand, "unexpected command was received", [[buffer.get 0]]⟩)

end CommandDecoder

end MilterManager.Codec
