import Mathlib.Data.Finmap
import MilterManager.Codec.Memory

/-!
# The bytes that name commands and replies

The enumerations of `milter/core/milter-protocol.h` whose values are bytes on the wire, and the
arguments that commands carry.
-/

namespace MilterManager.Codec

open MilterManager.Core

/-- `MilterCommand`. -/
inductive MilterCommand where
  | abort
  | body
  | connect
  | defineMacro
  | endOfMessage
  | helo
  | quitNewConnection
  | header
  | envelopeFrom
  | endOfHeader
  | negotiate
  | quit
  | envelopeRecipient
  | data
  | unknown
deriving DecidableEq, Repr

namespace MilterCommand

/-- The byte of a command. -/
def toByte : MilterCommand → UInt8
  | .abort => 65
  | .body => 66
  | .connect => 67
  | .defineMacro => 68
  | .endOfMessage => 69
  | .helo => 72
  | .quitNewConnection => 75
  | .header => 76
  | .envelopeFrom => 77
  | .endOfHeader => 78
  | .negotiate => 79
  | .quit => 81
  | .envelopeRecipient => 82
  | .data => 84
  | .unknown => 85

/-- All commands. -/
def all : List MilterCommand :=
  [.abort, .body, .connect, .defineMacro, .endOfMessage, .helo, .quitNewConnection, .header,
    .envelopeFrom, .endOfHeader, .negotiate, .quit, .envelopeRecipient, .data, .unknown]

/-- The command that a byte names. -/
def ofByte (byte : UInt8) : Option MilterCommand :=
  all.find? (·.toByte == byte)

@[simp] theorem ofByte_toByte (command : MilterCommand) : ofByte command.toByte = some command := by
  cases command <;> rfl

theorem toByte_of_ofByte {byte : UInt8} {command : MilterCommand}
    (h : ofByte byte = some command) : command.toByte = byte := by
  simpa using List.find?_some h

theorem toByte_ne_zero (command : MilterCommand) : command.toByte ≠ 0 := by
  cases command <;> decide

end MilterCommand

/-- `MilterReply`. -/
inductive MilterReply where
  | addRecipient
  | deleteRecipient
  | addRecipientWithParameters
  | shutdown
  | accept
  | replaceBody
  | continue
  | discard
  | changeFrom
  | connectionFailure
  | addHeader
  | insertHeader
  | setSymbolList
  | changeHeader
  | progress
  | quarantine
  | reject
  | skip
  | temporaryFailure
  | replyCode
deriving DecidableEq, Repr

namespace MilterReply

/-- The byte of a reply. -/
def toByte : MilterReply → UInt8
  | .addRecipient => 43
  | .deleteRecipient => 45
  | .addRecipientWithParameters => 50
  | .shutdown => 52
  | .accept => 97
  | .replaceBody => 98
  | .continue => 99
  | .discard => 100
  | .changeFrom => 101
  | .connectionFailure => 102
  | .addHeader => 104
  | .insertHeader => 105
  | .setSymbolList => 108
  | .changeHeader => 109
  | .progress => 112
  | .quarantine => 113
  | .reject => 114
  | .skip => 115
  | .temporaryFailure => 116
  | .replyCode => 121

/-- All replies. -/
def all : List MilterReply :=
  [.addRecipient, .deleteRecipient, .addRecipientWithParameters, .shutdown, .accept, .replaceBody,
    .continue, .discard, .changeFrom, .connectionFailure, .addHeader, .insertHeader,
    .setSymbolList, .changeHeader, .progress, .quarantine, .reject, .skip, .temporaryFailure,
    .replyCode]

/-- The reply that a byte names. -/
def ofByte (byte : UInt8) : Option MilterReply :=
  all.find? (·.toByte == byte)

@[simp] theorem ofByte_toByte (reply : MilterReply) : ofByte reply.toByte = some reply := by
  cases reply <;> rfl

end MilterReply

/-- The `struct sockaddr` of a connect command; the port as `ntohs` gives it. -/
inductive SocketAddress where
  | inet (address : BitVec 32) (port : UInt16)
  | inet6 (address : BitVec 128) (port : UInt16)
  | unix (path : CString)
  | unknown
deriving DecidableEq, Repr

/-- `inet_pton` and `inet_ntop`. -/
structure AddressText where
  pton : CString → Option (BitVec 32)
  ntop : BitVec 32 → CString
  pton6 : CString → Option (BitVec 128)
  ntop6 : BitVec 128 → CString

/-- The `GHashTable` of macros; a value can be `NULL`. -/
abbrev Macros := Finmap fun _ : CString => Option CString

/-- `MILTER_CHUNK_SIZE`. -/
def chunkSize : Nat := 65535

/-- The size of `sun_path`. -/
def sunPathSize : Nat := 108

end MilterManager.Codec
