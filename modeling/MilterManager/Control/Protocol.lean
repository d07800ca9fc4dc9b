import MilterManager.Base.Outputs
import MilterManager.Codec.Decoder
import MilterManager.Codec.Encoder

/-!
# The control and the launch protocol

The frames of `milter/manager/milter-manager-control-protocol.h` and
`milter/manager/milter-manager-launch-protocol.h`: a word, a NUL and the arguments. The encoders and
decoders are those of `milter/manager/milter-manager-control-*.c`, of
`milter/manager/milter-manager-reply-*.c` and of `milter/manager/milter-manager-launch-*.c`.
-/

namespace MilterManager.Control

open MilterManager.Core MilterManager.Codec

/-- `"set-configuration"`. -/
def setConfigurationTag : CString :=
  ⟨[115, 101, 116, 45, 99, 111, 110, 102, 105, 103, 117, 114, 97, 116, 105, 111, 110], by decide⟩

/-- `"get-configuration"`. -/
def getConfigurationTag : CString :=
  ⟨[103, 101, 116, 45, 99, 111, 110, 102, 105, 103, 117, 114, 97, 116, 105, 111, 110], by decide⟩

/-- `"reload"`. -/
def reloadTag : CString := ⟨[114, 101, 108, 111, 97, 100], by decide⟩

/-- `"get-status"`. -/
def getStatusTag : CString := ⟨[103, 101, 116, 45, 115, 116, 97, 116, 117, 115], by decide⟩

/-- `"success"`. -/
def successTag : CString := ⟨[115, 117, 99, 99, 101, 115, 115], by decide⟩

/-- `"failure"`. -/
def failureTag : CString := ⟨[102, 97, 105, 108, 117, 114, 101], by decide⟩

/-- `"error"`. -/
def errorTag : CString := ⟨[101, 114, 114, 111, 114], by decide⟩

/-- `"configuration"`. -/
def configurationTag : CString :=
  ⟨[99, 111, 110, 102, 105, 103, 117, 114, 97, 116, 105, 111, 110], by decide⟩

/-- `"status"`. -/
def statusTag : CString := ⟨[115, 116, 97, 116, 117, 115], by decide⟩

/-- `"launch"`. -/
def launchTag : CString := ⟨[108, 97, 117, 110, 99, 104], by decide⟩

/-- The commands of `MilterManagerControlCommandEncoder`. -/
inductive ControlCommand where
  | setConfiguration (configuration : Bytes)
  | reload
  | getStatus
deriving DecidableEq, Repr

/-- The replies of `MilterManagerControlReplyEncoder`. -/
inductive ControlReply where
  | success
  | failure (message : CString)
  | error (message : CString)
  | configuration (configuration : Bytes)
  | status (status : Bytes)
deriving DecidableEq, Repr

/-- The command of `MilterManagerLaunchCommandEncoder`; the command line is not empty. -/
structure LaunchCommand where
  commandLine : CString
  nonempty : commandLine.bytes ≠ []
  userName : Option CString

/-- The signals of `MilterManagerControlCommandDecoder`; a configuration is a copy up to its first
NUL. -/
inductive ControlCommandSignal where
  | setConfiguration (configuration : Bytes) (size : Int)
  | getConfiguration
  | reload
  | getStatus
deriving DecidableEq, Repr

/-- The signals of `MilterManagerReplyDecoder` and of `MilterManagerControlReplyDecoder`, and the
one that a status would need. -/
inductive ControlReplySignal where
  | success
  | failure (message : CString)
  | error (message : CString)
  | configuration (configuration : Bytes) (size : Int)
  | status (status : Bytes) (size : Int)
deriving DecidableEq, Repr

/-- The `launch` signal of `MilterManagerLaunchCommandDecoder`. -/
structure LaunchSignal where
  commandLine : CString
  userName : Option CString
deriving DecidableEq, Repr

/-- A word, its NUL and what follows them. -/
def tagged (tag : CString) (arguments : Bytes) : Bytes := tag.bytes ++ 0 :: arguments

namespace ControlCommandEncoder

variable (encoder : Encoder)

/-- `milter_manager_control_command_encoder_encode_set_configuration`,
`milter/manager/milter-manager-control-command-encoder.c:60`. -/
def encodeSetConfiguration (configuration : Bytes) : Encoder × Bytes :=
  encoder.packContent (tagged setConfigurationTag configuration)

/-- `milter_manager_control_command_encoder_encode_reload`,
`milter/manager/milter-manager-control-command-encoder.c:79`. -/
def encodeReload : Encoder × Bytes := encoder.packContent (tagged reloadTag [])

/-- `milter_manager_control_command_encoder_encode_get_status`,
`milter/manager/milter-manager-control-command-encoder.c:96`. -/
def encodeGetStatus : Encoder × Bytes := encoder.packContent (tagged getStatusTag [])

/-- The packet of a command. -/
def encode : ControlCommand → Encoder × Bytes
  | .setConfiguration configuration => encodeSetConfiguration encoder configuration
  | .reload => encodeReload encoder
  | .getStatus => encodeGetStatus encoder

end ControlCommandEncoder

namespace ControlReplyEncoder

variable (encoder : Encoder)

/-- `milter_manager_reply_encoder_encode_success`,
`milter/manager/milter-manager-reply-encoder.c:60`. -/
def encodeSuccess : Encoder × Bytes := encoder.packContent (tagged successTag [])

/-- `milter_manager_reply_encoder_encode_failure`,
`milter/manager/milter-manager-reply-encoder.c:77`; no NUL follows the message. -/
def encodeFailure (message : CString) : Encoder × Bytes :=
  encoder.packContent (tagged failureTag message.bytes)

/-- `milter_manager_reply_encoder_encode_error`,
`milter/manager/milter-manager-reply-encoder.c:96`; no NUL follows the message. -/
def encodeError (message : CString) : Encoder × Bytes :=
  encoder.packContent (tagged errorTag message.bytes)

/-- `milter_manager_control_reply_encoder_encode_configuration`,
`milter/manager/milter-manager-control-reply-encoder.c:94`. -/
def encodeConfiguration (configuration : Bytes) : Encoder × Bytes :=
  encoder.packContent (tagged configurationTag configuration)

/-- `milter_manager_control_reply_encoder_encode_status`,
`milter/manager/milter-manager-control-reply-encoder.c:113`. -/
def encodeStatus (status : Bytes) : Encoder × Bytes :=
  encoder.packContent (tagged statusTag status)

/-- The packet of a reply. -/
def encode : ControlReply → Encoder × Bytes
  | .success => encodeSuccess encoder
  | .failure message => encodeFailure encoder message
  | .error message => encodeError encoder message
  | .configuration configuration => encodeConfiguration encoder configuration
  | .status status => encodeStatus encoder status

end ControlReplyEncoder

namespace LaunchCommandEncoder

/-- `milter_manager_launch_command_encoder_encode_launch`,
`milter/manager/milter-manager-launch-command-encoder.c:60`; no NUL follows the user name. -/
def encodeLaunch (encoder : Encoder) (commandLine : CString) (userName : Option CString) :
    Encoder × Bytes :=
  encoder.packContent
    (tagged launchTag (commandLine.bytes ++ 0 :: userName.elim [] CString.bytes))

/-- The packet of a launch command. -/
def encode (encoder : Encoder) (command : LaunchCommand) : Encoder × Bytes :=
  encodeLaunch encoder command.commandLine command.userName

end LaunchCommandEncoder

/-- The word at the head of a frame and the arguments behind it, as all the decoders begin. -/
def decodeTag {α : Type} (buffer : Memory) (length : Int) (message : String)
    (decodeArguments : CString → Memory → Int → Except Failure α) : Except Failure α := do
  let nullCharacterPoint ← decodeNonEmptyValue buffer length message []
  decodeArguments buffer.string (buffer.advance (nullCharacterPoint + 1))
    (length - nullCharacterPoint - 1)

namespace ControlCommandDecoder

/-- `decode_set_configuration`, `milter/manager/milter-manager-control-command-decoder.c:146`; the
argument is declared as `G_TYPE_STRING`. -/
def decodeSetConfiguration : Handler ControlCommandSignal := fun content length =>
  emit (.setConfiguration content.string.bytes length)

/-- A command without arguments. -/
def decodeSimple (signal : ControlCommandSignal) (target : String) :
    Handler ControlCommandSignal := fun content length => do
  checkCommandLength content length 0 .exact target
  emit signal

/-- `decode_get_configuration`, `milter/manager/milter-manager-control-command-decoder.c:156`. -/
def decodeGetConfiguration : Handler ControlCommandSignal :=
  decodeSimple .getConfiguration "get-configuration command"

/-- `decode_reload`, `milter/manager/milter-manager-control-command-decoder.c:173`. -/
def decodeReload : Handler ControlCommandSignal := decodeSimple .reload "reload command"

/-- `decode_get_status`, `milter/manager/milter-manager-control-command-decoder.c:190`. -/
def decodeGetStatus : Handler ControlCommandSignal := decodeSimple .getStatus "get-status command"

/-- `decode`, `milter/manager/milter-manager-control-command-decoder.c:207`. -/
def decode : Handler ControlCommandSignal := fun buffer length =>
  decodeTag buffer length "control command isn't terminated by NULL"
    fun command content contentLength =>
      if command = setConfigurationTag then decodeSetConfiguration content contentLength
      else if command = getConfigurationTag then decodeGetConfiguration content contentLength
      else if command = reloadTag then decodeReload content contentLength
      else if command = getStatusTag then decodeGetStatus content contentLength
      else
        throw (.error ⟨.unexpectedCommand, "unexpected command was received", [command.bytes]⟩)

end ControlCommandDecoder

namespace ManagerReplyDecoder

/-- `decode_success`, `milter/manager/milter-manager-reply-decoder.c:117`. -/
def decodeSuccess : Handler ControlReplySignal := fun content length => do
  checkCommandLength content length 0 .exact "SUCCESS reply"
  emit .success

/-- `decode_failure`, `milter/manager/milter-manager-reply-decoder.c:131`: the C string at the
content. -/
def decodeFailure : Handler ControlReplySignal := fun content _ => emit (.failure content.string)

/-- `decode_error`, `milter/manager/milter-manager-reply-decoder.c:140`: the C string at the
content. -/
def decodeError : Handler ControlReplySignal := fun content _ => emit (.error content.string)

/-- `decode`, `milter/manager/milter-manager-reply-decoder.c:149`. -/
def decode : Handler ControlReplySignal := fun buffer length =>
  decodeTag buffer length "control command isn't terminated by NULL"
    fun reply content contentLength =>
      if reply = successTag then decodeSuccess content contentLength
      else if reply = failureTag then decodeFailure content contentLength
      else if reply = errorTag then decodeError content contentLength
      else throw (.error ⟨.unexpectedReply, "unexpected reply was received", [reply.bytes]⟩)

end ManagerReplyDecoder

namespace ControlReplyDecoder

/-- `decode_configuration`, `milter/manager/milter-manager-control-reply-decoder.c:101`; the
argument is declared as `G_TYPE_STRING`. -/
def decodeConfiguration : Handler ControlReplySignal := fun content length =>
  emit (.configuration content.string.bytes length)

/-- `decode`, `milter/manager/milter-manager-control-reply-decoder.c:110`: the decoder it is derived
from comes first, and the error of that one is cleared. -/
def decode : Handler ControlReplySignal := fun buffer length =>
  decodeTag buffer length "control command isn't terminated by NULL"
    fun reply content contentLength =>
      match ManagerReplyDecoder.decode buffer length with
      | .ok emission => .ok emission
      | .error .overrun => .error .overrun
      | .error _ =>
          if reply = configurationTag then decodeConfiguration content contentLength
          else throw (.error ⟨.unexpectedReply, "unexpected reply was received", [reply.bytes]⟩)

end ControlReplyDecoder

namespace LaunchCommandDecoder

/-- `decode_launch`, `milter/manager/milter-manager-launch-command-decoder.c:95`: the user name is
the C string behind the command line, if the frame goes on there. -/
def decodeLaunch : Handler LaunchSignal := fun content length => do
  let nullCharacterPoint ← decodeNonEmptyValue content length
    "Command line isn't terminated by NULL on spawn-child command" []
  let userName :=
    if (nullCharacterPoint : Int) < length - 1 then
      some (content.advance (nullCharacterPoint + 1)).string
    else none
  emit ⟨content.string, userName⟩

/-- `decode`, `milter/manager/milter-manager-launch-command-decoder.c:125`. -/
def decode : Handler LaunchSignal := fun buffer length =>
  decodeTag buffer length "launch command isn't terminated by NULL"
    fun command content contentLength =>
      if command = launchTag then decodeLaunch content contentLength
      else
        throw (.error ⟨.unexpectedCommand, "unexpected command was received", [command.bytes]⟩)

end LaunchCommandDecoder

end MilterManager.Control
