import MilterManager.Core.Protocol

/-!
# Negotiated options

`MilterOption`, from `milter/core/milter-option.h` and `milter/core/milter-option.c`: a protocol
version with action and step flags.
-/

namespace MilterManager.Core

/-- A word of flags. -/
abbrev Flags := BitVec 32

/-- `MAX_SUPPORTED_MILTER_PROTOCOL_VERSION`,
`milter/manager/milter-manager-children.c:33`. -/
def maxSupportedMilterProtocolVersion : Nat := 6

namespace ActionFlags

def addHeaders : Flags := 0x00000001#32
def changeBody : Flags := 0x00000002#32
def addEnvelopeRecipient : Flags := 0x00000004#32
def deleteEnvelopeRecipient : Flags := 0x00000008#32
def changeHeaders : Flags := 0x00000010#32
def changeEnvelopeFrom : Flags := 0x00000040#32

end ActionFlags

namespace StepFlags

def noConnect : Flags := 0x00000001#32
def noHelo : Flags := 0x00000002#32
def noEnvelopeFrom : Flags := 0x00000004#32
def noEnvelopeRecipient : Flags := 0x00000008#32
def noBody : Flags := 0x00000010#32
def noHeaders : Flags := 0x00000020#32
def noEndOfHeader : Flags := 0x00000040#32
def noReplyHeader : Flags := 0x00000080#32
def noUnknown : Flags := 0x00000100#32
def noData : Flags := 0x00000200#32
def skip : Flags := 0x00000400#32
def envelopeRecipientRejected : Flags := 0x00000800#32
def noReplyConnect : Flags := 0x00001000#32
def noReplyHelo : Flags := 0x00002000#32
def noReplyEnvelopeFrom : Flags := 0x00004000#32
def noReplyEnvelopeRecipient : Flags := 0x00008000#32
def noReplyData : Flags := 0x00010000#32
def noReplyUnknown : Flags := 0x00020000#32
def noReplyEndOfHeader : Flags := 0x00040000#32
def noReplyBody : Flags := 0x00080000#32
def headerValueWithLeadingSpace : Flags := 0x00100000#32

/-- `MILTER_STEP_NO_EVENT_MASK`. -/
def noEventMask : Flags :=
  noConnect ||| noHelo ||| noEnvelopeFrom ||| noEnvelopeRecipient ||| noBody ||| noHeaders |||
    noEndOfHeader ||| noUnknown ||| noData

/-- `MILTER_STEP_NO_REPLY_MASK`. -/
def noReplyMask : Flags :=
  noReplyConnect ||| noReplyHelo ||| noReplyEnvelopeFrom ||| noReplyEnvelopeRecipient |||
    noReplyData ||| noReplyHeader ||| noReplyUnknown ||| noReplyEndOfHeader ||| noReplyBody

/-- `MILTER_STEP_NO_MASK`. -/
def noMask : Flags := noEventMask ||| noReplyMask

/-- `MILTER_STEP_YES_MASK`. -/
def yesMask : Flags := skip ||| envelopeRecipientRejected ||| headerValueWithLeadingSpace

/-- `milter_step_flags_merge`, `milter/core/milter-option.c:357`: a refusal stays only when both
ask for it, a wish when one does. -/
def merge (dest src : Flags) : Flags :=
  ((dest &&& noMask) &&& (src &&& noMask)) ||| ((dest &&& yesMask) ||| (src &&& yesMask))

end StepFlags

/-- `MilterOption`, `milter/core/milter-option.c`. -/
structure MilterOption where
  version : Nat
  action : Flags
  step : Flags
deriving DecidableEq, Repr

namespace MilterOption

/-- `milter_option_get_step_yes`. -/
def stepYes (option : MilterOption) : Flags := option.step &&& StepFlags.yesMask

/-- `milter_option_remove_step`. -/
def removeStep (option : MilterOption) (step : Flags) : MilterOption :=
  { option with step := option.step &&& ~~~step }

/-- The version is lowered to the highest one supported. -/
def clampVersion (option : MilterOption) : MilterOption :=
  { option with version := min option.version maxSupportedMilterProtocolVersion }

/-- `milter_option_combine`, `milter/core/milter-option.c:323`; `none` is `FALSE`. -/
def combine (dest src : MilterOption) : Option MilterOption :=
  if dest.version < src.version then none
  else some ⟨src.version, dest.action &&& src.action, dest.step &&& src.step⟩

/-- `milter_option_merge`, `milter/core/milter-option.c:340`; `none` is `FALSE`. -/
def merge (dest src : MilterOption) : Option MilterOption :=
  if dest.version < src.version then none
  else some { dest with
    step := StepFlags.merge dest.step src.step
    action := dest.action ||| src.action }

end MilterOption

end MilterManager.Core
