import MilterManager.Base.Framing
import MilterManager.Codec.Packet
import MilterManager.Core.Option

/-!
# The buffer of the encoders

`MilterEncoder`, from `milter/core/milter-encoder.c`: a buffer that is cleared, filled and packed
behind its length.
-/

namespace MilterManager.Codec

open MilterManager.Base MilterManager.Core

/-- `MilterEncoderPrivate`. -/
structure Encoder where
  buffer : Bytes
deriving DecidableEq, Repr

namespace Encoder

/-- `milter_encoder_init`. -/
def init : Encoder := ⟨[]⟩

/-- `milter_encoder_clear_buffer`, `milter/core/milter-encoder.c:164`. -/
def clearBuffer (_ : Encoder) : Encoder := ⟨[]⟩

/-- `g_string_append_len`. -/
def append (encoder : Encoder) (bytes : Bytes) : Encoder := ⟨encoder.buffer ++ bytes⟩

/-- `milter_encoder_pack`, `milter/core/milter-encoder.c:173`: the length is prepended in the
buffer, which is the packet. -/
def pack (encoder : Encoder) : Encoder × Bytes :=
  let buffer := bigEndian encoder.buffer.length ++ encoder.buffer
  (⟨buffer⟩, buffer)

/-- `milter_encoder_encode_negotiate`, `milter/core/milter-encoder.c:190`. -/
def encodeNegotiate (encoder : Encoder) (option : Option MilterOption) : Encoder :=
  let encoder := encoder.append [MilterCommand.negotiate.toByte]
  match option with
  | none => encoder
  | some option =>
      encoder.append (bigEndian option.version ++ bigEndian option.action.toNat ++
        bigEndian option.step.toNat)

/-- A packet of its own, with this content. -/
def packContent (encoder : Encoder) (content : Bytes) : Encoder × Bytes :=
  (encoder.clearBuffer.append content).pack

@[simp] theorem packContent_snd (encoder : Encoder) (content : Bytes) :
    (encoder.packContent content).2 = frame content := rfl

end Encoder

end MilterManager.Codec
