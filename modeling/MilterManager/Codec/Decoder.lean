import MilterManager.Base.Framing
import MilterManager.Codec.Memory
import MilterManager.Core.Option

/-!
# The decoder of the milter protocol

`MilterDecoder`, from `milter/core/milter-decoder.c`: the buffer and the loop that cuts it into
frames, and the checks that the handlers of commands and replies share. A handler gets the memory
where the content of the frame begins and the `command_length` of the frame.
-/

namespace MilterManager.Codec

open MilterManager.Base MilterManager.Core

/-- `MilterDecoderError`, and the errors of the decoders of commands and replies. -/
inductive ErrorCode where
  | longCommandLength
  | shortCommandLength
  | missingNull
  | unexpectedCommand
  | unexpectedReply
  | unexpectedEnd
  | unknownMacroContext
  | unknownSocketFamily
  | invalidFormat
  | unexpectedMacroStage
deriving DecidableEq, Repr

/-- A `GError` of a decoder: its code, the text of its message and the bytes quoted in it. -/
structure DecoderError where
  code : ErrorCode
  message : String
  quoted : List Bytes

/-- How a handler fails: it sets the error, it returns `FALSE` without one, or it does not come
back, because it reads `(gsize) -1` bytes for the text of an error or writes a path behind the
memory for it. -/
inductive Failure where
  | error (error : DecoderError)
  | silent
  | overrun

/-- What a handler that returns `TRUE` did: the signal, and an error it has set all the same. -/
structure Emission (σ : Type) where
  signal : σ
  error : Option DecoderError := none

/-- A class closure of the `decode` signal. -/
abbrev Handler (σ : Type) := Memory → Int → Except Failure (Emission σ)

/-- The C string at a frame that a class closure only measures with `strlen`, if there is one. -/
abbrev Scan := Memory → Option CString

/-- `g_signal_emit` at the end of a handler. -/
def emit {σ : Type} (signal : σ) : Except Failure (Emission σ) :=
  .ok { signal }

/-- `find_null_character`, `milter/core/milter-decoder.c:190`. -/
def findNullCharacter (buffer : Memory) (length : Int) : Option Nat :=
  (buffer.take length.toNat).findIdx? (· == 0)

/-- `milter_decoder_decode_null_terminated_value`, `milter/core/milter-decoder.c:203`. The message
quotes the bytes given and one byte more than the value may have. -/
def decodeNullTerminatedValue (buffer : Memory) (length : Int) (message : String)
    (quoted : List Bytes) : Except Failure Nat :=
  match findNullCharacter buffer length with
  | some nullCharacterPoint => .ok nullCharacterPoint
  | none =>
      .error (.error ⟨.missingNull, message,
        quoted ++ [(buffer.stringWithin (length + 1).toNat).bytes]⟩)

/-- The test `null_character_point <= 0` behind it: an empty value fails without an error. -/
def decodeNonEmptyValue (buffer : Memory) (length : Int) (message : String)
    (quoted : List Bytes) : Except Failure Nat := do
  let nullCharacterPoint ← decodeNullTerminatedValue buffer length message quoted
  if nullCharacterPoint = 0 then throw .silent
  return nullCharacterPoint

/-- The bytes between `0x20` and `0x7e`. -/
def isPrintable (byte : UInt8) : Bool :=
  0x20 ≤ byte && byte ≤ 0x7e

/-- `append_inspected_bytes`, `milter/core/milter-decoder.c:224`: the bytes in hexadecimal and, when
all are printable, the C string that begins with them. -/
def inspectedBytes (buffer : Memory) (length : Int) : Except Failure (List Bytes) :=
  if length = 0 then .ok []
  else if length < 0 then .error .overrun
  else
    let bytes := buffer.take length.toNat
    .ok (if bytes.all isPrintable then [bytes, buffer.string.bytes] else [bytes])

/-- `MilterDecoderCompareType`. -/
inductive CompareType where
  | atLeast
  | exact
deriving DecidableEq, Repr

/-- Whether a length is the expected one. -/
def CompareType.accepts (compareType : CompareType) (length expectedLength : Int) : Bool :=
  match compareType with
  | .atLeast => length ≥ expectedLength
  | .exact => length = expectedLength

/-- `milter_decoder_check_command_length`, `milter/core/milter-decoder.c:277`. -/
def checkCommandLength (buffer : Memory) (length expectedLength : Int) (compareType : CompareType)
    (target : String) : Except Failure Unit :=
  if compareType.accepts length expectedLength then .ok ()
  else if length > expectedLength then do
    let quoted ← inspectedBytes buffer (length - expectedLength)
    throw (.error ⟨.longCommandLength, target, quoted⟩)
  else do
    let quoted ← inspectedBytes buffer length
    throw (.error ⟨.shortCommandLength, target, quoted⟩)

/-- A name and a value, `milter_decoder_decode_header_content`,
`milter/core/milter-decoder.c:321`. -/
def decodeHeaderContent (buffer : Memory) (length : Int) : Except Failure (CString × CString) := do
  let nullCharacterPoint ← decodeNonEmptyValue buffer length
    "name isn't terminated by NULL on header" []
  let name := buffer.string
  let buffer := buffer.advance (nullCharacterPoint + 1)
  let length := length - (nullCharacterPoint + 1)
  let _ ← decodeNullTerminatedValue buffer length "value isn't terminated by NULL on header"
    [name.bytes]
  return (name, buffer.string)

section Handlers

variable {σ : Type}

/-- The handler of a packet without arguments. -/
def decodeSimple (signal : σ) (target : String) : Handler σ := fun buffer commandLength => do
  checkCommandLength (buffer.advance 1) (commandLength - 1) 0 .exact target
  emit signal

/-- The handler of a packet with one text. -/
def decodeText (signal : CString → σ) (message : String) : Handler σ :=
  fun buffer commandLength => do
    let _ ← decodeNonEmptyValue (buffer.advance 1) (commandLength - 1) message []
    emit (signal (buffer.advance 1).string)

/-- The handler of a packet with a name and a value. -/
def decodeNameAndValue (signal : CString → CString → σ) : Handler σ :=
  fun buffer commandLength => do
    let (name, value) ← decodeHeaderContent (buffer.advance 1) (commandLength - 1)
    emit (signal name value)

/-- The handler of a packet with a chunk. Its argument is declared as `G_TYPE_STRING`, so what is
signalled beside the size of the chunk is a copy of the C string that begins there. -/
def decodeChunk (signal : Bytes → Int → σ) : Handler σ := fun buffer commandLength =>
  emit (signal (buffer.advance 1).string.bytes (commandLength - 1))

end Handlers

/-- A word behind a length check, as `milter_decoder_decode_negotiate` reads three of them. -/
def decodeWord (buffer : Memory) (length : Int) (target : String) : Except Failure Nat := do
  checkCommandLength buffer length 4 .atLeast target
  return ofBigEndian (buffer.take 4)

/-- The `processed_length` of `milter_decoder_decode_negotiate`. -/
def negotiateLength : Nat := 13

/-- `milter_decoder_decode_negotiate`, `milter/core/milter-decoder.c:491`. -/
def decodeNegotiate (buffer : Memory) (length : Int) : Except Failure MilterOption := do
  let version ← decodeWord (buffer.advance 1) (length - 1)
    "version on option negotiation command"
  let action ← decodeWord (buffer.advance 5) (length - 5)
    "action flags on option negotiation command"
  let step ← decodeWord (buffer.advance 9) (length - 9)
    "step flags on option negotiation command"
  return ⟨version, BitVec.ofNat 32 action, BitVec.ofNat 32 step⟩

/-- `DecodeState`. -/
inductive DecodeState where
  | start
  | commandLength
  | commandContent
  | error
deriving DecidableEq, Repr

/-- `MilterDecoderPrivate`. -/
structure Decoder where
  state : DecodeState
  buffer : Bytes
  commandLength : Int
deriving DecidableEq, Repr

/-- `milter_decoder_init`. -/
def Decoder.init : Decoder := ⟨.start, [], 0⟩

/-- A length word as the `gint32` it is stored in. -/
def signedLength (word : Nat) : Int :=
  if word < 0x80000000 then word else word - 0x100000000

/-- How a call of `milter_decoder_decode` ends. -/
inductive Outcome where
  | success
  | failure
  | overrun
deriving DecidableEq, Repr

/-- What a call of `milter_decoder_decode` has done so far: the decoder, the signals emitted, the
error set and what it returns. -/
structure Decoding (σ : Type) where
  decoder : Decoder
  signals : List σ
  error : Option DecoderError
  outcome : Outcome

/-- The bytes behind the end of the buffer, while the buffer holds the given ones. -/
abbrev Residue := Bytes → Nat → UInt8

section Decode

variable {σ : Type} (handler : Handler σ) (residue : Residue)

/-- The loop of `milter_decoder_decode`, `milter/core/milter-decoder.c:351`. An error that is set
already stays. -/
def decodeLoop : Nat → Decoding σ → Decoding σ
  | 0, decoding => decoding
  | fuel + 1, decoding =>
      match decoding.decoder with
      | ⟨.start, buffer, commandLength⟩ =>
          if buffer.length = 0 then decoding
          else decodeLoop fuel { decoding with decoder := ⟨.commandLength, buffer, commandLength⟩ }
      | ⟨.commandLength, buffer, _⟩ =>
          if buffer.length < 4 then decoding
          else
            decodeLoop fuel { decoding with
              decoder := ⟨.commandContent, buffer.drop 4,
                signedLength (ofBigEndian (buffer.take 4))⟩ }
      | ⟨.commandContent, buffer, commandLength⟩ =>
          -- `gsize` against `gint32`: a negative length is larger than any buffer
          if commandLength < 0 ∨ buffer.length < commandLength then decoding
          else
            match handler ⟨buffer ++ [0], residue buffer⟩ commandLength with
            | .ok emission =>
                decodeLoop fuel
                  { decoder := ⟨.start, buffer.drop commandLength.toNat, commandLength⟩
                    signals := decoding.signals ++ [emission.signal]
                    error := decoding.error <|> emission.error
                    outcome := .success }
            | .error (.error error) =>
                { decoding with
                  decoder := ⟨.error, buffer, commandLength⟩
                  error := decoding.error <|> some error
                  outcome := .failure }
            | .error .silent =>
                { decoding with
                  decoder := ⟨.error, buffer, commandLength⟩
                  outcome := .failure }
            | .error .overrun => { decoding with outcome := .overrun }
      | ⟨.error, _, _⟩ => decoding

variable (fuel : Nat) (buffer : Bytes) (commandLength : Int) (signals : List σ)
  (error : Option DecoderError) (outcome : Outcome)

theorem decodeLoop_start :
    decodeLoop handler residue (fuel + 1)
        ⟨⟨.start, buffer, commandLength⟩, signals, error, outcome⟩ =
      if buffer.length = 0 then ⟨⟨.start, buffer, commandLength⟩, signals, error, outcome⟩
      else decodeLoop handler residue fuel
        ⟨⟨.commandLength, buffer, commandLength⟩, signals, error, outcome⟩ :=
  rfl

theorem decodeLoop_commandLength :
    decodeLoop handler residue (fuel + 1)
        ⟨⟨.commandLength, buffer, commandLength⟩, signals, error, outcome⟩ =
      if buffer.length < 4 then ⟨⟨.commandLength, buffer, commandLength⟩, signals, error, outcome⟩
      else decodeLoop handler residue fuel
        ⟨⟨.commandContent, buffer.drop 4, signedLength (ofBigEndian (buffer.take 4))⟩, signals,
          error, outcome⟩ :=
  rfl

theorem decodeLoop_commandContent :
    decodeLoop handler residue (fuel + 1)
        ⟨⟨.commandContent, buffer, commandLength⟩, signals, error, outcome⟩ =
      if commandLength < 0 ∨ buffer.length < commandLength then
        ⟨⟨.commandContent, buffer, commandLength⟩, signals, error, outcome⟩
      else
        match handler ⟨buffer ++ [0], residue buffer⟩ commandLength with
        | .ok emission =>
            decodeLoop handler residue fuel
              ⟨⟨.start, buffer.drop commandLength.toNat, commandLength⟩,
                signals ++ [emission.signal], error <|> emission.error, .success⟩
        | .error (.error e) =>
            ⟨⟨.error, buffer, commandLength⟩, signals, error <|> some e, .failure⟩
        | .error .silent => ⟨⟨.error, buffer, commandLength⟩, signals, error, .failure⟩
        | .error .overrun =>
            ⟨⟨.commandContent, buffer, commandLength⟩, signals, error, .overrun⟩ :=
  rfl

/-- `milter_decoder_decode`, `milter/core/milter-decoder.c:351`. The test at its head compares the
state with the quark of the error domain, which is no state. -/
def Decoder.decode (decoder : Decoder) (chunk : Bytes) : Decoding σ :=
  if chunk.length = 0 then ⟨decoder, [], none, .success⟩
  else
    decodeLoop handler residue ((decoder.buffer ++ chunk).length + 5)
      ⟨{ decoder with buffer := decoder.buffer ++ chunk }, [], none, .success⟩

end Decode

/-- `milter_decoder_end_decode`, `milter/core/milter-decoder.c:452`; the code of the error is
`MILTER_DECODER_ERROR_UNEXPECTED_END`. -/
def Decoder.endDecode (decoder : Decoder) : Bool :=
  match decoder.state with
  | .start => true
  | .commandLength | .commandContent | .error => false

/-- A call of `milter_decoder_decode`: its bytes, and what the memory behind the buffer holds. -/
structure Call where
  chunk : Bytes
  residue : Residue

/-- The calls of `milter_decoder_decode` on one decoder; after one that does not come back there is
no other. -/
def Decoder.decodeAll {σ : Type} (handler : Handler σ) :
    Decoder → List Call → List (Decoding σ)
  | _, [] => []
  | decoder, call :: calls =>
      let decoding := decoder.decode handler call.residue call.chunk
      if decoding.outcome = .overrun then [decoding]
      else decoding :: decodeAll handler decoding.decoder calls

end MilterManager.Codec
