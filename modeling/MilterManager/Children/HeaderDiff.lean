import MilterManager.Core.Headers

/-!
# The header diff

The header signals emitted at the end of a message, `emit_header_signals` of
`milter/manager/milter-manager-children.c:1206`, and the operations of `MilterHeaders` that a
receiver of these signals performs.
-/

namespace MilterManager.Children

open MilterManager.Core

/-- The header modification signals of a children object. -/
inductive HeaderSignal where
  | addHeader (name : Bytes) (value : Option Bytes)
  | insertHeader (index : Nat) (name : Bytes) (value : Option Bytes)
  | changeHeader (name : Bytes) (index : Nat) (value : Option Bytes)
  | deleteHeader (name : Bytes) (index : Nat)
deriving DecidableEq, Repr

/-- The deletions of the headers left in `processing`, last one first. -/
def deleteHeaderSignals (original processing : Headers) : List HeaderSignal :=
  processing.reverse.map fun header =>
    .deleteHeader header.name (original.indexInSameHeaderName header).toNat

/-- The signals for the headers from position `i` on, `processing` being what is left of the
copy of the original headers; `milter/manager/milter-manager-children.c:1221`. -/
def emitHeaderSignalsFrom (original processing : Headers) (i : Nat) :
    Headers → List HeaderSignal
  | [] => deleteHeaderSignals original processing
  | header :: rest =>
      match processing.find header with
      | some _ => emitHeaderSignalsFrom original (processing.remove header) (i + 1) rest
      | none =>
          match processing.lookupByName header.name with
          | none =>
              .insertHeader i header.name header.value ::
                emitHeaderSignalsFrom original processing (i + 1) rest
          | some foundHeader =>
              let index := original.indexInSameHeaderName foundHeader
              if index = -1 then
                .addHeader header.name header.value ::
                  emitHeaderSignalsFrom original processing (i + 1) rest
              else
                .changeHeader header.name index.toNat header.value ::
                  emitHeaderSignalsFrom original (processing.remove foundHeader) (i + 1) rest

/-- `emit_header_signals`, `milter/manager/milter-manager-children.c:1206`. -/
def emitHeaderSignals (original headers : Headers) : List HeaderSignal :=
  emitHeaderSignalsFrom original original 0 headers

/-- What a receiver of the signal does to its own header list. -/
def HeaderSignal.apply (headers : Headers) : HeaderSignal → Headers
  | .addHeader name value => headers.addHeader name value
  | .insertHeader index name value => headers.insertHeader index name value
  | .changeHeader name index value => headers.changeHeader name index value
  | .deleteHeader name index => headers.deleteHeader name index

/-- The signals performed in the order of their emission. -/
def replayHeaderSignals (headers : Headers) (signals : List HeaderSignal) : Headers :=
  signals.foldl HeaderSignal.apply headers

@[simp] theorem replayHeaderSignals_nil (headers : Headers) :
    replayHeaderSignals headers [] = headers := rfl

@[simp] theorem replayHeaderSignals_cons (headers : Headers) (signal : HeaderSignal)
    (signals : List HeaderSignal) :
    replayHeaderSignals headers (signal :: signals) =
      replayHeaderSignals (signal.apply headers) signals := rfl

end MilterManager.Children
