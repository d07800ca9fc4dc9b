import Mathlib.Data.List.TakeWhile
import MilterManager.Codec.CommandLocality
import MilterManager.Codec.ReplyLocality
import MilterManager.Codec.Stream

/-!
# Chunks, frames and the end of the stream

When the decoders do not care how a stream is cut into chunks, read nothing behind a frame and end
well exactly on a concatenation of complete frames.
-/

namespace MilterManager.Codec

open MilterManager.Base MilterManager.Core

section Handler

variable {σ : Type} (handler : Handler σ) (scan : Scan)

/-- A run of a new decoder. -/
abbrev runOf (calls : List Call) : List (Decoding σ) := Decoder.init.decodeAll handler calls

/-- Every way of cutting the stream into calls gives the same signals, the same error and first
failure and the same result of the last call, and every call comes back. -/
def ChunkInvariant (stream : Bytes) : Prop :=
  ∀ calls calls' : List Call, fed calls = stream → fed calls' = stream →
    report (runOf handler calls) = report (runOf handler calls') ∧
      lastOutcome (runOf handler calls) = lastOutcome (runOf handler calls') ∧
      ∀ decoding ∈ runOf handler calls, decoding.outcome ≠ .overrun

/-- What the handler does with a frame of the stream is a function of the bytes of the frame, and so
is the C string that it measures. -/
def FrameLocal (stream : Bytes) : Prop :=
  ∀ frame ∈ frames stream, IsLocal handler frame ∧ ScansWithin scan frame

/-- `milter_decoder_end_decode` succeeds exactly when the bytes fed are complete frames. -/
def EndsWithFrames (stream : Bytes) : Prop :=
  ∀ calls : List Call, fed calls = stream →
    ((Decoder.init.finally (runOf handler calls)).endDecode = true ↔ IsComplete stream)

/-- No frame that the decoder gets to is refused, and a complete stream has no frame whose length
is negative as `gint32`. -/
def Undisturbed (stream : Bytes) : Prop :=
  (∀ frame ∈ (frames stream).takeWhile (·.length < lengthLimit), Accepts handler frame) ∧
    (IsComplete stream → ∀ frame ∈ frames stream, frame.length < lengthLimit)

theorem endDecode_iff (decoder : Decoder) (pending : Bytes) (hholds : decoder.Holds pending)
    (hwaits : decoder.Waits) : decoder.endDecode = true ↔ pending = [] := by
  obtain ⟨state, buffer, commandLength⟩ := decoder
  cases state with
  | start =>
      obtain rfl : buffer = pending := hholds
      obtain rfl : buffer = [] := hwaits
      exact ⟨fun _ => rfl, fun _ => rfl⟩
  | commandLength =>
      obtain ⟨rfl, hne⟩ : buffer = pending ∧ buffer ≠ [] := hholds
      exact ⟨nofun, fun hnil => absurd hnil hne⟩
  | commandContent =>
      obtain ⟨word, hword, rfl, -⟩ := hholds
      refine ⟨nofun, fun hnil => ?_⟩
      rw [(List.append_eq_nil_iff.mp hnil).1] at hword
      cases hword
  | error => exact absurd hholds id

theorem lastOutcome_of_success (decodings : List (Decoding σ))
    (h : ∀ decoding ∈ decodings, decoding.outcome = .success) :
    lastOutcome decodings = .success := by
  unfold lastOutcome
  cases hlast : decodings.getLast? with
  | none => rfl
  | some decoding => exact h decoding (List.mem_of_getLast? hlast)

/-- Frames that decide alone and that nothing disturbs make the cuts and the end irrelevant. -/
theorem chunkInvariant_of_local (stream : Bytes) (hlocal : FrameLocal handler scan stream)
    (hundisturbed : Undisturbed handler stream) :
    ChunkInvariant handler stream ∧ EndsWithFrames handler stream := by
  obtain ⟨haccepts, hlengths⟩ := hundisturbed
  obtain ⟨left, hleft⟩ := (read_rest_eq_ok_iff lengthLimit (meaning handler) stream).mpr haccepts
  have hrun : ∀ calls : List Call, fed calls = stream →
      RunReads .init (runOf handler calls) (reading handler stream) := by
    intro calls hcalls
    have hreads := runReads_decodeAll handler .init [] calls rfl rfl (by
      rw [List.nil_append, hcalls]
      exact fun frame hframe => (hlocal frame hframe).1)
    rwa [List.nil_append, hcalls] at hreads
  have hfinal : ∀ calls : List Call, fed calls = stream →
      (Decoder.init.finally (runOf handler calls)).Holds left ∧
        (Decoder.init.finally (runOf handler calls)).Waits ∧
        ∀ decoding ∈ runOf handler calls, decoding.outcome = .success := by
    intro calls hcalls
    have hdecoder := (hrun calls hcalls).decoder
    rw [reading, hleft] at hdecoder
    exact hdecoder
  constructor
  · intro calls calls' hcalls hcalls'
    refine ⟨?_, ?_, ?_⟩
    · rw [(hrun calls hcalls).report, (hrun calls' hcalls').report]
    · rw [lastOutcome_of_success _ (hfinal calls hcalls).2.2,
        lastOutcome_of_success _ (hfinal calls' hcalls').2.2]
    · intro decoding hdecoding
      rw [(hfinal calls hcalls).2.2 decoding hdecoding]
      intro h
      cases h
  · intro calls hcalls
    obtain ⟨hholds, hwaits, -⟩ := hfinal calls hcalls
    rw [endDecode_iff _ left hholds hwaits, isComplete_iff]
    have hnil := read_rest_eq_nil_iff lengthLimit (meaning handler) stream
    rw [hleft] at hnil
    constructor
    · rintro rfl
      exact (hnil.mp rfl).1
    · intro hremainder
      have hshort := hlengths ((isComplete_iff stream).mpr hremainder)
      have hall : ∀ frame ∈ frames stream, frame.length < lengthLimit ∧
          ∃ emission, meaning handler frame = .ok emission := by
        intro frame hframe
        refine ⟨hshort frame hframe, haccepts frame ?_⟩
        rwa [List.takeWhile_eq_self_iff.mpr (by simpa using hshort)]
      exact Except.ok.inj (hnil.mpr ⟨hremainder, hall⟩)

/-- A refused frame shows in the result of the last call, unless another call follows. -/
theorem undisturbed_of_invariant (stream : Bytes) (hlocal : FrameLocal handler scan stream)
    (hinvariant : ChunkInvariant handler stream) (hends : EndsWithFrames handler stream) :
    Undisturbed handler stream := by
  have residue : Residue := fun _ _ => 0
  have hreads : ∀ calls : List Call, fed calls = stream →
      RunReads .init (runOf handler calls) (reading handler stream) := by
    intro calls hcalls
    have hreads := runReads_decodeAll handler .init [] calls rfl rfl (by
      rw [List.nil_append, hcalls]
      exact fun frame hframe => (hlocal frame hframe).1)
    rwa [List.nil_append, hcalls] at hreads
  have hone : fed [⟨stream, residue⟩] = stream := List.append_nil stream
  have htwo : fed [⟨stream, residue⟩, ⟨[], residue⟩] = stream := List.append_nil stream
  obtain ⟨-, hlast, hback⟩ := hinvariant _ _ hone htwo
  -- the call that follows has nothing to decode and returns `TRUE`
  have hsuccess : (runOf handler [⟨stream, residue⟩]) =
        [Decoder.init.decode handler residue stream] →
      (Decoder.init.decode handler residue stream).outcome = .success := by
    intro hrun
    have hne : (Decoder.init.decode handler residue stream).outcome ≠ .overrun :=
      hback _ (by rw [hrun]; exact List.mem_singleton.mpr rfl)
    have hrun' := decodeAll_cons handler .init ⟨stream, residue⟩ [⟨[], residue⟩] rfl hne
    rw [hrun, runOf, hrun'] at hlast
    exact hlast
  have hsingle : runOf handler [⟨stream, residue⟩] =
      [Decoder.init.decode handler residue stream] := by
    rw [runOf, Decoder.decodeAll]
    split
    · rfl
    · rfl
  have houtcome := hsuccess hsingle
  obtain ⟨left, hleft⟩ : ∃ left, (reading handler stream).rest = .ok left := by
    have hreport := (hreads _ hone).report
    rw [hsingle, report_cons, if_pos houtcome] at hreport
    have hrest := congrArg Report.outcome hreport
    cases hcase : (reading handler stream).rest with
    | ok left => exact ⟨left, rfl⟩
    | error failure =>
        simp only [readingReport, readingOutcome, hcase] at hrest
        cases failure <;> cases hrest
  constructor
  · exact (read_rest_eq_ok_iff lengthLimit (meaning handler) stream).mp ⟨left, hleft⟩
  · intro hcomplete
    have hend := (hends _ hone).mpr hcomplete
    have hdecoder := (hreads _ hone).decoder
    rw [hleft] at hdecoder
    rw [endDecode_iff _ left hdecoder.1 hdecoder.2.1] at hend
    rw [hend] at hleft
    intro frame hframe
    exact (((read_rest_eq_nil_iff lengthLimit (meaning handler) stream).mp hleft).2 frame
      hframe).1

/-- The stream is decoded independently of its chunks, frame by frame, up to its end. -/
def StreamDecoded (stream : Bytes) : Prop :=
  ChunkInvariant handler stream ∧ FrameLocal handler scan stream ∧ EndsWithFrames handler stream

theorem streamDecoded_iff (stream : Bytes) :
    StreamDecoded handler scan stream ↔
      FrameLocal handler scan stream ∧ Undisturbed handler stream := by
  constructor
  · rintro ⟨hinvariant, hlocal, hends⟩
    exact ⟨hlocal, undisturbed_of_invariant handler scan stream hlocal hinvariant hends⟩
  · rintro ⟨hlocal, hundisturbed⟩
    obtain ⟨hinvariant, hends⟩ := chunkInvariant_of_local handler scan stream hlocal hundisturbed
    exact ⟨hinvariant, hlocal, hends⟩

end Handler

/-- Both decoders decode a stream independently of its chunks, frame by frame and up to its end
exactly when every frame ends what is looked for in it, no frame that is got to is refused and a
complete stream has no frame of `0x80000000` bytes or more. -/
theorem streamDecoded_iff_selfContained (addressText : AddressText) (stream : Bytes) :
    (StreamDecoded (CommandDecoder.decode addressText) CommandDecoder.scan stream ↔
        (∀ frame ∈ frames stream, CommandDecoder.selfContained frame = true) ∧
          Undisturbed (CommandDecoder.decode addressText) stream) ∧
      (StreamDecoded ReplyDecoder.decode ReplyDecoder.scan stream ↔
        (∀ frame ∈ frames stream, ReplyDecoder.selfContained frame = true) ∧
          Undisturbed ReplyDecoder.decode stream) := by
  constructor
  · rw [streamDecoded_iff, FrameLocal]
    simp only [CommandDecoder.isLocal_decode]
  · rw [streamDecoded_iff, FrameLocal]
    simp only [and_iff_left (ReplyDecoder.scansWithin _), ReplyDecoder.isLocal_decode]

/-- No address is written as text. -/
def noAddressText : AddressText := ⟨fun _ => none, fun _ => .empty, fun _ => none, fun _ => .empty⟩

/-- A define-macro frame without its context takes the byte behind it for the context, and an
add-recipient frame without its NUL goes on with the bytes behind it. -/
theorem not_streamDecoded :
    ¬ StreamDecoded (CommandDecoder.decode noAddressText) CommandDecoder.scan
        [0, 0, 0, 1, 68, 67] ∧
      ¬ StreamDecoded ReplyDecoder.decode ReplyDecoder.scan [0, 0, 0, 2, 43, 97, 67] := by
  constructor
  · rintro ⟨hinvariant, -, -⟩
    obtain ⟨hreport, -, -⟩ := hinvariant [⟨[0, 0, 0, 1, 68, 67], fun _ _ => 0⟩]
      [⟨[0, 0, 0, 1, 68], fun _ _ => 0⟩, ⟨[67], fun _ _ => 0⟩] rfl rfl
    have hsignals := congrArg (fun report => report.signals.length) hreport
    exact absurd hsignals (by decide +kernel)
  · rintro ⟨hinvariant, -, -⟩
    obtain ⟨hreport, -, -⟩ := hinvariant [⟨[0, 0, 0, 2, 43, 97, 67], fun _ _ => 0⟩]
      [⟨[0, 0, 0, 2, 43, 97], fun _ _ => 0⟩, ⟨[67], fun _ _ => 0⟩] rfl rfl
    have hsignals := congrArg Report.signals hreport
    exact absurd hsignals (by decide +kernel)

end MilterManager.Codec
