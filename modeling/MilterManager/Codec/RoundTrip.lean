import MilterManager.Codec.ChunkInvariance
import MilterManager.Codec.Encoder
import MilterManager.Codec.Fields

/-!
# Packets that are read back

A packet is read back when feeding it to a new decoder, in whatever chunks, signals one thing and
leaves nothing behind.
-/

namespace MilterManager.Codec

open MilterManager.Base MilterManager.Core

variable {σ : Type} (handler : Handler σ)

/-- The bytes decode to exactly this signal, however they are cut, and nothing is left. -/
def ReadsBack (packet : Bytes) (signal : σ) : Prop :=
  ∀ calls : List Call, fed calls = packet →
    report (runOf handler calls) = ⟨[signal], none, .success⟩ ∧
      (Decoder.init.finally (runOf handler calls)).state = .start ∧
      (Decoder.init.finally (runOf handler calls)).buffer = []

/-- The handler signals this for the content of a frame, whatever is around the frame. -/
def Emits (content : Bytes) (signal : σ) : Prop :=
  ∀ following residue, handler (.atFrame content following residue) content.length = emit signal

/-- The handler signals this for the content of a frame behind which there is nothing or a NUL, as
the length of a frame of less than `0x1000000` bytes begins with one. -/
def EmitsBeforeNull (content : Bytes) (signal : σ) : Prop :=
  ∀ following residue, HeadNull following →
    handler (.atFrame content following residue) content.length = emit signal

variable {handler} in
theorem Emits.beforeNull {content : Bytes} {signal : σ} (h : Emits handler content signal) :
    EmitsBeforeNull handler content signal := fun following residue _ => h following residue

section Layouts

variable {tag : UInt8}

theorem emits_decodeSimple {signal : σ} {target : String} :
    Emits (decodeSimple signal target) [tag] signal := by
  intro following residue
  exact decodeSimple_atFrame following residue tag signal target []

theorem emits_decodeText {signal : CString → σ} {message : String} (text : CString)
    (h : text.bytes ≠ []) :
    Emits (decodeText signal message) (tag :: (text.bytes ++ [0])) (signal text) := by
  intro following residue
  exact decodeText_append following residue tag signal message text.bytes [] text.noNull h

theorem emits_decodeNameAndValue {signal : CString → CString → σ} (name value : CString)
    (h : name.bytes ≠ []) :
    Emits (decodeNameAndValue signal) (tag :: (name.bytes ++ 0 :: (value.bytes ++ [0])))
      (signal name value) := by
  intro following residue
  rw [decodeNameAndValue, length_fields, Memory.advance_atFrame_cons,
    decodeHeaderContent_append following residue name.bytes value.bytes [] name.noNull h
      value.noNull]
  rfl

theorem emits_decodeChunk {signal : Bytes → Int → σ} (chunk : Bytes) (h : 0 ∉ chunk) :
    EmitsBeforeNull (decodeChunk signal) (tag :: chunk) (signal chunk chunk.length) := by
  intro following residue hhead
  have hstring := (Memory.string_atFrame_iff following residue ⟨chunk, h⟩).mpr hhead
  rw [decodeChunk_atFrame following residue tag signal chunk, hstring]

end Layouts

theorem optionOf_bytes (option : MilterOption) (h : option.version < 0x100000000) (more : Bytes) :
    optionOf (bigEndian option.version ++ bigEndian option.action.toNat ++
      bigEndian option.step.toNat ++ more) = option := by
  have haction : option.action.toNat < 0x100000000 := option.action.isLt
  have hstep : option.step.toNat < 0x100000000 := option.step.isLt
  obtain ⟨version, action, step⟩ := option
  have hversionWord : optionOf (bigEndian version ++ bigEndian action.toNat ++
      bigEndian step.toNat ++ more) =
      ⟨ofBigEndian (bigEndian version), BitVec.ofNat 32 (ofBigEndian (bigEndian action.toNat)),
        BitVec.ofNat 32 (ofBigEndian (bigEndian step.toNat))⟩ := rfl
  rw [hversionWord, ofBigEndian_bigEndian _ h, ofBigEndian_bigEndian _ haction,
    ofBigEndian_bigEndian _ hstep, BitVec.ofNat_toNat, BitVec.ofNat_toNat, BitVec.setWidth_eq,
    BitVec.setWidth_eq]

theorem state_of_holds_nil (decoder : Decoder) (h : decoder.Holds []) :
    decoder.state = .start ∧ decoder.buffer = [] := by
  obtain ⟨state, buffer, commandLength⟩ := decoder
  cases state with
  | start => exact ⟨rfl, h⟩
  | commandLength =>
      obtain ⟨rfl, hne⟩ : buffer = [] ∧ buffer ≠ [] := h
      exact absurd rfl hne
  | commandContent =>
      obtain ⟨word, hword, hnil, -⟩ := h
      rw [(List.append_eq_nil_iff.mp hnil.symm).1] at hword
      cases hword
  | error => exact absurd h id

theorem nextFrame_frame_nil (content : Bytes) (h : content.length < lengthLimit) :
    nextFrame (frame content) = some (content, []) := by
  have hnext := nextFrame_frame content [] (by unfold lengthLimit at h; omega)
  rwa [List.append_nil] at hnext

/-- A word that is too large for its four bytes is cut. -/
theorem ofBigEndian_bigEndian_mod (n : Nat) : ofBigEndian (bigEndian n) = n % 0x100000000 := by
  simp only [ofBigEndian, bigEndian, List.foldl_cons, List.foldl_nil, UInt8.toNat_ofNat']
  omega

/-- A walk that ends well with an empty buffer has gone over a frame for each signal. -/
theorem Walk.exists_next {residue : Residue} {pending : Bytes} {signals : List σ}
    {error : Option DecoderError} {decoding : Decoding σ}
    (h : Walk handler residue pending signals error decoding) (hne : pending ≠ [])
    (houtcome : decoding.outcome = .success) (hstate : decoding.decoder.state = .start)
    (hbuffer : decoding.decoder.buffer = []) :
    ∃ frame rest emission buffer, nextFrame pending = some (frame, rest) ∧
      frame.length < lengthLimit ∧
      handler (.atFrame frame rest (residue buffer)) frame.length = .ok emission ∧
      Walk handler residue rest (signals ++ [emission.signal]) (error <|> emission.error)
        decoding := by
  cases h with
  | waits decoder hholds hwaits =>
      obtain ⟨state, buffer, commandLength⟩ := decoder
      obtain rfl : state = .start := hstate
      obtain rfl : buffer = pending := hholds
      exact absurd hbuffer hne
  | accepts buffer hnext hlimit hresult hrest =>
      exact ⟨_, _, _, buffer, hnext, hlimit, hresult, hrest⟩
  | @refuses _ _ _ _ _ failure buffer decoder hnext hlimit hresult hdecoder =>
      cases failure <;> cases houtcome

theorem Walk.of_nil {residue : Residue} {signals : List σ} {error : Option DecoderError}
    {decoding : Decoding σ} (h : Walk handler residue [] signals error decoding) :
    decoding.signals = signals ∧ decoding.error = error := by
  cases h with
  | waits => exact ⟨rfl, rfl⟩
  | accepts _ hnext => cases hnext
  | refuses _ _ hnext => cases hnext

theorem frame_ne_nil (content : Bytes) : frame content ≠ [] := List.cons_ne_nil _ _

/-- A content is short enough and signalled by the handler when going over its frame signals this
one thing and leaves nothing. -/
theorem emit_of_walk {content : Bytes} {signal : σ}
    (hwalk : ∀ residue : Nat → UInt8, ∃ decoding : Decoding σ,
      Walk handler (fun _ => residue) (frame content) [] none decoding ∧
        decoding.outcome = .success ∧ decoding.decoder.state = .start ∧
        decoding.decoder.buffer = [] ∧ decoding.signals = [signal] ∧ decoding.error = none) :
    content.length < lengthLimit ∧ ∀ residue,
      handler (.atFrame content [] residue) content.length = emit signal := by
  have hne := frame_ne_nil content
  have hlength : content.length < lengthLimit := by
    obtain ⟨decoding, hwalk, houtcome, hstate, hbuffer, hsignals, -⟩ := hwalk fun _ => 0
    obtain ⟨first, rest, emission, buffer, hnext, hlimit, -, hrest⟩ :=
      hwalk.exists_next handler hne houtcome hstate hbuffer
    by_cases hword : content.length < 0x100000000
    · rw [← List.append_nil (frame content), nextFrame_frame _ _ hword] at hnext
      obtain ⟨rfl, rfl⟩ := Prod.mk.inj (Option.some.inj hnext)
      exact hlimit
    · -- the rest of a content whose length is cut is taken for other frames
      exfalso
      have hmod := Nat.mod_lt content.length (show 0 < 0x100000000 by decide)
      have hcut : ¬ content.length < content.length % 0x100000000 := by omega
      rw [frame, nextFrame_word _ _ rfl, ofBigEndian_bigEndian_mod, if_neg hcut] at hnext
      obtain ⟨-, hdrop⟩ := Prod.mk.inj (Option.some.inj hnext)
      have hrestNe : rest ≠ [] := by
        intro hnil
        rw [hnil, List.drop_eq_nil_iff] at hdrop
        omega
      obtain ⟨_, _, _, _, -, -, -, hlast⟩ :=
        hrest.exists_next handler hrestNe houtcome hstate hbuffer
      have hle := hlast.signals_le
      rw [hsignals] at hle
      simp at hle
  refine ⟨hlength, fun residue => ?_⟩
  obtain ⟨decoding, hwalk, houtcome, hstate, hbuffer, hsignals, herror⟩ := hwalk residue
  obtain ⟨first, rest, emission, buffer, hnext, -, hresult, hrest⟩ :=
    hwalk.exists_next handler hne houtcome hstate hbuffer
  rw [nextFrame_frame_nil content hlength] at hnext
  obtain ⟨rfl, rfl⟩ := Prod.mk.inj (Option.some.inj hnext)
  obtain ⟨hsignal, hemission⟩ := hrest.of_nil
  rw [hresult]
  obtain ⟨emitted, e⟩ := emission
  rw [hsignals] at hsignal
  rw [herror] at hemission
  obtain rfl : signal = emitted := by simpa using hsignal
  obtain rfl : none = e := hemission
  rfl

theorem runOf_singleton (call : Call) :
    runOf handler [call] = [Decoder.init.decode handler call.residue call.chunk] := by
  rw [runOf, Decoder.decodeAll]
  split
  · rfl
  · rfl

/-- The report about one call. -/
theorem of_report_singleton {decoding : Decoding σ} {signals : List σ}
    (h : report [decoding] = ⟨signals, none, .success⟩) :
    decoding.signals = signals ∧ decoding.error = none ∧ decoding.outcome = .success := by
  rw [report_cons] at h
  obtain ⟨hsignals, herror, houtcome⟩ := Report.mk.inj h
  refine ⟨?_, ?_, ?_⟩
  · simpa [report] using hsignals
  · cases hsome : decoding.error with
    | none => rfl
    | some e =>
        rw [hsome] at herror
        cases herror
  · by_contra hnot
    rw [if_neg hnot] at houtcome
    exact hnot houtcome

/-- What is read back is short enough and signalled by the handler when it is all there is. -/
theorem ReadsBack.emit {content : Bytes} {signal : σ}
    (h : ReadsBack handler (frame content) signal) :
    content.length < lengthLimit ∧ ∀ residue,
      handler (.atFrame content [] residue) content.length = emit signal := by
  apply emit_of_walk
  intro residue
  obtain ⟨hreport, hstate, hbuffer⟩ := h [⟨frame content, fun _ => residue⟩] (List.append_nil _)
  rw [runOf_singleton] at hreport hstate hbuffer
  obtain ⟨hsignals, herror, houtcome⟩ := of_report_singleton hreport
  exact ⟨_, walk_decode handler .init [] ⟨frame content, fun _ => residue⟩ rfl rfl, houtcome,
    hstate,
    hbuffer, hsignals, herror⟩

end MilterManager.Codec
