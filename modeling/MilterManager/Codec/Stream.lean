import MilterManager.Codec.Locality

/-!
# The decoder reads its stream frame by frame

When every frame of a stream decides alone, the calls of `milter_decoder_decode` amount to reading
the frames one by one, however the stream is cut into chunks.
-/

namespace MilterManager.Codec

open MilterManager.Base MilterManager.Core

variable {σ : Type} (handler : Handler σ)

/-- What the handler does with a frame that ends the buffer. -/
def meaning (frame : Bytes) : Except Failure (Emission σ) :=
  handler (.atFrame frame [] fun _ => 0) frame.length

/-- The handler returns `TRUE` for the frame. -/
def Accepts (frame : Bytes) : Prop := ∃ emission, meaning handler frame = .ok emission

/-- A length from here on is negative as `gint32`. -/
def lengthLimit : Nat := 0x80000000

/-- The frames of a stream read one by one. -/
abbrev reading (stream : Bytes) : Reading Failure (Emission σ) :=
  read lengthLimit (meaning handler) stream

/-- What the feeder of a decoder gets to know: the signals, the first error set and the first
result that is not `TRUE`. -/
structure Report (σ : Type) where
  signals : List σ
  error : Option DecoderError
  outcome : Outcome

/-- The report about the calls of a run. -/
def report (decodings : List (Decoding σ)) : Report σ where
  signals := decodings.flatMap (·.signals)
  error := decodings.findSome? (·.error)
  outcome := ((decodings.map (·.outcome)).find? (· != .success)).getD .success

/-- The failure of a handler as the result of the call. -/
def Failure.outcome : Failure → Outcome
  | .overrun => .overrun
  | _ => .failure

/-- The error that a failure sets. -/
def Failure.error? : Failure → Option DecoderError
  | .error e => some e
  | .silent | .overrun => none

/-- The result of a reading. -/
def readingOutcome (reading : Reading Failure (Emission σ)) : Outcome :=
  match reading.rest with
  | .ok _ => .success
  | .error failure => failure.outcome

/-- The first error of a reading. -/
def readingError (reading : Reading Failure (Emission σ)) : Option DecoderError :=
  reading.items.findSome? (·.error) <|>
    match reading.rest with
    | .ok _ => none
    | .error failure => failure.error?

/-- The report about a reading. -/
def readingReport (reading : Reading Failure (Emission σ)) : Report σ where
  signals := reading.items.map (·.signal)
  error := readingError reading
  outcome := readingOutcome reading

/-- The decoder holds these bytes of the stream. -/
def Decoder.Holds (decoder : Decoder) (pending : Bytes) : Prop :=
  match decoder.state with
  | .start => decoder.buffer = pending
  | .commandLength => decoder.buffer = pending ∧ decoder.buffer ≠ []
  | .commandContent =>
      ∃ word, word.length = 4 ∧ pending = word ++ decoder.buffer ∧
        decoder.commandLength = signedLength (ofBigEndian word)
  | .error => False

/-- The decoder waits for more bytes. -/
def Decoder.Waits (decoder : Decoder) : Prop :=
  match decoder.state with
  | .start => decoder.buffer = []
  | .commandLength => decoder.buffer.length < 4
  | .commandContent => decoder.commandLength < 0 ∨ decoder.buffer.length < decoder.commandLength
  | .error => False

/-- A bound on the rounds of the loop. -/
def Decoder.weight (decoder : Decoder) : Nat :=
  decoder.buffer.length +
    match decoder.state with
    | .start => 3
    | .commandLength => 2
    | .commandContent => 4
    | .error => 0

/-- What the loop does with the bytes that the decoder holds, behind the signals and the error of
before: it waits, or a handler takes the next frame in front of the rest of the buffer. -/
inductive Walk (residue : Residue) :
    Bytes → List σ → Option DecoderError → Decoding σ → Prop where
  | waits {pending : Bytes} {signals : List σ} {error : Option DecoderError} (decoder : Decoder)
      (hholds : decoder.Holds pending) (hwaits : decoder.Waits) :
      Walk residue pending signals error ⟨decoder, signals, error, .success⟩
  | accepts {pending frame rest : Bytes} {signals : List σ} {error : Option DecoderError}
      {decoding : Decoding σ} {emission : Emission σ} (buffer : Bytes)
      (hnext : nextFrame pending = some (frame, rest)) (hlimit : frame.length < lengthLimit)
      (hresult : handler (.atFrame frame rest (residue buffer)) frame.length = .ok emission)
      (hrest : Walk residue rest (signals ++ [emission.signal]) (error <|> emission.error)
        decoding) :
      Walk residue pending signals error decoding
  | refuses {pending frame rest : Bytes} {signals : List σ} {error : Option DecoderError}
      {failure : Failure} (buffer : Bytes) (decoder : Decoder)
      (hnext : nextFrame pending = some (frame, rest)) (hlimit : frame.length < lengthLimit)
      (hresult : handler (.atFrame frame rest (residue buffer)) frame.length = .error failure)
      (hstate : failure ≠ .overrun → decoder.state = .error) :
      Walk residue pending signals error
        ⟨decoder, signals, error <|> failure.error?, failure.outcome⟩

/-- What a call has done is what a reading says, behind what was done before. -/
structure Reads (signals : List σ) (error : Option DecoderError) (decoding : Decoding σ)
    (reading : Reading Failure (Emission σ)) : Prop where
  signals : decoding.signals = signals ++ reading.items.map (·.signal)
  error : decoding.error = (error <|> readingError reading)
  outcome : decoding.outcome = readingOutcome reading
  decoder : match reading.rest with
    | .ok pending => decoding.decoder.Holds pending ∧ decoding.decoder.Waits
    | .error .overrun => True
    | .error _ => decoding.decoder.state = .error

theorem signedLength_of_lt (n : Nat) (h : n < lengthLimit) : signedLength n = n := by
  exact if_pos h

theorem signedLength_of_le (n : Nat) (h : lengthLimit ≤ n) (hlt : n < 0x100000000) :
    signedLength n < 0 := by
  have hneg : ¬ n < 0x80000000 := Nat.not_lt.mpr h
  rw [signedLength, if_neg hneg]
  omega

theorem nextFrame_word (word buffer : Bytes) (hword : word.length = 4) :
    nextFrame (word ++ buffer) =
      if buffer.length < ofBigEndian word then none
      else some (buffer.take (ofBigEndian word), buffer.drop (ofBigEndian word)) := by
  have htake : (word ++ buffer).take 4 = word := by
    rw [← hword, List.take_left]
  have hdrop : (word ++ buffer).drop 4 = buffer := by
    rw [← hword, List.drop_left]
  rw [nextFrame, if_neg (by rw [List.length_append]; omega), htake, hdrop]

theorem nextFrame_of_length_lt (stream : Bytes) (h : stream.length < 4) :
    nextFrame stream = none := by
  rw [nextFrame, if_pos h]

/-- A decoder that waits has no frame, or one whose length it takes to be negative. -/
theorem length_of_waits (decoder : Decoder) (pending : Bytes) (hholds : decoder.Holds pending)
    (hwaits : decoder.Waits) {frame rest : Bytes} (hnext : nextFrame pending = some (frame, rest)) :
    lengthLimit ≤ frame.length := by
  obtain ⟨state, buffer, commandLength⟩ := decoder
  cases state with
  | start =>
      obtain rfl : buffer = pending := hholds
      obtain rfl : buffer = [] := hwaits
      cases hnext
  | commandLength =>
      obtain ⟨rfl, -⟩ : buffer = pending ∧ buffer ≠ [] := hholds
      rw [nextFrame_of_length_lt _ hwaits] at hnext
      cases hnext
  | commandContent =>
      obtain ⟨word, hword, rfl, hlength⟩ := hholds
      have hwait : commandLength < 0 ∨ (buffer.length : Int) < commandLength := hwaits
      have hlt := ofBigEndian_lt word hword
      simp only at hlength hnext
      rw [nextFrame_word _ _ hword] at hnext
      by_cases hshort : buffer.length < ofBigEndian word
      · rw [if_pos hshort] at hnext
        cases hnext
      · rw [if_neg hshort] at hnext
        obtain ⟨rfl, rfl⟩ := Prod.mk.inj (Option.some.inj hnext)
        rw [List.length_take]
        by_contra hnot
        rw [signedLength_of_lt _ (by omega)] at hlength
        omega
  | error => exact absurd hholds id

theorem reading_of_waits (decoder : Decoder) (pending : Bytes) (hholds : decoder.Holds pending)
    (hwaits : decoder.Waits) : reading handler pending = ⟨[], .ok pending⟩ := by
  cases hnext : nextFrame pending with
  | none => exact read_of_none _ _ hnext
  | some parts =>
      obtain ⟨frame, rest⟩ := parts
      have hlimit := length_of_waits decoder pending hholds hwaits hnext
      rw [reading, read_of_some _ _ hnext, if_pos hlimit]

theorem orElse_assoc {α : Type} (a b c : Option α) : ((a <|> b) <|> c) = (a <|> (b <|> c)) := by
  cases a <;> rfl

theorem orElse_none {α : Type} (a : Option α) : (a <|> none) = a := by
  cases a <;> rfl

/-- A decoder that has the bytes of a content holds a frame. -/
theorem nextFrame_of_holds {buffer pending : Bytes} {commandLength : Int}
    (hholds : Decoder.Holds ⟨.commandContent, buffer, commandLength⟩ pending)
    (henough : ¬(commandLength < 0 ∨ (buffer.length : Int) < commandLength)) :
    ∃ n : Nat, commandLength = n ∧ n < lengthLimit ∧ (buffer.take n).length = n ∧
      nextFrame pending = some (buffer.take n, buffer.drop n) := by
  obtain ⟨word, hword, hpending, hlength⟩ := hholds
  simp only at hpending hlength
  have hlt := ofBigEndian_lt word hword
  have hlimit : ofBigEndian word < lengthLimit := by
    by_contra hnot
    have := signedLength_of_le _ (Nat.not_lt.mp hnot) hlt
    omega
  rw [signedLength_of_lt _ hlimit] at hlength
  rw [hpending]
  refine ⟨ofBigEndian word, hlength, hlimit, ?_, ?_⟩
  · rw [List.length_take]
    omega
  · rw [nextFrame_word _ _ hword, if_neg (by omega)]

/-- The loop walks over the frames that the decoder holds. -/
theorem walk_decodeLoop (residue : Residue) (fuel : Nat) (decoder : Decoder) (pending : Bytes)
    (signals : List σ) (error : Option DecoderError) (hholds : decoder.Holds pending)
    (hfuel : decoder.weight < fuel) :
    Walk handler residue pending signals error
      (decodeLoop handler residue fuel ⟨decoder, signals, error, .success⟩) := by
  induction fuel generalizing decoder pending signals error with
  | zero => omega
  | succ fuel ih =>
      obtain ⟨state, buffer, commandLength⟩ := decoder
      cases state with
      | error => exact absurd hholds id
      | start =>
          obtain rfl : buffer = pending := hholds
          rw [decodeLoop_start]
          by_cases hempty : buffer.length = 0
          · rw [if_pos hempty]
            exact .waits _ rfl (List.length_eq_zero_iff.mp hempty)
          · rw [if_neg hempty]
            have hne : buffer ≠ [] := fun hnil => hempty (by rw [hnil]; rfl)
            have hholds : Decoder.Holds ⟨.commandLength, buffer, commandLength⟩ buffer := ⟨rfl, hne⟩
            apply ih _ _ _ _ hholds
            simp only [Decoder.weight] at hfuel ⊢
            omega
      | commandLength =>
          obtain ⟨rfl, hne⟩ : buffer = pending ∧ buffer ≠ [] := hholds
          rw [decodeLoop_commandLength]
          by_cases hshort : buffer.length < 4
          · rw [if_pos hshort]
            exact .waits _ ⟨rfl, hne⟩ hshort
          · rw [if_neg hshort]
            have hword : (buffer.take 4).length = 4 := by
              rw [List.length_take]
              omega
            have hholds : Decoder.Holds ⟨.commandContent, buffer.drop 4,
                signedLength (ofBigEndian (buffer.take 4))⟩ buffer :=
              ⟨buffer.take 4, hword, (List.take_append_drop 4 buffer).symm, rfl⟩
            apply ih _ _ _ _ hholds
            simp only [Decoder.weight, List.length_drop] at hfuel ⊢
            omega
      | commandContent =>
          rw [decodeLoop_commandContent]
          by_cases hmore : commandLength < 0 ∨ (buffer.length : Int) < commandLength
          · rw [if_pos hmore]
            exact .waits _ hholds hmore
          · rw [if_neg hmore]
            obtain ⟨n, rfl, hlimit, hlength, hnext⟩ := nextFrame_of_holds hholds hmore
            have hshort : (buffer.take n).length < lengthLimit := by omega
            have hmemory : Memory.mk (buffer ++ [0]) (residue buffer) =
                .atFrame (buffer.take n) (buffer.drop n) (residue buffer) := by
              rw [Memory.atFrame, List.take_append_drop]
            rw [hmemory]
            cases hresult : handler (.atFrame (buffer.take n) (buffer.drop n) (residue buffer))
                (n : Nat) with
            | ok emission =>
                apply Walk.accepts buffer hnext hshort (by rw [hlength]; exact hresult)
                apply ih
                · rw [Int.toNat_natCast]
                  rfl
                · simp only [Decoder.weight, Int.toNat_natCast, List.length_drop] at hfuel ⊢
                  omega
            | error failure =>
                have hrefuses : ∀ decoder : Decoder, (failure ≠ .overrun → decoder.state = .error) →
                    Walk handler residue pending signals error
                      ⟨decoder, signals, error <|> failure.error?, failure.outcome⟩ :=
                  fun decoder hstate => .refuses buffer decoder hnext hshort
                    (by rw [hlength]; exact hresult) hstate
                cases failure with
                | error e => exact hrefuses _ fun _ => rfl
                | silent =>
                    have hsilent := hrefuses ⟨.error, buffer, n⟩ fun _ => rfl
                    rwa [Failure.error?, orElse_none] at hsilent
                | overrun =>
                    have hoverrun := hrefuses ⟨.commandContent, buffer, n⟩ fun hne => absurd rfl hne
                    rwa [Failure.error?, orElse_none] at hoverrun

/-- What a reading says when an accepted frame comes before it. -/
theorem Reads.cons {signals : List σ} {error : Option DecoderError} {decoding : Decoding σ}
    {emission : Emission σ} {reading : Reading Failure (Emission σ)}
    (h : Reads (signals ++ [emission.signal]) (error <|> emission.error) decoding reading) :
    Reads signals error decoding ⟨emission :: reading.items, reading.rest⟩ where
  signals := by
    rw [h.signals, List.map_cons, List.append_assoc, List.singleton_append]
  error := by
    rw [h.error, orElse_assoc]
    congr 1
    simp only [readingError, List.findSome?_cons]
    cases emission.error <;> rfl
  outcome := h.outcome
  decoder := h.decoder

theorem Walk.signals_le {handler : Handler σ} {residue : Residue} {pending : Bytes}
    {signals : List σ} {error : Option DecoderError} {decoding : Decoding σ}
    (h : Walk handler residue pending signals error decoding) :
    signals.length ≤ decoding.signals.length := by
  induction h with
  | waits => exact Nat.le_refl _
  | refuses => exact Nat.le_refl _
  | accepts _ _ _ _ _ ih =>
      rw [List.length_append] at ih
      omega

/-- Over frames that decide alone a walk is the reading of the frames. -/
theorem Walk.reads {residue : Residue} {pending : Bytes} {signals : List σ}
    {error : Option DecoderError} {decoding : Decoding σ}
    (h : Walk handler residue pending signals error decoding)
    (hlocal : ∀ frame ∈ frames pending, IsLocal handler frame) :
    Reads signals error decoding (reading handler pending) := by
  -- what the handler does with the frame in the buffer is its meaning
  have hmeaning : ∀ {pending frame rest : Bytes} (residue : Nat → UInt8),
      nextFrame pending = some (frame, rest) →
      (∀ frame ∈ frames pending, IsLocal handler frame) →
      handler (.atFrame frame rest residue) frame.length = meaning handler frame := by
    intro pending frame rest residue hnext hlocal
    have hmem : frame ∈ frames pending := by
      rw [frames_of_some hnext]
      exact List.mem_cons_self
    exact hlocal frame hmem rest residue [] fun _ => 0
  induction h with
  | waits decoder hholds hwaits =>
      rw [reading_of_waits handler decoder _ hholds hwaits]
      exact ⟨(List.append_nil _).symm, (orElse_none _).symm, rfl, hholds, hwaits⟩
  | accepts buffer hnext hlimit hresult _ ih =>
      rw [hmeaning _ hnext hlocal] at hresult
      rw [reading, read_of_some _ _ hnext, if_neg (Nat.not_le.mpr hlimit), hresult]
      apply Reads.cons
      apply ih
      intro frame hframe
      apply hlocal
      rw [frames_of_some hnext]
      exact List.mem_cons_of_mem _ hframe
  | @refuses _ _ _ _ _ failure buffer decoder hnext hlimit hresult hstate =>
      rw [hmeaning _ hnext hlocal] at hresult
      rw [reading, read_of_some _ _ hnext, if_neg (Nat.not_le.mpr hlimit), hresult]
      refine ⟨(List.append_nil _).symm, rfl, rfl, ?_⟩
      cases failure with
      | error e => exact hstate nofun
      | silent => exact hstate nofun
      | overrun => trivial

/-- One call walks on over the bytes that the decoder holds and its chunk. -/
theorem walk_decode (decoder : Decoder) (pending : Bytes) (call : Call)
    (hholds : decoder.Holds pending) (hwaits : decoder.Waits) :
    Walk handler call.residue (pending ++ call.chunk) [] none
      (decoder.decode handler call.residue call.chunk) := by
  unfold Decoder.decode
  by_cases hempty : call.chunk.length = 0
  · rw [if_pos hempty, List.length_eq_zero_iff.mp hempty, List.append_nil]
    exact .waits decoder hholds hwaits
  · rw [if_neg hempty]
    have hne : decoder.buffer ++ call.chunk ≠ [] := by
      intro hnil
      exact hempty (by rw [(List.append_eq_nil_iff.mp hnil).2]; rfl)
    have hmore : Decoder.Holds { decoder with buffer := decoder.buffer ++ call.chunk }
        (pending ++ call.chunk) := by
      obtain ⟨state, buffer, commandLength⟩ := decoder
      cases state with
      | start =>
          obtain rfl : buffer = pending := hholds
          rfl
      | commandLength =>
          obtain ⟨rfl, -⟩ : buffer = pending ∧ buffer ≠ [] := hholds
          exact ⟨rfl, hne⟩
      | commandContent =>
          obtain ⟨word, hword, rfl, hlength⟩ := hholds
          exact ⟨word, hword, List.append_assoc _ _ _, hlength⟩
      | error => exact absurd hholds id
    apply walk_decodeLoop handler call.residue _ _ _ _ _ hmore
    obtain ⟨state, buffer, commandLength⟩ := decoder
    cases state <;> simp only [Decoder.weight] <;> omega

/-- One call reads on from the bytes that the decoder holds. -/
theorem reads_decode (decoder : Decoder) (pending : Bytes) (call : Call)
    (hholds : decoder.Holds pending) (hwaits : decoder.Waits)
    (hlocal : ∀ frame ∈ frames (pending ++ call.chunk), IsLocal handler frame) :
    Reads [] none (decoder.decode handler call.residue call.chunk)
      (reading handler (pending ++ call.chunk)) :=
  (walk_decode handler decoder pending call hholds hwaits).reads handler hlocal

/-- The bytes of the calls. -/
def fed (calls : List Call) : Bytes := calls.flatMap (·.chunk)

/-- The decoder behind a run. -/
def Decoder.finally (decoder : Decoder) (decodings : List (Decoding σ)) : Decoder :=
  match decodings.getLast? with
  | some decoding => decoding.decoder
  | none => decoder

/-- The result of the last call of a run. -/
def lastOutcome (decodings : List (Decoding σ)) : Outcome :=
  match decodings.getLast? with
  | some decoding => decoding.outcome
  | none => .success

theorem report_cons (decoding : Decoding σ) (decodings : List (Decoding σ)) :
    report (decoding :: decodings) =
      ⟨decoding.signals ++ (report decodings).signals,
        decoding.error <|> (report decodings).error,
        if decoding.outcome = .success then (report decodings).outcome else decoding.outcome⟩ := by
  unfold report
  rw [List.flatMap_cons, List.findSome?_cons, List.map_cons, List.find?_cons]
  congr 1
  · cases decoding.error <;> rfl
  · cases decoding.outcome <;> rfl

theorem finally_cons (decoder : Decoder) (decoding : Decoding σ) (decodings : List (Decoding σ)) :
    decoder.finally (decoding :: decodings) = decoding.decoder.finally decodings := by
  cases decodings with
  | nil => rfl
  | cons next rest =>
      rw [Decoder.finally, Decoder.finally, List.getLast?_cons_cons]
      cases h : (next :: rest).getLast? with
      | none => simp at h
      | some last => rfl

theorem decode_of_error (residue : Residue) (decoder : Decoder) (chunk : Bytes)
    (h : decoder.state = .error) :
    ∃ buffer, decoder.decode handler residue chunk =
      ⟨⟨.error, buffer, decoder.commandLength⟩, [], none, .success⟩ := by
  obtain ⟨state, buffer, commandLength⟩ := decoder
  obtain rfl : state = .error := h
  unfold Decoder.decode
  by_cases hempty : chunk.length = 0
  · exact ⟨buffer, by rw [if_pos hempty]⟩
  · exact ⟨buffer ++ chunk, by rw [if_neg hempty]; rfl⟩

/-- A decoder that has failed goes on with results of `TRUE` and without signals and errors. -/
theorem decodeAll_of_error (decoder : Decoder) (calls : List Call) (h : decoder.state = .error) :
    report (decoder.decodeAll handler calls) = ⟨[], none, .success⟩ ∧
      (decoder.finally (decoder.decodeAll handler calls)).state = .error ∧
      ∀ decoding ∈ decoder.decodeAll handler calls, decoding.outcome = .success := by
  induction calls generalizing decoder with
  | nil => exact ⟨rfl, h, by simp [Decoder.decodeAll]⟩
  | cons call calls ih =>
      obtain ⟨buffer, hdecode⟩ := decode_of_error handler call.residue decoder call.chunk h
      obtain ⟨hreport, hstate, hall⟩ := ih ⟨.error, buffer, decoder.commandLength⟩ rfl
      have hrun : decoder.decodeAll handler (call :: calls) =
          ⟨⟨.error, buffer, decoder.commandLength⟩, [], none, .success⟩ ::
            Decoder.decodeAll handler ⟨.error, buffer, decoder.commandLength⟩ calls := by
        rw [Decoder.decodeAll, hdecode]
        rfl
      rw [hrun]
      refine ⟨?_, ?_, ?_⟩
      · rw [report_cons, hreport]
        rfl
      · rw [finally_cons]
        exact hstate
      · intro decoding hdecoding
        cases hdecoding with
        | head => rfl
        | tail _ hdecoding => exact hall decoding hdecoding

/-- The report about a reading that goes on. -/
theorem readingReport_append (items : List (Emission σ)) (left : Bytes)
    (next : Reading Failure (Emission σ)) :
    readingReport ⟨items ++ next.items, next.rest⟩ =
      ⟨items.map (·.signal) ++ (readingReport next).signals,
        readingError ⟨items, .ok left⟩ <|> (readingReport next).error,
        (readingReport next).outcome⟩ := by
  simp only [readingReport, List.map_append, readingError, List.findSome?_append]
  congr 1
  cases items.findSome? (·.error) <;> rfl

/-- A run has done what a reading says. -/
structure RunReads (decoder : Decoder) (decodings : List (Decoding σ))
    (reading : Reading Failure (Emission σ)) : Prop where
  report : report decodings = readingReport reading
  decoder : match reading.rest with
    | .ok pending =>
        (decoder.finally decodings).Holds pending ∧ (decoder.finally decodings).Waits ∧
          ∀ decoding ∈ decodings, decoding.outcome = .success
    | .error .overrun => True
    | .error _ =>
        (decoder.finally decodings).state = .error ∧
          ∀ decoding ∈ decodings, decoding.outcome ≠ .overrun

section Calls

variable (decoder : Decoder) (call : Call) (calls : List Call) {items : List (Emission σ)}

theorem decodeAll_cons {outcome : Outcome}
    (houtcome : (decoder.decode handler call.residue call.chunk).outcome = outcome)
    (hne : outcome ≠ .overrun) :
    decoder.decodeAll handler (call :: calls) =
      decoder.decode handler call.residue call.chunk ::
        (decoder.decode handler call.residue call.chunk).decoder.decodeAll handler calls := by
  rw [Decoder.decodeAll]
  simp only [houtcome, if_neg hne]

/-- A call that refuses a frame decides the report. -/
theorem report_refused {decoding : Decoding σ} {failure : Failure} (decodings : List (Decoding σ))
    (h : Reads [] none decoding ⟨items, .error failure⟩)
    (hsignals : (report decodings).signals = []) (herror : (report decodings).error = none) :
    report (decoding :: decodings) = readingReport ⟨items, .error failure⟩ := by
  have houtcome : decoding.outcome ≠ .success := by
    rw [h.outcome]
    cases failure <;> exact nofun
  rw [report_cons, hsignals, herror, h.signals, h.error, if_neg houtcome, h.outcome]
  simp only [readingReport, List.nil_append, List.append_nil]
  congr 1
  cases readingError ⟨items, .error failure⟩ <;> rfl

theorem runReads_refused {failure : Failure}
    (h : Reads [] none (decoder.decode handler call.residue call.chunk)
      ⟨items, .error failure⟩) :
    RunReads decoder (decoder.decodeAll handler (call :: calls)) ⟨items, .error failure⟩ := by
  -- later calls of a failed decoder add nothing
  have hfailed : failure.outcome = .failure →
      (decoder.decode handler call.residue call.chunk).decoder.state = .error →
      report (decoder.decodeAll handler (call :: calls)) = readingReport ⟨items, .error failure⟩ ∧
        (decoder.finally (decoder.decodeAll handler (call :: calls))).state = .error ∧
        ∀ decoding ∈ decoder.decodeAll handler (call :: calls), decoding.outcome ≠ .overrun := by
    intro hfailure hstate
    have houtcome : (decoder.decode handler call.residue call.chunk).outcome = .failure :=
      h.outcome.trans hfailure
    obtain ⟨hafter, hfinal, hall⟩ := decodeAll_of_error handler _ calls hstate
    rw [decodeAll_cons handler decoder call calls houtcome nofun]
    refine ⟨?_, ?_, ?_⟩
    · apply report_refused _ h
      · rw [hafter]
      · rw [hafter]
    · rw [finally_cons]
      exact hfinal
    · intro decoding hdecoding
      cases hdecoding with
      | head =>
          rw [houtcome]
          exact nofun
      | tail _ hdecoding =>
          rw [hall decoding hdecoding]
          exact nofun
  cases failure with
  | error e =>
      obtain ⟨hreport, hdecoder⟩ := hfailed rfl h.decoder
      exact ⟨hreport, hdecoder⟩
  | silent =>
      obtain ⟨hreport, hdecoder⟩ := hfailed rfl h.decoder
      exact ⟨hreport, hdecoder⟩
  | overrun =>
      have hrun : decoder.decodeAll handler (call :: calls) =
          [decoder.decode handler call.residue call.chunk] := by
        rw [Decoder.decodeAll]
        exact if_pos h.outcome
      rw [hrun]
      exact ⟨report_refused [] h rfl rfl, trivial⟩

/-- Behind a call that leaves bytes pending the other calls go on. -/
theorem runReads_pending {left : Bytes} {next : Reading Failure (Emission σ)}
    (h : Reads [] none (decoder.decode handler call.residue call.chunk)
      ⟨items, .ok left⟩)
    (hnext : RunReads (decoder.decode handler call.residue call.chunk).decoder
      ((decoder.decode handler call.residue call.chunk).decoder.decodeAll handler calls) next) :
    RunReads decoder (decoder.decodeAll handler (call :: calls))
      ⟨items ++ next.items, next.rest⟩ := by
  have houtcome : (decoder.decode handler call.residue call.chunk).outcome = .success := h.outcome
  obtain ⟨hreport, hdecoder⟩ := hnext
  rw [decodeAll_cons handler decoder call calls houtcome nofun]
  constructor
  · rw [report_cons, hreport, h.signals, h.error, if_pos houtcome,
      readingReport_append items left]
    rfl
  · cases hrest : next.rest with
    | ok last =>
        rw [hrest] at hdecoder
        obtain ⟨hholds, hwaits, hall⟩ := hdecoder
        simp only [finally_cons]
        refine ⟨hholds, hwaits, fun decoding hdecoding => ?_⟩
        cases hdecoding with
        | head => exact houtcome
        | tail _ hdecoding => exact hall decoding hdecoding
    | error failure =>
        rw [hrest] at hdecoder
        cases failure with
        | overrun => trivial
        | _ =>
            obtain ⟨hstate, hall⟩ := hdecoder
            simp only [finally_cons]
            refine ⟨hstate, fun decoding hdecoding => ?_⟩
            cases hdecoding with
            | head =>
                rw [houtcome]
                exact nofun
            | tail _ hdecoding => exact hall decoding hdecoding

end Calls

/-- However the stream is cut, the calls do what reading it frame by frame says. -/
theorem runReads_decodeAll (decoder : Decoder) (pending : Bytes) (calls : List Call)
    (hholds : decoder.Holds pending) (hwaits : decoder.Waits)
    (hlocal : ∀ frame ∈ frames (pending ++ fed calls), IsLocal handler frame) :
    RunReads decoder (decoder.decodeAll handler calls)
      (reading handler (pending ++ fed calls)) := by
  induction calls generalizing decoder pending with
  | nil =>
      rw [fed, List.flatMap_nil, List.append_nil, reading_of_waits handler decoder pending hholds
        hwaits]
      exact ⟨rfl, hholds, hwaits, by simp [Decoder.decodeAll]⟩
  | cons call calls ih =>
      have hfed : pending ++ fed (call :: calls) = (pending ++ call.chunk) ++ fed calls := by
        rw [fed, List.flatMap_cons, List.append_assoc]
        rfl
      rw [hfed] at hlocal
      have hreads := reads_decode handler decoder pending call hholds hwaits fun frame hframe =>
        hlocal frame (by
          rw [frames_append]
          exact List.mem_append_left _ hframe)
      rw [hfed, reading, read_append, Reading.resume]
      cases hreading : read lengthLimit (meaning handler) (pending ++ call.chunk) with
      | mk items rest =>
          rw [reading, hreading] at hreads
          cases rest with
          | error failure => exact runReads_refused handler decoder call calls hreads
          | ok left =>
              obtain ⟨contents, hcontents⟩ := frames_of_read lengthLimit (meaning handler)
                (pending ++ call.chunk) (by rw [hreading])
              apply runReads_pending handler decoder call calls hreads
              apply ih _ left hreads.decoder.1 hreads.decoder.2
              intro frame hframe
              apply hlocal
              rw [hcontents]
              exact List.mem_append_right _ hframe

end MilterManager.Codec
