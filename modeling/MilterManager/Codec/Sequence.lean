import MilterManager.Codec.RoundTrip

/-!
# Packets one behind the other

A sequence of packets is read back when, after each of them, feeding what was written so far to a
new decoder, in whatever chunks, signals one thing for each packet and leaves nothing behind. A
handler may read on behind its frame, so what follows a packet in the stream matters.
-/

namespace MilterManager.Codec

open MilterManager.Base MilterManager.Core

variable {σ : Type} (handler : Handler σ)

/-- The packets decode one by one to these signals, however they are cut. -/
def ReadsBackEach (packets : List Bytes) (signals : List σ) : Prop :=
  ∀ n, n ≤ signals.length → ∀ calls : List Call, fed calls = (packets.take n).flatten →
    report (runOf handler calls) = ⟨signals.take n, none, .success⟩ ∧
      (Decoder.init.finally (runOf handler calls)).state = .start ∧
      (Decoder.init.finally (runOf handler calls)).buffer = []

/-- The handler signals this for the content of a frame in front of any beginning of a stream. -/
def EmitsBefore (content stream : Bytes) (signal : σ) : Prop :=
  ∀ following, following <+: stream → ∀ residue,
    handler (.atFrame content following residue) content.length = emit signal

/-- The frames of contents, one behind the other. -/
def streamOf (messages : List (Bytes × σ)) : Bytes :=
  messages.flatMap fun message => frame message.1

/-- Each content is short enough and signalled in front of the frames behind it. -/
def Separate : List (Bytes × σ) → Prop
  | [] => True
  | (content, signal) :: messages =>
      (content.length < lengthLimit ∧ EmitsBefore handler content (streamOf messages) signal) ∧
        Separate messages

variable {handler} {messages : List (Bytes × σ)}

theorem streamOf_cons (content : Bytes) (signal : σ) (messages : List (Bytes × σ)) :
    streamOf ((content, signal) :: messages) = frame content ++ streamOf messages :=
  List.flatMap_cons

theorem streamOf_append (front back : List (Bytes × σ)) :
    streamOf (front ++ back) = streamOf front ++ streamOf back := List.flatMap_append

theorem nextFrame_frame_append {content : Bytes} (h : content.length < lengthLimit) (rest : Bytes) :
    nextFrame (frame content ++ rest) = some (content, rest) := by
  apply nextFrame_frame
  unfold lengthLimit at h
  omega

/-- The next frame of a beginning of the stream is the first one of the stream. -/
theorem exists_of_nextFrame {pending content rest : Bytes} (hseparate : Separate handler messages)
    (hbegins : pending <+: streamOf messages) (hnext : nextFrame pending = some (content, rest)) :
    ∃ signal messages', messages = (content, signal) :: messages' ∧
      rest <+: streamOf messages' := by
  obtain ⟨more, hmore⟩ := hbegins
  have hstream := nextFrame_append hnext more
  rw [hmore] at hstream
  cases messages with
  | nil => cases hstream
  | cons message messages =>
      obtain ⟨first, signal⟩ := message
      rw [streamOf_cons, nextFrame_frame_append hseparate.1.1] at hstream
      obtain ⟨rfl, hrest⟩ := Prod.mk.inj (Option.some.inj hstream)
      exact ⟨signal, messages, rfl, more, hrest.symm⟩

/-- Going over a beginning of the stream signals the contents whose frames are complete. -/
theorem Walk.over {residue : Residue} {pending : Bytes} {signals : List σ}
    {error : Option DecoderError} {decoding : Decoding σ}
    (hwalk : Walk handler residue pending signals error decoding) (herror : error = none)
    (hseparate : Separate handler messages) (hbegins : pending <+: streamOf messages) :
    ∃ done rest left, messages = done ++ rest ∧ pending = streamOf done ++ left ∧
      decoding.signals = signals ++ done.map Prod.snd ∧ decoding.error = none ∧
      decoding.outcome = .success ∧ decoding.decoder.Holds left ∧ decoding.decoder.Waits := by
  induction hwalk generalizing messages with
  | waits decoder hholds hwaits =>
      exact ⟨[], messages, _, rfl, rfl, (List.append_nil _).symm, herror, rfl, hholds, hwaits⟩
  | accepts buffer hnext hlimit hresult _ ih =>
      obtain ⟨signal, messages, rfl, hrest⟩ := exists_of_nextFrame hseparate hbegins hnext
      rw [hseparate.1.2 _ hrest] at hresult
      obtain rfl := Except.ok.inj hresult
      obtain ⟨done, rest, left, rfl, hleft, hsignals, hdone⟩ :=
        ih (by rw [herror]; rfl) hseparate.2 hrest
      refine ⟨(_, signal) :: done, rest, left, rfl, ?_, ?_, hdone⟩
      · obtain ⟨hlt, hpending⟩ := eq_of_nextFrame hnext
        rw [hpending, streamOf_cons, List.append_assoc, hleft]
      · rw [hsignals, List.append_assoc]
        rfl
  | refuses buffer decoder hnext hlimit hresult hstate =>
      obtain ⟨signal, messages, rfl, hrest⟩ := exists_of_nextFrame hseparate hbegins hnext
      rw [hseparate.1.2 _ hrest] at hresult
      cases hresult

theorem Separate.of_append {front back : List (Bytes × σ)}
    (h : Separate handler (front ++ back)) : Separate handler back := by
  induction front with
  | nil => exact h
  | cons message front ih => exact ih h.2

/-- A decoder that waits holds no complete frame. -/
theorem eq_nil_of_waits {decoder : Decoder} (hseparate : Separate handler messages)
    (hholds : decoder.Holds (streamOf messages)) (hwaits : decoder.Waits) : messages = [] := by
  cases messages with
  | nil => rfl
  | cons message messages =>
      obtain ⟨content, signal⟩ := message
      have hshort := hseparate.1.1
      rw [streamOf_cons] at hholds
      have hlong := length_of_waits decoder _ hholds hwaits (nextFrame_frame_append hshort _)
      omega

/-- However the stream is cut, the calls signal the contents one by one. -/
theorem decodeAll_over (calls : List Call) {decoder : Decoder} {pending : Bytes}
    (hholds : decoder.Holds pending) (hwaits : decoder.Waits)
    (hseparate : Separate handler messages)
    (hstream : pending ++ fed calls = streamOf messages) :
    report (decoder.decodeAll handler calls) = ⟨messages.map Prod.snd, none, .success⟩ ∧
      (decoder.finally (decoder.decodeAll handler calls)).Holds [] := by
  induction calls generalizing decoder pending messages with
  | nil =>
      obtain rfl : pending = streamOf messages := by
        rw [← hstream]
        exact (List.append_nil pending).symm
      obtain rfl := eq_nil_of_waits hseparate hholds hwaits
      exact ⟨rfl, hholds⟩
  | cons call calls ih =>
      have hsplit : (pending ++ call.chunk) ++ fed calls = streamOf messages := by
        rw [← hstream, List.append_assoc]
        rfl
      have hwalk := walk_decode handler decoder pending call hholds hwaits
      obtain ⟨done, rest, left, rfl, hpending, hsignals, herror, houtcome, hleft, hwaits'⟩ :=
        hwalk.over rfl hseparate ⟨_, hsplit⟩
      have hrest : left ++ fed calls = streamOf rest := by
        rw [hpending, streamOf_append, List.append_assoc] at hsplit
        exact List.append_cancel_left hsplit
      obtain ⟨hreport, hfinal⟩ := ih hleft hwaits' hseparate.of_append hrest
      rw [decodeAll_cons handler decoder call calls houtcome (by decide), report_cons, finally_cons,
        hreport, hsignals, herror, houtcome]
      refine ⟨?_, hfinal⟩
      rw [if_pos rfl, List.map_append]
      rfl

theorem Separate.take (h : Separate handler messages) (n : Nat) :
    Separate handler (messages.take n) := by
  induction messages generalizing n with
  | nil =>
      rw [List.take_nil]
      exact h
  | cons message messages ih =>
      obtain ⟨content, signal⟩ := message
      cases n with
      | zero => exact trivial
      | succ n =>
          refine ⟨⟨h.1.1, fun following hfollowing => ?_⟩, ih h.2 n⟩
          apply h.1.2
          apply hfollowing.trans
          refine ⟨streamOf (messages.drop n), ?_⟩
          rw [← streamOf_append, List.take_append_drop]

theorem flatten_packets (messages : List (Bytes × σ)) :
    (messages.map fun message => frame message.1).flatten = streamOf messages :=
  List.flatMap_def.symm

/-- Contents that are signalled in front of what follows them are read back. -/
theorem Separate.readsBackEach (h : Separate handler messages) :
    ReadsBackEach handler (messages.map fun message => frame message.1)
      (messages.map Prod.snd) := by
  intro n _ calls hcalls
  rw [← List.map_take, flatten_packets] at hcalls
  have hholds : Decoder.init.Holds [] := rfl
  have hwaits : Decoder.init.Waits := rfl
  obtain ⟨hreport, hholds⟩ := decodeAll_over calls hholds hwaits (h.take n) (by
    rw [List.nil_append, hcalls])
  rw [← List.map_take]
  exact ⟨hreport, state_of_holds_nil _ hholds⟩

theorem separate_singleton {content : Bytes} {signal : σ}
    (h : EmitsBeforeNull handler content signal) (hlength : content.length < lengthLimit) :
    Separate handler [(content, signal)] := by
  refine ⟨⟨hlength, fun following hfollowing residue => h following residue ?_⟩, trivial⟩
  rw [List.prefix_nil.mp hfollowing]
  exact fun byte hbyte => absurd hbyte (by simp)

/-- A content that is signalled is read back from its frame. -/
theorem EmitsBeforeNull.readsBack {content : Bytes} {signal : σ}
    (h : EmitsBeforeNull handler content signal) (hlength : content.length < lengthLimit) :
    ReadsBack handler (frame content) signal := by
  intro calls hcalls
  have hholds : Decoder.init.Holds [] := rfl
  have hwaits : Decoder.init.Waits := rfl
  have hstream : [] ++ fed calls = streamOf [(content, signal)] := by
    rw [List.nil_append, hcalls, streamOf_cons]
    exact (List.append_nil _).symm
  obtain ⟨hreport, hfinal⟩ :=
    decodeAll_over calls hholds hwaits (separate_singleton h hlength) hstream
  exact ⟨hreport, state_of_holds_nil _ hfinal⟩

theorem Walk.keeps {residue : Residue} {pending : Bytes} {signals : List σ}
    {error : Option DecoderError} {decoding : Decoding σ}
    (h : Walk handler residue pending signals error decoding) :
    signals <+: decoding.signals ∧ (error.isSome = true → decoding.error = error) := by
  induction h with
  | waits => exact ⟨List.prefix_rfl, fun _ => rfl⟩
  | @accepts _ _ _ signals error _ emission buffer _ _ _ _ ih =>
      refine ⟨(List.prefix_append _ _).trans ih.1, fun herror => ?_⟩
      obtain ⟨e, rfl⟩ := Option.isSome_iff_exists.mp herror
      exact ih.2 rfl
  | @refuses _ _ _ _ error =>
      refine ⟨List.prefix_rfl, fun herror => ?_⟩
      obtain ⟨e, rfl⟩ := Option.isSome_iff_exists.mp herror
      rfl

/-- A walk over a frame that ends well has signalled it in front of what followed. -/
theorem Walk.emit {content following : Bytes} {residue : Nat → UInt8} {decoding : Decoding σ}
    {signal : σ} {signals : List σ} (hlimit : content.length < lengthLimit)
    (h : Walk handler (fun _ => residue) (frame content ++ following) [] none decoding)
    (hsignals : decoding.signals <+: signal :: signals) (herror : decoding.error = none)
    (houtcome : decoding.outcome = .success) :
    handler (.atFrame content following residue) content.length = emit signal := by
  have hnext := nextFrame_frame_append hlimit following
  cases h with
  | waits decoder hholds hwaits =>
      have hlong := length_of_waits decoder _ hholds hwaits hnext
      omega
  | @accepts _ _ _ _ _ _ emission buffer hnext' _ hresult hrest =>
      rw [hnext] at hnext'
      obtain ⟨rfl, rfl⟩ := Prod.mk.inj (Option.some.inj hnext')
      obtain ⟨hkept, herror'⟩ := hrest.keeps
      obtain ⟨emitted, e⟩ := emission
      have hfirst : [emitted] <+: signal :: signals := hkept.trans hsignals
      rw [List.cons_prefix_cons] at hfirst
      have hnone : e = none := by
        cases e with
        | none => rfl
        | some e => exact absurd (herror.symm.trans (herror' rfl)) (Option.some_ne_none e).symm
      rw [hresult, hfirst.1, hnone]
      rfl
  | @refuses _ _ _ _ _ failure =>
      cases failure <;> cases houtcome

theorem exists_decodeAll_cons (decoder : Decoder) (call : Call) (calls : List Call) :
    ∃ decodings, decoder.decodeAll handler (call :: calls) =
      decoder.decode handler call.residue call.chunk :: decodings := by
  rw [Decoder.decodeAll]
  by_cases houtcome : (decoder.decode handler call.residue call.chunk).outcome = .overrun
  · exact ⟨[], if_pos houtcome⟩
  · exact ⟨_, if_neg houtcome⟩

/-- The report behind a call that signalled its part. -/
theorem report_of_cons {decoding : Decoding σ} {decodings : List (Decoding σ)}
    {front back : List σ} (h : report (decoding :: decodings) = ⟨front ++ back, none, .success⟩)
    (hsignals : decoding.signals = front) :
    report decodings = ⟨back, none, .success⟩ ∧ decoding.error = none ∧
      decoding.outcome = .success := by
  rw [report_cons, hsignals] at h
  obtain ⟨hback, herror, houtcome⟩ := Report.mk.inj h
  have hsuccess : decoding.outcome = .success := by
    by_contra hnot
    rw [if_neg hnot] at houtcome
    exact hnot houtcome
  have hnone : decoding.error = none := by
    cases hsome : decoding.error with
    | none => rfl
    | some e =>
        rw [hsome] at herror
        cases herror
  rw [hnone] at herror
  rw [if_pos hsuccess] at houtcome
  refine ⟨?_, hnone, hsuccess⟩
  have herror' : (report decodings).error = none := herror
  show (⟨(report decodings).signals, (report decodings).error, (report decodings).outcome⟩ :
    Report σ) = _
  rw [List.append_cancel_left hback, herror', houtcome]

namespace ReadsBackEach

variable {front rest : List (Bytes × σ)}
variable (h : ReadsBackEach handler ((front ++ rest).map fun message => frame message.1)
  ((front ++ rest).map Prod.snd))

include h

/-- Calls that are fed the front and a part of the rest signal just that. -/
theorem report_of_fed {more : List (Bytes × σ)} (hmore : more <+: rest) (calls : List Call)
    (hfed : fed calls = streamOf front ++ streamOf more) :
    report (runOf handler calls) = ⟨front.map Prod.snd ++ more.map Prod.snd, none, .success⟩ ∧
      (Decoder.init.finally (runOf handler calls)).state = .start ∧
      (Decoder.init.finally (runOf handler calls)).buffer = [] := by
  obtain ⟨behind, rfl⟩ := hmore
  have htake : (front ++ (more ++ behind)).take (front.length + more.length) = front ++ more := by
    rw [List.take_length_add_append, List.take_left]
  have hread := h (front.length + more.length) (by simp) calls (by
    rw [← List.map_take, flatten_packets, htake, streamOf_append]
    exact hfed)
  rwa [← List.map_take, htake, List.map_append] at hread

/-- A call with all of the front leaves a decoder that holds nothing. -/
theorem decode_front (residue : Nat → UInt8) :
    ∃ decoding : Decoding σ,
      Decoder.init.decode handler (fun _ => residue) (streamOf front) = decoding ∧
        decoding.signals = front.map Prod.snd ∧ decoding.outcome = .success ∧
        decoding.decoder.Holds [] ∧ decoding.decoder.Waits := by
  obtain ⟨hreport, hstate, hbuffer⟩ := h.report_of_fed List.nil_prefix
    [⟨streamOf front, fun _ => residue⟩] rfl
  rw [runOf_singleton] at hreport hstate hbuffer
  obtain ⟨hsignals, -, houtcome⟩ := of_report_singleton hreport
  have hinit : ∀ decoder : Decoder, decoder.state = .start → decoder.buffer = [] →
      decoder.Holds [] ∧ decoder.Waits := by
    rintro ⟨state, buffer, commandLength⟩ rfl rfl
    exact ⟨rfl, rfl⟩
  refine ⟨_, rfl, ?_, houtcome, hinit _ hstate hbuffer⟩
  rw [hsignals]
  exact List.append_nil _

/-- The call behind the front walks over its own chunk. -/
theorem exists_walk {more : List (Bytes × σ)} (hmore : more <+: rest) (residue : Nat → UInt8)
    (chunk : Bytes) (calls : List Call) (hfed : chunk ++ fed calls = streamOf more) :
    ∃ decoding decodings, Walk handler (fun _ => residue) chunk [] none decoding ∧
      report (decoding :: decodings) = ⟨more.map Prod.snd, none, .success⟩ ∧
      (calls = [] → decodings = [] ∧ decoding.decoder.state = .start ∧
        decoding.decoder.buffer = []) := by
  obtain ⟨first, hfirst, hsignals, houtcome, hholds, hwaits⟩ := h.decode_front residue
  have hall : fed (⟨streamOf front, fun _ => residue⟩ :: ⟨chunk, fun _ => residue⟩ :: calls) =
      streamOf front ++ streamOf more := by
    rw [← hfed]
    rfl
  obtain ⟨hreport, hstate, hbuffer⟩ := h.report_of_fed hmore _ hall
  have hrun := decodeAll_cons handler .init ⟨streamOf front, fun _ => residue⟩
    (⟨chunk, fun _ => residue⟩ :: calls) rfl (by rw [hfirst, houtcome]; decide)
  obtain ⟨decodings, hdecodings⟩ :=
    exists_decodeAll_cons first.decoder ⟨chunk, fun _ => residue⟩ calls
  rw [hfirst, hdecodings] at hrun
  rw [runOf, hrun] at hreport hstate hbuffer
  refine ⟨_, decodings, walk_decode handler first.decoder [] ⟨chunk, fun _ => residue⟩ hholds
    hwaits, (report_of_cons hreport hsignals).1, ?_⟩
  rintro rfl
  have hnil : decodings = [] := by
    rw [Decoder.decodeAll] at hdecodings
    split at hdecodings
    · exact (List.cons.inj hdecodings).2.symm
    · exact (List.cons.inj hdecodings).2.symm
  subst hnil
  rw [finally_cons, finally_cons] at hstate hbuffer
  exact ⟨rfl, hstate, hbuffer⟩

end ReadsBackEach

/-- What is read back is short enough and signalled in front of what follows it. -/
theorem ReadsBackEach.emitsBefore {front back : List (Bytes × σ)} {content : Bytes} {signal : σ}
    (h : ReadsBackEach handler
      ((front ++ (content, signal) :: back).map fun message => frame message.1)
      ((front ++ (content, signal) :: back).map Prod.snd)) :
    content.length < lengthLimit ∧ EmitsBefore handler content (streamOf back) signal := by
  have hone : [(content, signal)] <+: (content, signal) :: back := List.prefix_append [_] back
  have hshort : content.length < lengthLimit := by
    have hwalks : ∀ residue : Nat → UInt8, ∃ decoding : Decoding σ,
        Walk handler (fun _ => residue) (frame content) [] none decoding ∧
          decoding.outcome = .success ∧ decoding.decoder.state = .start ∧
          decoding.decoder.buffer = [] ∧ decoding.signals = [signal] ∧ decoding.error = none := by
      intro residue
      have hfed : frame content ++ fed [] = streamOf [(content, signal)] := rfl
      obtain ⟨decoding, decodings, hwalk, hreport, hlast⟩ := h.exists_walk hone residue _ [] hfed
      obtain ⟨rfl, hstate, hbuffer⟩ := hlast rfl
      obtain ⟨hsignals, herror, houtcome⟩ := of_report_singleton hreport
      exact ⟨decoding, hwalk, houtcome, hstate, hbuffer, hsignals, herror⟩
    exact (emit_of_walk handler hwalks).1
  refine ⟨hshort, fun following hfollowing residue => ?_⟩
  obtain ⟨rest, hrest⟩ := hfollowing
  have hfed : (frame content ++ following) ++ fed [⟨rest, fun _ => residue⟩] =
      streamOf ((content, signal) :: back) := by
    rw [streamOf_cons, ← hrest, List.append_assoc]
    exact congrArg _ (congrArg _ (List.append_nil rest))
  obtain ⟨decoding, decodings, hwalk, hreport, -⟩ := h.exists_walk List.prefix_rfl residue _ _ hfed
  rw [report_cons] at hreport
  obtain ⟨hsignals, herror, houtcome⟩ := Report.mk.inj hreport
  apply hwalk.emit hshort
  · exact ⟨_, hsignals⟩
  · cases hsome : decoding.error with
    | none => rfl
    | some e =>
        rw [hsome] at herror
        cases herror
  · by_contra hnot
    rw [if_neg hnot] at houtcome
    exact hnot houtcome

/-- A sequence is read back exactly when each content is short enough and signalled in front of what
follows it. -/
theorem readsBackEach_iff_separate (messages : List (Bytes × σ)) :
    ReadsBackEach handler (messages.map fun message => frame message.1) (messages.map Prod.snd) ↔
      Separate handler messages := by
  constructor
  · intro h
    have hall : ∀ front back, messages = front ++ back → Separate handler back := by
      intro front back
      induction back generalizing front with
      | nil => exact fun _ => trivial
      | cons message back ih =>
          intro hsplit
          rw [hsplit] at h
          refine ⟨h.emitsBefore, ih (front ++ [message]) ?_⟩
          rw [hsplit, List.append_assoc]
          rfl
    exact hall [] messages rfl
  · exact fun h => h.readsBackEach

section Kinds

/-- The first byte of a frame that is short enough is NUL up to three bytes of length. -/
theorem headNull_streamOf_cons {content : Bytes} (signal : σ) (messages : List (Bytes × σ))
    (h : content.length < lengthLimit) :
    HeadNull (streamOf ((content, signal) :: messages)) ↔ content.length < 0x1000000 := by
  have hhead : (streamOf ((content, signal) :: messages)).head? =
      some (UInt8.ofNat (content.length / 0x1000000)) := rfl
  have hzero : UInt8.ofNat (content.length / 0x1000000) = 0 ↔ content.length < 0x1000000 := by
    rw [← UInt8.toNat_inj, UInt8.toNat_ofNat']
    unfold lengthLimit at h
    have hnone : UInt8.toNat 0 = 0 := rfl
    omega
  rw [HeadNull, hhead, ← hzero]
  simp

/-- A length from here on does not begin with a NUL. -/
def shortLength : Nat := 0x1000000

theorem headNull_streamOf {messages : List (Bytes × σ)}
    (h : ∀ message ∈ messages, message.1.length < shortLength) : HeadNull (streamOf messages) := by
  cases messages with
  | nil => exact fun byte hbyte => absurd hbyte (by simp [streamOf])
  | cons message messages =>
      obtain ⟨content, signal⟩ := message
      have hshort := h _ List.mem_cons_self
      exact (headNull_streamOf_cons signal messages (Nat.lt_trans hshort (by decide))).mpr hshort

variable {μ : Type} {content : μ → Bytes} {signal : μ → σ} {good unended : μ → Prop}

/-- Messages of kinds of which some end in a text without a NUL. -/
theorem separate_map_iff
    (h : ∀ message stream, EmitsBefore handler (content message) stream (signal message) ↔
      good message ∧ (unended message → HeadNull stream)) (messages : List μ) :
    Separate handler (messages.map fun message => (content message, signal message)) ↔
      (∀ message ∈ messages, (content message).length < lengthLimit ∧ good message) ∧
        messages.IsChain fun message next => unended message →
          (content next).length < 0x1000000 := by
  induction messages with
  | nil => simp [Separate]
  | cons message messages ih =>
      rw [List.map_cons, Separate, h, ih, List.forall_mem_cons]
      cases messages with
      | nil => simp [HeadNull, streamOf]
      | cons next messages =>
          rw [List.isChain_cons_cons, List.forall_mem_cons]
          constructor
          · rintro ⟨⟨hlength, hgood, hhead⟩, ⟨hnext, hall⟩, hchain⟩
            refine ⟨⟨⟨hlength, hgood⟩, hnext, hall⟩, fun hunended => ?_, hchain⟩
            exact (headNull_streamOf_cons _ _ hnext.1).mp (hhead hunended)
          · rintro ⟨⟨⟨hlength, hgood⟩, hnext, hall⟩, hshort, hchain⟩
            refine ⟨⟨hlength, hgood, fun hunended => ?_⟩, ⟨hnext, hall⟩, hchain⟩
            exact (headNull_streamOf_cons _ _ hnext.1).mpr (hshort hunended)

/-- Sequences of such messages that are read back. -/
theorem readsBackEach_map_iff
    (h : ∀ message stream, EmitsBefore handler (content message) stream (signal message) ↔
      good message ∧ (unended message → HeadNull stream)) (messages : List μ) :
    ReadsBackEach handler (messages.map fun message => frame (content message))
        (messages.map signal) ↔
      (∀ message ∈ messages, (content message).length < lengthLimit ∧ good message) ∧
        messages.IsChain fun message next => unended message →
          (content next).length < 0x1000000 := by
  rw [← separate_map_iff h, ← readsBackEach_iff_separate, List.map_map, List.map_map]
  rfl

end Kinds

end MilterManager.Codec
