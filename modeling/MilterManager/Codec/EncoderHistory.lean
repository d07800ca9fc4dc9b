import MilterManager.Base.Outputs
import MilterManager.Codec.ChunkInvariance
import MilterManager.Codec.CommandRoundTrip
import MilterManager.Codec.ReplyRoundTrip

/-!
# The history of an encoder

Calls of one `MilterCommandEncoder` or `MilterReplyEncoder`, one after the other, from
`milter/core/milter-command-encoder.c` and `milter/core/milter-reply-encoder.c`. The buffer of
`milter/core/milter-encoder.c` lives from one call to the next.
-/

namespace MilterManager.Codec

open MilterManager.Base MilterManager.Core

/-- The calls of a `MilterCommandEncoder`, with `none` for an argument that may be `NULL`. -/
inductive CommandCall where
  | negotiate (option : Option MilterOption)
  | defineMacro (context : MilterCommand) (macros : Option Macros)
  | connect (hostName : CString) (address : SocketAddress)
  | helo (fqdn : CString)
  | envelopeFrom (sender : CString)
  | envelopeRecipient (recipient : CString)
  | data
  | header (name value : CString)
  | endOfHeader
  | body (chunk : Bytes)
  | endOfMessage (chunk : Option Bytes)
  | abort
  | quit
  | unknown (command : CString)

/-- The calls of a `MilterReplyEncoder`, with `none` for an argument that may be `NULL`. -/
inductive ReplyCall where
  | negotiate (option : Option MilterOption) (macrosRequests : Option MacrosRequests)
  | continue
  | replyCode (code : Option CString)
  | temporaryFailure
  | reject
  | accept
  | discard
  | addHeader (name value : Option CString)
  | insertHeader (index : UInt32) (name value : Option CString)
  | changeHeader (name : Option CString) (index : UInt32) (value : Option CString)
  | deleteHeader (name : Option CString) (index : UInt32)
  | changeFrom (sender parameters : Option CString)
  | addRecipient (recipient parameters : Option CString)
  | deleteRecipient (recipient : Option CString)
  | replaceBody (body : Option Bytes)
  | progress
  | quarantine (reason : Option CString)
  | connectionFailure
  | shutdown
  | skip

namespace Encoder

/-- The content of a negotiation. -/
def negotiateContent (option : Option MilterOption) : Bytes := (init.encodeNegotiate option).buffer

theorem encodeNegotiate_buffer (encoder : Encoder) (option : Option MilterOption) :
    (encoder.encodeNegotiate option).buffer = encoder.buffer ++ negotiateContent option := by
  cases option with
  | none => rfl
  | some option =>
      simp only [negotiateContent, encodeNegotiate, append, init, List.append_assoc,
        List.nil_append]

theorem negotiateContent_ne_nil (option : Option MilterOption) : negotiateContent option ≠ [] := by
  cases option with
  | none => exact List.cons_ne_nil _ _
  | some option => exact List.cons_ne_nil _ _

theorem pack_buffer_ne_nil (encoder : Encoder) : encoder.pack.1.buffer ≠ [] := List.cons_ne_nil _ _

end Encoder

/-- Bytes before a content show in its frame. -/
theorem frame_append_eq_iff (before content : Bytes) :
    frame (before ++ content) = frame content ↔ before = [] := by
  constructor
  · intro h
    have hlength := congrArg List.length h
    rw [length_frame, length_frame, List.length_append] at hlength
    apply List.eq_nil_of_length_eq_zero
    omega
  · rintro rfl
    rfl

namespace CommandCall

/-- What the encoder does in a call. -/
def apply (order : KeyOrder) (addressText : AddressText) (encoder : Encoder) :
    CommandCall → Encoder × Bytes
  | .negotiate option => CommandEncoder.encodeNegotiate encoder option
  | .defineMacro context macros => CommandEncoder.encodeDefineMacro encoder order context macros
  | .connect hostName address => CommandEncoder.encodeConnect encoder addressText hostName address
  | .helo fqdn => CommandEncoder.encodeHelo encoder fqdn
  | .envelopeFrom sender => CommandEncoder.encodeEnvelopeFrom encoder sender
  | .envelopeRecipient recipient => CommandEncoder.encodeEnvelopeRecipient encoder recipient
  | .data => CommandEncoder.encodeData encoder
  | .header name value => CommandEncoder.encodeHeader encoder name value
  | .endOfHeader => CommandEncoder.encodeEndOfHeader encoder
  | .body chunk => (CommandEncoder.encodeBody encoder chunk).1
  | .endOfMessage chunk => CommandEncoder.encodeEndOfMessage encoder chunk
  | .abort => CommandEncoder.encodeAbort encoder
  | .quit => CommandEncoder.encodeQuit encoder
  | .unknown command => CommandEncoder.encodeUnknown encoder command

/-- A call for a negotiate packet. -/
def Negotiates : CommandCall → Prop
  | .negotiate _ => True
  | _ => False

variable (order : KeyOrder) (addressText : AddressText) (encoder : Encoder) (call : CommandCall)

/-- Only a negotiate packet holds what is left in the buffer. -/
theorem apply_snd_eq_iff :
    (call.apply order addressText encoder).2 = (call.apply order addressText .init).2 ↔
      encoder.buffer = [] ∨ ¬call.Negotiates := by
  cases call with
  | negotiate option =>
      have hpacket (encoder : Encoder) :
          (apply order addressText encoder (.negotiate option)).2 =
            frame (encoder.buffer ++ Encoder.negotiateContent option) := by
        rw [← Encoder.encodeNegotiate_buffer]
        rfl
      rw [hpacket, hpacket, Negotiates, not_true, or_false]
      exact frame_append_eq_iff _ _
  | _ => exact ⟨fun _ => .inr not_false, fun _ => rfl⟩

/-- Every call leaves its packet in the buffer. -/
theorem apply_fst_buffer_ne_nil : (call.apply order addressText encoder).1.buffer ≠ [] := by
  cases call with
  | _ => exact Encoder.pack_buffer_ne_nil _

end CommandCall

namespace ReplyCall

/-- What the encoder does in a call; a text that is `NULL` is refused where an empty one is. -/
def apply (order : RequestsOrder) (encoder : Encoder) : ReplyCall → Encoder × EncodedPacket
  | .negotiate option macrosRequests =>
      ReplyEncoder.encodeNegotiate encoder order option macrosRequests
  | .continue => ReplyEncoder.encodeContinue encoder
  | .replyCode code => ReplyEncoder.encodeReplyCode encoder code
  | .temporaryFailure => ReplyEncoder.encodeTemporaryFailure encoder
  | .reject => ReplyEncoder.encodeReject encoder
  | .accept => ReplyEncoder.encodeAccept encoder
  | .discard => ReplyEncoder.encodeDiscard encoder
  | .addHeader name value => ReplyEncoder.encodeAddHeader encoder (name.getD .empty) value
  | .insertHeader index name value =>
      ReplyEncoder.encodeInsertHeader encoder index (name.getD .empty) value
  | .changeHeader name index value =>
      ReplyEncoder.encodeChangeHeader encoder (name.getD .empty) index value
  | .deleteHeader name index => ReplyEncoder.encodeDeleteHeader encoder (name.getD .empty) index
  | .changeFrom sender parameters =>
      ReplyEncoder.encodeChangeFrom encoder (sender.getD .empty) parameters
  | .addRecipient recipient parameters =>
      ReplyEncoder.encodeAddRecipient encoder (recipient.getD .empty) parameters
  | .deleteRecipient recipient =>
      ReplyEncoder.encodeDeleteRecipient encoder (recipient.getD .empty)
  | .replaceBody body => (ReplyEncoder.encodeReplaceBody encoder (body.getD [])).1
  | .progress => ReplyEncoder.encodeProgress encoder
  | .quarantine reason => ReplyEncoder.encodeQuarantine encoder (reason.getD .empty)
  | .connectionFailure => ReplyEncoder.encodeConnectionFailure encoder
  | .shutdown => ReplyEncoder.encodeShutdown encoder
  | .skip => ReplyEncoder.encodeSkip encoder

/-- A call whose arguments the encoder refuses: a text that must not be empty is `NULL` or empty, or
there is no body. -/
def Refused : ReplyCall → Prop
  | .replyCode code => code = none
  | .addHeader name _ | .insertHeader _ name _ | .changeHeader name _ _ | .deleteHeader name _ =>
      (name.getD .empty).bytes = []
  | .changeFrom text _ | .addRecipient text _ | .deleteRecipient text | .quarantine text =>
      (text.getD .empty).bytes = []
  | .replaceBody body => body.getD [] = []
  | _ => False

/-- A call for a negotiate packet in whose macros requests no list of symbols is empty. -/
def Negotiates (order : RequestsOrder) : ReplyCall → Prop
  | .negotiate _ macrosRequests =>
      macrosRequests.elim (some []) (ReplyEncoder.encodeMacrosRequests order) ≠ none
  | _ => False

variable (order : RequestsOrder) (encoder : Encoder) (call : ReplyCall)

/-- A call for another packet is refused, or fills the buffer anew. -/
inductive Fills : Prop where
  | refused (hrefused : call.Refused) (h : ∀ encoder, call.apply order encoder = (encoder, .null))
  | packed (hrefused : ¬call.Refused) (content : Bytes)
      (h : ∀ encoder, call.apply order encoder = encoder.packReply content)

variable {order} {call}

/-- What the functions do that refuse an empty text. -/
theorem Fills.of_text (text : CString) (content : Bytes)
    (hrefused : call.Refused ↔ text.bytes = [])
    (h : ∀ encoder, call.apply order encoder =
      if text.bytes = [] then (encoder, .null) else encoder.packReply content) :
    Fills order call := by
  by_cases htext : text.bytes = []
  · apply Fills.refused (hrefused.mpr htext)
    intro encoder
    rw [h, if_pos htext]
  · apply Fills.packed (mt hrefused.mp htext) content
    intro encoder
    rw [h, if_neg htext]

variable (order) (call)

theorem fills (hnegotiate : ∀ option macrosRequests, call ≠ .negotiate option macrosRequests) :
    Fills order call := by
  cases call with
  | negotiate option macrosRequests => exact absurd rfl (hnegotiate option macrosRequests)
  | replyCode code =>
      cases code with
      | none => exact .refused rfl fun _ => rfl
      | some code => exact .packed (Option.some_ne_none code) _ fun _ => rfl
  | addHeader name value => exact .of_text (name.getD .empty) _ Iff.rfl fun _ => rfl
  | insertHeader index name value => exact .of_text (name.getD .empty) _ Iff.rfl fun _ => rfl
  | changeHeader name index value => exact .of_text (name.getD .empty) _ Iff.rfl fun _ => rfl
  | deleteHeader name index => exact .of_text (name.getD .empty) _ Iff.rfl fun _ => rfl
  | changeFrom sender parameters => exact .of_text (sender.getD .empty) _ Iff.rfl fun _ => rfl
  | addRecipient recipient parameters =>
      by_cases hparameters : parameters.elim [] CString.bytes = []
      · apply Fills.of_text (recipient.getD .empty) _ Iff.rfl
        intro encoder
        rw [apply, ReplyEncoder.encodeAddRecipient, if_neg (not_not.mpr hparameters)]
      · apply Fills.of_text (recipient.getD .empty) _ Iff.rfl
        intro encoder
        rw [apply, ReplyEncoder.encodeAddRecipient, if_pos hparameters]
  | deleteRecipient recipient => exact .of_text (recipient.getD .empty) _ Iff.rfl fun _ => rfl
  | quarantine reason => exact .of_text (reason.getD .empty) _ Iff.rfl fun _ => rfl
  | replaceBody body =>
      have hrefused : Refused (.replaceBody body) ↔ (body.getD []).length = 0 :=
        List.length_eq_zero_iff.symm
      by_cases hbody : (body.getD []).length = 0
      · apply Fills.refused (hrefused.mpr hbody)
        intro encoder
        rw [apply, ReplyEncoder.encodeReplaceBody, if_pos hbody]
      · apply Fills.packed (mt hrefused.mp hbody)
        intro encoder
        rw [apply, ReplyEncoder.encodeReplaceBody, if_neg hbody]
  | _ => exact .packed not_false _ fun _ => rfl

/-- The negotiate packet behind what is left in the buffer. -/
theorem apply_negotiate {option : Option MilterOption} {macrosRequests : Option MacrosRequests}
    {requests : Bytes} (hrequests : macrosRequests.elim (some [])
      (ReplyEncoder.encodeMacrosRequests order) = some requests) :
    (apply order encoder (.negotiate option macrosRequests)).2 =
      .packet (frame (encoder.buffer ++ (Encoder.negotiateContent option ++ requests))) := by
  rw [← List.append_assoc, ← Encoder.encodeNegotiate_buffer, apply, ReplyEncoder.encodeNegotiate,
    hrequests]
  rfl

/-- Only a negotiate packet holds what is left in the buffer. -/
theorem apply_snd_eq_iff : (call.apply order encoder).2 = (call.apply order .init).2 ↔
    encoder.buffer = [] ∨ ¬call.Negotiates order := by
  by_cases hnegotiate : ∃ option macrosRequests, call = .negotiate option macrosRequests
  · obtain ⟨option, macrosRequests, rfl⟩ := hnegotiate
    cases hrequests : macrosRequests.elim (some []) (ReplyEncoder.encodeMacrosRequests order) with
    | none => simp [apply, ReplyEncoder.encodeNegotiate, Negotiates, hrequests]
    | some requests =>
        rw [apply_negotiate order encoder hrequests, apply_negotiate order .init hrequests,
          EncodedPacket.packet.injEq, Negotiates, hrequests]
        simp [frame_append_eq_iff, Encoder.init]
  · have hother : ∀ option macrosRequests, call ≠ .negotiate option macrosRequests :=
      fun option macrosRequests heq => hnegotiate ⟨option, macrosRequests, heq⟩
    have hnot : ¬call.Negotiates order := by
      cases call with
      | negotiate option macrosRequests => exact absurd rfl (hother option macrosRequests)
      | _ => exact not_false
    apply iff_of_true _ (.inr hnot)
    cases fills order call hother with
    | refused _ h => rw [h, h]
    | packed _ content h =>
        rw [h, h]
        rfl

/-- A call leaves the buffer empty exactly when it was empty and the call is refused. -/
theorem apply_fst_buffer_eq_nil_iff :
    (call.apply order encoder).1.buffer = [] ↔ encoder.buffer = [] ∧ ¬¬call.Refused := by
  by_cases hnegotiate : ∃ option macrosRequests, call = .negotiate option macrosRequests
  · obtain ⟨option, macrosRequests, rfl⟩ := hnegotiate
    apply iff_of_false _ fun hand => hand.2 not_false
    cases hrequests : macrosRequests.elim (some []) (ReplyEncoder.encodeMacrosRequests order) with
    | none =>
        rw [apply, ReplyEncoder.encodeNegotiate, hrequests]
        show (encoder.encodeNegotiate option).buffer ≠ []
        rw [Encoder.encodeNegotiate_buffer]
        exact List.append_ne_nil_of_right_ne_nil _ (Encoder.negotiateContent_ne_nil option)
    | some requests =>
        rw [apply, ReplyEncoder.encodeNegotiate, hrequests]
        exact Encoder.pack_buffer_ne_nil _
  · have hother : ∀ option macrosRequests, call ≠ .negotiate option macrosRequests :=
      fun option macrosRequests heq => hnegotiate ⟨option, macrosRequests, heq⟩
    cases fills order call hother with
    | refused hrefused h =>
        rw [h]
        exact ⟨fun hempty => ⟨hempty, not_not.mpr hrefused⟩, fun hand => hand.1⟩
    | packed hrefused content h =>
        rw [h]
        apply iff_of_false
        · exact Encoder.pack_buffer_ne_nil _
        · exact fun hand => hand.2 hrefused

end ReplyCall

/-- The packets of a sequence of calls are those of new encoders exactly when every negotiate packet
comes first: for a command encoder before every other call, for a reply encoder before every call
that is not refused. -/
theorem packets_eq_fresh_iff (order : KeyOrder) (addressText : AddressText)
    (commands : List CommandCall) (requestsOrder : RequestsOrder) (replies : List ReplyCall) :
    (outputs (CommandCall.apply order addressText) .init commands =
        freshOutputs (CommandCall.apply order addressText) .init commands ↔
      commands.Pairwise fun _ later => ¬later.Negotiates) ∧
      (outputs (ReplyCall.apply requestsOrder) .init replies =
          freshOutputs (ReplyCall.apply requestsOrder) .init replies ↔
        replies.Pairwise fun earlier later =>
          ¬earlier.Refused → ¬later.Negotiates requestsOrder) := by
  constructor
  · have hnext : ∀ (encoder : Encoder) (call : CommandCall),
        (call.apply order addressText encoder).1.buffer = [] ↔ encoder.buffer = [] ∧ ¬True :=
      fun encoder call => iff_of_false (call.apply_fst_buffer_ne_nil order addressText encoder)
        fun hand => hand.2 trivial
    have hiff := outputs_eq_fresh_iff (CommandCall.apply_snd_eq_iff order addressText) hnext .init
      commands
    rw [hiff]
    constructor
    · exact fun h => h.2.imp fun hlater => hlater trivial
    · exact fun h => ⟨.inl rfl, h.imp fun hlater _ => hlater⟩
  · have hiff := outputs_eq_fresh_iff (ReplyCall.apply_snd_eq_iff requestsOrder)
      (ReplyCall.apply_fst_buffer_eq_nil_iff requestsOrder) .init replies
    rw [hiff]
    exact ⟨fun h => h.2, fun h => ⟨.inl rfl, h⟩⟩

/-- A negotiate packet behind another one repeats it. -/
theorem packets_ne_fresh :
    outputs (CommandCall.apply CommandEncoder.someOrder noAddressText) .init
      [.data, .negotiate none] ≠
      freshOutputs (CommandCall.apply CommandEncoder.someOrder noAddressText) .init
        [.data, .negotiate none] := by
  intro h
  have hsecond : frame (frame [84] ++ [79]) = frame [79] := (List.cons.inj (List.cons.inj h).2).1
  exact absurd ((frame_append_eq_iff _ _).mp hsecond) (List.cons_ne_nil _ _)

end MilterManager.Codec
