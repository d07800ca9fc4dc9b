import MilterManager.Base.Chunks
import MilterManager.Base.Windows
import MilterManager.Client.Session

/-!
# The packet buffer

The packets that modify a message are buffered until there are more bytes than
`packet_buffer_size`, the end-of-message is answered or another packet is written. The bytes of a
message are those without a buffer as long as the buffer is empty whenever the message is left
without an answer.
-/

namespace MilterManager.Client

open MilterManager.Base MilterManager.Core MilterManager.Codec

/-- The bytes written, without those of progress packets. -/
def Written.bytes : Written → Bytes
  | .packets bytes | .answer _ bytes => bytes
  | .progress _ => []

/-- The bytes written in a trace. -/
def writtenBytes (trace : List Written) : Bytes := trace.flatMap Written.bytes

namespace Session

/-- A command comes in, or is answered, other than the end-of-message: a message is left. -/
def Event.leaves : Event → Bool
  | .command _ _ => true
  | .respond answered _ _ _ => answered ≠ .endOfMessage && answered ≠ .quit
  | _ => false

/-- The end-of-message is answered. -/
def Event.answersMessage : Event → Bool
  | .respond .endOfMessage _ _ _ => true
  | _ => false

/-- The bytes of the packets of calls. -/
def callsBytes (order : RequestsOrder) (encoder : Encoder) (calls : List ReplyCall) : Bytes :=
  calls.flatMap fun call => packetBytes (call.apply order encoder).2

@[simp] theorem callsBytes_nil (order : RequestsOrder) (encoder : Encoder) :
    callsBytes order encoder [] = [] := rfl

@[simp] theorem callsBytes_cons (order : RequestsOrder) (encoder : Encoder) (call : ReplyCall)
    (calls : List ReplyCall) : callsBytes order encoder (call :: calls) =
      packetBytes (call.apply order encoder).2 ++ callsBytes order encoder calls := rfl

/-- The packets that answer the end-of-message. -/
def answerCalls (s : Session) (status : Status) : List ReplyCall :=
  match s.context.createReplyPacket status with
  | none => []
  | some packet =>
      (s.quarantineReason.map fun reason => .quarantine (some reason)).toList ++ [packet.call none]

/-- The packets that an event is due to write, in order; progress packets are left out. -/
def due (s : Session) (event : Event) : List ReplyCall :=
  match event.modification with
  | some modification => if s.refusal modification = none then [modification.call] else []
  | none =>
      match event with
      | .replaceBody body =>
          if (s.validateState (.received .endOfMessage)).or
              (s.validateAction ActionFlags.changeBody) = none then
            (chunks chunkSize body).map fun chunk => .replaceBody (some chunk)
          else []
      | .respond .endOfMessage _ _ status =>
          s.answerCalls (if status = .default then .continue else status)
      | .respond .negotiate option macrosRequests status =>
          ((s.context.negotiateResponse option status).2.map (·.call macrosRequests)).toList
      | .respond answered _ _ status =>
          ((s.context.response answered status).map (·.call none)).toList
      | _ => []

variable (order : RequestsOrder)

/-- The bytes of the packets that are due. -/
def dueBytes (s : Session) (event : Event) : Bytes := callsBytes order s.encoder (s.due event)

/-- The bytes that are written for each message and between the messages. -/
def writtenWindows (s : Session) (events : List Event) : List Bytes :=
  windows (step order) Event.leaves Event.answersMessage
    (fun s event => writtenBytes (perform order event s).trace) [] s events

/-- The bytes that are due for each message and between the messages. -/
def dueWindows (s : Session) (events : List Event) : List Bytes :=
  windows (step order) Event.leaves Event.answersMessage (dueBytes order) [] s events

/-- Nothing is buffered while the context is not buffering. -/
def Held (s : Session) : Prop := s.buffering = false → s.bufferedPackets = []

/-- What is written and buffered so far. -/
def Owed (total : Bytes) (past : List Written) (s : Session) : Prop :=
  writtenBytes past ++ s.bufferedPackets = total ∧ s.Held

section Owed

variable {order} {total : Bytes}

theorem writtenBytes_append (front back : List Written) :
    writtenBytes (front ++ back) = writtenBytes front ++ writtenBytes back :=
  List.flatMap_append

/-- A flush writes what is buffered. -/
theorem owed_flush : Proc.Triple (Owed total) flush
    fun _ past s => Owed total past s ∧ s.bufferedPackets = [] := by
  intro past s h
  cases hbuffering : s.buffering with
  | true =>
      rw [flush_apply_buffering s hbuffering]
      refine ⟨⟨?_, fun _ => rfl⟩, rfl⟩
      rw [← h.1, writtenBytes_append]
      simp [writtenBytes, Written.bytes]
  | false =>
      rw [flush_apply_idle s hbuffering, List.append_nil]
      exact ⟨h, h.2 hbuffering⟩

theorem owed_encode (call : ReplyCall) : Proc.Keeps (Owed total) (encode order call) := by
  intro past s h
  rw [encode_apply, List.append_nil]
  exact h

theorem owed_writePacketOnEndOfMessage (packet : Bytes) :
    Proc.Triple (Owed total) (writePacketOnEndOfMessage packet)
      fun _ => Owed (total ++ packet) := by
  intro past s h
  rw [writePacketOnEndOfMessage_apply]
  have howed : Owed (total ++ packet) past
      { s with bufferedPackets := s.bufferedPackets ++ packet, buffering := true } := by
    constructor
    · rw [← h.1, List.append_assoc]
    · intro hidle
      cases hidle
  split
  · exact (owed_flush past _ howed).1
  · simpa using howed

theorem owed_progress : Proc.Keeps (Owed total) (progress order) := by
  refine Proc.Triple.after (owed_encode _) ?_
  intro packet past s h
  have howed : Owed total (past ++ [.progress packet]) s := by
    constructor
    · rw [← h.1, writtenBytes_append]
      simp [writtenBytes, Written.bytes]
    · exact h.2
  have hflush := (owed_flush _ s howed).1
  rwa [List.append_assoc] at hflush

/-- An answer behind an empty buffer. -/
theorem owed_writePacket (packet : ReplyPacket) (bytes : Bytes) :
    Proc.Triple (fun past s => Owed total past s ∧ s.bufferedPackets = [])
      (writePacket (.answer packet bytes))
      fun _ past s => Owed (total ++ bytes) past s ∧ s.bufferedPackets = [] := by
  intro past s h
  have howed : Owed (total ++ bytes) (past ++ [.answer packet bytes]) s := by
    constructor
    · rw [← h.1.1, writtenBytes_append, h.2]
      simp [writtenBytes, Written.bytes]
    · exact h.1.2
  have hflush := owed_flush _ s howed
  rwa [List.append_assoc] at hflush

/-- Only a negotiate packet depends on the buffer of the encoder. -/
theorem packetBytes_apply (call : ReplyCall) (encoder other : Encoder)
    (hnegotiate : ∀ option macrosRequests, call ≠ .negotiate option macrosRequests) :
    packetBytes (call.apply order encoder).2 = packetBytes (call.apply order other).2 := by
  cases call.fills order hnegotiate with
  | refused _ h => rw [h, h]
  | packed _ content h =>
      rw [h, h]
      rfl

theorem owed_modify (modification : Modification) {past : List Written} {s : Session}
    (h : Owed total past s) :
    Owed (total ++ callsBytes order s.encoder
        (if s.refusal modification = none then [modification.call] else []))
      (past ++ (modify order modification s).trace) (modify order modification s).state := by
  cases hrefusal : s.refusal modification with
  | some error =>
      rw [modify_apply_refused order s modification hrefusal, if_neg (Option.some_ne_none error)]
      simpa using h
  | none =>
      rw [modify_apply_accepted order s modification hrefusal, if_pos rfl,
        callsBytes_cons, callsBytes_nil, List.append_nil]
      exact owed_writePacketOnEndOfMessage _ past _ h

/-- A round of `milter_client_context_replace_body` writes the next chunk. -/
theorem encodeReplaceBody_rest (encoder : Encoder) {rest : Bytes} (h : rest ≠ []) :
    (ReplyEncoder.encodeReplaceBody encoder rest).1 =
        (ReplyCall.replaceBody (some (rest.take chunkSize))).apply order encoder ∧
      rest.drop (ReplyEncoder.encodeReplaceBody encoder rest).2 = rest.drop chunkSize := by
  have hlength : rest.length ≠ 0 := mt List.length_eq_zero_iff.mp h
  have htake : (rest.take chunkSize).length ≠ 0 := by
    rw [List.length_take]
    have hpositive : 0 < chunkSize := by decide
    omega
  have hshort : ¬(rest.take chunkSize).length > chunkSize :=
    Nat.not_lt.mpr (List.length_take_le _ _)
  rw [ReplyCall.apply, Option.getD_some, ReplyEncoder.encodeReplaceBody,
    ReplyEncoder.encodeReplaceBody, if_neg hlength, if_neg htake, if_neg hshort]
  dsimp only
  rw [List.take_length]
  by_cases hlong : rest.length > chunkSize
  · rw [if_pos hlong]
    exact ⟨rfl, rfl⟩
  · have hle := Nat.not_lt.mp hlong
    rw [if_neg hlong, List.take_length, List.take_of_length_le hle, List.drop_of_length_le hle,
      List.drop_length]
    exact ⟨rfl, rfl⟩

theorem owed_replaceBodyRest (encoder : Encoder) (rest : Bytes) (total : Bytes) :
    Proc.Triple (Owed total) (replaceBodyRest rest) fun _ =>
      Owed (total ++ callsBytes order encoder
        ((chunks chunkSize rest).map fun chunk => .replaceBody (some chunk))) := by
  induction rest using replaceBodyRest.induct generalizing total with
  | case1 =>
      intro past s h
      rw [replaceBodyRest_nil]
      simpa using h
  | case2 rest hrest ih =>
      intro past s h
      have hround := @encodeReplaceBody_rest order s.encoder rest hrest
      have hbytes : packetBytes (ReplyEncoder.encodeReplaceBody s.encoder rest).1.2 =
          packetBytes
            ((ReplyCall.replaceBody (some (rest.take chunkSize))).apply order encoder).2 := by
        rw [hround.1]
        apply packetBytes_apply
        intro option macrosRequests heq
        cases heq
      have ih := ih s
      dsimp only at ih
      rw [hround.2] at ih
      rw [replaceBodyRest_apply s hrest, hround.2, hbytes,
        chunks_of_ne_nil chunkSize (by decide) hrest, List.map_cons, callsBytes_cons,
        ← List.append_assoc]
      apply Proc.Triple.bind _ (owed_writePacketOnEndOfMessage _) (fun _ => ih _)
      exact h

theorem owed_replaceBody (body : Bytes) {past : List Written} {s : Session}
    (h : Owed total past s) :
    Owed (total ++ callsBytes order s.encoder
        (if (s.validateState (.received .endOfMessage)).or
            (s.validateAction ActionFlags.changeBody) = none then
          (chunks chunkSize body).map fun chunk => .replaceBody (some chunk) else []))
      (past ++ (replaceBody body s).trace) (replaceBody body s).state := by
  cases hrefusal : (s.validateState (.received .endOfMessage)).or
      (s.validateAction ActionFlags.changeBody) with
  | some error =>
      rw [if_neg (Option.some_ne_none error)]
      simpa [replaceBody, hrefusal] using h
  | none =>
      rw [if_pos rfl]
      have hrest := @owed_replaceBodyRest order s.encoder body total past s h
      simpa [replaceBody, hrefusal] using hrest

/-- An answer is written behind an empty buffer. -/
theorem owed_reply (macrosRequests : Option MacrosRequests) (packet : Option ReplyPacket)
    {past : List Written} {s : Session} (h : Owed total past s) (hempty : s.bufferedPackets = []) :
    Owed (total ++ callsBytes order s.encoder (packet.map (·.call macrosRequests)).toList)
      (past ++ (reply order macrosRequests packet s).trace)
      (reply order macrosRequests packet s).state := by
  cases packet with
  | none => simpa [reply] using h
  | some packet =>
      rw [Option.map_some, Option.toList_some, callsBytes_cons, callsBytes_nil, List.append_nil]
      exact (owed_writePacket packet _ past
        { s with encoder := ((packet.call macrosRequests).apply order s.encoder).1 } ⟨h, hempty⟩).1

/-- The answer to the end-of-message follows what is buffered and the quarantine. -/
theorem owed_replyOnEndOfMessage (status : Status) (s : Session) :
    Proc.Triple (fun past t => Owed total past t ∧ t.bare = s.bare)
      (replyOnEndOfMessage order status)
      fun _ past t => Owed (total ++ callsBytes order s.encoder (s.answerCalls status)) past t ∧
        t.bufferedPackets = [] := by
  have hflush : Proc.Triple (fun past t => Owed total past t ∧ t.bare = s.bare) flush
      fun _ past t => (Owed total past t ∧ t.bufferedPackets = []) ∧ t.bare = s.bare := by
    intro past t h
    exact ⟨owed_flush past t h.1, (bare_flush t).trans h.2⟩
  refine Proc.Triple.bind _ hflush fun _ => Proc.Triple.getState ?_
  intro t past t' h
  obtain ⟨⟨howed, hbare⟩, rfl⟩ := h
  have hcontext : t'.context = s.context := (congrArg Session.context hbare :)
  have hencoder : t'.encoder = s.encoder := (congrArg Session.encoder hbare :)
  have hreason : t'.quarantineReason = s.quarantineReason :=
    (congrArg Session.quarantineReason hbare :)
  rw [answerCalls, ← hcontext, ← hencoder, ← hreason]
  cases hpacket : t'.context.createReplyPacket status with
  | none => simpa using howed
  | some packet =>
      have hwrite (encoder : Encoder) (bytes : Bytes) :=
        owed_writePacket packet bytes past { t' with encoder := encoder } howed
      cases hquarantine : t'.quarantineReason with
      | none => simpa using hwrite _ _
      | some reason =>
          have hbytes (encoder : Encoder) :
              packetBytes ((ReplyCall.quarantine (some reason)).apply order encoder).2 =
                packetBytes ((ReplyCall.quarantine (some reason)).apply order t'.encoder).2 := by
            apply packetBytes_apply
            intro option macrosRequests heq
            cases heq
          simpa [hbytes] using hwrite _ _

/-- Every event adds what it is due, unless it leaves a message behind what is buffered. -/
theorem owed_perform (s : Session) (event : Event) (h : Owed total [] s)
    (hleaves : event.leaves = true → s.bufferedPackets = []) :
    Owed (total ++ s.dueBytes order event) (perform order event s).trace
      (perform order event s).state := by
  cases hmodification : event.modification with
  | some modification =>
      have hmodify := @owed_modify order total modification [] s h
      simpa [perform, dueBytes, due, hmodification] using hmodify
  | none =>
      cases event with
      | command command option =>
          have hnone : s.dueBytes order (.command command option) = [] := rfl
          rw [hnone, List.append_nil]
          cases command with
          | _ => exact h
      | respond command option macrosRequests status =>
          have hreply (requests : Option MacrosRequests) (packet : Option ReplyPacket)
              (t : Session) (ht : t.bufferedPackets = s.bufferedPackets)
              (hbuffering : t.buffering = s.buffering) (hempty : s.bufferedPackets = []) :
              Owed (total ++ callsBytes order t.encoder (packet.map (·.call requests)).toList)
                (reply order requests packet t).trace (reply order requests packet t).state := by
            have howed : Owed total [] t := by
              rw [Owed, Held, ht, hbuffering]
              exact h
            simpa using owed_reply requests packet howed (ht.trans hempty)
          cases command with
          | negotiate => exact hreply _ _ _ rfl rfl (hleaves rfl)
          | quit =>
              have hnone :
                  s.dueBytes order (.respond .quit option macrosRequests status) = [] := rfl
              rw [hnone, List.append_nil]
              exact h
          | endOfMessage =>
              have hanswer := @owed_replyOnEndOfMessage order total
                (if status = .default then .continue else status)
                { s with state := .replied .endOfMessage } []
                { s with state := .replied .endOfMessage } ⟨h, rfl⟩
              exact hanswer.1
          | _ => exact hreply _ _ _ rfl rfl (hleaves rfl)
      | setReply code extendedCode message =>
          have hnone : s.dueBytes order (.setReply code extendedCode message) = [] := rfl
          rw [hnone, List.append_nil]
          exact h
      | replaceBody body =>
          have hreplace := @owed_replaceBody order total body [] s h
          simpa [perform, dueBytes, due, hmodification] using hreplace
      | progress =>
          have hnone : s.dueBytes order .progress = [] := rfl
          rw [hnone, List.append_nil]
          exact owed_progress [] s h
      | quarantine reason =>
          have hnone : s.dueBytes order (.quarantine reason) = [] := rfl
          rw [hnone, List.append_nil]
          exact h
      | _ => cases hmodification

/-- Nothing is buffered behind the answer to the end-of-message. -/
theorem empty_answersMessage {s : Session} {event : Event} (h : s.Held)
    (hanswers : event.answersMessage = true) : (step order s event).bufferedPackets = [] := by
  cases event with
  | respond command option macrosRequests status =>
      cases command with
      | endOfMessage =>
          have hanswer := @owed_replyOnEndOfMessage order s.bufferedPackets
            (if status = .default then .continue else status)
            { s with state := .replied .endOfMessage } []
            { s with state := .replied .endOfMessage } ⟨⟨rfl, h⟩, rfl⟩
          exact hanswer.2
      | _ => cases hanswers
  | _ => cases hanswers

end Owed

/-- A property of the buffer that the functions keep that change it. -/
structure BufferInvariant (inv : Session → Prop) : Prop where
  frame : ∀ s t : Session, t.bufferedPackets = s.bufferedPackets → t.buffering = s.buffering →
    t.packetBufferSize = s.packetBufferSize → inv s → inv t
  flushed : ∀ s, inv s → inv (flush s).state
  appended : ∀ packet s, inv s → inv (writePacketOnEndOfMessage packet s).state

namespace BufferInvariant

variable {order} {inv : Session → Prop}

theorem keeps_update (h : BufferInvariant inv) {f : Session → Session}
    (hpackets : ∀ s, (f s).bufferedPackets = s.bufferedPackets)
    (hbuffering : ∀ s, (f s).buffering = s.buffering)
    (hsize : ∀ s, (f s).packetBufferSize = s.packetBufferSize) :
    Proc.Keeps (fun _ => inv) (Proc.update f : SessionProc PUnit) := by
  apply Proc.Keeps.update
  intro past s hs
  exact h.frame s (f s) (hpackets s) (hbuffering s) (hsize s) hs

theorem keeps_encode (h : BufferInvariant inv) (call : ReplyCall) :
    Proc.Keeps (fun _ => inv) (encode order call) := by
  intro past s hs
  exact h.frame s _ rfl rfl rfl hs

theorem keeps_flush (h : BufferInvariant inv) : Proc.Keeps (fun _ => inv) flush :=
  fun _ s hs => h.flushed s hs

theorem keeps_writePacket (h : BufferInvariant inv) (written : Written) :
    Proc.Keeps (fun _ => inv) (writePacket written) :=
  fun _ s hs => h.flushed s hs

theorem keeps_writePacketOnEndOfMessage (h : BufferInvariant inv) (packet : Bytes) :
    Proc.Keeps (fun _ => inv) (writePacketOnEndOfMessage packet) :=
  fun _ s hs => h.appended packet s hs

theorem keeps_modify (h : BufferInvariant inv) (modification : Modification) :
    Proc.Keeps (fun _ => inv) (modify order modification) := by
  apply Proc.Keeps.bind Proc.Keeps.getState
  intro s
  split
  · exact Proc.Keeps.pure _
  · apply Proc.Keeps.bind (h.keeps_encode _)
    intro packet
    apply Proc.Keeps.bind (h.keeps_writePacketOnEndOfMessage packet)
    intro _
    exact Proc.Keeps.pure _

theorem keeps_replaceBodyRest (h : BufferInvariant inv) (rest : Bytes) :
    Proc.Keeps (fun _ => inv) (replaceBodyRest rest) := by
  induction rest using replaceBodyRest.induct with
  | case1 =>
      intro past s hs
      rw [replaceBodyRest_nil]
      exact hs
  | case2 rest hrest ih =>
      intro past s hs
      rw [replaceBodyRest_apply s hrest]
      apply Proc.Keeps.bind (h.keeps_writePacketOnEndOfMessage _) (fun _ => ih s) past
      exact h.frame s _ rfl rfl rfl hs

theorem keeps_replaceBody (h : BufferInvariant inv) (body : Bytes) :
    Proc.Keeps (fun _ => inv) (replaceBody body) := by
  apply Proc.Keeps.bind Proc.Keeps.getState
  intro s
  split
  · exact Proc.Keeps.pure _
  · apply Proc.Keeps.bind (h.keeps_replaceBodyRest body)
    intro _
    exact Proc.Keeps.pure _

theorem keeps_reply (h : BufferInvariant inv) (macrosRequests : Option MacrosRequests)
    (packet : Option ReplyPacket) :
    Proc.Keeps (fun _ => inv) (reply order macrosRequests packet) := by
  cases packet with
  | none => exact Proc.Keeps.pure _
  | some packet =>
      apply Proc.Keeps.bind (h.keeps_encode _)
      intro bytes
      exact h.keeps_writePacket _

theorem keeps_replyOnEndOfMessage (h : BufferInvariant inv) (status : Status) :
    Proc.Keeps (fun _ => inv) (replyOnEndOfMessage order status) := by
  apply Proc.Keeps.bind h.keeps_flush
  intro _
  apply Proc.Keeps.bind Proc.Keeps.getState
  intro s
  split
  · exact Proc.Keeps.pure _
  · apply Proc.Keeps.bind (h.keeps_encode _)
    intro bytes
    split
    · exact h.keeps_writePacket _
    · apply Proc.Keeps.bind (h.keeps_encode _)
      intro quarantine
      exact h.keeps_writePacket _

theorem keeps_respond (h : BufferInvariant inv) (command : Command) (option : Option MilterOption)
    (macrosRequests : Option MacrosRequests) (status : Status) :
    Proc.Keeps (fun _ => inv) (respond order command option macrosRequests status) := by
  have hcommand (command : Command) :
      Proc.Keeps (fun _ => inv) (commandResponse order command status) := by
    refine Proc.Keeps.bind ?_ fun _ => Proc.Keeps.bind Proc.Keeps.getState fun s => ?_
    · exact h.keeps_update (fun _ => rfl) (fun _ => rfl) fun _ => rfl
    · exact h.keeps_reply none _
  cases command with
  | negotiate =>
      refine Proc.Keeps.bind ?_ fun _ => Proc.Keeps.bind Proc.Keeps.getState fun s =>
        Proc.Keeps.bind ?_ fun _ => ?_
      · exact h.keeps_update (fun _ => rfl) (fun _ => rfl) fun _ => rfl
      · exact h.keeps_update (fun _ => rfl) (fun _ => rfl) fun _ => rfl
      · exact h.keeps_reply macrosRequests _
  | quit => exact Proc.Keeps.pure _
  | endOfMessage =>
      refine Proc.Keeps.bind ?_ fun _ => ?_
      · exact h.keeps_update (fun _ => rfl) (fun _ => rfl) fun _ => rfl
      · exact h.keeps_replyOnEndOfMessage _
  | _ => exact hcommand _

/-- Every event keeps the invariant. -/
theorem keeps_perform (h : BufferInvariant inv) (event : Event) :
    Proc.Keeps (fun _ => inv) (perform order event) := by
  have hupdate {f : Session → Session} := h.keeps_update (f := f)
  cases hmodification : event.modification with
  | some modification =>
      simp only [perform, hmodification]
      apply Proc.Keeps.bind (h.keeps_modify modification)
      intro _
      exact Proc.Keeps.pure _
  | none =>
      cases event with
      | command command option =>
          refine Proc.Keeps.bind ?_ fun _ => ?_
          · exact hupdate (fun _ => rfl) (fun _ => rfl) fun _ => rfl
          · cases command with
            | negotiate | endOfMessage => exact hupdate (fun _ => rfl) (fun _ => rfl) fun _ => rfl
            | _ => exact Proc.Keeps.pure _
      | respond command option macrosRequests status =>
          exact h.keeps_respond command option macrosRequests status
      | setReply code extendedCode message =>
          exact hupdate (fun _ => rfl) (fun _ => rfl) fun _ => rfl
      | replaceBody body =>
          apply Proc.Keeps.bind (h.keeps_replaceBody body)
          intro _
          exact Proc.Keeps.pure _
      | progress =>
          apply Proc.Keeps.bind (h.keeps_encode _)
          intro packet
          exact h.keeps_writePacket _
      | quarantine reason => exact hupdate (fun _ => rfl) (fun _ => rfl) fun _ => rfl
      | _ => cases hmodification

theorem step (h : BufferInvariant inv) {s : Session} (event : Event) (hs : inv s) :
    inv (step order s event) :=
  h.keeps_perform event [] s hs

/-- The context buffers as long as something is buffered. -/
theorem held : BufferInvariant Held where
  frame := by
    intro s t hpackets hbuffering _ hs
    rw [Held, hpackets, hbuffering]
    exact hs
  flushed := fun s hs => (owed_flush [] s ⟨rfl, hs⟩).1.2
  appended := fun packet s hs => (owed_writePacketOnEndOfMessage packet [] s ⟨rfl, hs⟩).2

/-- A buffer of size 0 is always empty. -/
theorem empty : BufferInvariant fun s => s.bufferedPackets = [] ∧ s.packetBufferSize = 0 where
  frame := by
    intro s t hpackets _ hsize hs
    rw [hpackets, hsize]
    exact hs
  flushed := by
    intro s hs
    cases hbuffering : s.buffering with
    | true =>
        rw [flush_apply_buffering s hbuffering]
        exact ⟨rfl, hs.2⟩
    | false =>
        rw [flush_apply_idle s hbuffering]
        exact hs
  appended := by
    intro packet s hs
    rw [writePacketOnEndOfMessage_apply]
    by_cases hlong : (s.bufferedPackets ++ packet).length > s.packetBufferSize
    · rw [if_pos hlong, flush_apply_buffering _ rfl]
      exact ⟨rfl, hs.2⟩
    · rw [if_neg hlong]
      rw [hs.2] at hlong
      exact ⟨List.length_eq_zero_iff.mp (Nat.le_zero.mp (Nat.not_lt.mp hlong)), hs.2⟩

end BufferInvariant

section Bare

variable {order}

/-- Sessions that differ in their buffers only. -/
def SameButBuffer (s t : Session) : Prop := s.bare = t.bare

theorem related_flush : Proc.Related SameButBuffer flush flush := by
  intro s t h
  exact ⟨rfl, (bare_flush s).trans (h.trans (bare_flush t).symm)⟩

theorem sameButBuffer_of {f : Session → Session} (hf : ∀ s, (f s).bare = (f s.bare).bare)
    {s t : Session} (h : SameButBuffer s t) : SameButBuffer (f s) (f t) := by
  rw [SameButBuffer, hf s, hf t, h]

theorem related_update {f : Session → Session} (hf : ∀ s, (f s).bare = (f s.bare).bare) :
    Proc.Related SameButBuffer (Proc.update f : SessionProc PUnit) (Proc.update f) :=
  Proc.Related.update fun _ _ h => sameButBuffer_of hf h

theorem related_encode (call : ReplyCall) :
    Proc.Related SameButBuffer (encode order call) (encode order call) := by
  intro s t h
  have hencoder : s.encoder = t.encoder := (congrArg Session.encoder h :)
  rw [encode_apply, encode_apply, hencoder]
  apply And.intro rfl
  exact sameButBuffer_of
    (f := fun r => { r with encoder := (call.apply order t.encoder).1 }) (fun _ => rfl) h

theorem related_writePacket (written : Written) :
    Proc.Related SameButBuffer (writePacket written) (writePacket written) := by
  intro s t h
  exact ⟨rfl, (related_flush s t h).2⟩

theorem related_writePacketOnEndOfMessage (packet : Bytes) :
    Proc.Related SameButBuffer (writePacketOnEndOfMessage packet)
      (writePacketOnEndOfMessage packet) := by
  intro s t h
  exact ⟨rfl, (bare_writePacketOnEndOfMessage s packet).trans
    (h.trans (bare_writePacketOnEndOfMessage t packet).symm)⟩

theorem related_modify (modification : Modification) :
    Proc.Related SameButBuffer (modify order modification) (modify order modification) := by
  apply Proc.Related.getState
  intro s t h
  have hrefusal : s.refusal modification = t.refusal modification :=
    (congrArg (refusal · modification) h :)
  rw [hrefusal]
  cases t.refusal modification with
  | some error => exact Proc.Related.pure _
  | none =>
      apply Proc.Related.bind (related_encode _)
      intro packet
      apply Proc.Related.bind (related_writePacketOnEndOfMessage packet)
      intro _
      exact Proc.Related.pure _

theorem related_replaceBodyRest (rest : Bytes) :
    Proc.Related SameButBuffer (replaceBodyRest rest) (replaceBodyRest rest) := by
  induction rest using replaceBodyRest.induct with
  | case1 =>
      intro s t h
      rw [replaceBodyRest_nil, replaceBodyRest_nil]
      exact ⟨rfl, h⟩
  | case2 rest hrest ih =>
      intro s t h
      have hencoder : s.encoder = t.encoder := (congrArg Session.encoder h :)
      rw [replaceBodyRest_apply s hrest, replaceBodyRest_apply t hrest, hencoder]
      apply Proc.Related.bind (related_writePacketOnEndOfMessage _) (fun _ => ih t)
      exact sameButBuffer_of (f := fun r =>
        { r with encoder := (ReplyEncoder.encodeReplaceBody t.encoder rest).1.1 }) (fun _ => rfl) h

theorem related_replaceBody (body : Bytes) :
    Proc.Related SameButBuffer (replaceBody body) (replaceBody body) := by
  apply Proc.Related.getState
  intro s t h
  have hrefusal : (s.validateState (.received .endOfMessage)).or
      (s.validateAction ActionFlags.changeBody) =
        (t.validateState (.received .endOfMessage)).or
          (t.validateAction ActionFlags.changeBody) :=
    (congrArg (fun r => (validateState r (.received .endOfMessage)).or
      (validateAction r ActionFlags.changeBody)) h :)
  rw [hrefusal]
  split
  · exact Proc.Related.pure _
  · apply Proc.Related.bind (related_replaceBodyRest body)
    intro _
    exact Proc.Related.pure _

theorem related_reply (macrosRequests : Option MacrosRequests) (packet : Option ReplyPacket) :
    Proc.Related SameButBuffer (reply order macrosRequests packet)
      (reply order macrosRequests packet) := by
  cases packet with
  | none => exact Proc.Related.pure _
  | some packet =>
      apply Proc.Related.bind (related_encode _)
      intro bytes
      exact related_writePacket _

theorem related_replyOnEndOfMessage (status : Status) :
    Proc.Related SameButBuffer (replyOnEndOfMessage order status)
      (replyOnEndOfMessage order status) := by
  apply Proc.Related.bind related_flush
  intro _
  apply Proc.Related.getState
  intro s t h
  have hcontext : s.context = t.context := (congrArg Session.context h :)
  have hreason : s.quarantineReason = t.quarantineReason := (congrArg Session.quarantineReason h :)
  rw [hcontext, hreason]
  cases t.context.createReplyPacket status with
  | none => exact Proc.Related.pure _
  | some packet =>
      apply Proc.Related.bind (related_encode _)
      intro bytes
      cases t.quarantineReason with
      | none => exact related_writePacket _
      | some reason =>
          apply Proc.Related.bind (related_encode _)
          intro quarantine
          exact related_writePacket _

theorem related_respond (command : Command) (option : Option MilterOption)
    (macrosRequests : Option MacrosRequests) (status : Status) :
    Proc.Related SameButBuffer (respond order command option macrosRequests status)
      (respond order command option macrosRequests status) := by
  have hcommand (command : Command) : Proc.Related SameButBuffer
      (commandResponse order command status) (commandResponse order command status) := by
    apply Proc.Related.bind (related_update fun _ => rfl)
    intro _
    apply Proc.Related.getState
    intro s t h
    have hcontext : s.context = t.context := (congrArg Session.context h :)
    rw [hcontext]
    exact related_reply none _
  cases command with
  | negotiate =>
      apply Proc.Related.bind (related_update fun _ => rfl)
      intro _
      apply Proc.Related.getState
      intro s t h
      have hcontext : s.context = t.context := (congrArg Session.context h :)
      rw [hcontext]
      apply Proc.Related.bind (related_update fun _ => rfl)
      intro _
      exact related_reply macrosRequests _
  | quit => exact Proc.Related.pure _
  | endOfMessage =>
      apply Proc.Related.bind (related_update fun _ => rfl)
      intro _
      exact related_replyOnEndOfMessage _
  | _ => exact hcommand _

/-- The buffer has no influence on anything else. -/
theorem related_perform (event : Event) :
    Proc.Related SameButBuffer (perform order event) (perform order event) := by
  cases hmodification : event.modification with
  | some modification =>
      simp only [perform, hmodification]
      apply Proc.Related.bind (related_modify modification)
      intro _
      exact Proc.Related.pure _
  | none =>
      cases event with
      | command command option =>
          apply Proc.Related.bind (related_update fun _ => rfl)
          intro _
          cases command with
          | negotiate | endOfMessage => exact related_update fun _ => rfl
          | _ => exact Proc.Related.pure _
      | respond command option macrosRequests status =>
          exact related_respond command option macrosRequests status
      | setReply code extendedCode message => exact related_update fun _ => rfl
      | replaceBody body =>
          apply Proc.Related.bind (related_replaceBody body)
          intro _
          exact Proc.Related.pure _
      | progress =>
          apply Proc.Related.bind (related_encode _)
          intro packet
          exact related_writePacket _
      | quarantine reason => exact related_update fun _ => rfl
      | _ => cases hmodification

theorem due_bare (s : Session) (event : Event) : s.bare.due event = s.due event := by
  cases event with
  | respond command option macrosRequests status =>
      cases command with
      | _ => rfl
  | _ => rfl

theorem dueBytes_congr {s t : Session} (h : SameButBuffer s t) (event : Event) :
    s.dueBytes order event = t.dueBytes order event := by
  have hencoder : s.encoder = t.encoder := (congrArg Session.encoder h :)
  have hdue : s.due event = t.due event := by
    rw [← due_bare, ← due_bare t, show s.bare = t.bare from h]
  rw [dueBytes, dueBytes, hencoder, hdue]

end Bare

section Windows

variable {order}

theorem writtenWindows_eq_iff {s : Session} (h : s.Held) (hempty : s.bufferedPackets = [])
    (events : List Event) :
    s.writtenWindows order events = s.dueWindows order events ↔
      Along (step order) (fun s event => event.leaves → s.bufferedPackets = []) s events := by
  apply @windows_eq_iff _ _ _ _ _ _ _ _ Session.bufferedPackets Held
  · intro s event hs
    exact BufferInvariant.held.step event hs
  · intro s event hs hleaves
    exact (owed_perform s event ⟨rfl, hs⟩ hleaves).1
  · intro s event hs hanswers
    exact empty_answersMessage hs hanswers
  · exact h
  · rw [hempty]
    rfl

end Windows

/-- The packets of a run are written as if there were no buffer, and as they are due: for every
message that is left the modifications in the order of the calls, and behind them the quarantine
and the answer to the end-of-message. -/
def Transparent (size : Nat) (events : List Event) : Prop :=
  (init size).writtenWindows order events = (init 0).writtenWindows order events ∧
    (init size).writtenWindows order events = (init size).dueWindows order events

/-- Packets are written as if there were no buffer exactly when nothing is buffered whenever a
message is left without an answer to its end. -/
theorem transparent_iff (size : Nat) (events : List Event) :
    Transparent order size events ↔
      Along (step order) (fun s event => event.leaves → s.bufferedPackets = []) (init size)
        events := by
  have hheld : (init size).Held := fun _ => rfl
  have hunbuffered : (init 0).writtenWindows order events = (init 0).dueWindows order events := by
    apply (writtenWindows_eq_iff (fun _ => rfl) rfl events).mpr
    apply @Along.of_invariant _ _ _ (fun s => s.bufferedPackets = [] ∧ s.packetBufferSize = 0) _ _ _
      _ _ ⟨rfl, rfl⟩ (Along.of_forall (fun _ _ => trivial) _ _)
    intro s event hs _
    exact ⟨BufferInvariant.empty.step event hs, fun _ => hs.1⟩
  have hdue : (init size).dueWindows order events = (init 0).dueWindows order events := by
    apply windows_congr (R := SameButBuffer) _ [] (init size) (init 0) rfl events
    intro s t event h
    exact ⟨(related_perform event s t h).2, dueBytes_congr h event⟩
  rw [Transparent, hunbuffered, ← hdue, and_self]
  exact writtenWindows_eq_iff hheld rfl events

/-- The header of an aborted message is written behind the answer to the sender of the next. -/
theorem not_transparent_aborted :
    ¬ Transparent ReplyEncoder.someOrder 4096
      [.command .negotiate (some ⟨6, ActionFlags.addHeaders, 0⟩), .command .endOfMessage none,
        .addHeader (some ⟨[88], by decide⟩) (some ⟨[49], by decide⟩), .command .abort none,
        .command .envelopeFrom none, .respond .envelopeFrom none none .continue,
        .command .envelopeRecipient none] := by
  rintro ⟨-, hdue⟩
  have hwritten : writtenWindows ReplyEncoder.someOrder (init 4096)
      [.command .negotiate (some ⟨6, ActionFlags.addHeaders, 0⟩), .command .endOfMessage none,
        .addHeader (some ⟨[88], by decide⟩) (some ⟨[49], by decide⟩), .command .abort none,
        .command .envelopeFrom none, .respond .envelopeFrom none none .continue,
        .command .envelopeRecipient none] =
      [[], [], [], [], [], [0, 0, 0, 1, 99, 0, 0, 0, 5, 104, 88, 0, 49, 0]] := by
    rfl
  rw [hwritten] at hdue
  cases hdue

end Session

end MilterManager.Client
