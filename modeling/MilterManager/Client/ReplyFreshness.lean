import MilterManager.Base.Runs
import MilterManager.Client.Session

/-!
# The reply code of an answer

`milter_client_context_set_reply` keeps a reply code in the context, from where every answer takes
it that rejects or fails temporarily. Nothing takes it away again.
-/

namespace MilterManager.Client

open MilterManager.Base MilterManager.Core MilterManager.Codec

/-- The packet of an answer. -/
def Written.answered : Written → Option ReplyPacket
  | .answer packet _ => some packet
  | _ => none

/-- The packets of the answers in a trace. -/
def answers (trace : List Written) : List ReplyPacket := trace.filterMap Written.answered

/-- The first digit of the reply codes that go with a status. -/
def replyClass : Status → Option Nat
  | .reject => some 5
  | .temporaryFailure => some 4
  | _ => none

/-- The packet of a status without a reply code. -/
def plainPacket : Status → Option ReplyPacket
  | .reject => some .reject
  | .temporaryFailure => some .temporaryFailure
  | _ => none

/-- A session and the reply code that was set since the last answer was written. -/
structure Answering where
  session : Session
  unanswered : Option Nat

namespace Answering

/-- A new session. -/
def init (size : Nat) : Answering := ⟨.init size, none⟩

/-- The reply code that `milter_client_context_set_reply` accepts in an event. -/
def replySet (context : ClientContext) : Session.Event → Option Nat
  | .setReply code extendedCode message =>
      (context.setReply code extendedCode message).map fun _ => code
  | _ => none

/-- The session after an event, and the reply code that waits for an answer. -/
def step (order : RequestsOrder) (s : Answering) (event : Session.Event) : Answering :=
  let outcome := Session.perform order event s.session
  { session := outcome.state
    unanswered :=
      if answers outcome.trace ≠ [] then none
      else (replySet s.session.context event).or s.unanswered }

/-- A rejecting or temporarily failing answer is the plain packet, or a reply code of its class that
was set since the last answer. -/
def Fresh (order : RequestsOrder) (s : Answering) : Session.Event → Prop
  | .respond command option macrosRequests status =>
      (plainPacket status).isSome →
        ∀ packet ∈ answers
            (Session.perform order (.respond command option macrosRequests status) s.session).trace,
          some packet = plainPacket status ∨
            ∃ code extendedCode message, packet = .replyCode code extendedCode message ∧
              s.unanswered = some code ∧ some (code / 100) = replyClass status
  | _ => True

/-- When a command other than a negotiation is answered with a rejection or a temporary failure, no
reply code was ever set, or one of its class was set since the last answer. -/
def Met (s : Answering) : Session.Event → Prop
  | .respond command _ _ status =>
      command ∉ [.negotiate, .quit, .abort] → (plainPacket status).isSome →
        s.session.context.replyCode = 0 ∨
          s.unanswered.map (· / 100) = replyClass status
  | _ => True

/-- The reply code that waits for an answer is the one kept in the context. -/
def Kept (s : Answering) : Prop :=
  ∀ code, s.unanswered = some code → s.session.context.replyCode = code ∧ code ≠ 0

end Answering

section Quiet

variable {order : RequestsOrder} {packets : List ReplyPacket} {context : ClientContext}

/-- The answers so far and the context that they come from. -/
def Told (packets : List ReplyPacket) (context : ClientContext) (past : List Written)
    (s : Session) : Prop :=
  answers past = packets ∧ s.context = context

theorem Told.record {past : List Written} {s : Session} (h : Told packets context past s)
    (written : Written) : Told (packets ++ answers [written]) context (past ++ [written]) s := by
  constructor
  · rw [← h.1]
    exact List.filterMap_append
  · exact h.2

theorem told_flush : Proc.Keeps (Told packets context) Session.flush := by
  intro past s h
  cases hbuffering : s.buffering with
  | true =>
      rw [Session.flush_apply_buffering s hbuffering]
      have htold := h.record (.packets s.bufferedPackets)
      rwa [show answers [.packets s.bufferedPackets] = [] from rfl, List.append_nil] at htold
  | false =>
      rw [Session.flush_apply_idle s hbuffering, List.append_nil]
      exact h

theorem told_writePacket (written : Written) :
    Proc.Triple (Told packets context) (Session.writePacket written)
      fun _ => Told (packets ++ answers [written]) context := by
  intro past s h
  have hflush := told_flush (past ++ [written]) s (h.record written)
  rwa [List.append_assoc] at hflush

theorem told_encode (call : ReplyCall) :
    Proc.Keeps (Told packets context) (Session.encode order call) := by
  intro past s h
  rw [Session.encode_apply, List.append_nil]
  exact h

theorem told_writePacketOnEndOfMessage (packet : Bytes) :
    Proc.Keeps (Told packets context) (Session.writePacketOnEndOfMessage packet) := by
  intro past s h
  rw [Session.writePacketOnEndOfMessage_apply]
  exact Proc.Keeps.ite told_flush (Proc.Keeps.pure _) past _ h

theorem told_modify (modification : Session.Modification) :
    Proc.Keeps (Told packets context) (Session.modify order modification) := by
  intro past s h
  cases hrefusal : s.refusal modification with
  | some error =>
      rw [Session.modify_apply_refused order s modification hrefusal, List.append_nil]
      exact h
  | none =>
      rw [Session.modify_apply_accepted order s modification hrefusal]
      exact told_writePacketOnEndOfMessage _ past _ h

theorem told_replaceBodyRest (rest : Bytes) :
    Proc.Keeps (Told packets context) (Session.replaceBodyRest rest) := by
  induction rest using Session.replaceBodyRest.induct with
  | case1 =>
      intro past s h
      rw [Session.replaceBodyRest_nil, List.append_nil]
      exact h
  | case2 rest hrest ih =>
      intro past s h
      rw [Session.replaceBodyRest_apply s hrest]
      apply Proc.Keeps.bind (told_writePacketOnEndOfMessage _) (fun _ => ih s)
      exact h

theorem told_replaceBody (body : Bytes) :
    Proc.Keeps (Told packets context) (Session.replaceBody body) := by
  apply Proc.Keeps.bind Proc.Keeps.getState
  intro s
  split
  · exact Proc.Keeps.pure _
  · exact Proc.Keeps.bind (told_replaceBodyRest body) fun _ => Proc.Keeps.pure _

theorem told_progress : Proc.Keeps (Told packets context) (Session.progress order) := by
  apply Proc.Keeps.bind (told_encode _)
  intro packet past s h
  have hprogress := told_writePacket (.progress packet) past s h
  rwa [show answers [.progress packet] = [] from rfl, List.append_nil] at hprogress

theorem told_reply (macrosRequests : Option MacrosRequests) (packet : Option ReplyPacket) :
    Proc.Triple (Told packets context) (Session.reply order macrosRequests packet)
      fun _ => Told (packets ++ packet.toList) context := by
  cases packet with
  | none =>
      apply Proc.Triple.pure
      intro past s h
      rwa [Option.toList_none, List.append_nil]
  | some packet =>
      refine Proc.Triple.after (told_encode _) ?_
      intro bytes
      exact told_writePacket (.answer packet bytes)

theorem told_replyOnEndOfMessage (status : Status) :
    Proc.Triple (Told [] context) (Session.replyOnEndOfMessage order status)
      fun _ => Told (context.createReplyPacket status).toList context := by
  refine Proc.Triple.after told_flush fun _ => Proc.Triple.getState ?_
  intro s past t h
  obtain ⟨⟨hpast, rfl⟩, rfl⟩ := h
  have htold : Told [] t.context past t := ⟨hpast, rfl⟩
  cases hpacket : t.context.createReplyPacket status with
  | none =>
      rw [Option.toList_none]
      simpa using htold
  | some packet =>
      have hwrite (bytes : Bytes) : Proc.Triple (Told [] t.context)
          (Session.writePacket (.answer packet bytes)) fun _ => Told [packet] t.context :=
        told_writePacket (.answer packet bytes)
      cases hreason : t.quarantineReason with
      | none => exact Proc.Triple.after (told_encode _) (fun bytes => hwrite bytes) past t htold
      | some reason =>
          have hwriteBehind (bytes : Bytes) := Proc.Triple.after
            (@told_encode order _ _ (.quarantine (some reason)))
            fun quarantine => hwrite (quarantine ++ bytes)
          exact Proc.Triple.after (told_encode _) hwriteBehind past t htold

end Quiet

section Respond

variable {order : RequestsOrder}

/-- The packet that answers a command. -/
def responsePacket (context : ClientContext) (command : Command) (option : Option MilterOption)
    (status : Status) : Option ReplyPacket :=
  match command with
  | .negotiate => (context.negotiateResponse option status).2
  | command => context.response command status

theorem replyCode_negotiateResponse (context : ClientContext) (option : Option MilterOption)
    (status : Status) :
    (context.negotiateResponse option status).1.replyCode = context.replyCode := by
  cases status with
  | _ => rfl

theorem answers_commandResponse (command : Command) (status : Status) (s : Session) :
    answers (Session.commandResponse order command status s).trace =
        (s.context.response command status).toList ∧
      (Session.commandResponse order command status s).state.context.replyCode =
        s.context.replyCode := by
  have htold : Told [] s.context [] { s with state := .replied command } := ⟨rfl, rfl⟩
  have hreply := @told_reply order _ _ none (s.context.response command status) [] _ htold
  exact ⟨hreply.1, congrArg ClientContext.replyCode hreply.2⟩

/-- A response writes its packet and keeps the reply code. -/
theorem answers_respond (command : Command) (option : Option MilterOption)
    (macrosRequests : Option MacrosRequests) (status : Status) (s : Session) :
    answers (Session.respond order command option macrosRequests status s).trace =
        (responsePacket s.context command option status).toList ∧
      (Session.respond order command option macrosRequests status s).state.context.replyCode =
        s.context.replyCode := by
  cases command with
  | negotiate =>
      have hreply := @told_reply order [] (s.context.negotiateResponse option status).1
        macrosRequests (s.context.negotiateResponse option status).2 []
        { s with
          state := .replied .negotiate
          context := (s.context.negotiateResponse option status).1 } ⟨rfl, rfl⟩
      exact ⟨hreply.1, (congrArg ClientContext.replyCode hreply.2).trans
        (replyCode_negotiateResponse s.context option status)⟩
  | quit => exact ⟨rfl, rfl⟩
  | endOfMessage =>
      have hreply := @told_replyOnEndOfMessage order s.context
        (if status = .default then .continue else status) []
        { s with state := .replied .endOfMessage } ⟨rfl, rfl⟩
      exact ⟨hreply.1, congrArg ClientContext.replyCode hreply.2⟩
  | _ => exact answers_commandResponse _ status s

theorem setReply_replyCode {context set : ClientContext} {code : Nat}
    {extendedCode message : Option Bytes}
    (h : context.setReply code extendedCode message = some set) :
    set.replyCode = code ∧ code ≠ 0 := by
  rw [ClientContext.setReply] at h
  split at h
  · next hvalid =>
      obtain rfl := Option.some.inj h
      exact ⟨rfl, by omega⟩
  · cases h

/-- Nothing but a response answers, and nothing but `milter_client_context_set_reply` changes the
reply code. -/
theorem answers_perform (event : Session.Event) (s : Session)
    (h : ∀ command option macrosRequests status,
      event ≠ .respond command option macrosRequests status) :
    answers (Session.perform order event s).trace = [] ∧
      (Session.perform order event s).state.context.replyCode =
        (Answering.replySet s.context event).getD s.context.replyCode := by
  have hquiet {m : SessionProc PUnit} (hm : Proc.Keeps (Told [] s.context) m) :
      answers (m s).trace = [] ∧ (m s).state.context.replyCode = s.context.replyCode := by
    have htold := hm [] s ⟨rfl, rfl⟩
    exact ⟨htold.1, congrArg ClientContext.replyCode htold.2⟩
  have hmodify (modification : Session.Modification) :
      Proc.Keeps (Told [] s.context)
        (Session.modify order modification >>= fun _ => pure PUnit.unit) :=
    Proc.Keeps.bind (told_modify modification) fun _ => Proc.Keeps.pure _
  cases event with
  | command command option =>
      cases command with
      | _ => exact ⟨rfl, rfl⟩
  | respond command option macrosRequests status =>
      exact absurd rfl (h command option macrosRequests status)
  | setReply code extendedCode message =>
      apply And.intro rfl
      show ((s.context.setReply code extendedCode message).getD s.context).replyCode =
        ((s.context.setReply code extendedCode message).map fun _ => code).getD s.context.replyCode
      cases hset : s.context.setReply code extendedCode message with
      | none => rfl
      | some set => exact (setReply_replyCode hset).1
  | replaceBody body =>
      exact hquiet (Proc.Keeps.bind (told_replaceBody body) fun _ => Proc.Keeps.pure _)
  | progress => exact hquiet told_progress
  | quarantine reason => exact ⟨rfl, rfl⟩
  | _ => exact hquiet (hmodify _)

/-- Only `milter_client_context_set_reply` changes the reply code. -/
theorem replyCode_perform (event : Session.Event) (s : Session) :
    (Session.perform order event s).state.context.replyCode =
      (Answering.replySet s.context event).getD s.context.replyCode := by
  cases event with
  | respond command option macrosRequests status =>
      exact (answers_respond command option macrosRequests status s).2
  | _ => exact (answers_perform _ s fun _ _ _ _ => Session.Event.noConfusion).2

end Respond

namespace Answering

variable {order : RequestsOrder} {s : Answering} {event : Session.Event}

theorem replySet_ne_zero {context : ClientContext} {code : Nat}
    (h : replySet context event = some code) : code ≠ 0 := by
  cases event with
  | setReply given extendedCode message =>
      obtain ⟨set, hset, rfl⟩ := Option.map_eq_some_iff.mp h
      exact (setReply_replyCode hset).2
  | _ => cases h

theorem Kept.init (size : Nat) : Kept (init size) :=
  fun _ h => absurd h (Option.some_ne_none _).symm

/-- The session keeps the code that waits for an answer. -/
theorem Kept.step (h : Kept s) : Kept (step order s event) := by
  intro code hcode
  rw [Answering.step] at hcode ⊢
  rw [replyCode_perform]
  by_cases hanswered : answers (Session.perform order event s.session).trace ≠ []
  · rw [if_pos hanswered] at hcode
    cases hcode
  · rw [if_neg hanswered] at hcode
    cases hset : replySet s.session.context event with
    | none =>
        rw [hset, Option.none_or] at hcode
        exact h code hcode
    | some given =>
        rw [hset, Option.some_or] at hcode
        obtain rfl := Option.some.inj hcode
        exact ⟨rfl, replySet_ne_zero hset⟩

/-- What is answered with a rejection or a temporary failure. -/
theorem responsePacket_refusing {context : ClientContext} {command : Command} {status : Status}
    {plain : ReplyPacket} (hplain : plainPacket status = some plain)
    (hcommand : command ∉ [Command.negotiate, .quit, .abort]) (option : Option MilterOption) :
    responsePacket context command option status = some (context.formatReply plain) := by
  cases status with
  | reject =>
      obtain rfl := Option.some.inj hplain
      cases command with
      | negotiate | quit | abort => exact absurd (by decide) hcommand
      | _ => rfl
  | temporaryFailure =>
      obtain rfl := Option.some.inj hplain
      cases command with
      | negotiate | quit | abort => exact absurd (by decide) hcommand
      | _ => rfl
  | _ => cases hplain

/-- A negotiation is never refused with the reply code. -/
theorem responsePacket_plain {context : ClientContext} {command : Command} {status : Status}
    (hcommand : command ∈ [Command.negotiate, .quit, .abort]) (option : Option MilterOption)
    (hplain : (plainPacket status).isSome) {packet : ReplyPacket}
    (hpacket : packet ∈ responsePacket context command option status) :
    some packet = plainPacket status := by
  cases command with
  | negotiate =>
      cases status with
      | reject => exact hpacket.symm
      | temporaryFailure => cases hpacket
      | _ => cases hplain
  | quit | abort => cases hpacket
  | _ => exact absurd hcommand (by decide)

theorem plainPacket_ne_replyCode {status : Status} {code : Nat}
    {extendedCode message : Option Bytes} :
    plainPacket status ≠ some (.replyCode code extendedCode message) := by
  cases status with
  | _ => exact fun h => by cases h

/-- A rejection or a temporary failure is fresh exactly when the code kept in the context is. -/
theorem fresh_iff_met (h : Kept s) : Fresh order s event ↔ Met s event := by
  cases event with
  | respond command option macrosRequests status =>
      rw [Fresh, Met]
      show (_ → ∀ packet ∈ answers
        (Session.respond order command option macrosRequests status s.session).trace, _) ↔ _
      rw [(answers_respond command option macrosRequests status s.session).1]
      by_cases hcommand : command ∈ [Command.negotiate, .quit, .abort]
      · apply iff_of_true
        · intro hplain packet hpacket
          exact .inl (responsePacket_plain hcommand option hplain (Option.mem_toList.mp hpacket))
        · intro hnot
          exact absurd hcommand hnot
      · rw [forall_prop_of_true hcommand]
        apply imp_congr_right
        intro hsome
        obtain ⟨plain, hplain⟩ := Option.isSome_iff_exists.mp hsome
        rw [responsePacket_refusing hplain hcommand, Option.toList_some, List.forall_mem_singleton,
          ClientContext.formatReply]
        by_cases hzero : s.session.context.replyCode = 0
        · rw [if_pos hzero]
          exact iff_of_true (.inl hplain.symm) (.inl hzero)
        · rw [if_neg hzero, or_iff_right plainPacket_ne_replyCode.symm, or_iff_right hzero]
          constructor
          · rintro ⟨code, extendedCode, message, -, hunanswered, hclass⟩
            rw [hunanswered, Option.map_some, hclass]
          · intro hmap
            cases hunanswered : s.unanswered with
            | none =>
                rw [hunanswered] at hmap
                cases status with
                | reject | temporaryFailure => cases hmap
                | _ => cases hplain
            | some code =>
                rw [hunanswered] at hmap
                exact ⟨code, _, _, by rw [(h code hunanswered).1], rfl, hmap⟩
  | _ => exact Iff.rfl

end Answering

/-- The answers of a session are fresh exactly when no reply code of an earlier answer or of another
class is left for a rejection or a temporary failure. -/
theorem replyCode_fresh_iff (order : RequestsOrder) (size : Nat) (events : List Session.Event) :
    Along (Answering.step order) (Answering.Fresh order) (.init size) events ↔
      Along (Answering.step order) Answering.Met (.init size) events := by
  apply Along.congr_of_invariant (fun s event h _ => Answering.Kept.step h)
  · intro s event h
    exact Answering.fresh_iff_met h
  · exact Answering.Kept.init size

/-- The code of a recipient that failed temporarily is written for a rejected message later on. -/
theorem not_fresh_rejected :
    ¬ Along (Answering.step ReplyEncoder.someOrder) (Answering.Fresh ReplyEncoder.someOrder)
      (.init 0)
      [.command .envelopeRecipient none, .setReply 451 none none,
        .respond .envelopeRecipient none none .temporaryFailure, .command .abort none,
        .command .envelopeFrom none, .respond .envelopeFrom none none .reject] := by
  rintro ⟨-, -, -, -, -, hreject, -⟩
  obtain hplain | ⟨code, extendedCode, message, -, hunanswered, -⟩ :=
    hreject rfl (.replyCode 451 none none) List.mem_cons_self
  · cases hplain
  · cases hunanswered

end MilterManager.Client
