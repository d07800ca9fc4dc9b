import MilterManager.Children.NegotiateOnce
import MilterManager.Leader.Session

/-!
# One answer to the negotiation of the MTA

The leader writes a packet for every answer of the children object to the negotiation, and for a
status as long as it is in the state of the negotiation. What the children object emits in a
negotiation without early or late departures makes it write at most one packet.
-/

namespace MilterManager.Leader

open MilterManager.Base MilterManager.Core MilterManager.Children MilterManager.Client
open MilterManager.Server

/-- An entry is a packet to the MTA. -/
def isWritten : LeaderAction → Bool
  | .written _ _ => true
  | _ => false

/-- The leader is in the state of the negotiation or has replied to it with a status. -/
def LeaderState.isNegotiating : LeaderState → Bool
  | .negotiate | .negotiateReplied => true
  | _ => false

/-- A status that does not answer a negotiation is not written. -/
theorem reply_quiet {status : Status} (leader : LeaderContext)
    (hstate : leader.state.isNegotiating)
    (hquiet : status ≠ .continue ∧ status ≠ .default ∧ status ≠ .allOptions ∧ status ≠ .reject) :
    (reply status leader).trace = [] ∧ (reply status leader).state.state.isNegotiating := by
  obtain ⟨hcontinue, hdefault, hall, hreject⟩ := hquiet
  cases h : leader.state <;> rw [h] at hstate <;> cases hstate
  · cases status <;> first | contradiction |
      simp [reply, respond, write, h, LeaderState.responseSignal, LeaderState.next,
        ClientContext.negotiateResponse, LeaderState.isNegotiating]
  · simp [reply, h, LeaderState.responseSignal, LeaderState.isNegotiating]

/-- The leader writes one packet for an answer and none for a quiet signal. -/
theorem observe_negotiation (action : Action) (leader : LeaderContext)
    (hstate : leader.state.isNegotiating)
    (honly : ∀ before signal, action = .emitted before signal →
      isNegotiateReply (.emitted before signal) ∨ signal.isQuiet) :
    (observe action leader).trace.countP isWritten = (if isNegotiateReply action then 1 else 0) ∧
      (observe action leader).state.state.isNegotiating := by
  cases action with
  | emitted before signal =>
      have hsignal := honly before signal rfl
      have hreply {status : Status} (hstatus : status ≠ .continue ∧ status ≠ .default ∧
          status ≠ .allOptions ∧ status ≠ .reject) := reply_quiet leader hstate hstatus
      cases signal with
      | negotiateReply option =>
          simp [observe, receive, respond, write, isNegotiateReply, isWritten, hstate,
            ClientContext.negotiateResponse]
      | «continue» | replyCode | reject => simp [isNegotiateReply, Signal.isQuiet] at hsignal
      | temporaryFailure | accept | discard | skip =>
          simp [observe, receive, isNegotiateReply, isWritten, hreply]
      | error domain =>
          cases domain with
          | children => simp [isNegotiateReply, Signal.isQuiet] at hsignal
          | _ => simp [observe, receive, isNegotiateReply, isWritten, hstate]
      | _ => simp [observe, receive, isNegotiateReply, isWritten, hstate]
  | _ => simp [observe, isNegotiateReply, isWritten, hstate]

/-- Over a whole trace the leader writes one packet for each answer. -/
theorem each_observe_negotiation (trace : List Action) (leader : LeaderContext)
    (hstate : leader.state.isNegotiating) (honly : AnswersOnly trace) :
    (Proc.each observe trace leader).trace.countP isWritten = trace.countP isNegotiateReply := by
  induction trace generalizing leader with
  | nil => simp
  | cons action trace ih =>
      obtain ⟨hcount, hnext⟩ := observe_negotiation action leader hstate fun before signal heq =>
        honly before signal (by simp [heq])
      rw [Proc.each_cons, Proc.bind_apply, List.countP_append, List.countP_cons, hcount,
        ih _ hnext fun before signal hmem => honly before signal (by simp [hmem])]
      omega

/-- The packets of a session that negotiates are those for the run of its children object. -/
theorem run_negotiate (depth : Nat) (leader : LeaderContext) (children : State)
    (offered : MilterOption) (established : ChildId → Bool) (events : List Event) :
    (run depth (.negotiate offered established :: events.map .other) ⟨leader, children⟩).trace =
      .commanded .negotiate :: (Proc.each observe
        (Children.run depth (.negotiate offered established :: events) children).trace
        { leader with
          state := .negotiate
          client := { leader.client with option := some offered } }).trace := by
  have hevents : Proc.each (perform (dispatch depth)) (events.map .other) =
      onChildren (Proc.each (Children.perform (dispatch depth)) events) := by
    rw [Proc.each_map, onChildren_each]
    rfl
  unfold run Children.run
  rw [Proc.each_cons, Proc.each_cons, hevents]
  simp only [perform, Children.perform, Proc.bind_apply, Proc.record_apply, updateLeader,
    Proc.update_apply, onChildren, List.nil_append, Proc.each_append,
    List.cons_append]

/-- A negotiation in which every child leaves in time is answered once, when all have left, and
the leader writes at most one packet. -/
theorem negotiateReply_once (depth : Nat) (children : List Context) (privilegeMode : Bool)
    (launcher : Launcher) (chunkSize : ChunkSize) (surroundings : Surroundings)
    (leader : LeaderContext) (offered : MilterOption) (established : ChildId → Bool)
    (events : List Event) (hevents : ∀ event ∈ events, event.isNegotiation)
    (htime : AllInTime (Children.run depth (.negotiate offered established :: events)
      (State.init children privilegeMode launcher chunkSize surroundings)).trace) :
    let s := State.init children privilegeMode launcher chunkSize surroundings
    let outcome := Children.run depth (.negotiate offered established :: events) s
    let session := run depth (.negotiate offered established :: events.map .other) ⟨leader, s⟩
    outcome.trace.countP isNegotiateReply ≤ 1 ∧
      AnswersInTime (List.range children.length) outcome.trace ∧
      ((∀ child < children.length, departed outcome.trace child) →
        (children ≠ [] ∨ outcome.state.lazyReplyNegotiate = false) →
        outcome.trace.countP isNegotiateReply = 1) ∧
      session.trace.countP isWritten ≤ 1 := by
  have hinv := negotiationInvariant_run depth children privilegeMode launcher chunkSize surroundings
    offered established events hevents htime
  have hsession := run_negotiate depth leader
    (State.init children privilegeMode launcher chunkSize surroundings) offered established events
  dsimp only at hinv hsession ⊢
  generalize Children.run depth (.negotiate offered established :: events)
    (State.init children privilegeMode launcher chunkSize surroundings) = outcome
    at hinv hsession ⊢
  have hcount := hinv.count
  have hatMost : outcome.trace.countP isNegotiateReply ≤ 1 := by
    rw [hcount, NegotiationView.answers]
    split <;> omega
  refine ⟨hatMost, hinv.inTime, fun hall hwaiting => ?_, ?_⟩
  · have hqueue : outcome.state.replyQueue = [] := by
      refine List.eq_nil_iff_forall_not_mem.mpr fun child hmem => ?_
      have hmilter := hinv.subset hmem
      have hpresent := (hinv.outstanding child hmilter (by simp)).mp hmem
      rw [hall child (List.mem_range.mp hmilter)] at hpresent
      cases hpresent
    have hlazy : outcome.state.lazyReplyNegotiate = false := by
      rcases hwaiting with hne | hlazy
      · refine Bool.eq_false_iff.mpr fun hlazy => hne ?_
        simpa using hinv.lazy hlazy
      · exact hlazy
    rw [hcount, NegotiationView.answers, if_pos]
    simp [NegotiationView.isAnswered, State.negotiation, hqueue, hlazy]
  · rw [hsession, List.countP_cons_of_neg (by simp [isWritten]),
      each_observe_negotiation _ _ rfl hinv.only]
    exact hatMost

/-- Two children, one of which cannot be connected to, and the other replies. -/
theorem negotiateReply_once_two :
    let s := State.init [.init .accept false false, .init .accept false false] false .absent
      ⟨65535, by decide⟩ .plain
    let events : List Event := [.connected 0 false, .connected 1 true, .flushed 1,
      .reply 1 (.negotiateReply ⟨6, 0#32, 0#32⟩)]
    (Children.run 8 (.negotiate ⟨6, 0xff#32, 0x1fffff#32⟩ (fun _ => true) :: events)
      s).trace.countP isNegotiateReply = 1 := by
  refine (negotiateReply_once 8 _ _ _ _ _
    ⟨.start, false, false, .continue, .continue, .init⟩ _ _ _ ?_ ?_).2.2.1 ?_ (.inl (by simp))
  · decide
  · unfold AllInTime
    decide +kernel
  · decide +kernel

/-- A child that closes the connection after its reply brings about a second answer and a second
packet; a child that times out as the last brings about no answer. -/
theorem negotiateReply_twice :
    (let s := State.init [.init .accept false false] false .absent ⟨65535, by decide⟩ .plain
      let events : List Event := [.connected 0 true, .flushed 0,
        .reply 0 (.negotiateReply ⟨6, 0#32, 0#32⟩), .hangUp 0]
      let offered : MilterOption := ⟨6, 0xff#32, 0x1fffff#32⟩
      (Children.run 8 (.negotiate offered (fun _ => true) :: events) s).trace.countP
          isNegotiateReply = 2 ∧
        (run 8 (.negotiate offered (fun _ => true) :: events.map .other)
          ⟨⟨.start, false, false, .continue, .continue, .init⟩, s⟩).trace.countP isWritten = 2) ∧
    (let s := State.init [.init .accept false false] false .absent ⟨65535, by decide⟩ .plain
      let events : List Event := [.connected 0 true, .flushed 0, .timeout 0]
      let outcome := Children.run 8
        (.negotiate ⟨6, 0xff#32, 0x1fffff#32⟩ (fun _ => true) :: events) s
      departed outcome.trace 0 ∧ outcome.trace.countP isNegotiateReply = 0) := by
  decide +kernel

end MilterManager.Leader
