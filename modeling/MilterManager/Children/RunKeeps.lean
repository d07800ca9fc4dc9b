import MilterManager.Children.ObjectKeeps

/-!
# What a run of the children object keeps

The pass over the object goes on to its negotiation and to the events of a run: what holds of the
programs that the negotiation is made of besides holds of every handler, entered down to any depth,
and of every event.
-/

namespace MilterManager.Children

open MilterManager.Base MilterManager.Core MilterManager.Server MilterManager.Base.Proc.Law

/-- What the configuration says about the answers of a child. -/
def configuration (context : Context) : Status × Bool :=
  (context.fallbackStatus, context.evaluationMode)

/-- A change of the object that leaves its children alone and does not know where the body is
stored. -/
structure LeavesChildren (f : State → State) : Prop where
  context : ∀ s, (f s).context = s.context
  storage : ∀ s, (f s).storage = s.storage
  withStorage : ∀ storage s, f (s.withStorage storage) = (f s).withStorage storage

/-- What holds besides of the programs that change other data of a child than its configuration, of
those that change the attempts to negotiate, and of the entries of the trace about either. -/
structure RunKeeps (law : ProgramLaw) (call : Handlers) (enters : ContextState → Prop) : Prop
    extends ObjectKeeps law call enters where
  child : ∀ child f, (∀ context, configuration (f context) = configuration context) →
    (∀ context : Context, (f context).state = context.state ∨ enters (f context).state) →
    law.Holds (updateContext child f)
  attempts : ∀ f, LeavesChildren f → law.Holds (Proc.update f)
  offered : ∀ child option, law.Holds (Proc.record fun _ => Action.sent child (.negotiate option))

namespace RunKeeps

variable {law : ProgramLaw} {call : Handlers} {enters : ContextState → Prop}
variable {child : ChildId}

section Handlers

variable (h : RunKeeps law call enters)

include h

theorem of_quitted :
    law.Holds (updateContext child fun context => { context with quitted := true }) :=
  h.child child _ (fun _ => rfl) fun _ => .inl rfl

theorem of_expireChild : law.Holds (expireChild child) :=
  h.child child _ (fun _ => rfl) fun _ => .inl rfl

theorem of_addAttempt {option : Nat} {isRetry retryTimer : Bool} :
    law.Holds (addAttempt child option isRetry retryTimer) :=
  h.attempts _ ⟨fun _ => rfl, fun _ => rfl, fun _ _ => rfl⟩

theorem of_removeAttempt {attempt : Nat} : law.Holds (removeAttempt attempt) :=
  h.attempts _ ⟨fun _ => rfl, fun _ => rfl, fun _ _ => rfl⟩

theorem of_checkFallbackStatusOnNegotiate : law.Holds checkFallbackStatusOnNegotiate := by
  unfold checkFallbackStatusOnNegotiate
  refine Holds.getState (fun _ _ => rfl) fun s => ?_
  split
  case h_4 => exact Holds.pure _
  all_goals
    refine Holds.each _ fun child _ => ConnectionKeeps.of_contextOf.bind fun context => ?_
    refine Holds.ite ?_ (Holds.pure _)
    refine Holds.bind (h.update _ ⟨fun _ => rfl, fun _ => rfl, fun _ _ => rfl⟩) fun _ => ?_
    exact h.of_expireChild

theorem of_clearTryNegotiateData {data : NegotiateData} :
    law.Holds (clearTryNegotiateData data) :=
  (h.of_removeQueueInNegotiate h.of_checkFallbackStatusOnNegotiate).bind fun _ =>
    h.of_expireChild.bind fun _ => h.of_removeAttempt

theorem of_retryOrClear {data : NegotiateData} {domain : ErrorDomain} :
    law.Holds (retryOrClear data domain) := by
  have hclear := @of_clearTryNegotiateData law call enters h data
  unfold retryOrClear
  refine Holds.getState (fun _ _ => rfl) fun s => Holds.ite ?_ (Holds.ite hclear ?_)
  · exact (h.of_emitSignal rfl).bind fun _ => hclear
  refine h.of_startChild.bind fun started => Holds.ite hclear ?_
  exact Holds.bind h.of_addAttempt fun _ => h.of_removeAttempt

theorem of_offerOption {data : NegotiateData} : law.Holds (offerOption call data) := by
  unfold offerOption
  refine Holds.bind (h.child data.child _ (fun _ => rfl) fun _ => .inl rfl) fun _ => ?_
  refine Holds.getState (fun _ _ => rfl) fun s => ?_
  refine Holds.bind ?_ fun _ => h.of_removeAttempt
  refine h.of_serverNegotiate (h.child data.child _ (fun _ => rfl) fun _ => .inl rfl) ?_ ?_
  · exact h.offered data.child _
  · exact h.child data.child _ (fun _ => rfl) fun _ => .inl rfl

theorem of_anyHandle {callback : Callback} : law.Holds (handle call child callback) := by
  cases callback with
  | ready => exact ObjectKeeps.of_withAttempt fun data => h.of_offerOption
  | connectionTimeout => exact ObjectKeeps.of_withAttempt fun data => h.of_clearTryNegotiateData
  | connectionError => exact ObjectKeeps.of_withAttempt fun data => h.of_retryOrClear
  | «continue» =>
      exact h.of_handle h.of_quitted h.of_expireChild h.of_checkFallbackStatusOnNegotiate (.inr rfl)
  | _ =>
      exact h.of_handle h.of_quitted h.of_expireChild h.of_checkFallbackStatusOnNegotiate (.inl rfl)

end Handlers

/-- What holds of the handlers when it holds of those that they enter holds of them down to any
depth. -/
theorem of_dispatch
    (hcalled : ∀ child callback, law.Holds (Proc.record fun s => Action.called s child callback))
    (h : ∀ call, (∀ child callback, law.Holds (call child callback)) → RunKeeps law call enters)
    (depth : Nat) (child : ChildId) (callback : Callback) :
    law.Holds (dispatch depth child callback) := by
  induction depth generalizing child callback with
  | zero => exact Holds.pure _
  | succ depth ih => exact Holds.bind (hcalled child callback) fun _ => (h _ ih).of_anyHandle

section Events

variable (h : RunKeeps law call fun _ => True)

include h

theorem of_childrenQuit : law.Holds (childrenQuit call) := by
  unfold childrenQuit
  refine Holds.bind (h.update _ ⟨fun _ => rfl, fun _ => rfl, fun _ _ => rfl⟩) fun _ => ?_
  refine Holds.getState (fun _ _ => rfl) fun s => ?_
  refine Holds.bind (Holds.each _ fun child _ => ?_) fun _ => ?_
  · refine ConnectionKeeps.of_contextOf.bind fun context => Holds.ite ?_ (Holds.pure _)
    exact (h.of_serverQuit h.of_quitted).bind fun _ => Holds.pure _
  refine Holds.getState (fun _ _ => rfl) fun s => Holds.ite ?_ (Holds.pure _)
  refine (h.of_emitSignal rfl).bind fun _ => ?_
  exact h.update _ ⟨fun _ => rfl, fun _ => rfl, fun _ _ => rfl⟩

theorem of_childEstablishConnection {option : Nat} {isRetry established : Bool} :
    law.Holds (childEstablishConnection child option isRetry established) := by
  unfold childEstablishConnection
  refine Holds.bind (h.child child _ (fun _ => rfl) fun _ => .inl rfl) fun _ => Holds.ite ?_ ?_
  · refine (h.of_emitSignal rfl).bind fun _ => Holds.bind ?_ fun _ => Holds.pure _
    refine Holds.ite ?_ h.of_addAttempt
    refine Holds.bind (h.record _ (fun _ => rfl) fun _ _ => rfl) fun _ => ?_
    exact (h.of_removeQueueInNegotiate h.of_checkFallbackStatusOnNegotiate).bind fun _ =>
      h.of_expireChild
  · exact Holds.bind h.of_addAttempt fun _ => Holds.pure _

theorem of_childrenNegotiate {offered : MilterOption} {established : ChildId → Bool} :
    law.Holds (childrenNegotiate offered established) := by
  unfold childrenNegotiate
  refine Holds.bind (h.update _ ⟨fun _ => rfl, fun _ => rfl, fun _ _ => rfl⟩) fun _ => ?_
  refine Holds.getState (fun _ _ => rfl) fun s => Holds.ite ?_ ?_
  · exact h.update _ ⟨fun _ => rfl, fun _ => rfl, fun _ _ => rfl⟩
  refine h.of_initReplyQueue.bind fun _ => ?_
  refine Holds.bind (Holds.each _ fun _ _ => ?_) fun _ => ?_
  · exact h.update _ ⟨fun _ => rfl, fun _ => rfl, fun _ _ => rfl⟩
  refine Holds.each _ fun child _ => ?_
  refine h.of_childEstablishConnection.bind fun _ => ?_
  refine Holds.ite (Holds.ite ?_ (Holds.pure _)) (Holds.pure _)
  exact h.of_startChild.bind fun _ => Holds.ite h.of_addAttempt (Holds.pure _)

/-- Every event. -/
theorem of_anyPerform (hready : ∀ child attempt, law.Holds (call child (.ready attempt)))
    {event : Event} : law.Holds (perform call event) := by
  have hall : ∀ state : ContextState, True := fun _ => trivial
  have hnext (child : ChildId) : law.Holds (processNextStates (pure ⟨⟩) call child) :=
    h.of_processNextStates (Holds.pure _) hall
  cases event with
  | negotiate => exact h.of_childrenNegotiate
  | quit => exact h.of_childrenQuit
  | idle =>
      refine Holds.getState (fun _ _ => rfl) fun s => Holds.ite ?_ (Holds.pure _)
      refine Holds.bind (h.update _ ⟨fun _ => rfl, fun _ => rfl, fun _ _ => rfl⟩) fun _ => ?_
      exact h.of_replyNegotiate h.of_checkFallbackStatusOnNegotiate
  | retry =>
      refine ObjectKeeps.of_withAttempt fun data => Holds.ite ?_ (Holds.pure _)
      exact h.of_childEstablishConnection.bind fun _ => h.of_removeAttempt
  | connected child => exact h.of_connectWatch (hready child)
  | flushed => exact h.of_flushed rfl hall
  | timeout => exact h.of_expireTimeout rfl (hnext _) (fun _ => rfl) rfl rfl rfl
  | reply child reply =>
      refine ConnectionKeeps.of_receive ?_
      by_cases hnegotiate : ∃ option, reply = .negotiateReply option
      · obtain ⟨option, rfl⟩ := hnegotiate
        refine h.of_decoderNegotiateReply (fun _ _ _ => ?_) ?_ rfl
        · exact h.child child _ (fun _ => rfl) fun _ => .inl rfl
        · exact h.child child _ (fun _ => rfl) fun _ => .inl rfl
      · refine h.of_decode ?_ trivial fun option heq => hnegotiate ⟨option, heq⟩
        cases reply <;> rfl
  | hangUp => exact h.of_hangUp rfl (hnext _)
  | fail => exact h.of_failConnection
  | failWriter => exact h.of_failWriter
  | setChunkSize => exact h.update _ ⟨fun _ => rfl, fun _ => rfl, fun _ _ => rfl⟩
  | stopOn child =>
      unfold perform
      apply h.child child
      · exact fun _ => rfl
      · exact fun _ => .inl rfl
  | _ => exact h.of_perform (fun _ _ => trivial) rfl

end Events

end RunKeeps

end MilterManager.Children
