import MilterManager.Children.Callbacks
import MilterManager.Children.ConnectionKeeps

/-!
# What the children object keeps

One pass over the functions of the children object that handle the commands of the MTA and the
replies of the children. Beyond what the connections do they change fields of the object, leave
entries in the trace, enter handlers and use the body that is stored; what holds of these programs
holds of all of them. The negotiation itself and the expiry of a child are left to whoever has the
property.
-/

namespace MilterManager.Children

open MilterManager.Base MilterManager.Core MilterManager.Server MilterManager.Base.Proc.Law

/-- The states that a child enters when a command is replayed to it. -/
def isReplayed : ContextState → Bool
  | .data | .header | .endOfHeader | .body | .endOfMessage => true
  | _ => false

/-- The callback of a connection that is ready for the negotiation. -/
def isReady : Callback → Bool
  | .ready _ => true
  | _ => false

/-- The part of the object that says what its connections are doing. -/
def State.connections (s : State) : (ChildId → Context) × List NegotiateData × Nat :=
  (s.context, s.tryNegotiateIds, s.attempts)

/-- What the owner of the object and its children see. -/
inductive Shown where
  | signal (signal : Signal)
  | packet (child : ChildId) (packet : Packet)
deriving DecidableEq, Repr

/-- What is seen of an entry of the trace. -/
def Action.shown : Action → Option Shown
  | .emitted _ signal => some (.signal signal)
  | .sent child packet => some (.packet child packet)
  | .called _ _ _ | .unreachable _ _ | .queued _ | .used _ _ | .disposed | .endless => none

/-- An entry of the trace that is about no connection. -/
def Action.isOwn : Action → Bool
  | .emitted _ _ | .queued _ | .disposed | .unreachable _ _ | .used _ _ | .endless => true
  | .called _ _ _ | .sent _ _ => false

/-- A signal that does not carry a part of the body. -/
def Signal.isAside : Signal → Bool
  | .replaceBody _ => false
  | _ => true

theorem isAside_statusToSignal (status : Status) : (statusToSignal status).isAside := by
  cases status <;> rfl

/-- An entry of the trace that is neither about a connection nor about the body. -/
def Action.isAside : Action → Bool
  | .emitted _ signal => signal.isAside
  | .queued _ | .unreachable _ _ => true
  | .called _ _ _ | .sent _ _ | .disposed | .used _ _ | .endless => false

theorem Action.isOwn_of_isAside {action : Action} (h : action.isAside) : action.isOwn := by
  cases action with
  | emitted | queued | unreachable => rfl
  | called | sent | disposed | used | endless => cases h

/-- A change of the object that leaves its connections alone and does not know where the body is
stored. -/
structure LeavesAlone (f : State → State) : Prop where
  connections : ∀ s, (f s).connections = s.connections
  storage : ∀ s, (f s).storage = s.storage
  withStorage : ∀ storage s, f (s.withStorage storage) = (f s).withStorage storage

/-- What holds of the programs of the connections, of changes of the other fields of the object and
of other entries of the trace; commands may be replayed. -/
structure AsideKeeps (law : ProgramLaw) (call : Handlers) (enters : ContextState → Prop) : Prop
    extends ConnectionKeeps law call enters fun callback => isReady callback = false where
  update : ∀ f : State → State, LeavesAlone f → law.Holds (Proc.update f)
  record : ∀ entry : State → Action, (∀ s, (entry s).isAside) →
    (∀ storage s, (entry (s.withStorage storage)).shown = (entry s).shown) →
    law.Holds (Proc.record entry)
  replayed : ∀ state, isReplayed state → enters state

/-- What holds besides of the programs that use the body that is stored. -/
structure ObjectKeeps (law : ProgramLaw) (call : Handlers) (enters : ContextState → Prop) : Prop
    extends AsideKeeps law call enters where
  store : ∀ chunk, law.Holds (storeBody chunk)
  rewind : law.Holds rewindBody
  replace : ∀ child chunk, law.Holds (replaceBody child chunk)
  begin : law.Holds initChildForBody
  send : ∀ child, law.Holds (sendStoredBody call child)
  emit : law.Holds emitReplaceBodySignal
  dispose : law.Holds disposeMessageRelatedData

/-- The commands of the MTA other than quit. -/
def isCommand : Event → Bool
  | .connect _ | .helo _ | .envelopeFrom _ | .envelopeRecipient _ | .data | .unknown _
  | .header _ _ | .endOfHeader | .body _ | .endOfMessage _ _ | .abort => true
  | _ => false

/-- The states that a child enters when a command that is not replayed is sent to it. -/
def isDirectlySent : ContextState → Bool
  | .connect | .helo | .envelopeFrom | .envelopeRecipient | .unknown => true
  | _ => false

namespace AsideKeeps

variable {law : ProgramLaw} {call : Handlers} {enters : ContextState → Prop}
variable {child : ChildId}

theorem of_statusOfSending {sent : Bool} : law.Holds (statusOfSending child sent) :=
  ConnectionKeeps.of_contextOf.bind fun _ => Holds.pure _

variable (h : AsideKeeps law call enters)

include h

theorem of_emitSignal {signal : Signal} (hsignal : signal.isAside) :
    law.Holds (emitSignal signal) :=
  h.record _ (fun _ => hsignal) fun _ _ => rfl

theorem of_initCommandWaitingChildQueue {command : Command} :
    law.Holds (initCommandWaitingChildQueue call command) := by
  unfold initCommandWaitingChildQueue
  refine Holds.bind (h.update _ ⟨fun _ => rfl, fun _ => rfl, fun _ _ => rfl⟩) fun _ => ?_
  refine Holds.getState (fun _ _ => rfl) fun s => Holds.ite (Holds.pure _) ?_
  refine Holds.each _ fun child _ => ConnectionKeeps.of_contextOf.bind fun context => ?_
  refine Holds.ite (Holds.ite ?_ ?_) (Holds.pure _)
  · exact Holds.bind (h.record _ (fun _ => rfl) fun _ _ => rfl) fun _ =>
      h.update _ ⟨fun _ => rfl, fun _ => rfl, fun _ _ => rfl⟩
  · exact h.of_serverAbort.bind fun _ => Holds.pure _

end AsideKeeps

namespace ObjectKeeps

variable {law : ProgramLaw} {call : Handlers} {enters : ContextState → Prop}
variable {child : ChildId}

section Invariant

variable {inv : List Action → State → Prop}

/-- An invariant that no change of the fields beside the connections breaks, nor an entry of the
trace about none, is kept wherever the body is used. -/
theorem of_invariant
    (h : ConnectionKeeps (.keeps inv) call enters fun callback => isReady callback = false)
    (hupdate : ∀ f : State → State, (∀ s, (f s).connections = s.connections) →
      Proc.Keeps inv (Proc.update f))
    (hrecord : ∀ entry : State → Action, (∀ s, (entry s).isOwn) →
      Proc.Keeps inv (Proc.record entry))
    (hreplayed : ∀ state, isReplayed state → enters state) :
    ObjectKeeps (.keeps inv) call enters := by
  have haside : AsideKeeps (.keeps inv) call enters :=
    { h with
      update := fun f hf => hupdate f hf.connections
      record := fun entry hentry _ => hrecord entry fun s => Action.isOwn_of_isAside (hentry s)
      replayed := hreplayed }
  have hwrite {chunk : Bytes} : Proc.Keeps inv (writeBody chunk) := by
    refine hupdate _ fun s => ?_
    split
    · rfl
    · dsimp only
      split <;> rfl
  have hmark {use : BodyUse} : Proc.Keeps inv (Proc.record fun s => .used s use) :=
    hrecord _ fun _ => rfl
  have hdisposed : Proc.Keeps inv disposeBodyRelatedData := hupdate _ fun _ => rfl
  have hchunk {chunk : Bytes} : Proc.Keeps inv (emitChunk chunk) :=
    Proc.Keeps.getState.bind fun _ => hrecord _ fun _ => rfl
  have hstring {body : Bytes} {chunkSize rounds offset : Nat} :
      Proc.Keeps inv (emitReplaceBodySignalString body chunkSize rounds offset) := by
    induction rounds generalizing offset with
    | zero => exact hrecord _ fun _ => rfl
    | succ rounds ih => exact Proc.Keeps.ite (Proc.Keeps.pure _) (hchunk.bind fun _ => ih)
  have hfile {chunkSize rounds : Nat} :
      Proc.Keeps inv (emitReplaceBodySignalFile chunkSize rounds) := by
    induction rounds with
    | zero => exact hrecord _ fun _ => rfl
    | succ rounds ih =>
        refine Proc.Keeps.getState.bind fun s => ?_
        split
        · exact Proc.Keeps.pure _
        · exact Proc.Keeps.bind (hupdate _ fun _ => rfl) fun _ => hchunk.bind fun _ => ih
  refine { haside with
    store := fun chunk => hmark.bind fun _ => hwrite
    rewind := hmark.bind fun _ => hupdate _ fun _ => rfl
    replace := fun child chunk => ?_
    begin := hmark.bind fun _ => hupdate _ fun s => ?_
    send := fun child => ?_
    emit := hmark.bind fun _ => Proc.Keeps.getState.bind fun s => Proc.Keeps.bind ?_ fun _ => hmark
    dispose := ?_ }
  · refine hmark.bind fun _ => Proc.Keeps.getState.bind fun s => ?_
    refine (Proc.Keeps.when fun _ => hdisposed).bind fun _ => ?_
    exact hwrite.bind fun _ => hupdate _ fun _ => rfl
  · dsimp only
    split <;> rfl
  · have hbody {chunk : Bytes} : Proc.Keeps inv (serverBody call child chunk) :=
      h.of_serverBody rfl (hreplayed _ rfl) rfl
    have hstatus {sent : Bool} : (ProgramLaw.keeps inv).Holds (statusOfSending child sent) :=
      AsideKeeps.of_statusOfSending
    refine hmark.bind fun _ => Proc.Keeps.getState.bind fun s => ?_
    split
    · unfold sendBodyToChildString
      refine Proc.Keeps.getState.bind fun s => Proc.Keeps.ite ?_ ?_
      · exact hmark.bind fun _ => Proc.Keeps.pure _
      refine hmark.bind fun _ => hbody.bind fun sent => hmark.bind fun _ => ?_
      refine (Proc.Keeps.when fun _ => ?_).bind fun _ => hstatus
      exact Proc.Keeps.bind (hupdate _ fun _ => rfl) fun _ => haside.of_initCommandWaitingChildQueue
    · unfold sendBodyToChildFile
      refine Proc.Keeps.getState.bind fun s => ?_
      split
      · exact Proc.Keeps.pure _
      split
      · exact hmark.bind fun _ => Proc.Keeps.pure _
      refine Proc.Keeps.bind (hupdate _ fun _ => rfl) fun _ => hmark.bind fun _ => ?_
      exact hbody.bind fun sent => hmark.bind fun _ => hstatus
  · split
    · exact hstring
    · exact Proc.Keeps.bind (hupdate _ fun _ => rfl) fun _ => hfile
  · refine Proc.Keeps.bind (hrecord _ fun _ => rfl) fun _ => ?_
    refine Proc.Keeps.bind (hupdate _ fun _ => rfl) fun _ => ?_
    refine Proc.Keeps.bind (hupdate _ fun _ => rfl) fun _ => ?_
    exact hdisposed.bind fun _ => hupdate _ fun _ => rfl

/-- What was true of an earlier trace and stays so is kept besides. -/
theorem and_past {P : List Action → Prop} (hP : ∀ front back, P front → P (front ++ back))
    (h : ObjectKeeps (.keeps inv) call enters) :
    ObjectKeeps (.keeps fun past s => inv past s ∧ P past) call enters where
  toConnectionKeeps := h.toConnectionKeeps.and_past hP
  update f hf := (h.update f hf).and_past hP
  record entry hentry hshown := (h.record entry hentry hshown).and_past hP
  replayed := h.replayed
  store chunk := (h.store chunk).and_past hP
  rewind := h.rewind.and_past hP
  replace child chunk := (h.replace child chunk).and_past hP
  begin := h.begin.and_past hP
  send child := (h.send child).and_past hP
  emit := h.emit.and_past hP
  dispose := h.dispose.and_past hP

end Invariant

variable (h : ObjectKeeps law call enters)

include h

theorem of_compileReplyStatus {state : ContextState} {status : Status} :
    law.Holds (compileReplyStatus state status) := by
  refine Holds.getState (fun _ _ => rfl) fun s => Holds.ite ?_ (Holds.pure _)
  exact h.update _ ⟨fun _ => rfl, fun _ => rfl, fun _ _ => rfl⟩

theorem of_emitReplyStatusOfState {state : ContextState} :
    law.Holds (emitReplyStatusOfState state) := by
  unfold emitReplyStatusOfState
  refine Holds.getState (fun _ _ => rfl) fun s => Holds.bind ?_ fun _ =>
    Holds.when fun _ => h.dispose
  refine Holds.ite ?_ (Holds.when fun _ => h.of_emitSignal (isAside_statusToSignal _))
  exact (h.of_emitSignal rfl).bind fun _ => h.update _ ⟨fun _ => rfl, fun _ => rfl, fun _ _ => rfl⟩

theorem of_emitSignalsOnEndOfMessage :
    law.Holds emitSignalsOnEndOfMessage := by
  unfold emitSignalsOnEndOfMessage
  refine Holds.getState (fun _ _ => rfl) fun s => ?_
  refine Holds.bind (Holds.when fun _ => h.emit) fun _ => ?_
  refine Holds.bind ?_ fun _ => Holds.bind ?_ fun _ => ?_
  · cases s.originalHeaders with
    | none => exact Holds.pure _
    | some headers => exact Holds.each _ fun _ _ => h.of_emitSignal rfl
  · cases s.changeFrom with
    | none => exact Holds.pure _
    | some sender => exact h.of_emitSignal rfl
  · cases s.quarantineReason with
    | none => exact Holds.pure _
    | some reason => exact h.of_emitSignal rfl

theorem of_emitReplyForMessageOrientedCommand {state : ContextState} :
    law.Holds (emitReplyForMessageOrientedCommand state) := by
  unfold emitReplyForMessageOrientedCommand
  refine Holds.getState (fun _ _ => rfl) fun s => Holds.ite (Holds.pure _) ?_
  refine Holds.bind (h.update _ ⟨fun _ => rfl, fun _ => rfl, fun _ _ => rfl⟩) fun _ => ?_
  exact Holds.bind (Holds.when fun _ => h.of_emitSignalsOnEndOfMessage) fun _ =>
    h.of_emitReplyStatusOfState

theorem of_handleStatus {status : Status} :
    law.Holds (handleStatus status) :=
  Holds.ite (Holds.pure _) (h.of_emitSignal (isAside_statusToSignal _))

theorem of_sendNextHeaderToChild :
    law.Holds (sendNextHeaderToChild call child) := by
  unfold sendNextHeaderToChild
  refine Holds.bind (h.update _ ⟨fun _ => rfl, fun _ => rfl, fun _ _ => rfl⟩) fun _ => ?_
  refine Holds.getState (fun _ _ => rfl) fun s => ?_
  split
  · exact Holds.pure _
  · refine (h.of_serverHeader rfl (h.replayed _ rfl) rfl).bind fun sent => ?_
    refine Holds.ite ?_ (ConnectionKeeps.of_contextOf.bind fun _ => Holds.pure _)
    refine Holds.getState (fun _ _ => rfl) fun s => Holds.bind ?_ fun _ => Holds.pure _
    exact Holds.when fun _ => h.of_emitOn rfl

theorem of_sendBodyToChild :
    law.Holds (sendBodyToChild call child) := by
  unfold sendBodyToChild
  refine Holds.bind (h.update _ ⟨fun _ => rfl, fun _ => rfl, fun _ _ => rfl⟩) fun _ => ?_
  refine Holds.getState (fun _ _ => rfl) fun s => Holds.ite ?_ ?_
  · exact Holds.bind (h.update _ ⟨fun _ => rfl, fun _ => rfl, fun _ _ => rfl⟩) fun _ => Holds.pure _
  refine (h.send child).bind fun status => Holds.getState (fun _ _ => rfl) fun s => ?_
  refine Holds.bind (Holds.when fun _ => h.of_emitOn rfl) fun _ => ?_
  refine Holds.bind (Holds.when fun _ => ?_) fun _ => Holds.pure _
  exact h.update _ ⟨fun _ => rfl, fun _ => rfl, fun _ _ => rfl⟩

theorem of_sendCommandToChild {command : Command} :
    law.Holds (sendCommandToChild call child command) := by
  cases command with
  | header => exact h.of_sendNextHeaderToChild
  | body => exact h.of_sendBodyToChild
  | data => exact ConnectionKeeps.of_contextOf.bind fun _ => Holds.pure _
  | endOfHeader =>
      refine Holds.bind (h.update _ ⟨fun _ => rfl, fun _ => rfl, fun _ _ => rfl⟩) fun _ => ?_
      refine (h.of_serverEndOfHeader rfl (h.replayed _ rfl) rfl).bind fun sent => ?_
      refine Holds.ite ?_ (ConnectionKeeps.of_contextOf.bind fun _ => Holds.pure _)
      refine Holds.getState (fun _ _ => rfl) fun s => Holds.bind ?_ fun _ => Holds.pure _
      exact Holds.when fun _ => h.of_emitOn rfl
  | endOfMessage =>
      refine Holds.bind (h.update _ ⟨fun _ => rfl, fun _ => rfl, fun _ _ => rfl⟩) fun _ => ?_
      refine Holds.getState (fun _ _ => rfl) fun s => ?_
      exact (h.of_serverEndOfMessage rfl (h.replayed _ rfl) rfl).bind fun sent =>
        AsideKeeps.of_statusOfSending

theorem of_sendNextCommand {state : ContextState} :
    law.Holds (sendNextCommand call child state) := by
  unfold sendNextCommand
  refine Holds.getState (fun _ _ => rfl) fun s => ?_
  split
  · exact Holds.pure _
  · exact Holds.bind (Holds.when fun _ => h.begin) fun _ =>
      h.of_sendCommandToChild

theorem of_sendFirstCommandToNextChild :
    law.Holds (sendFirstCommandToNextChild call child) := by
  unfold sendFirstCommandToNextChild
  refine Holds.bind (h.update _ ⟨fun _ => rfl, fun _ => rfl, fun _ _ => rfl⟩) fun _ => ?_
  refine Holds.getState (fun _ _ => rfl) fun s => Holds.bind ?_ fun _ => Holds.pure _
  split
  · exact h.of_emitReplyForMessageOrientedCommand
  · split
    · exact h.of_emitSignal rfl
    · exact h.of_sendCommandToChild.bind fun _ => Holds.pure _

theorem of_sendCommandToFirstWaitingChild {command : Command} :
    law.Holds (sendCommandToFirstWaitingChild call command) := by
  unfold sendCommandToFirstWaitingChild
  refine Holds.getState (fun _ _ => rfl) fun s => ?_
  split
  · exact Holds.pure _
  · exact h.of_sendCommandToChild

theorem of_checkProcessingMessage :
    law.Holds checkProcessingMessage := by
  unfold checkProcessingMessage
  refine Holds.getState (fun _ _ => rfl) fun s => Holds.ite (Holds.pure _) ?_
  exact (h.of_emitSignal rfl).bind fun _ => Holds.pure _

theorem of_initReplyQueue {state : ContextState} :
    law.Holds (initReplyQueue state) := by
  refine Holds.bind (h.update _ ⟨fun _ => rfl, fun _ => rfl, fun _ _ => rfl⟩) fun _ => ?_
  exact Holds.bind (h.update _ ⟨fun _ => rfl, fun _ => rfl, fun _ _ => rfl⟩) fun _ =>
    h.update _ ⟨fun _ => rfl, fun _ => rfl, fun _ _ => rfl⟩

omit h in
theorem of_sendToTargets {send : ChildId → Program Bool}
    (hsend : ∀ child, law.Holds (send child)) (targets : List ChildId) :
    law.Holds (sendToTargets send targets) := by
  induction targets with
  | nil => exact Holds.pure _
  | cons target targets ih =>
      exact (hsend target).bind fun _ => ih.bind fun _ => Holds.pure _

theorem of_sendToReplyQueue {state : ContextState} {send : ChildId → Program Bool}
    (hsend : ∀ child, law.Holds (send child)) :
    law.Holds (sendToReplyQueue call state send) := by
  unfold sendToReplyQueue
  refine Holds.getState (fun _ _ => rfl) fun s => (of_sendToTargets hsend _).bind fun _ => ?_
  refine Holds.bind (Holds.each _ fun child _ => ?_) fun _ => Holds.pure _
  refine ConnectionKeeps.of_contextOf.bind fun context => Holds.ite ?_ (Holds.pure _)
  exact h.called child .continue rfl rfl

theorem of_childrenData : law.Holds (childrenData call) := by
  unfold childrenData
  refine h.of_checkProcessingMessage.bind fun _ => Holds.ite ?_ (Holds.pure _)
  refine h.of_initReplyQueue.bind fun _ => Holds.getState (fun _ _ => rfl) fun s => ?_
  refine Holds.bind (Holds.each _ fun child _ => ?_) fun _ =>
    h.of_sendToReplyQueue fun child =>
      h.of_serverData rfl (h.replayed _ rfl) rfl
  refine ConnectionKeeps.of_contextOf.bind fun context => Holds.ite ?_ (Holds.pure _)
  refine Holds.ite (h.update _ ⟨fun _ => rfl, fun _ => rfl, fun _ _ => rfl⟩) ?_
  exact h.of_serverAbort.bind fun _ => Holds.pure _

theorem of_messageCommand {request : PendingMessageRequest} {perform : Program Bool}
    (hperform : law.Holds perform) :
    law.Holds (messageCommand call request perform) := by
  unfold messageCommand
  refine h.of_checkProcessingMessage.bind fun _ => Holds.ite ?_ (Holds.pure _)
  refine Holds.getState (fun _ _ => rfl) fun s => Holds.ite ?_ hperform
  refine h.of_childrenData.bind fun _ => ?_
  exact Holds.bind (Holds.when fun _ => h.update _
    ⟨fun _ => rfl, fun _ => rfl, fun _ _ => rfl⟩) fun _ =>
    Holds.pure _

theorem of_childrenHeader {name : Bytes} {value : Option Bytes} :
    law.Holds (childrenHeader call name value) := by
  refine h.of_messageCommand ?_
  refine Holds.bind (h.update _ ⟨fun _ => rfl, fun _ => rfl, fun _ _ => rfl⟩) fun _ => ?_
  refine Holds.bind (h.update _ ⟨fun _ => rfl, fun _ => rfl, fun _ _ => rfl⟩) fun _ => ?_
  refine h.of_initCommandWaitingChildQueue.bind fun _ => ?_
  exact h.of_sendCommandToFirstWaitingChild.bind fun _ => Holds.pure _

theorem of_childrenEndOfHeader :
    law.Holds (childrenEndOfHeader call) := by
  refine h.of_messageCommand ?_
  refine Holds.bind (h.update _ ⟨fun _ => rfl, fun _ => rfl, fun _ _ => rfl⟩) fun _ => ?_
  refine h.of_initCommandWaitingChildQueue.bind fun _ => ?_
  exact h.of_sendCommandToFirstWaitingChild.bind fun _ => Holds.pure _

theorem of_childrenBody {chunk : Bytes} :
    law.Holds (childrenBody call chunk) := by
  refine h.of_messageCommand ?_
  refine h.of_initCommandWaitingChildQueue.bind fun _ => ?_
  refine Holds.getState (fun _ _ => rfl) fun s => ?_
  split
  · exact Holds.pure _
  · refine (h.store chunk).bind fun _ => ?_
    refine Holds.bind (h.update _ ⟨fun _ => rfl, fun _ => rfl, fun _ _ => rfl⟩) fun _ => ?_
    refine Holds.bind (h.update _ ⟨fun _ => rfl, fun _ => rfl, fun _ _ => rfl⟩) fun _ => ?_
    refine ConnectionKeeps.of_contextOf.bind fun context => Holds.ite ?_ ?_
    · refine (h.of_setContextState (h.replayed _ rfl)).bind fun _ => ?_
      exact (h.of_emitOn rfl).bind fun _ => Holds.pure _
    · exact h.of_serverBody rfl (h.replayed _ rfl) rfl

theorem of_childrenEndOfMessage {chunk : Option Bytes} {size : Nat} :
    law.Holds (childrenEndOfMessage call chunk size) := by
  refine h.of_messageCommand ?_
  refine h.of_initCommandWaitingChildQueue.bind fun _ => ?_
  refine Holds.bind (h.update _ ⟨fun _ => rfl, fun _ => rfl, fun _ _ => rfl⟩) fun _ => ?_
  refine h.rewind.bind fun _ => ?_
  refine Holds.bind (h.update _ ⟨fun _ => rfl, fun _ => rfl, fun _ _ => rfl⟩) fun _ => ?_
  exact h.of_sendCommandToFirstWaitingChild.bind fun _ => Holds.pure _

theorem of_resumePendingMessageRequest {status : Status} :
    law.Holds (resumePendingMessageRequest call status) := by
  unfold resumePendingMessageRequest
  refine Holds.getState (fun _ _ => rfl) fun s => ?_
  split
  · exact Holds.pure _
  · next request _ =>
      refine Holds.bind (Holds.ite ?_ (Holds.pure _)) fun _ =>
        Holds.bind (h.update _ ⟨fun _ => rfl, fun _ => rfl, fun _ _ => rfl⟩) fun _ => Holds.pure _
      cases request with
      | header => exact h.of_childrenHeader
      | endOfHeader => exact h.of_childrenEndOfHeader
      | body => exact h.of_childrenBody
      | endOfMessage => exact h.of_childrenEndOfMessage

theorem of_childrenAbort : law.Holds (childrenAbort call) := by
  unfold childrenAbort
  refine Holds.bind (h.update _ ⟨fun _ => rfl, fun _ => rfl, fun _ _ => rfl⟩) fun _ => ?_
  refine Holds.getState (fun _ _ => rfl) fun s => ?_
  refine Holds.bind (Holds.each _ fun child _ => ?_) fun _ => ?_
  · refine ConnectionKeeps.of_contextOf.bind fun context => Holds.ite ?_ (Holds.pure _)
    exact h.of_serverAbort.bind fun _ => Holds.pure _
  refine h.dispose.bind fun _ => Holds.each _ fun child _ => ?_
  refine ConnectionKeeps.of_contextOf.bind fun context => Holds.ite ?_ (Holds.pure _)
  exact h.context child _ fun _ => ⟨rfl, .inl rfl, rfl, id⟩

theorem of_removeChildFromQueue :
    law.Holds (removeChildFromQueue call child) := by
  unfold removeChildFromQueue
  refine Holds.bind (h.update _ ⟨fun _ => rfl, fun _ => rfl, fun _ _ => rfl⟩) fun _ => ?_
  refine Holds.getState (fun _ _ => rfl) fun s => Holds.ite (Holds.pure _) ?_
  refine h.of_resumePendingMessageRequest.bind fun processed => ?_
  refine Holds.ite (Holds.pure _) (Holds.getState (fun _ _ => rfl) fun s => ?_)
  refine h.of_emitReplyStatusOfState.bind fun _ => Holds.getState (fun _ _ => rfl) fun s => ?_
  exact Holds.bind (Holds.when fun _ => h.of_childrenAbort) fun _ =>
    Holds.pure _

theorem of_cbContinue : law.Holds (cbContinue call child) := by
  unfold cbContinue
  refine ConnectionKeeps.of_contextOf.bind fun context => ?_
  refine h.of_compileReplyStatus.bind fun _ => Holds.bind ?_ fun _ =>
    h.of_handleStatus
  unfold continueFrom
  refine Holds.getState (fun _ _ => rfl) fun s => ?_
  split
  · exact h.of_sendNextCommand
  · refine Holds.ite (Holds.pure _) (Holds.ite ?_ ?_)
    · exact h.of_sendNextHeaderToChild
    · exact h.of_sendNextCommand
  · refine Holds.ite (Holds.pure _) (Holds.ite ?_ ?_)
    · refine h.of_sendBodyToChild.bind fun status => ?_
      exact Holds.ite h.of_sendNextCommand (Holds.pure _)
    · exact h.of_sendNextCommand
  · exact h.of_sendFirstCommandToNextChild
  · exact h.of_removeChildFromQueue.bind fun _ => Holds.pure _

theorem of_leaveMessage : law.Holds
    (updateContext child fun context => { context with processingMessage := false }) :=
  h.context child _ fun _ => ⟨rfl, .inl rfl, rfl, id⟩

theorem of_cbSkip : law.Holds (cbSkip call child) := by
  unfold cbSkip
  refine ConnectionKeeps.of_contextOf.bind fun context => ?_
  refine h.of_compileReplyStatus.bind fun _ => Holds.getState (fun _ _ => rfl) fun s => ?_
  refine Holds.ite (h.of_emitSignal rfl) ?_
  exact h.of_sendNextCommand.bind fun _ => Holds.pure _

section Leaving

variable (hquit : law.Holds
  (updateContext child fun context => { context with quitted := true }))

include hquit

theorem of_refuse {refusal : Status} :
    law.Holds (refuse call child refusal) := by
  unfold refuse
  refine ConnectionKeeps.of_contextOf.bind fun context => ?_
  refine h.of_compileReplyStatus.bind fun _ => ?_
  split
  case h_8 => exact (h.of_serverQuit hquit).bind fun _ => Holds.pure _
  case h_3 =>
    exact h.of_removeChildFromQueue.bind fun _ => Holds.pure _
  case h_1 | h_2 =>
    refine h.of_leaveMessage.bind fun _ => ?_
    exact h.of_removeChildFromQueue.bind fun _ => Holds.pure _
  all_goals
    refine h.of_leaveMessage.bind fun _ => ?_
    exact h.of_emitReplyForMessageOrientedCommand.bind fun _ =>
      h.of_childrenAbort

theorem of_cbReplyCode {code : Nat} {extendedCode message : Option Bytes} :
    law.Holds (cbReplyCode call child code extendedCode message) := by
  unfold cbReplyCode
  refine Holds.bind (h.update _ ⟨fun _ => rfl, fun _ => rfl, fun _ _ => rfl⟩) fun _ => ?_
  refine Holds.bind (h.update _ ⟨fun _ => rfl, fun _ => rfl, fun _ _ => rfl⟩) fun _ =>
    Holds.ite ?_ ?_
  · exact h.of_refuse hquit
  · exact h.of_refuse hquit

theorem of_cbAccept : law.Holds (cbAccept call child) := by
  unfold cbAccept
  refine ConnectionKeeps.of_contextOf.bind fun context => ?_
  refine h.of_compileReplyStatus.bind fun _ => ?_
  split
  case h_8 => exact (h.of_serverQuit hquit).bind fun _ => Holds.pure _
  case h_1 | h_2 | h_3 =>
    refine h.of_leaveMessage.bind fun _ => ?_
    exact h.of_removeChildFromQueue.bind fun _ => Holds.pure _
  all_goals
    refine h.of_leaveMessage.bind fun _ => ?_
    exact h.of_sendFirstCommandToNextChild.bind fun _ => Holds.pure _

theorem of_modification {modify : Program PUnit}
    (hmodify : law.Holds modify) :
    law.Holds (modification call child modify) := by
  unfold modification
  refine ConnectionKeeps.of_contextOf.bind fun context => Holds.ite ?_ ?_
  · exact Holds.ite hmodify (Holds.pure _)
  · exact (h.of_serverQuit hquit).bind fun _ => Holds.pure _

theorem of_cbReplaceBody {chunk : Bytes} :
    law.Holds (cbReplaceBody call child chunk) :=
  h.of_modification hquit (h.replace child chunk)

theorem of_cbProgress : law.Holds (cbProgress call child) := by
  unfold cbProgress
  refine ConnectionKeeps.of_contextOf.bind fun context => Holds.ite ?_ ?_
  · exact h.of_emitSignal rfl
  · exact (h.of_serverQuit hquit).bind fun _ => Holds.pure _

theorem of_cbStopped : law.Holds (cbStopped call child) := by
  have hcontinue := @of_cbContinue law call enters child h
  have hnext := @of_sendFirstCommandToNextChild law call enters child h
  unfold cbStopped
  refine ConnectionKeeps.of_contextOf.bind fun context => ?_
  dsimp only
  split
  case h_3 => exact h.of_compileReplyStatus.bind fun _ => hcontinue
  case h_4 => exact hcontinue
  case h_1 | h_2 | h_10 =>
    refine h.of_compileReplyStatus.bind fun _ => h.of_serverAbort.bind fun _ => ?_
    exact (h.of_serverQuit hquit).bind fun _ => Holds.pure _
  all_goals
    refine h.of_compileReplyStatus.bind fun _ => h.of_serverAbort.bind fun _ => ?_
    exact hnext.bind fun _ => Holds.pure _

end Leaving

section Expiry

variable (hexpire : law.Holds (expireChild child))
variable (hcheck : law.Holds checkFallbackStatusOnNegotiate)

include hcheck

theorem of_replyNegotiate : law.Holds replyNegotiate := by
  unfold replyNegotiate
  refine Holds.getState (fun _ _ => rfl) fun s => ?_
  split
  · exact h.of_emitSignal rfl
  · refine Holds.bind (h.update _ ⟨fun _ => rfl, fun _ => rfl, fun _ _ => rfl⟩) fun _ => ?_
    exact Holds.getState (fun _ _ => rfl) fun s => (h.of_emitSignal rfl).bind fun _ => hcheck

theorem of_removeQueueInNegotiate : law.Holds (removeQueueInNegotiate child) := by
  refine Holds.bind (h.update _ ⟨fun _ => rfl, fun _ => rfl, fun _ _ => rfl⟩) fun _ => ?_
  exact Holds.getState (fun _ _ => rfl) fun s =>
    Holds.ite (h.of_replyNegotiate hcheck) (Holds.pure _)

theorem of_cbNegotiateReply {reply : MilterOption} :
    law.Holds (cbNegotiateReply child reply) := by
  unfold cbNegotiateReply
  refine Holds.getState (fun _ _ => rfl) fun s => Holds.bind ?_ fun _ =>
    h.of_removeQueueInNegotiate hcheck
  split
  · exact h.of_emitSignal rfl
  · exact h.update _ ⟨fun _ => rfl, fun _ => rfl, fun _ _ => rfl⟩

include hexpire

omit hcheck in
theorem of_fallBack : law.Holds (fallBack call child) := by
  unfold fallBack
  refine ConnectionKeeps.of_contextOf.bind fun context => ?_
  refine h.of_compileReplyStatus.bind fun _ => hexpire.bind fun _ => ?_
  exact h.of_removeChildFromQueue.bind fun _ => Holds.pure _

theorem of_cbFinished : law.Holds (cbFinished call child) := by
  unfold cbFinished
  refine ConnectionKeeps.of_contextOf.bind fun context => ?_
  refine Holds.bind (Holds.when fun _ => h.of_compileReplyStatus) fun _ => ?_
  refine hexpire.bind fun _ => Holds.getState (fun _ _ => rfl) fun s => ?_
  split
  case h_1 => exact h.of_removeQueueInNegotiate hcheck
  case h_6 => exact h.of_removeChildFromQueue.bind fun _ => Holds.pure _
  all_goals
    refine Holds.ite ?_ (Holds.pure _)
    exact h.of_sendFirstCommandToNextChild.bind fun _ => Holds.pure _

end Expiry

/-- The handlers of the signals of a child that is connected. -/
theorem of_handle
    (hquit : law.Holds (updateContext child fun context => { context with quitted := true }))
    (hexpire : law.Holds (expireChild child))
    (hcheck : law.Holds checkFallbackStatusOnNegotiate)
    {callback : Callback} (hcallback : isDirect callback = false ∨ callback = .continue) :
    law.Holds (handle call child callback) := by
  cases callback with
  | negotiateReply => exact h.of_cbNegotiateReply hcheck
  | «continue» => exact h.of_cbContinue
  | replyCode => exact h.of_cbReplyCode hquit
  | temporaryFailure | reject | discard => exact h.of_refuse hquit
  | accept => exact h.of_cbAccept hquit
  | addHeader | insertHeader | changeHeader | deleteHeader | changeFrom | quarantine =>
      exact h.of_modification hquit (h.update _ ⟨fun _ => rfl, fun _ => rfl, fun _ _ => rfl⟩)
  | addRecipient | deleteRecipient => exact h.of_modification hquit (h.of_emitSignal rfl)
  | replaceBody => exact h.of_cbReplaceBody hquit
  | progress => exact h.of_cbProgress hquit
  | connectionFailure | shutdown => exact h.of_emitSignal rfl
  | skip => exact h.of_cbSkip
  | stopped => exact h.of_cbStopped hquit
  | writingTimeout | readingTimeout | endOfMessageTimeout | error => exact h.of_fallBack hexpire
  | finished => exact h.of_cbFinished hexpire hcheck
  | ready | connectionTimeout | connectionError => simp [isDirect] at hcallback

omit h in
theorem of_withAttempt {attempt : Nat} {handle : NegotiateData → Program PUnit}
    (hhandle : ∀ data, law.Holds (handle data)) :
    law.Holds (withAttempt attempt handle) := by
  unfold withAttempt
  refine Holds.getState (fun _ _ => rfl) fun s => ?_
  split
  · exact Holds.pure _
  · exact hhandle _

theorem of_startChild : law.Holds (startChild child) := by
  unfold startChild
  refine Holds.getState (fun _ _ => rfl) fun s => Holds.ite (Holds.pure _) ?_
  refine Holds.ite (Holds.pure _) (Holds.ite ?_ (Holds.pure _))
  exact (h.of_emitSignal rfl).bind fun _ => Holds.pure _

theorem of_checkAlive : law.Holds checkAlive := by
  unfold checkAlive
  refine Holds.getState (fun _ _ => rfl) fun s => Holds.ite (Holds.pure _) ?_
  refine Holds.ite (Holds.pure _) ?_
  exact (h.of_emitSignal rfl).bind fun _ => Holds.pure _

/-- A command goes to the children it is meant for once a check has passed. -/
theorem of_command {check : Program Bool} {state : ContextState}
    {takes : Context → Bool} {send : ChildId → Program Bool}
    (hcheck : law.Holds check)
    (hsend : ∀ child, law.Holds (send child)) :
    law.Holds (ignoring (do
      if ← check then sendToAll call state takes send else pure false)) := by
  refine Holds.bind ?_ fun _ => Holds.pure _
  refine hcheck.bind fun _ => Holds.ite ?_ (Holds.pure _)
  refine h.of_initReplyQueue.bind fun _ => Holds.getState (fun _ _ => rfl) fun s => ?_
  refine Holds.bind (Holds.each _ fun child _ => ?_) fun _ =>
    h.of_sendToReplyQueue hsend
  exact h.update _ ⟨fun _ => rfl, fun _ => rfl, fun _ _ => rfl⟩

/-- The commands of the MTA. -/
theorem of_perform (hsent : ∀ state, isDirectlySent state → enters state) {event : Event}
    (hevent : isCommand event) : law.Holds (perform call event) := by
  cases event with
  | connect =>
      exact h.of_command h.of_checkAlive fun child => h.of_serverConnect rfl (hsent _ rfl) rfl
  | helo => exact h.of_command h.of_checkAlive fun child => h.of_serverHelo rfl (hsent _ rfl) rfl
  | envelopeFrom =>
      exact h.of_command h.of_checkAlive fun child => h.of_serverEnvelopeFrom rfl (hsent _ rfl) rfl
  | envelopeRecipient =>
      exact h.of_command h.of_checkProcessingMessage fun child =>
        h.of_serverEnvelopeRecipient rfl (hsent _ rfl) rfl
  | unknown => exact h.of_command h.of_checkAlive fun child => h.of_serverUnknown (hsent _ rfl) rfl
  | data => exact h.of_childrenData.bind fun _ => Holds.pure _
  | header => exact h.of_childrenHeader.bind fun _ => Holds.pure _
  | endOfHeader => exact h.of_childrenEndOfHeader.bind fun _ => Holds.pure _
  | body => exact h.of_childrenBody.bind fun _ => Holds.pure _
  | endOfMessage => exact h.of_childrenEndOfMessage.bind fun _ => Holds.pure _
  | abort => exact h.of_childrenAbort
  | _ => cases hevent

end ObjectKeeps

end MilterManager.Children
