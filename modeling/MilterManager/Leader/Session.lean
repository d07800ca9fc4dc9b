import MilterManager.Leader.Leader

/-!
# A session

The leader between the children object and the MTA: the commands of the MTA, from
`milter/manager/milter-manager-leader.c:988` on and `milter/client/milter-client-context.c:3309`
on, and everything that happens to the children object in between. The handlers of the leader
never call the children object, so they run behind one step of it.
-/

namespace MilterManager.Leader

open MilterManager.Base MilterManager.Core MilterManager.Children MilterManager.Client

/-- A leader with its children object. -/
structure Session where
  leader : LeaderContext
  children : State

/-- A program of a session. -/
abbrev SessionProgram := Proc Session LeaderAction

/-- Change the leader of a session. -/
def updateLeader (f : LeaderContext → LeaderContext) : SessionProgram PUnit :=
  Proc.update fun session => { session with leader := f session.leader }

/-- The leader runs. -/
def onLeader {α : Type} (m : LeaderProgram α) : SessionProgram α := fun session =>
  let outcome := m session.leader
  ⟨outcome.value, { session with leader := outcome.state }, outcome.trace⟩

/-- The children object runs and the leader takes notice. -/
def onChildren {α : Type} (m : Program α) : SessionProgram α := fun session =>
  let outcome := m session.children
  let observed := Proc.each observe outcome.trace session.leader
  ⟨outcome.value, ⟨observed.state, outcome.state⟩, observed.trace⟩

/-- The leader takes notice of one program after the other. -/
theorem onChildren_bind {α β : Type} (m : Program α) (f : α → Program β) :
    onChildren (m >>= f) = onChildren m >>= fun a => onChildren (f a) := by
  funext session
  simp [onChildren, Proc.each_append]

theorem onChildren_each {α : Type} (body : α → Program PUnit) (xs : List α) :
    onChildren (Proc.each body xs) = Proc.each (fun x => onChildren (body x)) xs := by
  induction xs with
  | nil => rfl
  | cons x xs ih => rw [Proc.each_cons, onChildren_bind, Proc.each_cons, ih]

/-- A command of the MTA: the leader enters the state of the command, the children object takes
the command or not, and in the latter case the client context responds with the fallback
status. -/
def forward (command : Client.Command) (enter : LeaderContext → LeaderContext)
    (m : Program Bool) : SessionProgram PUnit := do
  Proc.record fun _ => .commanded command
  updateLeader enter
  let accepted ← onChildren m
  let session ← Proc.getState
  Proc.when (!accepted) <| onLeader (respond command none session.leader.fallbackStatus)

/-- The leader is in the state of the command. -/
def entering (state : LeaderState) (leader : LeaderContext) : LeaderContext :=
  { leader with state := state }

/-- `is_replied_state`, `milter/manager/milter-manager-leader.c:1227`. -/
def LeaderState.isReplied : LeaderState → Bool
  | .negotiate | .connect | .helo | .envelopeFrom | .envelopeRecipient | .data | .unknown
  | .header | .endOfHeader | .body | .endOfMessage | .quit | .abort => false
  | _ => true

/-- The end of a message may come before the reply to its body,
`milter/manager/milter-manager-leader.c:1250`. -/
def enteringEndOfMessage (leader : LeaderContext) : LeaderContext :=
  if leader.state.isReplied then { leader with state := .endOfMessage }
  else { leader with sentEndOfMessage := true }

/-- `milter_manager_children_is_waiting_reply`,
`milter/manager/milter-manager-children.c:946`. -/
def isWaitingReply (s : State) : Bool :=
  match s.state with
  | .negotiate | .connect | .helo | .envelopeFrom | .envelopeRecipient | .data | .unknown =>
      s.replyQueue ≠ []
  | .header | .endOfHeader | .body | .endOfMessage =>
      s.commandWaitingChildQueue.head?.any fun child => (s.context child).isProcessing
  | _ => false

/-- `milter_manager_leader_check_connection`, `milter/manager/milter-manager-leader.c:161`. -/
def checkConnection (call : Handlers) (connected : Bool) : SessionProgram PUnit := do
  let session ← Proc.getState
  Proc.when (session.leader.processing ∧ isWaitingReply session.children ∧ !connected) do
    onLeader (reply session.leader.fallbackStatusAtDisconnect)
    onChildren (childrenAbort call)
    onChildren (childrenQuit call)

/-- What happens in a session. -/
inductive SessionEvent where
  | negotiate (offered : MilterOption) (established : ChildId → Bool)
  | connect (hostName : Bytes)
  | helo (fqdn : Bytes)
  | envelopeFrom (sender : Bytes)
  | envelopeRecipient (recipient : Bytes)
  | data
  | unknown (command : Bytes)
  | header (name : Bytes) (value : Option Bytes)
  | endOfHeader
  | body (chunk : Bytes)
  | endOfMessage (chunk : Option Bytes) (size : Nat)
  | quit
  | abort
  | checkConnection (connected : Bool)
  | other (event : Event)

/-- One event of a session, the handlers of the children object being entered through `call`. -/
def perform (call : Handlers) : SessionEvent → SessionProgram PUnit
  | .negotiate offered established => do
      Proc.record fun _ => .commanded .negotiate
      updateLeader fun leader =>
        { leader with state := .negotiate, client := { leader.client with option := some offered } }
      onChildren (childrenNegotiate offered established)
  | .connect hostName => forward .connect (entering .connect) (childrenConnect call hostName)
  | .helo fqdn => forward .helo (entering .helo) (childrenHelo call fqdn)
  | .envelopeFrom sender =>
      forward .envelopeFrom (entering .envelopeFrom) (childrenEnvelopeFrom call sender)
  | .envelopeRecipient recipient =>
      forward .envelopeRecipient (entering .envelopeRecipient)
        (childrenEnvelopeRecipient call recipient)
  | .data => forward .data (entering .data) (childrenData call)
  | .unknown command => forward .unknown (entering .unknown) (childrenUnknown call command)
  | .header name value => forward .header (entering .header) (childrenHeader call name value)
  | .endOfHeader => forward .endOfHeader (entering .endOfHeader) (childrenEndOfHeader call)
  | .body chunk => forward .body (entering .body) (childrenBody call chunk)
  | .endOfMessage chunk size =>
      forward .endOfMessage enteringEndOfMessage (childrenEndOfMessage call chunk size)
  | .quit => do
      updateLeader (entering .quit)
      onChildren (childrenQuit call)
  | .abort => do
      updateLeader (entering .abort)
      onChildren (childrenAbort call)
  | .checkConnection connected => checkConnection call connected
  | .other event => onChildren (Children.perform call event)

/-- A run of a session. -/
def run (depth : Nat) (events : List SessionEvent) : SessionProgram PUnit :=
  Proc.each (perform (dispatch depth)) events

end MilterManager.Leader
