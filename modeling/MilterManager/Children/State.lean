import Mathlib.Logic.Function.Basic
import MilterManager.Base.Proc
import MilterManager.Children.HeaderDiff
import MilterManager.Server.Context

/-!
# The children object

The private data of a `MilterManagerChildren`, from
`milter/manager/milter-manager-children.c:69`, the signals it emits, the packets it sends to its
children, and the handlers it connects to them. A handler is entered through a parameter that
every function takes: `dispatch` of `Children/Callbacks.lean` puts the handlers themselves there.
-/

namespace MilterManager.Children

open MilterManager.Base MilterManager.Core MilterManager.Server

/-- A child, by its position in the list the configuration gives. -/
abbrev ChildId := Nat

/-- The domain of a `GError`, which decides what an error handler does. -/
inductive ErrorDomain where
  | serverContext
  | children
  | other
deriving DecidableEq, Repr

/-- The signals of a `MilterManagerChildren`. -/
inductive Signal where
  | negotiateReply (option : MilterOption)
  | continue
  | replyCode (code : Nat) (extendedCode message : Option Bytes)
  | temporaryFailure
  | reject
  | accept
  | discard
  | skip
  | progress
  | header (signal : HeaderSignal)
  | changeFrom (sender : Bytes) (parameters : Option Bytes)
  | addRecipient (recipient : Bytes) (parameters : Option Bytes)
  | deleteRecipient (recipient : Bytes)
  | replaceBody (chunk : Bytes)
  | quarantine (reason : Bytes)
  | connectionFailure
  | shutdown
  | abort
  | error (domain : ErrorDomain)
  | finished
deriving DecidableEq, Repr

/-- The command packets written to a child. -/
inductive Packet where
  | negotiate (option : MilterOption)
  | connect (hostName : Bytes)
  | helo (fqdn : Bytes)
  | envelopeFrom (sender : Bytes)
  | envelopeRecipient (recipient : Bytes)
  | data
  | unknown (command : Bytes)
  | header (name : Bytes) (value : Option Bytes)
  | endOfHeader
  | body (chunk : Bytes)
  | endOfMessage (chunk : Bytes)
  | quit
  | abort
deriving DecidableEq, Repr

/-- The signals of a child to which the children object listens. The last three reach the
handlers of one connection attempt. -/
inductive Callback where
  | negotiateReply (option : MilterOption)
  | continue
  | replyCode (code : Nat) (extendedCode message : Option Bytes)
  | temporaryFailure
  | reject
  | accept
  | discard
  | addHeader (name : Bytes) (value : Option Bytes)
  | insertHeader (index : Nat) (name : Bytes) (value : Option Bytes)
  | changeHeader (name : Bytes) (index : Nat) (value : Option Bytes)
  | deleteHeader (name : Bytes) (index : Nat)
  | changeFrom (sender : Bytes) (parameters : Option Bytes)
  | addRecipient (recipient : Bytes) (parameters : Option Bytes)
  | deleteRecipient (recipient : Bytes)
  | replaceBody (chunk : Bytes)
  | progress
  | quarantine (reason : Bytes)
  | connectionFailure
  | shutdown
  | skip
  | stopped
  | writingTimeout
  | readingTimeout
  | endOfMessageTimeout
  | error (domain : ErrorDomain)
  | finished
  | ready (attempt : Nat)
  | connectionTimeout (attempt : Nat)
  | connectionError (attempt : Nat) (domain : ErrorDomain)
deriving DecidableEq, Repr

/-- `PendingMessageRequest`, `milter/manager/milter-manager-children.c:40`. -/
inductive PendingMessageRequest where
  | header (name : Bytes) (value : Option Bytes)
  | endOfHeader
  | body (chunk : Bytes)
  | endOfMessage (chunk : Option Bytes) (size : Nat)
deriving DecidableEq, Repr

/-- `NegotiateData`, `milter/manager/milter-manager-children.c:115`; `retryTimer` when a timer
waits to retry the connection. -/
structure NegotiateData where
  id : Nat
  child : ChildId
  option : Nat
  isRetry : Bool
  retryTimer : Bool
deriving DecidableEq, Repr

/-- The channel to the launcher process. -/
inductive Launcher where
  | absent
  | working
  | failing
deriving DecidableEq, Repr

/-- A temporary file: its content and the position of its channel. -/
structure BodyFile where
  content : Bytes
  position : Nat
deriving DecidableEq, Repr

/-- `MILTER_CHUNK_SIZE`, the longest body that a packet takes. -/
def milterChunkSize : Nat := 65535

/-- The chunk size of the configuration. -/
structure ChunkSize where
  value : Nat
  le : value ≤ milterChunkSize

/-- `milter_manager_configuration_set_chunk_size`,
`milter/manager/milter-manager-configuration.c:2409`. -/
def ChunkSize.ofSize (size : Nat) : ChunkSize :=
  ⟨min size milterChunkSize, Nat.min_le_right size milterChunkSize⟩

/-- `MAX_ON_MEMORY_BODY_SIZE`. -/
def maxOnMemoryBodySize : Nat := 5242880

/-- What comes of the bytes that are left in the buffer of a writer when it is shut down: whether
the channel has an error, and whether the buffer is flushed. -/
structure LastWrite where
  fails : Bool
  flushes : Bool
deriving DecidableEq, Repr

/-- What the children object cannot know: the bytes in memory behind the copy of a chunk, and the
last writes of the writers of its children. -/
structure Surroundings where
  beyondCopy : Nat → UInt8
  lastWrite : ChildId → LastWrite

/-- Zeros in memory, and nothing left in any buffer. -/
def Surroundings.plain : Surroundings := ⟨fun _ => 0, fun _ => ⟨false, false⟩⟩

/-- What is done with the body that is stored: a chunk of the MTA is written behind it, the file is
rewound at the end of the message, a child replaces it, a replay of it begins, a child is to get
its next chunk, gets it, has taken or refused it or has them all, and the body is emitted from its
first to its last chunk. -/
inductive BodyUse where
  | write (chunk : Bytes)
  | rewind
  | replace (child : ChildId) (chunk : Bytes)
  | begin
  | send (child : ChildId)
  | hand (child : ChildId) (chunk : Bytes)
  | handed (child : ChildId) (sent : Bool)
  | complete (child : ChildId)
  | emit
  | emitted
deriving DecidableEq, Repr

/-- `MilterManagerChildrenPrivate`. Options are objects that several owners share: `options` holds
their contents and a reference is a position in it. -/
structure State where
  milters : List ChildId
  context : ChildId → Context
  replyQueue : List ChildId
  commandWaitingChildQueue : List ChildId
  commandQueue : List Command
  pendingMessageRequest : Option PendingMessageRequest
  tryNegotiateIds : List NegotiateData
  attempts : Nat
  privilegeMode : Bool
  launcher : Launcher
  chunkSize : ChunkSize
  options : List MilterOption
  option : Option Nat
  initialYesSteps : Flags
  requestedYesSteps : Flags
  negotiated : Bool
  allExpiredAsFallbackOnNegotiated : Bool
  lazyReplyNegotiate : Bool
  state : ContextState
  processingState : ContextState
  replyStatuses : ContextState → Status
  replyCode : Nat
  replyExtendedCode : Option Bytes
  replyMessage : Option Bytes
  originalHeaders : Option Headers
  headers : Option Headers
  processingHeaderIndex : Nat
  body : Option Bytes
  bodyFile : Option BodyFile
  /-- The longest body that is kept in memory, if any is not. -/
  bodyLimit : Option Nat
  endOfMessageChunk : Option Bytes
  endOfMessageSize : Nat
  sendingBody : Bool
  sentBodyOffset : Nat
  replacedBodyForEachChild : Bool
  replacedBody : Bool
  changeFrom : Option Bytes
  changeFromParameters : Option Bytes
  quarantineReason : Option Bytes
  finished : Bool
  emittedReplyForMessageOrientedCommand : Bool
  surroundings : Surroundings

/-- What a run leaves behind: signals emitted and handlers entered, with the state in which that
happened, children that could not be connected to again, packets written, children queued for the
commands of a message, uses of the body, the data of a message disposed of, and a loop that does
not end; nothing happens any more behind that one. -/
inductive Action where
  | emitted (before : State) (signal : Signal)
  | called (before : State) (child : ChildId) (callback : Callback)
  | unreachable (before : State) (child : ChildId)
  | sent (child : ChildId) (packet : Packet)
  | queued (child : ChildId)
  | used (before : State) (use : BodyUse)
  | disposed
  | endless

/-- A program of the children object. -/
abbrev Program := Proc State Action

/-- How a handler is entered. -/
abbrev Handlers := ChildId → Callback → Program PUnit

/-- The children object after `milter_manager_children_init` and
`milter_manager_children_add_child` for each of `children`. -/
def State.init (children : List Context) (privilegeMode : Bool) (launcher : Launcher)
    (chunkSize : ChunkSize) (surroundings : Surroundings) : State where
  milters := List.range children.length
  context := fun child => children.getD child (.init .accept false false)
  replyQueue := []
  commandWaitingChildQueue := []
  commandQueue := []
  pendingMessageRequest := none
  tryNegotiateIds := []
  attempts := 0
  privilegeMode := privilegeMode
  launcher := launcher
  chunkSize := chunkSize
  options := []
  option := none
  initialYesSteps := 0#32
  requestedYesSteps := 0#32
  negotiated := false
  allExpiredAsFallbackOnNegotiated := false
  lazyReplyNegotiate := false
  state := .start
  processingState := .start
  replyStatuses := fun _ => .default
  replyCode := 0
  replyExtendedCode := none
  replyMessage := none
  originalHeaders := none
  headers := none
  processingHeaderIndex := 0
  body := none
  bodyFile := none
  bodyLimit := some maxOnMemoryBodySize
  endOfMessageChunk := none
  endOfMessageSize := 0
  sendingBody := false
  sentBodyOffset := 0
  replacedBodyForEachChild := false
  replacedBody := false
  changeFrom := none
  changeFromParameters := none
  quarantineReason := none
  finished := false
  emittedReplyForMessageOrientedCommand := false
  surroundings := surroundings

/-- The data of one child. -/
def contextOf (child : ChildId) : Program Context := do
  let s ← Proc.getState
  pure (s.context child)

theorem contextOf_bind {α : Type} (child : ChildId) (f : Context → Program α) (s : State) :
    (contextOf child >>= f) s = f (s.context child) s := by
  simp [contextOf]

theorem keeps_contextOf {inv : List Action → State → Prop} (child : ChildId) :
    Proc.Keeps inv (contextOf child) :=
  Proc.Keeps.getState.bind fun _ => Proc.Keeps.pure _

/-- Change the data of one child. -/
def updateContext (child : ChildId) (f : Context → Context) : Program PUnit :=
  Proc.update fun s => { s with context := Function.update s.context child (f (s.context child)) }

/-- `g_signal_emit_by_name (children, ...)`. -/
def emitSignal (signal : Signal) : Program PUnit :=
  Proc.record fun s => .emitted s signal

/-- `g_signal_emit_by_name (context, ...)`: the handlers connected at the emission are entered
one after the other, unless they were disconnected in the meantime. -/
def emitOn (call : Handlers) (child : ChildId) (callback : Callback) : Program PUnit := do
  let context ← contextOf child
  Proc.each (fun _ : Unit => do
    let context ← contextOf child
    if context.handlers = 0 then pure ⟨⟩ else call child callback)
    (List.replicate context.handlers ())

/-- Nothing is entered when no handlers are connected. -/
theorem emitOn_of_handlers_eq_zero (call : Handlers) (child : ChildId) (callback : Callback)
    (s : State) (h : (s.context child).handlers = 0) :
    emitOn call child callback s = ⟨⟨⟩, s, []⟩ := by
  simp [emitOn, contextOf, h]

/-- A signal to the handlers of the connection attempts of a child. -/
def emitOnAttempts (call : Handlers) (child : ChildId) (callback : Nat → Callback) :
    Program PUnit := do
  let s ← Proc.getState
  Proc.each (fun data : NegotiateData => do
    let s ← Proc.getState
    if s.tryNegotiateIds.any (·.id == data.id) then call child (callback data.id) else pure ⟨⟩)
    (s.tryNegotiateIds.filter (·.child == child))

/-- `milter_error_emittable_emit (context, error)`. -/
def emitErrorOn (call : Handlers) (child : ChildId) (domain : ErrorDomain) : Program PUnit := do
  emitOnAttempts call child fun attempt => .connectionError attempt domain
  emitOn call child (.error domain)

end MilterManager.Children
