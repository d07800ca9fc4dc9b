import Mathlib.Data.List.Perm.Basic
import MilterManager.Base.Runs
import MilterManager.Server.Context

/-!
# The results of messages

The `MilterMessageResult` that a `MilterServerContext` keeps of a message and hands over with
`message-processed`, from `milter/server/milter-server-context.c`. What the handlers of a signal do
to the context comes as events of its own; what the context still has to do behind them is on a
stack.
-/

namespace MilterManager.Server

open MilterManager.Base MilterManager.Core

/-- `MilterMessageResult`, `milter/core/milter-message-result.c`. Its state is that of a command and
whether the command was replied to. -/
structure MessageRecord extends MessageResult where
  sender : Option Bytes
  headers : Headers
  bodySize : Nat
  state : ContextState
  replied : Bool
  status : Status
  addedHeaders : Headers
  removedHeaders : Headers
  quarantine : Bool
deriving DecidableEq, Repr

/-- `milter_message_result_new` and `milter_message_result_start`. -/
def MessageRecord.new : MessageRecord where
  toMessageResult := .empty
  sender := none
  headers := []
  bodySize := 0
  state := .invalid
  replied := false
  status := .default
  addedHeaders := []
  removedHeaders := []
  quarantine := false

/-- The recipient asked for last is refused, `milter/server/milter-server-context.c:2610`. -/
def MessageResult.refuse (result : MessageResult) (failed : Bool) (recipient : Option Bytes) :
    MessageResult where
  recipients :=
    match recipient with
    | none => result.recipients
    | some recipient => result.recipients.erase recipient
  temporaryFailedRecipients :=
    if failed then result.temporaryFailedRecipients ++ [recipient]
    else result.temporaryFailedRecipients
  rejectedRecipients :=
    if failed then result.rejectedRecipients else result.rejectedRecipients ++ [recipient]

/-- The commands that a context is given, with what they leave in the result. -/
inductive GivenCommand where
  | negotiate
  | connect
  | helo
  | unknown
  | envelopeFrom (sender : Bytes)
  | envelopeRecipient (recipient : Bytes)
  | data
  | header (name : Bytes) (value : Option Bytes)
  | endOfHeader
  | body (size : Nat)
  | endOfMessage (size : Nat)
deriving DecidableEq, Repr

/-- What becomes of a command: a stop-on signal stops it, the child negotiated not to be given it,
its packet is written, or `write_packet` fails. -/
inductive Fate where
  | stopped
  | leftOut
  | written
  | failed
deriving DecidableEq, Repr

namespace GivenCommand

/-- The state that the command leads to. -/
def state : GivenCommand → ContextState
  | negotiate => .negotiate
  | connect => .connect
  | helo => .helo
  | unknown => .unknown
  | envelopeFrom _ => .envelopeFrom
  | envelopeRecipient _ => .envelopeRecipient
  | data => .data
  | header _ _ => .header
  | endOfHeader => .endOfHeader
  | body _ => .body
  | endOfMessage _ => .endOfMessage

/-- The command leaves something in the result of the message. -/
def isOfMessage : GivenCommand → Bool
  | negotiate | connect | helo | unknown => false
  | _ => true

/-- What the command leaves in the result. -/
def record (result : MessageRecord) : GivenCommand → MessageRecord
  | envelopeFrom sender =>
      { result with sender := some sender, state := .envelopeFrom, replied := false }
  | envelopeRecipient recipient =>
      { result with
        recipients := result.recipients ++ [recipient]
        state := .envelopeRecipient
        replied := false }
  | header name value =>
      { result with
        headers := result.headers.addHeader name value, state := .header, replied := false }
  | body size =>
      { result with bodySize := result.bodySize + size, state := .body, replied := false }
  | endOfMessage size =>
      { result with bodySize := result.bodySize + size, state := .endOfMessage, replied := false }
  | data => { result with state := .data, replied := false }
  | endOfHeader => { result with state := .endOfHeader, replied := false }
  | _ => result

/-- The end of a message is always offered to the child, only commands that have a stop-on signal
are stopped, and the negotiation is neither stopped nor left out. -/
def mayMeet : GivenCommand → Fate → Bool
  | negotiate, .stopped | negotiate, .leftOut => false
  | unknown, .stopped | endOfMessage _, .leftOut => false
  | _, _ => true

end GivenCommand

/-- What a reply at the end of a message changes in the result. -/
inductive Modification where
  | addHeader (name : Bytes) (value : Option Bytes)
  | removeHeader (name : Bytes)
  | quarantine
deriving DecidableEq, Repr

/-- The result with the modification. -/
def Modification.record (result : MessageRecord) : Modification → MessageRecord
  | addHeader name value => { result with addedHeaders := result.addedHeaders.addHeader name value }
  | removeHeader name => { result with removedHeaders := result.removedHeaders.addHeader name none }
  | quarantine => { result with quarantine := true }

/-- What is left to do behind the handlers of a signal: of `continue`, of the other final replies,
of `stopped`, and of the modifications. -/
inductive ReportFrame where
  | continued
  | answered (exceptRecipient : Bool)
  | stopped
  | modified (modification : Modification)
deriving DecidableEq, Repr

namespace ReportFrame

/-- `emit_message_processed_signal` is called behind the handlers. -/
def emits (state : ContextState) : ReportFrame → Bool
  | continued => state = .endOfMessage
  | answered exceptRecipient =>
      state.inMessage && !(exceptRecipient && state = .envelopeRecipient)
  | stopped => state.inMessage
  | modified _ => false

/-- The result is changed behind the handlers. -/
def modifies : ReportFrame → Bool
  | modified _ => true
  | _ => false

end ReportFrame

/-- A refusal, and the status it stands for. -/
def Reply.refusal : Reply → Option Status
  | replyCode code _ _ =>
      some (if 400 ≤ code ∧ code < 500 then .temporaryFailure else .reject)
  | temporaryFailure => some .temporaryFailure
  | reject => some .reject
  | _ => none

/-- The status that a reply gives to a message. -/
def Reply.verdict : Reply → Option Status
  | accept => some .accept
  | discard => some .discard
  | quarantine _ => some .quarantine
  | connectionFailure => some .error
  | reply => reply.refusal

/-- What a reply changes in the result of a message. -/
def Reply.modification : Reply → Option Modification
  | addHeader name value | insertHeader _ name value | changeHeader name _ value =>
      some (.addHeader name value)
  | deleteHeader name _ => some (.removeHeader name)
  | quarantine _ => some .quarantine
  | _ => none

/-- The fields of `MilterServerContextPrivate` that the results of messages depend on. -/
structure ReportingContext where
  state : ContextState
  nextStates : List ContextState
  status : Status
  envelopeRecipientStatus : Status
  currentRecipient : Option Bytes
  messageResult : Option MessageRecord
  quitted : Bool
deriving DecidableEq, Repr

namespace ReportingContext

/-- `milter_server_context_init`. -/
def init : ReportingContext := ⟨.start, [], .notChange, .default, none, none, false⟩

/-- `ensure_message_result`, and a change of the result. -/
def updateResult (context : ReportingContext) (change : MessageRecord → MessageRecord) :
    ReportingContext :=
  { context with messageResult := some (change (context.messageResult.getD .new)) }

/-- `emit_message_processed_signal`, `milter/server/milter-server-context.c:1063`: the context and
what the signal hands over. -/
def emitMessageProcessedSignal (context : ReportingContext) :
    ReportingContext × List MessageRecord :=
  match context.messageResult with
  | none => (context, [])
  | some result =>
      let result :=
        if context.state.inMessage && context.state ≠ .unknown then
          { result with state := context.state, replied := true }
        else result
      ({ context with messageResult := none }, [{ result with status := context.status }])

/-- `milter_server_context_reset_message_related_data`,
`milter/server/milter-server-context.c:1820`. -/
def resetMessageRelatedData (context : ReportingContext) : ReportingContext :=
  { context with envelopeRecipientStatus := .default, messageResult := none }

/-- The commands, from `milter/server/milter-server-context.c:1656` to `:2272`. -/
def give (context : ReportingContext) (command : GivenCommand) (fate : Fate) :
    ReportingContext × Option ReportFrame :=
  let context :=
    if command.isOfMessage then context.updateResult (GivenCommand.record · command) else context
  let context :=
    match command with
    | .envelopeFrom _ => { context with status := .notChange }
    | .envelopeRecipient recipient => { context with currentRecipient := some recipient }
    | _ => context
  match fate with
  | .stopped => ({ context with status := .stop, state := command.state }, some .stopped)
  | .leftOut => ({ context with state := command.state }, none)
  | .written => ({ context with nextStates := context.nextStates ++ [command.state] }, none)
  | .failed => (context, none)

/-- A refusal counts for a recipient or for the message. -/
def refuse (context : ReportingContext) (status : Status) : ReportingContext :=
  if context.state = .envelopeRecipient then
    let failed := decide (status = .temporaryFailure)
    { context.updateResult fun result =>
        { result with
          toMessageResult := result.toMessageResult.refuse failed context.currentRecipient } with
      envelopeRecipientStatus := status, currentRecipient := none }
  else { context with status := status }

/-- The states in which `continue` and a reply code are expected. -/
def expectsReply : ContextState → Bool
  | .connect | .helo | .envelopeFrom | .envelopeRecipient | .unknown | .data | .header
  | .endOfHeader | .body | .endOfMessage => true
  | _ => false

/-- What a reply sets before its signal is emitted,
`milter/server/milter-server-context.c:2583`. -/
def judge (context : ReportingContext) : Reply → ReportingContext
  | .replyCode code _ _ =>
      context.refuse (if 400 ≤ code ∧ code < 500 then .temporaryFailure else .reject)
  | .temporaryFailure => context.refuse .temporaryFailure
  | .reject => context.refuse .reject
  | .accept => { context with status := .accept }
  | .discard => { context with status := .discard }
  | .quarantine _ => { context with status := .quarantine }
  | .connectionFailure => { context with status := .error }
  | _ => context

/-- What follows behind the signal that a reply emits. -/
def signal (context : ReportingContext) : Reply → Option ReportFrame
  | .continue =>
      if expectsReply context.state && context.state ≠ .body then some .continued else none
  | .replyCode _ _ _ => if expectsReply context.state then some (.answered true) else none
  | .temporaryFailure | .reject => some (.answered true)
  | .accept | .discard => some (.answered false)
  | reply => if context.state = .endOfMessage then reply.modification.map .modified else none

/-- `check_reply_after_quit`: nothing is emitted after the child was told to quit. -/
def answer (context : ReportingContext) (reply : Reply) : Option ReportFrame :=
  if context.quitted then none else context.signal reply

/-- The handlers of the reply decoder, from `milter/server/milter-server-context.c:2516` on, up to
the signal they emit. -/
def receive (context : ReportingContext) (reply : Reply) :
    ReportingContext × Option ReportFrame :=
  (context.judge reply, context.answer reply)

/-- What follows behind the handlers of a signal. -/
def resume (context : ReportingContext) (frame : ReportFrame) :
    ReportingContext × List MessageRecord :=
  match frame with
  | .modified modification => (context.updateResult (Modification.record · modification), [])
  | frame =>
      if frame.emits context.state then context.emitMessageProcessedSignal else (context, [])

/-- The status of a message that is aborted, `milter/server/milter-server-context.c:1374`. -/
def abortStatus (state : ContextState) (status recipientStatus : Status) : Status :=
  if status.isPass ∧ ContextState.defineMacro.toNat ≤ state.toNat ∧
      state.toNat < ContextState.endOfMessage.toNat then
    if state = .envelopeRecipient ∧ recipientStatus ≠ .default then recipientStatus else .abort
  else status

/-- `process_next_state`, `milter/server/milter-server-context.c:1303`. -/
def processNextState (context : ReportingContext) (nextState : ContextState) :
    ReportingContext × List MessageRecord :=
  match nextState with
  | .invalid => (context, [])
  | .abort =>
      let context :=
        { context with
          status := abortStatus context.state context.status context.envelopeRecipientStatus
          state := .abort }
      (context.emitMessageProcessedSignal.1.resetMessageRelatedData,
        context.emitMessageProcessedSignal.2)
  | nextState => ({ context with state := nextState }, [])

end ReportingContext

/-- A message as its child was told of it: the recipients that were not refused, and the status that
the child has given it. -/
structure Message where
  sender : Bytes
  recipients : List Bytes
  headers : Headers
  bodySize : Nat
  status : Status
  refusal : Option Status
deriving DecidableEq, Repr

namespace Message

/-- A message begins. -/
def begin (sender : Bytes) : Message := ⟨sender, [], [], 0, .notChange, none⟩

/-- A command tells more of the message. -/
def tell (message : Message) : GivenCommand → Message
  | .envelopeRecipient recipient => { message with recipients := message.recipients ++ [recipient] }
  | .header name value => { message with headers := message.headers ++ [⟨name, value⟩] }
  | .body size | .endOfMessage size => { message with bodySize := message.bodySize + size }
  | _ => message

/-- The child replies to a command of the message: it says something of the recipient asked for, or
of the message. -/
def hear (message : Message) (state : ContextState) (asked : Option Bytes) (reply : Reply) :
    Message :=
  match reply.verdict with
  | none => message
  | some status =>
      if state = .envelopeRecipient ∧ reply.refusal.isSome then
        { message with
          recipients :=
            match asked with
            | none => message.recipients
            | some recipient => message.recipients.erase recipient
          refusal := some status }
      else { message with status := status }

/-- The message is aborted before its end was sent: what the child said of it counts, or, while the
recipients are given, what it said of the last one that it refused. -/
def abort (message : Message) (state : ContextState) : Message :=
  { message with
    status :=
      if message.status.isPass ∧ ContextState.defineMacro.toNat ≤ state.toNat ∧
          state.toNat < ContextState.endOfMessage.toNat then
        if state = .envelopeRecipient then message.refusal.getD .abort else .abort
      else message.status }

end Message

/-- The reply is the last one to the message. -/
def Reply.ends (state : ContextState) : Reply → Bool
  | .continue => state = .endOfMessage
  | .accept | .discard | .replyCode _ _ _ | .temporaryFailure | .reject =>
      state.inMessage && state ≠ .envelopeRecipient
  | _ => false

/-- The message that a child is being told of, the recipient it was asked for last, and the messages
that have ended. -/
structure MessageBook where
  current : Option Message
  asked : Option Bytes
  ended : List Message
deriving DecidableEq, Repr

namespace MessageBook

/-- The message with what a command tells of it. -/
def told (book : MessageBook) : GivenCommand → Option Message
  | .envelopeFrom sender => some (.begin sender)
  | command => book.current.map (·.tell command)

/-- The recipient asked for last with a command. -/
def askedWith (book : MessageBook) : GivenCommand → Option Bytes
  | .envelopeRecipient recipient => some recipient
  | _ => book.asked

/-- A command is given to the child. -/
def give (book : MessageBook) (command : GivenCommand) (fate : Fate) : MessageBook :=
  if fate = .stopped then
    { current := none
      asked := book.askedWith command
      ended := book.ended ++
        ((book.told command).map fun message => { message with status := .stop }).toList }
  else { book with current := book.told command, asked := book.askedWith command }

/-- The child replies. -/
def hear (book : MessageBook) (state : ContextState) (heard : Bool) (reply : Reply) : MessageBook :=
  let current := if heard then book.current.map (·.hear state book.asked reply) else book.current
  let asked := if state = .envelopeRecipient ∧ reply.refusal.isSome then none else book.asked
  if heard && reply.ends state then ⟨none, asked, book.ended ++ current.toList⟩
  else ⟨current, asked, book.ended⟩

/-- An abort has been sent. -/
def abort (book : MessageBook) (state : ContextState) : MessageBook :=
  ⟨none, book.asked, book.ended ++ (book.current.map (·.abort state)).toList⟩

end MessageBook

/-- What happens to a context: its owner gives it commands, aborts, quits, moves it to the body,
sets its status or resets it, a further part of the body is written, what was written is flushed,
the child replies, and the handlers of the last signal return. -/
inductive ReportEvent where
  | give (command : GivenCommand) (fate : Fate)
  | abort (written : Bool)
  | quit (written : Bool)
  | beginBody
  | setStatus (status : Status)
  | reset
  | bodyPart
  | flushed
  | receive (reply : Reply)
  | returned
deriving DecidableEq, Repr

/-- A context with the handlers that run, what it has handed over, and the book of the messages. -/
structure ReportRun where
  context : ReportingContext
  frames : List ReportFrame
  reported : List MessageRecord
  book : MessageBook
deriving DecidableEq, Repr

namespace ReportRun

/-- A new context. -/
def init : ReportRun := ⟨.init, [], [], ⟨none, none, []⟩⟩

/-- A state that was written is flushed. -/
def processNextState (run : ReportRun) (nextState : ContextState) : ReportRun where
  context := (run.context.processNextState nextState).1
  frames := run.frames
  reported := run.reported ++ (run.context.processNextState nextState).2
  book := if nextState = .abort then run.book.abort run.context.state else run.book

/-- One event. The event loop does not go on while a handler runs. -/
def step (run : ReportRun) : ReportEvent → ReportRun
  | .give command fate =>
      if command.mayMeet fate then
        { run with
          context := (run.context.give command fate).1
          frames := (run.context.give command fate).2.toList ++ run.frames
          book := run.book.give command fate }
      else run
  | .abort written =>
      if written then
        { run with context.nextStates := run.context.nextStates ++ [.abort] }
      else run
  | .quit written =>
      { run with
        context.quitted := true
        context.nextStates :=
          if written then run.context.nextStates ++ [.quit] else run.context.nextStates }
  | .beginBody => { run with context.state := .body }
  | .setStatus status =>
      { run with
        context.status := status
        book.current := run.book.current.map fun message => { message with status := status } }
  | .reset => { run with context := run.context.resetMessageRelatedData }
  | .bodyPart => { run with context.nextStates := run.context.nextStates ++ [.body] }
  | .flushed =>
      if run.frames = [] then
        run.context.nextStates.foldl processNextState { run with context.nextStates := [] }
      else run
  | .receive reply =>
      if run.frames = [] then
        { run with
          context := (run.context.receive reply).1
          frames := (run.context.receive reply).2.toList
          book := run.book.hear run.context.state (!run.context.quitted) reply }
      else run
  | .returned =>
      match run.frames with
      | [] => run
      | frame :: frames =>
          { run with
            context := (run.context.resume frame).1
            frames := frames
            reported := run.reported ++ (run.context.resume frame).2 }

end ReportRun

/-- The result says what the child was told of the message. -/
structure MessageRecord.Tells (result : MessageRecord) (message : Message) : Prop where
  sender : result.sender = some message.sender
  recipients : result.recipients = message.recipients
  headers : result.headers.Perm message.headers
  bodySize : result.bodySize = message.bodySize

/-- The result of the message is handed over: it tells of this message only, with its status. -/
def MessageRecord.Reports (result : MessageRecord) (message : Message) : Prop :=
  result.Tells message ∧ result.status = message.status

namespace ReportRun

/-- The child may say something of the message: all its commands that were given before are flushed,
and the child was not told to quit; it accepts or discards no recipient, and puts a message into
quarantine at its end only. -/
def MayJudge (run : ReportRun) (reply : Reply) : Prop :=
  run.context.quitted = false ∧ .envelopeFrom ∉ run.context.nextStates ∧
    run.context.state.inMessage ∧
    (reply = .accept ∨ reply = .discard → run.context.state ≠ .envelopeRecipient) ∧
    (reply.modification.isSome → run.context.state = .endOfMessage)

/-- The child answers the message it was told of. When none is going on, it neither refuses a
recipient nor modifies anything. -/
def Answers (run : ReportRun) (reply : Reply) : Prop :=
  if run.book.current.isSome then
    (reply.ends run.context.state → .envelopeFrom ∉ run.context.nextStates) ∧
      (reply.verdict.isSome → run.MayJudge reply)
  else
    (reply.refusal.isSome → run.context.state ≠ .envelopeRecipient) ∧
      (reply.modification.isSome → run.context.state = .endOfMessage → run.context.quitted = true)

/-- Only handlers of `continue` run. -/
def OnlyContinued (run : ReportRun) : Prop := ∀ frame ∈ run.frames, frame = .continued

/-- Where the recipients are given, the status of a recipient is of the message that goes on. -/
def RecipientStatusOwned (run : ReportRun) (nextStates : List ContextState) : Prop :=
  run.context.state = .envelopeRecipient ∨ .envelopeRecipient ∈ nextStates →
    ∀ message ∈ run.book.current,
      message.refusal.isSome ∨ run.context.envelopeRecipientStatus = .default

/-- A message begins when none is going on, the last one was handed over, and no abort waits to be
flushed; the commands of a message come while it goes on; the result is reset when there is none; an
abort reaches a message with its own status of a recipient. -/
def Orderly (run : ReportRun) : ReportEvent → Prop
  | .give command fate =>
      match command with
      | .envelopeFrom _ =>
          run.book.current = none ∧ run.context.messageResult = none ∧ run.frames = [] ∧
            .abort ∉ run.context.nextStates ∧ fate ≠ .failed
      | command =>
          if command.isOfMessage then
            run.book.current.isSome ∧
              (fate = .stopped ∨ fate = .leftOut → run.OnlyContinued)
          else
            fate = .stopped ∨ fate = .leftOut →
              run.context.messageResult = none ∨
                command = .unknown ∧ run.book.current.isSome ∧ run.OnlyContinued
  | .beginBody => run.context.messageResult = none ∨ run.book.current.isSome ∧ run.OnlyContinued
  | .setStatus _ => run.context.messageResult = none ∨ run.book.current.isSome
  | .reset => run.context.messageResult = none
  | .flushed => .abort ∈ run.context.nextStates → run.RecipientStatusOwned run.context.nextStates
  | .receive reply => run.frames = [] → run.Answers reply
  | _ => True

instance (run : ReportRun) (reply : Reply) : Decidable (run.MayJudge reply) :=
  inferInstanceAs (Decidable (_ ∧ _))

instance (run : ReportRun) (reply : Reply) : Decidable (run.Answers reply) :=
  inferInstanceAs (Decidable (if run.book.current.isSome then _ ∧ _ else _ ∧ _))

instance (run : ReportRun) : Decidable run.OnlyContinued :=
  inferInstanceAs (Decidable (∀ frame ∈ run.frames, _))

instance (run : ReportRun) (nextStates : List ContextState) :
    Decidable (run.RecipientStatusOwned nextStates) :=
  inferInstanceAs (Decidable (_ → ∀ message ∈ run.book.current, _))

instance (run : ReportRun) : ∀ event, Decidable (run.Orderly event)
  | .give (.envelopeFrom _) _ => inferInstanceAs (Decidable (_ ∧ _))
  | .give (.envelopeRecipient _) _ | .give .data _ | .give (.header _ _) _ | .give .endOfHeader _
  | .give (.body _) _ | .give (.endOfMessage _) _ => inferInstanceAs (Decidable (_ ∧ _))
  | .give .negotiate _ | .give .connect _ | .give .helo _ | .give .unknown _ =>
      inferInstanceAs (Decidable (_ → _))
  | .beginBody | .setStatus _ => inferInstanceAs (Decidable (_ ∨ _))
  | .reset => inferInstanceAs (Decidable (_ = _))
  | .flushed => inferInstanceAs (Decidable (_ → run.RecipientStatusOwned run.context.nextStates))
  | .receive _ => inferInstanceAs (Decidable (_ → _))
  | .abort _ | .quit _ | .bodyPart | .returned => isTrue trivial

/-- Every message that has ended was handed over once, with its own data, as soon as no handler
runs. -/
def Exact (run : ReportRun) : Prop :=
  run.frames = [] → List.Forall₂ MessageRecord.Reports run.reported run.book.ended

/-- A message is going on. -/
structure Open (run : ReportRun) (message : Message) (result : MessageRecord) : Prop where
  current : run.book.current = some message
  kept : run.context.messageResult = some result
  tells : result.Tells message
  status : run.context.status = message.status
  refusal : ∀ status ∈ message.refusal,
    run.context.envelopeRecipientStatus = status ∧ status ≠ .default
  reported : List.Forall₂ MessageRecord.Reports run.reported run.book.ended
  quiet : ∀ frame ∈ run.frames, frame.emits run.context.state = false

/-- The last message has ended, and is handed over when the handlers of the last signal return. -/
structure Awaited (run : ReportRun) (message : Message) (result : MessageRecord) : Prop where
  current : run.book.current = none
  kept : run.context.messageResult = some result
  tells : result.Tells message
  status : run.context.status = message.status
  reported : ∃ before, run.book.ended = before ++ [message] ∧
    List.Forall₂ MessageRecord.Reports run.reported before
  emits : ∃ frame frames, run.frames = frame :: frames ∧ frame.emits run.context.state = true
  unmodified : ∀ frame ∈ run.frames, frame.modifies = false

/-- No message is going on. -/
structure Idle (run : ReportRun) : Prop where
  current : run.book.current = none
  kept : run.context.messageResult = none
  reported : List.Forall₂ MessageRecord.Reports run.reported run.book.ended
  unmodified : ∀ frame ∈ run.frames, frame.modifies = false

/-- Where a run stands. -/
inductive Stands (run : ReportRun) : Prop where
  | opened (message : Message) (result : MessageRecord) (h : run.Open message result)
  | awaited (message : Message) (result : MessageRecord) (h : run.Awaited message result)
  | idle (h : run.Idle)

/-- What orderly events keep. -/
structure Inv (run : ReportRun) : Prop where
  asked : run.book.asked = run.context.currentRecipient
  stands : run.Stands

end ReportRun

namespace MessageRecord

variable {result : MessageRecord} {message : Message}

theorem tells_begin (result : MessageRecord) (h : result = .new) (sender : Bytes) :
    (GivenCommand.record result (.envelopeFrom sender)).Tells (.begin sender) := by
  rw [h]
  exact ⟨rfl, rfl, List.Perm.refl _, rfl⟩

/-- The result keeps what the child is told. -/
theorem Tells.record (h : result.Tells message) {command : GivenCommand}
    (hcommand : ∀ sender, command ≠ .envelopeFrom sender) :
    (GivenCommand.record result command).Tells (message.tell command) := by
  cases command with
  | envelopeFrom sender => exact absurd rfl (hcommand sender)
  | envelopeRecipient recipient =>
      exact ⟨h.sender, congrArg (· ++ [recipient]) h.recipients, h.headers, h.bodySize⟩
  | header name value =>
      have hadded := Headers.perm_addHeader result.headers name value
      exact ⟨h.sender, h.recipients, hadded.trans (h.headers.append_right _), h.bodySize⟩
  | body size | endOfMessage size =>
      exact ⟨h.sender, h.recipients, h.headers, congrArg (· + size) h.bodySize⟩
  | _ => exact ⟨h.sender, h.recipients, h.headers, h.bodySize⟩

theorem Tells.modification (h : result.Tells message) (modification : Modification) :
    (Modification.record result modification).Tells message := by
  cases modification with
  | _ => exact ⟨h.sender, h.recipients, h.headers, h.bodySize⟩

/-- What a message is called by its child changes nothing that the result tells of it. -/
theorem Tells.withStatus (h : result.Tells message) (status : Status) :
    result.Tells { message with status := status } :=
  ⟨h.sender, h.recipients, h.headers, h.bodySize⟩

end MessageRecord

namespace ReportingContext

variable {context : ReportingContext} {result : MessageRecord} {message : Message}

/-- The fields of the context that are modelled in both ways. -/
def Matches (context : ReportingContext) (whole : Context) : Prop :=
  context.state = whole.state ∧ context.currentRecipient = whole.currentRecipient ∧
    context.messageResult.map (·.toMessageResult) = whole.messageResult

theorem Matches.getD {whole : Context} (h : context.Matches whole) :
    (context.messageResult.getD .new).toMessageResult = whole.messageResult.getD .empty := by
  rw [← h.2.2]
  cases context.messageResult <;> rfl

/-- A refused recipient leaves the recipients of the whole context as well. -/
theorem Matches.refuse {whole : Context} (h : context.Matches whole)
    (hstate : context.state = .envelopeRecipient) (status : Status) :
    (context.refuse status).Matches
      (whole.removeCurrentRecipient (decide (status = .temporaryFailure))) := by
  have hresult := h.getD
  rw [ReportingContext.refuse, if_pos hstate]
  apply And.intro h.1
  apply And.intro rfl
  show some (MessageResult.refuse _ _ context.currentRecipient) = _
  rw [hresult, h.2.1, Context.removeCurrentRecipient]
  cases whole.currentRecipient with
  | none | some recipient =>
      by_cases hstatus : status = .temporaryFailure <;> simp [MessageResult.refuse, hstatus]

theorem Matches.emitMessageProcessedSignal {whole : Context} (h : context.Matches whole) :
    context.emitMessageProcessedSignal.1.Matches whole.emitMessageProcessedSignal := by
  rw [ReportingContext.emitMessageProcessedSignal]
  cases hresult : context.messageResult with
  | none => exact ⟨h.1, h.2.1, by rw [hresult]; rfl⟩
  | some result => exact ⟨h.1, h.2.1, rfl⟩

theorem Matches.resetMessageRelatedData {whole : Context} (h : context.Matches whole) :
    context.resetMessageRelatedData.Matches whole.resetMessageRelatedData :=
  ⟨h.1, h.2.1, rfl⟩

/-- The result is handed over with the status of the context, and only it. -/
theorem emitMessageProcessedSignal_of_some (h : context.messageResult = some result)
    (htells : result.Tells message) (hstatus : context.status = message.status) :
    ∃ reported, context.emitMessageProcessedSignal =
        ({ context with messageResult := none }, [reported]) ∧ reported.Reports message := by
  rw [emitMessageProcessedSignal, h]
  refine ⟨_, rfl, ?_, hstatus⟩
  split
  · exact ⟨htells.sender, htells.recipients, htells.headers, htells.bodySize⟩
  · exact ⟨htells.sender, htells.recipients, htells.headers, htells.bodySize⟩

theorem emitMessageProcessedSignal_of_none (h : context.messageResult = none) :
    context.emitMessageProcessedSignal = (context, []) := by
  rw [emitMessageProcessedSignal, h]

/-- A frame that does not emit leaves the context alone, unless it modifies the result. -/
theorem resume_of_quiet {frame : ReportFrame} (hemits : frame.emits context.state = false)
    (hmodifies : frame.modifies = false) : context.resume frame = (context, []) := by
  cases frame with
  | modified modification => cases hmodifies
  | continued | answered | stopped =>
      rw [resume, if_neg]
      · rw [hemits]
        exact Bool.false_ne_true
      · exact fun modification h => by cases h

theorem resume_of_emits {frame : ReportFrame} (hemits : frame.emits context.state = true) :
    context.resume frame = context.emitMessageProcessedSignal := by
  cases frame with
  | modified modification => cases hemits
  | continued | answered | stopped =>
      rw [resume, if_pos hemits]
      exact fun modification h => by cases h

theorem recipient_resume (context : ReportingContext) (frame : ReportFrame) :
    (context.resume frame).1.currentRecipient = context.currentRecipient := by
  have hemit :
      context.emitMessageProcessedSignal.1.currentRecipient = context.currentRecipient := by
    rw [emitMessageProcessedSignal]
    split <;> rfl
  cases frame with
  | modified modification => rfl
  | _ =>
      rw [resume]
      · split
        · exact hemit
        · rfl
      · exact fun modification h => by cases h

section Give

variable (context : ReportingContext) (command : GivenCommand) (fate : Fate)

theorem messageResult_give :
    (context.give command fate).1.messageResult =
      if command.isOfMessage then
        some (GivenCommand.record (context.messageResult.getD .new) command)
      else context.messageResult := by
  cases command <;> cases fate <;> rfl

theorem status_give (hfate : fate ≠ .stopped)
    (hcommand : ∀ sender, command ≠ .envelopeFrom sender) :
    (context.give command fate).1.status = context.status := by
  cases command with
  | envelopeFrom sender => exact absurd rfl (hcommand sender)
  | _ => cases fate <;> first | rfl | exact absurd rfl hfate

theorem status_give_stopped : (context.give command .stopped).1.status = .stop := by
  cases command <;> rfl

theorem status_give_envelopeFrom (sender : Bytes) (hfate : fate ≠ .stopped) :
    (context.give (.envelopeFrom sender) fate).1.status = .notChange := by
  cases fate <;> first | rfl | exact absurd rfl hfate

theorem state_give :
    (context.give command fate).1.state =
      if fate = .stopped ∨ fate = .leftOut then command.state else context.state := by
  cases command <;> cases fate <;> rfl

theorem recipient_give :
    (context.give command fate).1.currentRecipient =
        (match command with
          | .envelopeRecipient recipient => some recipient
          | _ => context.currentRecipient) ∧
      (context.give command fate).1.envelopeRecipientStatus = context.envelopeRecipientStatus := by
  cases command <;> cases fate <;> exact ⟨rfl, rfl⟩

theorem frame_give :
    (context.give command fate).2 = if fate = .stopped then some .stopped else none := by
  cases command <;> cases fate <;> rfl

end Give

/-- Without a result nothing is handed over. -/
theorem resume_of_none {frame : ReportFrame} (h : context.messageResult = none)
    (hmodifies : frame.modifies = false) : context.resume frame = (context, []) := by
  cases hemits : frame.emits context.state with
  | false => exact resume_of_quiet hemits hmodifies
  | true => rw [resume_of_emits hemits, emitMessageProcessedSignal_of_none h]

end ReportingContext

namespace ReportRun

variable {run : ReportRun} {message : Message} {result : MessageRecord}

theorem inMessage_of_isOfMessage {command : GivenCommand} (h : command.isOfMessage) :
    command.state.inMessage = true := by
  cases command with
  | negotiate | connect | helo | unknown => cases h
  | _ => rfl

theorem state_ne_endOfMessage {command : GivenCommand} (h : command.mayMeet .leftOut) :
    command.state ≠ .endOfMessage := by
  cases command with
  | endOfMessage size => cases h
  | _ => exact fun h => by cases h

theorem asked_give (book : MessageBook) (command : GivenCommand) (fate : Fate) :
    (book.give command fate).asked = book.askedWith command := by
  cases fate <;> rfl

theorem told_of_some {book : MessageBook} (h : book.current = some message) {command : GivenCommand}
    (hcommand : ∀ sender, command ≠ .envelopeFrom sender) :
    book.told command = some (message.tell command) := by
  cases command with
  | envelopeFrom sender => exact absurd rfl (hcommand sender)
  | _ => exact congrArg (Option.map _) h

theorem current_give {book : MessageBook} (h : book.current = some message) {command : GivenCommand}
    (hcommand : ∀ sender, command ≠ .envelopeFrom sender) {fate : Fate} (hfate : fate ≠ .stopped) :
    (book.give command fate).current = some (message.tell command) := by
  rw [MessageBook.give, if_neg hfate]
  exact told_of_some h hcommand

theorem ended_give_stopped {book : MessageBook} (h : book.current = some message)
    {command : GivenCommand} (hcommand : ∀ sender, command ≠ .envelopeFrom sender) :
    (book.give command .stopped).ended =
      book.ended ++ [{ message.tell command with status := .stop }] := by
  rw [MessageBook.give, if_pos rfl, told_of_some h hcommand]
  rfl

/-- The recipient asked for last is the one that the context keeps. -/
theorem inv_asked_give (h : run.book.asked = run.context.currentRecipient) (command : GivenCommand)
    (fate : Fate) :
    (run.book.give command fate).asked = (run.context.give command fate).1.currentRecipient := by
  rw [asked_give, (run.context.recipient_give command fate).1, ← h]
  cases command <;> rfl

/-- A frame of `continue` emits nothing elsewhere than at the end of a message. -/
theorem OnlyContinued.quiet (h : run.OnlyContinued) {state : ContextState}
    (hstate : state ≠ .endOfMessage) : ∀ frame ∈ run.frames, frame.emits state = false := by
  intro frame hframe
  rw [h frame hframe]
  exact decide_eq_false hstate

theorem OnlyContinued.unmodified (h : run.OnlyContinued) :
    ∀ frame ∈ run.frames, frame.modifies = false := by
  intro frame hframe
  rw [h frame hframe]
  rfl

/-- A message that goes on is stopped: its end is awaited. -/
theorem stands_stopped (hreported : List.Forall₂ MessageRecord.Reports run.reported run.book.ended)
    (hcontinued : run.OnlyContinued) {command : GivenCommand} (hof : command.isOfMessage)
    (hcurrent : (run.book.give command .stopped).ended =
      run.book.ended ++ [{ message with status := .stop }])
    (htells : (GivenCommand.record (run.context.messageResult.getD .new) command).Tells message)
    (hmeets : command.mayMeet .stopped) : (run.step (.give command .stopped)).Stands := by
  rw [step, if_pos hmeets]
  apply Stands.awaited { message with status := .stop }
    (GivenCommand.record (run.context.messageResult.getD .new) command)
  exact
    { current := rfl
      kept := by
        show (run.context.give command .stopped).1.messageResult = _
        rw [ReportingContext.messageResult_give, if_pos hof]
      tells := htells.withStatus .stop
      status := ReportingContext.status_give_stopped run.context command
      reported := ⟨run.book.ended, hcurrent, hreported⟩
      emits := by
        refine ⟨.stopped, run.frames, ?_, ?_⟩
        · show (run.context.give command .stopped).2.toList ++ run.frames = _
          rw [ReportingContext.frame_give, if_pos rfl]
          rfl
        · show (run.context.give command .stopped).1.state.inMessage = true
          rw [ReportingContext.state_give, if_pos (.inl rfl)]
          exact inMessage_of_isOfMessage hof
      unmodified := by
        intro frame hframe
        change frame ∈ (run.context.give command .stopped).2.toList ++ run.frames at hframe
        rw [ReportingContext.frame_give, if_pos rfl] at hframe
        rcases List.mem_cons.mp hframe with rfl | hframe
        · rfl
        · exact hcontinued.unmodified frame hframe }

/-- A message begins. -/
theorem stands_begin (h : run.Idle) (hframes : run.frames = []) (sender : Bytes) {fate : Fate} :
    (run.step (.give (.envelopeFrom sender) fate)).Stands := by
  have hnew : run.context.messageResult.getD .new = .new := by rw [h.kept, Option.getD_none]
  have htells := MessageRecord.tells_begin _ hnew sender
  have hmeets : GivenCommand.mayMeet (.envelopeFrom sender) fate = true := by cases fate <;> rfl
  have hcontinued : run.OnlyContinued := by
    intro frame hframe
    rw [hframes] at hframe
    cases hframe
  by_cases hstopped : fate = .stopped
  · subst hstopped
    exact stands_stopped h.reported hcontinued rfl rfl htells hmeets
  · rw [step, if_pos hmeets]
    apply Stands.opened (.begin sender) _
    exact
      { current := by
          show (run.book.give (.envelopeFrom sender) fate).current = _
          rw [MessageBook.give, if_neg hstopped]
          rfl
        kept := by
          show (run.context.give (.envelopeFrom sender) fate).1.messageResult = _
          rw [ReportingContext.messageResult_give]
          rfl
        tells := htells
        status := ReportingContext.status_give_envelopeFrom run.context fate sender hstopped
        refusal := fun status hstatus => by cases hstatus
        reported := by
          show List.Forall₂ _ run.reported (run.book.give (.envelopeFrom sender) fate).ended
          rw [MessageBook.give, if_neg hstopped]
          exact h.reported
        quiet := by
          intro frame hframe
          change
            frame ∈ (run.context.give (.envelopeFrom sender) fate).2.toList ++ run.frames at hframe
          rw [ReportingContext.frame_give, if_neg hstopped, hframes] at hframe
          cases hframe }

/-- A command tells more of the message that goes on. -/
theorem stands_tell (h : run.Open message result) {command : GivenCommand} {fate : Fate}
    (hof : command.isOfMessage) (hcommand : ∀ sender, command ≠ .envelopeFrom sender)
    (hcontinued : fate = .stopped ∨ fate = .leftOut → run.OnlyContinued)
    (hmeets : command.mayMeet fate) : (run.step (.give command fate)).Stands := by
  have hgetD : run.context.messageResult.getD .new = result := by rw [h.kept, Option.getD_some]
  have htells : (GivenCommand.record (run.context.messageResult.getD .new) command).Tells
      (message.tell command) := by
    rw [hgetD]
    exact h.tells.record hcommand
  by_cases hstopped : fate = .stopped
  · subst hstopped
    apply stands_stopped h.reported (hcontinued (.inl rfl)) hof _ htells hmeets
    exact ended_give_stopped h.current hcommand
  · have hrefusal : (message.tell command).refusal = message.refusal := by cases command <;> rfl
    have hstatus : (message.tell command).status = message.status := by cases command <;> rfl
    rw [step, if_pos hmeets]
    apply Stands.opened (message.tell command) _
    exact
      { current := by
          exact current_give h.current hcommand hstopped
        kept := by
          show (run.context.give command fate).1.messageResult = _
          rw [ReportingContext.messageResult_give, if_pos hof]
        tells := htells
        status := by
          show (run.context.give command fate).1.status = _
          rw [ReportingContext.status_give _ _ _ hstopped hcommand, hstatus, h.status]
        refusal := by
          intro status hrefused
          rw [hrefusal] at hrefused
          show (run.context.give command fate).1.envelopeRecipientStatus = status ∧ _
          rw [(run.context.recipient_give command fate).2]
          exact h.refusal status hrefused
        reported := by
          show List.Forall₂ _ run.reported (run.book.give command fate).ended
          rw [MessageBook.give, if_neg hstopped]
          exact h.reported
        quiet := by
          intro frame hframe
          change frame ∈ (run.context.give command fate).2.toList ++ run.frames at hframe
          rw [ReportingContext.frame_give, if_neg hstopped] at hframe
          show frame.emits (run.context.give command fate).1.state = false
          rw [ReportingContext.state_give]
          split
          · next hstate =>
              have hleft : fate = .leftOut := hstate.resolve_left hstopped
              rw [hleft] at hmeets
              exact (hcontinued hstate).quiet (state_ne_endOfMessage hmeets) frame hframe
          · exact h.quiet frame hframe }

/-- A message goes on in another state, in which no handler ends it. -/
theorem Open.withState (h : run.Open message result) (state : ContextState)
    (nextStates : List ContextState) (quitted : Bool)
    (hquiet : ∀ frame ∈ run.frames, frame.emits state = false) :
    ({ run with
        context :=
          { run.context with state := state, nextStates := nextStates, quitted := quitted } } :
      ReportRun).Open message result where
  current := h.current
  kept := h.kept
  tells := h.tells
  status := h.status
  refusal := h.refusal
  reported := h.reported
  quiet := hquiet

/-- Without a message, any context without a result will do. -/
theorem Idle.withContext (h : run.Idle) {context : ReportingContext}
    (hkept : context.messageResult = none) :
    ({ run with context := context } : ReportRun).Idle where
  current := h.current
  kept := hkept
  reported := h.reported
  unmodified := h.unmodified

/-- What is to be flushed does not change where a run stands. -/
theorem Stands.withNextStates (h : run.Stands) (nextStates : List ContextState) (quitted : Bool) :
    ({ run with
        context := { run.context with nextStates := nextStates, quitted := quitted } } :
      ReportRun).Stands := by
  cases h with
  | opened message result h =>
      exact .opened message result (h.withState run.context.state nextStates quitted h.quiet)
  | awaited message result h => exact .awaited message result ⟨h.1, h.2, h.3, h.4, h.5, h.6, h.7⟩
  | idle h => exact .idle (h.withContext h.kept)

/-- A state that does not end a message is entered. -/
theorem Stands.withState (h : run.Stands)
    (hrun : run.context.messageResult = none ∨ run.book.current.isSome ∧ run.OnlyContinued)
    {state : ContextState} (hstate : state ≠ .endOfMessage) :
    ({ run with context := { run.context with state := state } } : ReportRun).Stands := by
  cases h with
  | opened message result h =>
      have hcontinued : run.OnlyContinued := by
        rcases hrun with hnone | ⟨-, hcontinued⟩
        · rw [h.kept] at hnone
          cases hnone
        · exact hcontinued
      exact .opened message result (h.withState state _ _ (hcontinued.quiet hstate))
  | awaited message result h =>
      rcases hrun with hnone | ⟨hsome, -⟩
      · rw [h.kept] at hnone
        cases hnone
      · rw [h.current] at hsome
        cases hsome
  | idle h => exact .idle (h.withContext h.kept)

/-- Without a result, no message is going on. -/
theorem Stands.idle_of_none (h : run.Stands) (hnone : run.context.messageResult = none) :
    run.Idle := by
  cases h with
  | opened message result h | awaited message result h =>
      rw [h.kept] at hnone
      cases hnone
  | idle h => exact h

theorem Stands.open_of_isSome (h : run.Stands) (hsome : run.book.current.isSome) :
    ∃ message result, run.Open message result := by
  cases h with
  | opened message result h => exact ⟨message, result, h⟩
  | awaited message result h | idle h =>
      rw [h.current] at hsome
      cases hsome

/-- The owner sets the status of the message that goes on. -/
theorem stands_setStatus (h : run.Stands)
    (hrun : run.context.messageResult = none ∨ run.book.current.isSome) (status : Status) :
    (run.step (.setStatus status)).Stands := by
  rcases hrun with hnone | hsome
  · have hidle := h.idle_of_none hnone
    apply Stands.idle
    exact
      { current := by
          show run.book.current.map _ = none
          rw [hidle.current, Option.map_none]
        kept := hidle.kept
        reported := hidle.reported
        unmodified := hidle.unmodified }
  · rcases h.open_of_isSome hsome with ⟨message, result, hopen⟩
    apply Stands.opened { message with status := status } result
    exact
      { current := by
          show run.book.current.map _ = _
          rw [hopen.current, Option.map_some]
        kept := hopen.kept
        tells := hopen.tells.withStatus status
        status := rfl
        refusal := hopen.refusal
        reported := hopen.reported
        quiet := hopen.quiet }

theorem give_of_not_isOfMessage {command : GivenCommand} (h : command.isOfMessage = false)
    (book : MessageBook) {fate : Fate} (hfate : fate ≠ .stopped) :
    book.give command fate = book := by
  have hold : book.told command = book.current := by
    cases command with
    | negotiate | connect | helo | unknown => exact Option.map_id'
    | _ => cases h
  have hasked : book.askedWith command = book.asked := by
    cases command with
    | negotiate | connect | helo | unknown => rfl
    | _ => cases h
  rw [MessageBook.give, if_neg hfate, hold, hasked]

/-- A command that is of no message is given. -/
theorem stands_other (h : run.Stands) {command : GivenCommand} {fate : Fate}
    (hof : command.isOfMessage = false)
    (horderly : fate = .stopped ∨ fate = .leftOut → run.context.messageResult = none ∨
      command = .unknown ∧ run.book.current.isSome ∧ run.OnlyContinued)
    (hmeets : command.mayMeet fate) : (run.step (.give command fate)).Stands := by
  have hstate : command.state ≠ .endOfMessage := by
    cases command with
    | endOfMessage size => cases hof
    | _ => exact fun h => by cases h
  rw [step, if_pos hmeets]
  cases fate with
  | failed =>
      rw [give_of_not_isOfMessage hof _ (fun h => by cases h)]
      have hcontext : run.context.give command .failed = (run.context, none) := by
        cases command with
        | negotiate | connect | helo | unknown => rfl
        | _ => cases hof
      rw [hcontext]
      exact h
  | written =>
      rw [give_of_not_isOfMessage hof _ (fun h => by cases h)]
      have hcontext : run.context.give command .written =
          ({ run.context with nextStates := run.context.nextStates ++ [command.state] }, none) := by
        cases command with
        | negotiate | connect | helo | unknown => rfl
        | _ => cases hof
      rw [hcontext]
      exact h.withNextStates _ _
  | leftOut =>
      rw [give_of_not_isOfMessage hof _ (fun h => by cases h)]
      have hcontext : run.context.give command .leftOut =
          ({ run.context with state := command.state }, none) := by
        cases command with
        | negotiate | connect | helo | unknown => rfl
        | _ => cases hof
      rw [hcontext]
      apply Stands.withState h _ hstate
      exact (horderly (.inr rfl)).imp id (fun h => h.2)
  | stopped =>
      have hnone : run.context.messageResult = none := by
        rcases horderly (.inl rfl) with hnone | ⟨hunknown, -⟩
        · exact hnone
        · rw [hunknown] at hmeets
          cases hmeets
      have hidle := h.idle_of_none hnone
      have htold : run.book.told command = none := by
        cases command with
        | negotiate | connect | helo | unknown => exact congrArg (Option.map _) hidle.current
        | _ => cases hof
      apply Stands.idle
      exact
        { current := rfl
          kept := by
            show (run.context.give command .stopped).1.messageResult = none
            rw [ReportingContext.messageResult_give, if_neg (by rw [hof]; exact Bool.false_ne_true)]
            exact hnone
          reported := by
            show List.Forall₂ _ run.reported (run.book.give command .stopped).ended
            rw [MessageBook.give, if_pos rfl, htold]
            dsimp only [Option.map_none, Option.toList_none]
            rw [List.append_nil]
            exact hidle.reported
          unmodified := by
            intro frame hframe
            change frame ∈ (run.context.give command .stopped).2.toList ++ run.frames at hframe
            rw [ReportingContext.frame_give, if_pos rfl] at hframe
            rcases List.mem_cons.mp hframe with rfl | hframe
            · rfl
            · exact hidle.unmodified frame hframe }

/-- Nothing is awaited while no handler runs. -/
theorem Awaited.frames_ne (h : run.Awaited message result) : run.frames ≠ [] := by
  rcases h.emits with ⟨frame, frames, hframes, -⟩
  rw [hframes]
  exact List.cons_ne_nil frame frames

/-- An abort gives a message the status that the context hands over. -/
theorem Open.abortStatus (h : run.Open message result)
    (hrefusal : run.context.state = .envelopeRecipient →
      message.refusal.isSome ∨ run.context.envelopeRecipientStatus = .default) :
    ReportingContext.abortStatus run.context.state run.context.status
        run.context.envelopeRecipientStatus =
      (message.abort run.context.state).status := by
  rw [ReportingContext.abortStatus, Message.abort, h.status]
  dsimp only
  by_cases hpass : message.status.isPass ∧
      ContextState.defineMacro.toNat ≤ run.context.state.toNat ∧
      run.context.state.toNat < ContextState.endOfMessage.toNat
  · rw [if_pos hpass, if_pos hpass]
    by_cases hstate : run.context.state = .envelopeRecipient
    · rw [if_pos hstate]
      cases hrefused : message.refusal with
      | none =>
          rw [hrefused] at hrefusal
          rw [if_neg, Option.getD_none]
          intro hboth
          exact hboth.2 ((hrefusal hstate).resolve_left Bool.false_ne_true)
      | some status =>
          have hstatus := h.refusal status hrefused
          rw [if_pos ⟨hstate, hstatus.1 ▸ hstatus.2⟩, hstatus.1, Option.getD_some]
    · rw [if_neg hstate, if_neg (fun hboth => hstate hboth.1)]
  · rw [if_neg hpass, if_neg hpass]

/-- An abort is flushed. -/
theorem idle_processNextState_abort (h : run.Stands) (hframes : run.frames = [])
    (howned : run.RecipientStatusOwned []) : (run.processNextState .abort).Idle := by
  cases h with
  | opened message result h =>
      have hstatus := h.abortStatus fun hstate => howned (.inl hstate) message h.current
      rcases @ReportingContext.emitMessageProcessedSignal_of_some
          { run.context with
            status := ReportingContext.abortStatus run.context.state run.context.status
              run.context.envelopeRecipientStatus
            state := .abort }
          result _ h.kept (h.tells.withStatus (message.abort run.context.state).status) hstatus with
        ⟨reported, hemit, hreports⟩
      exact
        { current := rfl
          kept := rfl
          reported := by
            show List.Forall₂ _ (run.reported ++ (run.context.processNextState .abort).2)
              (run.book.ended ++ (run.book.current.map (·.abort run.context.state)).toList)
            rw [ReportingContext.processNextState, hemit, h.current]
            exact List.rel_append h.reported (.cons hreports .nil)
          unmodified := by
            intro frame hframe
            rw [processNextState, hframes] at hframe
            cases hframe }
  | awaited message result h => exact absurd hframes h.frames_ne
  | idle h =>
      exact
        { current := rfl
          kept := rfl
          reported := by
            show List.Forall₂ _ (run.reported ++ (run.context.processNextState .abort).2)
              (run.book.ended ++ (run.book.current.map (·.abort run.context.state)).toList)
            rw [ReportingContext.processNextState, h.current,
              ReportingContext.emitMessageProcessedSignal_of_none]
            · exact List.rel_append h.reported .nil
            · exact h.kept
          unmodified := h.unmodified }

/-- Any other state that is flushed is entered. -/
theorem processNextState_of_ne_abort {nextState : ContextState} (hstate : nextState ≠ .abort) :
    run.processNextState nextState =
      { run with
        context := { run.context with
          state := if nextState = .invalid then run.context.state else nextState } } := by
  rw [processNextState, if_neg hstate]
  cases nextState with
  | abort => exact absurd rfl hstate
  | _ => exact congrArg (ReportRun.mk _ _ · _) (List.append_nil _)

theorem stands_processNextState (h : run.Stands) (hframes : run.frames = [])
    {nextState : ContextState} (howned : nextState = .abort → run.RecipientStatusOwned []) :
    (run.processNextState nextState).Stands := by
  by_cases hstate : nextState = .abort
  · rw [hstate]
    exact .idle (idle_processNextState_abort h hframes (howned hstate))
  · rw [processNextState_of_ne_abort hstate]
    cases h with
    | opened message result h =>
        apply Stands.opened message result
        apply h.withState
        intro frame hframe
        rw [hframes] at hframe
        cases hframe
    | awaited message result h => exact absurd hframes h.frames_ne
    | idle h => exact .idle (h.withContext h.kept)

theorem owned_processNextState {nextState : ContextState} {nextStates : List ContextState}
    (h : run.RecipientStatusOwned (nextState :: nextStates)) :
    (run.processNextState nextState).RecipientStatusOwned nextStates := by
  by_cases hstate : nextState = .abort
  · intro _ message hmessage
    rw [hstate] at hmessage
    cases hmessage
  · rw [processNextState_of_ne_abort hstate]
    intro hrecipient
    apply h
    dsimp only at hrecipient
    split at hrecipient
    · exact hrecipient.imp_right (List.mem_cons_of_mem nextState)
    · rcases hrecipient with heq | hmem
      · exact .inr (heq ▸ List.mem_cons_self)
      · exact .inr (List.mem_cons_of_mem nextState hmem)

/-- A run without handlers goes on flushing: the induction is on the states that were written. -/
theorem inv_foldl_processNextState (nextStates : List ContextState) :
    ∀ {run : ReportRun}, run.Inv → run.frames = [] →
      (.abort ∈ nextStates → run.RecipientStatusOwned nextStates) →
      (nextStates.foldl processNextState run).Inv := by
  induction nextStates with
  | nil => exact fun h _ _ => h
  | cons nextState nextStates ih =>
      intro run h hframes howned
      rw [List.foldl_cons]
      apply ih
      · exact
          { asked := by
              by_cases hstate : nextState = .abort
              · rw [hstate]
                show run.book.asked = (run.context.processNextState .abort).1.currentRecipient
                rw [h.asked, ReportingContext.processNextState,
                  ReportingContext.emitMessageProcessedSignal]
                dsimp only
                split <;> rfl
              · rw [processNextState_of_ne_abort hstate]
                exact h.asked
            stands := stands_processNextState h.stands hframes
              fun hstate hrecipient =>
                howned (hstate ▸ List.mem_cons_self)
                  (hrecipient.imp_right fun hmem => absurd hmem List.not_mem_nil) }
      · exact hframes
      · intro hmem
        exact owned_processNextState (howned (List.mem_cons_of_mem nextState hmem))

/-- No recipient is refused. -/
theorem judge_of_not_refused (context : ReportingContext) {reply : Reply}
    (hrefusal : reply.refusal.isSome → context.state ≠ .envelopeRecipient) :
    context.judge reply = { context with status := reply.verdict.getD context.status } := by
  cases reply with
  | replyCode | temporaryFailure | reject =>
      have hstate := hrefusal rfl
      exact if_neg hstate
  | _ => rfl

theorem hear_of_not_refused (message : Message) {state : ContextState} {reply : Reply}
    (hrefusal : reply.refusal.isSome → state ≠ .envelopeRecipient) (asked : Option Bytes) :
    message.hear state asked reply =
      { message with status := reply.verdict.getD message.status } := by
  cases hverdict : reply.verdict with
  | none => simp only [Message.hear, hverdict, Option.getD_none]
  | some status =>
      simp only [Message.hear, hverdict, Option.getD_some]
      exact if_neg fun h => hrefusal h.2 h.1

/-- A recipient is refused. -/
theorem judge_of_refused (context : ReportingContext) {reply : Reply} {status : Status}
    (hrefusal : reply.refusal = some status) (hstate : context.state = .envelopeRecipient) :
    context.judge reply =
      { context.updateResult fun result =>
          { result with
            toMessageResult := result.toMessageResult.refuse (decide (status = .temporaryFailure))
              context.currentRecipient } with
        envelopeRecipientStatus := status, currentRecipient := none } := by
  cases reply with
  | replyCode | temporaryFailure | reject =>
      cases hrefusal
      exact if_pos hstate
  | _ => cases hrefusal

theorem verdict_of_refusal {reply : Reply} {status : Status} (h : reply.refusal = some status) :
    reply.verdict = some status ∧ status ≠ .default := by
  cases reply with
  | replyCode code extendedCode message =>
      apply And.intro h
      cases h
      split <;> exact fun h => by cases h
  | temporaryFailure | reject =>
      cases h
      exact ⟨rfl, fun h => by cases h⟩
  | _ => cases h

/-- The recipient asked for last stays the one that the context keeps. -/
theorem asked_receive (h : run.book.asked = run.context.currentRecipient) (heard : Bool)
    (reply : Reply) :
    (run.book.hear run.context.state heard reply).asked =
      (run.context.receive reply).1.currentRecipient := by
  have hasked : (run.book.hear run.context.state heard reply).asked =
      if run.context.state = .envelopeRecipient ∧ reply.refusal.isSome then none
      else run.book.asked := by
    rw [MessageBook.hear]
    split <;> rfl
  rw [hasked, h]
  show _ = (run.context.judge reply).currentRecipient
  by_cases hrefused : run.context.state = .envelopeRecipient ∧ reply.refusal.isSome
  · rcases Option.isSome_iff_exists.mp hrefused.2 with ⟨status, hstatus⟩
    rw [if_pos hrefused, judge_of_refused _ hstatus hrefused.1]
  · rw [if_neg hrefused, judge_of_not_refused _ fun h hstate => hrefused ⟨hstate, h⟩]

theorem answer_of_quitted {context : ReportingContext} (hquitted : context.quitted = true)
    (reply : Reply) : context.answer reply = none := by
  rw [ReportingContext.answer, if_pos hquitted]

/-- The signal of a reply hands a result over behind its handlers when the reply ends a message. -/
theorem emits_answer {context : ReportingContext} {reply : Reply} {frame : ReportFrame}
    (hframe : context.answer reply = some frame)
    (hrecipient : reply = .accept ∨ reply = .discard → context.state ≠ .envelopeRecipient) :
    frame.emits context.state = reply.ends context.state := by
  rw [ReportingContext.answer, Option.ite_none_left_eq_some] at hframe
  have hsignal := hframe.2
  cases reply with
  | «continue» | replyCode =>
      simp only [ReportingContext.signal, Option.ite_none_right_eq_some,
        Option.some.injEq] at hsignal
      rw [← hsignal.2]
      simp [ReportFrame.emits, Reply.ends]
  | temporaryFailure | reject =>
      cases hsignal
      simp [ReportFrame.emits, Reply.ends]
  | accept | discard =>
      have hstate := hrecipient (by simp)
      cases hsignal
      simp [ReportFrame.emits, Reply.ends, hstate]
  | _ =>
      simp only [ReportingContext.signal, Option.ite_none_right_eq_some] at hsignal
      rcases Option.map_eq_some_iff.mp hsignal.2 with ⟨modification, -, hframe⟩
      rw [← hframe]
      rfl

theorem modifies_answer {context : ReportingContext} {reply : Reply} {frame : ReportFrame}
    (hframe : context.answer reply = some frame) (hmodifies : frame.modifies = true) :
    reply.modification.isSome ∧ context.state = .endOfMessage := by
  rw [ReportingContext.answer, Option.ite_none_left_eq_some] at hframe
  have hsignal := hframe.2
  cases reply with
  | «continue» | replyCode =>
      simp only [ReportingContext.signal, Option.ite_none_right_eq_some,
        Option.some.injEq] at hsignal
      rw [← hsignal.2] at hmodifies
      cases hmodifies
  | temporaryFailure | reject | accept | discard =>
      cases hsignal
      cases hmodifies
  | _ =>
      simp only [ReportingContext.signal, Option.ite_none_right_eq_some] at hsignal
      rcases Option.map_eq_some_iff.mp hsignal.2 with ⟨modification, hmodification, -⟩
      exact ⟨Option.isSome_of_eq_some hmodification, hsignal.1⟩

theorem answer_of_ends {context : ReportingContext} {reply : Reply}
    (hends : reply.ends context.state = true) (hquitted : context.quitted = false) :
    ∃ frame, context.answer reply = some frame ∧ frame.modifies = false := by
  have hexpects : context.state.inMessage → ReportingContext.expectsReply context.state = true := by
    cases context.state <;> first | exact fun _ => rfl | exact fun h => by cases h
  rw [ReportingContext.answer, if_neg (by rw [hquitted]; exact Bool.false_ne_true)]
  cases reply with
  | «continue» =>
      have hstate : context.state = .endOfMessage := of_decide_eq_true hends
      apply Exists.intro ReportFrame.continued
      rw [ReportingContext.signal, hstate]
      exact ⟨rfl, rfl⟩
  | replyCode =>
      have hstate := (Bool.and_eq_true_iff.mp hends).1
      exact ⟨_, if_pos (hexpects hstate), rfl⟩
  | temporaryFailure | reject | accept | discard => exact ⟨_, rfl, rfl⟩
  | _ => cases hends

theorem step_receive (hframes : run.frames = []) (reply : Reply) :
    run.step (.receive reply) =
      { run with
        context := run.context.judge reply
        frames := (run.context.answer reply).toList
        book := run.book.hear run.context.state (!run.context.quitted) reply } := if_pos hframes

theorem Open.answers (h : run.Open message result) {reply : Reply} (hanswers : run.Answers reply) :
    reply.verdict.isSome → run.MayJudge reply := by
  rw [Answers, if_pos (Option.isSome_of_eq_some h.current)] at hanswers
  exact hanswers.2

theorem Idle.answers (h : run.Idle) {reply : Reply} (hanswers : run.Answers reply) :
    (reply.refusal.isSome → run.context.state ≠ .envelopeRecipient) ∧
      (reply.modification.isSome → run.context.state = .endOfMessage →
        run.context.quitted = true) := by
  rw [Answers, if_neg (by rw [h.current]; exact Bool.false_ne_true)] at hanswers
  exact hanswers

/-- No message is going on, and none is heard of. -/
theorem idle_receive (h : run.Idle) (hframes : run.frames = []) {reply : Reply}
    (hanswers : run.Answers reply) : (run.step (.receive reply)).Idle := by
  have hnone := h.answers hanswers
  have hbook : ∀ heard, (run.book.hear run.context.state heard reply).current = none ∧
      (run.book.hear run.context.state heard reply).ended = run.book.ended := by
    intro heard
    rw [MessageBook.hear, h.current]
    cases heard <;> cases reply.ends run.context.state <;> simp
  rw [step_receive hframes, judge_of_not_refused _ hnone.1]
  exact
    { current := (hbook _).1
      kept := h.kept
      reported := by
        show List.Forall₂ _ run.reported (MessageBook.ended _)
        rw [(hbook _).2]
        exact h.reported
      unmodified := by
        intro frame hframe
        have hanswer := Option.mem_toList.mp hframe
        by_contra hmodifies
        rw [Bool.not_eq_false] at hmodifies
        have hmodified := modifies_answer hanswer hmodifies
        have hquitted := hnone.2 hmodified.1 hmodified.2
        rw [answer_of_quitted hquitted] at hanswer
        cases hanswer }

/-- The last reply to a message: its result is handed over behind the handlers. -/
theorem awaited_receive (h : run.Open message result) (hframes : run.frames = []) {reply : Reply}
    (hanswers : run.Answers reply) (hends : reply.ends run.context.state = true)
    (hquitted : run.context.quitted = false) :
    (run.step (.receive reply)).Awaited (message.hear run.context.state run.book.asked reply)
      result := by
  have hjudges := (h.answers hanswers)
  have hrefusal : reply.refusal.isSome → run.context.state ≠ .envelopeRecipient := by
    cases reply with
    | replyCode | temporaryFailure | reject =>
        exact fun _ => of_decide_eq_true (Bool.and_eq_true_iff.mp hends).2
    | _ => exact fun h => by cases h
  have hrecipient : reply = .accept ∨ reply = .discard →
      run.context.state ≠ .envelopeRecipient := by
    rintro (rfl | rfl) <;> exact of_decide_eq_true (Bool.and_eq_true_iff.mp hends).2
  rcases answer_of_ends hends hquitted with ⟨frame, hanswer, hmodifies⟩
  rw [step_receive hframes, judge_of_not_refused _ hrefusal, hear_of_not_refused _ hrefusal,
    MessageBook.hear, h.current, hquitted, hends, hanswer]
  exact
    { current := rfl
      kept := h.kept
      tells := h.tells.withStatus _
      status := by
        dsimp only
        rw [h.status]
      reported := by
        refine ⟨run.book.ended, ?_, h.reported⟩
        dsimp only [Bool.not_false, Bool.and_self, if_true, Option.map_some, Option.toList_some]
        rw [hear_of_not_refused _ hrefusal]
        rfl
      emits := ⟨frame, [], rfl, (emits_answer hanswer hrecipient).trans hends⟩
      unmodified := by
        intro frame' hframe
        rw [List.mem_singleton.mp hframe]
        exact hmodifies }

/-- A recipient is refused, and the message goes on without it. -/
theorem open_receive_refused (h : run.Open message result) (hframes : run.frames = [])
    (hasked : run.book.asked = run.context.currentRecipient) {reply : Reply} {status : Status}
    (hrefusal : reply.refusal = some status) (hstate : run.context.state = .envelopeRecipient)
    (hquitted : run.context.quitted = false) : (run.step (.receive reply)).Stands := by
  have hverdict := verdict_of_refusal hrefusal
  have hends : reply.ends .envelopeRecipient = false := by
    cases reply with
    | replyCode | temporaryFailure | reject => rfl
    | _ => cases hrefusal
  have hhear : message.hear .envelopeRecipient run.book.asked reply =
      { message with
        recipients :=
          match run.book.asked with
          | none => message.recipients
          | some recipient => message.recipients.erase recipient
        refusal := some status } := by
    simp only [Message.hear, hverdict.1]
    exact if_pos ⟨trivial, Option.isSome_of_eq_some hrefusal⟩
  have hrecipient : reply = .accept ∨ reply = .discard →
      run.context.state ≠ .envelopeRecipient := by
    rintro (rfl | rfl) <;> cases hrefusal
  rw [step_receive hframes, judge_of_refused _ hrefusal hstate, MessageBook.hear, h.current,
    hquitted, hstate, hends]
  apply Stands.opened (message.hear .envelopeRecipient run.book.asked reply)
    { result with
      toMessageResult := result.toMessageResult.refuse (decide (status = .temporaryFailure))
        run.context.currentRecipient }
  exact
    { current := rfl
      kept := by
        show some _ = some _
        rw [h.kept, Option.getD_some]
      tells := by
        rw [hhear, hasked]
        cases run.context.currentRecipient with
        | none => exact ⟨h.tells.sender, h.tells.recipients, h.tells.headers, h.tells.bodySize⟩
        | some recipient =>
            have hrecipients := congrArg (List.erase · recipient) h.tells.recipients
            exact ⟨h.tells.sender, hrecipients, h.tells.headers, h.tells.bodySize⟩
      status := by
        rw [hhear]
        exact h.status
      refusal := by
        intro refused hrefused
        rw [hhear] at hrefused
        cases hrefused
        exact ⟨rfl, hverdict.2⟩
      reported := h.reported
      quiet := by
        intro frame hframe
        have hemits := emits_answer (Option.mem_toList.mp hframe) hrecipient
        rw [hstate, hends] at hemits
        show frame.emits run.context.state = false
        rw [hstate]
        exact hemits }

/-- A reply that neither ends the message nor refuses a recipient. -/
theorem open_receive_other (h : run.Open message result) (hframes : run.frames = []) {reply : Reply}
    (hanswers : run.Answers reply) (hends : reply.ends run.context.state = false)
    (hrefusal : reply.refusal.isSome → run.context.state ≠ .envelopeRecipient)
    (hquitted : run.context.quitted = false) : (run.step (.receive reply)).Stands := by
  have hjudges := (h.answers hanswers)
  have hrecipient : reply = .accept ∨ reply = .discard →
      run.context.state ≠ .envelopeRecipient := by
    intro hreply
    have hverdict : reply.verdict.isSome := by rcases hreply with rfl | rfl <;> rfl
    exact (hjudges hverdict).2.2.2.1 hreply
  rw [step_receive hframes, judge_of_not_refused _ hrefusal, MessageBook.hear, h.current, hquitted,
    hends]
  apply Stands.opened (message.hear run.context.state run.book.asked reply) result
  rw [hear_of_not_refused _ hrefusal]
  exact
    { current := by
        dsimp only [Bool.not_false, if_true, Option.map_some]
        rw [hear_of_not_refused _ hrefusal]
        rfl
      kept := h.kept
      tells := h.tells.withStatus _
      status := by
        dsimp only
        rw [h.status]
      refusal := h.refusal
      reported := h.reported
      quiet := by
        intro frame hframe
        exact (emits_answer (Option.mem_toList.mp hframe) hrecipient).trans hends }

/-- After it was told to quit the child says nothing of a message. -/
theorem open_receive_quitted (h : run.Open message result) (hframes : run.frames = [])
    {reply : Reply} (hanswers : run.Answers reply) (hquitted : run.context.quitted = true) :
    (run.step (.receive reply)).Stands := by
  have hjudges := (h.answers hanswers)
  have hverdict : reply.verdict = none := by
    rcases Option.eq_none_or_eq_some reply.verdict with hnone | ⟨status, hsome⟩
    · exact hnone
    · have hquitted' := (hjudges (Option.isSome_of_eq_some hsome)).1
      rw [hquitted] at hquitted'
      cases hquitted'
  have hrefusal : reply.refusal.isSome → run.context.state ≠ .envelopeRecipient := by
    intro hrefused
    rcases Option.isSome_iff_exists.mp hrefused with ⟨status, hstatus⟩
    rw [(verdict_of_refusal hstatus).1] at hverdict
    cases hverdict
  rw [step_receive hframes, judge_of_not_refused _ hrefusal, MessageBook.hear, hquitted, hverdict,
    answer_of_quitted hquitted]
  apply Stands.opened message result
  exact
    { current := h.current
      kept := h.kept
      tells := h.tells
      status := h.status
      refusal := h.refusal
      reported := h.reported
      quiet := by
        intro frame hframe
        cases hframe }

theorem stands_receive (h : run.Inv) (hframes : run.frames = []) {reply : Reply}
    (hanswers : run.Answers reply) : (run.step (.receive reply)).Stands := by
  cases h.stands with
  | opened message result hopen =>
      cases hquitted : run.context.quitted with
      | true => exact open_receive_quitted hopen hframes hanswers hquitted
      | false =>
          cases hends : reply.ends run.context.state with
          | true => exact .awaited _ _ (awaited_receive hopen hframes hanswers hends hquitted)
          | false =>
              by_cases hrefused : run.context.state = .envelopeRecipient ∧ reply.refusal.isSome
              · rcases Option.isSome_iff_exists.mp hrefused.2 with ⟨status, hstatus⟩
                exact open_receive_refused hopen hframes h.asked hstatus hrefused.1 hquitted
              · exact open_receive_other hopen hframes hanswers hends
                  (fun hsome hstate => hrefused ⟨hstate, hsome⟩) hquitted
  | awaited message result hawaited => exact absurd hframes hawaited.frames_ne
  | idle hidle => exact .idle (idle_receive hidle hframes hanswers)

/-- The handlers of a signal return. -/
theorem stands_returned (h : run.Stands) : (run.step .returned).Stands := by
  rw [step]
  cases hframes : run.frames with
  | nil => exact h
  | cons frame frames =>
      have hmem : frame ∈ run.frames := hframes ▸ List.mem_cons_self
      have hrest : ∀ frame' ∈ frames, frame' ∈ run.frames :=
        fun frame' hframe => hframes ▸ List.mem_cons_of_mem frame hframe
      cases h with
      | opened message result h =>
          have hemits := h.quiet frame hmem
          cases frame with
          | modified modification =>
              apply Stands.opened message (Modification.record result modification)
              exact
                { current := h.current
                  kept := by
                    show some _ = some _
                    rw [h.kept, Option.getD_some]
                  tells := h.tells.modification modification
                  status := h.status
                  refusal := h.refusal
                  reported := by
                    dsimp only [ReportingContext.resume]
                    rw [List.append_nil]
                    exact h.reported
                  quiet := fun frame' hframe => h.quiet frame' (hrest frame' hframe) }
          | _ =>
              dsimp only
              rw [ReportingContext.resume_of_quiet hemits rfl]
              apply Stands.opened message result
              exact
                { current := h.current
                  kept := h.kept
                  tells := h.tells
                  status := h.status
                  refusal := h.refusal
                  reported := by
                    dsimp only
                    rw [List.append_nil]
                    exact h.reported
                  quiet := fun frame' hframe => h.quiet frame' (hrest frame' hframe) }
      | awaited message result h =>
          rcases h.emits with ⟨first, others, hfirst, hemits⟩
          rw [hframes] at hfirst
          cases hfirst
          rcases h.reported with ⟨before, hended, hreported⟩
          rcases ReportingContext.emitMessageProcessedSignal_of_some h.kept h.tells h.status with
            ⟨reported, hemit, hreports⟩
          dsimp only
          rw [ReportingContext.resume_of_emits hemits, hemit]
          apply Stands.idle
          exact
            { current := h.current
              kept := rfl
              reported := by
                show List.Forall₂ _ (run.reported ++ [reported]) run.book.ended
                rw [hended]
                exact List.rel_append hreported (.cons hreports .nil)
              unmodified := fun frame' hframe => h.unmodified frame' (hrest frame' hframe) }
      | idle h =>
          dsimp only
          rw [ReportingContext.resume_of_none h.kept (h.unmodified frame hmem)]
          apply Stands.idle
          exact
            { current := h.current
              kept := h.kept
              reported := by
                dsimp only
                rw [List.append_nil]
                exact h.reported
              unmodified := fun frame' hframe => h.unmodified frame' (hrest frame' hframe) }

theorem stands_give (h : run.Stands) {command : GivenCommand} {fate : Fate}
    (horderly : run.Orderly (.give command fate)) (hmeets : command.mayMeet fate) :
    (run.step (.give command fate)).Stands := by
  by_cases hfrom : ∃ sender, command = .envelopeFrom sender
  · rcases hfrom with ⟨sender, rfl⟩
    rcases horderly with ⟨-, hnone, hframes, -⟩
    exact stands_begin (h.idle_of_none hnone) hframes sender
  · have hcommand : ∀ sender, command ≠ .envelopeFrom sender :=
      fun sender heq => hfrom ⟨sender, heq⟩
    cases hof : command.isOfMessage with
    | true =>
        have hmessage : run.book.current.isSome ∧
            (fate = .stopped ∨ fate = .leftOut → run.OnlyContinued) := by
          cases command with
          | envelopeFrom sender => exact absurd rfl (hcommand sender)
          | negotiate | connect | helo | unknown => cases hof
          | _ => exact horderly
        rcases h.open_of_isSome hmessage.1 with ⟨message, result, hopen⟩
        exact stands_tell hopen hof hcommand hmessage.2 hmeets
    | false =>
        have hother : fate = .stopped ∨ fate = .leftOut → run.context.messageResult = none ∨
            command = .unknown ∧ run.book.current.isSome ∧ run.OnlyContinued := by
          cases command with
          | negotiate | connect | helo | unknown => exact horderly
          | _ => cases hof
        exact stands_other h hof hother hmeets

/-- An orderly event keeps what is known of the run. -/
theorem inv_step (h : run.Inv) {event : ReportEvent} (horderly : run.Orderly event) :
    (run.step event).Inv := by
  cases event with
  | give command fate =>
      cases hmeets : command.mayMeet fate with
      | false =>
          have hstep : run.step (.give command fate) = run :=
            if_neg (by rw [hmeets]; exact Bool.false_ne_true)
          rw [hstep]
          exact h
      | true =>
          apply Inv.mk _ (stands_give h.stands horderly hmeets)
          rw [step, if_pos hmeets]
          exact inv_asked_give h.asked command fate
  | abort written =>
      cases written with
      | false => exact h
      | true => exact ⟨h.asked, h.stands.withNextStates _ run.context.quitted⟩
  | quit written => exact ⟨h.asked, h.stands.withNextStates _ true⟩
  | beginBody => exact ⟨h.asked, h.stands.withState horderly (fun heq => by cases heq)⟩
  | setStatus status => exact ⟨h.asked, stands_setStatus h.stands horderly status⟩
  | reset => exact ⟨h.asked, .idle ((h.stands.idle_of_none horderly).withContext rfl)⟩
  | bodyPart => exact ⟨h.asked, h.stands.withNextStates _ run.context.quitted⟩
  | flushed =>
      rw [step]
      split
      · next hframes =>
          apply inv_foldl_processNextState
          · exact ⟨h.asked, h.stands.withNextStates [] run.context.quitted⟩
          · exact hframes
          · exact horderly
      · exact h
  | receive reply =>
      by_cases hframes : run.frames = []
      · apply Inv.mk _ (stands_receive h hframes (horderly hframes))
        rw [step_receive hframes]
        exact asked_receive h.asked (!run.context.quitted) reply
      · have hstep : run.step (.receive reply) = run := if_neg hframes
        rw [hstep]
        exact h
  | returned =>
      apply Inv.mk _ (stands_returned h.stands)
      rw [step]
      cases run.frames with
      | nil => exact h.asked
      | cons frame frames =>
          show run.book.asked = (run.context.resume frame).1.currentRecipient
          rw [h.asked]
          exact (ReportingContext.recipient_resume run.context frame).symm

theorem inv_init : init.Inv where
  asked := rfl
  stands := .idle ⟨rfl, rfl, .nil, fun frame hframe => by cases hframe⟩

theorem Inv.exact (h : run.Inv) : run.Exact := by
  intro hframes
  cases h.stands with
  | opened message result h => exact h.reported
  | awaited message result h => exact absurd hframes h.frames_ne
  | idle h => exact h.reported

/-- A message with a refused recipient and a modification, and a second one that is aborted. -/
def twoMessages : List ReportEvent :=
  [.give (.envelopeFrom [97]) .written, .flushed, .receive .continue, .returned,
    .give (.envelopeRecipient [98]) .written, .flushed, .receive .continue, .returned,
    .give (.envelopeRecipient [99]) .written, .flushed, .receive .temporaryFailure, .returned,
    .give (.endOfMessage 3) .written, .flushed, .receive (.addHeader [88] (some [89])), .returned,
    .receive .continue, .returned, .give (.envelopeFrom [100]) .written, .flushed,
    .receive .continue, .returned, .abort true, .flushed]

end ReportRun

end MilterManager.Server
