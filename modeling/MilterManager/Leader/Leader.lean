import MilterManager.Children.Callbacks
import MilterManager.Client.Context

/-!
# The leader

`milter/manager/milter-manager-leader.c`: the leader passes the signals of the children object on
to the MTA, as the response to the command it is at.
-/

namespace MilterManager.Leader

open MilterManager.Base MilterManager.Core MilterManager.Children MilterManager.Client

/-- `MilterManagerLeaderState`. -/
inductive LeaderState where
  | invalid
  | start
  | negotiate
  | negotiateReplied
  | connect
  | connectReplied
  | helo
  | heloReplied
  | envelopeFrom
  | envelopeFromReplied
  | envelopeRecipient
  | envelopeRecipientReplied
  | data
  | dataReplied
  | unknown
  | unknownReplied
  | header
  | headerReplied
  | endOfHeader
  | endOfHeaderReplied
  | body
  | bodyReplied
  | endOfMessage
  | endOfMessageReplied
  | quit
  | quitReplied
  | abort
  | abortReplied
deriving DecidableEq, Repr

/-- `MilterManagerLeaderPrivate`, with the fallback statuses of its configuration. -/
structure LeaderContext where
  state : LeaderState
  sentEndOfMessage : Bool
  processing : Bool
  fallbackStatus : Status
  fallbackStatusAtDisconnect : Status
  client : ClientContext

/-- What the leader leaves behind: commands that came in, what the children object did, with the
leader as it was then, and the packets written to the MTA, with the command they answer. -/
inductive LeaderAction where
  | commanded (command : Client.Command)
  | acted (leader : LeaderContext) (action : Action)
  | written (command : Client.Command) (packet : ReplyPacket)

/-- A program of the leader. -/
abbrev LeaderProgram := Proc LeaderContext LeaderAction

/-- The command that a response signal answers, `state_to_response_signal_name`,
`milter/manager/milter-manager-leader.c:386`. -/
def LeaderState.responseSignal : LeaderState → Option Client.Command
  | .negotiate => some .negotiate
  | .connect => some .connect
  | .helo => some .helo
  | .envelopeFrom => some .envelopeFrom
  | .envelopeRecipient => some .envelopeRecipient
  | .data => some .data
  | .unknown => some .unknown
  | .header => some .header
  | .endOfHeader => some .endOfHeader
  | .body | .bodyReplied => some .body
  | .endOfMessage => some .endOfMessage
  | .quit => some .quit
  | .abort => some .abort
  | _ => none

/-- `next_state`, `milter/manager/milter-manager-leader.c:440`. -/
def LeaderState.next (sentEndOfMessage : Bool) : LeaderState → LeaderState
  | .negotiate => .negotiateReplied
  | .connect => .connectReplied
  | .helo => .heloReplied
  | .envelopeFrom => .envelopeFromReplied
  | .envelopeRecipient => .envelopeRecipientReplied
  | .data => .dataReplied
  | .unknown => .unknownReplied
  | .header => .headerReplied
  | .endOfHeader => .endOfHeaderReplied
  | .body | .bodyReplied => if sentEndOfMessage then .endOfMessage else .bodyReplied
  | .endOfMessage => .endOfMessageReplied
  | .quit => .quitReplied
  | .abort => .abortReplied
  | _ => .invalid

/-- Write a packet, if there is one. -/
def write (command : Client.Command) (packet : Option ReplyPacket) : LeaderProgram PUnit :=
  match packet with
  | none => pure ⟨⟩
  | some packet => Proc.record fun _ => .written command packet

/-- The response signals of the client context. -/
def respond (command : Client.Command) (option : Option MilterOption) (status : Status) :
    LeaderProgram PUnit := do
  let leader ← Proc.getState
  match command with
  | .negotiate =>
      let answer := leader.client.negotiateResponse option status
      Proc.update fun leader => { leader with client := answer.1 }
      write command answer.2
  | _ => write command (leader.client.response command status)

/-- `reply`, `milter/manager/milter-manager-leader.c:526`. -/
def reply (status : Status) : LeaderProgram PUnit := do
  let leader ← Proc.getState
  match leader.state.responseSignal with
  | none => pure ⟨⟩
  | some command =>
      respond command none status
      Proc.update fun leader =>
        { leader with state := leader.state.next leader.sentEndOfMessage }

/-- `cb_reply_code`, `milter/manager/milter-manager-leader.c:574`. -/
def cbReplyCode (code : Nat) (extendedCode message : Option Bytes) : LeaderProgram PUnit := do
  let leader ← Proc.getState
  match leader.client.setReply code extendedCode message with
  | none => pure ⟨⟩
  | some client =>
      Proc.update fun leader => { leader with client := client }
      reply (if code / 100 = 4 then .temporaryFailure else .reject)

/-- The handler of the leader for a signal of the children object; the modifications of a message
are no replies, and `quit`ting and `finished` leave the leader as it is. -/
def receive : Signal → LeaderProgram PUnit
  | .negotiateReply option => do
      Proc.update fun leader => { leader with processing := true }
      respond .negotiate (some option) .continue
  | .continue => reply .continue
  | .replyCode code extendedCode message => cbReplyCode code extendedCode message
  | .temporaryFailure => reply .temporaryFailure
  | .reject => reply .reject
  | .accept => reply .accept
  | .discard => reply .discard
  | .skip => reply .skip
  | .error .children => do
      let leader ← Proc.getState
      reply leader.fallbackStatus
  | _ => pure ⟨⟩

/-- The leader takes notice of what the children object does. -/
def observe (action : Action) : LeaderProgram PUnit := do
  Proc.record fun leader => .acted leader action
  match action with
  | .emitted _ signal => receive signal
  | _ => pure ⟨⟩

end MilterManager.Leader
