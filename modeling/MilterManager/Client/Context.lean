import MilterManager.Base.Proc
import MilterManager.Core.Option

/-!
# The connection to the MTA

The part of `MilterClientContext`, `milter/client/milter-client-context.c`, that answers the
commands of the MTA: the reply code that is kept for it and the packet written for a status.
-/

namespace MilterManager.Client

open MilterManager.Core

/-- The packets that answer a command. -/
inductive ReplyPacket where
  | negotiate (option : Option MilterOption)
  | continue
  | replyCode (code : Nat) (extendedCode message : Option Bytes)
  | temporaryFailure
  | reject
  | accept
  | discard
  | skip
deriving DecidableEq, Repr

/-- The commands whose response signals the context has; `quit` stands for the name without a
signal that the leader uses. -/
inductive Command where
  | negotiate
  | connect
  | helo
  | envelopeFrom
  | envelopeRecipient
  | data
  | unknown
  | header
  | endOfHeader
  | body
  | endOfMessage
  | quit
  | abort
deriving DecidableEq, Repr

/-- `MilterClientContextPrivate`: the option and the reply code. -/
structure ClientContext where
  option : Option MilterOption
  replyCode : Nat
  extendedReplyCode : Option Bytes
  replyMessage : Option Bytes

/-- `milter_client_context_init`. -/
def ClientContext.init : ClientContext := ⟨none, 0, none, none⟩

/-- One to three digits, a subject or a detail of an extended status code. -/
def isExtendedCodeComponent (component : Bytes) : Bool :=
  component ≠ [] && component.length ≤ 3 && component.all fun c => 48 ≤ c && c ≤ 57

/-- `extended_code_parse`, `milter/client/milter-client-context.c:1942`: the class, unless the
code is not well formed. -/
def extendedCodeClass : Bytes → Option Nat
  | klass :: 46 :: rest =>
      match rest.dropWhile (· ≠ 46) with
      | 46 :: detail =>
          if (klass = 50 ∨ klass = 52 ∨ klass = 53) ∧
              isExtendedCodeComponent (rest.takeWhile (· ≠ 46)) ∧
                isExtendedCodeComponent detail then
            some (klass.toNat - 48)
          else none
      | _ => none
  | _ => none

namespace ClientContext

/-- `milter_client_context_set_reply`, `milter/client/milter-client-context.c:1984`; `none` is an
error. -/
def setReply (context : ClientContext) (code : Nat) (extendedCode message : Option Bytes) :
    Option ClientContext :=
  if 400 ≤ code ∧ code < 600 ∧ extendedCode.all (fun c => extendedCodeClass c == some (code / 100))
  then
    some { context with
      replyCode := code
      extendedReplyCode := extendedCode
      replyMessage := message }
  else none

/-- The packet with the reply code, when one is set, in place of a plain one. -/
def formatReply (context : ClientContext) (plain : ReplyPacket) : ReplyPacket :=
  if context.replyCode = 0 then plain
  else .replyCode context.replyCode context.extendedReplyCode context.replyMessage

/-- `create_reply_packet`, `milter/client/milter-client-context.c:2660`. -/
def createReplyPacket (context : ClientContext) : Status → Option ReplyPacket
  | .continue => some .continue
  | .temporaryFailure => some (context.formatReply .temporaryFailure)
  | .reject => some (context.formatReply .reject)
  | .accept => some .accept
  | .discard => some .discard
  | .skip => some .skip
  | _ => none

/-- `negotiate_response`, `milter/client/milter-client-context.c:2863`: the context and the packet
written. -/
def negotiateResponse (context : ClientContext) (option : Option MilterOption) (status : Status) :
    ClientContext × Option ReplyPacket :=
  match status with
  | .continue => ({ context with option := option }, some (.negotiate option))
  | .default | .allOptions => (context, some (.negotiate context.option))
  | .reject => (context, some .reject)
  | _ => (context, none)

/-- The response signals of the other commands, `milter/client/milter-client-context.c:2926` to
`:3260`: the packet written. -/
def response (context : ClientContext) (command : Command) (status : Status) :
    Option ReplyPacket :=
  match command with
  | .quit | .abort => none
  | _ => context.createReplyPacket (if status = .default then .continue else status)

end ClientContext

end MilterManager.Client
