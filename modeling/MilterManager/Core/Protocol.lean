import MilterManager.Core.Headers

/-!
# Statuses, states and commands

The enumerations of `milter/core/milter-protocol.h` and
`milter/server/milter-server-context.h`, and the order in which the statuses of several children
are compared.
-/

namespace MilterManager.Core

/-- `MilterStatus`, `milter/core/milter-protocol.h`. -/
inductive Status where
  | default
  | notChange
  | continue
  | reject
  | discard
  | accept
  | temporaryFailure
  | noReply
  | skip
  | allOptions
  | progress
  | abort
  | quarantine
  | stop
  | error
deriving DecidableEq, Repr

/-- `MILTER_STATUS_IS_PASS`. -/
def Status.isPass : Status → Bool
  | .default | .notChange | .continue => true
  | _ => false

/-- `milter_status_compare`, `milter/core/milter-protocol.c:27`. -/
def statusCompare (currentStatus newStatus : Status) : Int :=
  if currentStatus = newStatus then 0
  else
    match currentStatus with
    | .discard => 1
    | .reject => if newStatus = .discard then -1 else 1
    | .temporaryFailure => if newStatus = .discard ∨ newStatus = .reject then -1 else 1
    | .continue =>
        if newStatus = .discard ∨ newStatus = .reject ∨ newStatus = .temporaryFailure then -1
        else 1
    | .skip =>
        if newStatus = .discard ∨ newStatus = .reject ∨ newStatus = .temporaryFailure ∨
            newStatus = .continue then -1
        else 1
    | .accept =>
        if newStatus = .discard ∨ newStatus = .reject ∨ newStatus = .temporaryFailure ∨
            newStatus = .skip ∨ newStatus = .continue then -1
        else 1
    | _ => -1

/-- `MilterServerContextState`, `milter/server/milter-server-context.h`. -/
inductive ContextState where
  | invalid
  | start
  | defineMacro
  | negotiate
  | connect
  | helo
  | envelopeFrom
  | envelopeRecipient
  | data
  | unknown
  | header
  | endOfHeader
  | body
  | endOfMessage
  | quit
  | abort
deriving DecidableEq, Repr

/-- The value of the state in the enumeration, by which the source compares states. -/
def ContextState.toNat : ContextState → Nat
  | .invalid => 0
  | .start => 1
  | .defineMacro => 2
  | .negotiate => 3
  | .connect => 4
  | .helo => 5
  | .envelopeFrom => 6
  | .envelopeRecipient => 7
  | .data => 8
  | .unknown => 9
  | .header => 10
  | .endOfHeader => 11
  | .body => 12
  | .endOfMessage => 13
  | .quit => 14
  | .abort => 15

/-- The states whose packets are written to a child whatever it is being waited for. -/
def ContextState.interrupts : ContextState → Bool
  | .abort | .quit => true
  | _ => false

/-- The states between `ENVELOPE_FROM` and `END_OF_MESSAGE`. -/
def ContextState.inMessage (state : ContextState) : Bool :=
  ContextState.envelopeFrom.toNat ≤ state.toNat && state.toNat ≤ ContextState.endOfMessage.toNat

/-- The commands that are queued for a child, `MilterCommand` of
`milter/core/milter-protocol.h`. -/
inductive Command where
  | data
  | header
  | endOfHeader
  | body
  | endOfMessage
deriving DecidableEq, Repr

end MilterManager.Core
