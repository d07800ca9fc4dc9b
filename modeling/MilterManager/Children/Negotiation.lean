import MilterManager.Children.Commands

/-!
# Negotiation

Connecting to the children, offering them the option of the MTA and answering the MTA with what
they replied; from `milter/manager/milter-manager-children.c:2500` on and `:3082`. All attempts of
one negotiation refer to the option object that the answer is built in.
-/

namespace MilterManager.Children

open MilterManager.Base MilterManager.Core MilterManager.Server

/-- The content of an option object. -/
def optionContent (s : State) (option : Nat) : MilterOption :=
  s.options.getD option ⟨0, 0#32, 0#32⟩

/-- `g_hash_table_remove (priv->try_negotiate_ids, data)`. -/
def removeAttempt (attempt : Nat) : Program PUnit :=
  Proc.update fun s => { s with tryNegotiateIds := s.tryNegotiateIds.filter (·.id != attempt) }

/-- `negotiate_data_new`, entered into `try_negotiate_ids`. -/
def addAttempt (child : ChildId) (option : Nat) (isRetry retryTimer : Bool) : Program PUnit :=
  Proc.update fun s =>
    { s with
      attempts := s.attempts + 1
      tryNegotiateIds := s.tryNegotiateIds ++ [⟨s.attempts, child, option, isRetry, retryTimer⟩] }

/-- `prepare_retry_establish_connection`, `milter/manager/milter-manager-children.c:2867`. -/
def prepareRetryEstablishConnection (child : ChildId) (option : Nat) (isRetry : Bool) :
    Program PUnit :=
  addAttempt child option isRetry true

/-- `prepare_negotiate`, `milter/manager/milter-manager-children.c:2892`. -/
def prepareNegotiate (child : ChildId) (option : Nat) (isRetry : Bool) : Program PUnit :=
  addAttempt child option isRetry false

/-- `milter_manager_children_start_child`, `milter/manager/milter-manager-children.c:2519`. -/
def startChild (child : ChildId) : Program Bool := do
  let s ← Proc.getState
  if s.launcher = .absent then pure false
  else if !(s.context child).hasCommand then pure false
  else if s.launcher = .failing then
    emitSignal (.error .other)
    pure false
  else pure true

/-- The status that the children without a negotiated option fall back to,
`milter/manager/milter-manager-children.c:2598`. -/
def fallbackStatusOnNegotiate (s : State) : Status :=
  (s.milters.filter fun child => !(s.context child).negotiated).foldl
    (fun status child =>
      if statusCompare status (s.context child).fallbackStatus < 0 then
        (s.context child).fallbackStatus
      else status) .continue

/-- `check_fallback_status_on_negotiate`, `milter/manager/milter-manager-children.c:2599`. -/
def checkFallbackStatusOnNegotiate : Program PUnit := do
  let s ← Proc.getState
  match fallbackStatusOnNegotiate s with
  | .reject | .temporaryFailure | .discard =>
      Proc.each (fun child => do
        let context ← contextOf child
        if context.negotiated then
          Proc.update fun s => { s with allExpiredAsFallbackOnNegotiated := true }
          expireChild child) s.milters
  | _ => pure ⟨⟩

/-- The steps that are taken out of the option sent to the MTA. -/
def removedSteps (s : State) : Flags :=
  StepFlags.noEventMask |||
    (StepFlags.yesMask &&& ~~~(s.initialYesSteps &&& s.requestedYesSteps))

/-- `reply_negotiate`, `milter/manager/milter-manager-children.c:2663`. -/
def replyNegotiate : Program PUnit := do
  let s ← Proc.getState
  match s.option with
  | none => emitSignal .abort
  | some option =>
      Proc.update fun s =>
        { s with options := s.options.modify option (·.removeStep (removedSteps s)) }
      let s ← Proc.getState
      emitSignal (.negotiateReply (optionContent s option))
      checkFallbackStatusOnNegotiate

/-- `remove_queue_in_negotiate`, `milter/manager/milter-manager-children.c:2693`. -/
def removeQueueInNegotiate (child : ChildId) : Program PUnit := do
  Proc.update fun s => { s with replyQueue := s.replyQueue.erase child }
  let s ← Proc.getState
  if !s.finished ∧ s.replyQueue = [] then replyNegotiate

/-- `clear_try_negotiate_data`, `milter/manager/milter-manager-children.c:2713`. -/
def clearTryNegotiateData (data : NegotiateData) : Program PUnit := do
  removeQueueInNegotiate data.child
  expireChild data.child
  removeAttempt data.id

/-- What a handler of a connection attempt does with the data of the attempt. -/
def withAttempt (attempt : Nat) (handle : NegotiateData → Program PUnit) : Program PUnit := do
  let s ← Proc.getState
  match s.tryNegotiateIds.find? (·.id == attempt) with
  | none => pure ⟨⟩
  | some data => handle data

/-- `cb_connection_timeout`, `milter/manager/milter-manager-children.c:2725`. -/
def cbConnectionTimeout (attempt : Nat) : Program PUnit :=
  withAttempt attempt clearTryNegotiateData

/-- The part of `cb_connection_error` that has the data of the attempt. -/
def retryOrClear (data : NegotiateData) (domain : ErrorDomain) : Program PUnit := do
  let s ← Proc.getState
  if domain ≠ .serverContext ∨ data.isRetry then
    emitSignal (.error domain)
    clearTryNegotiateData data
  else if !s.privilegeMode then clearTryNegotiateData data
  else if !(← startChild data.child) then clearTryNegotiateData data
  else
    prepareRetryEstablishConnection data.child data.option true
    removeAttempt data.id

/-- `cb_connection_error`, `milter/manager/milter-manager-children.c:2739`. -/
def cbConnectionError (attempt : Nat) (domain : ErrorDomain) : Program PUnit :=
  withAttempt attempt fun data => retryOrClear data domain

/-- The part of `cb_ready` that has the data of the attempt. -/
def offerOption (call : Handlers) (data : NegotiateData) : Program PUnit := do
  updateContext data.child fun context => { context with handlers := context.handlers + 1 }
  let s ← Proc.getState
  let _ ← serverNegotiate call data.child (optionContent s data.option)
  removeAttempt data.id

/-- `cb_ready`, `milter/manager/milter-manager-children.c:792`. -/
def cbReady (call : Handlers) (attempt : Nat) : Program PUnit :=
  withAttempt attempt (offerOption call)

/-- `cb_negotiate_reply`, `milter/manager/milter-manager-children.c:810`. -/
def cbNegotiateReply (child : ChildId) (reply : MilterOption) : Program PUnit := do
  let s ← Proc.getState
  (match s.option with
    | none => emitSignal (.error .children)
    | some option =>
        Proc.update fun s =>
          { s with
            options := s.options.modify option fun own => (own.merge reply).getD own
            requestedYesSteps := s.requestedYesSteps ||| reply.stepYes
            negotiated := true })
  removeQueueInNegotiate child

/-- The part of `milter_server_context_establish_connection`,
`milter/server/milter-server-context.c:3457`, that the outcome of `connect` decides. -/
def establishConnection (child : ChildId) (established : Bool) : Program PUnit :=
  updateContext child fun context =>
    { context with
      timeout := if established then some .connection else none
      connecting := established }

/-- `child_establish_connection`, `milter/manager/milter-manager-children.c:2906`. -/
def childEstablishConnection (child : ChildId) (option : Nat) (isRetry established : Bool) :
    Program Bool := do
  establishConnection child established
  if !established then
    emitSignal (.error .serverContext)
    (if isRetry then do
      Proc.record fun s => .unreachable s child
      removeQueueInNegotiate child
      expireChild child
    else prepareRetryEstablishConnection child option true)
    pure false
  else
    prepareNegotiate child option isRetry
    pure true

/-- `retry_establish_connection`, `milter/manager/milter-manager-children.c:2500`. -/
def retryEstablishConnection (attempt : Nat) (established : Bool) : Program PUnit :=
  withAttempt attempt fun data => do
    if data.retryTimer then
      let _ ← childEstablishConnection data.child data.option true established
      removeAttempt data.id

/-- `milter_manager_children_negotiate`, `milter/manager/milter-manager-children.c:3082`;
`established` tells for which children `connect` succeeds or is in progress. -/
def childrenNegotiate (offered : MilterOption) (established : ChildId → Bool) :
    Program PUnit := do
  let offered := offered.clampVersion
  Proc.update fun s =>
    { s with
      options := s.options ++ [offered]
      option := some s.options.length
      initialYesSteps := offered.stepYes }
  let s ← Proc.getState
  let option := s.options.length - 1
  if s.milters = [] then
    Proc.update fun s => { s with negotiated := true, lazyReplyNegotiate := true }
  else
    initReplyQueue .negotiate
    Proc.each pushReplyQueue s.milters
    Proc.each (fun child => do
      if !(← childEstablishConnection child option false (established child)) then
        if s.privilegeMode then
          if ← startChild child then prepareRetryEstablishConnection child option false)
      s.milters

/-- `cb_idle_reply_negotiate_on_no_child`, `milter/manager/milter-manager-children.c:3073`. -/
def idleReplyNegotiate : Program PUnit := do
  let s ← Proc.getState
  if s.lazyReplyNegotiate then
    Proc.update fun s => { s with lazyReplyNegotiate := false }
    replyNegotiate

end MilterManager.Children
