import MilterManager.Base.Runs
import MilterManager.Children.ConnectionKeeps

/-!
# One context on its own

A `MilterServerContext` of `milter/server/milter-server-context.c` with its connection
established, whatever its owner calls, its child replies and its timeouts do, one after the other.
The handlers of its signals only listen here: what they call comes as an event of its own.
-/

namespace MilterManager.Children

open MilterManager.Base MilterManager.Core MilterManager.Server

/-- Handlers that leave in the trace that they were entered and do nothing else. -/
def onlyListen : Handlers := fun child callback => Proc.record fun s => .called s child callback

theorem onlyListen_apply (child : ChildId) (callback : Callback) (s : State) :
    onlyListen child callback s = ⟨⟨⟩, s, [.called s child callback]⟩ := rfl

/-- What can happen to a context: the functions its owner calls, and what reaches it from its
connection and its timeouts. -/
inductive ContextEvent where
  | negotiate (option : MilterOption)
  | connect (hostName : Bytes)
  | helo (fqdn : Bytes)
  | envelopeFrom (sender : Bytes)
  | envelopeRecipient (recipient : Bytes)
  | data
  | unknown (command : Bytes)
  | header (name : Bytes) (value : Option Bytes)
  | endOfHeader
  | body (chunk : Bytes)
  | endOfMessage (chunk : Bytes)
  | quit
  | abort
  | resetMessageRelatedData
  | flushed
  | receive (reply : Reply)
  | hangUp
  | failConnection
  | failWriter
  | expireTimeout
deriving DecidableEq, Repr

namespace ContextEvent

/-- A program without an answer answers true. -/
def done (m : Program PUnit) : Program Bool := do
  m
  pure true

theorem done_trace (m : Program PUnit) (s : State) : (done m s).trace = (m s).trace :=
  List.append_nil _

/-- What the context does, with the value that the owner is given. -/
def program (child : ChildId) : ContextEvent → Program Bool
  | .negotiate option => serverNegotiate onlyListen child option
  | .connect hostName => serverConnect onlyListen child hostName
  | .helo fqdn => serverHelo onlyListen child fqdn
  | .envelopeFrom sender => serverEnvelopeFrom onlyListen child sender
  | .envelopeRecipient recipient => serverEnvelopeRecipient onlyListen child recipient
  | .data => serverData onlyListen child
  | .unknown command => serverUnknown onlyListen child command
  | .header name value => serverHeader onlyListen child name value
  | .endOfHeader => serverEndOfHeader onlyListen child
  | .body chunk => serverBody onlyListen child chunk
  | .endOfMessage chunk => serverEndOfMessage onlyListen child chunk
  | .quit => serverQuit onlyListen child
  | .abort => serverAbort onlyListen child
  | .resetMessageRelatedData => done (updateContext child Context.resetMessageRelatedData)
  | .flushed => done (Children.flushed onlyListen child)
  | .receive reply => done (Children.receive onlyListen child reply)
  | .hangUp => done (Children.hangUp onlyListen child)
  | .failConnection => done (Children.failConnection onlyListen child)
  | .failWriter => done (Children.failWriter onlyListen child)
  | .expireTimeout => done (Children.expireTimeout onlyListen child)

/-- The state a command leads to. -/
def command : ContextEvent → Option ContextState
  | .negotiate _ => some .negotiate
  | .connect _ => some .connect
  | .helo _ => some .helo
  | .envelopeFrom _ => some .envelopeFrom
  | .envelopeRecipient _ => some .envelopeRecipient
  | .data => some .data
  | .unknown _ => some .unknown
  | .header _ _ => some .header
  | .endOfHeader => some .endOfHeader
  | .body _ => some .body
  | .endOfMessage _ => some .endOfMessage
  | .quit => some .quit
  | .abort => some .abort
  | _ => none

/-- The command is not one for the child: a stop-on signal stops it, or the child negotiated that
it does not want it. -/
def leftOut (context : Context) : ContextEvent → Bool
  | .connect _ => context.stopOn .connect || context.isEnableStep StepFlags.noConnect
  | .helo _ => context.stopOn .helo || context.isEnableStep StepFlags.noHelo
  | .envelopeFrom _ =>
      context.stopOn .envelopeFrom || context.isEnableStep StepFlags.noEnvelopeFrom
  | .envelopeRecipient _ =>
      context.stopOn .envelopeRecipient || context.isEnableStep StepFlags.noEnvelopeRecipient
  | .data =>
      context.stopOn .data || context.option.any (·.version < 4) ||
        context.isEnableStep StepFlags.noData
  | .unknown _ => context.isEnableStep StepFlags.noUnknown
  | .header _ _ => context.stopOn .header || context.isEnableStep StepFlags.noHeaders
  | .endOfHeader => context.stopOn .endOfHeader || context.isEnableStep StepFlags.noEndOfHeader
  | .body _ => context.stopOn .body || context.isEnableStep StepFlags.noBody
  | .endOfMessage _ => context.stopOn .endOfMessage
  | _ => false

end ContextEvent

/-- The packets written in a trace. -/
def packets (trace : List Action) : List Packet :=
  trace.filterMap fun
    | .sent _ packet => some packet
    | _ => none

/-- The signals emitted in a trace. -/
def callbacks (trace : List Action) : List Callback :=
  trace.filterMap fun
    | .called _ _ callback => some callback
    | _ => none

@[simp] theorem packets_nil : packets [] = [] := rfl

@[simp] theorem packets_append (front back : List Action) :
    packets (front ++ back) = packets front ++ packets back := List.filterMap_append

@[simp] theorem callbacks_nil : callbacks [] = [] := rfl

@[simp] theorem packets_sent (child : ChildId) (packet : Packet) (trace : List Action) :
    packets (.sent child packet :: trace) = packet :: packets trace := rfl

@[simp] theorem packets_called (before : State) (child : ChildId) (callback : Callback)
    (trace : List Action) : packets (.called before child callback :: trace) = packets trace := rfl

@[simp] theorem callbacks_sent (child : ChildId) (packet : Packet) (trace : List Action) :
    callbacks (.sent child packet :: trace) = callbacks trace := rfl

@[simp] theorem callbacks_called (before : State) (child : ChildId) (callback : Callback)
    (trace : List Action) :
    callbacks (.called before child callback :: trace) = callback :: callbacks trace := rfl

@[simp] theorem callbacks_append (front back : List Action) :
    callbacks (front ++ back) = callbacks front ++ callbacks back := List.filterMap_append

/-- The data of a context that its connection and its body transport are about. -/
structure Wire where
  nextStates : List ContextState
  option : Option MilterOption
  timeout : Option Timeout
  writer : Writer
  finished : Bool
  body : Bytes
  bodyResponseQueue : List Nat
  processBodyCount : Nat
  sentEndOfMessage : Bool
  quitted : Bool
  handlers : Nat
  stopOn : ContextState → Bool

namespace Wire

/-- `write_packet` writes: no other command is being processed, and the writer works. -/
def writes (line : Wire) (nextState : ContextState) : Bool :=
  (nextState.interrupts || line.timeout.isNone) && line.writer ≠ .stopped

/-- What `write_packet` leaves. -/
def afterWrite (line : Wire) (nextState : ContextState) : Wire :=
  if !nextState.interrupts && line.timeout.isSome then line
  else if line.writer = .stopped then { line with timeout := none }
  else
    { line with
      timeout := if nextState.interrupts then line.timeout else some .writing
      nextStates := line.nextStates ++ [nextState] }

theorem writes_queue (line : Wire) (queue : List Nat) (nextState : ContextState) :
    ({ line with bodyResponseQueue := queue } : Wire).writes nextState = line.writes nextState :=
  rfl

theorem afterWrite_queue (line : Wire) (queue : List Nat) (nextState : ContextState) :
    ({ line with bodyResponseQueue := queue } : Wire).afterWrite nextState =
      { line.afterWrite nextState with bodyResponseQueue := queue } := by
  unfold afterWrite
  split
  · rfl
  · split
    · rfl
    · rfl

theorem afterWrite_body (line : Wire) (nextState : ContextState) :
    (line.afterWrite nextState).body = line.body := by
  unfold afterWrite
  split
  · rfl
  · split
    · rfl
    · rfl

/-- What `flush_body` leaves. -/
def afterFlush (line : Wire) : Wire :=
  let queue := line.bodyResponseQueue
  if line.writes .body then
    { line.afterWrite .body with
      body := line.body.drop milterChunkSize
      bodyResponseQueue := queue ++ [1] }
  else { line.afterWrite .body with bodyResponseQueue := queue ++ [0] }

/-- `milter_server_context_need_reply` on these data. -/
def needReply (line : Wire) (state : ContextState) : Bool :=
  match line.option with
  | none => true
  | some option => option.step &&& Context.noReplyFlag state == 0#32

/-- What `process_next_state` leaves, where a shutdown leaves what `shutdown` tells. -/
def afterNextState (shutdown : Wire → Wire) (line : Wire) (nextState : ContextState) : Wire :=
  let idle := { line with timeout := none }
  match nextState with
  | .invalid => line
  | .endOfMessage =>
      { line with
        timeout := some .endOfMessage
        sentEndOfMessage := line.sentEndOfMessage || line.processBodyCount ≠ 0 }
  | .body =>
      if line.body = [] then idle
      else if !line.needReply .body then idle.afterFlush
      else { line with timeout := some .reading }
  | .quit => shutdown idle
  | .abort =>
      { idle with bodyResponseQueue := [], processBodyCount := 0, sentEndOfMessage := false }
  | nextState =>
      { line with timeout := if line.needReply nextState then some .reading else none }

/-- What `process_next_state` writes. -/
def nextPackets (line : Wire) (nextState : ContextState) : List Packet :=
  if nextState = .body ∧ line.body ≠ [] ∧ !line.needReply .body ∧ line.writer = .started then
    [.body (line.body.take milterChunkSize)]
  else []

/-- What `flushed` writes while it goes through the states. -/
def flushPackets (shutdown : Wire → Wire) : Wire → List ContextState → List Packet
  | _, [] => []
  | line, nextState :: nextStates =>
      line.nextPackets nextState ++
        flushPackets shutdown (line.afterNextState shutdown nextState) nextStates

/-- What the states leave that were waited for. -/
def afterNextStates (shutdown : Wire → Wire) (line : Wire) : Wire :=
  line.nextStates.foldl (afterNextState shutdown) { line with nextStates := [] }

/-- What `milter_writer_shutdown` leaves. -/
def afterWriterShutdown (last : LastWrite) (line : Wire) : Wire :=
  if line.writer = .started then
    if last.flushes then afterNextStates id { line with writer := .stopped }
    else { line with writer := .stopped }
  else line

/-- What `milter_agent_shutdown` leaves. -/
def afterShutdown (last : LastWrite) (line : Wire) : Wire :=
  ({ line with finished := true } : Wire).afterWriterShutdown last

/-- What `flushed` leaves. -/
def afterFlushed (last : LastWrite) (line : Wire) : Wire :=
  if line.writer = .started then afterNextStates (afterShutdown last) line else line

/-- What the end of the connection leaves. -/
def afterHangUp (last : LastWrite) (line : Wire) : Wire :=
  if line.writer ≠ .absent ∧ !line.finished then line.afterShutdown last else line

/-- What a failure of the writer leaves. -/
def afterFailWriter (line : Wire) : Wire :=
  { line with writer := if line.writer = .started then .lost else line.writer }

theorem afterNextState_stopped (line : Wire) (nextState : ContextState)
    (hstopped : line.writer = .stopped) : (line.afterNextState id nextState).writer = .stopped := by
  cases nextState with
  | body =>
      simp only [afterNextState]
      split
      · exact hstopped
      · split
        · simp [afterFlush, writes, afterWrite, hstopped]
        · exact hstopped
  | _ => simpa [afterNextState] using hstopped

/-- Nothing is written once the writer is shut down. -/
theorem flushPackets_of_stopped (line : Wire) (nextStates : List ContextState)
    (hstopped : line.writer = .stopped) : line.flushPackets id nextStates = [] := by
  induction nextStates generalizing line with
  | nil => rfl
  | cons nextState nextStates ih =>
      have hnone : line.nextPackets nextState = [] := by simp [nextPackets, hstopped]
      rw [flushPackets, hnone, List.nil_append]
      exact ih _ (line.afterNextState_stopped nextState hstopped)

/-- What `decrement_process_body_count` leaves. -/
def afterDecrement (line : Wire) : Wire :=
  match line.bodyResponseQueue with
  | [] => line
  | count :: rest =>
      let count := (count + 0xffffffff) % 0x100000000
      { line with bodyResponseQueue := if count = 0 then rest else count :: rest }

theorem afterDecrement_queue (line : Wire) :
    ∃ queue, line.afterDecrement = { line with bodyResponseQueue := queue } := by
  unfold afterDecrement
  split
  · exact ⟨line.bodyResponseQueue, rfl⟩
  · exact ⟨_, rfl⟩

theorem afterDecrement_body (line : Wire) : line.afterDecrement.body = line.body := by
  obtain ⟨queue, h⟩ := line.afterDecrement_queue
  rw [h]

theorem afterDecrement_writer (line : Wire) : line.afterDecrement.writer = line.writer := by
  obtain ⟨queue, h⟩ := line.afterDecrement_queue
  rw [h]

theorem afterDecrement_writes (line : Wire) (nextState : ContextState) :
    line.afterDecrement.writes nextState = line.writes nextState := by
  obtain ⟨queue, h⟩ := line.afterDecrement_queue
  rw [h]
  rfl

/-- How often `decrement_process_body_count` signals `continue`. -/
def decrementAnswers (line : Wire) : Nat :=
  match line.bodyResponseQueue with
  | [] => 0
  | count :: _ => if (count + 0xffffffff) % 0x100000000 = 0 then line.handlers else 0

/-- What a reply leaves that the context receives in `state`. -/
def afterReply (line : Wire) (state : ContextState) : Reply → Wire
  | .negotiateReply option =>
      match (line.option.getD option).combine option with
      | none => { line with timeout := none }
      | some combined => { line with timeout := none, option := some combined }
  | .continue =>
      let line := { line with timeout := none }
      if state = .body ∧ !line.quitted then
        if line.body = [] then line.afterDecrement else line.afterDecrement.afterFlush
      else line
  | .replyCode _ _ _ | .temporaryFailure | .reject | .accept | .discard | .skip =>
      let line := { line with timeout := none }
      if state = .body ∧ !line.quitted then { line with bodyResponseQueue := [] } else line
  | .connectionFailure | .shutdown => { line with timeout := none }
  | .progress =>
      if state = .endOfMessage ∧ !line.quitted then { line with timeout := some .endOfMessage }
      else line
  | _ => line

/-- What the end of the registered timeout leaves. -/
def afterTimeout (last : LastWrite) (line : Wire) : Wire :=
  match line.timeout with
  | none | some .expired => line
  | some .connection => { line with timeout := some .expired }
  | some _ => ({ line with timeout := some .expired } : Wire).afterShutdown last

end Wire

namespace ContextEvent

/-- The packet of a command that is written whole. -/
def packet : ContextEvent → Option Packet
  | .negotiate option => some (.negotiate option)
  | .connect hostName => some (.connect hostName)
  | .helo fqdn => some (.helo fqdn)
  | .envelopeFrom sender => some (.envelopeFrom sender)
  | .envelopeRecipient recipient => some (.envelopeRecipient recipient)
  | .data => some .data
  | .unknown command => some (.unknown command)
  | .header name value => some (.header name value)
  | .endOfHeader => some .endOfHeader
  | .endOfMessage chunk => some (.endOfMessage chunk)
  | .quit => some .quit
  | .abort => some .abort
  | _ => none

/-- What a command changes before its packet is written. -/
def prepare (line : Wire) : ContextEvent → Wire
  | .negotiate option => { line with option := some option }
  | .quit => { line with quitted := true }
  | _ => line

theorem prepare_timeout (line : Wire) (event : ContextEvent) :
    (event.prepare line).timeout = line.timeout := by
  cases event <;> rfl

theorem prepare_nextStates (line : Wire) (event : ContextEvent) :
    (event.prepare line).nextStates = line.nextStates := by
  cases event <;> rfl

theorem prepare_writer (line : Wire) (event : ContextEvent) :
    (event.prepare line).writer = line.writer := by
  cases event <;> rfl

theorem prepare_writes (line : Wire) (event : ContextEvent) (state : ContextState) :
    (event.prepare line).writes state = line.writes state := by
  cases event <;> rfl

theorem prepare_body (line : Wire) (event : ContextEvent) :
    (event.prepare line).body = line.body ∧
      (event.prepare line).bodyResponseQueue = line.bodyResponseQueue ∧
      (event.prepare line).finished = line.finished ∧
      (event.prepare line).handlers = line.handlers := by
  cases event <;> exact ⟨rfl, rfl, rfl, rfl⟩

/-- The command of a body is a body call. -/
theorem eq_body_of_command {event : ContextEvent} (h : event.command = some .body) :
    ∃ chunk, event = .body chunk := by
  cases event with
  | body chunk => exact ⟨chunk, rfl⟩
  | _ => exact absurd h (by simp [ContextEvent.command])

theorem command_ne_invalid {event : ContextEvent} {state : ContextState}
    (h : event.command = some state) : state ≠ .invalid := by
  rintro rfl
  cases event with
  | _ => exact absurd h (by simp [ContextEvent.command])

end ContextEvent

/-- The data of a context without the state and what is known of the message. -/
def wire (context : Context) : Wire where
  nextStates := context.nextStates
  option := context.option
  timeout := context.timeout
  writer := context.writer
  finished := context.finished
  body := context.body
  bodyResponseQueue := context.bodyResponseQueue
  processBodyCount := context.processBodyCount
  sentEndOfMessage := context.sentEndOfMessage
  quitted := context.quitted
  handlers := context.handlers
  stopOn := context.stopOn

section Programs

variable (child : ChildId) (s : State)

@[simp] theorem contextOf_value : (contextOf child s).value = s.context child := rfl

@[simp] theorem contextOf_state : (contextOf child s).state = s := rfl

@[simp] theorem contextOf_trace : (contextOf child s).trace = [] := rfl

@[simp] theorem updateContext_context (f : Context → Context) :
    (updateContext child f s).state.context child = f (s.context child) := by
  simp [updateContext]

@[simp] theorem updateContext_trace (f : Context → Context) :
    (updateContext child f s).trace = [] := rfl

/-- Listening changes nothing and writes nothing. -/
theorem each_onlyListen (callback : Callback) (n : Nat) :
    let o := Proc.each (fun _ : Unit => do
      let context ← contextOf child
      if context.handlers = 0 then pure ⟨⟩ else onlyListen child callback) (List.replicate n ()) s
    o.state = s ∧ packets o.trace = [] ∧
      callbacks o.trace =
        if (s.context child).handlers = 0 then [] else List.replicate n callback := by
  induction n with
  | zero => simp
  | succ n ih =>
      simp only at ih ⊢
      rw [List.replicate_succ, Proc.each_cons, Proc.bind_apply, contextOf_bind]
      by_cases hzero : (s.context child).handlers = 0
      · rw [if_pos hzero] at ih ⊢
        simp only [hzero, if_true, Proc.pure_apply]
        exact ⟨ih.1, by simpa using ih.2.1, by simpa using ih.2.2⟩
      · rw [if_neg hzero] at ih ⊢
        simp only [hzero, if_false, onlyListen_apply, List.cons_append, List.nil_append,
          packets_called, callbacks_called]
        exact ⟨ih.1, ih.2.1, by rw [ih.2.2, List.replicate_succ]⟩

@[simp] theorem emitOn_state (callback : Callback) :
    (emitOn onlyListen child callback s).state = s := by
  rw [emitOn, contextOf_bind]
  exact (each_onlyListen child s callback _).1

@[simp] theorem emitOn_packets (callback : Callback) :
    packets (emitOn onlyListen child callback s).trace = [] := by
  rw [emitOn, contextOf_bind]
  exact (each_onlyListen child s callback _).2.1

@[simp] theorem emitOn_signals (callback : Callback) :
    callbacks (emitOn onlyListen child callback s).trace =
      List.replicate (s.context child).handlers callback := by
  rw [emitOn, contextOf_bind, (each_onlyListen child s callback _).2.2]
  by_cases hzero : (s.context child).handlers = 0
  · rw [if_pos hzero, hzero, List.replicate_zero]
  · rw [if_neg hzero]

/-- Nothing has been written or answered so far, and the state is still `s`. -/
def Quiet (s : State) (past : List Action) (t : State) : Prop :=
  t = s ∧ packets past = [] ∧ .continue ∉ callbacks past

theorem quiet_onlyListen {callback : Callback} (hcallback : callback ≠ .continue) :
    Proc.Keeps (Quiet s) (onlyListen child callback) := by
  apply Proc.Keeps.record
  intro past t h
  refine ⟨h.1, by simp [h.2.1], ?_⟩
  simp [h.2.2, hcallback.symm]

theorem quiet_contextOf : Proc.Keeps (Quiet s) (contextOf child) :=
  Proc.Keeps.getState.bind fun _ => Proc.Keeps.pure _

theorem quiet_emitOnAttempts {callback : Nat → Callback} (h : ∀ n, callback n ≠ .continue) :
    Proc.Keeps (Quiet s) (emitOnAttempts onlyListen child callback) := by
  apply Proc.Keeps.getState.bind
  intro t
  apply Proc.Keeps.each
  intro data _
  apply Proc.Keeps.getState.bind
  intro t
  exact Proc.Keeps.ite (quiet_onlyListen child s (h _)) (Proc.Keeps.pure _)

theorem quiet_emitErrorOn (domain : ErrorDomain) :
    Proc.Keeps (Quiet s) (emitErrorOn onlyListen child domain) := by
  apply (quiet_emitOnAttempts child s (fun _ => by simp)).bind
  intro _
  apply (quiet_contextOf child s).bind
  intro context
  apply Proc.Keeps.each
  intro _ _
  apply (quiet_contextOf child s).bind
  intro context
  exact Proc.Keeps.ite (Proc.Keeps.pure _) (quiet_onlyListen child s (by simp))

theorem quiet_emitErrorOn_apply (domain : ErrorDomain) :
    Quiet s (emitErrorOn onlyListen child domain s).trace
      (emitErrorOn onlyListen child domain s).state := by
  simpa using quiet_emitErrorOn child s domain [] s ⟨rfl, rfl, by simp⟩

@[simp] theorem emitErrorOn_state (domain : ErrorDomain) :
    (emitErrorOn onlyListen child domain s).state = s :=
  (quiet_emitErrorOn_apply child s domain).1

@[simp] theorem emitErrorOn_packets (domain : ErrorDomain) :
    packets (emitErrorOn onlyListen child domain s).trace = [] :=
  (quiet_emitErrorOn_apply child s domain).2.1

@[simp] theorem emitErrorOn_signals (domain : ErrorDomain) :
    (callbacks (emitErrorOn onlyListen child domain s).trace).count .continue = 0 :=
  List.count_eq_zero.mpr (quiet_emitErrorOn_apply child s domain).2.2

end Programs

/-- What is behind the first `n` bytes. -/
theorem drop_length_take (n : Nat) (bytes : Bytes) :
    bytes.drop (bytes.take n).length = bytes.drop n := by
  rw [List.length_take]
  rcases Nat.le_total n bytes.length with hle | hle
  · rw [Nat.min_eq_left hle]
  · rw [Nat.min_eq_right hle, List.drop_eq_nil_of_le hle, List.drop_length]

section Commands

variable (child : ChildId) (s : State)

theorem writePacket_apply (packet : Packet) (nextState : ContextState) :
    let o := writePacket onlyListen child packet nextState s
    let line := wire (s.context child)
    o.value = line.writes nextState ∧
      wire (o.state.context child) = line.afterWrite nextState ∧
      packets o.trace =
        (if line.writes nextState ∧ line.writer = .started then [packet] else []) ∧
      (callbacks o.trace).count .continue = 0 := by
  by_cases hinterrupts : nextState.interrupts = true
  · by_cases hstopped : (s.context child).writer = .stopped
    · simp [writePacket, writePacketNow, Wire.writes, Wire.afterWrite, wire, hinterrupts, hstopped,
        disableTimeout]
    · by_cases hstarted : (s.context child).writer = .started
      · simp [writePacket, writePacketNow, Wire.writes, Wire.afterWrite, wire, hinterrupts,
          hstarted, Proc.when]
      · simp [writePacket, writePacketNow, Wire.writes, Wire.afterWrite, wire, hinterrupts,
          hstopped, hstarted, Proc.when]
  · cases htimeout : (s.context child).timeout with
    | some timeout =>
        simp [writePacket, Wire.writes, Wire.afterWrite, wire, hinterrupts, Context.isProcessing,
          htimeout]
    | none =>
        by_cases hstopped : (s.context child).writer = .stopped
        · simp [writePacket, writePacketNow, Wire.writes, Wire.afterWrite, wire, hinterrupts,
            Context.isProcessing, htimeout, hstopped, disableTimeout, registerTimeout]
        · by_cases hstarted : (s.context child).writer = .started
          · simp [writePacket, writePacketNow, Wire.writes, Wire.afterWrite, wire, hinterrupts,
              Context.isProcessing, htimeout, hstarted, Proc.when, registerTimeout]
          · simp [writePacket, writePacketNow, Wire.writes, Wire.afterWrite, wire, hinterrupts,
              Context.isProcessing, htimeout, hstopped, hstarted, Proc.when, registerTimeout]

/-- A command that stops or is skipped is answered on the spot, any other is sent. -/
theorem askAndSend_apply (state : ContextState) (prepare : Context → Context) (reply : Callback)
    (skips : Context → Bool) (send : Program Bool)
    (hprepare : ∀ context, wire (prepare context) = wire context)
    (hskips : ∀ context, skips (prepare context) = skips context) :
    let o := askAndSend onlyListen child state prepare reply skips send s
    let context := s.context child
    ((context.stopOn state || skips context) = true →
      o.value = true ∧ wire (o.state.context child) = wire context ∧ packets o.trace = []) ∧
    ((context.stopOn state || skips context) = false →
      o = send (updateContext child prepare s).state) := by
  intro o context
  by_cases hstop : context.stopOn state = true
  · refine ⟨fun _ => ?_, fun h => absurd h (by simp [hstop])⟩
    by_cases hmessage : state.inMessage = true
    · simp [o, askAndSend, stopOnState, setContextState, context, hstop, hmessage, wire,
        Context.emitMessageProcessedSignal]
    · simp [o, askAndSend, stopOnState, setContextState, context, hstop, hmessage, wire]
  · by_cases hskip : skips context = true
    · refine ⟨fun _ => ?_, fun h => absurd h (by simp [hskip])⟩
      have hskip' : skips (prepare context) = true := (hskips context).trans hskip
      have hwire : wire { prepare context with state := state } = wire context := hprepare context
      simp [o, askAndSend, sendOrSkip, setContextState, context, hstop, hskip', hwire]
    · refine ⟨fun h => absurd h (by simp [hstop, hskip]), fun _ => ?_⟩
      have hskip' : ¬skips (prepare context) = true := fun h =>
        hskip ((hskips context).symm.trans h)
      simp [o, askAndSend, sendOrSkip, context, hstop, hskip']

/-- How a command ends: it is left out, or its packet is written or refused. -/
structure Ends (leftOut : Bool) (line next : Wire) (state : ContextState) (packet : Option Packet)
    (child : ChildId) (o : Outcome State Action Bool) : Prop where
  of_leftOut : leftOut = true →
    o.value = true ∧ wire (o.state.context child) = line ∧ packets o.trace = []
  of_written : leftOut = false →
    o.value = next.writes state ∧ wire (o.state.context child) = next.afterWrite state ∧
      packets o.trace =
        if next.writes state ∧ next.writer = .started then packet.toList else []

theorem ends_writePacket (packet : Packet) (state : ContextState) (line : Wire) :
    Ends false line (wire (s.context child)) state (some packet) child
      (writePacket onlyListen child packet state s) where
  of_leftOut h := absurd h Bool.false_ne_true
  of_written _ := by
    have h := writePacket_apply child s packet state
    exact ⟨h.1, h.2.1, h.2.2.1⟩

theorem ends_sendOrSkip (state : ContextState) (reply : Callback) (skips : Context → Bool)
    (packet : Packet) :
    Ends (skips (s.context child)) (wire (s.context child)) (wire (s.context child)) state
      (some packet) child
      (sendOrSkip onlyListen child state reply skips (writePacket onlyListen child packet state)
        s) where
  of_leftOut h := by simp [sendOrSkip, setContextState, h, wire]
  of_written h := by
    have hwrite := writePacket_apply child s packet state
    simp only [sendOrSkip, contextOf_bind, h, Bool.false_eq_true, if_false]
    exact ⟨hwrite.1, hwrite.2.1, hwrite.2.2.1⟩

theorem ends_askAndSend (state : ContextState) (prepare : Context → Context) (reply : Callback)
    (skips : Context → Bool) (packet : Packet)
    (hprepare : ∀ context, wire (prepare context) = wire context)
    (hskips : ∀ context, skips (prepare context) = skips context) :
    Ends ((s.context child).stopOn state || skips (s.context child)) (wire (s.context child))
      (wire (s.context child)) state (some packet) child
      (askAndSend onlyListen child state prepare reply skips
        (writePacket onlyListen child packet state) s) where
  of_leftOut h := (askAndSend_apply child s state prepare reply skips _ hprepare hskips).1 h
  of_written h := by
    rw [(askAndSend_apply child s state prepare reply skips _ hprepare hskips).2 h]
    have hwrite := writePacket_apply child (updateContext child prepare s).state packet state
    rw [updateContext_context, hprepare] at hwrite
    exact ⟨hwrite.1, hwrite.2.1, hwrite.2.2.1⟩

/-- The same after the owner's data of the message are changed. -/
theorem ends_update_askAndSend (f : Context → Context) (state : ContextState)
    (prepare : Context → Context) (reply : Callback) (skips : Context → Bool) (packet : Packet)
    (hf : ∀ context, wire (f context) = wire context)
    (hskipsf : ∀ context, skips (f context) = skips context)
    (hprepare : ∀ context, wire (prepare context) = wire context)
    (hskips : ∀ context, skips (prepare context) = skips context) :
    Ends ((s.context child).stopOn state || skips (s.context child)) (wire (s.context child))
      (wire (s.context child)) state (some packet) child
      ((do
        updateContext child f
        askAndSend onlyListen child state prepare reply skips
          (writePacket onlyListen child packet state)) s) := by
  have h := ends_askAndSend child (updateContext child f s).state state prepare reply skips packet
    hprepare hskips
  have hstop : (f (s.context child)).stopOn = (s.context child).stopOn :=
    congrArg Wire.stopOn (hf (s.context child))
  rw [updateContext_context, hf, hskipsf, hstop] at h
  exact h

/-- Every command but a body ends in one of the two ways. -/
theorem ends_program {event : ContextEvent} {state : ContextState}
    (hcommand : event.command = some state)
    (hbody : state ≠ .body) :
    Ends (event.leftOut (s.context child)) (wire (s.context child))
      (event.prepare (wire (s.context child))) state event.packet child
      (event.program child s) := by
  cases event with
  | negotiate option =>
      obtain rfl := Option.some.inj hcommand
      have h := ends_writePacket child
        (updateContext child (fun context => { context with option := some option }) s).state
        (.negotiate option) .negotiate (wire (s.context child))
      rw [updateContext_context] at h
      exact h
  | connect hostName =>
      obtain rfl := Option.some.inj hcommand
      exact ends_askAndSend child s .connect id .continue (·.isEnableStep StepFlags.noConnect)
        (.connect hostName) (fun _ => rfl) fun _ => rfl
  | helo fqdn =>
      obtain rfl := Option.some.inj hcommand
      exact ends_askAndSend child s .helo id .continue (·.isEnableStep StepFlags.noHelo)
        (.helo fqdn) (fun _ => rfl) fun _ => rfl
  | envelopeFrom sender =>
      obtain rfl := Option.some.inj hcommand
      exact ends_update_askAndSend child s Context.ensureMessageResult .envelopeFrom
        (fun context => { context with processingMessage := true }) .continue
        (·.isEnableStep StepFlags.noEnvelopeFrom) (.envelopeFrom sender)
        (fun _ => rfl) (fun _ => rfl) (fun _ => rfl) fun _ => rfl
  | envelopeRecipient recipient =>
      obtain rfl := Option.some.inj hcommand
      exact ends_update_askAndSend child s _ .envelopeRecipient id .continue
        (·.isEnableStep StepFlags.noEnvelopeRecipient) (.envelopeRecipient recipient)
        (fun _ => rfl) (fun _ => rfl) (fun _ => rfl) fun _ => rfl
  | data =>
      obtain rfl := Option.some.inj hcommand
      have h := ends_update_askAndSend child s Context.ensureMessageResult .data id .continue
        (fun context =>
          context.option.any (·.version < 4) || context.isEnableStep StepFlags.noData) .data
        (fun _ => rfl) (fun _ => rfl) (fun _ => rfl) fun _ => rfl
      rw [← Bool.or_assoc] at h
      exact h
  | unknown command =>
      obtain rfl := Option.some.inj hcommand
      exact ends_sendOrSkip child s .unknown .continue (·.isEnableStep StepFlags.noUnknown)
        (.unknown command)
  | header name value =>
      obtain rfl := Option.some.inj hcommand
      exact ends_update_askAndSend child s Context.ensureMessageResult .header id .continue
        (·.isEnableStep StepFlags.noHeaders) (.header name value)
        (fun _ => rfl) (fun _ => rfl) (fun _ => rfl) fun _ => rfl
  | endOfHeader =>
      obtain rfl := Option.some.inj hcommand
      exact ends_update_askAndSend child s Context.ensureMessageResult .endOfHeader id .continue
        (·.isEnableStep StepFlags.noEndOfHeader) .endOfHeader
        (fun _ => rfl) (fun _ => rfl) (fun _ => rfl) fun _ => rfl
  | body chunk => exact absurd (Option.some.inj hcommand).symm hbody
  | endOfMessage chunk =>
      obtain rfl := Option.some.inj hcommand
      have h := ends_update_askAndSend child s Context.ensureMessageResult .endOfMessage id
        .continue (fun _ => false) (.endOfMessage chunk) (fun _ => rfl) (fun _ => rfl)
          (fun _ => rfl)
        fun _ => rfl
      rw [Bool.or_false] at h
      exact h
  | quit =>
      obtain rfl := Option.some.inj hcommand
      have h := ends_writePacket child
        (updateContext child (fun context => { context with quitted := true }) s).state
        .quit .quit (wire (s.context child))
      rw [updateContext_context] at h
      exact h
  | abort =>
      obtain rfl := Option.some.inj hcommand
      have h := writePacket_apply child s .abort .abort
      refine ⟨fun h => absurd h Bool.false_ne_true, fun _ => ?_⟩
      refine ⟨h.1, ?_, ?_⟩
      · show _ = (wire (s.context child)).afterWrite .abort
        simpa [ContextEvent.program, serverAbort, wire] using h.2.1
      · show _ = if (wire (s.context child)).writes .abort ∧
          (wire (s.context child)).writer = .started then [Packet.abort] else []
        simpa [ContextEvent.program, serverAbort] using h.2.2.1
  | _ => exact absurd hcommand (by simp [ContextEvent.command])

/-- `flush_body` writes what fits of the body, or leaves a counter for nothing behind. -/
theorem flushBody_apply :
    let o := flushBody onlyListen child s
    let line := wire (s.context child)
    o.value = line.writes .body ∧
      wire (o.state.context child) = line.afterFlush ∧
      packets o.trace =
        (if line.writes .body ∧ line.writer = .started then
          [.body (line.body.take milterChunkSize)]
        else []) ∧
      (callbacks o.trace).count .continue = 0 := by
  intro o line
  let opened := (updateContext child (fun context =>
    { context with bodyResponseQueue := context.bodyResponseQueue ++ [0] }) s).state
  let packed := (s.context child).body.take milterChunkSize
  let wrote := writePacket onlyListen child (.body packed) .body opened
  let taken := updateContext child (fun context =>
    { context with
      body := context.body.drop packed.length
      bodyResponseQueue := incrementProcessBodyCount context.bodyResponseQueue }) wrote.state
  have hopened : wire (opened.context child) =
      { line with bodyResponseQueue := line.bodyResponseQueue ++ [0] } := by
    simp [opened, line, wire]
  have hflush : o = if wrote.value then ⟨true, taken.state, wrote.trace⟩
      else ⟨false, wrote.state, wrote.trace⟩ := by
    simp only [o, flushBody, Proc.bind_apply, contextOf_state, contextOf_value,
      updateContext_trace, contextOf_trace, List.nil_append, updateContext_context]
    cases hvalue : wrote.value with
    | true => simp [wrote, opened, packed, taken]
    | false => simp [wrote, opened, packed]
  obtain ⟨hvalue, hwire, hpackets, hsignals⟩ := writePacket_apply child opened (.body packed) .body
  rw [hopened, Wire.afterWrite_queue] at hwire
  rw [hopened, Wire.writes_queue] at hvalue hpackets
  rw [hflush]
  cases hwrites : line.writes .body with
  | true =>
      rw [show wrote.value = true from hvalue.trans hwrites, if_pos rfl]
      refine ⟨rfl, ?_, ?_, hsignals⟩
      · have htaken : wire (taken.state.context child) =
            { wire (wrote.state.context child) with
              body := (wire (wrote.state.context child)).body.drop packed.length
              bodyResponseQueue := incrementProcessBodyCount
                (wire (wrote.state.context child)).bodyResponseQueue } := by
          simp [taken, wire]
        have hqueue : incrementProcessBodyCount (line.bodyResponseQueue ++ [0]) =
            line.bodyResponseQueue ++ [1] := by
          simp [incrementProcessBodyCount]
        have hbody : (line.afterWrite .body).body.drop packed.length =
            line.body.drop milterChunkSize := by
          rw [Wire.afterWrite_body]
          exact drop_length_take milterChunkSize line.body
        rw [htaken, hwire, Wire.afterFlush, if_pos hwrites]
        simp only [hqueue, hbody]
      · rw [hwrites] at hpackets
        exact hpackets
  | false =>
      rw [show wrote.value = false from hvalue.trans hwrites, if_neg Bool.false_ne_true]
      refine ⟨rfl, ?_, ?_, hsignals⟩
      · rw [hwire, Wire.afterFlush, hwrites, if_neg Bool.false_ne_true]
      · rw [hwrites] at hpackets
        exact hpackets

/-- A body call appends its chunk and writes what fits, unless it is left out. -/
theorem serverBody_apply (chunk : Bytes) :
    let o := serverBody onlyListen child chunk s
    let line := wire (s.context child)
    ((ContextEvent.body chunk).leftOut (s.context child) = true →
      o.value = true ∧ wire (o.state.context child) = line ∧ packets o.trace = []) ∧
    ((ContextEvent.body chunk).leftOut (s.context child) = false →
      o.value = line.writes .body ∧
        wire (o.state.context child) = { line with body := line.body ++ chunk }.afterFlush ∧
        packets o.trace =
          if line.writes .body ∧ line.writer = .started then
            [.body ((line.body ++ chunk).take milterChunkSize)]
          else []) := by
  intro o line
  let started := (updateContext child Context.ensureMessageResult s).state
  have hcontext : started.context child = (s.context child).ensureMessageResult := by
    simp [started]
  have hask := askAndSend_apply child started .body id .skip (·.isEnableStep StepFlags.noBody)
    (do
      updateContext child fun context => { context with body := context.body ++ chunk }
      flushBody onlyListen child) (fun _ => rfl) fun _ => rfl
  rw [hcontext] at hask
  refine ⟨hask.1, fun h => ?_⟩
  have ho : o = _ := hask.2 h
  let appended := (updateContext child (fun context =>
    { context with body := context.body ++ chunk }) (updateContext child id started).state).state
  have happended : wire (appended.context child) = { line with body := line.body ++ chunk } := by
    simp [appended, hcontext, line, wire, Context.ensureMessageResult]
  have hflush := flushBody_apply child appended
  rw [happended] at hflush
  rw [ho]
  exact ⟨hflush.1, hflush.2.1, hflush.2.2.1⟩

end Commands

section Flushing

variable (child : ChildId) (s : State)

theorem needReply_wire (context : Context) (state : ContextState) :
    context.needReply state = (wire context).needReply state := rfl

@[simp] theorem disableTimeout_wire :
    wire ((disableTimeout child s).state.context child) =
      { wire (s.context child) with timeout := none } := by
  rw [disableTimeout, updateContext_context]
  rfl

@[simp] theorem registerTimeout_wire (timeout : Timeout) :
    wire ((registerTimeout child timeout s).state.context child) =
      { wire (s.context child) with timeout := some timeout } := by
  rw [registerTimeout, updateContext_context]
  rfl

@[simp] theorem setContextState_wire (state : ContextState) :
    wire ((setContextState child state s).state.context child) = wire (s.context child) := by
  rw [setContextState, updateContext_context]
  rfl

@[simp] theorem disableTimeout_trace : (disableTimeout child s).trace = [] := rfl

@[simp] theorem registerTimeout_trace (timeout : Timeout) :
    (registerTimeout child timeout s).trace = [] := rfl

@[simp] theorem setContextState_trace (state : ContextState) :
    (setContextState child state s).trace = [] := rfl

/-- The surroundings of a context are what they were. -/
theorem surroundings_connection (surroundings : Surroundings) :
    ConnectionKeeps (.keeps fun _ t => t.surroundings = surroundings) onlyListen (fun _ => True)
      fun _ => True where
  context _ _ _ := Proc.Keeps.update fun _ _ h => h
  sent _ _ _ := Proc.Keeps.record fun _ _ h => h
  called _ _ _ _ := Proc.Keeps.record fun _ _ h => h
  entered _ _ _ := ConnectionKeeps.of_enter (Proc.Keeps.record fun _ _ h => h)
  error _ _ := trivial
  connectionError _ _ _ := trivial

theorem processNextState_body (shutdown : Program PUnit) (after : Wire → Wire) :
    let o := processNextState shutdown onlyListen child .body s
    let line := wire (s.context child)
    wire (o.state.context child) = line.afterNextState after .body ∧
      packets o.trace = line.nextPackets .body := by
  intro o line
  let entered := (setContextState child .body (disableTimeout child s).state).state
  have hentered : wire (entered.context child) = { line with timeout := none } := by
    rw [setContextState_wire, disableTimeout_wire]
  have ho : o = processNextStateBody onlyListen child entered := by
    simp [o, processNextState, entered]
  have hbody : (entered.context child).body = line.body := congrArg Wire.body hentered
  have hreply : (entered.context child).needReply .body = line.needReply .body := by
    rw [needReply_wire, hentered]; rfl
  rw [ho, processNextStateBody, contextOf_bind, hbody, hreply]
  by_cases hempty : line.body = []
  · rw [if_pos hempty]
    simp only [Wire.afterNextState, Wire.nextPackets, hempty, if_true, Proc.pure_apply, hentered]
    simp
  · rw [if_neg hempty]
    by_cases hneed : line.needReply .body = true
    · simp only [Wire.afterNextState, Wire.nextPackets, hempty, hneed, if_false, Bool.not_true,
        Bool.false_eq_true, registerTimeout_wire, registerTimeout_trace, hentered]
      simp
    · obtain ⟨-, hwire, hpackets, -⟩ := flushBody_apply child entered
      have hwrites : ({ line with timeout := none } : Wire).writes .body =
          decide (line.writer ≠ .stopped) := by simp [Wire.writes]
      rw [hentered] at hwire hpackets
      rw [hwrites] at hpackets
      refine ⟨?_, ?_⟩
      · simpa [Wire.afterNextState, hempty, hneed] using hwire
      · by_cases hstarted : line.writer = .started
        · simpa [Wire.nextPackets, hempty, hneed, hstarted] using hpackets
        · simpa [Wire.nextPackets, hempty, hneed, hstarted] using hpackets

/-- After a command of no other kind its reply is waited for, if there is one. -/
theorem processNextState_default {shutdown : Program PUnit} {nextState : ContextState} {c : Prop}
    [Decidable c] (hprogram : processNextState shutdown onlyListen child nextState = (do
      disableTimeout child
      Proc.when c <| updateContext child fun context => { context with processingMessage := true }
      setContextState child nextState
      let context ← contextOf child
      if context.needReply nextState then registerTimeout child .reading)) :
    let o := processNextState shutdown onlyListen child nextState s
    let line := wire (s.context child)
    wire (o.state.context child) =
        { line with timeout := if line.needReply nextState then some .reading else none } ∧
      packets o.trace = [] := by
  intro o line
  let begun := (Proc.when c <| updateContext child fun context =>
    { context with processingMessage := true }) (disableTimeout child s).state
  let entered := (setContextState child nextState begun.state).state
  have hbegun : wire (begun.state.context child) = { line with timeout := none } ∧
      begun.trace = [] := by
    by_cases hc : c
    · simp only [begun, Proc.when, hc, if_true, updateContext_context, updateContext_trace,
        and_true]
      exact disableTimeout_wire child s
    · simp only [begun, Proc.when, hc, if_false, Proc.pure_apply, disableTimeout_wire, line,
        and_self]
  have hentered : wire (entered.context child) = { line with timeout := none } := by
    rw [setContextState_wire, hbegun.1]
  have hneed : (entered.context child).needReply nextState = line.needReply nextState := by
    rw [needReply_wire, hentered]
    rfl
  have ho : o = (if (entered.context child).needReply nextState then
      registerTimeout child .reading else pure ⟨⟩) entered := by
    simp only [o, hprogram, Proc.bind_apply, contextOf_value, contextOf_state, contextOf_trace,
      disableTimeout_trace, setContextState_trace, List.nil_append]
    rw [show (Proc.when c _ _).trace = [] from hbegun.2]
    rfl
  rw [ho, hneed]
  by_cases hreply : line.needReply nextState = true
  · simp only [hreply, if_true, registerTimeout_wire, registerTimeout_trace, hentered, packets_nil,
      and_self]
  · simp only [hreply, if_false, Bool.false_eq_true, Proc.pure_apply, hentered, packets_nil,
      and_self]

/-- What `process_next_state` does, when it is known what a shutdown does where it is called. -/
theorem processNextState_apply {shutdown : Program PUnit} {after : Wire → Wire}
    (hshutdown : ∀ t, t.surroundings = s.surroundings →
      wire ((shutdown t).state.context child) = after (wire (t.context child)) ∧
        packets (shutdown t).trace = []) (nextState : ContextState) :
    let o := processNextState shutdown onlyListen child nextState s
    let line := wire (s.context child)
    wire (o.state.context child) = line.afterNextState after nextState ∧
      packets o.trace = line.nextPackets nextState := by
  cases nextState with
  | invalid => simp [processNextState, Wire.afterNextState, Wire.nextPackets]
  | endOfMessage =>
      by_cases hcount : (s.context child).processBodyCount = 0
      · simp [processNextState, disableTimeout, registerTimeout, Wire.afterNextState,
          Wire.nextPackets, wire, hcount]
      · simp [processNextState, disableTimeout, registerTimeout, Wire.afterNextState,
          Wire.nextPackets, wire, hcount]
  | body => exact processNextState_body child s shutdown after
  | quit =>
      obtain ⟨hwire, hpackets⟩ := hshutdown (disableTimeout child s).state rfl
      rw [disableTimeout_wire] at hwire
      refine ⟨?_, ?_⟩
      · simpa [processNextState, Wire.afterNextState] using hwire
      · simpa [processNextState, Wire.nextPackets] using hpackets
  | abort =>
      simp [processNextState, disableTimeout, setContextState, Wire.afterNextState,
        Wire.nextPackets, wire, Context.resetMessageRelatedData, Context.emitMessageProcessedSignal]
  | _ => exact processNextState_default child s rfl

theorem each_processNextState_apply {shutdown : Program PUnit} {after : Wire → Wire}
    (hshutdown : ∀ t, t.surroundings = s.surroundings →
      wire ((shutdown t).state.context child) = after (wire (t.context child)) ∧
        packets (shutdown t).trace = [])
    (hkeeps : Proc.Keeps (fun _ t => t.surroundings = s.surroundings) shutdown)
    (nextStates : List ContextState) (t : State) (ht : t.surroundings = s.surroundings) :
    let o := Proc.each (processNextState shutdown onlyListen child) nextStates t
    let line := wire (t.context child)
    wire (o.state.context child) = nextStates.foldl (Wire.afterNextState after) line ∧
      packets o.trace = line.flushPackets after nextStates := by
  induction nextStates generalizing t with
  | nil => exact ⟨rfl, rfl⟩
  | cons nextState nextStates ih =>
      have hnext := processNextState_apply child t (by rwa [ht]) nextState
      obtain ⟨hwire, hpackets⟩ := hnext
      have hsame : (processNextState shutdown onlyListen child nextState t).state.surroundings =
          s.surroundings :=
        (surroundings_connection s.surroundings).of_processNextState hkeeps trivial [] t ht
      obtain ⟨ihwire, ihpackets⟩ :=
        ih (processNextState shutdown onlyListen child nextState t).state
        hsame
      rw [hwire] at ihwire ihpackets
      refine ⟨ihwire, ?_⟩
      simp only [Proc.each_cons, Proc.bind_apply, packets_append, hpackets, ihpackets,
        Wire.flushPackets]

theorem processNextStates_apply {shutdown : Program PUnit} {after : Wire → Wire}
    (hshutdown : ∀ t, t.surroundings = s.surroundings →
      wire ((shutdown t).state.context child) = after (wire (t.context child)) ∧
        packets (shutdown t).trace = [])
    (hkeeps : Proc.Keeps (fun _ t => t.surroundings = s.surroundings) shutdown) :
    let o := processNextStates shutdown onlyListen child s
    let line := wire (s.context child)
    wire (o.state.context child) = line.afterNextStates after ∧
      packets o.trace = { line with nextStates := [] }.flushPackets after line.nextStates := by
  intro o line
  let emptied := (updateContext child (fun context => { context with nextStates := [] }) s).state
  have hemptied : wire (emptied.context child) = { line with nextStates := [] } := by
    simp [emptied, line, wire]
  have hflush := each_processNextState_apply child s hshutdown hkeeps line.nextStates emptied rfl
  rw [hemptied] at hflush
  exact hflush

theorem writerShutdown_apply :
    let o := writerShutdown onlyListen child s
    let line := wire (s.context child)
    wire (o.state.context child) = line.afterWriterShutdown (s.surroundings.lastWrite child) ∧
      packets o.trace = [] := by
  intro o line
  show wire ((writerShutdown onlyListen child s).state.context child) = _ ∧
    packets (writerShutdown onlyListen child s).trace = []
  rw [writerShutdown, contextOf_bind]
  by_cases hstarted : (s.context child).writer = .started
  · have hstarted' : line.writer = .started := hstarted
    let stopped :=
      (updateContext child (fun context => { context with writer := .stopped }) s).state
    have hstopped : wire (stopped.context child) = { line with writer := .stopped } := by
      simp [stopped, line, wire]
    let last := s.surroundings.lastWrite child
    let failed := Proc.when last.fails (emitErrorOn onlyListen child .other) stopped
    let next := Proc.when last.flushes (processNextStates (pure ⟨⟩) onlyListen child) stopped
    have hfailed : failed.state = stopped ∧ packets failed.trace = [] := by
      by_cases hfails : last.fails
      · simp [failed, Proc.when, hfails]
      · simp [failed, Proc.when, hfails]
    have hnext : wire (next.state.context child) = line.afterWriterShutdown last ∧
        packets next.trace = [] := by
      rw [Wire.afterWriterShutdown, if_pos hstarted']
      by_cases hflushes : last.flushes
      · have hstates :=
          @processNextStates_apply child stopped (pure PUnit.unit) id (fun t _ => ⟨rfl, rfl⟩)
          (Proc.Keeps.pure _)
        simp only [hstopped] at hstates
        rw [Wire.flushPackets_of_stopped _ _ rfl] at hstates
        simpa only [next, Proc.when, hflushes, if_true] using hstates
      · simp only [next, Proc.when, hflushes, if_false, Bool.false_eq_true]
        exact ⟨hstopped, rfl⟩
    have ho : (do
        updateContext child fun context => { context with writer := .stopped }
        let s ← Proc.getState
        let lastWrite := s.surroundings.lastWrite child
        Proc.when lastWrite.fails <| emitErrorOn onlyListen child .other
        Proc.when lastWrite.flushes <| processNextStates (pure PUnit.unit) onlyListen child) s =
        ⟨⟨⟩, next.state, failed.trace ++ next.trace⟩ := by
      simp only [Proc.bind_apply, Proc.getState_apply, updateContext_trace, List.nil_append]
      show (⟨_, (Proc.when last.flushes _ failed.state).state,
        failed.trace ++ (Proc.when last.flushes _ failed.state).trace⟩ :
          Outcome State Action PUnit.{1}) = _
      rw [hfailed.1]
    rw [if_pos hstarted, ho, packets_append, hfailed.2, hnext.2]
    exact ⟨hnext.1, rfl⟩
  · have hstarted' : ¬ line.writer = .started := hstarted
    rw [if_neg hstarted, Wire.afterWriterShutdown, if_neg hstarted']
    exact ⟨rfl, rfl⟩

theorem emitFinished_apply :
    let o := emitFinished onlyListen child s
    let line := wire (s.context child)
    wire (o.state.context child) = line.afterShutdown (s.surroundings.lastWrite child) ∧
      packets o.trace = [] := by
  intro o line
  let finished := (updateContext child (fun context => { context with finished := true }) s).state
  have hfinished : wire (finished.context child) = { line with finished := true } := by
    simp [finished, line, wire]
  obtain ⟨hwire, hpackets⟩ := writerShutdown_apply child finished
  rw [hfinished] at hwire
  have ho : o.state = (writerShutdown onlyListen child finished).state ∧
      packets o.trace = packets (writerShutdown onlyListen child finished).trace := by
    simp [o, emitFinished, finished]
  rw [ho.1, ho.2]
  exact ⟨hwire, hpackets⟩

/-- Once the writer was shut down, there is nothing left to shut down. -/
theorem Wire.afterNextStates_writer {line : Wire} (hstopped : line.writer = .stopped) :
    (line.afterNextStates id).writer = .stopped := by
  have hfold (nextStates : List ContextState) (line : Wire) (hstopped : line.writer = .stopped) :
      (nextStates.foldl (Wire.afterNextState id) line).writer = .stopped := by
    induction nextStates generalizing line with
    | nil => exact hstopped
    | cons nextState nextStates ih =>
        apply ih
        exact line.afterNextState_stopped nextState hstopped
  exact hfold _ _ hstopped

theorem Wire.afterShutdown_writer (last : LastWrite) (line : Wire) :
    (line.afterShutdown last).writer ≠ .started := by
  unfold afterShutdown afterWriterShutdown
  by_cases hstarted : line.writer = .started
  · rw [if_pos hstarted]
    split
    · rw [Wire.afterNextStates_writer rfl]
      simp
    · simp
  · rw [if_neg hstarted]
    exact hstarted

theorem agentShutdown_apply :
    let o := agentShutdown onlyListen child s
    let line := wire (s.context child)
    wire (o.state.context child) = line.afterShutdown (s.surroundings.lastWrite child) ∧
      packets o.trace = [] := by
  intro o line
  by_cases hfinished : (s.context child).finished = true
  · have ho : o = writerShutdown onlyListen child s := by
      simp [o, agentShutdown, Proc.when, hfinished]
    have hline : ({ line with finished := true } : Wire) = line := by
      simp [line, wire, hfinished]
    rw [ho, Wire.afterShutdown, hline]
    exact writerShutdown_apply child s
  · obtain ⟨hwire, hpackets⟩ := emitFinished_apply child s
    let finished := (emitFinished onlyListen child s).state
    have hstarted : ¬ (finished.context child).writer = .started := by
      have hwriter : (finished.context child).writer = (wire (finished.context child)).writer := rfl
      rw [hwriter, hwire]
      exact Wire.afterShutdown_writer _ _
    have hnothing : writerShutdown onlyListen child finished = ⟨⟨⟩, finished, []⟩ := by
      rw [writerShutdown, contextOf_bind, if_neg hstarted]
      rfl
    have ho : o = ⟨⟨⟩, finished, (emitFinished onlyListen child s).trace⟩ := by
      show agentShutdown onlyListen child s = _
      have hfinished : (!(s.context child).finished) = true := by simpa using hfinished
      rw [agentShutdown, contextOf_bind, Proc.when, if_pos hfinished, Proc.bind_apply]
      show (⟨_, (writerShutdown onlyListen child finished).state,
        _ ++ (writerShutdown onlyListen child finished).trace⟩ :
          Outcome State Action PUnit.{1}) = _
      rw [hnothing, List.append_nil]
    rw [ho]
    exact ⟨hwire, hpackets⟩

theorem flushed_apply :
    let o := flushed onlyListen child s
    let line := wire (s.context child)
    let last := s.surroundings.lastWrite child
    wire (o.state.context child) = line.afterFlushed last ∧
      packets o.trace =
        if line.writer = .started then
          { line with nextStates := [] }.flushPackets (Wire.afterShutdown last) line.nextStates
        else [] := by
  intro o line last
  show wire ((flushed onlyListen child s).state.context child) = _ ∧
    packets (flushed onlyListen child s).trace = _
  rw [flushed, contextOf_bind, Wire.afterFlushed]
  by_cases hstarted : line.writer = .started
  · have hstarted' : (s.context child).writer = .started := hstarted
    rw [if_pos hstarted', if_pos hstarted, if_pos hstarted]
    have hall := surroundings_connection s.surroundings
    refine processNextStates_apply child s (fun t ht => ?_) (hall.of_agentShutdown trivial ?_)
    · rw [show last = t.surroundings.lastWrite child from congrArg (·.lastWrite child) ht.symm]
      exact agentShutdown_apply child t
    · exact hall.of_processNextStates (Proc.Keeps.pure _) fun _ => trivial
  · have hstarted' : ¬(s.context child).writer = .started := hstarted
    rw [if_neg hstarted', if_neg hstarted, if_neg hstarted]
    exact ⟨rfl, rfl⟩

/-- The end of a timeout that shuts the connection down. -/
theorem expire_and_shutdown (callback : Callback) :
    let o := (do
      registerTimeout child .expired
      emitOn onlyListen child callback
      agentShutdown onlyListen child) s
    let line := wire (s.context child)
    wire (o.state.context child) =
        ({ line with timeout := some .expired } : Wire).afterShutdown
          (s.surroundings.lastWrite child) ∧
      packets o.trace = [] := by
  obtain ⟨hwire, hpackets⟩ := agentShutdown_apply child (registerTimeout child .expired s).state
  rw [registerTimeout_wire] at hwire
  simp only [Proc.bind_apply, emitOn_state, packets_append, registerTimeout_trace, packets_nil,
    emitOn_packets, hpackets, List.append_nil, and_true]
  exact hwire

theorem expire_connection :
    let o := (do
      registerTimeout child .expired
      emitOnAttempts onlyListen child .connectionTimeout) s
    let line := wire (s.context child)
    wire (o.state.context child) = { line with timeout := some .expired } ∧
      packets o.trace = [] := by
  intro o line
  let expired := (registerTimeout child .expired s).state
  have hkeeps : Proc.Keeps (Quiet expired) (emitOnAttempts onlyListen child .connectionTimeout) :=
    quiet_emitOnAttempts child expired fun _ => by simp
  have hquiet := hkeeps [] expired ⟨rfl, rfl, by simp⟩
  rw [List.nil_append] at hquiet
  refine ⟨?_, hquiet.2.1⟩
  show wire ((emitOnAttempts onlyListen child .connectionTimeout expired).state.context child) = _
  rw [hquiet.1, registerTimeout_wire]

theorem hangUp_apply :
    let o := hangUp onlyListen child s
    let line := wire (s.context child)
    wire (o.state.context child) = line.afterHangUp (s.surroundings.lastWrite child) ∧
      packets o.trace = [] := by
  intro o line
  show wire ((hangUp onlyListen child s).state.context child) = _ ∧
    packets (hangUp onlyListen child s).trace = []
  rw [hangUp, contextOf_bind, Wire.afterHangUp]
  by_cases hup : line.writer ≠ .absent ∧ (!line.finished) = true
  · have hup' : (s.context child).writer ≠ .absent ∧ (!(s.context child).finished) = true := hup
    rw [if_pos hup', if_pos hup]
    exact emitFinished_apply child s
  · have hup' : ¬((s.context child).writer ≠ .absent ∧ (!(s.context child).finished) = true) := hup
    rw [if_neg hup', if_neg hup]
    exact ⟨rfl, rfl⟩

theorem failWriter_apply :
    let o := failWriter onlyListen child s
    wire (o.state.context child) = (wire (s.context child)).afterFailWriter ∧
      packets o.trace = [] := by
  intro o
  show wire ((failWriter onlyListen child s).state.context child) = _ ∧
    packets (failWriter onlyListen child s).trace = []
  rw [failWriter, contextOf_bind]
  by_cases hstarted : (s.context child).writer = .started
  · simp [Wire.afterFailWriter, hstarted, wire]
  · simp [Wire.afterFailWriter, hstarted, wire]

theorem expireTimeout_apply :
    let o := expireTimeout onlyListen child s
    let line := wire (s.context child)
    wire (o.state.context child) = line.afterTimeout (s.surroundings.lastWrite child) ∧
      packets o.trace = [] := by
  intro o line
  show wire ((expireTimeout onlyListen child s).state.context child) = _ ∧
    packets (expireTimeout onlyListen child s).trace = []
  rw [expireTimeout, contextOf_bind]
  cases htimeout : (s.context child).timeout with
  | none => simp [Wire.afterTimeout, show line.timeout = none from htimeout, line]
  | some timeout =>
      have hline : line.timeout = some timeout := htimeout
      cases timeout with
      | expired => simp [Wire.afterTimeout, hline, line]
      | connection =>
          rw [Wire.afterTimeout, hline]
          exact expire_connection child s
      | writing =>
          rw [Wire.afterTimeout, hline]
          exact expire_and_shutdown child s .writingTimeout
      | reading =>
          rw [Wire.afterTimeout, hline]
          exact expire_and_shutdown child s .readingTimeout
      | endOfMessage =>
          rw [Wire.afterTimeout, hline]
          exact expire_and_shutdown child s .endOfMessageTimeout

end Flushing

section Replies

variable (child : ChildId) (s : State)

theorem decrementProcessBodyCount_apply :
    let o := decrementProcessBodyCount onlyListen child s
    let line := wire (s.context child)
    wire (o.state.context child) = line.afterDecrement ∧ packets o.trace = [] ∧
      (callbacks o.trace).count .continue = line.decrementAnswers := by
  intro o line
  show wire ((decrementProcessBodyCount onlyListen child s).state.context child) = _ ∧
    packets (decrementProcessBodyCount onlyListen child s).trace = [] ∧
    (callbacks (decrementProcessBodyCount onlyListen child s).trace).count .continue = _
  rw [decrementProcessBodyCount, contextOf_bind]
  cases hqueue : (s.context child).bodyResponseQueue with
  | nil =>
      have hline : line.bodyResponseQueue = [] := hqueue
      simp [Wire.afterDecrement, Wire.decrementAnswers, hline, line]
  | cons count rest =>
      by_cases hzero : (count + 0xffffffff) % 0x100000000 = 0
      · simp [Wire.afterDecrement, Wire.decrementAnswers, hqueue, hzero, wire, line]
      · simp [Wire.afterDecrement, Wire.decrementAnswers, hqueue, hzero, wire, line]

/-- What a reply makes the context write: the rest of a body. -/
def Wire.replyPackets (line : Wire) (state : ContextState) (reply : Reply) : List Packet :=
  if reply = .continue ∧ state = .body ∧ !line.quitted ∧ line.body ≠ [] ∧
      line.writer = .started then
    [.body (line.body.take milterChunkSize)]
  else []

theorem decoderContinue_body (hstate : (s.context child).state = .body) :
    let o := decoderContinue onlyListen child s
    let line := wire (s.context child)
    wire (o.state.context child) = line.afterReply .body .continue ∧
      packets o.trace = line.replyPackets .body .continue ∧
      (callbacks o.trace).count .continue =
        if line.quitted then 0 else line.decrementAnswers := by
  intro o line
  show wire ((decoderContinue onlyListen child s).state.context child) = _ ∧
    packets (decoderContinue onlyListen child s).trace = _ ∧
    (callbacks (decoderContinue onlyListen child s).trace).count .continue = _
  rw [decoderContinue, contextOf_bind, hstate]
  let idle := (disableTimeout child s).state
  have hidle : wire (idle.context child) = { line with timeout := none } :=
    disableTimeout_wire child s
  cases hquitted : (s.context child).quitted with
  | true =>
      have hline : line.quitted = true := hquitted
      simp [Wire.afterReply, Wire.replyPackets, hline, line]
  | false =>
      have hline : line.quitted = false := hquitted
      obtain ⟨hwire, hpackets, hsignals⟩ := decrementProcessBodyCount_apply child idle
      rw [hidle] at hwire hsignals
      let answered := (decrementProcessBodyCount onlyListen child idle).state
      have hbody : (answered.context child).body = line.body := by
        have hfield := congrArg Wire.body hwire
        rwa [Wire.afterDecrement_body] at hfield
      have ho : ∀ m : Program PUnit, (do
          disableTimeout child
          decrementProcessBodyCount onlyListen child
          m) s = ⟨(m answered).value, (m answered).state,
            (decrementProcessBodyCount onlyListen child idle).trace ++ (m answered).trace⟩ :=
        fun _ => rfl
      simp only [Bool.not_false, if_true]
      rw [ho, contextOf_bind, hbody]
      by_cases hempty : line.body = []
      · have hafter : line.afterReply .body .continue =
            ({ line with timeout := none } : Wire).afterDecrement := by
          simp [Wire.afterReply, hline, hempty]
        rw [if_neg (fun h => h hempty), hafter]
        refine ⟨hwire, ?_, ?_⟩
        · rw [Proc.pure_apply, List.append_nil, hpackets]
          simp [Wire.replyPackets, hempty]
        · rw [Proc.pure_apply, List.append_nil, hsignals, if_neg (by simp [hline])]
          rfl
      · obtain ⟨-, hflush, hflushed, hnone⟩ := flushBody_apply child answered
        have hafter : line.afterReply .body .continue =
            ({ line with timeout := none } : Wire).afterDecrement.afterFlush := by
          simp [Wire.afterReply, hline, hempty]
        rw [hwire] at hflush hflushed
        rw [if_pos hempty, hafter]
        refine ⟨hflush, ?_, ?_⟩
        · show packets ((decrementProcessBodyCount onlyListen child idle).trace ++
            ((flushBody onlyListen child answered).trace ++ [])) = _
          rw [List.append_nil, packets_append, hpackets, List.nil_append, hflushed,
            Wire.afterDecrement_writes, Wire.afterDecrement_writer, Wire.afterDecrement_body]
          by_cases hstarted : line.writer = .started
          · simp [Wire.replyPackets, Wire.writes, hline, hempty, hstarted]
          · simp [Wire.replyPackets, hline, hempty, hstarted]
        · show (callbacks ((decrementProcessBodyCount onlyListen child idle).trace ++
            ((flushBody onlyListen child answered).trace ++ []))).count .continue = _
          rw [List.append_nil, callbacks_append, List.count_append, hsignals, hnone,
            if_neg (by simp [hline])]
          rfl

/-- The handlers of the final replies that close the body phase. -/
theorem decoderFinalStatus_apply (callback : Callback) (concludes : ContextState → Bool) :
    let o := decoderFinalStatus onlyListen child callback concludes s
    let line := wire (s.context child)
    wire (o.state.context child) = line.afterReply (s.context child).state .accept ∧
      packets o.trace = [] := by
  intro o line
  by_cases hquitted : (s.context child).quitted = true
  · simp [o, decoderFinalStatus, hquitted, Wire.afterReply, line, wire, disableTimeout]
  · by_cases hconcludes : concludes (s.context child).state = true
    · by_cases hstate : (s.context child).state = .body
      · simp [o, decoderFinalStatus, concludeReply, hquitted, hstate, hstate ▸ hconcludes,
          Wire.afterReply, line, wire, disableTimeout, Context.clearProcessBodyCount,
          Context.emitMessageProcessedSignal]
      · simp [o, decoderFinalStatus, concludeReply, hquitted, hstate, hconcludes,
          Wire.afterReply, line, wire, disableTimeout, Context.emitMessageProcessedSignal]
    · by_cases hstate : (s.context child).state = .body
      · simp [o, decoderFinalStatus, concludeReply, hquitted, hstate, hstate ▸ hconcludes,
          Wire.afterReply, line, wire, disableTimeout, Context.clearProcessBodyCount]
      · simp [o, decoderFinalStatus, concludeReply, hquitted, hstate, hconcludes,
          Wire.afterReply, line, wire, disableTimeout]

theorem decoderContinue_other (hstate : (s.context child).state ≠ .body) :
    let o := decoderContinue onlyListen child s
    wire (o.state.context child) = { wire (s.context child) with timeout := none } ∧
      packets o.trace = [] := by
  intro o
  by_cases hquitted : (s.context child).quitted = true
  · cases hcontext : (s.context child).state with
    | body => exact absurd hcontext hstate
    | _ => simp [o, decoderContinue, hcontext, hquitted, invalidState, wire, disableTimeout]
  · cases hcontext : (s.context child).state with
    | body => exact absurd hcontext hstate
    | _ =>
        simp [o, decoderContinue, hcontext, hquitted, invalidState, wire, disableTimeout,
          Context.emitMessageProcessedSignal]

theorem decoderReplyCode_apply (code : Nat) (extendedCode message : Option Bytes) :
    let o := decoderReplyCode onlyListen child code extendedCode message s
    let line := wire (s.context child)
    wire (o.state.context child) = line.afterReply (s.context child).state .accept ∧
      packets o.trace = [] := by
  intro o line
  by_cases hquitted : (s.context child).quitted = true
  · cases hcontext : (s.context child).state with
    | _ =>
        simp [o, decoderReplyCode, hcontext, hquitted, invalidState, wire, disableTimeout, line,
          Wire.afterReply, Proc.when, Context.removeCurrentRecipient]
  · cases hcontext : (s.context child).state with
    | body =>
        cases hsent : (s.context child).sentEndOfMessage with
        | false =>
            simp [o, decoderReplyCode, hcontext, hquitted, hsent, wire, disableTimeout, line,
              Wire.afterReply, Proc.when, concludeReply, Context.clearProcessBodyCount,
              Context.emitMessageProcessedSignal, rejectionConcludes, ContextState.inMessage,
              ContextState.toNat]
        | true =>
            simp [o, decoderReplyCode, hcontext, hquitted, hsent, wire, disableTimeout, line,
              Wire.afterReply, Proc.when, concludeReply, Context.clearProcessBodyCount,
              Context.emitMessageProcessedSignal, rejectionConcludes, ContextState.inMessage,
              ContextState.toNat]
    | _ =>
        simp [o, decoderReplyCode, hcontext, hquitted, invalidState, wire, disableTimeout, line,
          Wire.afterReply, Proc.when, Context.removeCurrentRecipient, concludeReply,
          Context.emitMessageProcessedSignal, rejectionConcludes, ContextState.inMessage,
          ContextState.toNat]

/-- The handlers of a refusal first take the recipient out. -/
theorem refused_then_final (failed : Bool) (callback : Callback)
    (concludes : ContextState → Bool) :
    let o := (do
      let context ← contextOf child
      Proc.when (context.state = ContextState.envelopeRecipient) <|
        updateContext child (·.removeCurrentRecipient failed)
      decoderFinalStatus onlyListen child callback concludes) s
    let line := wire (s.context child)
    wire (o.state.context child) = line.afterReply (s.context child).state .accept ∧
      packets o.trace = [] := by
  intro o line
  by_cases hstate : (s.context child).state = .envelopeRecipient
  · let removed := (updateContext child (·.removeCurrentRecipient failed) s).state
    have ho : o = decoderFinalStatus onlyListen child callback concludes removed := by
      simp [o, hstate, Proc.when, removed]
    have hremoved : wire (removed.context child) = line := by
      simp [removed, wire, line, Context.removeCurrentRecipient]
    have hkept : (removed.context child).state = (s.context child).state := by
      simp [removed, Context.removeCurrentRecipient]
    have hfinal := decoderFinalStatus_apply child removed callback concludes
    rw [hremoved, hkept] at hfinal
    rw [ho]
    exact hfinal
  · have ho : o = decoderFinalStatus onlyListen child callback concludes s := by
      simp [o, hstate, Proc.when]
    rw [ho]
    exact decoderFinalStatus_apply child s callback concludes

theorem decoderNegotiateReply_apply (option : MilterOption) :
    let o := decoderNegotiateReply onlyListen child option s
    let line := wire (s.context child)
    wire (o.state.context child) =
        line.afterReply (s.context child).state (.negotiateReply option) ∧
      packets o.trace = [] := by
  intro o line
  cases hcombine : ((s.context child).option.getD option).combine option with
  | none =>
      simp [o, decoderNegotiateReply, hcombine, Wire.afterReply, line, wire, disableTimeout]
  | some combined =>
      by_cases hstate : (s.context child).state = .negotiate
      · by_cases hquitted : (s.context child).quitted = true
        · simp [o, decoderNegotiateReply, hcombine, hstate, hquitted, Wire.afterReply, line, wire,
            disableTimeout]
        · simp [o, decoderNegotiateReply, hcombine, hstate, hquitted, Wire.afterReply, line, wire,
            disableTimeout]
      · simp [o, decoderNegotiateReply, hcombine, hstate, Wire.afterReply, line, wire,
          disableTimeout, invalidState]

theorem decoderProgress_apply :
    let o := decoderProgress onlyListen child s
    let line := wire (s.context child)
    wire (o.state.context child) = line.afterReply (s.context child).state .progress ∧
      packets o.trace = [] := by
  intro o line
  by_cases hstate : (s.context child).state = .endOfMessage
  · by_cases hquitted : (s.context child).quitted = true
    · simp [o, decoderProgress, hstate, hquitted, Wire.afterReply, line, wire]
    · simp [o, decoderProgress, hstate, hquitted, Wire.afterReply, line, wire, registerTimeout]
  · simp [o, decoderProgress, invalidState, hstate, Wire.afterReply, line]

theorem decoderGone_apply (callback : Callback) :
    let o := decoderGone onlyListen child callback s
    let line := wire (s.context child)
    wire (o.state.context child) = line.afterReply (s.context child).state .shutdown ∧
      packets o.trace = [] := by
  intro o line
  by_cases hquitted : (s.context child).quitted = true
  · simp [o, decoderGone, hquitted, Wire.afterReply, line, wire, disableTimeout]
  · simp [o, decoderGone, hquitted, Wire.afterReply, line, wire, disableTimeout]

theorem decoderSkip_apply :
    let o := decoderSkip onlyListen child s
    let line := wire (s.context child)
    wire (o.state.context child) = line.afterReply (s.context child).state .skip ∧
      packets o.trace = [] := by
  intro o line
  by_cases hstate : (s.context child).state = .body
  · by_cases hquitted : (s.context child).quitted = true
    · simp [o, decoderSkip, hstate, hquitted, Wire.afterReply, line, wire, disableTimeout]
    · simp [o, decoderSkip, hstate, hquitted, Wire.afterReply, line, wire, disableTimeout,
        Context.clearProcessBodyCount]
  · simp [o, decoderSkip, invalidState, hstate, Wire.afterReply, line, wire, disableTimeout]

theorem decoderAtEndOfMessage_apply (callback : Callback) (conclude : Context → Context)
    (hconclude : ∀ context, wire (conclude context) = wire context) :
    let o := decoderAtEndOfMessage onlyListen child callback conclude s
    wire (o.state.context child) = wire (s.context child) ∧ packets o.trace = [] := by
  intro o
  by_cases hstate : (s.context child).state = .endOfMessage
  · by_cases hquitted : (s.context child).quitted = true
    · simp [o, decoderAtEndOfMessage, hstate, hquitted]
    · simp [o, decoderAtEndOfMessage, hstate, hquitted, hconclude]
  · simp [o, decoderAtEndOfMessage, invalidState, hstate]

theorem decode_apply (reply : Reply) :
    let o := decode onlyListen child reply s
    let line := wire (s.context child)
    wire (o.state.context child) = line.afterReply (s.context child).state reply ∧
      packets o.trace = line.replyPackets (s.context child).state reply := by
  intro o line
  cases reply with
  | negotiateReply option => exact decoderNegotiateReply_apply child s option
  | «continue» =>
      by_cases hbody : (s.context child).state = .body
      · rw [hbody]
        obtain ⟨hwire, hpackets, -⟩ := decoderContinue_body child s hbody
        exact ⟨hwire, hpackets⟩
      · obtain ⟨hwire, hpackets⟩ := decoderContinue_other child s hbody
        refine ⟨?_, ?_⟩
        · simpa [Wire.afterReply, hbody, o, decode, line] using hwire
        · simpa [Wire.replyPackets, hbody, o, decode] using hpackets
  | replyCode code extendedCode message => exact decoderReplyCode_apply child s code _ _
  | temporaryFailure =>
      exact refused_then_final child s true .temporaryFailure rejectionConcludes
  | reject => exact refused_then_final child s false .reject rejectionConcludes
  | accept => exact decoderFinalStatus_apply child s .accept ContextState.inMessage
  | discard => exact decoderFinalStatus_apply child s .discard ContextState.inMessage
  | progress => exact decoderProgress_apply child s
  | connectionFailure => exact decoderGone_apply child s .connectionFailure
  | shutdown => exact decoderGone_apply child s .shutdown
  | skip => exact decoderSkip_apply child s
  | _ => exact decoderAtEndOfMessage_apply child s _ _ fun _ => rfl

theorem receive_apply (reply : Reply) :
    let o := receive onlyListen child reply s
    let line := wire (s.context child)
    wire (o.state.context child) =
        (if line.writer ≠ .absent ∧ !line.finished then
          line.afterReply (s.context child).state reply
        else line) ∧
      packets o.trace =
        (if line.writer ≠ .absent ∧ !line.finished then
          line.replyPackets (s.context child).state reply
        else []) := by
  intro o line
  by_cases hheard : line.writer ≠ .absent ∧ (!line.finished) = true
  · have hheard' : (s.context child).writer ≠ .absent ∧ (!(s.context child).finished) = true :=
      hheard
    have ho : o = decode onlyListen child reply s := by
      show receive onlyListen child reply s = _
      rw [receive, contextOf_bind, if_pos hheard']
    rw [ho, if_pos hheard, if_pos hheard]
    exact decode_apply child s reply
  · have hheard' : ¬((s.context child).writer ≠ .absent ∧ (!(s.context child).finished) = true) :=
      hheard
    have ho : o = ⟨⟨⟩, s, []⟩ := by
      show receive onlyListen child reply s = _
      rw [receive, contextOf_bind, if_neg hheard']
      rfl
    rw [ho, if_neg hheard, if_neg hheard]
    exact ⟨rfl, rfl⟩

end Replies

end MilterManager.Children
