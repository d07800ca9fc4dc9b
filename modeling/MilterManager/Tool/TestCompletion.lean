import MilterManager.Tool.TestGaps

/-!
# Whether the test server comes to the end

A milter that lets everything pass replies to each command that needs a reply with `continue`. The
test server gives it the whole mail, unless a command without a reply stands before one that is
left out: then `cb_state_transited`, `tool/milter-test-server.c:768`, waits for a reply that
nobody owes.
-/

namespace MilterManager.Tool

open MilterManager.Base MilterManager.Core MilterManager.Server

/-- What happens next on the connection to a milter that lets everything pass: nothing when the
connection is finished, or when neither something is to be flushed nor a reply is owed. -/
def nextEvent (o : MilterOption) (context : Context) : Option Event :=
  if context.finished then none
  else if context.nextStates ≠ [] then some .flushed
  else if context.state = .negotiate then some (.replied (.negotiateReply o))
  else if context.needReply context.state then some (.replied .continue)
  else none

/-- The run of the tool with such a milter. -/
def drive (options : Options) (call : Handlers) (o : MilterOption) : Nat → Program PUnit
  | 0 => pure ⟨⟩
  | fuel + 1 => do
      let context ← contextOf
      match nextEvent o context with
      | none => pure ⟨⟩
      | some event => do
          step options call event
          drive options call o fuel

/-- The packets of a session in which the milter is given the whole mail. -/
def wholeSession (options : Options) (o : MilterOption) : List Packet :=
  .negotiate (offeredOption options) ::
    ((later .negotiate).flatMap (packets options (answered options o)) ++ [.quit])

/-! ## One command -/

section Commands

variable {options : Options} (call : Handlers) {o : MilterOption} {s : TestServer}
variable {state next : ContextState} {packet : Packet} {rest : List Packet} {lines : List Line}

/-- The negotiation is answered, and nothing has gone wrong. -/
structure Calm (options : Options) (o : MilterOption) (s : TestServer) : Prop where
  writer : s.context.writer = .started
  finished : s.context.finished = false
  quitted : s.context.quitted = false
  sentEndOfMessage : s.context.sentEndOfMessage = false
  processBodyCount : s.context.processBodyCount = 0
  body : s.context.body = []
  option : s.data.option = some o
  contextOption : ∃ action,
    s.context.option = some ⟨o.version, action, StepFlags.offered &&& o.step⟩
  chunks : s.data.bodyChunks = options.bodyChunks

/-- The tool may send the next command. -/
structure Free (options : Options) (o : MilterOption) (s : TestServer) : Prop where
  calm : Calm options o s
  nextStates : s.context.nextStates = []
  timeout : s.context.timeout = none
  queue : replies o .body → s.context.bodyResponseQueue = []

/-- The command is sent and not flushed. -/
structure Sent (options : Options) (o : MilterOption) (state : ContextState) (s : TestServer) :
    Prop where
  calm : Calm options o s
  mem : state ∈ sessionOrder
  nextStates : s.context.nextStates = [state]
  queue : replies o .body → s.context.bodyResponseQueue = if state = .body then [1] else []

/-- The milter owes a reply to the command. -/
structure Waiting (options : Options) (o : MilterOption) (state : ContextState) (s : TestServer) :
    Prop where
  calm : Calm options o s
  mem : state ∈ sessionOrder
  reached : s.context.state = state
  nextStates : s.context.nextStates = []
  queue : replies o .body → s.context.bodyResponseQueue = if state = .body then [1] else []

theorem offered_noReplyFlag (state : ContextState) :
    StepFlags.offered &&& Context.noReplyFlag state = Context.noReplyFlag state := by
  cases state <;> decide

/-- The context and the tool agree on the replies. -/
theorem Calm.needReply (h : Calm options o s) (state : ContextState) :
    s.context.needReply state = replies o state := by
  rcases h.contextOption with ⟨action, hoption⟩
  rw [Context.needReply, hoption, replies]
  show (StepFlags.offered &&& o.step &&& Context.noReplyFlag state == 0#32) = _
  rw [BitVec.and_comm StepFlags.offered, BitVec.and_assoc, offered_noReplyFlag]
  rfl

theorem Calm.hasStep (h : Calm options o s) (state : ContextState) :
    s.data.hasStep (Context.noReplyFlag state) = !replies o state := by
  rw [ProcessData.hasStep, ProcessData.step, h.option, replies]
  rfl

theorem Calm.skips_eq_false (h : Calm options o s) (hwants : wants o state) :
    skips state s.context = false := by
  rcases h.contextOption with ⟨action, hoption⟩
  have hflags : ∀ flag, o.step &&& flag = 0#32 → StepFlags.offered &&& o.step &&& flag = 0#32 := by
    intro flag hflag
    rw [BitVec.and_assoc, hflag, BitVec.and_zero]
  have hversion : (⟨o.version, action, StepFlags.offered &&& o.step⟩ : MilterOption).version =
    o.version := rfl
  exact skips_eq_false_of_wants hoption hversion hflags hwants

theorem Free.prepare (h : Free options o s) (state : ContextState) :
    Free options o { s with context := prepare state s.context } := by
  cases state
  case envelopeFrom =>
    exact ⟨{ h.calm with sentEndOfMessage := rfl, processBodyCount := rfl }, h.nextStates,
      h.timeout, fun _ => rfl⟩
  all_goals exact h

/-- A packet that fits is written as it is given. -/
theorem give_free (h : Free options o s) (hfits : Fits options)
    (hnext : Next options s.data state packet rest) (hwants : wants o state) :
    ∃ queue, give call packet s = ⟨true, written packet queue s, [packet]⟩ ∧
      (replies o .body → queue = if state = .body then [1] else []) := by
  have hskips := h.calm.skips_eq_false hwants
  have hprocessing : s.context.isProcessing = false := by rw [Context.isProcessing, h.timeout]; rfl
  cases hnext
  case body chunk chunks hdrop =>
    have hchunk : chunk.length ≤ Children.milterChunkSize := by
      have hmem : chunk ∈ s.data.bodyChunks.drop s.data.currentBodyChunk :=
        hdrop ▸ List.mem_cons_self
      exact hfits chunk (h.calm.chunks ▸ List.mem_of_mem_drop hmem)
    refine ⟨Children.incrementProcessBodyCount (s.context.bodyResponseQueue ++ [0]), ?_, ?_⟩
    · simp only [skips] at hskips
      rw [Context.isProcessing] at hprocessing
      simp [give, contextBody, sendOrSkip, hskips, flushBody, writePacket, ContextState.interrupts,
        Context.isProcessing, hprocessing, registerTimeout, writePacketNow, h.calm.writer, written,
        bufferOf, packetState, h.calm.body, hchunk]
    · intro hreplies
      rw [h.queue hreplies]
      rfl
  all_goals
    refine ⟨s.context.bodyResponseQueue, ?_, fun hreplies => h.queue hreplies⟩
    simp [give, contextGive, sendOrSkip, packetState, hskips, writePacket, ContextState.interrupts,
      hprocessing, registerTimeout, writePacketNow, h.calm.writer, written, bufferOf]

theorem effectiveOption_of_calm (h : Calm options o s) : effectiveOption s.data = o := by
  rw [effectiveOption, h.option, Option.getD_some]

/-- A command that there is something to send for is sent. -/
theorem send_free (h : Free options o s) (hfits : Fits options)
    (hpackets : packets options s.data state = packet :: rest) :
    ∃ t, send options call state s = ⟨true, t, [packet]⟩ ∧ Sent options o state t ∧
      t.data = advance packet s.data := by
  have hnext := next_of_packets hpackets
  have hwants : wants o state := by
    have := wants_of_packets_ne_nil (hpackets ▸ List.cons_ne_nil packet rest)
    rwa [effectiveOption_of_calm h.calm] at this
  have hprepared := h.prepare state
  rcases give_free call hprepared hfits hnext hwants with ⟨queue, hgive, hqueue⟩
  refine ⟨{ written packet queue { s with context := prepare state s.context } with
    data := advance packet s.data }, ?_, ?_, rfl⟩
  · rw [send_apply, hpackets]
    simp [hgive, written]
  · have hempty : bufferOf (prepare state s.context) packet = [] :=
      Next.bufferOf_eq_nil hnext h.calm.chunks hfits hprepared.calm.body
    refine ⟨{ hprepared.calm with
      body := hempty
      option := (advance_option packet s.data).trans h.calm.option
      chunks := (Next.advance_bodyChunks packet s.data).trans h.calm.chunks },
      mem_sessionOrder hnext.rank_pos hnext.rank_le, ?_, hqueue⟩
    show (prepare state s.context).nextStates ++ [packetState packet] = [state]
    rw [hprepared.nextStates, hnext.packetState]
    rfl

/-- A command that there is nothing to send for is passed by. -/
theorem send_free_of_nil (h : Free options o s) (hpackets : packets options s.data state = []) :
    send options call state s = ⟨false, { s with context := prepare state s.context }, []⟩ ∧
      Free options o { s with context := prepare state s.context } := by
  refine ⟨?_, h.prepare state⟩
  rw [send_apply, hpackets]

theorem fallThrough_none (h : Free options o s)
    (hlines : firstLine o (available options s.data) lines = none) :
    ∃ t, fallThrough options call lines s = ⟨⟨⟩, t, []⟩ ∧ Free options o t ∧ t.data = s.data ∧
      t.context.state = s.context.state := by
  induction lines generalizing s with
  | nil => exact ⟨s, rfl, h, rfl, rfl⟩
  | cons line lines ih =>
      cases line with
      | send state =>
          by_cases havailable : available options s.data state
          · rw [firstLine, if_pos havailable] at hlines
            cases hlines
          · rw [firstLine, if_neg havailable] at hlines
            have hpackets : packets options s.data state = [] := by
              by_contra hne
              exact havailable (available_iff.mpr hne)
            rcases send_free_of_nil call h hpackets with ⟨hsend, hfree⟩
            rcases ih hfree hlines with ⟨t, hfall, ht, hdata, hstate⟩
            refine ⟨t, ?_, ht, hdata, ?_⟩
            · simp [fallThrough, hsend, hfall]
            · rw [hstate]
              cases state <;> rfl
      | unlessReplied state =>
          by_cases hreplies : replies o state
          · refine ⟨s, ?_, h, rfl, rfl⟩
            simp [fallThrough, h.calm.hasStep, hreplies]
          · rw [firstLine, if_neg hreplies] at hlines
            rcases ih h hlines with ⟨t, hfall, ht⟩
            refine ⟨t, ?_, ht⟩
            simp [fallThrough, h.calm.hasStep, hreplies, hfall]

theorem fallThrough_some (h : Free options o s) (hfits : Fits options)
    (hlines : firstLine o (available options s.data) lines = some next) :
    ∃ t packet rest, packets options s.data next = packet :: rest ∧
      fallThrough options call lines s = ⟨⟨⟩, t, [packet]⟩ ∧ Sent options o next t ∧
      t.data = advance packet s.data := by
  induction lines generalizing s with
  | nil => cases hlines
  | cons line lines ih =>
      cases line with
      | send state =>
          by_cases havailable : available options s.data state
          · rw [firstLine, if_pos havailable] at hlines
            cases hlines
            rcases List.exists_cons_of_ne_nil (available_iff.mp havailable) with
              ⟨packet, rest, hpackets⟩
            rcases send_free call h hfits hpackets with ⟨t, hsend, hsent, hdata⟩
            refine ⟨t, packet, rest, hpackets, ?_, hsent, hdata⟩
            simp [fallThrough, hsend]
          · rw [firstLine, if_neg havailable] at hlines
            have hpackets : packets options s.data state = [] := by
              by_contra hne
              exact havailable (available_iff.mpr hne)
            rcases send_free_of_nil call h hpackets with ⟨hsend, hfree⟩
            rcases ih hfree hlines with ⟨t, packet, rest, hpackets', hfall, ht⟩
            refine ⟨t, packet, rest, hpackets', ?_, ht⟩
            simp [fallThrough, hsend, hfall]
      | unlessReplied state =>
          by_cases hreplies : replies o state
          · rw [firstLine, if_pos hreplies] at hlines
            cases hlines
          · rw [firstLine, if_neg hreplies] at hlines
            rcases ih h hlines with ⟨t, packet, rest, hpackets, hfall, ht⟩
            refine ⟨t, packet, rest, hpackets, ?_, ht⟩
            simp [fallThrough, h.calm.hasStep, hreplies, hfall]

/-- The tool while what it has written is flushed. -/
def emptied (s : TestServer) : TestServer :=
  { s with context := { s.context with nextStates := [] } }

/-- The tool when a flush has led to a state. -/
def settled (timeout : Option Timeout) (state : ContextState) (s : TestServer) : TestServer :=
  { s with context := { s.context with nextStates := [], timeout := timeout, state := state } }

theorem step_flushed (h : s.context.finished = false) (hnext : s.context.nextStates = [state]) :
    step options call .flushed s =
      (do
        processNextState state
        cbStateTransited options call state : Program PUnit) (emptied s) := by
  simp [step, h, flushed, hnext, emptied]

/-- The flush of a command, up to the handler of `state-transited`. -/
theorem processNextState_sent (h : Sent options o state s) :
    ∃ timeout, processNextState state (emptied s) = ⟨⟨⟩, settled timeout state s, []⟩ ∧
      (replies o state = false → timeout = none) := by
  obtain ⟨reply, hreply⟩ : ∃ reply, replies o state = reply := ⟨_, rfl⟩
  have hneed : ∀ context : Context, context.option = s.context.option →
      context.needReply state = reply := by
    intro context hoption
    rw [← hreply, ← h.calm.needReply, Context.needReply, Context.needReply, hoption]
  have hbody := h.calm.body
  have hcount := h.calm.processBodyCount
  have hmem := h.mem
  cases state
  case endOfMessage =>
    refine ⟨some .endOfMessage, ?_, fun hsilent => ?_⟩
    · simp [processNextState, disableTimeout, hcount, registerTimeout, emptied, settled]
    · simp [replies, Context.noReplyFlag] at hsilent
  case body =>
    refine ⟨none, ?_, fun _ => rfl⟩
    simp [processNextState, disableTimeout, processNextStateBody, hbody, emptied, settled]
  case invalid | start | defineMacro | negotiate | quit | abort => exact absurd hmem (by decide)
  all_goals
    refine ⟨if reply then some .reading else none, ?_, fun hsilent => ?_⟩
    · cases reply <;>
        simp [processNextState, disableTimeout, hneed, registerTimeout, emptied, settled]
    · rw [← hreply, hsilent]
      rfl

/-- The first line of a case asks whether a reply is to come. -/
theorem transitedLines_label (hstate : state ∈ sessionOrder) (hlast : state ≠ .endOfMessage) :
    ∃ lines, transitedLines state = .unlessReplied state :: lines := by
  revert hlast
  fin_cases hstate <;> intro hlast
  all_goals first
    | exact ⟨_, rfl⟩
    | exact absurd rfl hlast

/-- A command with a reply is flushed. -/
theorem step_flushed_replied (h : Sent options o state s) (hreplies : replies o state) :
    ∃ t, step options call .flushed s = ⟨⟨⟩, t, []⟩ ∧ Waiting options o state t ∧
      t.data = s.data := by
  rcases processNextState_sent h with ⟨timeout, hprocess, -⟩
  have hcalm : Calm options o (settled timeout state s) := { h.calm with }
  refine ⟨settled timeout state s, ?_, ⟨hcalm, h.mem, rfl, rfl, h.queue⟩, rfl⟩
  have hnothing : cbStateTransited options call state (settled timeout state s) =
      ⟨⟨⟩, settled timeout state s, []⟩ := by
    by_cases hlast : state = .endOfMessage
    · rw [hlast]
      rfl
    · rcases transitedLines_label h.mem hlast with ⟨lines, hlines⟩
      simp [cbStateTransited, hlines, fallThrough, hcalm.hasStep, hreplies]
  rw [step_flushed call h.calm.finished h.nextStates]
  simp [hprocess, hnothing]

/-- A command without a reply is flushed: the lines of its case count. -/
theorem step_flushed_silent (h : Sent options o state s) (hreplies : replies o state = false) :
    ∃ t, step options call .flushed s = fallThrough options call (transitedLines state) t ∧
      Free options o t ∧ t.data = s.data ∧ t.context.state = state := by
  rcases processNextState_sent h with ⟨timeout, hprocess, htimeout⟩
  refine ⟨settled timeout state s, ?_, ⟨{ h.calm with }, rfl, htimeout hreplies, fun hbody => ?_⟩,
    rfl, rfl⟩
  · rw [step_flushed call h.calm.finished h.nextStates]
    simp [hprocess, cbStateTransited]
  · have hqueue := h.queue hbody
    rwa [if_neg] at hqueue
    rintro rfl
    rw [hreplies] at hbody
    cases hbody

/-- The milter lets the last command pass: the session is over. -/
theorem step_continue_last (h : Waiting options o .endOfMessage s) :
    ∃ t, step options call (.replied .continue) s = ⟨⟨⟩, t, [.quit]⟩ ∧
      t.context.finished = true := by
  have hstep : (step options call (.replied .continue) s).trace = [.quit] ∧
      (step options call (.replied .continue) s).state.context.finished = true := by
    simp [step, h.calm.finished, decode, decoderContinue, h.reached, disableTimeout,
      h.calm.quitted, handle, cbContinue, sendQuit, contextQuit, writePacket,
      ContextState.interrupts, writePacketNow, h.calm.writer, agentShutdown]
  refine ⟨(step options call (.replied .continue) s).state, ?_, hstep.2⟩
  rw [← hstep.1]

/-- The tool when a reply has come. -/
def freed (queue : List Nat) (s : TestServer) : TestServer :=
  { s with context := { s.context with timeout := none, bodyResponseQueue := queue } }

theorem disableTimeout_freed (s : TestServer) :
    disableTimeout s = ⟨⟨⟩, freed s.context.bodyResponseQueue s, []⟩ := rfl

theorem Waiting.freed (h : Waiting options o state s) {queue : List Nat}
    (hqueue : replies o .body → queue = []) : Free options o (freed queue s) :=
  ⟨{ h.calm with }, h.nextStates, rfl, hqueue⟩

/-- `cb_continue` before the end of the message. -/
theorem cbContinue_apply (options : Options) (call : Handlers) (s : TestServer)
    (hstate : s.context.state ∈ .negotiate :: sessionOrder)
    (hlast : s.context.state ≠ .endOfMessage) :
    cbContinue options call s = fallThrough options call (continueLines s.context.state) s := by
  rw [cbContinue, Proc.bind_apply, contextOf_apply]
  cases hcase : s.context.state
  case endOfMessage => exact absurd hcase hlast
  case invalid | start | defineMacro | quit | abort =>
    rw [hcase] at hstate
    exact absurd hstate (by decide)
  all_goals simp

/-- The reply to the last packet of the body is that to the chunk. -/
theorem decrement_last (h : s.context.bodyResponseQueue = [1]) :
    decrementProcessBodyCount options call (freed s.context.bodyResponseQueue s) =
      (do
        handle options call .continue
        updateContext fun context => { context with
          state := if context.sentEndOfMessage then .endOfMessage else context.state } :
          Program PUnit) (freed [] s) := by
  have hcount : (freed s.context.bodyResponseQueue s).context.bodyResponseQueue = [1] := h
  rw [decrementProcessBodyCount, Proc.bind_apply, contextOf_apply]
  simp only [hcount]
  rw [if_pos trivial, Proc.bind_apply]
  rfl

/-- The milter lets another command pass: the next one is sent. -/
theorem step_continue (h : Waiting options o state s) (hlast : state ≠ .endOfMessage)
    (hreplies : replies o state) (hfits : Fits options)
    (hfind : (onward state).find? (available options s.data) = some next) :
    ∃ t packet rest, packets options s.data next = packet :: rest ∧
      step options call (.replied .continue) s = ⟨⟨⟩, t, [packet]⟩ ∧ Sent options o next t ∧
      t.data = advance packet s.data := by
  have hmem : state ∈ .negotiate :: sessionOrder := List.mem_cons_of_mem _ h.mem
  have hlines := (firstLine_continueLines o (available options s.data) hmem).trans hfind
  have hcontinue : ∀ queue, cbContinue options call (freed queue s) =
      fallThrough options call (continueLines state) (freed queue s) := by
    intro queue
    have hstate : (freed queue s).context.state = state := h.reached
    rw [cbContinue_apply options call _ (hstate ▸ hmem) (hstate ▸ hlast), hstate]
  by_cases hbody : state = .body
  · subst hbody
    rcases fallThrough_some call (h.freed fun _ => rfl) hfits hlines with
      ⟨t, packet, rest, hpackets, hfall, hsent, hdata⟩
    refine ⟨t, packet, rest, hpackets, ?_, hsent, hdata⟩
    have hqueue := h.queue hreplies
    rw [if_pos rfl] at hqueue
    -- one chunk is owed a reply, and none is buffered
    have hdecrement : decrementProcessBodyCount options call (freed s.context.bodyResponseQueue s) =
        ⟨⟨⟩, t, [packet]⟩ := by
      rw [decrement_last call hqueue, Proc.bind_apply]
      simp [handle, hcontinue, hfall, hsent.calm.sentEndOfMessage]
      rw [← hsent.calm.sentEndOfMessage]
    simp [step, h.calm.finished, decode, decoderContinue, h.reached, disableTimeout_freed,
      h.calm.quitted, hdecrement, hsent.calm.body]
  · have hqueue : replies o .body → s.context.bodyResponseQueue = [] :=
      fun hreplies => (h.queue hreplies).trans (if_neg hbody)
    rcases fallThrough_some call (h.freed hqueue) hfits hlines with
      ⟨t, packet, rest, hpackets, hfall, hsent, hdata⟩
    refine ⟨t, packet, rest, hpackets, ?_, hsent, hdata⟩
    have hhandle : handle options call .continue (freed s.context.bodyResponseQueue s) =
        ⟨⟨⟩, t, [packet]⟩ := (hcontinue _).trans hfall
    have hreached := h.reached
    have hdecode : decoderContinue options call s =
        handle options call .continue (freed s.context.bodyResponseQueue s) := by
      have hstate := h.mem
      cases state
      case body => exact absurd rfl hbody
      case endOfMessage => exact absurd rfl hlast
      case invalid | start | defineMacro | negotiate | quit | abort =>
        exact absurd hstate (by decide)
      all_goals simp [decoderContinue, hreached, disableTimeout_freed, h.calm.quitted]
    rw [← hhandle, ← hdecode]
    simp [step, h.calm.finished, decode]

end Commands

/-! ## The whole run -/

section Drive

variable {options : Options} {call : Handlers} {o : MilterOption} {s t : TestServer}
variable {state : ContextState} {event : Event} {sent : List Packet} {fuel : Nat}

theorem drive_stop (h : nextEvent o s.context = none) :
    drive options call o fuel s = ⟨⟨⟩, s, []⟩ := by
  cases fuel with
  | zero => rfl
  | succ fuel => simp [drive, h]

theorem drive_step (h : nextEvent o s.context = some event)
    (hstep : step options call event s = ⟨⟨⟩, t, sent⟩) :
    drive options call o (fuel + 1) s =
      ⟨⟨⟩, (drive options call o fuel t).state, sent ++ (drive options call o fuel t).trace⟩ := by
  simp [drive, h, hstep]

/-- What the milter does is one of the things that may happen on the connection. -/
theorem exists_each_eq_drive (options : Options) (call : Handlers) (o : MilterOption)
    (fuel : Nat) (s : TestServer) :
    ∃ events, Proc.each (step options call) events s = drive options call o fuel s := by
  induction fuel generalizing s with
  | zero => exact ⟨[], rfl⟩
  | succ fuel ih =>
      cases h : nextEvent o s.context with
      | none =>
          rw [drive_stop h]
          exact ⟨[], rfl⟩
      | some event =>
          rcases ih (step options call event s).state with ⟨events, hevents⟩
          refine ⟨event :: events, ?_⟩
          have hstep : step options call event s =
            ⟨⟨⟩, (step options call event s).state, (step options call event s).trace⟩ := rfl
          rw [drive_step h hstep, Proc.each]
          simp [hevents]

/-- The connection is finished, and what was ahead was sent. -/
structure Completed (sent : List Packet) (result : Outcome TestServer Packet PUnit) : Prop where
  finished : result.state.context.finished = true
  trace : result.trace = sent ++ [.quit]

/-- Nothing happens any more: no reply is owed, and no timeout is registered. -/
structure Stuck (o : MilterOption) (ahead : List Packet)
    (result : Outcome TestServer Packet PUnit) : Prop where
  finished : result.state.context.finished = false
  waiting : nextEvent o result.state.context = none
  timeout : result.state.context.timeout = none
  trace : result.trace <+: ahead

/-- The tool comes to the end, unless a gap lies ahead. -/
structure Ending (gapless : Prop) (o : MilterOption) (ahead : List Packet)
    (result : Outcome TestServer Packet PUnit) : Prop where
  completed : gapless → Completed ahead result
  stuck : ¬gapless → Stuck o ahead result

/-- An iteration that sends the first packets of what is ahead. -/
theorem Ending.step {gapless gapless' : Prop} {ahead : List Packet}
    (h : Ending gapless' o ahead (drive options call o fuel t)) (hiff : gapless ↔ gapless')
    (hnext : nextEvent o s.context = some event)
    (hstep : Tool.step options call event s = ⟨⟨⟩, t, sent⟩) :
    Ending gapless o (sent ++ ahead) (drive options call o (fuel + 1) s) := by
  rw [drive_step hnext hstep]
  constructor
  · intro hgapless
    have hcompleted := h.completed (hiff.mp hgapless)
    constructor
    · exact hcompleted.finished
    · rw [hcompleted.trace, List.append_assoc]
  · intro hgap
    have hstuck := h.stuck fun hgapless => hgap (hiff.mpr hgapless)
    constructor
    · exact hstuck.finished
    · exact hstuck.waiting
    · exact hstuck.timeout
    · exact (List.prefix_append_right_inj sent).mpr hstuck.trace

theorem available_endOfMessage (data : ProcessData) : available options data .endOfMessage := rfl

theorem endOfMessage_mem_later (hstate : state ∈ .negotiate :: sessionOrder)
    (hlast : state ≠ .endOfMessage) : ContextState.endOfMessage ∈ later state := by
  revert hlast
  fin_cases hstate <;> decide

/-- Before the end of the message there is something to send. -/
theorem exists_find? (options : Options) (hstate : state ∈ .negotiate :: sessionOrder)
    (hlast : state ≠ .endOfMessage)
    (data : ProcessData) :
    ∃ next, (onward state).find? (available options data) = some next := by
  apply Option.isSome_iff_exists.mp
  rw [List.find?_isSome]
  refine ⟨.endOfMessage, ?_, available_endOfMessage data⟩
  have hmem := endOfMessage_mem_later hstate hlast
  rw [onward]
  split
  · exact List.mem_cons_of_mem _ hmem
  · exact hmem

theorem nextEvent_sent (h : Sent options o state s) : nextEvent o s.context = some .flushed := by
  simp [nextEvent, h.calm.finished, h.nextStates]

theorem nextEvent_waiting (h : Waiting options o state s) (hreplies : replies o state) :
    nextEvent o s.context = some (.replied .continue) := by
  have hne : state ≠ .negotiate := by
    rintro rfl
    exact absurd h.mem (by decide)
  simp [nextEvent, h.calm.finished, h.nextStates, h.reached, hne, h.calm.needReply, hreplies]

theorem nextEvent_free (h : Free options o s) (hstate : s.context.state = state)
    (hmem : state ∈ sessionOrder) (hreplies : replies o state = false) :
    nextEvent o s.context = none := by
  have hne : state ≠ .negotiate := by
    rintro rfl
    exact absurd hmem (by decide)
  simp [nextEvent, h.calm.finished, h.nextStates, hstate, hne, h.calm.needReply, hreplies]

theorem replies_endOfMessage (o : MilterOption) : replies o .endOfMessage := by
  simp [replies, Context.noReplyFlag]

/-- At the end of the message no gap lies ahead. -/
theorem gaplessFrom_endOfMessage (data : ProcessData) :
    GaplessFrom options o data .endOfMessage := by
  intro other hother _ hreplies
  rw [List.mem_singleton.mp hother, replies_endOfMessage] at hreplies
  cases hreplies

/-- A command without a reply that leads on. -/
theorem reaches_of_reached {available : ContextState → Bool} {next : ContextState}
    (h : reached o available (onward state) = some next) :
    (onward state).find? available = some next ∧
      (next = state ∨ reaches o available (later state)) := by
  rw [reached] at h
  split at h
  case isFalse => cases h
  case isTrue hreaches =>
    refine ⟨h, ?_⟩
    rw [onward] at h hreaches
    by_cases hrepeats : repeats state
    · rw [if_pos hrepeats] at h hreaches
      rw [find?_cons_eq] at h
      by_cases havailable : available state
      · rw [if_pos havailable] at h
        exact .inl (Option.some.inj h).symm
      · rw [reaches] at hreaches
        simp only [havailable, Bool.false_or, Bool.and_eq_true] at hreaches
        exact .inr hreaches.2
    · rw [if_neg hrepeats] at hreaches
      exact .inr hreaches

/-- A command without a reply that leads to nothing is a gap. -/
theorem not_gaplessFrom_of_reached (hmem : state ∈ sessionOrder) (hlast : state ≠ .endOfMessage)
    {data : ProcessData} (hreplies : replies o state = false)
    (h : reached o (available options data) (onward state) = none) :
    ¬GaplessFrom options o data state := by
  intro hgapless
  have hreaches := hgapless state List.mem_cons_self (.inl rfl) hreplies
  rcases exists_find? options (List.mem_cons_of_mem _ hmem) hlast data with ⟨next, hfind⟩
  have honward : reaches o (available options data) (onward state) := by
    rw [onward]
    split
    · rw [reaches, hreplies, hreaches]
      simp
    · exact hreaches
  rw [reached, if_pos honward, hfind] at h
  cases h

/-- The last command is let pass: the session is over. -/
theorem ending_last (h : Sent options o .endOfMessage s) :
    Ending (GaplessFrom options o s.data .endOfMessage) o (ahead options s.data .endOfMessage)
      (drive options call o (fuel + 2) s) := by
  have hreplies := replies_endOfMessage o
  rcases step_flushed_replied call h hreplies with ⟨t, hflush, hwaiting, -⟩
  rcases step_continue_last call hwaiting with ⟨u, hcontinue, hfinished⟩
  have hstop : nextEvent o u.context = none := by rw [nextEvent, if_pos hfinished]
  have hdrive : drive options call o (fuel + 2) s = ⟨⟨⟩, u, [.quit]⟩ := by
    rw [drive_step (nextEvent_sent h) hflush, drive_step (nextEvent_waiting hwaiting hreplies)
      hcontinue, drive_stop hstop]
    rfl
  rw [hdrive]
  constructor
  · exact fun _ => ⟨hfinished, rfl⟩
  · exact fun hgap => absurd (gaplessFrom_endOfMessage s.data) hgap

/-- From a command that is sent, the tool comes to the end unless a gap lies ahead. -/
theorem ending_sent (call : Handlers) (hfits : Fits options) (h : Sent options o state s)
    (hfuel : 2 * (ahead options s.data state).length + 2 ≤ fuel) :
    Ending (GaplessFrom options o s.data state) o (ahead options s.data state)
      (drive options call o fuel s) := by
  -- each packet takes a flush and perhaps a reply, and is ahead no more
  induction fuel using Nat.strong_induction_on generalizing s state with
  | _ fuel ih =>
      obtain ⟨rest, rfl⟩ : ∃ rest, fuel = rest + 2 := ⟨fuel - 2, by omega⟩
      have hmem : state ∈ .negotiate :: sessionOrder := List.mem_cons_of_mem _ h.mem
      by_cases hlast : state = .endOfMessage
      · subst hlast
        exact ending_last h
      by_cases hreplies : replies o state
      · rcases exists_find? options hmem hlast s.data with ⟨next, hfind⟩
        rcases step_flushed_replied call h hreplies with ⟨t, hflush, hwaiting, hdata⟩
        rw [← hdata] at hfind
        rcases step_continue call hwaiting hlast hreplies hfits hfind with
          ⟨u, packet, packets, hpackets, hcontinue, hsent, hadvance⟩
        have hahead := ahead_eq_cons hmem hfind hpackets
        have hgapless := gaplessFrom_iff (o := o) hmem hfind hpackets
          fun hsilent => absurd hreplies (by simp [hsilent])
        rw [← hadvance] at hahead hgapless
        rw [← hdata] at hfuel ⊢
        rw [hahead, List.length_cons] at hfuel
        have hrest := ih rest (by omega) hsent (by omega)
        have hreplied := hrest.step hgapless (nextEvent_waiting hwaiting hreplies) hcontinue
        rw [hahead]
        exact hreplied.step Iff.rfl (nextEvent_sent h) hflush
      · have hsilent : replies o state = false := by simpa using hreplies
        rcases step_flushed_silent call h hsilent with ⟨t, hflush, hfree, hdata, hreached⟩
        have hlines := firstLine_transitedLines o (available options t.data) h.mem hlast
          (available_endOfMessage t.data)
        rw [if_neg hreplies] at hlines
        rw [← hdata] at hfuel ⊢
        cases hnext : reached o (available options t.data) (onward state) with
        | none =>
            rw [hnext] at hlines
            rcases fallThrough_none call hfree hlines with ⟨u, hfall, hfree', -, hstate⟩
            have hgap := not_gaplessFrom_of_reached h.mem hlast hsilent hnext
            have hstop := nextEvent_free hfree' (hstate.trans hreached) h.mem hsilent
            rw [drive_step (nextEvent_sent h) (hflush.trans hfall), drive_stop hstop]
            constructor
            · exact fun hgapless => absurd hgapless hgap
            · exact fun _ => ⟨hfree'.calm.finished, hstop, hfree'.timeout, List.nil_prefix⟩
        | some next =>
            rw [hnext] at hlines
            rcases fallThrough_some call hfree hfits hlines with
              ⟨u, packet, packets, hpackets, hfall, hsent, hadvance⟩
            rcases reaches_of_reached hnext with ⟨hfind, hreaches⟩
            have hahead := ahead_eq_cons hmem hfind hpackets
            have hgapless := gaplessFrom_iff hmem hfind hpackets fun _ => hreaches
            rw [← hadvance] at hahead hgapless
            rw [hahead, List.length_cons] at hfuel
            have hrest := ih (rest + 1) (by omega) hsent (by omega)
            rw [hahead]
            exact hrest.step hgapless (nextEvent_sent h) (hflush.trans hfall)

/-! ## From the negotiation on -/

/-- The tool when the offer is written. -/
def offering (options : Options) : TestServer :=
  (contextNegotiate (offeredOption options) (ready options)).state

/-- The tool when the offer is flushed. -/
def offered (options : Options) : TestServer :=
  settled (some .reading) .negotiate (offering options)

/-- The tool when the offer is answered. -/
def agreed (options : Options) (o : MilterOption) : TestServer where
  context := { (offered options).context with
    timeout := none
    option := some ⟨o.version, 0x1ff#32 &&& o.action, StepFlags.offered &&& o.step⟩ }
  data := answered options o

theorem free_agreed (options : Options) (o : MilterOption) : Free options o (agreed options o) where
  calm :=
    { writer := rfl
      finished := rfl
      quitted := rfl
      sentEndOfMessage := rfl
      processBodyCount := rfl
      body := rfl
      option := rfl
      contextOption := ⟨0x1ff#32 &&& o.action, rfl⟩
      chunks := rfl }
  nextStates := rfl
  timeout := rfl
  queue _ := rfl

theorem contextNegotiate_ready (options : Options) :
    contextNegotiate (offeredOption options) (ready options) =
      ⟨true, offering options, [.negotiate (offeredOption options)]⟩ := rfl

theorem step_offering (options : Options) :
    step options call .flushed (offering options) = ⟨⟨⟩, offered options, []⟩ := by
  have hnext : (offering options).context.nextStates = [.negotiate] := rfl
  have hneed : ∀ context : Context, context.option = (offering options).context.option →
      context.needReply .negotiate = true := by
    intro context hoption
    rw [Context.needReply, hoption]
    show ((StepFlags.offered &&& 0#32) == 0#32) = true
    rw [BitVec.and_zero]
    rfl
  have hprocess : processNextState .negotiate (emptied (offering options)) =
      ⟨⟨⟩, offered options, []⟩ := by
    simp [processNextState, disableTimeout, registerTimeout, emptied, offered, settled, hneed]
  rw [step_flushed call rfl hnext, Proc.bind_apply, hprocess]
  rfl

theorem step_offered (hversion : o.version ≤ options.negotiateVersion) :
    step options call (.replied (.negotiateReply o)) (offered options) =
      fallThrough options call (continueLines .negotiate) (agreed options o) := by
  have hcombine : (offeredOption options).combine o =
      some ⟨o.version, 0x1ff#32 &&& o.action, StepFlags.offered &&& o.step⟩ := by
    rw [MilterOption.combine]
    exact if_neg (Nat.not_lt.mpr hversion)
  have hoption : (offered options).context.option = some (offeredOption options) := rfl
  have hstate : (offered options).context.state = .negotiate := rfl
  have hnone : (offered options).data.option = none := rfl
  have hfinished : (offered options).context.finished = false := rfl
  have hquitted : (offered options).context.quitted = false := rfl
  have hdecode : decoderNegotiateReply options call o (offered options) =
      cbContinue options call (agreed options o) := by
    simp [decoderNegotiateReply, hoption, hcombine, hstate, hquitted, handle, cbNegotiateReply,
      hnone, disableTimeout]
    rfl
  have hagreed : (agreed options o).context.state = .negotiate := rfl
  have hcontinue := cbContinue_apply options call (agreed options o)
    (by rw [hagreed]; exact List.mem_cons_self) (by rw [hagreed]; decide)
  rw [hagreed] at hcontinue
  rw [← hcontinue, ← hdecode]
  simp [step, hfinished, decode]

/-- Nothing is left out before the first command. -/
theorem gaplessFrom_negotiate (options : Options) (o : MilterOption) :
    Gapless options o ↔ GaplessFrom options o (answered options o) .negotiate := by
  constructor
  · intro h other hother havailable hreplies
    rcases List.mem_cons.mp hother with rfl | hlater
    · simp [replies, Context.noReplyFlag] at hreplies
    · have hne : other ≠ .negotiate := by
        rintro rfl
        exact absurd hlater (by decide)
      exact h other hlater (havailable.resolve_left hne) hreplies
  · intro h other hlater havailable hreplies
    exact h other (List.mem_cons_of_mem _ hlater) (.inr havailable) hreplies

end Drive

/-- A run of the tool with a milter that answers the negotiation with `o` and lets everything
pass. -/
def passed (options : Options) (depth : Nat) (o : MilterOption) (fuel : Nat) : Program PUnit := do
  let _ ← contextNegotiate (offeredOption options)
  drive options (dispatch options depth) o fuel

/-- It is one of the runs of the tool. -/
theorem exists_run_eq_passed (options : Options) (depth : Nat) (o : MilterOption) (fuel : Nat) :
    ∃ events, run options depth events (ready options) =
      passed options depth o fuel (ready options) := by
  rcases exists_each_eq_drive options (dispatch options depth) o fuel (offering options) with
    ⟨events, hevents⟩
  refine ⟨events, ?_⟩
  rw [run, passed, Proc.bind_apply, Proc.bind_apply, contextNegotiate_ready, hevents]

theorem ending_passed (options : Options) (depth : Nat) (o : MilterOption) (fuel : Nat)
    (hfits : Fits options) (hversion : o.version ≤ options.negotiateVersion)
    (hfuel : 2 * (wholeSession options o).length ≤ fuel) :
    Ending (Gapless options o) o
      (.negotiate (offeredOption options) :: ahead options (answered options o) .negotiate)
      (passed options depth o fuel (ready options)) := by
  have hnegotiate : ContextState.negotiate ∈ .negotiate :: sessionOrder := List.mem_cons_self
  rcases exists_find? options hnegotiate (by decide) (answered options o) with ⟨next, hfind⟩
  have hlines := (firstLine_continueLines o (available options (answered options o))
    hnegotiate).trans hfind
  rcases fallThrough_some (dispatch options depth) (free_agreed options o) hfits hlines with
    ⟨s, packet, packets, hpackets, hfall, hsent, hadvance⟩
  have hahead := ahead_eq_cons hnegotiate hfind hpackets
  have hreplies : replies o .negotiate := by simp [replies, Context.noReplyFlag]
  have hgapless := (gaplessFrom_negotiate options o).trans <|
    gaplessFrom_iff hnegotiate hfind hpackets fun hsilent => absurd hreplies (by simp [hsilent])
  have hwhole : wholeSession options o = .negotiate (offeredOption options) ::
      (ahead options (answered options o) .negotiate ++ [.quit]) := rfl
  rw [hwhole, hahead, List.length_cons, List.length_append, List.length_cons,
    List.length_singleton] at hfuel
  obtain ⟨rest, rfl⟩ : ∃ rest, fuel = rest + 2 := ⟨fuel - 2, by omega⟩
  have hrest : 2 * (ahead options s.data next).length + 2 ≤ rest := by
    rw [hadvance]
    show 2 * (ahead options (advance packet (answered options o)) next).length + 2 ≤ rest
    omega
  have hending := ending_sent (dispatch options depth) hfits hsent hrest
  have hanswer : nextEvent o (offered options).context = some (.replied (.negotiateReply o)) := rfl
  have hflush : nextEvent o (offering options).context = some .flushed := rfl
  rw [hadvance] at hending
  have hdriven := (hending.step hgapless hanswer ((step_offered hversion).trans hfall)).step
    Iff.rfl hflush (step_offering options)
  have hpassed : passed options depth o (rest + 2) (ready options) =
      ⟨⟨⟩, (drive options (dispatch options depth) o (rest + 2) (offering options)).state,
        .negotiate (offeredOption options) ::
          (drive options (dispatch options depth) o (rest + 2) (offering options)).trace⟩ := by
    rw [passed, Proc.bind_apply, contextNegotiate_ready]
    rfl
  rw [hpassed, hahead]
  constructor
  · intro hgap
    have hcompleted := hdriven.completed hgap
    exact ⟨hcompleted.finished, congrArg _ hcompleted.trace⟩
  · intro hgap
    have hstuck := hdriven.stuck hgap
    exact ⟨hstuck.finished, hstuck.waiting, hstuck.timeout,
      (List.prefix_cons_inj _).mpr hstuck.trace⟩

/-- A mail for two recipients, without a header. -/
def sampleOptions : Options where
  connectHost := none
  heloHost := [104]
  envelopeFrom := [102]
  recipients := [[97], [98]]
  unknownCommand := none
  optionHeaders := []
  bodyChunks := [[1], [2, 3]]
  negotiateVersion := 6

end MilterManager.Tool
