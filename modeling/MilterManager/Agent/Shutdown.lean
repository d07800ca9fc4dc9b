import MilterManager.Agent.Writer

/-!
# The end of an agent

`MilterAgent` with its reader and its writer, from `milter/core/milter-agent.c`,
`milter-reader.c` and `milter-writer.c`. Handlers of the agent's signals run in the middle of these
functions; what the functions still have to do behind them is on a stack.
-/

namespace MilterManager.Agent

open MilterManager.Base MilterManager.Core

/-- `MilterReaderPrivate`; of the identifiers of the watches only whether they are set. -/
structure Reader where
  ioChannel : Bool
  readWatch : Bool
  errorWatch : Bool
  processing : Bool
  shutdownRequested : Bool
deriving DecidableEq, Repr

/-- `MilterWriterPrivate` with the watch for errors. -/
structure WatchedWriter extends Writer where
  errorWatch : Bool
deriving DecidableEq, Repr

/-- `MilterAgentPrivate`; of the reader and the writer only whether they are set. -/
structure MilterAgent where
  reader : Bool
  writer : Bool
  finished : Bool
  shuttingDown : Bool
deriving DecidableEq, Repr

/-- What is left of a function behind a signal or before a channel answers. The handlers of the
agent's signals run on `flow`, `error`, `flushed`, `finished` and `finishedAfter`. -/
inductive Frame where
  | readChars
  | flowAfterError (data : Bytes)
  | flow
  | readReturned (keepCallback : Bool)
  | readFinished
  | errorWatch
  | errorFinished
  | error
  | flushed
  | finished
  | finishedWriter
  | finishedAfter
  | writeError
  | flushWatch
  | writerErrorWatch
  | flushOnShutdown
  | flushedOnShutdown
  | unrefOnShutdown
  | shutdownWriter (haveReader : Bool)
  | shutdownEnd (haveReader : Bool)
  | shutdownDone
deriving DecidableEq, Repr

namespace Frame

/-- Handlers of a signal of the agent are running. -/
def isHandlers : Frame → Bool
  | flow => true
  | error => true
  | flushed => true
  | finished => true
  | finishedAfter => true
  | _ => false

/-- A callback of the reader has not returned. -/
def isReaderCallback : Frame → Bool
  | readChars => true
  | flowAfterError _ => true
  | readReturned _ => true
  | readFinished => true
  | errorWatch => true
  | errorFinished => true
  | _ => false

/-- A callback of the reader has not come to its end. -/
def comesBack : Frame → Bool
  | readChars => true
  | readReturned _ => true
  | errorWatch => true
  | _ => false

/-- The frame is only there behind the reader's end. -/
def isLate : Frame → Bool
  | finished => true
  | shutdownWriter haveReader => !haveReader
  | shutdownEnd haveReader => !haveReader
  | _ => false

end Frame

/-- What `g_io_channel_read_chars` gives. -/
structure ReadResult where
  eof : Bool
  ioError : Bool
  data : Bytes
deriving DecidableEq, Repr

/-- What `g_io_channel_flush` says to `flush_watch_func`. -/
inductive FlushStatus where
  | error
  | again
  | normal
deriving DecidableEq, Repr

/-- What happens: calls from the outside or from handlers, the callbacks of the event loop, the
answers of the channels, the return of handlers, and the code behind them. -/
inductive AgentEvent where
  | shutdown
  | writePacket (packet : Bytes)
  | readable
  | readerError (hup err nval : Bool)
  | writable (size : Nat) (channelError : Bool)
  | flushable (status : FlushStatus)
  | writerError
  | readChars (result : ReadResult)
  | buffered (more : Bool)
  | writeOnShutdown (size : Nat) (channelError flushError : Bool)
  | returnHandlers (decodeError : Bool)
  | proceed
deriving DecidableEq, Repr

/-- An agent that runs: what is on the stack, the data its decoder got, how often `finished` was
emitted, and whether shutdown was called or the reader came to its end. -/
structure AgentRun where
  agent : MilterAgent
  reader : Reader
  writer : WatchedWriter
  stack : List Frame
  decoded : List Bytes
  emitted : Nat
  ended : Bool
deriving DecidableEq, Repr

namespace AgentRun

/-- An agent with a reader and a writer behind `milter_agent_start`. -/
def started : AgentRun where
  agent := ⟨true, true, false, false⟩
  reader := ⟨true, true, true, false, false⟩
  writer := ⟨(Writer.new true).start, true⟩
  stack := []
  decoded := []
  emitted := 0
  ended := false

/-- A frame on the stack. -/
def push (s : AgentRun) (frame : Frame) : AgentRun := { s with stack := frame :: s.stack }

/-- `milter_finished_emittable_emit` on the agent. -/
def emitFinished (s : AgentRun) : AgentRun :=
  { s with emitted := s.emitted + 1, stack := .finished :: s.stack }

/-- The signal `error` of the reader, with `cb_reader_error`, `milter/core/milter-agent.c:408`. -/
def emitReaderError (s : AgentRun) : AgentRun := if s.agent.reader then s.push .error else s

/-- The signals `error` and `flushed` of the writer, with `cb_writer_error` and `cb_writer_flushed`,
`milter/core/milter-agent.c:479`. -/
def emitWriter (s : AgentRun) (frame : Frame) : AgentRun :=
  if s.agent.writer then s.push frame else s

/-- The signal `flow` of the reader, with `cb_reader_flow`, `milter/core/milter-agent.c:379`, up to
the signals of the decoder. -/
def emitFlow (s : AgentRun) (data : Bytes) : AgentRun :=
  if data ≠ [] ∧ s.agent.reader = true then
    { s with decoded := s.decoded ++ [data], stack := .flow :: s.stack }
  else s

/-- `finish`, `milter/core/milter-reader.c:206`, with `cb_reader_finished`,
`milter/core/milter-agent.c:426`. -/
def finish (s : AgentRun) : AgentRun :=
  let s :=
    { s with
      reader :=
        { s.reader with shutdownRequested := false, readWatch := false, errorWatch := false }
      ended := true }
  if s.agent.reader then
    let s := { s with agent := { s.agent with reader := false } }
    if s.agent.finished then s else s.emitFinished
  else s

/-- `milter_reader_shutdown`, `milter/core/milter-reader.c:443`. -/
def readerShutdown (s : AgentRun) : AgentRun :=
  if !s.reader.readWatch then s
  else if s.reader.shutdownRequested then s
  else
    let s := { s with reader := { s.reader with shutdownRequested := true } }
    if s.reader.processing then s
    else finish { s with reader := { s.reader with ioChannel := false } }

/-- `clear_watch_id`, `milter/core/milter-writer.c:163`. -/
def clearWriter (s : AgentRun) : AgentRun :=
  { s with
    writer :=
      { s.writer with
        writeWatch := false, flushWatch := false, errorWatch := false, loop := false } }

/-- `milter_writer_shutdown`, `milter/core/milter-writer.c:677`, with the beginning of
`flush_buffer_on_shutdown`. -/
def writerShutdown (s : AgentRun) : AgentRun :=
  if !s.writer.errorWatch then s
  else
    let s := s.clearWriter
    if !s.writer.ioChannel then s
    else if s.writer.buffer = [] then { s with writer := { s.writer with ioChannel := false } }
    else (s.push .unrefOnShutdown).push .flushOnShutdown

/-- `milter_agent_shutdown`, `milter/core/milter-agent.c:641`, up to the writer. -/
def shutdown (s : AgentRun) : AgentRun :=
  let s := { s with ended := true }
  if s.agent.shuttingDown then s
  else
    let s := { s with agent := { s.agent with shuttingDown := true } }
    if s.agent.reader then (s.push (.shutdownWriter true)).readerShutdown
    else s.push (.shutdownWriter false)

/-- `milter_agent_write_packet`, `milter/core/milter-agent.c:528`. -/
def writePacket (s : AgentRun) (packet : Bytes) : AgentRun :=
  if !s.agent.writer then s
  else
    match s.writer.write packet with
    | .error _ => s
    | .ok writer =>
        match writer.flush with
        | .error _ => { s with writer := { s.writer with toWriter := writer } }
        | .ok writer => { s with writer := { s.writer with toWriter := writer } }

/-- The beginning of `read_watch_func`, `milter/core/milter-reader.c:217`. -/
def readWatchFunc (s : AgentRun) : AgentRun :=
  let s := { s with reader := { s.reader with processing := true } }
  if s.reader.shutdownRequested then s.push (.readReturned false) else s.push .readChars

/-- `read_from_channel`, `milter/core/milter-reader.c:136`, behind `g_io_channel_read_chars`. -/
def readFromChannel (s : AgentRun) (result : ReadResult) : AgentRun :=
  let s := s.push (.readReturned (!result.ioError && !result.eof))
  if result.ioError then
    let s := { s with reader := { s.reader with shutdownRequested := true } }
    (s.push (.flowAfterError result.data)).emitReaderError
  else s.emitFlow result.data

/-- The rest of `read_watch_func` behind `read_from_channel`. -/
def readReturned (s : AgentRun) (keepCallback more : Bool) : AgentRun :=
  if keepCallback && more then s.push .readChars
  else if keepCallback && !s.reader.shutdownRequested then
    { s with reader := { s.reader with processing := false } }
  else (s.push .readFinished).finish

/-- `error_watch_func` of the reader, `milter/core/milter-reader.c:263`, up to its end. -/
def readerErrorWatchFunc (s : AgentRun) (hup err nval : Bool) : AgentRun :=
  let s :=
    { s with reader := { s.reader with shutdownRequested := s.reader.shutdownRequested || hup } }
  let s := s.push .errorWatch
  if err || (!s.reader.shutdownRequested && (hup || nval)) then
    { s with reader := { s.reader with shutdownRequested := true } }.emitReaderError
  else s

/-- `write_watch_func`, `milter/core/milter-writer.c:338`. -/
def writeWatchFunc (s : AgentRun) (size : Nat) (channelError : Bool) : AgentRun :=
  let writable := s.writer.buffer ≠ []
  let s := { s with writer := { s.writer with toWriter := (s.writer.writeWatchFunc size).1 } }
  if writable ∧ channelError = true then (s.push .writeError).emitWriter .error else s

/-- `flush_watch_func`, `milter/core/milter-writer.c:270`. -/
def flushWatchFunc (s : AgentRun) : FlushStatus → AgentRun
  | .error => (s.push .flushWatch).emitWriter .error
  | .again => s
  | .normal => (s.push .flushWatch).emitWriter .flushed

/-- The rest of `flush_buffer_on_shutdown`, `milter/core/milter-writer.c:595`, when the channel
takes up to `size` bytes. -/
def flushBufferOnShutdown (s : AgentRun) (size : Nat) (channelError flushError : Bool) : AgentRun :=
  let s := { s with writer := { s.writer with buffer := s.writer.buffer.drop size } }
  if channelError then s.emitWriter .error
  else if flushError then (s.push .flushedOnShutdown).emitWriter .error
  else s.emitWriter .flushed

/-- The end of `error_watch_func` of the writer, `milter/core/milter-writer.c:520`, with
`cb_writer_finished`: the writer is not watched any more, and `milter_agent_set_writer` drops it. -/
def writerFinished (s : AgentRun) : AgentRun :=
  let s :=
    { s with
      writer := { s.writer with writeWatch := false, flushWatch := false, errorWatch := false } }
  if s.agent.writer then { s with agent := { s.agent with writer := false } } else s

/-- What comes behind handlers that have returned. -/
def handlersReturned (s : AgentRun) (decodeError : Bool) : Frame → AgentRun
  | .flow => if decodeError then s.push .error else s
  | .finished =>
      let s := (s.push .finishedAfter).push .finishedWriter
      let s := { s with agent := { s.agent with finished := true } }
      if s.agent.reader then s.readerShutdown else s
  | _ => s

/-- The code on top of the stack. -/
def proceed (s : AgentRun) : Frame → AgentRun
  | .flowAfterError data => s.emitFlow data
  | .readFinished => { s with reader := { s.reader with processing := false } }
  | .errorWatch => (s.push .errorFinished).finish
  | .errorFinished => s
  | .finishedWriter => if s.agent.writer then s.writerShutdown else s
  | .writeError => { s with writer := { s.writer with writeWatch := false } }
  | .flushWatch => { s with writer := { s.writer with flushWatch := false } }
  | .writerErrorWatch => s.writerFinished
  | .flushedOnShutdown => s.emitWriter .flushed
  | .unrefOnShutdown => { s with writer := { s.writer with ioChannel := false } }
  | .shutdownWriter haveReader =>
      let s := s.push (.shutdownEnd haveReader)
      if s.agent.writer then s.writerShutdown else s
  | .shutdownEnd haveReader =>
      let s := s.push .shutdownDone
      if !haveReader && !s.agent.finished then s.emitFinished else s
  | .shutdownDone => { s with agent := { s.agent with shuttingDown := false } }
  | frame => s.push frame

/-- Code of a user is running: the event loop waits, or handlers are on top of the stack. -/
def userRuns (s : AgentRun) : Bool :=
  match s.stack with
  | [] => true
  | frame :: _ => frame.isHandlers

/-- One event; an event for which it is not the time changes nothing. -/
def step (s : AgentRun) : AgentEvent → AgentRun
  | .shutdown => if s.userRuns then s.shutdown else s
  | .writePacket packet => if s.userRuns then s.writePacket packet else s
  | .readable => if s.stack = [] ∧ s.reader.readWatch = true then s.readWatchFunc else s
  | .readerError hup err nval =>
      if s.stack = [] ∧ s.reader.errorWatch = true then s.readerErrorWatchFunc hup err nval else s
  | .writable size channelError =>
      if s.stack = [] ∧ s.writer.writeWatch = true then s.writeWatchFunc size channelError else s
  | .flushable status =>
      if s.stack = [] ∧ s.writer.flushWatch = true then s.flushWatchFunc status else s
  | .writerError =>
      if s.stack = [] ∧ s.writer.errorWatch = true then
        (s.push .writerErrorWatch).emitWriter .error
      else s
  | .readChars result =>
      match s.stack with
      | .readChars :: stack => { s with stack := stack }.readFromChannel result
      | _ => s
  | .buffered more =>
      match s.stack with
      | .readReturned keepCallback :: stack =>
          { s with stack := stack }.readReturned keepCallback more
      | _ => s
  | .writeOnShutdown size channelError flushError =>
      match s.stack with
      | .flushOnShutdown :: stack =>
          { s with stack := stack }.flushBufferOnShutdown size channelError flushError
      | _ => s
  | .returnHandlers decodeError =>
      match s.stack with
      | frame :: stack =>
          if frame.isHandlers then { s with stack := stack }.handlersReturned decodeError frame
          else s
      | [] => s
  | .proceed =>
      match s.stack with
      | frame :: stack => { s with stack := stack }.proceed frame
      | [] => s

/-- Neither the reader nor the writer has a live watch. -/
def Unwatched (s : AgentRun) : Prop :=
  s.reader.readWatch = false ∧ s.reader.errorWatch = false ∧
    s.writer.writeWatch = false ∧ s.writer.flushWatch = false ∧ s.writer.errorWatch = false

/-- `finished` is emitted at most once; behind it no data is decoded, and when its handlers and the
agent's own have run there is no live watch; a shutdown call or the reader's end leads to it before
the callback of the reader returns. -/
def Ends (s : AgentRun) (event : AgentEvent) : Prop :=
  (s.step event).emitted ≤ 1 ∧
    (0 < s.emitted → (s.step event).decoded = s.decoded) ∧
    (0 < (s.step event).emitted → .finished ∉ (s.step event).stack →
      .finishedWriter ∉ (s.step event).stack → (s.step event).Unwatched) ∧
    ((s.step event).ended = true →
      (∀ frame ∈ (s.step event).stack, frame.isReaderCallback = false) →
        0 < (s.step event).emitted)

/-- A shutdown call that found no reader comes to its end behind the agent's own handler of
`finished`. -/
def Settled (s : AgentRun) : AgentEvent → Prop
  | .proceed => ∀ stack, s.stack = .shutdownEnd false :: stack → s.agent.finished = true
  | _ => True

/-- What holds in every state of the reader's end and the writer's. -/
structure Base (s : AgentRun) : Prop where
  attached : s.agent.reader = true →
    s.reader.readWatch = true ∧ s.emitted = 0 ∧ s.agent.finished = false
  detached : s.agent.reader = false →
    s.reader.readWatch = false ∧ s.reader.errorWatch = false ∧ 0 < s.emitted
  late : ∀ frame ∈ s.stack, frame.isLate = true → s.agent.reader = false
  quiet : s.writer.errorWatch = false →
    s.writer.writeWatch = false ∧ s.writer.flushWatch = false ∧
      (s.agent.writer = true → s.writer.loop = false)
  dropped : s.agent.writer = false → s.writer.errorWatch = false
  closed : s.agent.finished = true → .finishedWriter ∈ s.stack ∨ s.writer.errorWatch = false
  emitting : 0 < s.emitted → s.agent.finished = true ∨ .finished ∈ s.stack

/-- With it, what a requested shutdown waits for: a callback that comes back to the reader. -/
structure Inv (s : AgentRun) : Prop extends Base s where
  busy : s.agent.reader = true → s.reader.processing = true ∨ s.reader.shutdownRequested = true →
    ∃ frame ∈ s.stack, frame.comesBack = true
  requested : s.ended = true → s.agent.reader = true → s.reader.shutdownRequested = true
  shutting : s.agent.shuttingDown = true → s.ended = true

/-- A step emits `finished` at most once; without a reader it emits and decodes nothing. -/
def Tame (s t : AgentRun) : Prop :=
  t.emitted ≤ s.emitted + 1 ∧
    (s.agent.reader = false → t.emitted = s.emitted ∧ t.decoded = s.decoded)

theorem Frame.isReaderCallback_of_comesBack {frame : Frame} (h : frame.comesBack = true) :
    frame.isReaderCallback = true := by
  cases frame <;> first | rfl | cases h

theorem Frame.isLate_of_comesBack {frame : Frame} (h : frame.comesBack = true) :
    frame.isLate = false := by
  cases frame <;> first | rfl | cases h

theorem inv_started : started.Inv where
  attached _ := ⟨rfl, rfl, rfl⟩
  detached h := by cases h
  late _ h := absurd h List.not_mem_nil
  quiet h := by cases h
  dropped h := by cases h
  closed h := by cases h
  emitting h := absurd h (Nat.lt_irrefl 0)
  busy _ h := by rcases h with h | h <;> cases h
  requested h := by cases h
  shutting h := by cases h

section Steps

variable {s : AgentRun}

theorem Base.restack (h : s.Base) {stack : List Frame}
    (hlate : ∀ frame ∈ stack, frame.isLate = true → s.agent.reader = false)
    (hfinished : .finished ∈ s.stack → .finished ∈ stack)
    (hwriter : .finishedWriter ∈ s.stack → .finishedWriter ∈ stack) :
    ({ s with stack := stack } : AgentRun).Base where
  attached := h.attached
  detached := h.detached
  late := hlate
  quiet := h.quiet
  dropped := h.dropped
  closed hflag := (h.closed hflag).imp_left hwriter
  emitting hemitted := (h.emitting hemitted).imp_right hfinished

theorem Base.push (h : s.Base) (frame : Frame)
    (hlate : frame.isLate = true → s.agent.reader = false) :
    (s.push frame).Base := by
  apply h.restack
  · intro other hother
    rcases List.mem_cons.mp hother with rfl | hother
    · exact hlate
    · exact h.late other hother
  · exact List.mem_cons_of_mem frame
  · exact List.mem_cons_of_mem frame

theorem Inv.push (h : s.Inv) (frame : Frame)
    (hlate : frame.isLate = true → s.agent.reader = false) :
    (s.push frame).Inv where
  toBase := h.toBase.push frame hlate
  busy hreader hbusy := by
    obtain ⟨other, hother, hback⟩ := h.busy hreader hbusy
    exact ⟨other, List.mem_cons_of_mem frame hother, hback⟩
  requested := h.requested
  shutting := h.shutting

/-- A frame that leaves the stack takes another one's place, where the reader or the emission
depends on it. -/
theorem Base.pop (h : s.Base) {frame : Frame} {stack : List Frame} (hs : s.stack = frame :: stack)
    (hfinished : frame ≠ .finished) (hwriter : frame ≠ .finishedWriter) :
    ({ s with stack := stack } : AgentRun).Base := by
  have hkeep {other : Frame} (hne : frame ≠ other) (hmem : other ∈ s.stack) : other ∈ stack := by
    rw [hs] at hmem
    exact (List.mem_cons.mp hmem).resolve_left (Ne.symm hne)
  apply h.restack
  · intro other hother
    apply h.late other
    rw [hs]
    exact List.mem_cons_of_mem frame hother
  · exact hkeep hfinished
  · exact hkeep hwriter

theorem Inv.pop (h : s.Inv) {frame : Frame} {stack : List Frame} (hs : s.stack = frame :: stack)
    (hfinished : frame ≠ .finished) (hwriter : frame ≠ .finishedWriter)
    (hback : frame.comesBack = false) : ({ s with stack := stack } : AgentRun).Inv where
  toBase := h.toBase.pop hs hfinished hwriter
  busy hreader hbusy := by
    obtain ⟨other, hother, hcomes⟩ := h.busy hreader hbusy
    rw [hs] at hother
    rcases List.mem_cons.mp hother with rfl | hother
    · exact absurd hcomes (by simp [hback])
    · exact ⟨other, hother, hcomes⟩
  requested := h.requested
  shutting := h.shutting

/-- A callback that comes back may go on in another place. -/
theorem Inv.move (h : s.Inv) {frame : Frame} {stack : List Frame} (hs : s.stack = frame :: stack)
    (hfinished : frame ≠ .finished) (hwriter : frame ≠ .finishedWriter) (next : Frame)
    (hback : next.comesBack = true) : (({ s with stack := stack } : AgentRun).push next).Inv where
  toBase := by
    apply (h.toBase.pop hs hfinished hwriter).push
    intro hlate
    exact absurd hlate (by simp [Frame.isLate_of_comesBack hback])
  busy _ _ := ⟨next, List.mem_cons_self, hback⟩
  requested := h.requested
  shutting := h.shutting

theorem Inv.emitReaderError (h : s.Inv) : s.emitReaderError.Inv := by
  rw [AgentRun.emitReaderError]
  split
  · exact h.push .error (fun hlate => by cases hlate)
  · exact h

theorem Inv.emitWriter (h : s.Inv) (frame : Frame) (hlate : frame.isLate = false) :
    (s.emitWriter frame).Inv := by
  rw [AgentRun.emitWriter]
  split
  · exact h.push frame (fun htrue => by simp [hlate] at htrue)
  · exact h

theorem Inv.emitFlow (h : s.Inv) (data : Bytes) : (s.emitFlow data).Inv := by
  have hpush := h.push .flow (fun hlate => by cases hlate)
  rw [AgentRun.emitFlow]
  split
  · exact
      { attached := hpush.attached
        detached := hpush.detached
        late := hpush.late
        quiet := hpush.quiet
        dropped := hpush.dropped
        closed := hpush.closed
        emitting := hpush.emitting
        busy := hpush.busy
        requested := hpush.requested
        shutting := hpush.shutting }
  · exact h

/-- A request for shutdown waits for a callback that comes back. -/
theorem Inv.request (h : s.Inv) (hback : ∃ frame ∈ s.stack, frame.comesBack = true) :
    ({ s with reader := { s.reader with shutdownRequested := true } } : AgentRun).Inv where
  attached := h.attached
  detached := h.detached
  late := h.late
  quiet := h.quiet
  dropped := h.dropped
  closed := h.closed
  emitting := h.emitting
  busy _ _ := hback
  requested _ _ := rfl
  shutting := h.shutting

/-- The reader's end is the agent's. -/
theorem Base.finish (h : s.Base) : s.finish.Inv := by
  rw [AgentRun.finish]
  dsimp only
  split
  · next hreader =>
      have hflag := (h.attached hreader).2.2
      rw [if_neg (by rw [hflag]; exact Bool.false_ne_true)]
      exact
        { attached := by
            intro hset
            cases hset
          detached := fun _ => ⟨rfl, rfl, Nat.succ_pos _⟩
          late := fun _ _ _ => rfl
          quiet := h.quiet
          dropped := h.dropped
          closed := by
            intro hset
            exact absurd (hflag.symm.trans hset) Bool.false_ne_true
          emitting := fun _ => .inr List.mem_cons_self
          busy := by
            intro hset
            cases hset
          requested := by
            intro _ hset
            cases hset
          shutting := fun _ => rfl }
  · next hreader =>
      have hreader := Bool.eq_false_iff.mpr hreader
      have hgone {p : Prop} (hset : s.agent.reader = true) : p :=
        absurd (hreader.symm.trans hset) Bool.false_ne_true
      exact
        { attached := hgone
          detached := fun _ => ⟨rfl, rfl, (h.detached hreader).2.2⟩
          late := h.late
          quiet := h.quiet
          dropped := h.dropped
          closed := h.closed
          emitting := h.emitting
          busy := hgone
          requested := fun _ => hgone
          shutting := fun _ => rfl }

theorem Base.readerShutdown (h : s.Base) (hreader : s.agent.reader = true) (hended : s.ended = true)
    (hbusy : s.reader.processing = true ∨ s.reader.shutdownRequested = true →
      ∃ frame ∈ s.stack, frame.comesBack = true) : s.readerShutdown.Inv := by
  rw [AgentRun.readerShutdown]
  rw [if_neg (by rw [(h.attached hreader).1]; exact Bool.false_ne_true)]
  split
  · next hrequested =>
      exact ⟨h, fun _ => hbusy, fun _ _ => hrequested, fun _ => hended⟩
  · dsimp only
    split
    · next hprocessing =>
        exact
          { attached := h.attached
            detached := h.detached
            late := h.late
            quiet := h.quiet
            dropped := h.dropped
            closed := h.closed
            emitting := h.emitting
            busy := fun _ _ => hbusy (.inl hprocessing)
            requested := fun _ _ => rfl
            shutting := fun _ => hended }
    · apply Base.finish
      exact
        { attached := h.attached
          detached := h.detached
          late := h.late
          quiet := h.quiet
          dropped := h.dropped
          closed := h.closed
          emitting := h.emitting }

theorem Inv.clearWriter (h : s.Inv) : s.clearWriter.Inv where
  attached := h.attached
  detached := h.detached
  late := h.late
  quiet _ := ⟨rfl, rfl, fun _ => rfl⟩
  dropped _ := rfl
  closed _ := .inr rfl
  emitting := h.emitting
  busy := h.busy
  requested := h.requested
  shutting := h.shutting

theorem inv_writerShutdown_of (hidle : s.writer.errorWatch = false → s.Inv)
    (hclear : s.clearWriter.Inv) : s.writerShutdown.Inv := by
  rw [AgentRun.writerShutdown]
  split
  · next herror => exact hidle (by simpa using herror)
  · dsimp only
    split
    · exact hclear
    · split
      · exact
          { attached := hclear.attached
            detached := hclear.detached
            late := hclear.late
            quiet := hclear.quiet
            dropped := hclear.dropped
            closed := hclear.closed
            emitting := hclear.emitting
            busy := hclear.busy
            requested := hclear.requested
            shutting := hclear.shutting }
      · exact (hclear.push .unrefOnShutdown (fun hlate => by cases hlate)).push .flushOnShutdown
          (fun hlate => by cases hlate)

theorem Inv.writerShutdown (h : s.Inv) : s.writerShutdown.Inv :=
  inv_writerShutdown_of (fun _ => h) h.clearWriter

/-- The agent's own handler of `finished` may go when the writer is not watched. -/
theorem Inv.popWriter (h : s.Inv) {stack : List Frame} (hs : s.stack = .finishedWriter :: stack)
    (herror : s.writer.errorWatch = false) : ({ s with stack := stack } : AgentRun).Inv where
  attached := h.attached
  detached := h.detached
  late frame hframe := by
    apply h.late frame
    rw [hs]
    exact List.mem_cons_of_mem _ hframe
  quiet := h.quiet
  dropped := h.dropped
  closed _ := .inr herror
  emitting hemitted := by
    apply (h.emitting hemitted).imp_right
    intro hfinished
    rw [hs] at hfinished
    exact (List.mem_cons.mp hfinished).resolve_left Frame.noConfusion
  busy hreader hbusy := by
    obtain ⟨frame, hframe, hback⟩ := h.busy hreader hbusy
    rw [hs] at hframe
    rcases List.mem_cons.mp hframe with rfl | hframe
    · cases hback
    · exact ⟨frame, hframe, hback⟩
  requested := h.requested
  shutting := h.shutting

/-- Another emission finds no reader. -/
theorem Inv.emitFinished (h : s.Inv) (hreader : s.agent.reader = false) : s.emitFinished.Inv := by
  have hpush := h.push .finished fun _ => hreader
  have hgone {p : Prop} (hset : s.agent.reader = true) : p :=
    absurd (hreader.symm.trans hset) Bool.false_ne_true
  exact
    { attached := hgone
      detached := fun hset => ⟨(h.detached hset).1, (h.detached hset).2.1, Nat.succ_pos _⟩
      late := hpush.late
      quiet := h.quiet
      dropped := h.dropped
      closed := hpush.closed
      emitting := fun _ => .inr List.mem_cons_self
      busy := hgone
      requested := fun _ => hgone
      shutting := h.shutting }

/-- Whatever else changes in the writer, its watches stay as far as they are cleared. -/
theorem Inv.setWriter (h : s.Inv) {writer : WatchedWriter}
    (hquiet : writer.errorWatch = false →
      writer.writeWatch = false ∧ writer.flushWatch = false ∧
        (s.agent.writer = true → writer.loop = false))
    (herror : s.writer.errorWatch = false → writer.errorWatch = false) :
    ({ s with writer := writer } : AgentRun).Inv where
  attached := h.attached
  detached := h.detached
  late := h.late
  quiet := hquiet
  dropped hgone := herror (h.dropped hgone)
  closed hflag := (h.closed hflag).imp_right herror
  emitting := h.emitting
  busy := h.busy
  requested := h.requested
  shutting := h.shutting

theorem ready_of_write {writer writer' : Writer} {packet : Bytes}
    (h : writer.write packet = .ok writer') : writer.loop = true := by
  rw [Writer.write] at h
  split at h
  · cases h
  · split at h
    · cases h
    · next hloop => simpa using hloop

/-- A packet is written only while the writer is watched for errors. -/
theorem Inv.writePacket (h : s.Inv) (packet : Bytes) : (s.writePacket packet).Inv := by
  rw [AgentRun.writePacket]
  split
  · exact h
  · next hwriter =>
      have hwriter : s.agent.writer = true := by simpa using hwriter
      have hset {writer : Writer} (hready : s.writer.loop = true) :
          ({ s with writer := { s.writer with toWriter := writer } } : AgentRun).Inv := by
        apply h.setWriter
        · intro herror
          exact absurd (hready.symm.trans ((h.quiet herror).2.2 hwriter)) Bool.noConfusion
        · exact id
      split
      · exact h
      · next hwrite =>
          split
          · exact hset (ready_of_write hwrite)
          · exact hset (ready_of_write hwrite)

theorem Inv.shutdown (h : s.Inv) : s.shutdown.Inv := by
  rw [AgentRun.shutdown]
  dsimp only
  split
  · next hshutting =>
      have hended := h.shutting hshutting
      exact
        { attached := h.attached
          detached := h.detached
          late := h.late
          quiet := h.quiet
          dropped := h.dropped
          closed := h.closed
          emitting := h.emitting
          busy := h.busy
          requested := fun _ => h.requested hended
          shutting := fun _ => rfl }
  · have hbase : ({ s with
        agent := { s.agent with shuttingDown := true }, ended := true } : AgentRun).Base :=
      { attached := h.attached
        detached := h.detached
        late := h.late
        quiet := h.quiet
        dropped := h.dropped
        closed := h.closed
        emitting := h.emitting }
    split
    · next hreader =>
        have hpush := hbase.push (.shutdownWriter true) (fun hlate => by cases hlate)
        apply hpush.readerShutdown hreader rfl
        intro hbusy
        obtain ⟨frame, hframe, hback⟩ := h.busy hreader hbusy
        exact ⟨frame, List.mem_cons_of_mem _ hframe, hback⟩
    · next hreader =>
        have hreader : s.agent.reader = false := Bool.eq_false_iff.mpr hreader
        have hgone {p : Prop} (hset : s.agent.reader = true) : p :=
          absurd (hreader.symm.trans hset) Bool.false_ne_true
        exact
          { toBase := hbase.push (.shutdownWriter false) fun _ => hreader
            busy := hgone
            requested := fun _ => hgone
            shutting := fun _ => rfl }

theorem Inv.readWatchFunc (h : s.Inv) : s.readWatchFunc.Inv := by
  have hpush (frame : Frame) (hback : frame.comesBack = true) :
      (({ s with reader := { s.reader with processing := true } } : AgentRun).push frame).Inv :=
    { attached := h.attached
      detached := h.detached
      late := (h.push frame fun hlate => by simp [Frame.isLate_of_comesBack hback] at hlate).late
      quiet := h.quiet
      dropped := h.dropped
      closed :=
        (h.push frame fun hlate => by simp [Frame.isLate_of_comesBack hback] at hlate).closed
      emitting :=
        (h.push frame fun hlate => by simp [Frame.isLate_of_comesBack hback] at hlate).emitting
      busy := fun _ _ => ⟨frame, List.mem_cons_self, hback⟩
      requested := h.requested
      shutting := h.shutting }
  rw [AgentRun.readWatchFunc]
  dsimp only
  split
  · exact hpush (.readReturned false) rfl
  · exact hpush .readChars rfl

theorem Inv.readFromChannel (h : s.Inv) {stack : List Frame} (hs : s.stack = .readChars :: stack)
    (result : ReadResult) :
    ({ s with stack := stack } : AgentRun).readFromChannel result |>.Inv := by
  have hmove := h.move hs Frame.noConfusion Frame.noConfusion
    (.readReturned (!result.ioError && !result.eof)) rfl
  rw [AgentRun.readFromChannel]
  dsimp only
  split
  · apply Inv.emitReaderError
    apply Inv.push _ (.flowAfterError result.data) (fun hlate => by cases hlate)
    exact hmove.request ⟨_, List.mem_cons_self, rfl⟩
  · exact hmove.emitFlow result.data

theorem Inv.readReturned (h : s.Inv) {stack : List Frame} {keepCallback : Bool}
    (hs : s.stack = .readReturned keepCallback :: stack) (more : Bool) :
    (({ s with stack := stack } : AgentRun).readReturned keepCallback more).Inv := by
  have hpop := h.toBase.pop hs Frame.noConfusion Frame.noConfusion
  rw [AgentRun.readReturned]
  split
  · exact h.move hs Frame.noConfusion Frame.noConfusion .readChars rfl
  · split
    · next hkeep =>
        have hrequested : s.reader.shutdownRequested = false := by
          simpa using (Bool.and_eq_true_iff.mp hkeep).2
        exact
          { attached := hpop.attached
            detached := hpop.detached
            late := hpop.late
            quiet := hpop.quiet
            dropped := hpop.dropped
            closed := hpop.closed
            emitting := hpop.emitting
            busy := by
              rintro - (hset | hset)
              · cases hset
              · exact absurd (hrequested.symm.trans hset) Bool.false_ne_true
            requested := h.requested
            shutting := h.shutting }
    · apply Base.finish
      exact hpop.push .readFinished (fun hlate => by cases hlate)

theorem Inv.readerErrorWatchFunc (h : s.Inv) (hup err nval : Bool) :
    (s.readerErrorWatchFunc hup err nval).Inv := by
  have hpush := h.push .errorWatch (fun hlate => by cases hlate)
  have hset (requested : Bool) (hkeep : s.reader.shutdownRequested = true → requested = true) :
      ({ s.push .errorWatch with
        reader := { s.reader with shutdownRequested := requested } } : AgentRun).Inv :=
    { attached := h.attached
      detached := h.detached
      late := hpush.late
      quiet := h.quiet
      dropped := h.dropped
      closed := hpush.closed
      emitting := hpush.emitting
      busy := fun _ _ => ⟨.errorWatch, List.mem_cons_self, rfl⟩
      requested := fun hended hreader => hkeep (h.requested hended hreader)
      shutting := h.shutting }
  rw [AgentRun.readerErrorWatchFunc]
  dsimp only
  split
  · exact (hset true fun _ => rfl).emitReaderError
  · apply hset
    intro hrequested
    rw [hrequested, Bool.true_or]

/-- A writer with a live watch is watched for errors. -/
theorem Base.watched (h : s.Base)
    (hlive : s.writer.writeWatch = true ∨ s.writer.flushWatch = true) :
    s.writer.errorWatch = true := by
  by_contra herror
  have hquiet := h.quiet (Bool.eq_false_iff.mpr herror)
  rcases hlive with hlive | hlive
  · exact absurd (hquiet.1.symm.trans hlive) Bool.false_ne_true
  · exact absurd (hquiet.2.1.symm.trans hlive) Bool.false_ne_true

theorem Inv.writeWatchFunc (h : s.Inv) (hlive : s.writer.writeWatch = true) (size : Nat)
    (channelError : Bool) : (s.writeWatchFunc size channelError).Inv := by
  have hset : ({ s with writer :=
      { s.writer with toWriter := (s.writer.writeWatchFunc size).1 } } : AgentRun).Inv := by
    apply h.setWriter
    · intro herror
      exact absurd (herror.symm.trans (h.watched (.inl hlive))) Bool.false_ne_true
    · exact id
  rw [AgentRun.writeWatchFunc]
  dsimp only
  split
  · exact (hset.push .writeError fun hlate => by cases hlate).emitWriter .error rfl
  · exact hset

theorem Inv.flushWatchFunc (h : s.Inv) (status : FlushStatus) : (s.flushWatchFunc status).Inv := by
  have hpush := h.push .flushWatch (fun hlate => by cases hlate)
  cases status with
  | error => exact hpush.emitWriter .error rfl
  | again => exact h
  | normal => exact hpush.emitWriter .flushed rfl

theorem Inv.flushBufferOnShutdown (h : s.Inv) (size : Nat) (channelError flushError : Bool) :
    (s.flushBufferOnShutdown size channelError flushError).Inv := by
  have hset : ({ s with writer :=
      { s.writer with buffer := s.writer.buffer.drop size } } : AgentRun).Inv := by
    apply h.setWriter
    · exact h.quiet
    · exact id
  rw [AgentRun.flushBufferOnShutdown]
  dsimp only
  split
  · exact hset.emitWriter .error rfl
  · split
    · exact (hset.push .flushedOnShutdown fun hlate => by cases hlate).emitWriter .error rfl
    · exact hset.emitWriter .flushed rfl

theorem Inv.writerFinished (h : s.Inv) : s.writerFinished.Inv := by
  rw [AgentRun.writerFinished]
  dsimp only
  split
  · exact
      { attached := h.attached
        detached := h.detached
        late := h.late
        quiet := fun _ => ⟨rfl, rfl, fun hset => by cases hset⟩
        dropped := fun _ => rfl
        closed := fun _ => .inr rfl
        emitting := h.emitting
        busy := h.busy
        requested := h.requested
        shutting := h.shutting }
  · next hwriter =>
      apply h.setWriter
      · exact fun _ => ⟨rfl, rfl, fun hset => absurd hset hwriter⟩
      · exact fun _ => rfl

/-- The agent's own handler of `finished` finds no reader. -/
theorem Inv.handlersReturned (h : s.Inv) {frame : Frame} {stack : List Frame}
    (hs : s.stack = frame :: stack) (hhandlers : frame.isHandlers = true) (decodeError : Bool) :
    (({ s with stack := stack } : AgentRun).handlersReturned decodeError frame).Inv := by
  by_cases hfinished : frame = .finished
  · subst hfinished
    have hreader : s.agent.reader = false := by
      apply h.late .finished
      · rw [hs]
        exact List.mem_cons_self
      · rfl
    have hgone {p : Prop} (hset : s.agent.reader = true) : p :=
      absurd (hreader.symm.trans hset) Bool.false_ne_true
    rw [AgentRun.handlersReturned]
    dsimp only
    rw [if_neg (by show ¬s.agent.reader = true; exact hgone)]
    exact
      { attached := hgone
        detached := h.detached
        late := fun _ _ _ => hreader
        quiet := h.quiet
        dropped := h.dropped
        closed := fun _ => .inl List.mem_cons_self
        emitting := fun _ => .inl rfl
        busy := hgone
        requested := fun _ => hgone
        shutting := h.shutting }
  · have hpop : ({ s with stack := stack } : AgentRun).Inv := by
      apply h.pop hs hfinished
      · rintro rfl
        cases hhandlers
      · cases frame <;> first | rfl | cases hhandlers
    cases frame with
    | flow =>
        rw [AgentRun.handlersReturned]
        split
        · exact hpop.push .error (fun hlate => by cases hlate)
        · exact hpop
    | finished => exact absurd rfl hfinished
    | _ => exact hpop

theorem Inv.proceed (h : s.Inv) {frame : Frame} {stack : List Frame}
    (hs : s.stack = frame :: stack) :
    (({ s with stack := stack } : AgentRun).proceed frame).Inv := by
  have hlate : frame.isLate = true → s.agent.reader = false := by
    apply h.late frame
    rw [hs]
    exact List.mem_cons_self
  have hsame : (({ s with stack := stack } : AgentRun).push frame).Inv := by
    rw [AgentRun.push]
    dsimp only
    rw [← hs]
    exact h
  cases frame with
  | flowAfterError data => exact (h.pop hs Frame.noConfusion Frame.noConfusion rfl).emitFlow data
  | readFinished =>
      have hpop := h.pop hs Frame.noConfusion Frame.noConfusion rfl
      exact
        { attached := hpop.attached
          detached := hpop.detached
          late := hpop.late
          quiet := hpop.quiet
          dropped := hpop.dropped
          closed := hpop.closed
          emitting := hpop.emitting
          busy := by
            rintro hreader (hset | hset)
            · cases hset
            · exact hpop.busy hreader (.inr hset)
          requested := hpop.requested
          shutting := hpop.shutting }
  | errorWatch =>
      apply Base.finish
      apply (h.toBase.pop hs Frame.noConfusion Frame.noConfusion).push
      intro hset
      cases hset
  | errorFinished => exact h.pop hs Frame.noConfusion Frame.noConfusion rfl
  | finishedWriter =>
      rw [AgentRun.proceed]
      split
      · apply inv_writerShutdown_of
        · exact h.popWriter hs
        · exact h.clearWriter.popWriter hs rfl
      · next hwriter => exact h.popWriter hs (h.dropped (Bool.eq_false_iff.mpr hwriter))
  | writeError =>
      apply (h.pop hs Frame.noConfusion Frame.noConfusion rfl).setWriter
      · exact fun herror => ⟨rfl, (h.quiet herror).2⟩
      · exact id
  | flushWatch =>
      apply (h.pop hs Frame.noConfusion Frame.noConfusion rfl).setWriter
      · exact fun herror => ⟨(h.quiet herror).1, rfl, (h.quiet herror).2.2⟩
      · exact id
  | writerErrorWatch => exact (h.pop hs Frame.noConfusion Frame.noConfusion rfl).writerFinished
  | flushedOnShutdown =>
      exact (h.pop hs Frame.noConfusion Frame.noConfusion rfl).emitWriter .flushed rfl
  | unrefOnShutdown =>
      apply (h.pop hs Frame.noConfusion Frame.noConfusion rfl).setWriter
      · exact h.quiet
      · exact id
  | shutdownWriter haveReader =>
      have hpush := (h.pop hs Frame.noConfusion Frame.noConfusion rfl).push
        (.shutdownEnd haveReader)
        hlate
      rw [AgentRun.proceed]
      split
      · exact hpush.writerShutdown
      · exact hpush
  | shutdownEnd haveReader =>
      have hpush := (h.pop hs Frame.noConfusion Frame.noConfusion rfl).push .shutdownDone
        (fun hset => by cases hset)
      rw [AgentRun.proceed]
      split
      · next hemits =>
          apply hpush.emitFinished
          apply hlate
          exact (Bool.and_eq_true_iff.mp hemits).1
      · exact hpush
  | shutdownDone =>
      have hpop := h.pop hs Frame.noConfusion Frame.noConfusion rfl
      exact
        { attached := hpop.attached
          detached := hpop.detached
          late := hpop.late
          quiet := hpop.quiet
          dropped := hpop.dropped
          closed := hpop.closed
          emitting := hpop.emitting
          busy := hpop.busy
          requested := hpop.requested
          shutting := fun hset => by cases hset }
  | _ => exact hsame

theorem inv_step (h : s.Inv) (event : AgentEvent) : (s.step event).Inv := by
  cases event with
  | shutdown =>
      rw [step]
      split
      · exact h.shutdown
      · exact h
  | writePacket packet =>
      rw [step]
      split
      · exact h.writePacket packet
      · exact h
  | readable =>
      rw [step]
      split
      · exact h.readWatchFunc
      · exact h
  | readerError hup err nval =>
      rw [step]
      split
      · exact h.readerErrorWatchFunc hup err nval
      · exact h
  | writable size channelError =>
      rw [step]
      split
      · next hlive => exact h.writeWatchFunc hlive.2 size channelError
      · exact h
  | flushable status =>
      rw [step]
      split
      · exact h.flushWatchFunc status
      · exact h
  | writerError =>
      rw [step]
      split
      · exact (h.push .writerErrorWatch fun hlate => by cases hlate).emitWriter .error rfl
      · exact h
  | readChars result =>
      rw [step]
      split
      · next hs => exact h.readFromChannel hs result
      · exact h
  | buffered more =>
      rw [step]
      split
      · next hs => exact h.readReturned hs more
      · exact h
  | writeOnShutdown size channelError flushError =>
      rw [step]
      split
      · next hs =>
          exact (h.pop hs Frame.noConfusion Frame.noConfusion rfl).flushBufferOnShutdown size
            channelError flushError
      · exact h
  | returnHandlers decodeError =>
      rw [step]
      split
      · next hs =>
          split
          · next hhandlers => exact h.handlersReturned hs hhandlers decodeError
          · exact h
      · exact h
  | proceed =>
      rw [step]
      split
      · next hs => exact h.proceed hs
      · exact h

theorem tame_of_eq {t : AgentRun} (hemitted : t.emitted = s.emitted)
    (hdecoded : t.decoded = s.decoded) : s.Tame t :=
  ⟨hemitted ▸ Nat.le_succ _, fun _ => ⟨hemitted, hdecoded⟩⟩

/-- What is tame may be preceded by what emits and decodes nothing. -/
theorem Tame.of_eq {r t : AgentRun} (h : r.Tame t) (hreader : r.agent.reader = s.agent.reader)
    (hemitted : r.emitted = s.emitted) (hdecoded : r.decoded = s.decoded) : s.Tame t := by
  rw [Tame, hreader, hemitted, hdecoded] at h
  exact h

theorem tame_finish (s : AgentRun) : s.Tame s.finish := by
  rw [finish]
  dsimp only
  split
  · next hreader =>
      have hgone {p : Prop} (hset : s.agent.reader = false) : p :=
        absurd (hset.symm.trans hreader) Bool.false_ne_true
      split
      · exact ⟨Nat.le_succ _, hgone⟩
      · exact ⟨Nat.le_refl _, hgone⟩
  · exact tame_of_eq rfl rfl

theorem tame_readerShutdown (s : AgentRun) : s.Tame s.readerShutdown := by
  rw [readerShutdown]
  split
  · exact tame_of_eq rfl rfl
  · split
    · exact tame_of_eq rfl rfl
    · dsimp only
      split
      · exact tame_of_eq rfl rfl
      · exact (tame_finish _).of_eq rfl rfl rfl

theorem tame_writerShutdown (s : AgentRun) : s.Tame s.writerShutdown := by
  rw [writerShutdown]
  dsimp only
  split_ifs
  · exact tame_of_eq rfl rfl
  · exact tame_of_eq rfl rfl
  · exact tame_of_eq rfl rfl
  · exact tame_of_eq rfl rfl

theorem tame_emitWriter (s : AgentRun) (frame : Frame) : s.Tame (s.emitWriter frame) := by
  rw [emitWriter]
  split
  · exact tame_of_eq rfl rfl
  · exact tame_of_eq rfl rfl

theorem tame_emitReaderError (s : AgentRun) : s.Tame s.emitReaderError := by
  rw [emitReaderError]
  split
  · exact tame_of_eq rfl rfl
  · exact tame_of_eq rfl rfl

theorem tame_emitFlow (s : AgentRun) (data : Bytes) : s.Tame (s.emitFlow data) := by
  rw [emitFlow]
  split
  · next hflow =>
      exact ⟨Nat.le_succ _, fun hset => absurd (hset.symm.trans hflow.2) Bool.false_ne_true⟩
  · exact tame_of_eq rfl rfl

theorem tame_shutdown (s : AgentRun) : s.Tame s.shutdown := by
  rw [shutdown]
  dsimp only
  split
  · exact tame_of_eq rfl rfl
  · split
    · exact (tame_readerShutdown _).of_eq rfl rfl rfl
    · exact tame_of_eq rfl rfl

theorem tame_writePacket (s : AgentRun) (packet : Bytes) : s.Tame (s.writePacket packet) := by
  rw [writePacket]
  split
  · exact tame_of_eq rfl rfl
  · split
    · exact tame_of_eq rfl rfl
    · split
      · exact tame_of_eq rfl rfl
      · exact tame_of_eq rfl rfl

theorem tame_readFromChannel (s : AgentRun) (result : ReadResult) :
    s.Tame (s.readFromChannel result) := by
  rw [readFromChannel]
  dsimp only
  split
  · exact (tame_emitReaderError _).of_eq rfl rfl rfl
  · exact (tame_emitFlow _ _).of_eq rfl rfl rfl

theorem tame_readReturned (s : AgentRun) (keepCallback more : Bool) :
    s.Tame (s.readReturned keepCallback more) := by
  rw [readReturned]
  split
  · exact tame_of_eq rfl rfl
  · split
    · exact tame_of_eq rfl rfl
    · exact (tame_finish _).of_eq rfl rfl rfl

theorem tame_readWatchFunc (s : AgentRun) : s.Tame s.readWatchFunc := by
  rw [readWatchFunc]
  dsimp only
  split
  · exact tame_of_eq rfl rfl
  · exact tame_of_eq rfl rfl

theorem tame_readerErrorWatchFunc (s : AgentRun) (hup err nval : Bool) :
    s.Tame (s.readerErrorWatchFunc hup err nval) := by
  rw [readerErrorWatchFunc]
  dsimp only
  split
  · exact (tame_emitReaderError _).of_eq rfl rfl rfl
  · exact tame_of_eq rfl rfl

theorem tame_writeWatchFunc (s : AgentRun) (size : Nat) (channelError : Bool) :
    s.Tame (s.writeWatchFunc size channelError) := by
  rw [writeWatchFunc]
  dsimp only
  split
  · exact (tame_emitWriter _ _).of_eq rfl rfl rfl
  · exact tame_of_eq rfl rfl

theorem tame_flushWatchFunc (s : AgentRun) (status : FlushStatus) :
    s.Tame (s.flushWatchFunc status) := by
  cases status with
  | error => exact (tame_emitWriter _ _).of_eq rfl rfl rfl
  | again => exact tame_of_eq rfl rfl
  | normal => exact (tame_emitWriter _ _).of_eq rfl rfl rfl

theorem tame_flushBufferOnShutdown (s : AgentRun) (size : Nat) (channelError flushError : Bool) :
    s.Tame (s.flushBufferOnShutdown size channelError flushError) := by
  rw [flushBufferOnShutdown]
  dsimp only
  split
  · exact (tame_emitWriter _ _).of_eq rfl rfl rfl
  · split
    · exact (tame_emitWriter _ _).of_eq rfl rfl rfl
    · exact (tame_emitWriter _ _).of_eq rfl rfl rfl

theorem tame_handlersReturned (s : AgentRun) (decodeError : Bool) (frame : Frame) :
    s.Tame (s.handlersReturned decodeError frame) := by
  cases frame with
  | flow =>
      rw [handlersReturned]
      split
      · exact tame_of_eq rfl rfl
      · exact tame_of_eq rfl rfl
  | finished =>
      rw [handlersReturned]
      dsimp only
      split
      · exact (tame_readerShutdown _).of_eq rfl rfl rfl
      · exact tame_of_eq rfl rfl
  | _ => exact tame_of_eq rfl rfl

theorem tame_proceed (s : AgentRun) {frame : Frame}
    (hsettled : frame = .shutdownEnd false → s.agent.finished = true) :
    s.Tame (s.proceed frame) := by
  cases frame with
  | flowAfterError data => exact tame_emitFlow s data
  | errorWatch => exact (tame_finish _).of_eq rfl rfl rfl
  | finishedWriter =>
      rw [proceed]
      split
      · exact tame_writerShutdown s
      · exact tame_of_eq rfl rfl
  | writerErrorWatch =>
      rw [proceed, writerFinished]
      dsimp only
      split
      · exact tame_of_eq rfl rfl
      · exact tame_of_eq rfl rfl
  | flushedOnShutdown => exact tame_emitWriter s .flushed
  | shutdownWriter haveReader =>
      rw [proceed]
      split
      · exact (tame_writerShutdown _).of_eq rfl rfl rfl
      · exact tame_of_eq rfl rfl
  | shutdownEnd haveReader =>
      rw [proceed]
      split
      · next hemits =>
          have hboth : haveReader = false ∧ s.agent.finished = false := by
            simpa [push] using hemits
          have hfinished := hsettled (by rw [hboth.1])
          exact absurd (hboth.2.symm.trans hfinished) Bool.false_ne_true
      · exact tame_of_eq rfl rfl
  | _ => exact tame_of_eq rfl rfl

theorem tame_step {event : AgentEvent} (hsettled : s.Settled event) : s.Tame (s.step event) := by
  cases event with
  | proceed =>
      rw [step]
      split
      · next frame stack hs =>
          have hframe : frame = .shutdownEnd false → s.agent.finished = true := by
            rintro rfl
            exact hsettled stack hs
          exact (tame_proceed ({ s with stack := stack } : AgentRun) hframe).of_eq rfl rfl rfl
      · exact tame_of_eq rfl rfl
  | shutdown =>
      rw [step]
      split
      · exact tame_shutdown s
      · exact tame_of_eq rfl rfl
  | writePacket packet =>
      rw [step]
      split
      · exact tame_writePacket s packet
      · exact tame_of_eq rfl rfl
  | readable =>
      rw [step]
      split
      · exact tame_readWatchFunc s
      · exact tame_of_eq rfl rfl
  | readerError hup err nval =>
      rw [step]
      split
      · exact tame_readerErrorWatchFunc s hup err nval
      · exact tame_of_eq rfl rfl
  | writable size channelError =>
      rw [step]
      split
      · exact tame_writeWatchFunc s size channelError
      · exact tame_of_eq rfl rfl
  | flushable status =>
      rw [step]
      split
      · exact tame_flushWatchFunc s status
      · exact tame_of_eq rfl rfl
  | writerError =>
      rw [step]
      split
      · exact (tame_emitWriter _ _).of_eq rfl rfl rfl
      · exact tame_of_eq rfl rfl
  | readChars result =>
      rw [step]
      split
      · exact (tame_readFromChannel _ result).of_eq rfl rfl rfl
      · exact tame_of_eq rfl rfl
  | buffered more =>
      rw [step]
      split
      · exact (tame_readReturned _ _ more).of_eq rfl rfl rfl
      · exact tame_of_eq rfl rfl
  | writeOnShutdown size channelError flushError =>
      rw [step]
      split
      · exact (tame_flushBufferOnShutdown _ size channelError flushError).of_eq rfl rfl rfl
      · exact tame_of_eq rfl rfl
  | returnHandlers decodeError =>
      rw [step]
      split
      · split
        · exact (tame_handlersReturned _ decodeError _).of_eq rfl rfl rfl
        · exact tame_of_eq rfl rfl
      · exact tame_of_eq rfl rfl

/-- Behind the emission and its handlers nothing is watched. -/
theorem Inv.unwatched (h : s.Inv) (hemitted : 0 < s.emitted) (hfinished : .finished ∉ s.stack)
    (hwriter : .finishedWriter ∉ s.stack) : s.Unwatched := by
  have hreader : s.agent.reader = false := by
    apply Bool.eq_false_iff.mpr
    intro hset
    have hnone := (h.attached hset).2.1
    omega
  have hdetached := h.detached hreader
  have hquiet := h.quiet ((h.closed ((h.emitting hemitted).resolve_right hfinished)).resolve_left
    hwriter)
  exact ⟨hdetached.1, hdetached.2.1, hquiet.1, hquiet.2.1,
    (h.closed ((h.emitting hemitted).resolve_right hfinished)).resolve_left hwriter⟩

/-- What was asked for is done when no callback of the reader is left. -/
theorem Inv.emitted_of_ended (h : s.Inv) (hended : s.ended = true)
    (hstack : ∀ frame ∈ s.stack, frame.isReaderCallback = false) : 0 < s.emitted := by
  cases hreader : s.agent.reader with
  | false => exact (h.detached hreader).2.2
  | true =>
      obtain ⟨frame, hframe, hback⟩ := h.busy hreader (.inr (h.requested hended hreader))
      have hcallback := Frame.isReaderCallback_of_comesBack hback
      rw [hstack frame hframe] at hcallback
      cases hcallback

/-- A shutdown call that ends too early emits `finished` once more. -/
theorem emitted_step_shutdownEnd {stack : List Frame} (hs : s.stack = .shutdownEnd false :: stack)
    (hfinished : s.agent.finished = false) : (s.step .proceed).emitted = s.emitted + 1 := by
  rw [step, hs]
  dsimp only
  rw [proceed, if_pos (by simp [push, hfinished])]
  rfl

/-- One event is as it should be exactly when it is settled. -/
theorem ends_iff (h : s.Inv) (honce : s.emitted ≤ 1) (event : AgentEvent) :
    s.Ends event ↔ s.Settled event := by
  constructor
  · intro hends
    cases event with
    | proceed =>
        intro stack hs
        by_contra hfinished
        have hmore := emitted_step_shutdownEnd hs (Bool.eq_false_iff.mpr hfinished)
        have hreader : s.agent.reader = false := by
          apply h.late (.shutdownEnd false)
          · rw [hs]
            exact List.mem_cons_self
          · rfl
        have hpos := (h.detached hreader).2.2
        have hle := hends.1
        omega
    | _ => trivial
  · intro hsettled
    have hnext := inv_step h event
    have htame := tame_step hsettled
    refine ⟨?_, ?_, hnext.unwatched, hnext.emitted_of_ended⟩
    · cases hreader : s.agent.reader with
      | false => exact (htame.2 hreader).1 ▸ honce
      | true =>
          have hnone := (h.attached hreader).2.1
          have hle := htame.1
          omega
    · intro hemitted
      apply And.right
      apply htame.2
      apply Bool.eq_false_iff.mpr
      intro hset
      have hnone := (h.attached hset).2.1
      omega

end Steps

/-- In every run of a started agent, the agent comes to its end as it should exactly when every
shutdown call that found no reader ends behind the agent's own handler of `finished`. -/
theorem ends_along_iff (events : List AgentEvent) :
    Along step Ends started events ↔ Along step Settled started events := by
  apply @Along.congr_of_invariant _ _ step fun s => s.Inv ∧ s.emitted ≤ 1
  · exact fun s event h hends => ⟨inv_step h.1 event, hends.1⟩
  · exact fun s event h => ends_iff h.1 h.2 event
  · exact ⟨inv_started, Nat.zero_le 1⟩

/-- A handler of `finished` that shuts the agent down when the other end has closed the connection
makes the agent emit `finished` again. -/
theorem not_ends_along_finished :
    ¬∀ events : List AgentEvent, Along step Ends started events := by
  intro h
  have hrun := h [.readable, .readChars ⟨true, false, []⟩, .buffered false, .shutdown, .proceed,
    .proceed]
  have honce := hrun.2.2.2.2.2.1.1
  revert honce
  decide

end AgentRun

end MilterManager.Agent
