import MilterManager.Base.Runs
import MilterManager.Core.Headers

/-!
# The writer

`MilterWriter`, from `milter/core/milter-writer.c`: the buffer, the flush point and the two watches,
with the callbacks that the event loop makes of them.
-/

namespace MilterManager.Agent

open MilterManager.Base MilterManager.Core

/-- `MilterWriterPrivate`; of the identifiers of the watches only whether they are set. -/
structure Writer where
  ioChannel : Bool
  loop : Bool
  buffer : Bytes
  flushPoint : Nat
  writeWatch : Bool
  flushWatch : Bool
deriving DecidableEq, Repr

/-- The errors of `milter_writer_write` and `milter_writer_flush`. -/
inductive WriterError where
  | noChannel
  | notReady
deriving DecidableEq, Repr

namespace Writer

/-- `milter_writer_init`, with the channel that `milter_writer_io_channel_new` gives it. -/
def new (ioChannel : Bool) : Writer := ⟨ioChannel, false, [], 0, false, false⟩

/-- `milter_writer_start`, `milter/core/milter-writer.c:579`. -/
def start (writer : Writer) : Writer :=
  if writer.ioChannel then { writer with loop := true } else writer

/-- `request_flush`, `milter/core/milter-writer.c:318`. -/
def requestFlush (writer : Writer) : Writer := { writer with flushWatch := true }

/-- `milter_writer_write`, `milter/core/milter-writer.c:427`. -/
def write (writer : Writer) (chunk : Bytes) : Except WriterError Writer :=
  if !writer.ioChannel then .error .noChannel
  else if !writer.loop then .error .notReady
  else if chunk = [] then .ok writer
  else .ok { writer with buffer := writer.buffer ++ chunk, writeWatch := true }

/-- `milter_writer_flush`, `milter/core/milter-writer.c:479`. -/
def flush (writer : Writer) : Except WriterError Writer :=
  if !writer.ioChannel then .error .noChannel
  else if !writer.loop then .error .notReady
  else if writer.writeWatch then .ok { writer with flushPoint := writer.buffer.length }
  else .ok writer.requestFlush

/-- `write_watch_func`, `milter/core/milter-writer.c:338`, when the channel takes up to `size`
bytes: the writer and the bytes written. -/
def writeWatchFunc (writer : Writer) (size : Nat) : Writer × Bytes :=
  if writer.buffer = [] then ({ writer with writeWatch := false }, [])
  else
    let writtenSize := min size writer.buffer.length
    if writtenSize = 0 then (writer, [])
    else
      let needFlush := 0 < writer.flushPoint ∧ writer.flushPoint ≤ writtenSize
      let writer' := { writer with
        buffer := writer.buffer.drop writtenSize
        flushPoint := writer.flushPoint - writtenSize }
      (if needFlush ∧ writer.loop then writer'.requestFlush else writer',
        writer.buffer.take writtenSize)

end Writer

/-- The calls that a user of the writer makes. -/
inductive WriterCall where
  | write (chunk : Bytes)
  | flush
deriving DecidableEq, Repr

/-- What happens to a writer. A flush callback finds that the channel cannot flush yet, or emits
`flushed`, whose handler makes calls. -/
inductive WriterEvent where
  | start
  | call (call : WriterCall)
  | writable (size : Nat)
  | flushAgain
  | flushed (handler : List WriterCall)
deriving DecidableEq, Repr

/-- A writer with the bytes on its channel, the bytes of all writes and the flush requests that are
not answered: for each the number of bytes written before it. -/
structure WriterRun where
  writer : Writer
  channel : Bytes
  written : Bytes
  owed : List Nat
deriving DecidableEq, Repr

namespace WriterRun

/-- A new writer. -/
def new (ioChannel : Bool) : WriterRun := ⟨.new ioChannel, [], [], []⟩

/-- A call of a user; one that fails does nothing. -/
def call (s : WriterRun) : WriterCall → WriterRun
  | .write chunk =>
      match s.writer.write chunk with
      | .error _ => s
      | .ok writer => { s with writer := writer, written := s.written ++ chunk }
  | .flush =>
      match s.writer.flush with
      | .error _ => s
      | .ok writer => { s with writer := writer, owed := s.owed ++ [s.written.length] }

/-- `flushed` answers every request whose bytes are on the channel. -/
def answer (s : WriterRun) : WriterRun :=
  { s with owed := s.owed.filter fun mark => s.channel.length < mark }

/-- `flush_watch_func`, `milter/core/milter-writer.c:270`, when it emits `flushed`: the watch is
cleared behind the handler. -/
def flushWatchFunc (s : WriterRun) (handler : List WriterCall) : WriterRun :=
  let s := handler.foldl call s.answer
  { s with writer := { s.writer with flushWatch := false } }

/-- A callback is made only while its watch is installed. -/
def step (s : WriterRun) : WriterEvent → WriterRun
  | .start => { s with writer := s.writer.start }
  | .call call => s.call call
  | .writable size =>
      if s.writer.writeWatch then
        { s with
          writer := (s.writer.writeWatchFunc size).1
          channel := s.channel ++ (s.writer.writeWatchFunc size).2 }
      else s
  | .flushAgain => s
  | .flushed handler => if s.writer.flushWatch then s.flushWatchFunc handler else s

/-- A flush watch is installed, or the flush point covers the request and the write watch lives. -/
def Covered (s : WriterRun) (mark : Nat) : Prop :=
  s.writer.flushWatch = true ∨
    s.writer.writeWatch = true ∧ 0 < s.writer.flushPoint ∧
      mark ≤ s.channel.length + s.writer.flushPoint

/-- The event makes the writer emit `flushed`. -/
def Emits (s : WriterRun) (event : WriterEvent) : Prop :=
  s.writer.flushWatch = true ∧ ∃ handler, event = .flushed handler

/-- What is on the channel was written in that order; `flushed` is emitted for a request whose bytes
are on the channel; and every request that is not answered is covered. -/
def Sound (s : WriterRun) (event : WriterEvent) : Prop :=
  (s.step event).channel <+: (s.step event).written ∧
    (s.Emits event → ∃ mark ∈ s.owed, mark ≤ s.channel.length) ∧
    ∀ mark ∈ (s.step event).owed, (s.step event).Covered mark

/-- The bytes that wait in a buffer behind some calls. -/
def waiting (buffer : Bytes) (calls : List WriterCall) : Bytes :=
  calls.foldl (fun buffer call =>
    match call with
    | .write chunk => buffer ++ chunk
    | .flush => buffer) buffer

/-- The last flush call of some calls finds bytes in the buffer. -/
def LastFindsBytes (buffer : Bytes) (calls : List WriterCall) : Prop :=
  ∀ before after, calls = before ++ .flush :: after → .flush ∉ after → waiting buffer before ≠ []

/-- A flush call does not meet a write watch that lives on with an empty buffer, and a handler of
`flushed` does not leave behind a flush call without bytes to write. -/
def Answerable (s : WriterRun) : WriterEvent → Prop
  | .call .flush =>
      ¬(s.writer.writeWatch = true ∧ s.writer.buffer = [] ∧ s.writer.flushWatch = false)
  | .flushed handler => s.writer.flushWatch = true → LastFindsBytes s.writer.buffer handler
  | _ => True

/-- What holds in every state, also between the calls of a handler. -/
structure Inv (s : WriterRun) : Prop where
  bytes : s.channel ++ s.writer.buffer = s.written
  point : s.writer.flushPoint ≤ s.writer.buffer.length
  live : s.writer.buffer ≠ [] → s.writer.writeWatch = true
  ready : s.writer.writeWatch = true ∨ s.writer.flushWatch = true →
    s.writer.ioChannel = true ∧ s.writer.loop = true
  beyond : ∀ mark ∈ s.owed, mark ≤ s.channel.length + s.writer.flushPoint
  pointed : 0 < s.writer.flushPoint → s.channel.length + s.writer.flushPoint ∈ s.owed

/-- An installed flush watch has a request to answer. -/
def Due (s : WriterRun) : Prop :=
  s.writer.flushWatch = true → ∃ mark ∈ s.owed, mark ≤ s.channel.length

theorem inv_new (ioChannel : Bool) : (new ioChannel).Inv where
  bytes := rfl
  point := Nat.le_refl 0
  live h := absurd rfl h
  ready h := by simp [new, Writer.new] at h
  beyond _ h := absurd h List.not_mem_nil
  pointed h := absurd h (Nat.lt_irrefl 0)

section Calls

variable {s : WriterRun}

/-- A writer that refuses a call is not ready, and then nothing changes. -/
theorem call_write (s : WriterRun) (chunk : Bytes) :
    s.call (.write chunk) =
      if s.writer.ioChannel = true ∧ s.writer.loop = true then
        { s with
          writer :=
            if chunk = [] then s.writer
            else { s.writer with buffer := s.writer.buffer ++ chunk, writeWatch := true }
          written := s.written ++ chunk }
      else s := by
  rw [call, Writer.write]
  cases hchannel : s.writer.ioChannel <;> cases hloop : s.writer.loop <;>
    by_cases hchunk : chunk = [] <;> simp [hchannel, hloop, hchunk]

theorem call_flush (s : WriterRun) :
    s.call .flush =
      if s.writer.ioChannel = true ∧ s.writer.loop = true then
        { s with
          writer :=
            if s.writer.writeWatch then { s.writer with flushPoint := s.writer.buffer.length }
            else s.writer.requestFlush
          owed := s.owed ++ [s.written.length] }
      else s := by
  rw [call, Writer.flush]
  cases hchannel : s.writer.ioChannel <;> cases hloop : s.writer.loop <;>
    cases hwatch : s.writer.writeWatch <;> simp [hchannel, hloop, hwatch]

theorem inv_call_write (h : s.Inv) (chunk : Bytes) : (s.call (.write chunk)).Inv := by
  rw [call_write]
  by_cases hready : s.writer.ioChannel = true ∧ s.writer.loop = true
  · rw [if_pos hready]
    by_cases hchunk : chunk = []
    · rw [if_pos hchunk, hchunk, List.append_nil]
      exact h
    · rw [if_neg hchunk]
      exact
        { bytes := by rw [← List.append_assoc, h.bytes]
          point := by
            have hpoint := h.point
            show s.writer.flushPoint ≤ (s.writer.buffer ++ chunk).length
            rw [List.length_append]
            omega
          live := fun _ => rfl
          ready := fun _ => hready
          beyond := h.beyond
          pointed := h.pointed }
  · rw [if_neg hready]
    exact h

theorem inv_call_flush (h : s.Inv) : (s.call .flush).Inv := by
  have hbytes : s.written.length = s.channel.length + s.writer.buffer.length := by
    rw [← h.bytes, List.length_append]
  rw [call_flush]
  by_cases hready : s.writer.ioChannel = true ∧ s.writer.loop = true
  · rw [if_pos hready]
    have hold (mark : Nat) (hmark : mark ∈ s.owed) : mark ≤ s.written.length := by
      have hbeyond := h.beyond mark hmark
      have hpoint := h.point
      omega
    cases hwatch : s.writer.writeWatch with
    | true =>
        rw [if_pos rfl]
        exact
          { bytes := h.bytes
            point := Nat.le_refl _
            live := h.live
            ready := fun _ => hready
            beyond := by
              intro mark hmark
              show mark ≤ s.channel.length + s.writer.buffer.length
              rw [← hbytes]
              rcases List.mem_append.mp hmark with hmark | hmark
              · exact hold mark hmark
              · exact Nat.le_of_eq (List.mem_singleton.mp hmark)
            pointed := by
              intro _
              show s.channel.length + s.writer.buffer.length ∈ s.owed ++ [s.written.length]
              rw [← hbytes]
              exact List.mem_append_right _ (List.mem_singleton_self _) }
    | false =>
        rw [if_neg Bool.false_ne_true]
        have hempty : s.writer.buffer = [] := by
          by_contra hbuffer
          rw [h.live hbuffer] at hwatch
          cases hwatch
        exact
          { bytes := h.bytes
            point := h.point
            live := h.live
            ready := fun _ => hready
            beyond := by
              intro mark hmark
              show mark ≤ s.channel.length + s.writer.flushPoint
              rw [hempty, List.length_nil] at hbytes
              rcases List.mem_append.mp hmark with hmark | hmark
              · exact h.beyond mark hmark
              · rw [List.mem_singleton.mp hmark]
                omega
            pointed := fun hpoint => List.mem_append_left _ (h.pointed hpoint) }
  · rw [if_neg hready]
    exact h

theorem inv_call (h : s.Inv) (call : WriterCall) : (s.call call).Inv := by
  cases call with
  | write chunk => exact inv_call_write h chunk
  | flush => exact inv_call_flush h

theorem inv_foldl_call (h : s.Inv) (calls : List WriterCall) : (calls.foldl call s).Inv := by
  induction calls generalizing s with
  | nil => exact h
  | cons call calls ih => exact ih (inv_call h call)

/-- Calls put nothing on the channel and clear no watch. -/
theorem frame_call (s : WriterRun) (call : WriterCall) :
    (s.call call).channel = s.channel ∧
      (s.writer.flushWatch = true → (s.call call).writer.flushWatch = true) ∧
      (s.call call).writer.ioChannel = s.writer.ioChannel ∧
      (s.call call).writer.loop = s.writer.loop ∧ s.owed ⊆ (s.call call).owed := by
  cases call with
  | write chunk =>
      rw [call_write]
      split
      · split <;> simp
      · simp
  | flush =>
      rw [call_flush]
      split
      · split <;> simp [Writer.requestFlush]
      · simp

/-- No request is left to a flush point of zero. -/
def Waiting (s : WriterRun) : Prop := s.owed ≠ [] → 0 < s.writer.flushPoint

theorem covered_iff (h : s.Inv) :
    (∀ mark ∈ s.owed, s.Covered mark) ↔ s.writer.flushWatch = true ∨ s.Waiting := by
  cases hflush : s.writer.flushWatch with
  | true => exact iff_of_true (fun mark _ => .inl hflush) (.inl rfl)
  | false =>
      simp only [Covered, hflush, Bool.false_eq_true, false_or]
      constructor
      · intro hall howed
        obtain ⟨mark, hmark⟩ := List.exists_mem_of_ne_nil _ howed
        exact (hall mark hmark).2.1
      · intro hwaiting mark hmark
        have hpoint := hwaiting (List.ne_nil_of_mem hmark)
        have hbuffer : s.writer.buffer ≠ [] := by
          intro hempty
          have hle := h.point
          rw [hempty, List.length_nil] at hle
          omega
        exact ⟨h.live hbuffer, hpoint, h.beyond mark hmark⟩

/-- A flush call while both watches may be installed leaves its request to the flush point. -/
theorem waiting_call_flush (h : s.Inv)
    (hready : s.writer.ioChannel = true ∧ s.writer.loop = true) :
    (s.call .flush).Waiting ↔ s.writer.buffer ≠ [] := by
  have hpoint := h.point
  rw [call_flush, if_pos hready, Waiting]
  cases hwatch : s.writer.writeWatch with
  | true => simp [List.length_pos_iff]
  | false =>
      have hempty : s.writer.buffer = [] := by
        by_contra hbuffer
        rw [h.live hbuffer] at hwatch
        cases hwatch
      rw [hempty, List.length_nil] at hpoint
      simp [hempty, Writer.requestFlush]
      omega

theorem waiting_call_write (chunk : Bytes) : (s.call (.write chunk)).Waiting ↔ s.Waiting := by
  rw [call_write]
  split
  · split <;> exact Iff.rfl
  · exact Iff.rfl

theorem buffer_foldl_call (hready : s.writer.ioChannel = true ∧ s.writer.loop = true)
    (calls : List WriterCall) :
    (calls.foldl call s).writer.buffer = waiting s.writer.buffer calls := by
  induction calls generalizing s with
  | nil => rfl
  | cons call calls ih =>
      have hframe := frame_call s call
      have hnext : (s.call call).writer.ioChannel = true ∧ (s.call call).writer.loop = true := by
        rw [hframe.2.2.1, hframe.2.2.2.1]
        exact hready
      rw [List.foldl_cons, ih hnext, waiting, waiting, List.foldl_cons]
      congr 1
      cases call with
      | write chunk =>
          rw [call_write, if_pos hready]
          by_cases hchunk : chunk = []
          · simp [hchunk]
          · simp [hchunk]
      | flush =>
          rw [call_flush, if_pos hready]
          cases s.writer.writeWatch <;> rfl

theorem ready_foldl_call (calls : List WriterCall) :
    (calls.foldl call s).writer.ioChannel = s.writer.ioChannel ∧
      (calls.foldl call s).writer.loop = s.writer.loop := by
  induction calls generalizing s with
  | nil => exact ⟨rfl, rfl⟩
  | cons call calls ih =>
      have hframe := frame_call s call
      rw [List.foldl_cons, ih.1, ih.2, hframe.2.2.1, hframe.2.2.2.1]
      exact ⟨rfl, rfl⟩

theorem lastFindsBytes_append_write (buffer chunk : Bytes) (calls : List WriterCall) :
    LastFindsBytes buffer (calls ++ [.write chunk]) ↔ LastFindsBytes buffer calls := by
  constructor
  · intro h before after hcalls hafter
    apply h before (after ++ [.write chunk])
    · rw [hcalls, List.append_assoc, List.cons_append]
    · simpa using hafter
  · intro h before after hcalls hafter
    rcases List.eq_nil_or_concat' after with rfl | ⟨rest, last, rfl⟩
    · have hlast := congrArg List.getLast? hcalls
      simp at hlast
    · rw [← List.cons_append, ← List.append_assoc] at hcalls
      apply h before rest (List.append_inj_left' hcalls rfl)
      intro hmem
      exact hafter (List.mem_append_left _ hmem)

theorem lastFindsBytes_append_flush (buffer : Bytes) (calls : List WriterCall) :
    LastFindsBytes buffer (calls ++ [.flush]) ↔ waiting buffer calls ≠ [] := by
  constructor
  · intro h
    exact h calls [] rfl List.not_mem_nil
  · intro h before after hcalls hafter
    rcases List.eq_nil_or_concat' after with rfl | ⟨rest, last, rfl⟩
    · rw [← List.append_inj_left' hcalls rfl]
      exact h
    · rw [← List.cons_append, ← List.append_assoc] at hcalls
      rw [← (List.append_inj' hcalls rfl).2] at hafter
      exact absurd (List.mem_append_right _ List.mem_cons_self) hafter

/-- The calls of a handler leave all requests to the flush point exactly when the last flush call
found bytes in the buffer. -/
theorem waiting_foldl_call_iff (h : s.Inv) (hwaiting : s.Waiting)
    (hready : s.writer.ioChannel = true ∧ s.writer.loop = true) (calls : List WriterCall) :
    (calls.foldl call s).Waiting ↔ LastFindsBytes s.writer.buffer calls := by
  induction calls using List.reverseRecOn with
  | nil =>
      apply iff_of_true hwaiting
      intro before after hcalls
      simp at hcalls
  | append_singleton calls call ih =>
      have hinv := inv_foldl_call h calls
      have hstill := ready_foldl_call (s := s) calls
      rw [List.foldl_append, List.foldl_cons, List.foldl_nil]
      cases call with
      | write chunk => rw [waiting_call_write, lastFindsBytes_append_write, ih]
      | flush =>
          rw [lastFindsBytes_append_flush, waiting_call_flush hinv, buffer_foldl_call hready]
          rw [hstill.1, hstill.2]
          exact hready

end Calls

section Step

variable {s : WriterRun}

theorem writeWatchFunc_of_empty (hbuffer : s.writer.buffer = []) (size : Nat) :
    s.writer.writeWatchFunc size = ({ s.writer with writeWatch := false }, []) := by
  rw [Writer.writeWatchFunc, if_pos hbuffer]

/-- What a write callback does to a buffer that is not empty. -/
theorem writeWatchFunc_of_ne (hbuffer : s.writer.buffer ≠ []) (size : Nat) :
    (s.writer.writeWatchFunc size).2 = s.writer.buffer.take size ∧
      (s.writer.writeWatchFunc size).1 =
        { s.writer with
          buffer := s.writer.buffer.drop size
          flushPoint := s.writer.flushPoint - min size s.writer.buffer.length
          flushWatch := s.writer.flushWatch ||
            decide (0 < s.writer.flushPoint ∧
              s.writer.flushPoint ≤ min size s.writer.buffer.length ∧
              s.writer.loop = true) } := by
  have hlength : 0 < s.writer.buffer.length := List.length_pos_of_ne_nil hbuffer
  have htake : s.writer.buffer.take (min size s.writer.buffer.length) =
      s.writer.buffer.take size := by
    rw [List.take_eq_take_iff]
    omega
  have hdrop : s.writer.buffer.drop (min size s.writer.buffer.length) =
      s.writer.buffer.drop size := by
    rcases Nat.le_total size s.writer.buffer.length with hle | hle
    · rw [Nat.min_eq_left hle]
    · rw [Nat.min_eq_right hle, List.drop_length, List.drop_of_length_le hle]
  rw [Writer.writeWatchFunc, if_neg hbuffer]
  dsimp only
  by_cases hzero : min size s.writer.buffer.length = 0
  · have hsize : size = 0 := by omega
    subst hsize
    rw [if_pos hzero, hzero]
    constructor
    · rw [List.take_zero]
    · have hnone : ¬(0 < s.writer.flushPoint ∧ s.writer.flushPoint ≤ 0 ∧ s.writer.loop = true) := by
        omega
      rw [List.drop_zero, Nat.sub_zero, decide_eq_false hnone, Bool.or_false]
  · rw [if_neg hzero, htake, hdrop]
    refine ⟨rfl, ?_⟩
    by_cases hflush : 0 < s.writer.flushPoint ∧
        s.writer.flushPoint ≤ min size s.writer.buffer.length ∧ s.writer.loop = true
    · rw [if_pos ⟨⟨hflush.1, hflush.2.1⟩, hflush.2.2⟩, decide_eq_true hflush, Bool.or_true]
      rfl
    · rw [if_neg fun h => hflush ⟨h.1.1, h.1.2, h.2⟩, decide_eq_false hflush, Bool.or_false]

theorem inv_writable (h : s.Inv) (size : Nat) : (s.step (.writable size)).Inv := by
  rw [step]
  cases hwatch : s.writer.writeWatch with
  | false =>
      rw [if_neg Bool.false_ne_true]
      exact h
  | true =>
      have hready := h.ready (.inl hwatch)
      rw [if_pos rfl]
      by_cases hbuffer : s.writer.buffer = []
      · rw [writeWatchFunc_of_empty hbuffer, List.append_nil]
        exact
          { bytes := h.bytes
            point := h.point
            live := fun hne => absurd hbuffer hne
            ready := fun _ => hready
            beyond := h.beyond
            pointed := h.pointed }
      · have hfunc := writeWatchFunc_of_ne hbuffer size
        have hpoint := h.point
        rw [hfunc.1, hfunc.2]
        have hlength : (s.channel ++ s.writer.buffer.take size).length =
            s.channel.length + min size s.writer.buffer.length := by
          rw [List.length_append, List.length_take]
        exact
          { bytes := by
              show (s.channel ++ s.writer.buffer.take size) ++ s.writer.buffer.drop size = s.written
              rw [List.append_assoc, List.take_append_drop]
              exact h.bytes
            point := by
              show s.writer.flushPoint - min size s.writer.buffer.length ≤
                (s.writer.buffer.drop size).length
              rw [List.length_drop]
              omega
            live := fun _ => hwatch
            ready := fun _ => hready
            beyond := by
              intro mark hmark
              have hbeyond := h.beyond mark hmark
              show mark ≤ (s.channel ++ s.writer.buffer.take size).length +
                (s.writer.flushPoint - min size s.writer.buffer.length)
              rw [hlength]
              omega
            pointed := by
              intro hpositive
              have hmem := h.pointed
              show (s.channel ++ s.writer.buffer.take size).length +
                (s.writer.flushPoint - min size s.writer.buffer.length) ∈ s.owed
              have hsum : (s.channel ++ s.writer.buffer.take size).length +
                  (s.writer.flushPoint - min size s.writer.buffer.length) =
                  s.channel.length + s.writer.flushPoint := by
                rw [hlength]
                change 0 < s.writer.flushPoint - min size s.writer.buffer.length at hpositive
                omega
              rw [hsum]
              apply hmem
              change 0 < s.writer.flushPoint - min size s.writer.buffer.length at hpositive
              omega }

theorem inv_answer (h : s.Inv) : s.answer.Inv where
  bytes := h.bytes
  point := h.point
  live := h.live
  ready := h.ready
  beyond mark hmark := h.beyond mark (List.mem_of_mem_filter hmark)
  pointed hpoint := by
    apply List.mem_filter.mpr ⟨h.pointed hpoint, ?_⟩
    have hlt : s.channel.length < s.channel.length + s.writer.flushPoint :=
      Nat.lt_add_of_pos_right hpoint
    simpa using hlt

theorem inv_flushWatchFunc (h : s.Inv) (handler : List WriterCall) :
    (s.flushWatchFunc handler).Inv := by
  have hcalls := inv_foldl_call (inv_answer h) handler
  exact
    { bytes := hcalls.bytes
      point := hcalls.point
      live := hcalls.live
      ready := by
        intro hwatch
        apply hcalls.ready
        apply Or.inl
        simpa [flushWatchFunc] using hwatch
      beyond := hcalls.beyond
      pointed := hcalls.pointed }

/-- No event breaks the invariant. -/
theorem inv_step (h : s.Inv) (event : WriterEvent) : (s.step event).Inv := by
  cases event with
  | start =>
      rw [step, Writer.start]
      split
      · next hchannel =>
          exact
            { bytes := h.bytes
              point := h.point
              live := h.live
              ready := fun _ => ⟨hchannel, rfl⟩
              beyond := h.beyond
              pointed := h.pointed }
      · exact h
  | call call => exact inv_call h call
  | writable size => exact inv_writable h size
  | flushAgain => exact h
  | flushed handler =>
      rw [step]
      split
      · exact inv_flushWatchFunc h handler
      · exact h

/-- A flush watch is only ever installed for a request whose bytes are on the channel. -/
theorem due_step (h : s.Inv) (hdue : s.Due) (event : WriterEvent) : (s.step event).Due := by
  cases event with
  | start =>
      rw [step, Writer.start]
      split
      · exact hdue
      · exact hdue
  | call call =>
      intro hwatch
      cases hbefore : s.writer.flushWatch with
      | true =>
          obtain ⟨mark, hmark, hle⟩ := hdue hbefore
          have hframe := frame_call s call
          have hchannel : (s.step (.call call)).channel = s.channel := hframe.1
          rw [hchannel]
          exact ⟨mark, hframe.2.2.2.2 hmark, hle⟩
      | false =>
          -- Only a flush call without a write watch installs one, and then the buffer is empty.
          cases call with
          | write chunk =>
              exfalso
              revert hwatch
              rw [step, call_write]
              split
              · split <;> simp [hbefore]
              · simp [hbefore]
          | flush =>
              revert hwatch
              rw [step, call_flush]
              split
              · cases hwrite : s.writer.writeWatch with
                | true => simp [hbefore]
                | false =>
                    intro _
                    have hempty : s.writer.buffer = [] := by
                      by_contra hbuffer
                      rw [h.live hbuffer] at hwrite
                      cases hwrite
                    have hbytes := h.bytes
                    rw [hempty, List.append_nil] at hbytes
                    refine ⟨s.written.length, by simp, ?_⟩
                    show s.written.length ≤ s.channel.length
                    exact Nat.le_of_eq (congrArg List.length hbytes.symm)
              · simp [hbefore]
  | writable size =>
      rw [step]
      split
      · by_cases hbuffer : s.writer.buffer = []
        · rw [writeWatchFunc_of_empty hbuffer, List.append_nil]
          exact hdue
        · have hfunc := writeWatchFunc_of_ne hbuffer size
          have hlength : (s.channel ++ s.writer.buffer.take size).length =
              s.channel.length + min size s.writer.buffer.length := by
            rw [List.length_append, List.length_take]
          rw [hfunc.1, hfunc.2]
          intro hwatch
          rcases Bool.or_eq_true_iff.mp hwatch with hbefore | hnow
          · obtain ⟨mark, hmark, hle⟩ := hdue hbefore
            refine ⟨mark, hmark, ?_⟩
            show mark ≤ (s.channel ++ s.writer.buffer.take size).length
            rw [hlength]
            omega
          · have hflush := of_decide_eq_true hnow
            refine ⟨s.channel.length + s.writer.flushPoint, h.pointed hflush.1, ?_⟩
            show s.channel.length + s.writer.flushPoint ≤
              (s.channel ++ s.writer.buffer.take size).length
            rw [hlength]
            omega
      · exact hdue
  | flushAgain => exact hdue
  | flushed handler =>
      rw [step]
      split
      · intro hwatch
        cases hwatch
      · exact hdue

end Step

section Flushes

variable {s : WriterRun}

/-- Every request is covered. -/
def AllCovered (s : WriterRun) : Prop := ∀ mark ∈ s.owed, s.Covered mark

theorem allCovered_call_write (h : s.Inv) (hcovered : s.AllCovered) (chunk : Bytes) :
    (s.call (.write chunk)).AllCovered := by
  have hframe := frame_call s (.write chunk)
  apply (covered_iff (inv_call h _)).mpr
  rw [waiting_call_write]
  rcases (covered_iff h).mp hcovered with hflush | hwaiting
  · exact .inl (hframe.2.1 hflush)
  · exact .inr hwaiting

theorem allCovered_call_flush_iff (h : s.Inv) (hcovered : s.AllCovered) :
    (s.call .flush).AllCovered ↔
      ¬(s.writer.writeWatch = true ∧ s.writer.buffer = [] ∧ s.writer.flushWatch = false) := by
  rw [AllCovered, covered_iff (inv_call h _)]
  by_cases hready : s.writer.ioChannel = true ∧ s.writer.loop = true
  · rw [waiting_call_flush h hready, call_flush, if_pos hready]
    cases hwrite : s.writer.writeWatch with
    | true =>
        cases hflush : s.writer.flushWatch <;> simp [hflush]
    | false => simp [Writer.requestFlush]
  · have hwrite : ¬s.writer.writeWatch = true := fun hwatch => hready (h.ready (.inl hwatch))
    rw [call_flush, if_neg hready]
    exact iff_of_true ((covered_iff h).mp hcovered) fun hlost => hwrite hlost.1

theorem allCovered_writable (h : s.Inv) (hcovered : s.AllCovered) (size : Nat) :
    (s.step (.writable size)).AllCovered := by
  apply (covered_iff (inv_step h _)).mpr
  have hpoint := h.point
  have hbefore := (covered_iff h).mp hcovered
  rw [step]
  split
  · by_cases hbuffer : s.writer.buffer = []
    · rw [writeWatchFunc_of_empty hbuffer]
      exact hbefore
    · have hfunc := writeWatchFunc_of_ne hbuffer size
      rw [hfunc.2]
      rcases hbefore with hflush | hwaiting
      · apply Or.inl
        show (s.writer.flushWatch || _) = true
        rw [hflush, Bool.true_or]
      · by_cases hdone : s.writer.flushPoint ≤ min size s.writer.buffer.length
        · by_cases howed : s.owed = []
          · exact .inr fun hne => absurd howed hne
          · have hpositive := hwaiting howed
            have hloop := (h.ready (.inl (h.live hbuffer))).2
            apply Or.inl
            show (s.writer.flushWatch || decide _) = true
            rw [decide_eq_true ⟨hpositive, hdone, hloop⟩, Bool.or_true]
        · apply Or.inr
          intro _
          show 0 < s.writer.flushPoint - min size s.writer.buffer.length
          omega
  · exact hbefore

/-- Once `flushed` has answered what is on the channel, the rest is left to the flush point. -/
theorem waiting_answer (h : s.Inv) : s.answer.Waiting := by
  intro howed
  obtain ⟨mark, hmark⟩ := List.exists_mem_of_ne_nil _ howed
  have hkept := List.mem_filter.mp hmark
  have hlt : s.channel.length < mark := by simpa using hkept.2
  have hbeyond := h.beyond mark hkept.1
  show 0 < s.writer.flushPoint
  omega

theorem allCovered_flushWatchFunc_iff (h : s.Inv) (hflush : s.writer.flushWatch = true)
    (handler : List WriterCall) :
    (s.flushWatchFunc handler).AllCovered ↔ LastFindsBytes s.writer.buffer handler := by
  have hready := h.ready (.inr hflush)
  rw [AllCovered, covered_iff (inv_flushWatchFunc h handler)]
  have hwaiting := waiting_foldl_call_iff (inv_answer h) (waiting_answer h) hready handler
  constructor
  · rintro (hwatch | hrest)
    · cases hwatch
    · exact hwaiting.mp hrest
  · intro hlast
    exact .inr (hwaiting.mpr hlast)

/-- One event leaves every request covered exactly when it is answerable. -/
theorem allCovered_step_iff (h : s.Inv) (hcovered : s.AllCovered) (event : WriterEvent) :
    (s.step event).AllCovered ↔ s.Answerable event := by
  cases event with
  | start =>
      apply iff_of_true _ trivial
      rw [step, Writer.start]
      split
      · exact hcovered
      · exact hcovered
  | call call =>
      cases call with
      | write chunk => exact iff_of_true (allCovered_call_write h hcovered chunk) trivial
      | flush => exact allCovered_call_flush_iff h hcovered
  | writable size => exact iff_of_true (allCovered_writable h hcovered size) trivial
  | flushAgain => exact iff_of_true hcovered trivial
  | flushed handler =>
      rw [step, Answerable]
      split
      · next hflush =>
          rw [allCovered_flushWatchFunc_iff h hflush]
          exact (imp_iff_right hflush).symm
      · next hflush => exact iff_of_true hcovered fun hwatch => absurd hwatch hflush

/-- In every run the bytes on the channel are those written and `flushed` has a request to answer;
every request stays covered until then exactly when each event of the run is answerable. -/
theorem sound_along_iff (ioChannel : Bool) (events : List WriterEvent) :
    Along step Sound (new ioChannel) events ↔ Along step Answerable (new ioChannel) events := by
  have hcovered : Along step (fun s event => (s.step event).AllCovered) (new ioChannel) events ↔
      Along step Answerable (new ioChannel) events := by
    apply @Along.iff_of_invariant _ _ step Inv Answerable (new ioChannel) events AllCovered
    · exact fun s event h => inv_step h event
    · exact fun s event h hgood => allCovered_step_iff h hgood event
    · exact inv_new ioChannel
    · exact fun mark hmark => absurd hmark List.not_mem_nil
  rw [← hcovered]
  apply @Along.congr_of_invariant _ _ step (fun s => s.Inv ∧ s.Due)
  · rintro s event ⟨h, hdue⟩ -
    exact ⟨inv_step h event, due_step h hdue event⟩
  · rintro s event ⟨h, hdue⟩
    have hprefix : (s.step event).channel <+: (s.step event).written :=
      ⟨_, (inv_step h event).bytes⟩
    have hemits : s.Emits event → ∃ mark ∈ s.owed, mark ≤ s.channel.length :=
      fun hemit => hdue hemit.1
    rw [Sound, and_iff_right hprefix, and_iff_right hemits]
    exact Iff.rfl
  · exact ⟨inv_new ioChannel, fun hwatch => by cases hwatch⟩

/-- All that was written is on the channel when the flush call comes, but the write watch is still
there: the flush point is set to zero. -/
theorem not_sound_along_drained :
    ¬∀ (ioChannel : Bool) (events : List WriterEvent), Along step Sound (new ioChannel) events := by
  intro h
  have hrun := h true [.start, .call (.write [65]), .writable 1, .call .flush]
  have hcovered := hrun.2.2.2.1.2.2 1 (by decide)
  revert hcovered
  unfold Covered
  decide

end Flushes

end WriterRun

end MilterManager.Agent
