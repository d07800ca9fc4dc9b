import MilterManager.Children.Waiting

/-!
# The transport of a body

`milter_server_context_body` and what follows it in `milter/server/milter-server-context.c`: the
chunks that the owner hands over, the packets that carry them, and the replies that acknowledge
the packets. A ledger beside the run says for the current message what was accepted, written,
acknowledged and answered.
-/

namespace MilterManager.Children

open MilterManager.Base MilterManager.Core MilterManager.Server

/-- What is known of the body of the current message: the chunks of the calls that were accepted,
the payloads of the packets written, how many of them the child acknowledged, and how many
`continue` signals the owner was given for them. -/
structure Ledger where
  accepted : List Bytes
  written : List Bytes
  acknowledged : Nat
  continues : Nat
deriving DecidableEq, Repr

/-- The payloads of the body packets among packets. -/
def payloads (packets : List Packet) : List Bytes :=
  packets.filterMap fun
    | .body payload => some payload
    | _ => none

/-- How many of the chunks lie within the first `n` bytes. -/
def covered : List Bytes → Nat → Nat
  | [], _ => 0
  | chunk :: chunks, n =>
      if chunk.length ≤ n then covered chunks (n - chunk.length) + 1 else 0

/-- The replies after which the child wants no more of a body. -/
def endsBody : Reply → Bool
  | .replyCode _ _ _ | .temporaryFailure | .reject | .accept | .discard | .skip => true
  | _ => false

/-- A context and the ledger of its current message. -/
structure Transport where
  state : State
  ledger : Ledger

namespace Transport

variable (child : ChildId)

/-- The context takes a reply as one to a body packet. -/
def takesBodyReply (context : Context) : Bool :=
  (wire context).heard && context.state == .body && !context.quitted

/-- The commands that an event tells to be flushed. -/
def flushedBy (transport : Transport) (event : ContextEvent) : List ContextState :=
  (wire (transport.state.context child)).flushedBy
    (transport.state.surroundings.lastWrite child) event

/-- What happens to the context, and what the ledger says afterwards. A new message begins with its
`envelope-from`; the body of the old one ends with an abort or a reply that wants no more of it. -/
def next (transport : Transport) (event : ContextEvent) : Transport :=
  let context := transport.state.context child
  let o := event.program child transport.state
  let ledger := transport.ledger
  let more := { ledger with written := ledger.written ++ payloads (packets o.trace) }
  let fresh := ⟨[], payloads (packets o.trace), 0, 0⟩
  { state := o.state
    ledger :=
      match event with
      | .body chunk =>
          if event.leftOut context || !o.value then more
          else { more with accepted := ledger.accepted ++ [chunk] }
      | .envelopeFrom _ => if o.value then fresh else more
      | .resetMessageRelatedData => fresh
      | .receive reply =>
          if takesBodyReply context then
            if reply = .continue then
              { more with
                acknowledged := min (ledger.acknowledged + 1) ledger.written.length
                continues := ledger.continues + (callbacks o.trace).count .continue }
            else if endsBody reply then fresh
            else more
          else more
      | event => if .abort ∈ flushedBy child transport event then fresh else more }

/-- What was written of a message is the front of what was accepted and the rest is buffered, in
packets of one byte up to a full packet; the owner was answered once for each accepted chunk of
which every byte was acknowledged. -/
structure Sound (ledger : Ledger) (context : Context) : Prop where
  sizes : ∀ payload ∈ ledger.written, 1 ≤ payload.length ∧ payload.length ≤ milterChunkSize
  bytes : ledger.accepted ≠ [] ∨ ledger.written ≠ [] →
    ledger.written.flatten ++ context.body = ledger.accepted.flatten
  continues : ledger.continues =
    covered ledger.accepted (ledger.written.take ledger.acknowledged).flatten.length

/-- What the transport of bodies owes to the owner at one event. -/
structure Carries (transport : Transport) (event : ContextEvent) : Prop where
  sound : Sound (transport.next child event).ledger
    ((transport.next child event).state.context child)
  refused : ∀ chunk, event = .body chunk →
    event.leftOut (transport.state.context child) = false →
    (event.program child transport.state).value = false →
    ((transport.next child event).state.context child).body =
        (transport.state.context child).body ∧
      ((transport.next child event).state.context child).bodyResponseQueue =
        (transport.state.context child).bodyResponseQueue ∧
      ((transport.next child event).state.context child).processBodyCount =
        (transport.state.context child).processBodyCount
  counters : event = .receive .continue → takesBodyReply (transport.state.context child) = true →
    ∀ count ∈ (transport.state.context child).bodyResponseQueue.head?, 0 < count

/-- A body call hands over bytes, is not refused, and does not come before the flush of an abort;
whatever ends the body of a message comes when nothing of it is buffered; a `continue` acknowledges
a packet that was written, of a message that had no chunk longer than a packet up to there. What is
written of a body is written before the writer fails. -/
def Met (transport : Transport) (event : ContextEvent) : Prop :=
  let context := transport.state.context child
  let ledger := transport.ledger
  match event with
  | .body chunk =>
      event.leftOut context = false →
        chunk ≠ [] ∧ (wire context).writes .body = true ∧ context.writer ≠ .lost ∧
          .abort ∉ context.nextStates
  | .envelopeFrom _ =>
      context.body = [] ∨
        (event.leftOut context = false ∧ (wire context).writes .envelopeFrom = false)
  | .abort => context.body = [] ∨ context.writer = .stopped
  | .resetMessageRelatedData => context.body = []
  | .receive reply =>
      takesBodyReply context = true →
        if reply = .continue then
          (context.writer = .lost → context.body = []) ∧
            if ledger.acknowledged < ledger.written.length then
              ∀ chunk ∈ ledger.accepted.take (ledger.acknowledged + 1),
                chunk.length ≤ milterChunkSize
            else context.bodyResponseQueue = []
        else endsBody reply = true → context.body = []
  | _ => True

end Transport

@[simp] theorem payloads_nil : payloads [] = [] := rfl

@[simp] theorem payloads_body (payload : Bytes) : payloads [.body payload] = [payload] := rfl

theorem payloads_append (front back : List Packet) :
    payloads (front ++ back) = payloads front ++ payloads back := List.filterMap_append

namespace Wire

/-- Writing a packet changes nothing but the timer and the states that wait for the flush. -/
theorem afterWrite_eq (line : Wire) (state : ContextState) :
    ∃ timeout states, line.afterWrite state =
        { line with timeout := timeout, nextStates := states } ∧
      (line.writes state = true → states = line.nextStates ++ [state]) ∧
      (line.writes state = false → states = line.nextStates) := by
  by_cases hbusy : (!state.interrupts && line.timeout.isSome) = true
  · refine ⟨line.timeout, line.nextStates, ?_, fun h => ?_, fun _ => rfl⟩
    · rw [Wire.afterWrite, if_pos hbusy]
    · rw [Bool.and_eq_true, Bool.not_eq_true'] at hbusy
      rw [Wire.writes, hbusy.1, Bool.false_or, Bool.and_eq_true, Option.isNone_iff_eq_none] at h
      rw [h.1] at hbusy
      exact absurd hbusy.2 (by decide)
  · by_cases hstopped : line.writer = .stopped
    · refine ⟨none, line.nextStates, ?_, fun h => ?_, fun _ => rfl⟩
      · rw [Wire.afterWrite, if_neg hbusy, if_pos hstopped]
      · simp [Wire.writes, hstopped] at h
    · refine ⟨if state.interrupts then line.timeout else some .writing,
        line.nextStates ++ [state], ?_, fun _ => rfl, fun h => ?_⟩
      · rw [Wire.afterWrite, if_neg hbusy, if_neg hstopped]
      · cases hinterrupts : state.interrupts with
        | true => simp [Wire.writes, hinterrupts, hstopped] at h
        | false =>
            cases htimeout : line.timeout with
            | none => simp [Wire.writes, htimeout, hstopped] at h
            | some timeout => simp [hinterrupts, htimeout] at hbusy

theorem afterFlush_of_writes {line : Wire} (h : line.writes .body = true) :
    ∃ timeout, line.afterFlush =
      { line with
        timeout := timeout
        nextStates := line.nextStates ++ [.body]
        body := line.body.drop milterChunkSize
        bodyResponseQueue := line.bodyResponseQueue ++ [1] } := by
  obtain ⟨timeout, states, hwrite, hstates, -⟩ := line.afterWrite_eq .body
  refine ⟨timeout, ?_⟩
  rw [Wire.afterFlush, if_pos h, hwrite, hstates h]

theorem afterFlush_of_refused {line : Wire} (h : line.writes .body = false) :
    ∃ timeout, line.afterFlush =
      { line with
        timeout := timeout
        bodyResponseQueue := line.bodyResponseQueue ++ [0] } := by
  obtain ⟨timeout, states, hwrite, -, hstates⟩ := line.afterWrite_eq .body
  refine ⟨timeout, ?_⟩
  rw [Wire.afterFlush, if_neg (by simp [h]), hwrite, hstates h]

end Wire

section Covered

/-- Every chunk of a front lies within its length. -/
theorem covered_append_of_ne_nil (front rest : List Bytes) (n : Nat) :
    covered (front ++ rest) (front.flatten.length + n) = front.length + covered rest n := by
  induction front with
  | nil => simp
  | cons chunk front ih =>
      have hle : chunk.length ≤ (chunk :: front).flatten.length + n := by
        simp only [List.flatten_cons, List.length_append]
        omega
      have hsub : (chunk :: front).flatten.length + n - chunk.length =
          front.flatten.length + n := by
        simp only [List.flatten_cons, List.length_append]
        omega
      rw [List.cons_append, covered, if_pos hle, hsub, ih, List.length_cons]
      omega

/-- The front of a list of chunks with bytes in them is all that its length covers. -/
theorem covered_take (chunks : List Bytes) (hne : ∀ chunk ∈ chunks, chunk ≠ []) (k : Nat)
    (hk : k ≤ chunks.length) : covered chunks (chunks.take k).flatten.length = k := by
  have hsplit : covered chunks (chunks.take k).flatten.length =
      (chunks.take k).length + covered (chunks.drop k) 0 := by
    have h := covered_append_of_ne_nil (chunks.take k) (chunks.drop k) 0
    rwa [List.take_append_drop, Nat.add_zero] at h
  have hrest : covered (chunks.drop k) 0 = 0 := by
    cases hdrop : chunks.drop k with
    | nil => rfl
    | cons chunk rest =>
        have hmem : chunk ∈ chunks := List.mem_of_mem_drop (hdrop ▸ List.mem_cons_self)
        have hpos := List.length_pos_of_ne_nil (hne chunk hmem)
        rw [covered, if_neg (by omega)]
  rw [hsplit, hrest, List.length_take]
  omega

end Covered

/-- The invariant between the wire and the ledger. A front of the chunks went out one packet a
chunk; a chunk behind it did not fit in a packet. -/
structure Faithful (line : Wire) (ledger : Ledger) : Prop where
  present : line.writer ≠ .absent
  stopped : line.writer = .stopped → line.finished = true
  handlers : line.handlers = 1
  aborting : .abort ∈ line.nextStates → line.body = []
  sizes : ∀ payload ∈ ledger.written, 1 ≤ payload.length ∧ payload.length ≤ milterChunkSize
  nonempty : ∀ chunk ∈ ledger.accepted, chunk ≠ []
  bytes : ledger.written.flatten ++ line.body = ledger.accepted.flatten
  aligned : ∃ front rest parts, ledger.accepted = front ++ rest ∧ ledger.written = front ++ parts ∧
    (rest = [] → parts = [] ∧ line.body = []) ∧
    (∀ chunk ∈ rest.head?, milterChunkSize < chunk.length) ∧ ledger.acknowledged ≤ front.length
  continues : ledger.continues = ledger.acknowledged
  ones : line.finished = false → ∀ count ∈ line.bodyResponseQueue, count = 1
  queued : line.finished = false →
    ledger.written.length ≤ ledger.acknowledged + line.bodyResponseQueue.length

namespace Faithful

variable {line next : Wire} {ledger : Ledger}

/-- The invariant holds at the beginning of a message with nothing buffered. -/
theorem fresh (hbody : next.body = []) (hwriter : next.writer ≠ .absent)
    (hstopped : next.writer = .stopped → next.finished = true) (hhandlers : next.handlers = 1)
    (hones : next.finished = false → ∀ count ∈ next.bodyResponseQueue, count = 1) :
    Faithful next ⟨[], [], 0, 0⟩ where
  present := hwriter
  stopped := hstopped
  handlers := hhandlers
  aborting _ := hbody
  sizes _ hpayload := absurd hpayload List.not_mem_nil
  nonempty _ hchunk := absurd hchunk List.not_mem_nil
  bytes := by rw [hbody]; rfl
  aligned := ⟨[], [], [], rfl, rfl, fun _ => ⟨rfl, hbody⟩, fun _ h => absurd h (by simp),
    Nat.le_refl 0⟩
  continues := rfl
  ones := hones
  queued _ := Nat.zero_le _

/-- The invariant says what the ledger owes. -/
theorem sound (h : Faithful line ledger) {context : Context} (hbody : context.body = line.body) :
    Transport.Sound ledger context where
  sizes := h.sizes
  bytes _ := by
    rw [hbody]
    exact h.bytes
  continues := by
    obtain ⟨front, rest, parts, haccepted, hwritten, -, -, hle⟩ := h.aligned
    have htake : ledger.written.take ledger.acknowledged =
        ledger.accepted.take ledger.acknowledged := by
      rw [haccepted, hwritten, List.take_append_of_le_length hle, List.take_append_of_le_length hle]
    have hlength : ledger.acknowledged ≤ ledger.accepted.length := by
      rw [haccepted, List.length_append]
      omega
    rw [h.continues, htake, covered_take _ h.nonempty _ hlength]

/-- What leaves the body and its counters alone keeps the invariant. -/
theorem congr (h : Faithful line ledger) (hwriter : next.writer = line.writer)
    (hfinished : next.finished = line.finished) (hhandlers : next.handlers = line.handlers)
    (hbody : next.body = line.body) (hqueue : next.bodyResponseQueue = line.bodyResponseQueue)
    (habort : .abort ∈ next.nextStates → .abort ∈ line.nextStates ∨ line.body = []) :
    Faithful next ledger where
  present := hwriter ▸ h.present
  stopped hstopped := hfinished ▸ h.stopped (hwriter ▸ hstopped)
  handlers := hhandlers.trans h.handlers
  aborting hmem := by
    rw [hbody]
    rcases habort hmem with hold | hempty
    · exact h.aborting hold
    · exact hempty
  sizes := h.sizes
  nonempty := h.nonempty
  bytes := hbody ▸ h.bytes
  aligned := hbody ▸ h.aligned
  continues := h.continues
  ones hopen := by
    rw [hqueue]
    exact h.ones (hfinished ▸ hopen)
  queued hopen := by
    rw [hqueue]
    exact h.queued (hfinished ▸ hopen)

/-- Another packet of what is buffered. -/
theorem flush (h : Faithful line ledger) (hbody : line.body ≠ [])
    (hwrites : line.writes .body = true) :
    Faithful line.afterFlush
      { ledger with written := ledger.written ++ [line.body.take milterChunkSize] } := by
  obtain ⟨timeout, hflush⟩ := Wire.afterFlush_of_writes hwrites
  obtain ⟨front, rest, parts, haccepted, hwritten, hrest, hhead, hle⟩ := h.aligned
  have hne : rest ≠ [] := fun hnil => hbody (hrest hnil).2
  have hpos := List.length_pos_of_ne_nil hbody
  rw [hflush]
  refine ⟨h.present, h.stopped, h.handlers, ?_, ?_, h.nonempty, ?_, ?_, h.continues, ?_, ?_⟩
  · intro hmem
    have hold : .abort ∈ line.nextStates := by simpa using hmem
    exact absurd (h.aborting hold) hbody
  · intro payload hpayload
    rcases List.mem_append.mp hpayload with hold | hnew
    · exact h.sizes payload hold
    · rw [List.mem_singleton.mp hnew, List.length_take]
      unfold milterChunkSize
      omega
  · show (ledger.written ++ [line.body.take milterChunkSize]).flatten ++
      line.body.drop milterChunkSize = _
    rw [List.flatten_append, List.flatten_singleton, List.append_assoc, List.take_append_drop]
    exact h.bytes
  · exact ⟨front, rest, parts ++ [line.body.take milterChunkSize], haccepted,
      by rw [hwritten, List.append_assoc], fun hnil => absurd hnil hne, hhead, hle⟩
  · intro hopen count hcount
    rcases List.mem_append.mp hcount with hold | hnew
    · exact h.ones hopen count hold
    · exact List.mem_singleton.mp hnew
  · intro hopen
    have hqueued := h.queued hopen
    simp only [List.length_append, List.length_singleton]
    omega

/-- A flush on a connection that was shut down. -/
theorem failedFlush (h : Faithful line ledger) (hstopped : line.writer = .stopped) :
    Faithful line.afterFlush ledger := by
  have hrefused : line.writes .body = false := by simp [Wire.writes, hstopped]
  obtain ⟨timeout, hflush⟩ := Wire.afterFlush_of_refused hrefused
  have hfinished := h.stopped hstopped
  rw [hflush]
  exact ⟨h.present, h.stopped, h.handlers, h.aborting, h.sizes, h.nonempty, h.bytes, h.aligned,
    h.continues, fun hopen => absurd (hfinished.symm.trans hopen) (by decide),
    fun hopen => absurd (hfinished.symm.trans hopen) (by decide)⟩

/-- The end of a connection keeps the invariant. -/
theorem finish (h : Faithful line ledger)
    (writer : Writer) (hwriter : writer ≠ .absent) (timeout : Option Timeout) :
    Faithful { line with timeout := timeout, finished := true, writer := writer } ledger where
  present := hwriter
  stopped _ := rfl
  handlers := h.handlers
  aborting := h.aborting
  sizes := h.sizes
  nonempty := h.nonempty
  bytes := h.bytes
  aligned := h.aligned
  continues := h.continues
  ones := Bool.noConfusion
  queued := Bool.noConfusion

/-- The invariant while no abort waits to be flushed by a writer that works. -/
structure Flushing (line : Wire) (ledger : Ledger) : Prop extends Faithful line ledger where
  works : line.writer ≠ .lost
  unaborted : .abort ∉ line.nextStates

/-- What leaves the body, its counters and the waiting states alone. -/
theorem Flushing.congr (h : Flushing line ledger) (hwriter : next.writer = line.writer)
    (hfinished : next.finished = line.finished) (hhandlers : next.handlers = line.handlers)
    (hbody : next.body = line.body) (hqueue : next.bodyResponseQueue = line.bodyResponseQueue)
    (hstates : next.nextStates = line.nextStates) : Flushing next ledger where
  toFaithful := h.toFaithful.congr hwriter hfinished hhandlers hbody hqueue fun hmem =>
    .inl (hstates ▸ hmem)
  works := hwriter ▸ h.works
  unaborted := hstates ▸ h.unaborted

/-- A part of a body that waits for no reply is written, if the writer was not shut down. -/
theorem Flushing.flushBody (h : Flushing line ledger) (hempty : line.body ≠ [])
    (hneed : line.needReply .body = false) (htimeout : line.timeout = none) :
    Flushing line.afterFlush
      { ledger with written := ledger.written ++ payloads (line.nextPackets .body) } := by
  by_cases hstarted : line.writer = .started
  · have hpackets : line.nextPackets .body = [.body (line.body.take milterChunkSize)] := by
      simp [Wire.nextPackets, hempty, hneed, hstarted]
    have hwrites : line.writes .body = true := by simp [Wire.writes, hstarted, htimeout]
    obtain ⟨timeout, hflush⟩ := Wire.afterFlush_of_writes hwrites
    rw [hpackets, payloads_body]
    refine ⟨h.flush hempty hwrites, ?_, ?_⟩
    · rw [hflush]
      exact h.works
    · rw [hflush]
      simpa using h.unaborted
  · have hpackets : line.nextPackets .body = [] := by
      simp [Wire.nextPackets, hstarted]
    have hstopped : line.writer = .stopped := by
      cases hwriter : line.writer with
      | absent => exact absurd hwriter h.present
      | started => exact absurd hwriter hstarted
      | lost => exact absurd hwriter h.works
      | stopped => rfl
    have hrefused : line.writes .body = false := by simp [Wire.writes, hstopped]
    obtain ⟨timeout, hflush⟩ := Wire.afterFlush_of_refused hrefused
    rw [hpackets, payloads_nil, List.append_nil]
    refine ⟨h.failedFlush hstopped, ?_, ?_⟩
    · rw [hflush]
      exact h.works
    · rw [hflush]
      exact h.unaborted

section States

variable {shutdown : Wire → Wire}
  (hshutdown : ∀ line ledger, Flushing line ledger → Flushing (shutdown line) ledger)

include hshutdown

/-- A flush through one state keeps the invariant and writes at most one packet. -/
theorem Flushing.nextState (h : Flushing line ledger) {state : ContextState}
    (hstate : state ≠ .abort) :
    Flushing (line.afterNextState shutdown state)
      { ledger with written := ledger.written ++ payloads (line.nextPackets state) } := by
  cases state with
  | abort => exact absurd rfl hstate
  | body =>
      by_cases hempty : line.body = []
      · have hafter : line.afterNextState shutdown .body = { line with timeout := none } :=
          if_pos hempty
        have hpackets : line.nextPackets .body = [] := by simp [Wire.nextPackets, hempty]
        rw [hafter, hpackets, payloads_nil, List.append_nil]
        exact h.congr rfl rfl rfl rfl rfl rfl
      · by_cases hneed : line.needReply .body = true
        · simp only [Wire.nextPackets, Wire.afterNextState, hempty, hneed, Bool.not_true,
            Bool.false_eq_true, false_and, and_false, if_false, payloads_nil, List.append_nil]
          exact h.congr rfl rfl rfl rfl rfl rfl
        · have hidle : Flushing { line with timeout := none } ledger :=
            h.congr rfl rfl rfl rfl rfl rfl
          have hafter : line.afterNextState shutdown .body =
              ({ line with timeout := none } : Wire).afterFlush := by
            simp [Wire.afterNextState, hempty, hneed]
          rw [hafter]
          exact hidle.flushBody hempty (Bool.not_eq_true _ ▸ hneed) rfl
  | quit =>
      have hpackets : line.nextPackets .quit = [] := by simp [Wire.nextPackets]
      rw [hpackets, payloads_nil, List.append_nil]
      exact hshutdown _ _ (h.congr rfl rfl rfl rfl rfl rfl)
  | _ =>
      simp only [Wire.nextPackets, reduceCtorEq, false_and, if_false, payloads_nil,
        List.append_nil]
      exact h.congr rfl rfl rfl rfl rfl rfl

theorem Flushing.foldl (h : Flushing line ledger) (states : List ContextState)
    (hstates : .abort ∉ states) :
    Flushing (states.foldl (Wire.afterNextState shutdown) line)
      { ledger with
        written := ledger.written ++ payloads (line.flushPackets shutdown states) } := by
  induction states generalizing line ledger with
  | nil => simpa [Wire.flushPackets] using h
  | cons state states ih =>
      rw [List.mem_cons, not_or] at hstates
      have hstep := ih (h.nextState hshutdown (Ne.symm hstates.1)) hstates.2
      rw [Wire.flushPackets, payloads_append, ← List.append_assoc, List.foldl_cons]
      exact hstep

end States

/-- The end of the connection keeps the invariant: nothing is written any more. -/
theorem Flushing.afterShutdown (last : LastWrite) (h : Flushing line ledger) :
    Flushing (line.afterShutdown last) ledger := by
  unfold Wire.afterShutdown Wire.afterWriterShutdown
  have hfinished : Flushing { line with finished := true } ledger :=
    ⟨h.finish line.writer h.present line.timeout, h.works, h.unaborted⟩
  by_cases hstarted : line.writer = .started
  · have hstopped : Flushing { line with finished := true, writer := .stopped } ledger :=
      ⟨h.finish .stopped (by simp) line.timeout, by simp, h.unaborted⟩
    rw [if_pos hstarted]
    by_cases hflushes : last.flushes = true
    · let cleared : Wire := { line with finished := true, writer := .stopped, nextStates := [] }
      have hcleared : Flushing cleared ledger :=
        ⟨hstopped.toFaithful.congr rfl rfl rfl rfl rfl fun hmem => absurd hmem List.not_mem_nil,
          by simp [cleared], List.not_mem_nil⟩
      have hid : ∀ line ledger, Flushing line ledger → Flushing (id line) ledger :=
        fun _ _ hline => hline
      have hall := hcleared.foldl hid line.nextStates h.unaborted
      rw [Wire.flushPackets_of_stopped cleared line.nextStates rfl, payloads_nil,
        List.append_nil] at hall
      rw [if_pos hflushes]
      exact hall
    · rw [if_neg hflushes]
      exact hstopped
  · rw [if_neg hstarted]
    exact hfinished

/-- A body call that is not refused. -/
theorem body (h : Faithful line ledger) {chunk : Bytes} (hchunk : chunk ≠ [])
    (hwrites : line.writes .body = true) (habort : .abort ∉ line.nextStates) :
    Faithful ({ line with body := line.body ++ chunk } : Wire).afterFlush
      { ledger with
        accepted := ledger.accepted ++ [chunk]
        written := ledger.written ++ [(line.body ++ chunk).take milterChunkSize] } := by
  have hwrites' : ({ line with body := line.body ++ chunk } : Wire).writes .body = true := hwrites
  obtain ⟨timeout, hflush⟩ := Wire.afterFlush_of_writes hwrites'
  have hpos := List.length_pos_of_ne_nil hchunk
  rw [hflush]
  refine ⟨h.present, h.stopped, h.handlers, ?_, ?_, ?_, ?_, ?_, h.continues, ?_, ?_⟩
  · intro hmem
    have hold : .abort ∈ line.nextStates := by simpa using hmem
    exact absurd hold habort
  · intro payload hpayload
    rcases List.mem_append.mp hpayload with hold | hnew
    · exact h.sizes payload hold
    · rw [List.mem_singleton.mp hnew, List.length_take, List.length_append]
      unfold milterChunkSize
      omega
  · intro taken htaken
    rcases List.mem_append.mp htaken with hold | hnew
    · exact h.nonempty taken hold
    · rw [List.mem_singleton.mp hnew]
      exact hchunk
  · show (ledger.written ++ [(line.body ++ chunk).take milterChunkSize]).flatten ++
      (line.body ++ chunk).drop milterChunkSize = (ledger.accepted ++ [chunk]).flatten
    rw [List.flatten_append, List.flatten_singleton, List.append_assoc, List.take_append_drop,
      ← List.append_assoc, h.bytes, List.flatten_append, List.flatten_singleton]
  · obtain ⟨front, rest, parts, haccepted, hwritten, hrest, hhead, hle⟩ := h.aligned
    by_cases hnil : rest = []
    · obtain ⟨hparts, hempty⟩ := hrest hnil
      subst hnil hparts
      rw [List.append_nil] at haccepted hwritten
      rw [hempty, List.nil_append]
      by_cases hfits : chunk.length ≤ milterChunkSize
      · refine ⟨front ++ [chunk], [], [], ?_, ?_, ?_, ?_, ?_⟩
        · rw [haccepted, List.append_nil]
        · rw [hwritten, List.take_of_length_le hfits, List.append_nil]
        · intro _
          exact ⟨rfl, List.drop_eq_nil_of_le hfits⟩
        · simp
        · rw [List.length_append]
          exact Nat.le_add_right_of_le hle
      · refine ⟨front, [chunk], [chunk.take milterChunkSize], ?_, ?_, ?_, ?_, hle⟩
        · rw [haccepted]
        · rw [hwritten]
        · intro hcons
          exact absurd hcons (List.cons_ne_nil _ _)
        · intro head hmem
          rw [List.head?_cons, Option.mem_some_iff] at hmem
          rw [← hmem]
          omega
    · refine ⟨front, rest ++ [chunk],
        parts ++ [(line.body ++ chunk).take milterChunkSize], ?_, ?_, ?_, ?_, hle⟩
      · rw [haccepted, List.append_assoc]
      · rw [hwritten, List.append_assoc]
      · intro hcons
        exact absurd hcons (by simp)
      · intro head hmem
        rw [List.head?_append_of_ne_nil _ hnil] at hmem
        exact hhead head hmem
  · intro hopen count hcount
    rcases List.mem_append.mp hcount with hold | hnew
    · exact h.ones hopen count hold
    · exact List.mem_singleton.mp hnew
  · intro hopen
    have hqueued := h.queued hopen
    simp only [List.length_append, List.length_singleton]
    omega

/-- The child acknowledges a packet that carries a whole chunk: the owner is answered once. -/
theorem acknowledge (h : Faithful line ledger) (hopen : line.finished = false)
    (hlt : ledger.acknowledged < ledger.written.length)
    (hsmall : ∀ chunk ∈ ledger.accepted.take (ledger.acknowledged + 1),
      chunk.length ≤ milterChunkSize) :
    line.decrementAnswers = 1 ∧
      Faithful line.afterDecrement
        { ledger with
          acknowledged := ledger.acknowledged + 1
          continues := ledger.continues + 1 } := by
  have hqueued := h.queued hopen
  obtain ⟨count, rest, hqueue⟩ : ∃ count rest, line.bodyResponseQueue = count :: rest := by
    cases hqueue : line.bodyResponseQueue with
    | nil =>
        rw [hqueue, List.length_nil] at hqueued
        omega
    | cons count rest => exact ⟨count, rest, rfl⟩
  have hcount : count = 1 := h.ones hopen count (by rw [hqueue]; exact List.mem_cons_self)
  subst hcount
  have hzero : (1 + 0xffffffff) % 0x100000000 = 0 := by decide
  have hafter : line.afterDecrement = { line with bodyResponseQueue := rest } := by
    simp only [Wire.afterDecrement, hqueue, hzero, if_true]
  refine ⟨?_, ?_⟩
  · simp only [Wire.decrementAnswers, hqueue, hzero, if_true, h.handlers]
  · rw [hafter]
    refine ⟨h.present, h.stopped, h.handlers, h.aborting, h.sizes, h.nonempty, h.bytes, ?_, ?_,
      ?_, ?_⟩
    · obtain ⟨front, chunks, parts, haccepted, hwritten, hrest, hhead, hle⟩ := h.aligned
      refine ⟨front, chunks, parts, haccepted, hwritten, hrest, hhead, ?_⟩
      by_contra hover
      have hfull : front.length = ledger.acknowledged := by
        show front.length = ledger.acknowledged
        have : ¬ledger.acknowledged + 1 ≤ front.length := hover
        omega
      cases chunks with
      | nil =>
          rw [hwritten, (hrest rfl).1, List.append_nil] at hlt
          omega
      | cons chunk chunks =>
          have hbig := hhead chunk rfl
          have hmem : chunk ∈ ledger.accepted.take (ledger.acknowledged + 1) := by
            rw [haccepted, ← hfull, List.take_append, List.take_of_length_le (by omega),
              List.mem_append]
            right
            simp
          have := hsmall chunk hmem
          omega
    · show ledger.continues + 1 = ledger.acknowledged + 1
      rw [h.continues]
    · intro hopen' count hcount
      exact h.ones hopen count (by rw [hqueue]; exact List.mem_cons_of_mem _ hcount)
    · intro _
      rw [hqueue, List.length_cons] at hqueued
      show ledger.written.length ≤ ledger.acknowledged + 1 + rest.length
      omega

/-- A wire with nothing buffered. -/
structure Empty (line : Wire) : Prop where
  present : line.writer ≠ .absent
  stopped : line.writer = .stopped → line.finished = true
  handlers : line.handlers = 1
  body : line.body = []
  ones : line.finished = false → ∀ count ∈ line.bodyResponseQueue, count = 1

theorem empty (h : Faithful line ledger) (hbody : line.body = []) : Empty line :=
  ⟨h.present, h.stopped, h.handlers, hbody, h.ones⟩

theorem Empty.fresh (h : Empty line) : Faithful line ⟨[], [], 0, 0⟩ :=
  Faithful.fresh h.body h.present h.stopped h.handlers h.ones

section States

variable {shutdown : Wire → Wire} (hshutdown : ∀ line, Empty line → Empty (shutdown line))

include hshutdown

theorem Empty.nextState (h : Empty line) (state : ContextState) :
    Empty (line.afterNextState shutdown state) ∧ line.nextPackets state = [] := by
  have hpackets : line.nextPackets state = [] := by simp [Wire.nextPackets, h.body]
  refine ⟨?_, hpackets⟩
  cases state with
  | body =>
      have hafter : line.afterNextState shutdown .body = { line with timeout := none } :=
        if_pos h.body
      rw [hafter]
      exact ⟨h.present, h.stopped, h.handlers, h.body, h.ones⟩
  | quit => exact hshutdown _ ⟨h.present, h.stopped, h.handlers, h.body, h.ones⟩
  | abort =>
      exact ⟨h.present, h.stopped, h.handlers, h.body,
        fun _ count hcount => absurd hcount List.not_mem_nil⟩
  | _ => exact ⟨h.present, h.stopped, h.handlers, h.body, h.ones⟩

theorem Empty.foldl (h : Empty line) (states : List ContextState) :
    Empty (states.foldl (Wire.afterNextState shutdown) line) ∧
      line.flushPackets shutdown states = [] := by
  induction states generalizing line with
  | nil => exact ⟨h, rfl⟩
  | cons state states ih =>
      obtain ⟨hnext, hpackets⟩ := h.nextState hshutdown state
      obtain ⟨hrest, hnone⟩ := ih hnext
      refine ⟨hrest, ?_⟩
      rw [Wire.flushPackets, hpackets, hnone, List.nil_append]

end States

theorem Empty.afterShutdown (last : LastWrite) (h : Empty line) :
    Empty (line.afterShutdown last) := by
  unfold Wire.afterShutdown Wire.afterWriterShutdown
  by_cases hstarted : line.writer = .started
  · have hstopped : Empty { line with finished := true, writer := .stopped, nextStates := [] } :=
      ⟨by simp, fun _ => rfl, h.handlers, h.body, Bool.noConfusion⟩
    have hid : ∀ line, Empty line → Empty (id line) := fun _ hline => hline
    rw [if_pos hstarted]
    by_cases hflushes : last.flushes = true
    · rw [if_pos hflushes]
      exact (hstopped.foldl hid line.nextStates).1
    · rw [if_neg hflushes]
      exact ⟨by simp, fun _ => rfl, h.handlers, h.body, Bool.noConfusion⟩
  · rw [if_neg hstarted]
    exact ⟨h.present, fun _ => rfl, h.handlers, h.body, Bool.noConfusion⟩

/-- The end of the connection keeps the invariant; the flush of an abort begins anew. -/
theorem afterShutdown (h : Faithful line ledger) (last : LastWrite) :
    Faithful (line.afterShutdown last)
      (if line.writer = .started ∧ last.flushes ∧ .abort ∈ line.nextStates then ⟨[], [], 0, 0⟩
        else ledger) := by
  by_cases habort : line.writer = .started ∧ last.flushes ∧ .abort ∈ line.nextStates
  · rw [if_pos habort]
    exact ((h.empty (h.aborting habort.2.2)).afterShutdown last).fresh
  · rw [if_neg habort]
    unfold Wire.afterShutdown Wire.afterWriterShutdown
    by_cases hstarted : line.writer = .started
    · rw [if_pos hstarted]
      by_cases hflushes : last.flushes = true
      · have hunaborted : .abort ∉ line.nextStates := fun hmem => habort ⟨hstarted, hflushes, hmem⟩
        have hflushing : Flushing line ledger := ⟨h, by simp [hstarted], hunaborted⟩
        have hdown := hflushing.afterShutdown last
        unfold Wire.afterShutdown Wire.afterWriterShutdown at hdown
        rw [if_pos hstarted, if_pos hflushes] at hdown
        rw [if_pos hflushes]
        exact hdown.toFaithful
      · rw [if_neg hflushes]
        exact h.finish .stopped (by simp) line.timeout
    · rw [if_neg hstarted]
      exact h.finish line.writer h.present line.timeout

end Faithful

namespace Transport

variable {child : ChildId} {transport : Transport}

/-- The invariant of a run. -/
def Invariant (child : ChildId) (transport : Transport) : Prop :=
  Faithful (wire (transport.state.context child)) transport.ledger

/-- The packet of a command that is no body call carries no payload. -/
theorem payloads_packet (event : ContextEvent) : payloads event.packet.toList = [] := by
  cases event <;> rfl

/-- A command that is no body call and no abort leaves the ledger as it is. -/
theorem command_keeps {event : ContextEvent} {state : ContextState} (h : Invariant child transport)
    (hcommand : event.command = some state) (hbody : state ≠ .body)
    (habort : state = .abort → (transport.state.context child).body = [] ∨
      (transport.state.context child).writer = .stopped) :
    Faithful (wire ((event.program child transport.state).state.context child))
        transport.ledger ∧
      ((event.program child transport.state).state.context child).body =
        (transport.state.context child).body ∧
      payloads (packets (event.program child transport.state).trace) = [] := by
  have hends := ends_program child transport.state hcommand hbody
  let line := wire (transport.state.context child)
  cases hout : event.leftOut (transport.state.context child) with
  | true =>
      obtain ⟨-, hwire, hpackets⟩ := hends.of_leftOut hout
      rw [hwire, hpackets]
      exact ⟨h, congrArg Wire.body hwire, rfl⟩
  | false =>
      obtain ⟨-, hwire, hpackets⟩ := hends.of_written hout
      obtain ⟨timeout, states, hafter, hwritten, hrefused⟩ :=
        (event.prepare line).afterWrite_eq state
      obtain ⟨hkeptbody, hkeptqueue, hkeptfinished, hkepthandlers⟩ :=
        ContextEvent.prepare_body line event
      refine ⟨?_, ?_, ?_⟩
      · rw [hwire, hafter]
        refine h.congr (ContextEvent.prepare_writer line event) hkeptfinished hkepthandlers
          hkeptbody
          hkeptqueue ?_
        intro hmem
        cases hwrites : (event.prepare line).writes state with
        | false =>
            left
            rw [hrefused hwrites, ContextEvent.prepare_nextStates] at hmem
            exact hmem
        | true =>
            rw [hwritten hwrites, ContextEvent.prepare_nextStates, List.mem_append,
              List.mem_singleton] at hmem
            rcases hmem with hold | hnew
            · exact .inl hold
            · right
              rcases habort hnew.symm with hempty | hstopped
              · exact hempty
              · rw [ContextEvent.prepare_writes] at hwrites
                have hstopped' : line.writer = .stopped := hstopped
                simp [Wire.writes, hstopped'] at hwrites
      · have hbody := congrArg Wire.body hwire
        rw [hafter] at hbody
        exact hbody.trans hkeptbody
      · rw [hpackets]
        split
        · exact payloads_packet event
        · rfl

/-- A body call that meets the condition keeps the invariant. -/
theorem body_keeps {chunk : Bytes} (h : Invariant child transport)
    (hmet : Met child transport (.body chunk)) :
    Invariant child (transport.next child (.body chunk)) := by
  obtain ⟨hleft, hwritten⟩ := serverBody_apply child transport.state chunk
  let line := wire (transport.state.context child)
  cases hout : (ContextEvent.body chunk).leftOut (transport.state.context child) with
  | true =>
      obtain ⟨-, hwire, hpackets⟩ := hleft hout
      have hledger : (transport.next child (.body chunk)).ledger = transport.ledger := by
        simp only [next, ContextEvent.program, hout, Bool.true_or, if_true, hpackets, payloads_nil,
          List.append_nil]
      rw [Invariant, hledger]
      show Faithful (wire ((serverBody onlyListen child chunk transport.state).state.context
        child)) _
      rw [hwire]
      exact h
  | false =>
      obtain ⟨hvalue, hwire, hpackets⟩ := hwritten hout
      obtain ⟨hchunk, hwrites, hworks, habort⟩ := hmet hout
      have hstarted : (wire (transport.state.context child)).writer = .started := by
        cases hwriter : (wire (transport.state.context child)).writer with
        | absent => exact absurd hwriter h.present
        | started => rfl
        | lost => exact absurd hwriter hworks
        | stopped => simp [Wire.writes, hwriter] at hwrites
      rw [hwrites] at hvalue
      rw [if_pos ⟨hwrites, hstarted⟩] at hpackets
      have hledger : (transport.next child (.body chunk)).ledger =
          { transport.ledger with
            accepted := transport.ledger.accepted ++ [chunk]
            written := transport.ledger.written ++
              [(line.body ++ chunk).take milterChunkSize] } := by
        simp only [next, ContextEvent.program, hout, hvalue, hpackets, Bool.false_or, Bool.not_true,
          Bool.false_eq_true, if_false, payloads_body]
        rfl
      rw [Invariant, hledger]
      show Faithful (wire ((serverBody onlyListen child chunk transport.state).state.context
        child)) _
      rw [hwire]
      exact Faithful.body h hchunk hwrites habort

/-- The beginning of a message keeps the invariant. -/
theorem envelopeFrom_keeps {sender : Bytes} (h : Invariant child transport)
    (hmet : Met child transport (.envelopeFrom sender)) :
    Invariant child (transport.next child (.envelopeFrom sender)) := by
  have hcommand : (ContextEvent.envelopeFrom sender).command = some .envelopeFrom := rfl
  obtain ⟨hkept, hbody, hpackets⟩ := command_keeps h hcommand (by decide) fun habort =>
    absurd habort (by decide)
  cases hvalue : (ContextEvent.program child (.envelopeFrom sender) transport.state).value with
  | false =>
      have hledger : (transport.next child (.envelopeFrom sender)).ledger = transport.ledger := by
        simp only [next, hvalue, Bool.false_eq_true, if_false, hpackets, List.append_nil]
      rw [Invariant, hledger]
      exact hkept
  | true =>
      have hledger : (transport.next child (.envelopeFrom sender)).ledger = ⟨[], [], 0, 0⟩ := by
        simp only [next, hvalue, if_true, hpackets]
      have hempty : (transport.state.context child).body = [] := by
        rcases hmet with hempty | ⟨hout, hrefused⟩
        · exact hempty
        · have hends := ends_program child transport.state hcommand (by decide)
          rw [(hends.of_written hout).1, ContextEvent.prepare_writes, hrefused] at hvalue
          exact absurd hvalue (by decide)
      rw [Invariant, hledger]
      exact (hkept.empty (hbody.trans hempty)).fresh

/-- A flush keeps the invariant; that of an abort begins anew. -/
theorem flushed_keeps (h : Invariant child transport) :
    Invariant child (transport.next child .flushed) := by
  obtain ⟨hwire, hpackets⟩ := flushed_apply child transport.state
  let line := wire (transport.state.context child)
  let last := transport.state.surroundings.lastWrite child
  change wire ((transport.next child .flushed).state.context child) =
    line.afterFlushed last at hwire
  rw [← ContextEvent.done_trace] at hpackets
  change packets (ContextEvent.program child .flushed transport.state).trace = _ at hpackets
  rw [Invariant, hwire, Wire.afterFlushed]
  by_cases hstarted : line.writer = .started
  · have hstates : flushedBy child transport .flushed = line.nextStates :=
      if_pos (decide_eq_true hstarted)
    rw [if_pos hstarted] at hpackets
    rw [if_pos hstarted]
    by_cases habort : .abort ∈ line.nextStates
    · have hempty : Faithful.Empty { line with nextStates := [] } :=
        ⟨h.present, h.stopped, h.handlers, h.aborting habort, h.ones⟩
      obtain ⟨hrest, hnone⟩ :=
        hempty.foldl (fun _ hline => hline.afterShutdown last) line.nextStates
      have hledger : (transport.next child .flushed).ledger = ⟨[], [], 0, 0⟩ := by
        simp only [next, hstates, habort, if_true, hpackets.trans hnone, payloads_nil]
      rw [hledger]
      exact hrest.fresh
    · have hcleared : Faithful.Flushing { line with nextStates := [] } transport.ledger :=
        ⟨h.congr rfl rfl rfl rfl rfl fun hmem => absurd hmem List.not_mem_nil,
          by simp [hstarted], List.not_mem_nil⟩
      have hledger : (transport.next child .flushed).ledger =
          { transport.ledger with
            written := transport.ledger.written ++
              payloads (({ line with nextStates := [] } : Wire).flushPackets
                (Wire.afterShutdown last) line.nextStates) } := by
        simp only [next, hstates, habort, if_false, hpackets]
        rfl
      rw [hledger]
      exact (hcleared.foldl (fun _ _ hline => hline.afterShutdown last) line.nextStates
        habort).toFaithful
  · have hstates : flushedBy child transport .flushed = [] :=
      if_neg (by simpa [Wire.flushes] using hstarted)
    rw [if_neg hstarted] at hpackets
    have hledger : (transport.next child .flushed).ledger = transport.ledger := by
      simp only [next, hstates, List.not_mem_nil, if_false, hpackets, payloads_nil, List.append_nil]
    rw [if_neg hstarted, hledger]
    exact h

/-- A shutdown keeps the invariant; the flush of an abort begins anew. -/
theorem shutdown_keeps {event : ContextEvent} {line : Wire} {last : LastWrite}
    (h : Faithful line transport.ledger)
    (hwire : wire ((transport.next child event).state.context child) = line.afterShutdown last)
    (hstates : flushedBy child transport event =
      if line.writer = .started ∧ last.flushes then line.nextStates else [])
    (hledger : (transport.next child event).ledger =
      if .abort ∈ flushedBy child transport event then ⟨[], [], 0, 0⟩ else transport.ledger) :
    Invariant child (transport.next child event) := by
  rw [Invariant, hwire, hledger, hstates]
  have hdown := h.afterShutdown last
  by_cases hflushes : line.writer = .started ∧ last.flushes = true
  · rw [if_pos hflushes]
    simpa only [hflushes.1, hflushes.2, true_and] using hdown
  · have hnot : ¬(line.writer = .started ∧ last.flushes = true ∧ .abort ∈ line.nextStates) :=
      fun hall => hflushes ⟨hall.1, hall.2.1⟩
    rw [if_neg hnot] at hdown
    rw [if_neg hflushes, if_neg List.not_mem_nil]
    exact hdown

/-- The end of the connection keeps the invariant. -/
theorem hangUp_keeps (h : Invariant child transport) :
    Invariant child (transport.next child .hangUp) := by
  obtain ⟨hwire, hpackets⟩ := hangUp_apply child transport.state
  let line := wire (transport.state.context child)
  let last := transport.state.surroundings.lastWrite child
  change wire ((transport.next child .hangUp).state.context child) = line.afterHangUp last at hwire
  rw [← ContextEvent.done_trace] at hpackets
  change packets (ContextEvent.program child .hangUp transport.state).trace = _ at hpackets
  have hledger : (transport.next child .hangUp).ledger =
      if .abort ∈ flushedBy child transport .hangUp then ⟨[], [], 0, 0⟩ else transport.ledger := by
    simp only [next, hpackets, payloads_nil, List.append_nil]
  rw [Wire.afterHangUp] at hwire
  by_cases hheard : line.writer ≠ .absent ∧ (!line.finished) = true
  · rw [if_pos hheard] at hwire
    have hflushes : line.flushes last .hangUp =
        (line.writer = .started && last.flushes : Bool) := by
      simp [Wire.flushes, Wire.heard, hheard.1, hheard.2]
    exact shutdown_keeps h hwire (Wire.flushedBy_of_shutdown hflushes) hledger
  · rw [if_neg hheard] at hwire
    have hdeaf : line.heard = false := by
      rw [Wire.heard, Bool.and_eq_false_iff, decide_eq_false_iff_not]
      by_cases habsent : line.writer = .absent
      · exact .inl fun hne => hne habsent
      · exact .inr (Bool.eq_false_iff.mpr fun hopen => hheard ⟨habsent, hopen⟩)
    have hstates : flushedBy child transport .hangUp = [] := by
      simp [flushedBy, Wire.flushedBy, Wire.flushes, show (wire _).heard = false from hdeaf]
    rw [hstates, if_neg List.not_mem_nil] at hledger
    rw [Invariant, hwire, hledger]
    exact h

/-- The end of a timeout keeps the invariant. -/
theorem expireTimeout_keeps (h : Invariant child transport) :
    Invariant child (transport.next child .expireTimeout) := by
  obtain ⟨hwire, hpackets⟩ := expireTimeout_apply child transport.state
  let line := wire (transport.state.context child)
  let last := transport.state.surroundings.lastWrite child
  change wire ((transport.next child .expireTimeout).state.context child) =
    line.afterTimeout last at hwire
  rw [← ContextEvent.done_trace] at hpackets
  change packets (ContextEvent.program child .expireTimeout transport.state).trace = _ at hpackets
  have hledger : (transport.next child .expireTimeout).ledger =
      if .abort ∈ flushedBy child transport .expireTimeout then ⟨[], [], 0, 0⟩
      else transport.ledger := by
    simp only [next, hpackets, payloads_nil, List.append_nil]
  have hexpired : Faithful { line with timeout := some .expired } transport.ledger :=
    h.congr rfl rfl rfl rfl rfl .inl
  by_cases hexpires : line.expires = true
  · have hdown : line.afterTimeout last =
        ({ line with timeout := some .expired } : Wire).afterShutdown last := by
      have htimeout : line.timeout = some .writing ∨ line.timeout = some .reading ∨
          line.timeout = some .endOfMessage := by
        simpa [Wire.expires, or_assoc] using hexpires
      rcases htimeout with ht | ht | ht
      · simp only [Wire.afterTimeout, ht]
      · simp only [Wire.afterTimeout, ht]
      · simp only [Wire.afterTimeout, ht]
    have hflushes : line.flushes last .expireTimeout =
        (line.writer = .started && last.flushes : Bool) := by
      simp [Wire.flushes, hexpires]
    exact shutdown_keeps hexpired (hwire.trans hdown) (Wire.flushedBy_of_shutdown hflushes) hledger
  · have hstates : flushedBy child transport .expireTimeout = [] := by
      simp [flushedBy, Wire.flushedBy, Wire.flushes,
        show (wire _).expires = false from Bool.eq_false_iff.mpr hexpires]
    rw [hstates, if_neg List.not_mem_nil] at hledger
    rw [Invariant, hwire, hledger]
    cases htimeout : line.timeout with
    | none =>
        rw [Wire.afterTimeout, htimeout]
        exact h
    | some timeout =>
        cases timeout with
        | expired =>
            rw [Wire.afterTimeout, htimeout]
            exact h
        | connection =>
            rw [Wire.afterTimeout, htimeout]
            exact hexpired
        | _ => exact absurd (by simp [Wire.expires, htimeout]) hexpires

/-- A connection that could not be established changes nothing. -/
theorem failConnection_keeps (h : Invariant child transport) :
    Invariant child (transport.next child .failConnection) := by
  have hstate : (transport.next child .failConnection).state = transport.state :=
    emitErrorOn_state child transport.state .other
  have hpackets : packets (ContextEvent.program child .failConnection transport.state).trace =
      [] := by
    show packets (ContextEvent.done (failConnection onlyListen child) transport.state).trace = []
    rw [ContextEvent.done_trace]
    exact emitErrorOn_packets child transport.state .other
  have hstates : flushedBy child transport .failConnection = [] := rfl
  have hledger : (transport.next child .failConnection).ledger = transport.ledger := by
    simp only [next, hstates, List.not_mem_nil, if_false, hpackets, payloads_nil, List.append_nil]
  rw [Invariant, hstate, hledger]
  exact h

/-- A failure of the writer keeps the invariant. -/
theorem failWriter_keeps (h : Invariant child transport) :
    Invariant child (transport.next child .failWriter) := by
  obtain ⟨hwire, hpackets⟩ := failWriter_apply child transport.state
  let line := wire (transport.state.context child)
  change wire ((transport.next child .failWriter).state.context child) =
    line.afterFailWriter at hwire
  rw [← ContextEvent.done_trace] at hpackets
  change packets (ContextEvent.program child .failWriter transport.state).trace = _ at hpackets
  have hstates : flushedBy child transport .failWriter = [] := rfl
  have hledger : (transport.next child .failWriter).ledger = transport.ledger := by
    simp only [next, hstates, List.not_mem_nil, if_false, hpackets, payloads_nil, List.append_nil]
  rw [Invariant, hwire, hledger, Wire.afterFailWriter]
  refine ⟨?_, ?_, h.handlers, h.aborting, h.sizes, h.nonempty, h.bytes, h.aligned, h.continues,
    h.ones, h.queued⟩
  · show (if line.writer = .started then Writer.lost else line.writer) ≠ .absent
    split
    · simp
    · exact h.present
  · show (if line.writer = .started then Writer.lost else line.writer) = .stopped → _
    split
    · simp
    · exact h.stopped

theorem final_keeps {line : Wire} {ledger : Ledger} {state : ContextState}
    {reply : Reply} (hidle : Faithful { line with timeout := none } ledger)
    (hother : ¬(state = .body ∧ (!line.quitted) = true) ∨
      (reply ≠ .continue ∧ endsBody reply = false)) (hends : endsBody reply = true) :
    Faithful (line.afterReply state .accept) ledger := by
  have hnot := hother.resolve_right fun hand => absurd (hends.symm.trans hand.2) (by decide)
  simp only [Wire.afterReply, hnot, if_false]
  exact hidle

/-- A reply that is none to a body packet, or neither acknowledges it nor ends the body. -/
theorem other_reply_keeps {line : Wire} {ledger : Ledger} {state : ContextState} {reply : Reply}
    (h : Faithful line ledger)
    (hother : ¬(state = .body ∧ (!line.quitted) = true) ∨
      (reply ≠ .continue ∧ endsBody reply = false)) :
    Faithful (line.afterReply state reply) ledger ∧ line.replyPackets state reply = [] := by
  have hidle : Faithful { line with timeout := none } ledger :=
    h.congr rfl rfl rfl rfl rfl .inl
  refine ⟨?_, ?_⟩
  · cases reply with
    | negotiateReply option =>
        simp only [Wire.afterReply]
        split
        · exact hidle
        · exact h.congr rfl rfl rfl rfl rfl .inl
    | «continue» =>
        have hnot := hother.resolve_right fun hand => hand.1 rfl
        simp only [Wire.afterReply, hnot, if_false]
        exact hidle
    | progress =>
        simp only [Wire.afterReply]
        split
        · exact h.congr rfl rfl rfl rfl rfl .inl
        · exact h
    | connectionFailure => exact hidle
    | shutdown => exact hidle
    | replyCode code extendedCode message => exact final_keeps hidle hother rfl
    | temporaryFailure => exact final_keeps hidle hother rfl
    | reject => exact final_keeps hidle hother rfl
    | accept => exact final_keeps hidle hother rfl
    | discard => exact final_keeps hidle hother rfl
    | skip => exact final_keeps hidle hother rfl
    | _ => exact h
  · rw [Wire.replyPackets, if_neg]
    rintro ⟨hcontinue, hstate, hquitted, -⟩
    rcases hother with hnot | hnot
    · exact hnot ⟨hstate, hquitted⟩
    · exact hnot.1 hcontinue

/-- The counters do not go below zero: what a `continue` takes one from is there. -/
theorem counters_of_faithful {line : Wire} {ledger : Ledger} (h : Faithful line ledger)
    (hopen : line.finished = false) : ∀ count ∈ line.bodyResponseQueue.head?, 0 < count := by
  intro count hcount
  have hone := h.ones hopen count (List.mem_of_mem_head? hcount)
  omega

/-- What a `continue` to a body packet leaves: it is acknowledged, and more is written. -/
theorem continue_keeps {line : Wire} {ledger : Ledger} (h : Faithful line ledger)
    (hopen : line.finished = false) (hquitted : line.quitted = false)
    (hlost : line.writer = .lost → line.body = [])
    (hmet : if ledger.acknowledged < ledger.written.length then
        ∀ chunk ∈ ledger.accepted.take (ledger.acknowledged + 1), chunk.length ≤ milterChunkSize
      else line.bodyResponseQueue = []) :
    Faithful (line.afterReply .body .continue)
      { ledger with
        written := ledger.written ++ payloads (line.replyPackets .body .continue)
        acknowledged := min (ledger.acknowledged + 1) ledger.written.length
        continues := ledger.continues + line.decrementAnswers } := by
  let idle : Wire := { line with timeout := none }
  have hidle : Faithful idle ledger := h.congr rfl rfl rfl rfl rfl .inl
  have hanswered : Faithful idle.afterDecrement
      { ledger with
        acknowledged := min (ledger.acknowledged + 1) ledger.written.length
        continues := ledger.continues + line.decrementAnswers } := by
    by_cases hlt : ledger.acknowledged < ledger.written.length
    · rw [if_pos hlt] at hmet
      obtain ⟨hanswers, hkept⟩ := hidle.acknowledge hopen hlt hmet
      have hone : line.decrementAnswers = 1 := hanswers
      have hmin : min (ledger.acknowledged + 1) ledger.written.length =
          ledger.acknowledged + 1 := by omega
      rw [hone, hmin]
      exact hkept
    · rw [if_neg hlt] at hmet
      have hqueue : idle.bodyResponseQueue = [] := hmet
      have hzero : line.decrementAnswers = 0 := by simp only [Wire.decrementAnswers, hmet]
      have hsame : idle.afterDecrement = idle := by simp only [Wire.afterDecrement, hqueue]
      obtain ⟨front, rest, parts, -, hwritten, -, -, hle⟩ := h.aligned
      have hlength : ledger.written.length = front.length + parts.length := by
        rw [hwritten, List.length_append]
      have hmin : min (ledger.acknowledged + 1) ledger.written.length = ledger.acknowledged := by
        omega
      rw [hzero, hmin, hsame, Nat.add_zero]
      exact hidle
  by_cases hempty : line.body = []
  · have hafter : line.afterReply .body .continue = idle.afterDecrement := by
      simp [Wire.afterReply, hquitted, hempty, idle]
    have hpackets : line.replyPackets .body .continue = [] := by
      simp [Wire.replyPackets, hempty]
    rw [hafter, hpackets, payloads_nil, List.append_nil]
    exact hanswered
  · have hstarted : line.writer = .started := by
      cases hwriter : line.writer with
      | absent => exact absurd hwriter h.present
      | started => rfl
      | lost => exact absurd (hlost hwriter) hempty
      | stopped => exact absurd ((h.stopped hwriter).symm.trans hopen) (by decide)
    have hafter : line.afterReply .body .continue = idle.afterDecrement.afterFlush := by
      simp [Wire.afterReply, hquitted, hempty, idle]
    have hpackets : line.replyPackets .body .continue =
        [.body (line.body.take milterChunkSize)] := by
      simp [Wire.replyPackets, hempty, hquitted, hstarted]
    have hbody : idle.afterDecrement.body = line.body := Wire.afterDecrement_body idle
    have hwrites : idle.afterDecrement.writes .body = true := by
      rw [Wire.afterDecrement_writes]
      simp [Wire.writes, idle, hstarted]
    have hflush := hanswered.flush (by rw [hbody]; exact hempty) hwrites
    rw [hbody] at hflush
    rw [hafter, hpackets, payloads_body]
    exact hflush

theorem of_takesBodyReply {context : Context} (h : takesBodyReply context = true) :
    (wire context).heard = true ∧ context.state = .body ∧ context.quitted = false := by
  rw [takesBodyReply, Bool.and_eq_true, Bool.and_eq_true, Bool.not_eq_true'] at h
  exact ⟨h.1.1, eq_of_beq h.1.2, h.2⟩

/-- What a reply leaves that is heard. -/
theorem received (reply : Reply) (hheard : (wire (transport.state.context child)).heard = true) :
    wire ((transport.next child (.receive reply)).state.context child) =
        (wire (transport.state.context child)).afterReply (transport.state.context child).state
          reply ∧
      packets (ContextEvent.program child (.receive reply) transport.state).trace =
        (wire (transport.state.context child)).replyPackets (transport.state.context child).state
          reply := by
  obtain ⟨hwire, hpackets⟩ := receive_apply child transport.state reply
  have hheard' : (wire (transport.state.context child)).writer ≠ .absent ∧
      (!(wire (transport.state.context child)).finished) = true := by
    simpa [Wire.heard] using hheard
  rw [if_pos hheard'] at hwire hpackets
  rw [← ContextEvent.done_trace] at hpackets
  exact ⟨hwire, hpackets⟩

/-- A reply that is not heard leaves everything as it is. -/
theorem unheard (reply : Reply) (hdeaf : (wire (transport.state.context child)).heard = false) :
    wire ((transport.next child (.receive reply)).state.context child) =
        wire (transport.state.context child) ∧
      packets (ContextEvent.program child (.receive reply) transport.state).trace = [] := by
  obtain ⟨hwire, hpackets⟩ := receive_apply child transport.state reply
  have hdeaf' : ¬((wire (transport.state.context child)).writer ≠ .absent ∧
      (!(wire (transport.state.context child)).finished) = true) := by
    intro hheard
    have h : (wire (transport.state.context child)).heard = true := by
      simp [Wire.heard, hheard.1, hheard.2]
    exact absurd (h.symm.trans hdeaf) (by decide)
  rw [if_neg hdeaf'] at hwire hpackets
  rw [← ContextEvent.done_trace] at hpackets
  exact ⟨hwire, hpackets⟩

/-- A `continue` to a body packet signals one answer if it ends the wait for a chunk. -/
theorem continue_signals (htakes : takesBodyReply (transport.state.context child) = true) :
    (callbacks (ContextEvent.program child (.receive .continue) transport.state).trace).count
      .continue = (wire (transport.state.context child)).decrementAnswers := by
  obtain ⟨hheard, hstate, hquitted⟩ := of_takesBodyReply htakes
  have hheard' : (wire (transport.state.context child)).writer ≠ .absent ∧
      (!(wire (transport.state.context child)).finished) = true := by
    simpa [Wire.heard] using hheard
  have hcontext : (transport.state.context child).writer ≠ .absent ∧
      (!(transport.state.context child).finished) = true := hheard'
  have hreceive : receive onlyListen child .continue transport.state =
      decode onlyListen child .continue transport.state := by
    rw [receive, contextOf_bind, if_pos hcontext]
  show (callbacks (ContextEvent.done (receive onlyListen child .continue)
    transport.state).trace).count .continue = _
  rw [ContextEvent.done_trace, hreceive]
  have hcount := (decoderContinue_body child transport.state hstate).2.2
  rw [if_neg (by simp [wire, hquitted])] at hcount
  exact hcount

/-- A `continue` to a body packet that meets the condition keeps the invariant. -/
theorem receive_continue_keeps (h : Invariant child transport)
    (hmet : Met child transport (.receive .continue))
    (htakes : takesBodyReply (transport.state.context child) = true) :
    Invariant child (transport.next child (.receive .continue)) := by
  obtain ⟨hheard, hstate, hquitted⟩ := of_takesBodyReply htakes
  obtain ⟨hwire, hpackets⟩ := received .continue hheard
  let line := wire (transport.state.context child)
  have hopen : line.finished = false := by
    rw [Wire.heard, Bool.and_eq_true, Bool.not_eq_true'] at hheard
    exact hheard.2
  have hmet' := hmet htakes
  rw [if_pos rfl] at hmet'
  rw [hstate] at hwire hpackets
  have hledger : (transport.next child (.receive .continue)).ledger =
      { transport.ledger with
        written := transport.ledger.written ++ payloads (line.replyPackets .body .continue)
        acknowledged := min (transport.ledger.acknowledged + 1) transport.ledger.written.length
        continues := transport.ledger.continues + line.decrementAnswers } := by
    simp only [next, htakes, if_true, hpackets, continue_signals htakes, line]
  rw [Invariant, hwire, hledger]
  exact continue_keeps h hopen hquitted hmet'.1 hmet'.2

/-- A reply that ends the body phase with nothing buffered begins anew. -/
theorem receive_end_keeps {reply : Reply} (h : Invariant child transport)
    (htakes : takesBodyReply (transport.state.context child) = true)
    (hends : endsBody reply = true) (hempty : (transport.state.context child).body = []) :
    Invariant child (transport.next child (.receive reply)) := by
  obtain ⟨hheard, hstate, hquitted⟩ := of_takesBodyReply htakes
  obtain ⟨hwire, hpackets⟩ := received reply hheard
  let line := wire (transport.state.context child)
  have hcontinue : reply ≠ .continue := fun heq => by simp [heq, endsBody] at hends
  have hafter : line.afterReply .body reply =
      { line with timeout := none, bodyResponseQueue := [] } := by
    have hnot : line.quitted = false := hquitted
    cases reply with
    | replyCode code extendedCode message => simp [Wire.afterReply, hnot]
    | temporaryFailure => simp [Wire.afterReply, hnot]
    | reject => simp [Wire.afterReply, hnot]
    | accept => simp [Wire.afterReply, hnot]
    | discard => simp [Wire.afterReply, hnot]
    | skip => simp [Wire.afterReply, hnot]
    | _ => exact absurd hends Bool.false_ne_true
  have hnone : line.replyPackets .body reply = [] := by
    simp [Wire.replyPackets, hcontinue]
  rw [hstate] at hwire hpackets
  have hledger : (transport.next child (.receive reply)).ledger = ⟨[], [], 0, 0⟩ := by
    simp only [next, htakes, if_true, hcontinue, if_false, hends, hpackets.trans hnone,
      payloads_nil]
  rw [Invariant, hwire, hledger, hafter]
  exact Faithful.fresh hempty h.present h.stopped h.handlers
    fun _ _ hcount => absurd hcount List.not_mem_nil

/-- A reply that is none to a body packet, or neither acknowledges it nor ends the body. -/
theorem receive_other_keeps {reply : Reply} (h : Invariant child transport)
    (hother : takesBodyReply (transport.state.context child) = true →
      reply ≠ .continue ∧ endsBody reply = false) :
    Invariant child (transport.next child (.receive reply)) := by
  let context := transport.state.context child
  have hledger (hnone : packets (ContextEvent.program child (.receive reply)
      transport.state).trace = []) :
      (transport.next child (.receive reply)).ledger = transport.ledger := by
    cases htakes : takesBodyReply (transport.state.context child) with
    | false =>
        simp only [next, htakes, Bool.false_eq_true, if_false, hnone, payloads_nil, List.append_nil]
    | true =>
        obtain ⟨hcontinue, hends⟩ := hother htakes
        simp only [next, htakes, if_true, hcontinue, if_false, hends, Bool.false_eq_true, hnone,
          payloads_nil, List.append_nil]
  cases hheard : (wire context).heard with
  | false =>
      obtain ⟨hwire, hpackets⟩ := unheard reply hheard
      rw [Invariant, hwire, hledger hpackets]
      exact h
  | true =>
      obtain ⟨hwire, hpackets⟩ := received reply hheard
      have hneither : ¬(context.state = .body ∧ (!(wire context).quitted) = true) ∨
          (reply ≠ .continue ∧ endsBody reply = false) := by
        by_cases hbody : context.state = .body ∧ (!(wire context).quitted) = true
        · right
          apply hother
          rw [takesBodyReply, hheard, hbody.1]
          exact hbody.2
        · exact .inl hbody
      obtain ⟨hkept, hnone⟩ := other_reply_keeps h hneither
      rw [Invariant, hwire, hledger (hpackets.trans hnone)]
      exact hkept

/-- A reply that meets the condition keeps the invariant. -/
theorem receive_keeps {reply : Reply} (h : Invariant child transport)
    (hmet : Met child transport (.receive reply)) :
    Invariant child (transport.next child (.receive reply)) := by
  by_cases htakes : takesBodyReply (transport.state.context child) = true
  · have hmet' := hmet htakes
    by_cases hcontinue : reply = .continue
    · subst hcontinue
      exact receive_continue_keeps h hmet htakes
    · rw [if_neg hcontinue] at hmet'
      cases hends : endsBody reply with
      | true => exact receive_end_keeps h htakes hends (hmet' hends)
      | false => exact receive_other_keeps h fun _ => ⟨hcontinue, hends⟩
  · exact receive_other_keeps h fun htrue => absurd htrue htakes

/-- A command that is no body call and begins no message keeps the invariant. -/
theorem plain_keeps {event : ContextEvent} {state : ContextState} (h : Invariant child transport)
    (hcommand : event.command = some state) (hbody : state ≠ .body)
    (hfrom : state ≠ .envelopeFrom) (habort : state = .abort →
      (transport.state.context child).body = [] ∨
        (transport.state.context child).writer = .stopped) :
    Invariant child (transport.next child event) := by
  obtain ⟨hkept, -, hpackets⟩ := command_keeps h hcommand hbody habort
  have hledger : (transport.next child event).ledger = transport.ledger := by
    cases event with
    | body chunk => exact absurd (Option.some.inj hcommand).symm hbody
    | envelopeFrom sender => exact absurd (Option.some.inj hcommand).symm hfrom
    | resetMessageRelatedData => exact absurd hcommand (by simp [ContextEvent.command])
    | flushed => exact absurd hcommand (by simp [ContextEvent.command])
    | receive reply => exact absurd hcommand (by simp [ContextEvent.command])
    | hangUp => exact absurd hcommand (by simp [ContextEvent.command])
    | failConnection => exact absurd hcommand (by simp [ContextEvent.command])
    | failWriter => exact absurd hcommand (by simp [ContextEvent.command])
    | expireTimeout => exact absurd hcommand (by simp [ContextEvent.command])
    | _ => simp [next, flushedBy, Wire.flushedBy, Wire.flushes, hpackets]
  rw [Invariant, hledger]
  exact hkept

/-- The end of a message with nothing buffered keeps the invariant. -/
theorem resetMessageRelatedData_keeps (h : Invariant child transport)
    (hempty : (transport.state.context child).body = []) :
    Invariant child (transport.next child .resetMessageRelatedData) := by
  let line := wire (transport.state.context child)
  have hwire : wire ((transport.next child .resetMessageRelatedData).state.context child) =
      { line with bodyResponseQueue := [], processBodyCount := 0, sentEndOfMessage := false } := by
    simp [next, ContextEvent.program, ContextEvent.done, wire, Context.resetMessageRelatedData,
      line]
  have hledger : (transport.next child .resetMessageRelatedData).ledger = ⟨[], [], 0, 0⟩ := rfl
  rw [Invariant, hwire, hledger]
  exact Faithful.fresh hempty h.present h.stopped h.handlers
    fun _ _ hcount => absurd hcount List.not_mem_nil

/-- Every event that meets the condition keeps the invariant. -/
theorem next_keeps {event : ContextEvent} (h : Invariant child transport)
    (hmet : Met child transport event) : Invariant child (transport.next child event) := by
  cases event with
  | body chunk => exact body_keeps h hmet
  | envelopeFrom sender => exact envelopeFrom_keeps h hmet
  | abort => exact plain_keeps h rfl (by decide) (by decide) fun _ => hmet
  | resetMessageRelatedData => exact resetMessageRelatedData_keeps h hmet
  | flushed => exact flushed_keeps h
  | receive reply => exact receive_keeps h hmet
  | hangUp => exact hangUp_keeps h
  | failConnection => exact failConnection_keeps h
  | failWriter => exact failWriter_keeps h
  | expireTimeout => exact expireTimeout_keeps h
  | _ => exact plain_keeps h rfl (by decide) (by decide) fun habort => absurd habort (by decide)

/-- The invariant gives what the transport owes. -/
theorem carries_of_invariant {event : ContextEvent} (h : Invariant child transport)
    (hmet : Met child transport event) : Carries child transport event where
  sound := (next_keeps h hmet).sound rfl
  refused chunk hevent hout hvalue := by
    subst hevent
    obtain ⟨-, hwrites, -⟩ := hmet hout
    have hanswer := ((serverBody_apply child transport.state chunk).2 hout).1
    have htrue : (ContextEvent.program child (.body chunk) transport.state).value = true :=
      hanswer.trans hwrites
    exact absurd (hvalue.symm.trans htrue) Bool.false_ne_true
  counters hevent htakes := by
    have hheard := (of_takesBodyReply htakes).1
    have hopen : (wire (transport.state.context child)).finished = false := by
      rw [Wire.heard, Bool.and_eq_true, Bool.not_eq_true'] at hheard
      exact hheard.2
    exact counters_of_faithful h hopen

/-- In every run of a context from its connection on whose events all meet the condition, the body
of every message goes out whole, in packets that fit, and is answered call by call. -/
theorem carries_along (child : ChildId) (s : State) (fallbackStatus : Status)
    (evaluationMode hasCommand : Bool) (stopOn : ContextState → Bool)
    (hs : s.context child = Connected fallbackStatus evaluationMode hasCommand stopOn)
    (events : List ContextEvent) (hmet : Along (next child) (Met child)
      ⟨s, ⟨[], [], 0, 0⟩⟩ events) :
    Along (next child) (Carries child) ⟨s, ⟨[], [], 0, 0⟩⟩ events := by
  have hstep : ∀ transport event, Invariant child transport → Met child transport event →
      Invariant child (transport.next child event) ∧ Carries child transport event :=
    fun transport event h hevent => ⟨next_keeps h hevent, carries_of_invariant h hevent⟩
  have hstart : Invariant child ⟨s, ⟨[], [], 0, 0⟩⟩ := by
    have hwire : wire (s.context child) = wire _ := congrArg wire hs
    rw [Invariant, hwire]
    apply Faithful.fresh
    · rfl
    · show Writer.started ≠ .absent
      decide
    · intro hstopped
      have hstarted : Writer.started = .stopped := hstopped
      exact absurd hstarted (by decide)
    · rfl
    · exact fun _ _ hcount => absurd hcount List.not_mem_nil
  exact Along.of_invariant hstep hstart hmet

/-- A run up to the reply to a body. -/
def answeredRun : List ContextEvent :=
  [.negotiate ⟨6, 0#32, 0#32⟩, .flushed, .receive (.negotiateReply ⟨6, 0#32, 0#32⟩),
    .body [97], .flushed, .receive .continue]

theorem carries_along_answered :
    Along (next 0) (Carries 0) ⟨Watched.alone, ⟨[], [], 0, 0⟩⟩ answeredRun := by
  apply carries_along 0 Watched.alone .accept false false (fun _ => false) rfl answeredRun
  refine ⟨trivial, trivial, ?_, ?_, trivial, ?_, trivial⟩
  · exact fun htakes => absurd htakes (by decide)
  · exact fun _ => ⟨by decide, by decide, by decide, by decide⟩
  · intro _
    rw [if_pos rfl, if_pos (by decide)]
    refine ⟨fun hlost => absurd hlost (by decide), ?_⟩
    intro chunk hchunk
    have hone : chunk ∈ ([[97]] : List Bytes) := hchunk
    rw [List.mem_singleton.mp hone]
    decide

/-- A run with a body call while another is being written. -/
def busyRun : List ContextEvent :=
  [.negotiate ⟨6, 0#32, 0#32⟩, .flushed, .receive (.negotiateReply ⟨6, 0#32, 0#32⟩),
    .body [97], .body [98]]

/-- A body call that is refused leaves its chunk behind. -/
theorem not_carries_along_busy :
    ¬Along (next 0) (Carries 0) ⟨Watched.alone, ⟨[], [], 0, 0⟩⟩ busyRun := by
  intro h
  have hrefused := h.2.2.2.2.1.refused [98] rfl (by decide) (by decide)
  have hbody := hrefused.1
  revert hbody
  decide

end Transport

end MilterManager.Children
