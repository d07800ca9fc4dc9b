import MilterManager.Agent.Writer
import MilterManager.Base.Outputs
import MilterManager.Codec.CommandRoundTrip
import MilterManager.Codec.ReplyRoundTrip
import MilterManager.Codec.Sequence

/-!
# Two agents on a channel

One agent encodes messages and writes their packets, the other reads the channel and decodes. Their
steps come in any order: packets wait in the buffer of the writer, `write_watch_func` writes as much
as the channel takes, and `read_from_channel` reads as much as is there, up to the size of its
buffer; from `milter/core/milter-writer.c`, `milter/core/milter-reader.c` and
`milter/core/milter-agent.c:376`.
-/

namespace MilterManager.Agent

open MilterManager.Base MilterManager.Core MilterManager.Codec

/-- What a user of the writing agent does: the next packet is written, and flushed at once or not,
or the agent is flushed. -/
inductive LinkCall where
  | send (flushes : Bool)
  | flush
deriving DecidableEq, Repr

/-- What happens on a link. -/
inductive LinkEvent where
  | start
  | call (call : LinkCall)
  | writable (size : Nat)
  | flushAgain
  | flushed (handler : List LinkCall)
  | read (size : Nat) (residue : Residue)

/-- The channel takes bytes or gives some; the users of the agents do nothing. -/
def LinkEvent.IsTransfer : LinkEvent → Prop
  | .writable _ | .read _ _ => True
  | _ => False

/-- The writer with its channel, the packets that are not written yet and those that are, each with
what it stands for, how much of the channel was read, and the reading decoder with what it signalled
and the error and the result of its calls. -/
structure Link (σ : Type) where
  run : WriterRun
  unsent : List (Bytes × σ)
  sent : List (Bytes × σ)
  readSize : Nat
  decoder : Decoder
  signals : List σ
  error : Option DecoderError
  outcome : Outcome

/-- `BUFFER_SIZE`, `milter/core/milter-reader.c:132`. -/
def readBufferSize : Nat := 4096

namespace Link

variable {σ : Type}

/-- A new link for some packets. -/
def init (ioChannel : Bool) (packets : List (Bytes × σ)) : Link σ where
  run := .new ioChannel
  unsent := packets
  sent := []
  readSize := 0
  decoder := .init
  signals := []
  error := none
  outcome := .success

/-- The next packet is written; one that the writer refuses is not sent. -/
def send (link : Link σ) : Link σ :=
  match link.unsent with
  | [] => link
  | message :: unsent =>
      match link.run.writer.write message.1 with
      | .error _ => link
      | .ok _ =>
          { link with
            run := link.run.call (.write message.1)
            unsent := unsent
            sent := link.sent ++ [message] }

/-- `milter_agent_flush`. -/
def flush (link : Link σ) : Link σ := { link with run := link.run.call .flush }

/-- `milter_agent_write_packet`, with the flush of the class, and `milter_agent_flush`. -/
def call (link : Link σ) : LinkCall → Link σ
  | .send flushes => if flushes then link.send.flush else link.send
  | .flush => link.flush

/-- `flush_watch_func`, when it emits `flushed`: the watch is cleared behind the handler. -/
def flushWatchFunc (link : Link σ) (handler : List LinkCall) : Link σ :=
  let link := handler.foldl call { link with run := link.run.answer }
  { link with run := { link.run with writer := { link.run.writer with flushWatch := false } } }

/-- `read_from_channel` and `cb_reader_flow`. -/
def read (handler : Handler σ) (link : Link σ) (size : Nat) (residue : Residue) : Link σ :=
  let chunk := (link.run.channel.drop link.readSize).take (min size readBufferSize)
  let decoding := link.decoder.decode handler residue chunk
  { link with
    readSize := link.readSize + chunk.length
    decoder := decoding.decoder
    signals := link.signals ++ decoding.signals
    error := link.error <|> decoding.error
    outcome := if link.outcome = .success then decoding.outcome else link.outcome }

/-- One event. -/
def step (handler : Handler σ) (link : Link σ) : LinkEvent → Link σ
  | .start => { link with run := link.run.step .start }
  | .call call => link.call call
  | .writable size => { link with run := link.run.step (.writable size) }
  | .flushAgain => link
  | .flushed handler =>
      if link.run.writer.flushWatch then link.flushWatchFunc handler else link
  | .read size residue => link.read handler size residue

/-- The reading agent has signalled, without an error, a beginning of what was sent, and all of it
when nothing waits in the buffer of the writer or on the channel. -/
structure Delivers (link : Link σ) : Prop where
  signals : link.signals <+: link.sent.map Prod.snd
  error : link.error = none
  outcome : link.outcome = .success
  all : link.run.writer.buffer = [] → link.readSize = link.run.channel.length →
    link.signals = link.sent.map Prod.snd

/-- In a run the link delivers after every event, and what was sent in the run is signalled once the
channel takes and gives all bytes. -/
structure Reliable (handler : Handler σ) (link : Link σ) (events : List LinkEvent) : Prop where
  delivers : Along (step handler) (fun link event => Delivers (link.step handler event)) link events
  drains : ∃ transfers : List LinkEvent, (∀ event ∈ transfers, event.IsTransfer) ∧
    ((events ++ transfers).foldl (step handler) link).sent =
      (events.foldl (step handler) link).sent ∧
    ((events ++ transfers).foldl (step handler) link).signals =
      (events.foldl (step handler) link).sent.map Prod.snd

/-- The packets of contents. -/
def packetsOf (messages : List (Bytes × σ)) : List (Bytes × σ) :=
  messages.map fun message => (frame message.1, message.2)

theorem packetsOf_append (front back : List (Bytes × σ)) :
    packetsOf (front ++ back) = packetsOf front ++ packetsOf back := List.map_append

theorem packetsOf_snd (messages : List (Bytes × σ)) :
    (packetsOf messages).map Prod.snd = messages.map Prod.snd := List.map_map

/-- What holds of a link for these contents: those that were sent are in the bytes written, and
those of them that were read whole are signalled; what is left of the bytes read waits in the
decoder. -/
structure Inv (messages : List (Bytes × σ)) (link : Link σ) : Prop where
  writer : link.run.Inv
  sent : ∃ sent unsent, messages = sent ++ unsent ∧ link.sent = packetsOf sent ∧
    link.unsent = packetsOf unsent ∧ link.run.written = streamOf sent ∧
    ∃ done rest left, sent = done ++ rest ∧ link.signals = done.map Prod.snd ∧
      link.run.channel.take link.readSize = streamOf done ++ left ∧ link.decoder.Holds left ∧
      link.decoder.Waits
  read : link.readSize ≤ link.run.channel.length
  error : link.error = none
  outcome : link.outcome = .success

section Writer

variable {s : WriterRun}

theorem written_flush (s : WriterRun) :
    (s.call .flush).written = s.written ∧ (s.call .flush).channel = s.channel := by
  rw [WriterRun.call_flush]
  split <;> exact ⟨rfl, rfl⟩

theorem written_write {writer : Writer} {packet : Bytes} (h : s.writer.write packet = .ok writer) :
    (s.call (.write packet)).written = s.written ++ packet ∧
      (s.call (.write packet)).channel = s.channel := by
  rw [WriterRun.call, h]
  exact ⟨rfl, rfl⟩

theorem written_writable (s : WriterRun) (size : Nat) :
    (s.step (.writable size)).written = s.written ∧
      s.channel <+: (s.step (.writable size)).channel := by
  rw [WriterRun.step]
  split
  · exact ⟨rfl, List.prefix_append _ _⟩
  · exact ⟨rfl, List.prefix_refl _⟩

theorem inv_clearFlushWatch (h : s.Inv) :
    ({ s with writer := { s.writer with flushWatch := false } } : WriterRun).Inv where
  bytes := h.bytes
  point := h.point
  live := h.live
  ready := by
    intro hwatch
    apply h.ready
    apply Or.inl
    simpa using hwatch
  beyond := h.beyond
  pointed := h.pointed

end Writer

variable {messages : List (Bytes × σ)} {link : Link σ} {handler : Handler σ}

theorem inv_init (ioChannel : Bool) (messages : List (Bytes × σ)) :
    Inv messages (init ioChannel (packetsOf messages)) where
  writer := WriterRun.inv_new ioChannel
  sent := ⟨[], messages, rfl, rfl, rfl, rfl, [], [], [], rfl, rfl, rfl, rfl, rfl⟩
  read := Nat.le_refl 0
  error := rfl
  outcome := rfl

/-- What the writer does to packets that were sent. -/
theorem Inv.withRun (h : Inv messages link) {run : WriterRun} (hrun : run.Inv)
    (hwritten : run.written = link.run.written) (hchannel : link.run.channel <+: run.channel) :
    Inv messages { link with run := run } where
  writer := hrun
  sent := by
    rcases h.sent with ⟨sent, unsent, hmessages, hsent, hunsent, hbytes, done, rest, left, hdone,
      hsignals, hread, hholds, hwaits⟩
    refine ⟨sent, unsent, hmessages, hsent, hunsent, hwritten.trans hbytes, done, rest, left, hdone,
      hsignals, ?_, hholds, hwaits⟩
    rcases hchannel with ⟨more, hmore⟩
    show run.channel.take link.readSize = _
    rw [← hmore, List.take_append_of_le_length h.read]
    exact hread
  read := h.read.trans hchannel.length_le
  error := h.error
  outcome := h.outcome

theorem inv_flush (h : Inv messages link) : Inv messages link.flush :=
  h.withRun (WriterRun.inv_call h.writer .flush) (written_flush link.run).1
    (by rw [(written_flush link.run).2])

/-- A packet that is written joins those that were sent. -/
theorem inv_send (h : Inv messages link) : Inv messages link.send := by
  rw [send]
  split
  · exact h
  · next message unsent hunsent =>
      split
      · exact h
      · next writer hwrite =>
          have hwritten := written_write hwrite
          rcases h.sent with ⟨sent, contents, hmessages, hsent, hcontents, hbytes, done, rest, left,
            hdone, hsignals, hread, hholds, hwaits⟩
          rw [hunsent] at hcontents
          cases contents with
          | nil => cases hcontents
          | cons content contents =>
              have hcons := List.cons.inj hcontents
              have hstream : streamOf (sent ++ [content]) = streamOf sent ++ message.1 := by
                rw [streamOf_append, hcons.1]
                exact congrArg (streamOf sent ++ ·) (List.append_nil _)
              exact
                { writer := WriterRun.inv_call h.writer (.write message.1)
                  sent := by
                    refine ⟨sent ++ [content], contents, ?_, ?_, hcons.2, ?_, done,
                      rest ++ [content], left, ?_, hsignals, ?_, hholds, hwaits⟩
                    · rw [hmessages, List.append_assoc, List.singleton_append]
                    · rw [packetsOf_append, hsent, hcons.1]
                      rfl
                    · rw [hstream, ← hbytes]
                      exact hwritten.1
                    · rw [hdone, List.append_assoc]
                    · rw [hwritten.2]
                      exact hread
                  read := by
                    rw [hwritten.2]
                    exact h.read
                  error := h.error
                  outcome := h.outcome }

theorem inv_call (h : Inv messages link) (call : LinkCall) : Inv messages (link.call call) := by
  cases call with
  | send flushes =>
      cases flushes with
      | false => exact inv_send h
      | true => exact inv_flush (inv_send h)
  | flush => exact inv_flush h

theorem inv_flushWatchFunc (h : Inv messages link) (handler : List LinkCall) :
    Inv messages (link.flushWatchFunc handler) := by
  have hanswer : Inv messages { link with run := link.run.answer } :=
    h.withRun (WriterRun.inv_answer h.writer) rfl (List.prefix_refl _)
  have hcalls : Inv messages (handler.foldl call { link with run := link.run.answer }) :=
    List.foldlRecOn handler call hanswer fun link h call _ => inv_call h call
  exact hcalls.withRun (inv_clearFlushWatch hcalls.writer) rfl (List.prefix_refl _)

theorem separate_of_append_append {front middle back : List (Bytes × σ)}
    (h : Separate handler (front ++ (middle ++ back))) : Separate handler middle := by
  have htaken := h.of_append.take middle.length
  rwa [List.take_left] at htaken

/-- Bytes that are read are decoded: the contents whose frames they complete are signalled. -/
theorem inv_read (hseparate : Separate handler messages) (h : Inv messages link) (size : Nat)
    (residue : Residue) : Inv messages (link.read handler size residue) := by
  rcases h.sent with ⟨sent, unsent, hmessages, hsent, hunsent, hbytes, done, rest, left, hdone,
    hsignals, hread, hholds, hwaits⟩
  let chunk := (link.run.channel.drop link.readSize).take (min size readBufferSize)
  have hchunk : link.readSize + chunk.length ≤ link.run.channel.length := by
    have hlength : chunk.length ≤ (link.run.channel.drop link.readSize).length :=
      (List.take_prefix _ _).length_le
    have hle := h.read
    rw [List.length_drop] at hlength
    omega
  have htake : link.run.channel.take (link.readSize + chunk.length) =
      streamOf done ++ (left ++ chunk) := by
    rw [List.take_add, hread, List.append_assoc]
    apply congrArg (streamOf done ++ ·)
    exact congrArg (left ++ ·) (List.prefix_iff_eq_take.mp (List.take_prefix _ _)).symm
  have hbegins : left ++ chunk <+: streamOf rest := by
    have hstream : streamOf done ++ (left ++ chunk) <+: streamOf done ++ streamOf rest := by
      rw [← htake, ← streamOf_append, ← hdone, ← hbytes, ← h.writer.bytes]
      exact (List.take_prefix _ _).trans (List.prefix_append _ _)
    exact (List.prefix_append_right_inj _).mp hstream
  have hrest : Separate handler rest := by
    rw [hmessages, hdone, List.append_assoc] at hseparate
    exact separate_of_append_append hseparate
  have hwalk := walk_decode handler link.decoder left ⟨chunk, residue⟩ hholds hwaits
  rcases hwalk.over rfl hrest hbegins with ⟨more, rest', left', hmore, hpending, hemitted, herror,
    houtcome, hholds', hwaits'⟩
  exact
    { writer := h.writer
      sent := by
        refine ⟨sent, unsent, hmessages, hsent, hunsent, hbytes, done ++ more, rest', left', ?_, ?_,
          ?_, hholds', hwaits'⟩
        · rw [hdone, hmore, List.append_assoc]
        · rw [List.map_append, ← hsignals]
          exact congrArg (link.signals ++ ·) hemitted
        · rw [streamOf_append, List.append_assoc]
          exact htake.trans (congrArg (streamOf done ++ ·) hpending)
      read := hchunk
      error := by
        show (link.error <|> _) = none
        rw [h.error]
        exact herror
      outcome := by
        show (if link.outcome = .success then _ else _) = Outcome.success
        rw [if_pos h.outcome]
        exact houtcome }

/-- Every event keeps what is known of a link. -/
theorem inv_step (hseparate : Separate handler messages) (h : Inv messages link)
    (event : LinkEvent) : Inv messages (link.step handler event) := by
  cases event with
  | start =>
      exact h.withRun (WriterRun.inv_step h.writer .start) rfl (List.prefix_refl _)
  | call call => exact inv_call h call
  | writable size =>
      have hwritable := written_writable link.run size
      exact h.withRun (WriterRun.inv_step h.writer (.writable size)) hwritable.1 hwritable.2
  | flushAgain => exact h
  | flushed calls =>
      rw [step]
      split
      · exact inv_flushWatchFunc h calls
      · exact h
  | read size residue => exact inv_read hseparate h size residue

theorem signals_call (link : Link σ) (call : LinkCall) :
    (link.call call).signals = link.signals := by
  have hsend : link.send.signals = link.signals := by
    rw [send]
    split
    · rfl
    · split <;> rfl
  cases call with
  | send flushes => cases flushes <;> exact hsend
  | flush => rfl

theorem signals_foldl_call (link : Link σ) (calls : List LinkCall) :
    (calls.foldl call link).signals = link.signals := by
  induction calls generalizing link with
  | nil => rfl
  | cons call calls ih => exact (ih _).trans (signals_call link call)

/-- What was signalled stays. -/
theorem signals_step (handler : Handler σ) (link : Link σ) (event : LinkEvent) :
    link.signals <+: (link.step handler event).signals := by
  cases event with
  | start => exact List.prefix_refl _
  | call call =>
      show _ <+: (link.call call).signals
      rw [signals_call]
  | writable size => exact List.prefix_refl _
  | flushAgain => exact List.prefix_refl _
  | flushed calls =>
      rw [step]
      split
      · show _ <+: (calls.foldl call _).signals
        rw [signals_foldl_call]
      · exact List.prefix_refl _
  | read size residue => exact List.prefix_append _ _

theorem Inv.delivers (hseparate : Separate handler messages) (h : Inv messages link) :
    Delivers link := by
  rcases h.sent with ⟨sent, unsent, hmessages, hsent, hunsent, hbytes, done, rest, left, hdone,
    hsignals, hread, hholds, hwaits⟩
  have hmap : link.sent.map Prod.snd = sent.map Prod.snd := by rw [hsent, packetsOf_snd]
  exact
    { signals := by
        rw [hmap, hsignals, hdone, List.map_append]
        exact List.prefix_append _ _
      error := h.error
      outcome := h.outcome
      all := by
        intro hbuffer hall
        have hchannel := h.writer.bytes
        rw [hbuffer, List.append_nil, hbytes, hdone, streamOf_append] at hchannel
        rw [hall, List.take_length, hchannel] at hread
        rw [← List.append_cancel_left hread] at hholds
        have hrest : Separate handler rest := by
          rw [hmessages, hdone, List.append_assoc] at hseparate
          exact separate_of_append_append hseparate
        rw [hmap, hsignals, hdone, eq_nil_of_waits hrest hholds hwaits, List.append_nil] }

/-- Where the writer has written its buffer, reading on empties the channel. -/
theorem exists_reads (handler : Handler σ) (n : Nat) :
    ∀ {link : Link σ}, link.run.channel.length - link.readSize ≤ n →
      link.readSize ≤ link.run.channel.length →
      ∃ reads : List LinkEvent, (∀ event ∈ reads, ∃ size residue, event = .read size residue) ∧
        (reads.foldl (step handler) link).run = link.run ∧
        (reads.foldl (step handler) link).sent = link.sent ∧
        (reads.foldl (step handler) link).readSize = link.run.channel.length := by
  induction n with
  | zero =>
      intro link hle hread
      exact ⟨[], fun event hevent => absurd hevent List.not_mem_nil, rfl, rfl, by
        show link.readSize = _
        omega⟩
  | succ n ih =>
      intro link hle hread
      let next := link.read handler readBufferSize fun _ _ => 0
      have hsize : next.readSize =
          link.readSize + min readBufferSize (link.run.channel.length - link.readSize) := by
        show link.readSize + ((link.run.channel.drop link.readSize).take _).length = _
        rw [List.length_take, List.length_drop, Nat.min_self]
      have hpos : 0 < readBufferSize := by decide
      have hle' : next.run.channel.length - next.readSize ≤ n := by
        show link.run.channel.length - next.readSize ≤ n
        rw [hsize]
        omega
      have hread' : next.readSize ≤ next.run.channel.length := by
        show next.readSize ≤ link.run.channel.length
        rw [hsize]
        omega
      rcases ih hle' hread' with ⟨reads, honly, hrun, hsent, hall⟩
      refine ⟨.read readBufferSize (fun _ _ => 0) :: reads, ?_, hrun, hsent, hall⟩
      intro event hevent
      rcases List.mem_cons.mp hevent with rfl | hevent
      · exact ⟨_, _, rfl⟩
      · exact honly event hevent

/-- The channel takes what is in the buffer of the writer. -/
theorem exists_written (h : Inv messages link) :
    ∃ size, (link.run.step (.writable size)).writer.buffer = [] := by
  apply Exists.intro link.run.writer.buffer.length
  rw [WriterRun.step]
  by_cases hbuffer : link.run.writer.buffer = []
  · split
    · rw [WriterRun.writeWatchFunc_of_empty hbuffer]
      exact hbuffer
    · exact hbuffer
  · rw [if_pos (h.writer.live hbuffer), (WriterRun.writeWatchFunc_of_ne hbuffer _).2]
    exact List.drop_length

/-- Contents that are signalled in front of one another are delivered. -/
theorem reliable_of_separate (hseparate : Separate handler messages) (ioChannel : Bool)
    (events : List LinkEvent) : Reliable handler (init ioChannel (packetsOf messages)) events where
  delivers := by
    apply @Along.of_invariant _ _ (step handler) (Inv messages) (fun _ _ => True)
    · intro link event h _
      have hnext := inv_step hseparate h event
      exact ⟨hnext, hnext.delivers hseparate⟩
    · exact inv_init ioChannel messages
    · exact Along.of_forall (fun _ _ => trivial) _ _
  drains := by
    have hinv : ∀ (events : List LinkEvent) (link : Link σ), Inv messages link →
        Inv messages (events.foldl (step handler) link) := fun events link h =>
      List.foldlRecOn events (step handler) h fun link h event _ => inv_step hseparate h event
    have hrun := hinv events _ (inv_init ioChannel messages)
    rcases exists_written hrun with ⟨size, hbuffer⟩
    have hwritten := inv_step hseparate hrun (.writable size)
    rcases exists_reads handler _ (Nat.le_refl _) hwritten.read with
      ⟨reads, honly, hsame, hsent, hall⟩
    refine ⟨.writable size :: reads, ?_, ?_, ?_⟩
    · intro event hevent
      rcases List.mem_cons.mp hevent with rfl | hevent
      · trivial
      · rcases honly event hevent with ⟨size, residue, rfl⟩
        trivial
    · rw [List.foldl_append, List.foldl_cons]
      exact hsent
    · have hdelivers := (hinv reads _ hwritten).delivers hseparate
      rw [List.foldl_append, List.foldl_cons, hdelivers.all]
      · exact congrArg (List.map Prod.snd) hsent
      · rw [hsame]
        exact hbuffer
      · rw [hsame]
        exact hall

/-- Contents that are signalled in front of a NUL and short enough for a NUL before them. -/
theorem separate_of_emits
    (h : ∀ message ∈ messages, message.1.length < shortLength ∧
      EmitsBeforeNull handler message.1 message.2) : Separate handler messages := by
  induction messages with
  | nil => trivial
  | cons message messages ih =>
      obtain ⟨hshort, hemits⟩ := h message List.mem_cons_self
      have hothers := fun other hother => h other (List.mem_cons_of_mem message hother)
      refine ⟨⟨Nat.lt_trans hshort (by decide), fun following hfollowing residue => ?_⟩,
        ih hothers⟩
      apply hemits
      apply HeadNull.of_prefix hfollowing
      apply headNull_streamOf
      exact fun other hother => (hothers other hother).1

section Commands

variable (order : KeyOrder) (addressText : AddressText)

/-- The packets that a command encoder makes of commands. -/
def commandPackets (encoder : Encoder) (commands : List CommandSignal) : List Bytes :=
  outputs (fun encoder command => CommandEncoder.encode encoder order addressText command) encoder
    commands

/-- The command has arguments that its packet carries. -/
def CarriedCommand (command : CommandSignal) : Prop :=
  CommandEncoder.Carried command ∧ ∀ hostName address, command = .connect hostName address →
    addressText.ReadsBack address

/-- The contents of the packets: a negotiation is encoded before every other command. -/
theorem exists_commandContents (commands : List CommandSignal) :
    ∀ encoder : Encoder,
      (encoder.buffer = [] ∨ ∀ command ∈ commands, ∀ option, command ≠ .negotiate option) →
      (∀ command ∈ commands, CarriedCommand addressText command) →
      (commands.Pairwise fun _ later => ∀ option, later ≠ .negotiate option) →
      (∀ packet ∈ commandPackets order addressText encoder commands,
        packet.length < shortLength + 4) →
      ∃ messages, packetsOf messages =
          (commandPackets order addressText encoder commands).zip commands ∧
        ∀ message ∈ messages, message.1.length < shortLength ∧
          EmitsBeforeNull (CommandDecoder.decode addressText) message.1 message.2 := by
  induction commands with
  | nil =>
      exact fun _ _ _ _ _ => ⟨[], rfl, fun message hmessage => absurd hmessage List.not_mem_nil⟩
  | cons command commands ih =>
      intro encoder hclean hcarried hfirst hlength
      have hcommand := hcarried command List.mem_cons_self
      rcases List.pairwise_cons.mp hfirst with ⟨hlater, hfirst⟩
      rcases CommandEncoder.exists_content addressText order encoder command hcommand.1 hcommand.2
          (by
            rintro ⟨option, hoption⟩
            exact hclean.resolve_right fun hnone => hnone command List.mem_cons_self option hoption)
        with ⟨content, hpacket, hemits⟩
      rcases ih (CommandEncoder.encode encoder order addressText command).1 (.inr hlater)
          (fun other hother => hcarried other (List.mem_cons_of_mem command hother)) hfirst
          (fun packet hmem => hlength packet (List.mem_cons_of_mem _ hmem)) with
        ⟨messages, hmessages, hall⟩
      refine ⟨(content, command) :: messages, ?_, ?_⟩
      · have hzip : (commandPackets order addressText encoder (command :: commands)).zip
            (command :: commands) =
          ((CommandEncoder.encode encoder order addressText command).2, command) ::
            (commandPackets order addressText
              (CommandEncoder.encode encoder order addressText command).1 commands).zip commands :=
          rfl
        rw [hzip, ← hmessages, hpacket]
        rfl
      · intro message hmessage
        rcases List.mem_cons.mp hmessage with rfl | hmessage
        · have hshort := hlength _ List.mem_cons_self
          dsimp only at hshort
          rw [hpacket, length_frame] at hshort
          exact ⟨Nat.lt_of_add_lt_add_right hshort, hemits⟩
        · exact hall message hmessage

/-- Commands that are written to a channel one by one are signalled at its other end, each once and
in their order, however the writing, the flushing and the reading interleave. -/
theorem commands_reliable (commands : List CommandSignal)
    (hcarried : ∀ command ∈ commands, CarriedCommand addressText command)
    (hfirst : commands.Pairwise fun _ later => ∀ option, later ≠ .negotiate option)
    (hlength : ∀ packet ∈ commandPackets order addressText .init commands,
      packet.length < shortLength + 4) (ioChannel : Bool) (events : List LinkEvent) :
    Reliable (CommandDecoder.decode addressText)
      (init ioChannel ((commandPackets order addressText .init commands).zip commands)) events := by
  rcases exists_commandContents order addressText commands .init (.inl rfl) hcarried hfirst hlength
    with ⟨messages, hmessages, hemits⟩
  rw [← hmessages]
  exact reliable_of_separate (separate_of_emits hemits) ioChannel events

/-- A greeting that is read in two parts, and the end of the session behind it. -/
theorem commands_reliable_two :
    Reliable (CommandDecoder.decode CommandEncoder.exampleAddressText)
      (init true ((commandPackets CommandEncoder.someOrder CommandEncoder.exampleAddressText .init
        [.helo ⟨[97], by decide⟩, .quit]).zip [.helo ⟨[97], by decide⟩, .quit]))
      [.start, .call (.send true), .writable 3, .read 10 fun _ _ => 0, .call (.send false),
        .writable 10, .read 10 fun _ _ => 0] := by
  apply commands_reliable
  · intro command hcommand
    rcases List.mem_cons.mp hcommand with rfl | hcommand
    · exact ⟨List.cons_ne_nil _ _, fun hostName address h => by cases h⟩
    · rw [List.mem_singleton.mp hcommand]
      exact ⟨trivial, fun hostName address h => by cases h⟩
  · apply List.Pairwise.cons
    · intro later hlater option hoption
      rw [List.mem_singleton.mp hlater] at hoption
      cases hoption
    · exact List.pairwise_singleton _ _
  · intro packet hpacket
    have hpackets : commandPackets CommandEncoder.someOrder CommandEncoder.exampleAddressText .init
        [.helo ⟨[97], by decide⟩, .quit] = [[0, 0, 0, 3, 72, 97, 0], [0, 0, 0, 1, 81]] := rfl
    rw [hpackets] at hpacket
    revert packet
    decide

end Commands

section Replies

variable (order : RequestsOrder)

/-- What a reply encoder makes of replies. -/
def replyPackets (encoder : Encoder) (replies : List Codec.Reply) : List EncodedPacket :=
  outputs (fun encoder reply => ReplyEncoder.encode encoder order reply) encoder replies

/-- The reply begins a session. -/
def IsNegotiation (reply : Codec.Reply) : Prop :=
  ∃ option macrosRequests, reply = .negotiate option macrosRequests

/-- The contents of the packets, with the signals that stand for the replies. -/
theorem exists_replyContents (replies : List Codec.Reply) :
    ∀ encoder : Encoder,
      (encoder.buffer = [] ∨ ∀ reply ∈ replies, ¬IsNegotiation reply) →
      (∀ reply ∈ replies, ReplyEncoder.Carried reply) →
      (replies.Pairwise fun _ later => ¬IsNegotiation later) →
      (∀ packet, .packet packet ∈ replyPackets order encoder replies →
        packet.length < shortLength + 4) →
      ∃ messages : List (Bytes × ReplySignal),
        replyPackets order encoder replies =
            (packetsOf messages).map (EncodedPacket.packet ∘ Prod.fst) ∧
          List.Forall₂ ReplyEncoder.SignalOf replies (messages.map Prod.snd) ∧
          ∀ message ∈ messages, message.1.length < shortLength ∧
            EmitsBeforeNull ReplyDecoder.decode message.1 message.2 := by
  induction replies with
  | nil =>
      exact fun _ _ _ _ _ =>
        ⟨[], rfl, .nil, fun message hmessage => absurd hmessage List.not_mem_nil⟩
  | cons reply replies ih =>
      intro encoder hclean hcarried hfirst hlength
      rcases List.pairwise_cons.mp hfirst with ⟨hlater, hfirst⟩
      rcases ReplyEncoder.exists_content order encoder reply (hcarried reply List.mem_cons_self)
          (fun hreply => hclean.resolve_right fun hnone => hnone reply List.mem_cons_self hreply)
        with ⟨content, signal, hpacket, hsignal, hemits⟩
      rcases ih (ReplyEncoder.encode encoder order reply).1 (.inr hlater)
          (fun other hother => hcarried other (List.mem_cons_of_mem reply hother)) hfirst
          (fun packet hmem => hlength packet (List.mem_cons_of_mem _ hmem)) with
        ⟨messages, hmessages, hsignals, hall⟩
      refine ⟨(content, signal) :: messages, ?_, .cons hsignal hsignals, ?_⟩
      · have hcons : replyPackets order encoder (reply :: replies) =
            (ReplyEncoder.encode encoder order reply).2 ::
              replyPackets order (ReplyEncoder.encode encoder order reply).1 replies := rfl
        rw [hcons, hmessages, hpacket]
        rfl
      · intro message hmessage
        rcases List.mem_cons.mp hmessage with rfl | hmessage
        · have hshort := hlength (frame content) (by
            rw [← hpacket]
            exact List.mem_cons_self)
          rw [length_frame] at hshort
          exact ⟨Nat.lt_of_add_lt_add_right hshort, hemits⟩
        · exact hall message hmessage

/-- Replies that are written to a channel one by one are signalled at its other end, each once and
in their order, however the writing, the flushing and the reading interleave. -/
theorem replies_reliable (replies : List Codec.Reply)
    (hcarried : ∀ reply ∈ replies, ReplyEncoder.Carried reply)
    (hfirst : replies.Pairwise fun _ later => ¬IsNegotiation later)
    (hlength : ∀ packet, .packet packet ∈ replyPackets order .init replies →
      packet.length < shortLength + 4) :
    ∃ messages : List (Bytes × ReplySignal),
      replyPackets order .init replies = messages.map (EncodedPacket.packet ∘ Prod.fst) ∧
        List.Forall₂ ReplyEncoder.SignalOf replies (messages.map Prod.snd) ∧
        ∀ (ioChannel : Bool) (events : List LinkEvent),
          Reliable ReplyDecoder.decode (init ioChannel messages) events := by
  rcases exists_replyContents order replies .init (.inl rfl) hcarried hfirst hlength with
    ⟨messages, hmessages, hsignals, hemits⟩
  exact ⟨packetsOf messages, hmessages, packetsOf_snd messages ▸ hsignals,
    reliable_of_separate (separate_of_emits hemits)⟩

theorem replies_reliable_two :
    ∃ messages : List (Bytes × ReplySignal),
      replyPackets ReplyEncoder.someOrder .init [.continue, .quarantine ⟨[97], by decide⟩] =
          messages.map (EncodedPacket.packet ∘ Prod.fst) ∧
        List.Forall₂ ReplyEncoder.SignalOf [.continue, .quarantine ⟨[97], by decide⟩]
          (messages.map Prod.snd) ∧
        ∀ (ioChannel : Bool) (events : List LinkEvent),
          Reliable ReplyDecoder.decode (init ioChannel messages) events := by
  apply replies_reliable
  · intro reply hreply
    rcases List.mem_cons.mp hreply with rfl | hreply
    · trivial
    · rw [List.mem_singleton.mp hreply]
      exact List.cons_ne_nil _ _
  · apply List.Pairwise.cons
    · rintro later hlater ⟨option, macrosRequests, hreply⟩
      rw [List.mem_singleton.mp hlater] at hreply
      cases hreply
    · exact List.pairwise_singleton _ _
  · intro packet hpacket
    have hpackets : replyPackets ReplyEncoder.someOrder .init
        [.continue, .quarantine ⟨[97], by decide⟩] =
        [.packet [0, 0, 0, 1, 99], .packet [0, 0, 0, 3, 113, 97, 0]] := rfl
    rw [hpackets] at hpacket
    rcases List.mem_cons.mp hpacket with heq | hpacket
    · cases heq
      decide
    · cases List.mem_singleton.mp hpacket
      decide

end Replies

end Link

end MilterManager.Agent
