import MilterManager.Agent.Link
import MilterManager.Base.Merge

/-!
# Writers that share a channel

Each leader has a writer of its own for the one pipe to the process launcher; it goes with the
leader, and what is in its buffer then is lost. The writers are those of
`milter/core/milter-writer.c`; at the other end of the pipe one agent reads and decodes.
-/

namespace MilterManager.Agent

open MilterManager.Base MilterManager.Core MilterManager.Codec

/-- The writers of a channel, what each of them was given to write, the bytes on the channel, how
much of them was read, and the reading decoder with what it signalled and the error and the result
of its calls. A packet is given by its content, with what it stands for. -/
structure SharedChannel (ι σ : Type) where
  writers : ι → Option Writer
  sent : ι → List (Bytes × σ)
  channel : Bytes
  readSize : Nat
  decoder : Decoder
  signals : List σ
  error : Option DecoderError
  outcome : Outcome

/-- What happens on a shared channel: a packet is written and flushed, the channel takes bytes of a
writer, it is flushed, a writer goes, and the channel is read. -/
inductive SharedEvent (ι σ : Type) where
  | send (source : ι) (message : Bytes × σ)
  | writable (source : ι) (size : Nat)
  | flushed (source : ι)
  | leave (source : ι)
  | read (size : Nat) (residue : Residue)

/-- The channel takes bytes or gives some. -/
def SharedEvent.IsTransfer {ι σ : Type} : SharedEvent ι σ → Prop
  | .writable _ _ | .read _ _ => True
  | _ => False

namespace SharedChannel

variable {ι σ : Type} [DecidableEq ι]

/-- A new channel; a source has a writer that is started, or none. -/
def init (ready : ι → Bool) : SharedChannel ι σ where
  writers source := if ready source then some (Writer.new true).start else none
  sent _ := []
  channel := []
  readSize := 0
  decoder := .init
  signals := []
  error := none
  outcome := .success

/-- The writer of a source and the channel change. -/
def update (s : SharedChannel ι σ) (source : ι) (writer : Option Writer) : SharedChannel ι σ :=
  { s with writers := Function.update s.writers source writer }

/-- `milter_writer_write` and `milter_writer_flush`, as
`milter/manager/milter-manager-children.c:2567` calls them. -/
def send (s : SharedChannel ι σ) (source : ι) (message : Bytes × σ) : SharedChannel ι σ :=
  match s.writers source with
  | none => s
  | some writer =>
      match writer.write (frame message.1) with
      | .error _ => s
      | .ok written =>
          { s.update source (some (written.flush.toOption.getD written)) with
            sent := Function.update s.sent source (s.sent source ++ [message]) }

/-- `write_watch_func`, when the channel takes up to `size` bytes. -/
def writable (s : SharedChannel ι σ) (source : ι) (size : Nat) : SharedChannel ι σ :=
  match s.writers source with
  | none => s
  | some writer =>
      if writer.writeWatch then
        { s.update source (some (writer.writeWatchFunc size).1) with
          channel := s.channel ++ (writer.writeWatchFunc size).2 }
      else s

/-- `flush_watch_func`; nothing listens to `flushed`. -/
def flushed (s : SharedChannel ι σ) (source : ι) : SharedChannel ι σ :=
  s.update source ((s.writers source).map fun writer => { writer with flushWatch := false })

/-- `read_from_channel` and `cb_reader_flow`. -/
def read (handler : Handler σ) (s : SharedChannel ι σ) (size : Nat) (residue : Residue) :
    SharedChannel ι σ :=
  let chunk := (s.channel.drop s.readSize).take (min size readBufferSize)
  let decoding := s.decoder.decode handler residue chunk
  { s with
    readSize := s.readSize + chunk.length
    decoder := decoding.decoder
    signals := s.signals ++ decoding.signals
    error := s.error <|> decoding.error
    outcome := if s.outcome = .success then decoding.outcome else s.outcome }

/-- One event. -/
def step (handler : Handler σ) (s : SharedChannel ι σ) : SharedEvent ι σ → SharedChannel ι σ
  | .send source message => s.send source message
  | .writable source size => s.writable source size
  | .flushed source => s.flushed source
  | .leave source => s.update source none
  | .read size residue => s.read handler size residue

/-- The writer of a source is there and has nothing to write. -/
def Idle (s : SharedChannel ι σ) (source : ι) : Prop :=
  ∃ writer, s.writers source = some writer ∧ writer.buffer = []

/-- What is signalled, without an error, is a merge of beginnings of what the sources have sent, and
of all of it where a writer has nothing to write and the channel is read. -/
structure Merges (s : SharedChannel ι σ) : Prop where
  merge : ∃ merge : List (ι × σ), s.signals = merge.map Prod.snd ∧
    (∀ source, partOf source merge <+: (s.sent source).map Prod.snd) ∧
    (s.readSize = s.channel.length → ∀ source, s.Idle source →
      partOf source merge = (s.sent source).map Prod.snd)
  error : s.error = none
  outcome : s.outcome = .success

/-- A writer that writes what its source has sent last. -/
structure Holds (writer : Writer) (waiting : List (Bytes × σ)) : Prop where
  buffer : writer.buffer = streamOf waiting
  live : writer.buffer ≠ [] → writer.writeWatch = true
  ready : writer.ioChannel = true ∧ writer.loop = true

/-- What holds of a channel on which each writer writes whole packets. -/
structure Inv (good : Bytes × σ → Prop) (s : SharedChannel ι σ) : Prop where
  merge : ∃ (written : List (ι × Bytes × σ)) (waiting : ι → List (Bytes × σ)),
    (∀ source, s.sent source = partOf source written ++ waiting source) ∧
    (∀ source writer, s.writers source = some writer → Holds writer (waiting source)) ∧
    s.channel = streamOf (written.map Prod.snd) ∧
    ∃ done rest left, written = done ++ rest ∧ s.signals = done.map (·.2.2) ∧
      s.channel.take s.readSize = streamOf (done.map Prod.snd) ++ left ∧ s.decoder.Holds left ∧
      s.decoder.Waits
  good : ∀ source, ∀ message ∈ s.sent source, good message
  read : s.readSize ≤ s.channel.length
  error : s.error = none
  outcome : s.outcome = .success

variable {handler : Handler σ} {good : Bytes × σ → Prop} {s : SharedChannel ι σ}

theorem streamOf_concat (messages : List (Bytes × σ)) (message : Bytes × σ) :
    streamOf (messages ++ [message]) = streamOf messages ++ frame message.1 := by
  rw [streamOf_append]
  exact congrArg (streamOf messages ++ ·) (List.append_nil _)

theorem eq_nil_of_streamOf_eq_nil {messages : List (Bytes × σ)} (h : streamOf messages = []) :
    messages = [] := by
  cases messages with
  | nil => rfl
  | cons message messages => cases h

theorem signals_send (s : SharedChannel ι σ) (source : ι) (message : Bytes × σ) :
    (s.send source message).signals = s.signals := by
  rw [send]
  split
  · rfl
  · split <;> rfl

theorem signals_writable (s : SharedChannel ι σ) (source : ι) (size : Nat) :
    (s.writable source size).signals = s.signals := by
  rw [writable]
  split
  · rfl
  · split <;> rfl

theorem inv_init (good : Bytes × σ → Prop) (ready : ι → Bool) :
    Inv good (init ready : SharedChannel ι σ) where
  merge := by
    refine ⟨[], fun _ => [], fun _ => rfl, ?_, rfl, [], [], [], rfl, rfl, rfl, rfl, rfl⟩
    intro source writer hwriter
    have hready : (if ready source then some (Writer.new true).start else none) = some writer :=
      hwriter
    split at hready
    · cases hready
      exact ⟨rfl, fun h => absurd rfl h, rfl, rfl⟩
    · cases hready
  good _ message hmessage := absurd hmessage List.not_mem_nil
  read := Nat.le_refl 0
  error := rfl
  outcome := rfl

/-- A packet that is written and flushed waits behind the others. -/
theorem Holds.send {writer : Writer} {waiting : List (Bytes × σ)} (h : Holds writer waiting)
    (message : Bytes × σ) :
    ∃ written, writer.write (frame message.1) = .ok written ∧
      Holds (written.flush.toOption.getD written) (waiting ++ [message]) := by
  have hframe : frame message.1 ≠ [] := List.cons_ne_nil _ _
  rcases writer with ⟨ioChannel, loop, buffer, flushPoint, writeWatch, flushWatch⟩
  rcases h.ready with ⟨rfl, rfl⟩
  refine ⟨⟨true, true, buffer ++ frame message.1, flushPoint, true, flushWatch⟩, ?_, ?_⟩
  · simp [Writer.write, hframe]
  · exact
      { buffer := by
          rw [streamOf_concat, ← h.buffer]
          rfl
        live := fun _ => rfl
        ready := ⟨rfl, rfl⟩ }

/-- The channel takes nothing of a writer, or all that waits. -/
theorem Holds.writable {writer : Writer} {waiting : List (Bytes × σ)} (h : Holds writer waiting)
    {size : Nat} (hsize : size = 0 ∨ writer.buffer.length ≤ size) :
    (writer.writeWatchFunc size).2 = [] ∧ Holds (writer.writeWatchFunc size).1 waiting ∨
      (writer.writeWatchFunc size).2 = streamOf waiting ∧
        Holds (writer.writeWatchFunc size).1 ([] : List (Bytes × σ)) := by
  rw [Writer.writeWatchFunc]
  by_cases hbuffer : writer.buffer = []
  · rw [if_pos hbuffer]
    exact .inl ⟨rfl, h.buffer, fun hne => absurd hbuffer hne, h.ready⟩
  · rw [if_neg hbuffer]
    have hpos : 0 < writer.buffer.length := List.length_pos_iff.mpr hbuffer
    rcases hsize with rfl | hsize
    · rw [Nat.zero_min, if_pos rfl]
      exact .inl ⟨rfl, h⟩
    · rw [Nat.min_eq_right hsize, if_neg (Nat.ne_of_gt hpos), List.take_length, List.drop_length]
      apply Or.inr
      refine ⟨h.buffer, ?_⟩
      dsimp only
      split
      · exact ⟨rfl, fun hne => absurd rfl hne, h.ready⟩
      · exact ⟨rfl, fun hne => absurd rfl hne, h.ready⟩

/-- A writer changes, and what waits in it. -/
theorem holds_update {writers : ι → Option Writer} {waiting : ι → List (Bytes × σ)}
    (h : ∀ source writer, writers source = some writer → Holds writer (waiting source))
    (source : ι) {changed : Option Writer} {rest : List (Bytes × σ)}
    (hchanged : ∀ writer, changed = some writer → Holds writer rest) :
    ∀ other writer, Function.update writers source changed other = some writer →
      Holds writer (Function.update waiting source rest other) := by
  intro other writer hwriter
  by_cases hother : other = source
  · subst hother
    rw [Function.update_self] at hwriter ⊢
    exact hchanged writer hwriter
  · rw [Function.update_of_ne hother] at hwriter ⊢
    exact h other writer hwriter

theorem inv_send (h : Inv good s) (source : ι) {message : Bytes × σ} (hmessage : good message) :
    Inv good (s.send source message) := by
  rw [send]
  cases hwriter : s.writers source with
  | none => exact h
  | some writer =>
      rcases h.merge with ⟨written, waiting, hsent, hholds, hrest⟩
      rcases (hholds source writer hwriter).send message with ⟨next, hwrite, hnext⟩
      dsimp only
      rw [hwrite]
      exact
        { merge := by
            refine ⟨written, Function.update waiting source (waiting source ++ [message]), ?_, ?_,
              hrest⟩
            · intro other
              show Function.update s.sent source _ other = _
              by_cases hother : other = source
              · subst hother
                rw [Function.update_self, Function.update_self, hsent, List.append_assoc]
              · rw [Function.update_of_ne hother, Function.update_of_ne hother]
                exact hsent other
            · apply holds_update hholds source
              rintro _ ⟨⟩
              exact hnext
          good := by
            intro other
            show ∀ sent ∈ Function.update s.sent source _ other, good sent
            by_cases hother : other = source
            · subst hother
              rw [Function.update_self]
              intro sent hmem
              rcases List.mem_append.mp hmem with hmem | hmem
              · exact h.good other sent hmem
              · rw [List.mem_singleton.mp hmem]
                exact hmessage
            · rw [Function.update_of_ne hother]
              exact h.good other
          read := h.read
          error := h.error
          outcome := h.outcome }

theorem inv_writable (h : Inv good s) (source : ι) {size : Nat}
    (hsize : ∀ writer, s.writers source = some writer → size = 0 ∨ writer.buffer.length ≤ size) :
    Inv good (s.writable source size) := by
  rw [writable]
  cases hwriter : s.writers source with
  | none => exact h
  | some writer =>
      dsimp only
      split
      · rcases h.merge with ⟨written, waiting, hsent, hholds, hchannel, done, rest, left, hwritten,
          hsignals, hread, hdecoder⟩
        rcases (hholds source writer hwriter).writable (hsize writer hwriter) with
          ⟨hbytes, hnext⟩ | ⟨hbytes, hnext⟩
        · rw [hbytes, List.append_nil]
          exact
            { merge := by
                refine ⟨written, Function.update waiting source (waiting source), ?_, ?_, hchannel,
                  done, rest, left, hwritten, hsignals, hread, hdecoder⟩
                · rw [Function.update_eq_self]
                  exact hsent
                · apply holds_update hholds source
                  rintro _ ⟨⟩
                  exact hnext
              good := h.good
              read := h.read
              error := h.error
              outcome := h.outcome }
        · rw [hbytes]
          exact
            { merge := by
                refine ⟨written ++ givenBy source (waiting source),
                  Function.update waiting source [], ?_, ?_, ?_, done,
                  rest ++ givenBy source (waiting source), left, ?_, hsignals, ?_, hdecoder⟩
                · intro other
                  show s.sent other = _
                  rw [partOf_append, hsent]
                  by_cases hother : other = source
                  · subst hother
                    rw [partOf_givenBy, Function.update_self, List.append_nil]
                  · rw [partOf_givenBy_of_ne fun heq => hother heq.symm,
                      Function.update_of_ne hother, List.append_nil]
                · apply holds_update hholds source
                  rintro _ ⟨⟩
                  exact hnext
                · rw [List.map_append, streamOf_append, map_snd_givenBy, hchannel]
                · rw [hwritten, List.append_assoc]
                · show (s.channel ++ _).take s.readSize = _
                  rw [List.take_append_of_le_length h.read]
                  exact hread
              good := h.good
              read := by
                apply h.read.trans
                show _ ≤ (s.channel ++ _).length
                rw [List.length_append]
                omega
              error := h.error
              outcome := h.outcome }
      · exact h

/-- A writer is flushed or goes. -/
theorem inv_update (h : Inv good s) (source : ι) {changed : Option Writer}
    (hchanged : ∀ waiting : List (Bytes × σ),
      (∀ writer, s.writers source = some writer → Holds writer waiting) →
      ∀ writer, changed = some writer → Holds writer waiting) :
    Inv good (s.update source changed) where
  merge := by
    rcases h.merge with ⟨written, waiting, hsent, hholds, hrest⟩
    refine ⟨written, waiting, hsent, ?_, hrest⟩
    have hnext := holds_update hholds source (hchanged (waiting source) (hholds source))
    rw [Function.update_eq_self] at hnext
    exact hnext
  good := h.good
  read := h.read
  error := h.error
  outcome := h.outcome

/-- What was written was sent by its source. -/
theorem Inv.good_of_mem (h : Inv good s) {written : List (ι × Bytes × σ)}
    {waiting : ι → List (Bytes × σ)}
    (hsent : ∀ source, s.sent source = partOf source written ++ waiting source)
    {entry : ι × Bytes × σ} (hentry : entry ∈ written) : good entry.2 := by
  apply h.good entry.1
  rw [hsent]
  exact List.mem_append_left _ (mem_partOf hentry)

theorem inv_read (hgood : ∀ messages, (∀ message ∈ messages, good message) →
      Separate handler messages) (h : Inv good s) (size : Nat) (residue : Residue) :
    Inv good (s.read handler size residue) := by
  rcases h.merge with ⟨written, waiting, hsent, hholds, hchannel, done, rest, left, hwritten,
    hsignals, hread, hdecoder, hwaits⟩
  let chunk := (s.channel.drop s.readSize).take (min size readBufferSize)
  have hchunk : s.readSize + chunk.length ≤ s.channel.length := by
    have hlength : chunk.length ≤ (s.channel.drop s.readSize).length :=
      (List.take_prefix _ _).length_le
    have hle := h.read
    rw [List.length_drop] at hlength
    omega
  have htake : s.channel.take (s.readSize + chunk.length) =
      streamOf (done.map Prod.snd) ++ (left ++ chunk) := by
    rw [List.take_add, hread, List.append_assoc]
    apply congrArg (streamOf (done.map Prod.snd) ++ ·)
    exact congrArg (left ++ ·) (List.prefix_iff_eq_take.mp (List.take_prefix _ _)).symm
  have hbegins : left ++ chunk <+: streamOf (rest.map Prod.snd) := by
    have hstream : streamOf (done.map Prod.snd) ++ (left ++ chunk) <+:
        streamOf (done.map Prod.snd) ++ streamOf (rest.map Prod.snd) := by
      rw [← htake, ← streamOf_append, ← List.map_append, ← hwritten, ← hchannel]
      exact List.take_prefix _ _
    exact (List.prefix_append_right_inj _).mp hstream
  have hrest : Separate handler (rest.map Prod.snd) := by
    apply hgood
    intro message hmessage
    rcases List.mem_map.mp hmessage with ⟨entry, hentry, rfl⟩
    exact h.good_of_mem hsent (hwritten ▸ List.mem_append_right done hentry)
  have hwalk := walk_decode handler s.decoder left ⟨chunk, residue⟩ hdecoder hwaits
  rcases hwalk.over rfl hrest hbegins with ⟨more, rest', left', hmore, hpending, hemitted, herror,
    houtcome, hdecoder', hwaits'⟩
  rcases List.map_eq_append_iff.mp hmore with ⟨signalled, unread, rfl, rfl, rfl⟩
  exact
    { merge := by
        refine ⟨written, waiting, hsent, hholds, hchannel, done ++ signalled, unread, left', ?_, ?_,
          ?_, hdecoder', hwaits'⟩
        · rw [hwritten, List.append_assoc]
        · rw [List.map_append, ← hsignals]
          apply congrArg (s.signals ++ ·)
          rw [List.map_map] at hemitted
          exact hemitted
        · rw [List.map_append, streamOf_append, List.append_assoc]
          exact htake.trans (congrArg (streamOf (done.map Prod.snd) ++ ·) hpending)
      good := h.good
      read := hchunk
      error := by
        show (s.error <|> _) = none
        rw [h.error]
        exact herror
      outcome := by
        show (if s.outcome = .success then _ else _) = Outcome.success
        rw [if_pos h.outcome]
        exact houtcome }

theorem inv_flushed (h : Inv good s) (source : ι) : Inv good (s.flushed source) := by
  apply inv_update h source
  intro waiting hholds writer hwriter
  rcases Option.map_eq_some_iff.mp hwriter with ⟨before, hbefore, rfl⟩
  have hbefore := hholds before hbefore
  exact ⟨hbefore.buffer, hbefore.live, hbefore.ready⟩

theorem inv_leave (h : Inv good s) (source : ι) : Inv good (s.update source none) := by
  apply inv_update h source
  rintro _ _ _ ⟨⟩

theorem Inv.merges (hgood : ∀ messages, (∀ message ∈ messages, good message) →
      Separate handler messages) (h : Inv good s) : Merges s where
  merge := by
    rcases h.merge with ⟨written, waiting, hsent, hholds, hchannel, done, rest, left, hwritten,
      hsignals, hread, hdecoder, hwaits⟩
    have hpart (source : ι) : (s.sent source).map Prod.snd =
        partOf source (done.map (Prod.map id Prod.snd)) ++
          ((partOf source rest).map Prod.snd ++ (waiting source).map Prod.snd) := by
      rw [partOf_map, hsent, hwritten, partOf_append, List.map_append, List.map_append,
        List.append_assoc]
    refine ⟨done.map (Prod.map id Prod.snd), ?_, ?_, ?_⟩
    · rw [hsignals, List.map_map]
      rfl
    · intro source
      rw [hpart]
      exact List.prefix_append _ _
    · rintro hall source ⟨writer, hwriter, hempty⟩
      have hwaiting : waiting source = [] := by
        have hbuffer := (hholds source writer hwriter).buffer
        rw [hempty] at hbuffer
        exact eq_nil_of_streamOf_eq_nil hbuffer.symm
      have hrest : rest = [] := by
        rw [hall, List.take_length, hchannel, hwritten, List.map_append, streamOf_append] at hread
        rw [← List.append_cancel_left hread] at hdecoder
        have hseparate : Separate handler (rest.map Prod.snd) := by
          apply hgood
          intro message hmessage
          rcases List.mem_map.mp hmessage with ⟨entry, hentry, rfl⟩
          exact h.good_of_mem hsent (hwritten ▸ List.mem_append_right done hentry)
        exact List.map_eq_nil_iff.mp (eq_nil_of_waits hseparate hdecoder hwaits)
      rw [hpart, hrest, hwaiting]
      exact (List.append_nil _).symm
  error := h.error
  outcome := h.outcome

section Drain

/-- How much a writer has to write. -/
def bufferSize (s : SharedChannel ι σ) (source : ι) : Nat :=
  (s.writers source).elim 0 fun writer => writer.buffer.length

omit [DecidableEq ι] in
theorem length_le_bufferSize (s : SharedChannel ι σ) (source : ι) (writer : Writer)
    (hwriter : s.writers source = some writer) :
    s.bufferSize source = 0 ∨ writer.buffer.length ≤ s.bufferSize source := by
  apply Or.inr
  rw [bufferSize, hwriter]
  exact Nat.le_refl _

/-- The channel takes the buffer of one writer; the others stay as they are. -/
theorem writable_bufferSize (h : Inv good s) (source : ι) :
    (s.writable source (s.bufferSize source)).sent = s.sent ∧
      (∀ other, (s.writers other).isSome = true →
        ((s.writable source (s.bufferSize source)).writers other).isSome = true) ∧
      (∀ other, s.Idle other → (s.writable source (s.bufferSize source)).Idle other) ∧
      ((s.writers source).isSome = true →
        (s.writable source (s.bufferSize source)).Idle source) := by
  rw [writable]
  cases hwriter : s.writers source with
  | none =>
      refine ⟨rfl, fun other h => h, fun other h => h, fun h => ?_⟩
      cases h
  | some writer =>
      rcases h.merge with ⟨written, waiting, hsent, hholds, hrest⟩
      have hlive := (hholds source writer hwriter).live
      have hsize : s.bufferSize source = writer.buffer.length := by
        rw [bufferSize, hwriter]
        rfl
      have hempty : (writer.writeWatchFunc writer.buffer.length).1.buffer = [] := by
        rw [Writer.writeWatchFunc]
        by_cases hbuffer : writer.buffer = []
        · rw [if_pos hbuffer]
          exact hbuffer
        · rw [if_neg hbuffer, Nat.min_self,
            if_neg (Nat.ne_of_gt (List.length_pos_iff.mpr hbuffer))]
          dsimp only
          split
          · exact List.drop_length
          · exact List.drop_length
      dsimp only
      rw [hsize]
      by_cases hwatch : writer.writeWatch = true
      · rw [if_pos hwatch]
        refine ⟨rfl, ?_, ?_, fun _ => ⟨_, Function.update_self .., hempty⟩⟩
        · intro other hother
          show (Function.update s.writers source _ other).isSome = true
          by_cases heq : other = source
          · rw [heq, Function.update_self]
            rfl
          · rw [Function.update_of_ne heq]
            exact hother
        · intro other hother
          by_cases heq : other = source
          · rw [heq]
            exact ⟨_, Function.update_self .., hempty⟩
          · rcases hother with ⟨idle, hidle, hnothing⟩
            exact ⟨idle, (Function.update_of_ne heq ..).trans hidle, hnothing⟩
      · rw [if_neg hwatch]
        refine ⟨rfl, fun other h => h, fun other h => h, fun _ => ⟨writer, hwriter, ?_⟩⟩
        by_contra hbuffer
        exact hwatch (hlive hbuffer)

theorem exists_writes (handler : Handler σ) (sources : List ι) :
    ∀ {s : SharedChannel ι σ}, Inv good s →
      ∃ writes : List (SharedEvent ι σ), (∀ event ∈ writes, event.IsTransfer) ∧
        Inv good (writes.foldl (step handler) s) ∧
        (writes.foldl (step handler) s).sent = s.sent ∧
        (∀ other, s.Idle other → (writes.foldl (step handler) s).Idle other) ∧
        ∀ source ∈ sources, (s.writers source).isSome = true →
          (writes.foldl (step handler) s).Idle source := by
  induction sources with
  | nil =>
      intro s h
      exact ⟨[], fun event hevent => absurd hevent List.not_mem_nil, h, rfl, fun _ h => h,
        fun source hsource => absurd hsource List.not_mem_nil⟩
  | cons source sources ih =>
      intro s h
      have hnext := writable_bufferSize h source
      rcases ih (inv_writable h source (s.length_le_bufferSize source)) with
        ⟨writes, honly, hinv, hsent, hstay, hall⟩
      refine ⟨.writable source (s.bufferSize source) :: writes, ?_, hinv, ?_, ?_, ?_⟩
      · intro event hevent
        rcases List.mem_cons.mp hevent with rfl | hevent
        · trivial
        · exact honly event hevent
      · exact hsent.trans hnext.1
      · exact fun other hother => hstay other (hnext.2.2.1 other hother)
      · intro other hother hsome
        rcases List.mem_cons.mp hother with rfl | hother
        · exact hstay other (hnext.2.2.2 hsome)
        · exact hall other hother (hnext.2.1 other hsome)

theorem exists_reads (hgood : ∀ messages, (∀ message ∈ messages, good message) →
    Separate handler messages) (n : Nat) :
    ∀ {s : SharedChannel ι σ}, Inv good s → s.channel.length - s.readSize ≤ n →
      ∃ reads : List (SharedEvent ι σ), (∀ event ∈ reads, event.IsTransfer) ∧
        Inv good (reads.foldl (step handler) s) ∧
        (reads.foldl (step handler) s).sent = s.sent ∧
        (reads.foldl (step handler) s).writers = s.writers ∧
        (reads.foldl (step handler) s).readSize =
          (reads.foldl (step handler) s).channel.length := by
  induction n with
  | zero =>
      intro s h hle
      have hread := h.read
      refine ⟨[], fun event hevent => absurd hevent List.not_mem_nil, h, rfl, rfl, ?_⟩
      show s.readSize = s.channel.length
      omega
  | succ n ih =>
      intro s h hle
      have hsize : (s.read handler readBufferSize fun _ _ => 0).readSize =
          s.readSize + min readBufferSize (s.channel.length - s.readSize) := by
        show s.readSize + ((s.channel.drop s.readSize).take _).length = _
        rw [List.length_take, List.length_drop, Nat.min_self]
      have hpos : 0 < readBufferSize := by decide
      rcases ih (inv_read hgood h readBufferSize fun _ _ => 0) (by
          show s.channel.length - _ ≤ n
          rw [hsize]
          omega) with ⟨reads, honly, hinv, hsent, hwriters, hall⟩
      refine ⟨.read readBufferSize (fun _ _ => 0) :: reads, ?_, hinv, hsent, hwriters, hall⟩
      intro event hevent
      rcases List.mem_cons.mp hevent with rfl | hevent
      · trivial
      · exact honly event hevent

/-- The channel can always take and give bytes so that what some sources have sent is signalled. -/
theorem exists_drained (hgood : ∀ messages, (∀ message ∈ messages, good message) →
      Separate handler messages) (h : Inv good s) (sources : List ι) :
    ∃ transfers : List (SharedEvent ι σ), (∀ event ∈ transfers, event.IsTransfer) ∧
      (transfers.foldl (step handler) s).sent = s.sent ∧
      ∃ merge : List (ι × σ), (transfers.foldl (step handler) s).signals = merge.map Prod.snd ∧
        ∀ source ∈ sources, (s.writers source).isSome = true →
          partOf source merge = (s.sent source).map Prod.snd := by
  rcases exists_writes handler sources h with ⟨writes, hwrites, hinv, hsent, _, hidle⟩
  rcases exists_reads hgood _ hinv (Nat.le_refl _) with
    ⟨reads, hreads, hinv', hsent', hwriters, hall⟩
  refine ⟨writes ++ reads, ?_, ?_, ?_⟩
  · intro event hevent
    rcases List.mem_append.mp hevent with hevent | hevent
    · exact hwrites event hevent
    · exact hreads event hevent
  · rw [List.foldl_append]
    exact hsent'.trans hsent
  · rw [List.foldl_append]
    rcases (hinv'.merges hgood).merge with ⟨merge, hsignals, _, hequal⟩
    refine ⟨merge, hsignals, fun source hsource hsome => ?_⟩
    rcases hidle source hsource hsome with ⟨writer, hwriter, hbuffer⟩
    rw [hequal hall source ⟨writer, by rw [hwriters]; exact hwriter, hbuffer⟩, hsent', hsent]

end Drain

end SharedChannel

end MilterManager.Agent
