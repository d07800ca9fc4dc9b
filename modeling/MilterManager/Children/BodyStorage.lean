import Mathlib.Data.List.TakeWhile
import MilterManager.Base.Chunks
import MilterManager.Base.Comparison
import MilterManager.Children.RunKeeps

/-!
# The storage of a body

The body of a message is kept in memory up to `MAX_ON_MEMORY_BODY_SIZE` and in a temporary file
beyond, whose one position serves to append to it and to replay it,
`milter/manager/milter-manager-children.c:3712` on. A run of the children object is compared with
the same run that keeps every body in memory, and with what a history of the uses of the body says
of it.
-/

namespace MilterManager.Children

open MilterManager.Base MilterManager.Core MilterManager.Server MilterManager.Base.Proc.Law

/-- How far the replay of a body to a child has got: what the child has taken, and the chunk that it
is about to take. -/
inductive Replay where
  | broken
  | steady (sent : Bytes)
  | handing (sent chunk : Bytes)
deriving DecidableEq, Repr

/-- What was done with the body of a message: the chunks that came in or those of the last
replacement, the child that made it, the replay, and what was emitted. -/
structure BodyHistory where
  expected : Bytes
  replacer : Option ChildId
  replay : Replay
  emitted : Bytes
deriving DecidableEq, Repr

namespace Replay

/-- A chunk is handed over. -/
def hand (chunk : Bytes) : Replay → Replay
  | .steady sent => .handing sent chunk
  | _ => .broken

/-- The child has taken the chunk. -/
def take : Replay → Replay
  | .handing sent chunk => .steady (sent ++ chunk)
  | _ => .broken

/-- A chunk is about to be taken. -/
def isHanding : Replay → Bool
  | .handing _ _ => true
  | _ => false

/-- What the child has taken. -/
def sent? : Replay → Option Bytes
  | .broken => none
  | .steady sent | .handing sent _ => some sent

/-- What the child has taken or is about to take. -/
def read? : Replay → Option Bytes
  | .broken => none
  | .steady sent => some sent
  | .handing sent chunk => some (sent ++ chunk)

end Replay

/-- The body that is stored. -/
def Storage.stored (storage : Storage) : Bytes :=
  match storage.body with
  | some body => body
  | none => (storage.bodyFile.map (·.content)).getD []

/-- The body that the object stores. -/
def State.stored (s : State) : Bytes := s.storage.stored

/-- The next chunk would go to the end of what is stored. -/
def State.Appends (s : State) : Prop :=
  ∀ file ∈ s.bodyFile, file.position = file.content.length

/-- `init_command_waiting_child_queue` for the body would find nothing to do. -/
def State.HasQueued (s : State) : Prop :=
  .body ∈ s.commandQueue ∧
    (s.commandWaitingChildQueue ≠ [] ∨
      ∀ child ∈ s.milters, (s.context child).isProcessingMessage = false)

/-- The copy of a chunk up to its first `NUL`, read in full length, is the chunk. -/
def State.Copies (s : State) (chunk : Bytes) : Prop := readCopy s chunk chunk.length = chunk

namespace BodyHistory

/-- Before the first message. -/
def init : BodyHistory := ⟨[], none, .broken, []⟩

/-- A use of the body. -/
def use (h : BodyHistory) : BodyUse → BodyHistory
  | .write chunk =>
      { h with expected := h.expected ++ chunk, replacer := none, replay := .broken }
  | .rewind => { h with replay := .broken }
  | .replace child chunk =>
      { h with
        expected := if h.replacer = some child then h.expected ++ chunk else chunk
        replacer := some child
        replay := .broken }
  | .begin => { h with replacer := none, replay := .steady [] }
  | .send _ => h
  | .hand _ chunk => { h with replay := h.replay.hand chunk }
  | .handed _ sent => { h with replay := if sent then h.replay.take else .broken }
  | .complete _ => { h with replay := .broken }
  | .emit => { h with replay := .broken, emitted := [] }
  | .emitted => h

/-- An entry of the trace. -/
def next (h : BodyHistory) : Action → BodyHistory
  | .used _ use => h.use use
  | .emitted _ (.replaceBody chunk) => { h with emitted := h.emitted ++ chunk }
  | .disposed => { h with expected := [], replacer := none, replay := .broken }
  | _ => h

/-- A chunk is written to the end; the first chunk of a child's replacement finds the flag reset,
and only that one; a replay has begun and goes on where it was, with a chunk size that is not zero;
while a child takes a chunk nothing else is done with the body, nor is another child queued for a
body that is in the file; and a chunk in a signal is one that its copy gives back. -/
def Orderly (h : BodyHistory) : Action → Prop
  | .used s (.write _) => s.Appends
  | .used s (.replace child chunk) =>
      s.Copies chunk ∧
        (h.expected = [] ∨ (s.replacedBodyForEachChild = true ↔ h.replacer = some child)) ∧
        (s.replacedBodyForEachChild = true → s.Appends)
  | .used s (.send _) =>
      (h.replay.sent?.isSome && !h.replay.isHanding) = true ∧
        (h.expected ≠ [] → 0 < s.chunkSize.value)
  | .used s (.handed _ sent) =>
      sent = true → h.replay.isHanding = true ∧ (s.body = none → s.HasQueued)
  | .used s .emit =>
      (h.expected ≠ [] → 0 < s.chunkSize.value) ∧
        ∀ chunk ∈ chunks s.chunkSize.value h.expected, s.Copies chunk
  | _ => True

/-- What is stored is what came in. A child is handed the next chunk of it, of one byte up to the
chunk size, and has it all in the end; so is it with the signals for it, whose loop ends. -/
def Served (h : BodyHistory) : Action → Prop
  | .used s (.hand _ chunk) =>
      s.stored = h.expected ∧ 1 ≤ chunk.length ∧ chunk.length ≤ s.chunkSize.value ∧
        ∃ sent, h.replay = .steady sent ∧ sent ++ chunk <+: h.expected
  | .used s (.complete _) => s.stored = h.expected ∧ h.replay = .steady h.expected
  | .used s .emitted => s.stored = h.expected ∧ h.emitted = h.expected
  | .used s _ => s.stored = h.expected
  | .emitted s (.replaceBody chunk) =>
      1 ≤ chunk.length ∧ chunk.length ≤ s.chunkSize.value ∧ h.emitted ++ chunk <+: h.expected
  | .endless => False
  | _ => True

end BodyHistory

section Decidable

variable {s : State} {h : BodyHistory}

instance : Decidable s.Appends :=
  inferInstanceAs (Decidable (∀ file ∈ s.bodyFile, file.position = file.content.length))

instance : Decidable s.HasQueued :=
  inferInstanceAs (Decidable (.body ∈ s.commandQueue ∧ (s.commandWaitingChildQueue ≠ [] ∨
    ∀ child ∈ s.milters, (s.context child).isProcessingMessage = false)))

instance {chunk : Bytes} : Decidable (s.Copies chunk) :=
  inferInstanceAs (Decidable (readCopy s chunk chunk.length = chunk))

instance decidableOrderly : ∀ action, Decidable (h.Orderly action)
  | .used s (.write _) => inferInstanceAs (Decidable s.Appends)
  | .used s (.replace child chunk) =>
      inferInstanceAs (Decidable (s.Copies chunk ∧
        (h.expected = [] ∨ (s.replacedBodyForEachChild = true ↔ h.replacer = some child)) ∧
        (s.replacedBodyForEachChild = true → s.Appends)))
  | .used s (.send _) =>
      inferInstanceAs (Decidable ((h.replay.sent?.isSome && !h.replay.isHanding) = true ∧
        (h.expected ≠ [] → 0 < s.chunkSize.value)))
  | .used s (.handed _ sent) =>
      inferInstanceAs (Decidable (sent = true →
        h.replay.isHanding = true ∧ (s.body = none → s.HasQueued)))
  | .used s .emit =>
      inferInstanceAs (Decidable ((h.expected ≠ [] → 0 < s.chunkSize.value) ∧
        ∀ chunk ∈ chunks s.chunkSize.value h.expected, s.Copies chunk))
  | .used _ .rewind | .used _ .begin | .used _ (.hand _ _) | .used _ (.complete _)
  | .used _ .emitted | .emitted _ _ | .called _ _ _ | .unreachable _ _ | .sent _ _ | .queued _
  | .disposed | .endless => isTrue trivial

instance decidableContinues {chunk expected : Bytes} : ∀ replay : Replay,
    Decidable (∃ sent, replay = .steady sent ∧ sent ++ chunk <+: expected)
  | .broken => isFalse fun ⟨_, heq, _⟩ => nomatch heq
  | .handing _ _ => isFalse fun ⟨_, heq, _⟩ => nomatch heq
  | .steady sent =>
      decidable_of_iff (sent ++ chunk <+: expected)
        ⟨fun hbegins => ⟨sent, rfl, hbegins⟩,
          fun ⟨_, heq, hbegins⟩ => Replay.steady.inj heq ▸ hbegins⟩

instance decidableServed : ∀ action, Decidable (h.Served action)
  | .used s (.hand _ chunk) =>
      inferInstanceAs (Decidable (s.stored = h.expected ∧ 1 ≤ chunk.length ∧
        chunk.length ≤ s.chunkSize.value ∧
        ∃ sent, h.replay = .steady sent ∧ sent ++ chunk <+: h.expected))
  | .used s (.complete _) =>
      inferInstanceAs (Decidable (s.stored = h.expected ∧ h.replay = .steady h.expected))
  | .used s .emitted =>
      inferInstanceAs (Decidable (s.stored = h.expected ∧ h.emitted = h.expected))
  | .used s (.write _) | .used s .rewind | .used s (.replace _ _) | .used s .begin
  | .used s (.send _) | .used s (.handed _ _) | .used s .emit =>
      inferInstanceAs (Decidable (s.stored = h.expected))
  | .emitted s (.replaceBody chunk) =>
      inferInstanceAs (Decidable (1 ≤ chunk.length ∧ chunk.length ≤ s.chunkSize.value ∧
        h.emitted ++ chunk <+: h.expected))
  | .endless => isFalse id
  | .emitted _ (.negotiateReply _) | .emitted _ .continue | .emitted _ (.replyCode _ _ _)
  | .emitted _ .temporaryFailure | .emitted _ .reject | .emitted _ .accept | .emitted _ .discard
  | .emitted _ .skip | .emitted _ .progress | .emitted _ (.header _) | .emitted _ (.changeFrom _ _)
  | .emitted _ (.addRecipient _ _) | .emitted _ (.deleteRecipient _) | .emitted _ (.quarantine _)
  | .emitted _ .connectionFailure | .emitted _ .shutdown | .emitted _ .abort | .emitted _ (.error _)
  | .emitted _ .finished | .called _ _ _ | .unreachable _ _ | .sent _ _ | .queued _
  | .disposed => isTrue trivial

end Decidable

/-- The body is in memory for both, or nothing is stored, and both are where the replay is. -/
structure InMemory (replay : Replay) (code memory : Storage) : Prop where
  bodyFile : code.bodyFile = none
  body : code.body = memory.body
  sent : ∀ sent ∈ replay.sent?, code.body ≠ none → code.sentBodyOffset = sent.length

/-- The body is in a file, whose position is where the replay is. -/
structure InFile (replay : Replay) (code memory : Storage) (file : BodyFile) : Prop where
  bodyFile : code.bodyFile = some file
  body : code.body = none
  content : memory.body = some file.content
  nonempty : file.content ≠ []
  read : ∀ read ∈ replay.read?, file.position = read.length

/-- What is expected is stored, here anywhere and there in memory. -/
structure Placed (h : BodyHistory) (code memory : Storage) : Prop where
  bodyLimit : memory.bodyLimit = none
  bodyFile : memory.bodyFile = none
  expected : memory.body.getD [] = h.expected
  sent : ∀ sent ∈ h.replay.sent?, memory.body ≠ none → memory.sentBodyOffset = sent.length
  read : ∀ read ∈ h.replay.read?, read <+: h.expected
  place : InMemory h.replay code memory ∨ ∃ file, InFile h.replay code memory file

/-- What holds between a state and one that keeps the body in memory: they differ in nothing but
where the body is. -/
structure Agrees (h : BodyHistory) (s t : State) : Prop where
  same : ∀ storage, t.withStorage storage = s.withStorage storage
  placed : Placed h s.storage t.storage

/-- Two runs of the children object, the second of which keeps the body in memory. -/
def bodyComparison : Comparison State Action BodyHistory Shown where
  next := BodyHistory.next
  met := BodyHistory.Orderly
  owed := BodyHistory.Served
  seen := Action.shown
  agrees := Agrees
  pending h := h.replay.isHanding = true
  frame s t := t.storage = s.storage
  frame_refl _ := rfl
  frame_trans hfirst hsecond := hsecond.trans hfirst

/-- The run with every body in memory does the same; the body that came in is stored and sent. -/
structure BodyKept (depth : Nat) (events : List Event) (s : State) : Prop where
  shown : (run depth events s).trace.filterMap Action.shown =
    (run depth events { s with bodyLimit := none }).trace.filterMap Action.shown
  served : Along BodyHistory.next BodyHistory.Served .init (run depth events s).trace
  stored : (run depth events s).state.stored =
    ((run depth events s).trace.foldl BodyHistory.next .init).expected

section Storage

theorem BodyFile.write_of_end {file : BodyFile} (h : file.position = file.content.length)
    (chunk : Bytes) :
    file.write chunk = ⟨file.content ++ chunk, (file.content ++ chunk).length⟩ := by
  rw [BodyFile.write, h, List.take_length, List.drop_eq_nil_of_le (Nat.le_add_right _ _),
    List.append_nil, List.length_append]

theorem BodyFile.readChars_of_pos {size : Nat} (hsize : 0 < size) (file : BodyFile) :
    file.readChars size =
      if file.content.length ≤ file.position then none
      else
        some ((file.content.drop file.position).take size,
          { file with
            position :=
              file.position + ((file.content.drop file.position).take size).length }) := by
  rw [BodyFile.readChars]
  by_cases hend : file.content.length ≤ file.position
  · simp [List.drop_eq_nil_of_le hend, Nat.ne_of_gt hsize, hend]
  · have hrest : 0 < ((file.content.drop file.position).take size).length := by
      rw [List.length_take, List.length_drop]
      omega
    have hne : (file.content.drop file.position).take size ≠ [] := List.ne_nil_of_length_pos hrest
    simp only [hne, and_false, if_false, hend]

/-- A chunk without `NUL` is copied whole. -/
theorem State.copies_of_not_mem (s : State) {chunk : Bytes} (h : 0 ∉ chunk) : s.Copies chunk := by
  have htake : chunk.takeWhile (· ≠ 0) = chunk := by
    rw [List.takeWhile_eq_self_iff]
    intro byte hbyte
    have hne : byte ≠ 0 := fun heq => h (heq ▸ hbyte)
    simpa using hne
  rw [State.Copies, readCopy, htake]
  apply List.ext_getElem
  · simp
  · intro i hi hi'
    simp [hi']

/-- What `write_body` does to the storage. -/
def Storage.write (storage : Storage) (chunk : Bytes) : Storage :=
  match storage.bodyFile with
  | some file => { storage with bodyFile := some (file.write chunk) }
  | none =>
      let body := storage.body.getD [] ++ chunk
      if exceeds storage.bodyLimit body.length then
        { storage with body := none, bodyFile := some (BodyFile.write ⟨[], 0⟩ body) }
      else { storage with body := some body }

theorem writeBody_apply (chunk : Bytes) (s : State) :
    writeBody chunk s = ⟨⟨⟩, s.withStorage (s.storage.write chunk), []⟩ := by
  rw [writeBody, Proc.update_apply, Storage.write]
  dsimp only [State.storage]
  cases s.bodyFile with
  | some file => rfl
  | none =>
      dsimp only
      by_cases hexceeds : exceeds s.bodyLimit (s.body.getD [] ++ chunk).length = true
      · simp only [hexceeds, if_true]
        rfl
      · simp only [hexceeds, if_false, Bool.false_eq_true]
        rfl

/-- The file at its start. -/
def Storage.rewind (storage : Storage) : Storage :=
  { storage with bodyFile := storage.bodyFile.map fun file => { file with position := 0 } }

/-- What `init_child_for_body` does to the storage. -/
def Storage.begin (storage : Storage) : Storage :=
  if storage.body = none then storage.rewind else { storage with sentBodyOffset := 0 }

/-- Nothing is stored any more. -/
def Storage.dispose (storage : Storage) : Storage :=
  { storage with body := none, bodyFile := none }

end Storage

namespace Placed

variable {h h' : BodyHistory} {code memory : Storage}

theorem stored (hplaced : Placed h code memory) : code.stored = h.expected := by
  rw [← hplaced.expected, Storage.stored]
  rcases hplaced.place with hmemory | ⟨file, hfile⟩
  · rw [hmemory.body]
    cases hbody : memory.body with
    | some body => rfl
    | none =>
        rw [hmemory.bodyFile]
        rfl
  · rw [hfile.body, hfile.bodyFile, hfile.content]
    rfl

/-- Only what is expected and where the replay is matters. -/
theorem congr (hplaced : Placed h code memory) (hexpected : h'.expected = h.expected)
    (hreplay : h'.replay = h.replay) : Placed h' code memory where
  bodyLimit := hplaced.bodyLimit
  bodyFile := hplaced.bodyFile
  expected := hplaced.expected.trans hexpected.symm
  sent := hreplay ▸ hplaced.sent
  read := by
    rw [hreplay, hexpected]
    exact hplaced.read
  place := hreplay ▸ hplaced.place

/-- A replay that is broken off may be anywhere. -/
theorem broken (hplaced : Placed h code memory) (hexpected : h'.expected = h.expected)
    (hreplay : h'.replay = .broken) : Placed h' code memory where
  bodyLimit := hplaced.bodyLimit
  bodyFile := hplaced.bodyFile
  expected := hplaced.expected.trans hexpected.symm
  sent := by
    rw [hreplay]
    intro sent hsent
    cases hsent
  read := by
    rw [hreplay]
    intro read hread
    cases hread
  place := by
    rw [hreplay]
    rcases hplaced.place with hmemory | ⟨file, hfile⟩
    · refine .inl ⟨hmemory.bodyFile, hmemory.body, ?_⟩
      intro sent hsent
      cases hsent
    · refine .inr ⟨file, hfile.bodyFile, hfile.body, hfile.content, hfile.nonempty, ?_⟩
      intro read hread
      cases hread

/-- A chunk is stored behind the others. -/
theorem write (hplaced : Placed h code memory)
    (happends : ∀ file ∈ code.bodyFile, file.position = file.content.length) (chunk : Bytes)
    (hexpected : h'.expected = h.expected ++ chunk) (hreplay : h'.replay = .broken) :
    Placed h' (code.write chunk) (memory.write chunk) := by
  have hkept : memory.write chunk = { memory with body := some (h.expected ++ chunk) } := by
    rw [Storage.write, hplaced.bodyFile, hplaced.bodyLimit, hplaced.expected]
    rfl
  rw [hkept]
  refine ⟨hplaced.bodyLimit, hplaced.bodyFile, hexpected.symm, ?_, ?_, ?_⟩
  · rw [hreplay]
    intro sent hsent
    cases hsent
  · rw [hreplay]
    intro read hread
    cases hread
  rw [hreplay]
  rcases hplaced.place with hmemory | ⟨file, hfile⟩
  · have hbody : code.body.getD [] = h.expected := by rw [hmemory.body, hplaced.expected]
    rw [Storage.write, hmemory.bodyFile, hbody]
    dsimp only
    by_cases hexceeds : exceeds code.bodyLimit (h.expected ++ chunk).length = true
    · have hne : h.expected ++ chunk ≠ [] := by
        intro hnil
        rw [hnil] at hexceeds
        cases hlimit : code.bodyLimit with
        | none => simp [exceeds, hlimit] at hexceeds
        | some limit => simp [exceeds, hlimit] at hexceeds
      have hwrite : BodyFile.write ⟨[], 0⟩ (h.expected ++ chunk) =
          ⟨h.expected ++ chunk, (h.expected ++ chunk).length⟩ :=
        BodyFile.write_of_end rfl _
      rw [if_pos hexceeds, hwrite]
      refine .inr ⟨_, rfl, rfl, rfl, hne, ?_⟩
      intro read hread
      cases hread
    · rw [if_neg hexceeds]
      refine .inl ⟨rfl, rfl, ?_⟩
      intro sent hsent
      cases hsent
  · have hcontent : file.content = h.expected := by
      rw [← hplaced.expected, hfile.content]
      rfl
    have hend := happends file hfile.bodyFile
    rw [Storage.write, hfile.bodyFile]
    dsimp only
    rw [BodyFile.write_of_end hend, hcontent]
    refine .inr ⟨_, rfl, hfile.body, rfl, ?_, ?_⟩
    · intro hnil
      rw [List.append_eq_nil_iff, ← hcontent] at hnil
      exact hfile.nonempty hnil.1
    · intro read hread
      cases hread

/-- Without a file there is nothing to rewind. -/
theorem rewind_memory (hplaced : Placed h code memory) : memory.rewind = memory := by
  have hnone : (memory.bodyFile.map fun file => { file with position := 0 }) =
      memory.bodyFile := by
    rw [hplaced.bodyFile]
    rfl
  rw [Storage.rewind, hnone]

/-- The file is rewound, which breaks a replay off. -/
theorem rewind (hplaced : Placed h code memory) (hexpected : h'.expected = h.expected)
    (hreplay : h'.replay = .broken) : Placed h' code.rewind memory.rewind := by
  have hbroken := hplaced.broken hexpected hreplay
  rw [hplaced.rewind_memory]
  refine ⟨hbroken.bodyLimit, hbroken.bodyFile, hbroken.expected, hbroken.sent, hbroken.read, ?_⟩
  rcases hbroken.place with hmemory | ⟨file, hfile⟩
  · refine .inl ⟨?_, hmemory.body, hmemory.sent⟩
    rw [Storage.rewind, hmemory.bodyFile]
    rfl
  · refine .inr ⟨{ file with position := 0 }, ?_, hfile.body, hfile.content, hfile.nonempty, ?_⟩
    · rw [Storage.rewind, hfile.bodyFile]
      rfl
    · rw [hreplay]
      intro read hread
      cases hread

/-- A replay begins. -/
theorem begin (hplaced : Placed h code memory) (hexpected : h'.expected = h.expected)
    (hreplay : h'.replay = .steady []) : Placed h' code.begin memory.begin := by
  have hkept : memory.begin = { memory with
      sentBodyOffset := if memory.body = none then memory.sentBodyOffset else 0 } := by
    unfold Storage.begin
    by_cases hbody : memory.body = none
    · rw [if_pos hbody, if_pos hbody, hplaced.rewind_memory]
    · rw [if_neg hbody, if_neg hbody]
  rw [hkept]
  refine ⟨hplaced.bodyLimit, hplaced.bodyFile, hplaced.expected.trans hexpected.symm, ?_, ?_, ?_⟩
  · rw [hreplay]
    intro sent hsent hbody
    cases hsent
    exact if_neg hbody
  · rw [hreplay]
    intro read hread
    cases hread
    exact List.nil_prefix
  rw [hreplay]
  rcases hplaced.place with hmemory | ⟨file, hfile⟩
  · left
    unfold Storage.begin
    by_cases hbody : code.body = none
    · rw [if_pos hbody, Storage.rewind]
      refine ⟨?_, hmemory.body, fun _ _ hne => absurd hbody hne⟩
      rw [hmemory.bodyFile]
      rfl
    · rw [if_neg hbody]
      refine ⟨hmemory.bodyFile, hmemory.body, ?_⟩
      intro sent hsent _
      cases hsent
      rfl
  · right
    rw [Storage.begin, if_pos hfile.body]
    refine ⟨{ file with position := 0 }, ?_, hfile.body, hfile.content, hfile.nonempty, ?_⟩
    · rw [Storage.rewind, hfile.bodyFile]
      rfl
    · intro read hread
      cases hread
      rfl

/-- Nothing is stored. -/
theorem dispose (hplaced : Placed h code memory) (hexpected : h'.expected = [])
    (hreplay : h'.replay = .broken) : Placed h' code.dispose memory.dispose := by
  refine ⟨hplaced.bodyLimit, rfl, hexpected.symm, ?_, ?_, ?_⟩
  · rw [hreplay]
    intro sent hsent
    cases hsent
  · rw [hreplay]
    intro read hread
    cases hread
  rw [hreplay]
  refine .inl ⟨rfl, rfl, ?_⟩
  intro sent hsent
  cases hsent

end Placed

namespace Agrees

variable {h h' : BodyHistory} {s t : State}

theorem eq_withStorage (hagrees : Agrees h s t) : t = s.withStorage t.storage :=
  hagrees.same t.storage

theorem stored (hagrees : Agrees h s t) : s.stored = h.expected := hagrees.placed.stored

/-- Both change alike, apart from where the body is. -/
theorem move (hagrees : Agrees h s t) {f : State → State}
    (hf : ∀ storage s, f (s.withStorage storage) = (f s).withStorage storage)
    {code memory : Storage} (hplaced : Placed h' code memory) :
    Agrees h' ((f s).withStorage code) ((f t).withStorage memory) where
  same storage := by
    rw [hagrees.eq_withStorage, hf]
    rfl
  placed := hplaced

/-- Only where the body is changes. -/
theorem put (hagrees : Agrees h s t) {code memory : Storage} (hplaced : Placed h' code memory) :
    Agrees h' (s.withStorage code) (t.withStorage memory) :=
  @move h h' s t hagrees id (fun _ _ => rfl) code memory hplaced

end Agrees

/-- What holds of programs that agree with those that keep every body in memory. -/
def bodyLaw : ProgramLaw :=
  bodyComparison.law fun _ _ t hagrees => ⟨t.storage, hagrees.eq_withStorage⟩

section Simple

theorem bodyLaw_update {f : State → State} (hstorage : ∀ s, (f s).storage = s.storage)
    (hf : ∀ storage s, f (s.withStorage storage) = (f s).withStorage storage) :
    bodyLaw.Holds (Proc.update f) := by
  have hkept (s : State) : f s = (f s).withStorage s.storage := by
    rw [← hstorage s]
    rfl
  apply Comparison.Simulates.update
  · intro h s t hagrees
    rw [hkept s, hkept t]
    exact hagrees.move hf hagrees.placed
  · exact hstorage

theorem bodyLaw_record {entry : State → Action} (hnext : ∀ h s, BodyHistory.next h (entry s) = h)
    (howed : ∀ h s, BodyHistory.Served h (entry s))
    (hshown : ∀ storage s, (entry (s.withStorage storage)).shown = (entry s).shown) :
    bodyLaw.Holds (Proc.record entry) := by
  apply Comparison.Simulates.record hnext howed
  intro h s t hagrees
  rw [hagrees.eq_withStorage]
  exact (hshown _ _).symm

/-- A program that uses the body once. -/
theorem bodyLaw_use {m : Program PUnit} {use : BodyUse} {f : State → State} {g : State → Storage}
    (hm : ∀ s, m s = ⟨⟨⟩, (f s).withStorage (g s), [.used s use]⟩)
    (hf : ∀ storage s, f (s.withStorage storage) = (f s).withStorage storage)
    (hplaced : ∀ h s t, Agrees h s t → BodyHistory.Orderly h (.used s use) →
      Placed (h.use use) (g s) (g t))
    (howed : ∀ h s, s.stored = h.expected → BodyHistory.Served h (.used s use))
    (hsettled : ∀ h, (BodyHistory.use h use).replay.isHanding = false) : bodyLaw.Holds m := by
  apply Comparison.Simulates.of_settles
  intro h s t hagrees
  constructor
  · intro hmet
    rw [hm] at hmet
    rw [hm, hm]
    exact
      { value := rfl
        agrees := hagrees.move hf (hplaced h s t hagrees hmet.1)
        owed := ⟨howed h s hagrees.stored, trivial⟩
        seen := rfl }
  · intro _
    rw [hm]
    show ¬(h.use use).replay.isHanding = true
    rw [hsettled]
    decide

theorem bodyLaw_storeBody (chunk : Bytes) : bodyLaw.Holds (storeBody chunk) := by
  have hm (s : State) : storeBody chunk s =
      ⟨⟨⟩, s.withStorage (s.storage.write chunk), [.used s (.write chunk)]⟩ := by
    simp [storeBody, writeBody_apply]
  refine @bodyLaw_use _ (.write chunk) id (fun s => s.storage.write chunk) hm (fun _ _ => rfl) ?_
    (fun _ _ h => h) fun _ => rfl
  intro h s t hagrees horderly
  exact hagrees.placed.write horderly chunk rfl rfl

theorem bodyLaw_rewindBody : bodyLaw.Holds rewindBody := by
  refine @bodyLaw_use _ .rewind id (fun s => s.storage.rewind) (fun _ => rfl) (fun _ _ => rfl) ?_
    (fun _ _ h => h) fun _ => rfl
  intro h s t hagrees _
  exact hagrees.placed.rewind rfl rfl

theorem bodyLaw_initChildForBody : bodyLaw.Holds initChildForBody := by
  let f : State → State := fun s =>
    { s with processingState := .body, replacedBodyForEachChild := false, sendingBody := true }
  have hm (s : State) : initChildForBody s =
      ⟨⟨⟩, (f s).withStorage s.storage.begin, [.used s .begin]⟩ := by
    rw [initChildForBody, Storage.begin]
    cases hbody : s.body with
    | some body => simp [f, State.storage, State.withStorage, hbody]
    | none => simp [f, State.storage, State.withStorage, hbody, Storage.rewind]
  refine @bodyLaw_use _ .begin f (fun s => s.storage.begin) hm (fun _ _ => rfl) ?_
    (fun _ _ h => h) fun _ => rfl
  intro h s t hagrees _
  exact hagrees.placed.begin rfl rfl

/-- What `cb_replace_body` does to the storage. -/
def Storage.replace (storage : Storage) (flag : Bool) (chunk : Bytes) : Storage :=
  if flag then storage.write chunk else storage.dispose.write chunk

/-- A replacement takes the place of what is stored, or goes on. -/
theorem Placed.replace {h : BodyHistory} {code memory : Storage} (hplaced : Placed h code memory)
    {child : ChildId} {flag : Bool} (chunk : Bytes)
    (hflag : h.expected = [] ∨ (flag = true ↔ h.replacer = some child))
    (happends : flag = true → ∀ file ∈ code.bodyFile, file.position = file.content.length) :
    Placed (h.use (.replace child chunk)) (code.replace flag chunk)
      (memory.replace flag chunk) := by
  cases flag with
  | true =>
      refine hplaced.write (happends rfl) chunk ?_ rfl
      show (if h.replacer = some child then h.expected ++ chunk else chunk) = _
      rcases hflag with hnil | hreplacer
      · rw [hnil, List.nil_append, ite_self]
      · rw [if_pos (hreplacer.mp rfl)]
  | false =>
      let emptied : BodyHistory := ⟨[], none, .broken, []⟩
      have hempty : Placed emptied code.dispose memory.dispose := hplaced.dispose rfl rfl
      refine hempty.write (fun _ hfile => absurd hfile (by simp [Storage.dispose])) chunk ?_ rfl
      show (if h.replacer = some child then h.expected ++ chunk else chunk) = [] ++ chunk
      rcases hflag with hnil | hreplacer
      · rw [hnil, List.nil_append, ite_self]
      · rw [if_neg fun heq => absurd (hreplacer.mpr heq) Bool.false_ne_true, List.nil_append]

theorem replaceBody_apply (child : ChildId) {chunk : Bytes} {s : State} (hcopies : s.Copies chunk) :
    replaceBody child chunk s =
      ⟨⟨⟩,
        ({ s with
          emittedReplyForMessageOrientedCommand :=
            s.replacedBodyForEachChild && s.emittedReplyForMessageOrientedCommand
          replacedBodyForEachChild := true
          replacedBody := true } : State).withStorage
          (s.storage.replace s.replacedBodyForEachChild chunk),
        [.used s (.replace child chunk)]⟩ := by
  have hcopy : readCopy s chunk chunk.length = chunk := hcopies
  cases hflag : s.replacedBodyForEachChild with
  | true =>
      simp [replaceBody, hflag, Proc.when, writeBody_apply, hcopy, Storage.replace,
        State.withStorage]
  | false =>
      simp [replaceBody, hflag, Proc.when, disposeBodyRelatedData, writeBody_apply, hcopy,
        Storage.replace, State.withStorage, Storage.dispose, State.storage]

theorem bodyLaw_replaceBody (child : ChildId) (chunk : Bytes) :
    bodyLaw.Holds (replaceBody child chunk) := by
  apply Comparison.Simulates.of_settles
  intro h s t hagrees
  constructor
  · intro hmet
    have horderly : BodyHistory.Orderly h (.used s (.replace child chunk)) := hmet.1
    obtain ⟨hcopies, hflag, happends⟩ := horderly
    have ht := hagrees.eq_withStorage
    have hcopies' : t.Copies chunk := by
      rw [ht]
      exact hcopies
    have hsame : t.replacedBodyForEachChild = s.replacedBodyForEachChild := by
      rw [ht]
      rfl
    rw [replaceBody_apply child hcopies, replaceBody_apply child hcopies', hsame]
    exact
      { value := rfl
        agrees := by
          apply @Agrees.move h _ s t hagrees (fun u =>
            { u with
              emittedReplyForMessageOrientedCommand :=
                s.replacedBodyForEachChild && u.emittedReplyForMessageOrientedCommand
              replacedBodyForEachChild := true
              replacedBody := true })
          · exact fun _ _ => rfl
          · exact hagrees.placed.replace chunk hflag happends
        owed := ⟨hagrees.stored, trivial⟩
        seen := rfl }
  · intro hmet
    have horderly : BodyHistory.Orderly h (.used s (.replace child chunk)) := hmet.1
    rw [replaceBody_apply child horderly.1]
    exact Bool.false_ne_true

theorem bodyLaw_disposeMessageRelatedData : bodyLaw.Holds disposeMessageRelatedData := by
  let f : State → State := fun s =>
    { s with
      pendingMessageRequest := none
      commandWaitingChildQueue := []
      commandQueue := []
      originalHeaders := none
      headers := none
      emittedReplyForMessageOrientedCommand := false
      endOfMessageChunk := none
      changeFrom := none
      changeFromParameters := none
      quarantineReason := none }
  have hm (s : State) : disposeMessageRelatedData s =
      ⟨⟨⟩, (f s).withStorage s.storage.dispose, [.disposed]⟩ := rfl
  apply Comparison.Simulates.of_settles
  intro h s t hagrees
  constructor
  · intro _
    rw [hm, hm]
    exact
      { value := rfl
        agrees := hagrees.move (fun _ _ => rfl) (hagrees.placed.dispose rfl rfl)
        owed := ⟨trivial, trivial⟩
        seen := rfl }
  · intro _
    rw [hm]
    exact Bool.false_ne_true

end Simple

section Emission

theorem take_append_take_drop (size : Nat) (body : Bytes) (offset : Nat) :
    body.take offset ++ (body.drop offset).take size =
      body.take (offset + ((body.drop offset).take size).length) := by
  rw [List.take_add, ← List.prefix_iff_eq_take.mp (List.take_prefix _ _)]

/-- The next chunk continues what was sent. -/
theorem begins_append_take_drop {sent body : Bytes} (hsent : sent <+: body) (size : Nat) :
    sent ++ (body.drop sent.length).take size <+: body := by
  have htake := take_append_take_drop size body sent.length
  rw [← List.prefix_iff_eq_take.mp hsent] at htake
  rw [htake]
  exact List.take_prefix _ _

/-- A chunk of what is left has a byte at least and is not too long. -/
theorem length_take_drop_bounds {size : Nat} {body : Bytes} {offset : Nat}
    (hsize : body ≠ [] → 0 < size) (hlt : ¬body.length ≤ offset) :
    1 ≤ ((body.drop offset).take size).length ∧ ((body.drop offset).take size).length ≤ size := by
  have hne : body ≠ [] := fun hnil => hlt (by rw [hnil]; exact Nat.zero_le _)
  have hpos := hsize hne
  rw [List.length_take, List.length_drop]
  omega

theorem drop_drop_take_length (size : Nat) (body : Bytes) (offset : Nat) :
    (body.drop offset).drop size = body.drop (offset + ((body.drop offset).take size).length) := by
  rw [List.drop_drop, List.length_take, List.length_drop]
  by_cases hle : size ≤ body.length - offset
  · rw [Nat.min_eq_left hle]
  · rw [Nat.min_eq_right (by omega), List.drop_eq_nil_of_le (by omega),
      List.drop_eq_nil_of_le (by omega)]

/-- The rest of the body is emitted. -/
def Emits (h : BodyHistory) (s t : State) (m n : Program PUnit) : Prop :=
  bodyComparison.Yields h (m s) (n t) ∧
    bodyComparison.history h (m s).trace = { h with emitted := h.expected }

variable {h : BodyHistory} {s t : State}

/-- A chunk is emitted. -/
theorem Emits.chunk {s' t' : State} {m n m' n' : Program PUnit} {chunk : Bytes}
    (hm : m s = (m' s').after [.emitted s' (.replaceBody chunk)])
    (hn : n t = (n' t').after [.emitted t' (.replaceBody chunk)])
    (hsize : 1 ≤ chunk.length ∧ chunk.length ≤ s'.chunkSize.value)
    (hbegins : h.emitted ++ chunk <+: h.expected)
    (hrest : Emits { h with emitted := h.emitted ++ chunk } s' t' m' n') : Emits h s t m n := by
  obtain ⟨hyields, hhistory⟩ := hrest
  rw [Emits, hm, hn]
  refine ⟨?_, hhistory⟩
  exact
    { value := rfl
      agrees := hyields.agrees
      owed := ⟨⟨hsize.1, hsize.2, hbegins⟩, hyields.owed⟩
      seen := congrArg (Shown.signal (.replaceBody chunk) :: ·) hyields.seen }

/-- Nothing is left to emit. -/
theorem Emits.none {m n : Program PUnit} (hagrees : Agrees h s t) (hm : m s = ⟨⟨⟩, s, []⟩)
    (hn : n t = ⟨⟨⟩, t, []⟩) (hall : h.emitted = h.expected) : Emits h s t m n := by
  rw [Emits, hm, hn]
  exact ⟨⟨rfl, hagrees, trivial, rfl⟩, congrArg (fun emitted => { h with emitted := emitted }) hall⟩

/-- What is still to be emitted behind an offset, in how many rounds at most. -/
structure Remains (h : BodyHistory) (s : State) (body : Bytes) (rounds offset : Nat) : Prop where
  expected : h.expected = body
  replay : h.replay = .broken
  emitted : h.emitted = body.take offset
  rounds : body.length - offset < rounds
  size : body ≠ [] → 0 < s.chunkSize.value
  copies : ∀ chunk ∈ chunks s.chunkSize.value (body.drop offset), s.Copies chunk

namespace Remains

variable {body : Bytes} {rounds offset : Nat}

theorem all_of_le (hremains : Remains h s body rounds offset) (hle : body.length ≤ offset) :
    h.emitted = h.expected := by
  rw [hremains.emitted, hremains.expected, List.take_of_length_le hle]

/-- The next chunk, and what remains behind it. -/
theorem chunk (hremains : Remains h s body (rounds + 1) offset) (hlt : ¬body.length ≤ offset) :
    let chunk := (body.drop offset).take s.chunkSize.value
    s.Copies chunk ∧ (1 ≤ chunk.length ∧ chunk.length ≤ s.chunkSize.value) ∧
      h.emitted ++ chunk <+: h.expected ∧
      Remains { h with emitted := h.emitted ++ chunk } s body rounds (offset + chunk.length) := by
  intro chunk
  have hne : body ≠ [] := fun hnil => hlt (by rw [hnil]; exact Nat.zero_le _)
  have hsize := hremains.size hne
  have hbounds := length_take_drop_bounds hremains.size hlt
  have hdrop : body.drop offset ≠ [] := by
    intro hnil
    rw [List.drop_eq_nil_iff] at hnil
    exact hlt hnil
  have hchunks := hremains.copies
  rw [chunks_of_ne_nil _ hsize hdrop, drop_drop_take_length] at hchunks
  have htake := take_append_take_drop s.chunkSize.value body offset
  refine ⟨hchunks _ List.mem_cons_self, hbounds, ?_, ?_⟩
  · rw [hremains.emitted, hremains.expected, htake]
    exact List.take_prefix _ _
  · exact
      { expected := hremains.expected
        replay := hremains.replay
        emitted := by
          rw [← htake, ← hremains.emitted]
        rounds := by
          have hrounds := hremains.rounds
          have hfirst : 1 ≤ chunk.length := hbounds.1
          omega
        size := hremains.size
        copies := fun chunk hchunk => hchunks chunk (List.mem_cons_of_mem _ hchunk) }

end Remains

theorem emitChunk_apply {chunk : Bytes} (hcopies : s.Copies chunk) :
    emitChunk chunk s = ⟨⟨⟩, s, [.emitted s (.replaceBody chunk)]⟩ := by
  have hcopy : readCopy s chunk chunk.length = chunk := hcopies
  simp [emitChunk, emitSignal, hcopy]

theorem Agrees.copies (hagrees : Agrees h s t) {chunk : Bytes} (hcopies : s.Copies chunk) :
    t.Copies chunk := by
  rw [hagrees.eq_withStorage]
  exact hcopies

theorem Agrees.chunkSize (hagrees : Agrees h s t) : t.chunkSize = s.chunkSize := by
  rw [hagrees.eq_withStorage]
  rfl

/-- Both emit the rest of the body from memory. -/
theorem emits_string {body : Bytes} {rounds offset : Nat} (hagrees : Agrees h s t)
    (hremains : Remains h s body rounds offset) :
    Emits h s t (emitReplaceBodySignalString body s.chunkSize.value rounds offset)
      (emitReplaceBodySignalString body s.chunkSize.value rounds offset) := by
  induction rounds generalizing h offset with
  | zero => exact absurd hremains.rounds (Nat.not_lt_zero _)
  | succ rounds ih =>
      by_cases hle : body.length ≤ offset
      · apply Emits.none hagrees
        · rw [emitReplaceBodySignalString, if_pos hle]
          rfl
        · rw [emitReplaceBodySignalString, if_pos hle]
          rfl
        · exact hremains.all_of_le hle
      · obtain ⟨hcopies, hsize, hbegins, hrest⟩ := hremains.chunk hle
        have hnext : Placed
            { h with emitted := h.emitted ++ (body.drop offset).take s.chunkSize.value }
            s.storage t.storage := hagrees.placed.congr rfl rfl
        have hrun {u : State} (hu : u.Copies ((body.drop offset).take s.chunkSize.value)) :
            emitReplaceBodySignalString body s.chunkSize.value (rounds + 1) offset u =
              (emitReplaceBodySignalString body s.chunkSize.value rounds (offset +
                ((body.drop offset).take s.chunkSize.value).length) u).after
                [.emitted u (.replaceBody ((body.drop offset).take s.chunkSize.value))] := by
          rw [emitReplaceBodySignalString, if_neg hle, Proc.bind_apply, emitChunk_apply hu]
          rfl
        apply Emits.chunk (hrun hcopies) (hrun (hagrees.copies hcopies)) hsize hbegins
        exact ih ⟨hagrees.same, hnext⟩ hrest

/-- The rest of the body is emitted from the file as from memory. -/
theorem emits_file {file : BodyFile} {rounds : Nat} (hagrees : Agrees h s t)
    (hfile : s.bodyFile = some file) (hremains : Remains h s file.content rounds file.position) :
    Emits h s t (emitReplaceBodySignalFile s.chunkSize.value rounds)
      (emitReplaceBodySignalString file.content s.chunkSize.value rounds file.position) := by
  induction rounds generalizing h s file with
  | zero => exact absurd hremains.rounds (Nat.not_lt_zero _)
  | succ rounds ih =>
      have hplace : InFile h.replay s.storage t.storage file := by
        rcases hagrees.placed.place with hmemory | ⟨other, hother⟩
        · exact absurd (hfile.symm.trans hmemory.bodyFile) (Option.some_ne_none _)
        · rwa [Option.some.inj (hfile.symm.trans hother.bodyFile)]
      have hnonempty : file.content ≠ [] := hplace.nonempty
      have hread := BodyFile.readChars_of_pos (hremains.size hnonempty) file
      have hbind : s.bodyFile.bind (·.readChars s.chunkSize.value) =
          file.readChars s.chunkSize.value := by
        rw [hfile]
        rfl
      by_cases hle : file.content.length ≤ file.position
      · rw [if_pos hle] at hread
        apply Emits.none hagrees
        · simp [emitReplaceBodySignalFile, hbind, hread]
        · simp [emitReplaceBodySignalString, hle]
        · exact hremains.all_of_le hle
      · let chunk := (file.content.drop file.position).take s.chunkSize.value
        let rest : BodyFile := { file with position := file.position + chunk.length }
        let s' : State := s.withStorage { s.storage with bodyFile := some rest }
        rw [if_neg hle] at hread
        obtain ⟨hcopies, hsize, hbegins, hremains'⟩ := hremains.chunk hle
        have hcopies' : s'.Copies chunk := hcopies
        have hm : emitReplaceBodySignalFile s.chunkSize.value (rounds + 1) s =
            (emitReplaceBodySignalFile s.chunkSize.value rounds s').after
              [.emitted s' (.replaceBody chunk)] := by
          simp only [emitReplaceBodySignalFile, Proc.bind_apply, Proc.getState_apply, hbind, hread,
            Proc.update_apply]
          have hemit := emitChunk_apply hcopies'
          show Base.Outcome.mk _ _ ([] ++ ([] ++ ((emitChunk chunk s').trace ++
            (emitReplaceBodySignalFile s.chunkSize.value rounds
              (emitChunk chunk s').state).trace))) = _
          rw [hemit]
          rfl
        have hn : emitReplaceBodySignalString file.content s.chunkSize.value (rounds + 1)
            file.position t =
            (emitReplaceBodySignalString file.content s.chunkSize.value rounds
              rest.position t).after [.emitted t (.replaceBody chunk)] := by
          rw [emitReplaceBodySignalString, if_neg hle, Proc.bind_apply,
            emitChunk_apply (hagrees.copies hcopies)]
          rfl
        apply Emits.chunk hm hn hsize hbegins
        have hplaced : Placed { h with emitted := h.emitted ++ chunk } s'.storage t.storage := by
          have hbroken : h.replay = .broken := hremains.replay
          refine ⟨hagrees.placed.bodyLimit, hagrees.placed.bodyFile, hagrees.placed.expected,
            hagrees.placed.sent, hagrees.placed.read, .inr ⟨rest, rfl, hplace.body,
              hplace.content, hplace.nonempty, ?_⟩⟩
          intro read hread
          rw [hbroken] at hread
          cases hread
        exact @ih { h with emitted := h.emitted ++ chunk } s' rest ⟨hagrees.same, hplaced⟩ rfl
          ⟨hremains'.expected, hremains'.replay, hremains'.emitted, hremains'.rounds,
            hremains'.size, hremains'.copies⟩

/-- What `emit_replace_body_signal` does where the body is. -/
def emitStored (s : State) : Program PUnit :=
  match s.body with
  | some body => emitReplaceBodySignalString body s.chunkSize.value (body.length + 1) 0
  | none => do
      Proc.update fun s =>
        { s with bodyFile := s.bodyFile.map fun file => { file with position := 0 } }
      let size := (s.bodyFile.map (·.content.length)).getD 0
      emitReplaceBodySignalFile s.chunkSize.value (size + 1)

theorem emitStored_empty (hbody : s.body = none) (hfile : s.bodyFile = none) :
    emitStored s s = ⟨⟨⟩, s, []⟩ := by
  have hmap : (s.bodyFile.map fun file => { file with position := 0 }) = s.bodyFile := by
    rw [hfile]
    rfl
  have hrewind : (Proc.update (fun s : State =>
      { s with bodyFile := s.bodyFile.map fun file => { file with position := 0 } }) :
        Program PUnit) s = ⟨⟨⟩, s, []⟩ := by
    rw [Proc.update_apply, hmap]
  unfold emitStored
  rw [hbody]
  simp only [Proc.bind_apply, hrewind]
  simp [emitReplaceBodySignalFile, hfile]

theorem emits_stored (hagrees : Agrees h s t) (hreplay : h.replay = .broken)
    (hemitted : h.emitted = []) (hsize : h.expected ≠ [] → 0 < s.chunkSize.value)
    (hcopies : ∀ chunk ∈ chunks s.chunkSize.value h.expected, s.Copies chunk) :
    Emits h s t (emitStored s) (emitStored t) := by
  have hremains : Remains h s h.expected (h.expected.length + 1) 0 :=
    ⟨rfl, hreplay, hemitted, by omega, hsize, hcopies⟩
  have hchunkSize := hagrees.chunkSize
  rcases hagrees.placed.place with hmemory | ⟨file, hfile⟩
  · have hnone : s.bodyFile = none := hmemory.bodyFile
    have hbody : t.body = s.body := hmemory.body.symm
    have hexpected : s.body.getD [] = h.expected := by
      rw [← hbody]
      exact hagrees.placed.expected
    cases hstored : s.body with
    | some body =>
        have hbody' : body = h.expected := by
          rw [hstored] at hexpected
          exact hexpected
        unfold emitStored
        rw [hbody, hchunkSize, hstored, hbody']
        exact emits_string hagrees hremains
    | none =>
        have hnil : h.expected = [] := by
          rw [hstored] at hexpected
          exact hexpected.symm
        apply Emits.none hagrees
        · exact emitStored_empty hstored hnone
        · exact emitStored_empty (hbody.trans hstored) hagrees.placed.bodyFile
        · rw [hemitted, hnil]
  · have hcontent : file.content = h.expected := by
      rw [← hagrees.placed.expected, hfile.content]
      rfl
    let start : BodyFile := { file with position := 0 }
    let s' : State := s.withStorage s.storage.rewind
    have hstart : s'.bodyFile = some start := by
      show s.bodyFile.map _ = _
      rw [show s.bodyFile = some file from hfile.bodyFile]
      rfl
    have hplaced : Placed h s'.storage t.storage := by
      have hrewound : Placed h s.storage.rewind t.storage.rewind :=
        hagrees.placed.rewind rfl hreplay
      rw [hagrees.placed.rewind_memory] at hrewound
      exact hrewound
    have hm : emitStored s s = emitReplaceBodySignalFile s.chunkSize.value
        (h.expected.length + 1) s' := by
      have hbody : s.body = none := hfile.body
      have hfile' : s.bodyFile = some file := hfile.bodyFile
      unfold emitStored
      rw [hbody, ← hcontent]
      simp only [hfile', Option.map_some, Option.getD_some]
      rfl
    have hn : emitStored t = emitReplaceBodySignalString h.expected s.chunkSize.value
        (h.expected.length + 1) 0 := by
      have hbody : t.body = some file.content := hfile.content
      unfold emitStored
      rw [hbody, hchunkSize, ← hcontent]
    have hall : Emits h s' t
        (emitReplaceBodySignalFile s.chunkSize.value (h.expected.length + 1))
        (emitReplaceBodySignalString h.expected s.chunkSize.value (h.expected.length + 1) 0) := by
      rw [← hcontent] at hremains ⊢
      exact emits_file (s := s') ⟨hagrees.same, hplaced⟩ hstart
        ⟨hremains.expected, hremains.replay, hremains.emitted, hremains.rounds, hremains.size,
          hremains.copies⟩
    rw [Emits, hm, hn]
    exact hall

theorem bodyLaw_emitReplaceBodySignal : bodyLaw.Holds emitReplaceBodySignal := by
  apply Comparison.Simulates.of_settles
  intro h s t hagrees
  let h' := h.use .emit
  have hagrees' : Agrees h' s t := ⟨hagrees.same, hagrees.placed.broken rfl rfl⟩
  have hrun (u : State) : emitReplaceBodySignal u =
      ((do
        emitStored u
        Proc.record fun s => .used s .emitted : Program PUnit) u).after [.used u .emit] := by
    unfold emitReplaceBodySignal emitStored
    simp only [Proc.bind_apply, Proc.record_apply, Proc.getState_apply, List.nil_append]
    rfl
  apply Comparison.Settles.after _ _ (hrun s) (hrun t) rfl
  · intro _
    exact ⟨hagrees.stored, trivial⟩
  intro hmet
  have horderly : BodyHistory.Orderly h (.used s .emit) := hmet.1
  obtain ⟨hyields, hhistory⟩ := emits_stored hagrees' rfl rfl horderly.1 horderly.2
  apply Comparison.Settles.bind
  · exact fun _ => hyields
  intro _ _
  have hall := hyields.agrees
  rw [hhistory] at hall
  show bodyComparison.Settles (bodyComparison.history h' _) _ _ _ _
  rw [hhistory]
  constructor
  · intro _
    exact
      { value := rfl
        agrees := hall
        owed := ⟨⟨hall.stored, rfl⟩, trivial⟩
        seen := rfl }
  · intro _
    exact Bool.false_ne_true

end Emission

section Sending

variable {h : BodyHistory} {s t : State} {call : Handlers} {child : ChildId}

/-- A child is sent a chunk, and what is done when it has taken it. -/
def takeChunk (call : Handlers) (child : ChildId) (chunk : Bytes) (taken : Program PUnit) :
    Program Status := do
  let sent ← serverBody call child chunk
  Proc.record fun s => .used s (.handed child sent)
  Proc.when sent taken
  statusOfSending child sent

/-- What is done in memory when a child has taken a chunk. -/
def advanceInMemory (call : Handlers) (chunk : Bytes) : Program PUnit := do
  Proc.update fun s => { s with sentBodyOffset := s.sentBodyOffset + chunk.length }
  initCommandWaitingChildQueue call .body

/-- The chunk that the child was handed counts as sent. -/
def Storage.advance (storage : Storage) (chunk : Bytes) : Storage :=
  { storage with sentBodyOffset := storage.sentBodyOffset + chunk.length }

/-- A chunk in memory is handed over. -/
theorem Placed.hand_memory {code memory : Storage} {sent chunk : Bytes}
    (hplaced : Placed h code memory) (hreplay : h.replay = .steady sent)
    (hmemory : InMemory h.replay code memory) (hbegins : sent ++ chunk <+: h.expected) :
    InMemory (.handing sent chunk) code memory ∧
      Placed { h with replay := .handing sent chunk } code memory := by
  rw [hreplay] at hmemory
  obtain ⟨hlimit, hnone, hexpected, hsent, -, -⟩ := hplaced
  rw [hreplay] at hsent
  have hhanding : InMemory (.handing sent chunk) code memory :=
    ⟨hmemory.bodyFile, hmemory.body, hmemory.sent⟩
  refine ⟨hhanding, hlimit, hnone, hexpected, hsent, ?_, .inl hhanding⟩
  intro read hread
  cases hread
  exact hbegins

/-- A chunk is read from the file and handed over. -/
theorem Placed.hand_file {code memory : Storage} {sent chunk : Bytes} {file : BodyFile}
    (hplaced : Placed h code memory) (hreplay : h.replay = .steady sent)
    (hfile : InFile h.replay code memory file) (hbegins : sent ++ chunk <+: h.expected) :
    let rest : BodyFile := { file with position := file.position + chunk.length }
    InFile (.handing sent chunk) { code with bodyFile := some rest } memory rest ∧
      Placed { h with replay := .handing sent chunk } { code with bodyFile := some rest }
        memory := by
  rw [hreplay] at hfile
  obtain ⟨hlimit, hnone, hexpected, hsent, -, -⟩ := hplaced
  rw [hreplay] at hsent
  have hhanding : InFile (.handing sent chunk)
      { code with bodyFile := some { file with position := file.position + chunk.length } } memory
      { file with position := file.position + chunk.length } := by
    refine ⟨rfl, hfile.body, hfile.content, hfile.nonempty, ?_⟩
    intro read hread
    cases hread
    rw [List.length_append]
    exact congrArg (· + chunk.length) (hfile.read sent rfl)
  refine ⟨hhanding, hlimit, hnone, hexpected, hsent, ?_, .inr ⟨_, hhanding⟩⟩
  intro read hread
  cases hread
  exact hbegins

theorem Placed.take_memory {code memory : Storage} {sent chunk : Bytes}
    (hplaced : Placed h code memory) (hreplay : h.replay = .handing sent chunk)
    (hmemory : InMemory h.replay code memory) :
    Placed { h with replay := h.replay.take } (code.advance chunk) (memory.advance chunk) := by
  have htaken : h.replay.take = .steady (sent ++ chunk) := by
    rw [hreplay]
    rfl
  rw [htaken]
  rw [hreplay] at hmemory
  obtain ⟨hlimit, hfile, hexpected, hsent, hread, -⟩ := hplaced
  rw [hreplay] at hsent hread
  refine ⟨hlimit, hfile, hexpected, ?_, ?_, .inl ⟨hmemory.bodyFile, hmemory.body, ?_⟩⟩
  · intro all hall hbody
    cases hall
    rw [List.length_append]
    exact congrArg (· + chunk.length) (hsent sent rfl hbody)
  · intro read hall
    cases hall
    exact hread _ rfl
  · intro all hall hbody
    cases hall
    rw [List.length_append]
    exact congrArg (· + chunk.length) (hmemory.sent sent rfl hbody)

theorem Placed.take_file {code memory : Storage} {sent chunk : Bytes} {file : BodyFile}
    (hplaced : Placed h code memory) (hreplay : h.replay = .handing sent chunk)
    (hfile : InFile h.replay code memory file) :
    Placed { h with replay := h.replay.take } code (memory.advance chunk) := by
  have htaken : h.replay.take = .steady (sent ++ chunk) := by
    rw [hreplay]
    rfl
  rw [htaken]
  rw [hreplay] at hfile
  obtain ⟨hlimit, hnone, hexpected, hsent, hread, -⟩ := hplaced
  rw [hreplay] at hsent hread
  refine ⟨hlimit, hnone, hexpected, ?_, ?_, .inr ⟨file, hfile.bodyFile, hfile.body, hfile.content,
    hfile.nonempty, ?_⟩⟩
  · intro all hall hbody
    cases hall
    rw [List.length_append]
    exact congrArg (· + chunk.length) (hsent sent rfl hbody)
  · intro read hall
    cases hall
    exact hread _ rfl
  · intro read hall
    cases hall
    exact hfile.read _ rfl

/-- Nothing of the replay is pending once a chunk was taken or refused. -/
theorem Replay.isHanding_take (replay : Replay) : replay.take.isHanding = false := by
  cases replay <;> rfl

/-- A child takes a chunk and the replay goes on, or it refuses it and ends the replay. -/
theorem settles_takeChunk {chunk : Bytes} {taken taken' : Program PUnit} (hagrees : Agrees h s t)
    (hserver : bodyLaw.Holds (serverBody call child chunk))
    (hstatus : bodyLaw.Holds (statusOfSending child false))
    (htaken : ∀ s' t', Agrees h s' t' → s'.storage = s.storage → t'.storage = t.storage →
      h.replay.isHanding = true → (s'.body = none → s'.HasQueued) →
      bodyComparison.Settles { h with replay := h.replay.take } s' t'
        (taken >>= fun _ => statusOfSending child true)
        (taken' >>= fun _ => statusOfSending child true)) :
    bodyComparison.Settles h s t (takeChunk call child chunk taken)
      (takeChunk call child chunk taken') := by
  obtain ⟨hmatches, hframed⟩ := hserver h s t hagrees
  apply Comparison.Settles.bind hmatches
  intro hmet hyields
  have hbetween := hyields.agrees
  cases hsent : (serverBody call child chunk s).value with
  | false =>
      apply Comparison.Settles.recorded
      · rfl
      · exact fun _ => hbetween.stored
      intro _
      exact hstatus.settles ⟨hbetween.same, hbetween.placed.broken rfl rfl⟩ Bool.false_ne_true
  | true =>
      apply Comparison.Settles.recorded
      · rfl
      · exact fun _ => hbetween.stored
      intro hhanded
      have horderly := hhanded rfl
      have hframes := hframed hmet horderly.1
      have hsame := hframes.history
      rw [hsame] at hbetween horderly ⊢
      exact htaken _ _ hbetween hframes.first hframes.second horderly.1 horderly.2

/-- Nothing is left to do for the queue. -/
theorem initCommandWaitingChildQueue_of_hasQueued (hqueued : s.HasQueued) :
    initCommandWaitingChildQueue call .body s = ⟨⟨⟩, s, []⟩ := by
  obtain ⟨hcommand, hchildren⟩ := hqueued
  unfold initCommandWaitingChildQueue
  rw [Proc.bind_apply, Proc.update_apply, if_pos hcommand]
  rw [Proc.bind_apply, Proc.getState_apply]
  dsimp only
  by_cases hqueue : s.commandWaitingChildQueue ≠ []
  · rw [if_pos hqueue]
    rfl
  · rw [if_neg hqueue, Proc.each_of_idle]
    · rfl
    · intro child hchild
      have hidle := hchildren.resolve_left hqueue child hchild
      rw [contextOf_bind, hidle]
      rfl

theorem advanceInMemory_of_hasQueued {chunk : Bytes} (hqueued : s.HasQueued) :
    advanceInMemory call chunk s = ⟨⟨⟩, s.withStorage (s.storage.advance chunk), []⟩ := by
  have hadvanced : (s.withStorage (s.storage.advance chunk)).HasQueued := hqueued
  have hnothing := @initCommandWaitingChildQueue_of_hasQueued _ call hadvanced
  show (initCommandWaitingChildQueue call .body
      (s.withStorage (s.storage.advance chunk))).after [] =
    _
  rw [hnothing]
  rfl

/-- The chunk counts as sent for both. -/
theorem settles_take_memory {sent chunk : Bytes} (hagrees : Agrees h s t)
    (hmemory : InMemory h.replay s.storage t.storage) (hreplay : h.replay = .handing sent chunk)
    (hserver : bodyLaw.Holds (serverBody call child chunk))
    (hinit : bodyLaw.Holds (initCommandWaitingChildQueue call .body))
    (hstatus : ∀ sent, bodyLaw.Holds (statusOfSending child sent)) :
    bodyComparison.Settles h s t (takeChunk call child chunk (advanceInMemory call chunk))
      (takeChunk call child chunk (advanceInMemory call chunk)) := by
  apply settles_takeChunk hagrees hserver (hstatus false)
  intro s' t' hagrees' hs ht _ _
  have hplaced := hagrees'.placed
  rw [hs, ht] at hplaced
  have hadvanced : Agrees { h with replay := h.replay.take }
      (s'.withStorage (s.storage.advance chunk)) (t'.withStorage (t.storage.advance chunk)) :=
    hagrees'.put (hplaced.take_memory hreplay hmemory)
  rw [← hs, ← ht] at hadvanced
  apply Comparison.Settles.of_eq rfl rfl
  apply Comparison.Simulates.settles (hinit.bind fun _ => hstatus true) hadvanced
  show ¬h.replay.take.isHanding = true
  rw [Replay.isHanding_take]
  exact Bool.false_ne_true

/-- The position of the file stands for the chunk that counts as sent in memory. -/
theorem settles_take_file {sent chunk : Bytes} {file : BodyFile} (hagrees : Agrees h s t)
    (hfile : InFile h.replay s.storage t.storage file) (hreplay : h.replay = .handing sent chunk)
    (hserver : bodyLaw.Holds (serverBody call child chunk))
    (hstatus : ∀ sent, bodyLaw.Holds (statusOfSending child sent)) :
    bodyComparison.Settles h s t (takeChunk call child chunk (pure ⟨⟩))
      (takeChunk call child chunk (advanceInMemory call chunk)) := by
  apply settles_takeChunk hagrees hserver (hstatus false)
  intro s' t' hagrees' hs ht _ hqueued
  have hbody : s'.body = none := (congrArg Storage.body hs).trans hfile.body
  have hplaced := hagrees'.placed
  rw [hs, ht] at hplaced
  have hadvanced : Agrees { h with replay := h.replay.take }
      (s'.withStorage s.storage) (t'.withStorage (t.storage.advance chunk)) :=
    hagrees'.put (hplaced.take_file hreplay hfile)
  rw [← hs, ← ht] at hadvanced
  have hidle : t'.HasQueued := by
    rw [hagrees'.eq_withStorage]
    exact hqueued hbody
  have hn : (advanceInMemory call chunk >>= fun _ => statusOfSending child true) t' =
      statusOfSending child true (t'.withStorage (t'.storage.advance chunk)) := by
    rw [Proc.bind_apply, advanceInMemory_of_hasQueued hidle]
    rfl
  apply Comparison.Settles.of_eq rfl hn
  apply (hstatus true).settles hadvanced
  show ¬h.replay.take.isHanding = true
  rw [Replay.isHanding_take]
  exact Bool.false_ne_true

theorem Replay.exists_steady {replay : Replay}
    (h : (replay.sent?.isSome && !replay.isHanding) = true) : ∃ sent, replay = .steady sent := by
  cases replay with
  | broken => cases h
  | steady sent => exact ⟨sent, rfl⟩
  | handing sent chunk => cases h

/-- The next chunk of what is in memory, if any, is handed over. -/
theorem sendBodyToChildString_apply (body : Bytes) :
    sendBodyToChildString call child body s =
      if body.length ≤ s.sentBodyOffset then ⟨.notChange, s, [.used s (.complete child)]⟩
      else
        (takeChunk call child ((body.drop s.sentBodyOffset).take s.chunkSize.value)
          (advanceInMemory call ((body.drop s.sentBodyOffset).take s.chunkSize.value)) s).after
          [.used s (.hand child ((body.drop s.sentBodyOffset).take s.chunkSize.value))] := by
  rw [sendBodyToChildString, Proc.bind_apply, Proc.getState_apply]
  dsimp only
  by_cases hle : body.length ≤ s.sentBodyOffset
  · rw [if_pos hle, if_pos hle]
    rfl
  · rw [if_neg hle, if_neg hle]
    rfl

/-- The child has it all. -/
theorem settles_complete {m n : Program Status} (hagrees : Agrees h s t)
    (hall : h.replay = .steady h.expected)
    (hm : m s = ⟨.notChange, s, [.used s (.complete child)]⟩)
    (hn : n t = ⟨.notChange, t, [.used t (.complete child)]⟩) :
    bodyComparison.Settles h s t m n := by
  rw [Comparison.Settles, Comparison.Matches, hm, hn]
  constructor
  · intro _
    exact
      { value := rfl
        agrees := ⟨hagrees.same, hagrees.placed.broken rfl rfl⟩
        owed := ⟨⟨hagrees.stored, hall⟩, trivial⟩
        seen := rfl }
  · intro _
    exact Bool.false_ne_true

/-- Both hand the next chunk over. -/
theorem settles_hand {m n m' n' : Program Status} {s' t' : State} {sent chunk : Bytes}
    (hm : m s = (m' s').after [.used s' (.hand child chunk)])
    (hn : n t = (n' t').after [.used t' (.hand child chunk)])
    (hreplay : h.replay = .steady sent)
    (hagrees : Agrees { h with replay := .handing sent chunk } s' t')
    (hbounds : 1 ≤ chunk.length ∧ chunk.length ≤ s'.chunkSize.value)
    (hbegins : sent ++ chunk <+: h.expected)
    (hrest : bodyComparison.Settles { h with replay := .handing sent chunk } s' t' m' n') :
    bodyComparison.Settles h s t m n := by
  apply Comparison.Settles.after _ _ hm hn rfl
  · exact fun _ => ⟨⟨hagrees.stored, hbounds.1, hbounds.2, sent, hreplay, hbegins⟩, trivial⟩
  intro _
  have hhistory : h.use (.hand child chunk) = { h with replay := .handing sent chunk } := by
    rw [BodyHistory.use, hreplay]
    rfl
  show bodyComparison.Settles (h.use (.hand child chunk)) _ _ _ _
  rw [hhistory]
  exact hrest

theorem sendBodyToChildFile_none (hfile : s.bodyFile = none) :
    sendBodyToChildFile call child s = ⟨.notChange, s, []⟩ := by
  rw [sendBodyToChildFile, Proc.bind_apply, Proc.getState_apply]
  dsimp only
  rw [hfile]
  rfl

/-- The next chunk of what is in the file, if any, is handed over. -/
theorem sendBodyToChildFile_apply {file : BodyFile} (hfile : s.bodyFile = some file)
    (hsize : 0 < s.chunkSize.value) :
    sendBodyToChildFile call child s =
      if file.content.length ≤ file.position then ⟨.notChange, s, [.used s (.complete child)]⟩
      else
        let chunk := (file.content.drop file.position).take s.chunkSize.value
        let s' := s.withStorage { s.storage with
          bodyFile := some { file with position := file.position + chunk.length } }
        (takeChunk call child chunk (pure ⟨⟩) s').after [.used s' (.hand child chunk)] := by
  have hread := file.readChars_of_pos hsize
  rw [sendBodyToChildFile, Proc.bind_apply, Proc.getState_apply]
  dsimp only
  rw [hfile]
  dsimp only
  rw [hread]
  by_cases hle : file.content.length ≤ file.position
  · rw [if_pos hle, if_pos hle]
    rfl
  · rw [if_neg hle, if_neg hle]
    unfold takeChunk Proc.when
    simp only [ite_self]
    rfl

section Send

variable (hserver : ∀ chunk, bodyLaw.Holds (serverBody call child chunk))
variable (hinit : bodyLaw.Holds (initCommandWaitingChildQueue call .body))
variable (hstatus : ∀ sent, bodyLaw.Holds (statusOfSending child sent))
variable {sent body : Bytes}

include hserver hstatus hinit

/-- Both send from memory. -/
theorem settles_send_memory (hagrees : Agrees h s t)
    (hmemory : InMemory h.replay s.storage t.storage) (hreplay : h.replay = .steady sent)
    (hsize : h.expected ≠ [] → 0 < s.chunkSize.value) (hbody : s.body = some body) :
    bodyComparison.Settles h s t (sendBodyToChildString call child body)
      (sendBodyToChildString call child body) := by
  have hbody' : t.body = some body := hmemory.body.symm.trans hbody
  have hexpected : body = h.expected := by
    have hstored : t.body.getD [] = h.expected := hagrees.placed.expected
    rw [hbody'] at hstored
    exact hstored
  have hstored {u : State} (hu : u.body = some body) : u.storage.body ≠ none := by
    show u.body ≠ none
    rw [hu]
    exact Option.some_ne_none _
  have hsteady : h.replay.sent? = some sent ∧ h.replay.read? = some sent := by
    rw [hreplay]
    exact ⟨rfl, rfl⟩
  have hoffset : s.sentBodyOffset = sent.length := hmemory.sent sent hsteady.1 (hstored hbody)
  have hoffset' : t.sentBodyOffset = sent.length :=
    hagrees.placed.sent sent hsteady.1 (hstored hbody')
  have hsent : sent <+: body := hexpected ▸ hagrees.placed.read sent hsteady.2
  have hall : body <+: h.expected := hexpected ▸ List.prefix_rfl
  have hm := @sendBodyToChildString_apply s call child body
  have hn := @sendBodyToChildString_apply t call child body
  rw [hoffset] at hm
  rw [hoffset', hagrees.chunkSize] at hn
  by_cases hle : body.length ≤ sent.length
  · rw [if_pos hle] at hm hn
    apply settles_complete hagrees _ hm hn
    rw [hreplay, hsent.eq_of_length_le hle, hexpected]
  · rw [if_neg hle] at hm hn
    have hbegins := (begins_append_take_drop hsent s.chunkSize.value).trans hall
    have hhanded := hagrees.placed.hand_memory hreplay hmemory hbegins
    have hhanding : Agrees
        { h with replay := .handing sent ((body.drop sent.length).take s.chunkSize.value) } s t :=
      ⟨hagrees.same, hhanded.2⟩
    apply settles_hand hm hn hreplay hhanding
    · exact length_take_drop_bounds (fun hne => hsize (hexpected ▸ hne)) hle
    · exact hbegins
    · exact settles_take_memory hhanding hhanded.1 rfl (hserver _) hinit hstatus

omit hinit in
/-- One sends from the file what the other sends from memory. -/
theorem settles_send_file {file : BodyFile} (hagrees : Agrees h s t)
    (hfile : InFile h.replay s.storage t.storage file) (hreplay : h.replay = .steady sent)
    (hsize : h.expected ≠ [] → 0 < s.chunkSize.value) :
    bodyComparison.Settles h s t (sendBodyToChildFile call child)
      (sendBodyToChildString call child file.content) := by
  have hexpected : file.content = h.expected := by
    rw [← hagrees.placed.expected, hfile.content]
    rfl
  have hpos : 0 < s.chunkSize.value := hsize (hexpected ▸ hfile.nonempty)
  have hstored : t.storage.body ≠ none := by
    rw [hfile.content]
    exact Option.some_ne_none _
  have hsteady : h.replay.sent? = some sent ∧ h.replay.read? = some sent := by
    rw [hreplay]
    exact ⟨rfl, rfl⟩
  have hposition : file.position = sent.length := hfile.read sent hsteady.2
  have hoffset : t.sentBodyOffset = sent.length := hagrees.placed.sent sent hsteady.1 hstored
  have hsent : sent <+: file.content := hexpected ▸ hagrees.placed.read sent hsteady.2
  have hall : file.content <+: h.expected := hexpected ▸ List.prefix_rfl
  have hm := @sendBodyToChildFile_apply s call child file hfile.bodyFile hpos
  have hn := @sendBodyToChildString_apply t call child file.content
  dsimp only at hm
  rw [hposition] at hm
  rw [hoffset, hagrees.chunkSize] at hn
  by_cases hle : file.content.length ≤ sent.length
  · rw [if_pos hle] at hm hn
    apply settles_complete hagrees _ hm hn
    rw [hreplay, hsent.eq_of_length_le hle, hexpected]
  · rw [if_neg hle] at hm hn
    have hbegins := (begins_append_take_drop hsent s.chunkSize.value).trans hall
    have hhanded := hagrees.placed.hand_file hreplay hfile hbegins
    rw [hposition] at hhanded
    have hhanding := @Agrees.put h _ s t hagrees _ _ hhanded.2
    apply settles_hand hm hn hreplay hhanding
    · exact length_take_drop_bounds (fun _ => hpos) hle
    · exact hbegins
    · exact settles_take_file hhanding hhanded.1 rfl (hserver _) hstatus

theorem bodyLaw_sendStoredBody : bodyLaw.Holds (sendStoredBody call child) := by
  apply Comparison.Simulates.of_settles
  intro h s t hagrees
  apply Comparison.Settles.recorded
  · rfl
  · exact fun _ => hagrees.stored
  intro horderly
  obtain ⟨hsteady, hsize⟩ := horderly
  obtain ⟨sent, hreplay⟩ := Replay.exists_steady hsteady
  have hrun (u : State) : (Proc.getState >>= fun s : State =>
      match s.body with
      | some body => sendBodyToChildString call child body
      | none => sendBodyToChildFile call child : Program Status) u =
        (match u.body with
          | some body => sendBodyToChildString call child body
          | none => sendBodyToChildFile call child) u := by
    rw [Proc.bind_apply, Proc.getState_apply]
    rfl
  apply Comparison.Settles.of_eq (hrun s) (hrun t)
  show bodyComparison.Settles h _ _ _ _
  rcases hagrees.placed.place with hmemory | ⟨file, hfile⟩
  · have hsame : t.body = s.body := hmemory.body.symm
    rw [hsame]
    cases hbody : s.body with
    | some body =>
        exact settles_send_memory hserver hinit hstatus hagrees hmemory hreplay hsize hbody
    | none =>
        have hnothing {u : State} (hu : u.bodyFile = none) :
            sendBodyToChildFile call child u = (pure .notChange : Program Status) u :=
          sendBodyToChildFile_none hu
        apply Comparison.Settles.of_eq (hnothing hmemory.bodyFile)
          (hnothing hagrees.placed.bodyFile)
        apply Comparison.Settles.pure hagrees
        show ¬h.replay.isHanding = true
        rw [hreplay]
        exact Bool.false_ne_true
  · have hbody : s.body = none := hfile.body
    have hbody' : t.body = some file.content := hfile.content
    rw [hbody, hbody']
    exact settles_send_file hserver hstatus hagrees hfile hreplay hsize

end Send

end Sending

section Runs

variable {call : Handlers}

theorem next_of_isAside {action : Action} (haside : action.isAside) (h : BodyHistory) :
    h.next action = h ∧ h.Served action := by
  cases action with
  | emitted before signal =>
      cases signal with
      | replaceBody chunk => cases haside
      | _ => exact ⟨rfl, trivial⟩
  | queued | unreachable => exact ⟨rfl, trivial⟩
  | called | sent | disposed | used | endless => cases haside

theorem bodyLaw_connectionKeeps
    (hcall : ∀ child callback, bodyLaw.Holds (call child callback)) :
    ConnectionKeeps bodyLaw call (fun _ => True) fun callback => isReady callback = false where
  context _ _ _ := bodyLaw_update (fun _ => rfl) fun _ _ => rfl
  sent _ _ _ := bodyLaw_record (fun _ _ => rfl) (fun _ _ => trivial) fun _ _ => rfl
  called child callback _ _ := hcall child callback
  entered child callback _ := ConnectionKeeps.of_enter (hcall child callback)
  error _ _ := rfl
  connectionError _ _ _ := rfl

theorem bodyLaw_asideKeeps (hcall : ∀ child callback, bodyLaw.Holds (call child callback)) :
    AsideKeeps bodyLaw call fun _ => True where
  toConnectionKeeps := bodyLaw_connectionKeeps hcall
  update _ hf := bodyLaw_update hf.storage hf.withStorage
  record _ haside hshown :=
    bodyLaw_record (fun h s => (next_of_isAside (haside s) h).1)
      (fun h s => (next_of_isAside (haside s) h).2) hshown
  replayed _ _ := trivial

theorem bodyLaw_runKeeps (hcall : ∀ child callback, bodyLaw.Holds (call child callback)) :
    RunKeeps bodyLaw call fun _ => True where
  toAsideKeeps := bodyLaw_asideKeeps hcall
  store := bodyLaw_storeBody
  rewind := bodyLaw_rewindBody
  replace := bodyLaw_replaceBody
  begin := bodyLaw_initChildForBody
  send _ := by
    have haside := bodyLaw_asideKeeps hcall
    apply bodyLaw_sendStoredBody
    · exact fun _ => haside.of_serverBody rfl trivial rfl
    · exact haside.of_initCommandWaitingChildQueue
    · exact fun _ => AsideKeeps.of_statusOfSending
  emit := bodyLaw_emitReplaceBodySignal
  dispose := bodyLaw_disposeMessageRelatedData
  child _ _ _ _ := bodyLaw_update (fun _ => rfl) fun _ _ => rfl
  attempts _ hf := bodyLaw_update hf.storage hf.withStorage
  offered _ _ := bodyLaw_record (fun _ _ => rfl) (fun _ _ => trivial) fun _ _ => rfl

/-- A run does the same wherever the body is. -/
theorem bodyLaw_run (depth : Nat) (events : List Event) : bodyLaw.Holds (run depth events) := by
  have hcalled (child : ChildId) (callback : Callback) :
      bodyLaw.Holds (Proc.record fun s => Action.called s child callback) :=
    bodyLaw_record (fun _ _ => rfl) (fun _ _ => trivial) fun _ _ => rfl
  have hdispatch :=
    RunKeeps.of_dispatch hcalled (fun _ hcall => bodyLaw_runKeeps hcall) depth
  apply Holds.each
  intro event _
  exact (bodyLaw_runKeeps hdispatch).of_anyPerform fun child attempt => hdispatch child _

end Runs

section Init

variable {children : List Context} {privilegeMode : Bool} {launcher : Launcher}
variable {chunkSize : ChunkSize} {surroundings : Surroundings}

theorem agrees_init :
    Agrees .init (.init children privilegeMode launcher chunkSize surroundings)
      { State.init children privilegeMode launcher chunkSize surroundings with bodyLimit := none }
    where
  same _ := rfl
  placed :=
    { bodyLimit := rfl
      bodyFile := rfl
      expected := rfl
      sent := fun _ hsent => nomatch hsent
      read := fun _ hread => nomatch hread
      place := .inl ⟨rfl, rfl, fun _ hsent => nomatch hsent⟩ }

/-- Two children that have negotiated and take a message. -/
def takenMessage : List Event :=
  let both (command : Event) : List Event :=
    [command, .flushed 0, .flushed 1, .reply 0 .continue, .reply 1 .continue]
  let session : List Event :=
    .negotiate ⟨6, 0xff#32, 0x1fffff#32⟩ (fun _ => true) ::
      [0, 1].flatMap fun child =>
        [.connected child true, .flushed child, .reply child (.negotiateReply ⟨6, 0x10#32, 0#32⟩)]
  session ++ both (.connect []) ++ both (.helo []) ++ both (.envelopeFrom [115]) ++
    both (.envelopeRecipient [114]) ++ both .data

/-- The first child replaces the body of a message, which the second one then gets. -/
def replacedMessage : List Event :=
  let answered (child : ChildId) : List Event := [.flushed child, .reply child .continue]
  takenMessage ++ .header [72] (some [86]) :: answered 0 ++ .endOfHeader :: answered 0 ++
    .body [97, 98, 99] :: answered 0 ++
    [.endOfMessage none 0, .flushed 0, .reply 0 (.replaceBody [100, 101, 102]),
      .reply 0 .continue] ++
    (List.replicate 5 (answered 1)).flatten

end Init

end MilterManager.Children
