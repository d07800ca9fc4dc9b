import Mathlib.Data.List.Basic

/-!
# Streams of length-delimited frames

A frame is its content behind the length of the content, four bytes in network order. A stream is
read frame by frame with any function that accepts or refuses the content of one frame.
-/

namespace MilterManager.Base

universe u v

/-- The four bytes of a word in network order. -/
def bigEndian (n : Nat) : List UInt8 :=
  [UInt8.ofNat (n / 0x1000000), UInt8.ofNat (n / 0x10000), UInt8.ofNat (n / 0x100), UInt8.ofNat n]

/-- The number written by bytes in network order. -/
def ofBigEndian (bytes : List UInt8) : Nat :=
  bytes.foldl (fun n byte => n * 0x100 + byte.toNat) 0

@[simp] theorem length_bigEndian (n : Nat) : (bigEndian n).length = 4 := rfl

/-- A word is read back from its bytes. -/
theorem ofBigEndian_bigEndian (n : Nat) (h : n < 0x100000000) : ofBigEndian (bigEndian n) = n := by
  simp only [ofBigEndian, bigEndian, List.foldl_cons, List.foldl_nil, UInt8.toNat_ofNat']
  omega

/-- Four bytes are the bytes of the word they write. -/
theorem bigEndian_ofBigEndian (bytes : List UInt8) (h : bytes.length = 4) :
    bigEndian (ofBigEndian bytes) = bytes := by
  match bytes, h with
  | [a, b, c, d], _ =>
      have ha := a.toNat_lt
      have hb := b.toNat_lt
      have hc := c.toNat_lt
      have hd := d.toNat_lt
      simp only [ofBigEndian, bigEndian, List.foldl_cons, List.foldl_nil, List.cons.injEq,
        and_true]
      refine ⟨?_, ?_, ?_, ?_⟩ <;>
      · apply UInt8.toNat_inj.mp
        rw [UInt8.toNat_ofNat']
        omega

theorem ofBigEndian_lt (bytes : List UInt8) (h : bytes.length = 4) :
    ofBigEndian bytes < 0x100000000 := by
  match bytes, h with
  | [a, b, c, d], _ =>
      have ha := a.toNat_lt
      have hb := b.toNat_lt
      have hc := c.toNat_lt
      have hd := d.toNat_lt
      simp only [ofBigEndian, List.foldl_cons, List.foldl_nil]
      omega

/-- The content behind its length. -/
def frame (content : List UInt8) : List UInt8 := bigEndian content.length ++ content

/-- The content of the first frame and what follows it, once all of it is there. -/
def nextFrame (stream : List UInt8) : Option (List UInt8 × List UInt8) :=
  if stream.length < 4 then none
  else if (stream.drop 4).length < ofBigEndian (stream.take 4) then none
  else some ((stream.drop 4).take (ofBigEndian (stream.take 4)),
    (stream.drop 4).drop (ofBigEndian (stream.take 4)))

@[simp] theorem length_frame (content : List UInt8) :
    (frame content).length = content.length + 4 := by
  rw [frame, List.length_append, length_bigEndian, Nat.add_comm]

/-- A frame at the head of a stream is its next frame. -/
theorem nextFrame_frame (content rest : List UInt8) (h : content.length < 0x100000000) :
    nextFrame (frame content ++ rest) = some (content, rest) := by
  have htake : (frame content ++ rest).take 4 = bigEndian content.length := by
    rw [frame, List.append_assoc, List.take_left' (length_bigEndian _)]
  have hdrop : (frame content ++ rest).drop 4 = content ++ rest := by
    rw [frame, List.append_assoc, List.drop_left' (length_bigEndian _)]
  rw [nextFrame, htake, hdrop, ofBigEndian_bigEndian _ h, if_neg, if_neg, List.take_left,
    List.drop_left]
  · simp
  · rw [List.length_append, length_frame]
    omega

/-- The next frame of a stream is at its head. -/
theorem eq_of_nextFrame {stream content rest : List UInt8}
    (h : nextFrame stream = some (content, rest)) :
    content.length < 0x100000000 ∧ stream = frame content ++ rest := by
  unfold nextFrame at h
  split at h
  · cases h
  · next h4 =>
      split at h
      · cases h
      · next hlength =>
          have htake : (stream.take 4).length = 4 := by
            rw [List.length_take]
            omega
          obtain ⟨rfl, rfl⟩ := Prod.mk.inj (Option.some.inj h)
          have hcontent : ((stream.drop 4).take (ofBigEndian (stream.take 4))).length =
              ofBigEndian (stream.take 4) := by
            rw [List.length_take]
            omega
          constructor
          · rw [hcontent]
            exact ofBigEndian_lt _ htake
          · rw [frame, hcontent, bigEndian_ofBigEndian _ htake, List.append_assoc,
              List.take_append_drop, List.take_append_drop]

/-- What follows a stream does not change its next frame. -/
theorem nextFrame_append {stream content rest : List UInt8}
    (h : nextFrame stream = some (content, rest)) (more : List UInt8) :
    nextFrame (stream ++ more) = some (content, rest ++ more) := by
  obtain ⟨hlength, rfl⟩ := eq_of_nextFrame h
  rw [List.append_assoc, nextFrame_frame _ _ hlength]

theorem length_lt_of_nextFrame {stream content rest : List UInt8}
    (h : nextFrame stream = some (content, rest)) : rest.length < stream.length := by
  obtain ⟨-, rfl⟩ := eq_of_nextFrame h
  rw [List.length_append, length_frame]
  omega

/-- The contents of the complete frames at the head of a stream. -/
def frames (stream : List UInt8) : List (List UInt8) :=
  match _h : nextFrame stream with
  | none => []
  | some (content, rest) => content :: frames rest
termination_by stream.length
decreasing_by exact length_lt_of_nextFrame _h

/-- What is left of a stream behind its complete frames. -/
def remainder (stream : List UInt8) : List UInt8 :=
  match _h : nextFrame stream with
  | none => stream
  | some (_, rest) => remainder rest
termination_by stream.length
decreasing_by exact length_lt_of_nextFrame _h

theorem frames_of_none {stream : List UInt8} (h : nextFrame stream = none) :
    frames stream = [] := by
  rw [frames]
  split
  · rfl
  · next h' => rw [h] at h'; cases h'

theorem frames_of_some {stream content rest : List UInt8}
    (h : nextFrame stream = some (content, rest)) : frames stream = content :: frames rest := by
  rw [frames]
  split
  · next h' => rw [h] at h'; cases h'
  · next h' =>
      rw [h] at h'
      obtain ⟨rfl, rfl⟩ := Prod.mk.inj (Option.some.inj h')
      rfl

theorem remainder_of_none {stream : List UInt8} (h : nextFrame stream = none) :
    remainder stream = stream := by
  rw [remainder]
  split
  · rfl
  · next h' => rw [h] at h'; cases h'

theorem remainder_of_some {stream content rest : List UInt8}
    (h : nextFrame stream = some (content, rest)) : remainder stream = remainder rest := by
  rw [remainder]
  split
  · next h' => rw [h] at h'; cases h'
  · next h' =>
      rw [h] at h'
      obtain ⟨-, rfl⟩ := Prod.mk.inj (Option.some.inj h')
      rfl

/-- The frames of a stream one by one: what holds of a stream without a complete frame and is
kept by a frame in front holds of every stream. -/
theorem stream_induction {motive : List UInt8 → Prop}
    (tail : ∀ stream, nextFrame stream = none → motive stream)
    (cons : ∀ stream content rest, nextFrame stream = some (content, rest) → motive rest →
      motive stream) (stream : List UInt8) : motive stream := by
  cases h : nextFrame stream with
  | none => exact tail stream h
  | some parts =>
      obtain ⟨content, rest⟩ := parts
      have := length_lt_of_nextFrame h
      exact cons stream content rest h (stream_induction tail cons rest)
termination_by stream.length

/-- The complete frames of a stream stay when it goes on. -/
theorem frames_append (stream more : List UInt8) :
    frames (stream ++ more) = frames stream ++ frames (remainder stream ++ more) := by
  induction stream using stream_induction with
  | tail stream h => rw [frames_of_none h, remainder_of_none h, List.nil_append]
  | cons stream content rest h ih =>
      rw [frames_of_some (nextFrame_append h more), frames_of_some h, remainder_of_some h, ih,
        List.cons_append]

/-- The stream has these frames, then this one, and then the bytes behind it. -/
inductive FrameAt :
    List UInt8 → List (List UInt8) → List UInt8 → List UInt8 → Prop where
  | here {stream content behind : List UInt8} (h : nextFrame stream = some (content, behind)) :
      FrameAt stream [] content behind
  | later {stream first rest content behind : List UInt8} {before : List (List UInt8)}
      (h : nextFrame stream = some (first, rest)) (hrest : FrameAt rest before content behind) :
      FrameAt stream (first :: before) content behind

section FrameAt

variable {stream content behind : List UInt8} {before : List (List UInt8)}

theorem FrameAt.append (h : FrameAt stream before content behind) (more : List UInt8) :
    FrameAt (stream ++ more) before content (behind ++ more) := by
  induction h with
  | here h => exact .here (nextFrame_append h more)
  | later h _ ih => exact .later (nextFrame_append h more) ih

/-- The bytes up to the end of the frame are a stream of their own. -/
theorem FrameAt.exists_head (h : FrameAt stream before content behind) :
    ∃ head, stream = head ++ behind ∧ FrameAt head before content [] := by
  induction h with
  | @here stream content behind h =>
      obtain ⟨hlength, rfl⟩ := eq_of_nextFrame h
      refine ⟨frame content, rfl, .here ?_⟩
      have hnext := nextFrame_frame content [] hlength
      rwa [List.append_nil] at hnext
  | @later stream first rest content behind before h _ ih =>
      obtain ⟨hlength, rfl⟩ := eq_of_nextFrame h
      obtain ⟨head, rfl, hhead⟩ := ih
      exact ⟨frame first ++ head, (List.append_assoc _ _ _).symm,
        .later (nextFrame_frame first head hlength) hhead⟩

theorem FrameAt.frames (h : FrameAt stream before content behind) :
    frames stream = before ++ content :: frames behind := by
  induction h with
  | here h => exact frames_of_some h
  | later h _ ih => rw [frames_of_some h, ih, List.cons_append]

theorem exists_frameAt (stream : List UInt8) {after : List (List UInt8)}
    (h : frames stream = before ++ content :: after) :
    ∃ behind, FrameAt stream before content behind := by
  induction stream using stream_induction generalizing before with
  | tail stream hnone =>
      rw [frames_of_none hnone] at h
      simp at h
  | cons stream first rest hsome ih =>
      rw [frames_of_some hsome] at h
      cases before with
      | nil =>
          obtain ⟨rfl, -⟩ := List.cons.inj h
          exact ⟨rest, .here hsome⟩
      | cons _ before =>
          obtain ⟨rfl, hrest⟩ := List.cons.inj h
          obtain ⟨behind, hbehind⟩ := ih hrest
          exact ⟨behind, .later hsome hbehind⟩

end FrameAt

/-- A stream is its frames and what is left. -/
theorem flatten_frames (stream : List UInt8) :
    ((frames stream).map frame).flatten ++ remainder stream = stream := by
  induction stream using stream_induction with
  | tail stream h => rw [frames_of_none h, remainder_of_none h, List.map_nil, List.flatten_nil,
      List.nil_append]
  | cons stream content rest h ih =>
      obtain ⟨-, rfl⟩ := eq_of_nextFrame h
      rw [frames_of_some h, remainder_of_some h, List.map_cons, List.flatten_cons,
        List.append_assoc, ih]

/-- The frames of a stream are short enough for their length words. -/
theorem length_lt_of_mem_frames (stream content : List UInt8) (h : content ∈ frames stream) :
    content.length < 0x100000000 := by
  induction stream using stream_induction with
  | tail stream hnone =>
      rw [frames_of_none hnone] at h
      cases h
  | cons stream head rest hsome ih =>
      rw [frames_of_some hsome] at h
      cases h with
      | head => exact (eq_of_nextFrame hsome).1
      | tail _ h => exact ih h

/-- The stream is an exact concatenation of complete frames. -/
def IsComplete (stream : List UInt8) : Prop :=
  ∃ contents : List (List UInt8), (∀ content ∈ contents, content.length < 0x100000000) ∧
    stream = (contents.map frame).flatten

theorem frames_flatten (contents : List (List UInt8))
    (h : ∀ content ∈ contents, content.length < 0x100000000) :
    frames (contents.map frame).flatten = contents ∧
      remainder (contents.map frame).flatten = [] := by
  induction contents with
  | nil => exact ⟨frames_of_none rfl, remainder_of_none rfl⟩
  | cons content contents ih =>
      have hnext := nextFrame_frame content (contents.map frame).flatten
        (h content List.mem_cons_self)
      obtain ⟨hframes, hremainder⟩ := ih fun c hc => h c (List.mem_cons_of_mem content hc)
      rw [List.map_cons, List.flatten_cons]
      constructor
      · rw [frames_of_some hnext, hframes]
      · rw [remainder_of_some hnext, hremainder]

/-- A stream is complete when nothing is left behind its frames. -/
theorem isComplete_iff (stream : List UInt8) : IsComplete stream ↔ remainder stream = [] := by
  constructor
  · rintro ⟨contents, hlength, rfl⟩
    exact (frames_flatten contents hlength).2
  · intro h
    have hflatten := flatten_frames stream
    rw [h, List.append_nil] at hflatten
    exact ⟨frames stream, length_lt_of_mem_frames stream, hflatten.symm⟩

/-- What came of reading a stream: what the accepted frames gave, and the refusal of a frame or
the bytes still pending. -/
structure Reading (ε : Type u) (σ : Type v) where
  items : List σ
  rest : Except ε (List UInt8)

variable {ε : Type u} {σ : Type v}

/-- The stream read frame by frame. A frame of `limit` bytes or more is waited for in vain. -/
def read (limit : Nat) (accept : List UInt8 → Except ε σ) (stream : List UInt8) : Reading ε σ :=
  match _h : nextFrame stream with
  | none => ⟨[], .ok stream⟩
  | some (content, rest) =>
      if limit ≤ content.length then ⟨[], .ok stream⟩
      else
        match accept content with
        | .error refusal => ⟨[], .error refusal⟩
        | .ok item =>
            ⟨item :: (read limit accept rest).items, (read limit accept rest).rest⟩
termination_by stream.length
decreasing_by all_goals exact length_lt_of_nextFrame _h

section Read

variable (limit : Nat) (accept : List UInt8 → Except ε σ) {stream content rest : List UInt8}

theorem read_of_none (h : nextFrame stream = none) :
    read limit accept stream = ⟨[], .ok stream⟩ := by
  rw [read]
  split
  · rfl
  · next h' => rw [h] at h'; cases h'

theorem read_of_some (h : nextFrame stream = some (content, rest)) :
    read limit accept stream =
      if limit ≤ content.length then ⟨[], .ok stream⟩
      else
        match accept content with
        | .error refusal => ⟨[], .error refusal⟩
        | .ok item =>
            ⟨item :: (read limit accept rest).items, (read limit accept rest).rest⟩ := by
  rw [read]
  split
  · next h' => rw [h] at h'; cases h'
  · next h' =>
      rw [h] at h'
      obtain ⟨rfl, rfl⟩ := Prod.mk.inj (Option.some.inj h')
      rfl

/-- Reading goes on from the pending bytes when the stream does. -/
def Reading.resume (reading : Reading ε σ) (more : List UInt8)
    (continuation : List UInt8 → Reading ε σ) : Reading ε σ :=
  match reading.rest with
  | .error refusal => ⟨reading.items, .error refusal⟩
  | .ok pending =>
      ⟨reading.items ++ (continuation (pending ++ more)).items,
        (continuation (pending ++ more)).rest⟩

/-- Where a stream is cut does not change what is read. -/
theorem read_append (stream more : List UInt8) :
    read limit accept (stream ++ more) =
      (read limit accept stream).resume more (read limit accept) := by
  induction stream using stream_induction with
  | tail stream h =>
      rw [read_of_none _ _ h, Reading.resume]
      rfl
  | cons stream content rest h ih =>
      rw [read_of_some _ _ (nextFrame_append h more), read_of_some _ _ h]
      by_cases hlimit : limit ≤ content.length
      · rw [if_pos hlimit, if_pos hlimit, Reading.resume]
        simp only [List.nil_append]
        rw [read_of_some _ _ (nextFrame_append h more), if_pos hlimit]
      · rw [if_neg hlimit, if_neg hlimit]
        cases accept content with
        | error refusal => rfl
        | ok item =>
            simp only [ih, Reading.resume]
            cases (read limit accept rest).rest <;> rfl

/-- The frames of what is pending are frames of the stream. -/
theorem frames_of_read {left : List UInt8} (stream : List UInt8)
    (h : (read limit accept stream).rest = .ok left) :
    ∃ contents, ∀ more, frames (stream ++ more) = contents ++ frames (left ++ more) := by
  induction stream using stream_induction with
  | tail stream hnext =>
      rw [read_of_none _ _ hnext] at h
      obtain rfl := Except.ok.inj h
      exact ⟨[], fun more => rfl⟩
  | cons stream content rest hnext ih =>
      rw [read_of_some _ _ hnext] at h
      by_cases hlimit : limit ≤ content.length
      · rw [if_pos hlimit] at h
        obtain rfl := Except.ok.inj h
        exact ⟨[], fun more => rfl⟩
      · rw [if_neg hlimit] at h
        cases haccept : accept content with
        | error refusal =>
            rw [haccept] at h
            cases h
        | ok item =>
            rw [haccept] at h
            obtain ⟨contents, hcontents⟩ := ih h
            refine ⟨content :: contents, fun more => ?_⟩
            rw [frames_of_some (nextFrame_append hnext more), hcontents, List.cons_append]

/-- Nothing is left of a stream exactly when it is complete and every frame of it is short enough
and accepted. -/
theorem read_rest_eq_nil_iff (stream : List UInt8) :
    (read limit accept stream).rest = .ok [] ↔
      remainder stream = [] ∧
        ∀ content ∈ frames stream, content.length < limit ∧ ∃ item, accept content = .ok item := by
  induction stream using stream_induction with
  | tail stream h =>
      rw [read_of_none _ _ h, remainder_of_none h, frames_of_none h]
      simp
  | cons stream content rest h ih =>
      rw [read_of_some _ _ h, remainder_of_some h, frames_of_some h, List.forall_mem_cons]
      by_cases hlimit : limit ≤ content.length
      · rw [if_pos hlimit]
        constructor
        · intro hnil
          have hstream : stream = [] := by simpa using hnil
          rw [hstream] at h
          cases h
        · rintro ⟨-, ⟨hlt, -⟩, -⟩
          omega
      · rw [if_neg hlimit]
        cases haccept : accept content with
        | error refusal => simp
        | ok item =>
            simp only [ih]
            constructor
            · rintro ⟨hremainder, hall⟩
              exact ⟨hremainder, ⟨by omega, item, rfl⟩, hall⟩
            · rintro ⟨hremainder, -, hall⟩
              exact ⟨hremainder, hall⟩

/-- No frame is refused exactly when every one before a frame that is too long is accepted. -/
theorem read_rest_eq_ok_iff (stream : List UInt8) :
    (∃ pending, (read limit accept stream).rest = .ok pending) ↔
      ∀ content ∈ (frames stream).takeWhile (·.length < limit),
        ∃ item, accept content = .ok item := by
  induction stream using stream_induction with
  | tail stream h =>
      rw [read_of_none _ _ h, frames_of_none h]
      simp
  | cons stream content rest h ih =>
      rw [read_of_some _ _ h, frames_of_some h]
      by_cases hlimit : limit ≤ content.length
      · rw [if_pos hlimit, List.takeWhile_cons_of_neg (by simpa using hlimit)]
        simp
      · rw [if_neg hlimit, List.takeWhile_cons_of_pos (by simpa using hlimit),
          List.forall_mem_cons]
        cases haccept : accept content with
        | error refusal => simp
        | ok item =>
            simp only [ih]
            exact ⟨fun hall => ⟨⟨item, rfl⟩, hall⟩, fun hall => hall.2⟩

end Read

end MilterManager.Base
