import Mathlib.Data.List.TakeWhile
import MilterManager.Core.Headers

/-!
# C strings and the memory behind a `GString`

The decoders walk a `GString` with pointers. A pointer is the memory from there on: the bytes up to
the NUL that ends the `GString`, and what happens to lie behind it.
-/

namespace MilterManager.Codec

open MilterManager.Core

/-- A C string: no byte of it is NUL. -/
structure CString where
  bytes : Bytes
  noNull : 0 ∉ bytes
deriving DecidableEq, Repr

namespace CString

@[ext] theorem ext {s t : CString} (h : s.bytes = t.bytes) : s = t := by
  cases s
  cases t
  congr

/-- The string up to the first NUL of the bytes. -/
def ofBytes (bytes : Bytes) : CString :=
  ⟨bytes.takeWhile (· ≠ 0), fun h => by simpa using List.all_eq_true.mp List.all_takeWhile 0 h⟩

/-- `""`. -/
def empty : CString := ⟨[], List.not_mem_nil⟩

/-- `strlen`. -/
def length (s : CString) : Nat := s.bytes.length

theorem takeWhile_append_null (text after : Bytes) (h : 0 ∉ text) :
    (text ++ 0 :: after).takeWhile (· ≠ 0) = text := by
  rw [List.takeWhile_append_of_pos, List.takeWhile_cons_of_neg, List.append_nil]
  · simp
  · intro byte hbyte
    have hne : byte ≠ 0 := fun h0 => h (h0 ▸ hbyte)
    simpa using hne

/-- The first NUL ends the string. -/
theorem ofBytes_append_null (text after : Bytes) (h : 0 ∉ text) :
    ofBytes (text ++ 0 :: after) = ⟨text, h⟩ := by
  apply ext
  exact takeWhile_append_null text after h

theorem ofBytes_bytes (s : CString) : ofBytes s.bytes = s := by
  apply ext
  rw [ofBytes, List.takeWhile_eq_self_iff]
  intro byte hbyte
  have hne : byte ≠ 0 := fun h0 => s.noNull (h0 ▸ hbyte)
  simpa using hne

end CString

/-- The bytes begin with a NUL, if there are any. -/
def HeadNull (bytes : Bytes) : Prop := ∀ byte ∈ bytes.head?, byte = 0

theorem HeadNull.of_prefix {bytes more : Bytes} (hbegins : bytes <+: more) (h : HeadNull more) :
    HeadNull bytes := by
  obtain ⟨rest, rfl⟩ := hbegins
  cases bytes with
  | nil => exact fun byte hbyte => absurd hbyte (by simp)
  | cons byte bytes => exact h

/-- The memory at a pointer into a `GString`. -/
structure Memory where
  bytes : Bytes
  residue : Nat → UInt8

namespace Memory

/-- The byte at an index from the pointer. -/
def get (memory : Memory) (i : Nat) : UInt8 :=
  memory.bytes.getD i (memory.residue (i - memory.bytes.length))

/-- The pointer moved on. -/
def advance (memory : Memory) (n : Nat) : Memory :=
  ⟨memory.bytes.drop n, fun i => memory.residue (i + (n - memory.bytes.length))⟩

/-- The first bytes, as `memcpy` reads them. -/
def take (memory : Memory) (n : Nat) : Bytes :=
  (List.range n).map memory.get

/-- The C string at the pointer. -/
def string (memory : Memory) : CString :=
  .ofBytes memory.bytes

/-- `g_strndup`. -/
def stringWithin (memory : Memory) (n : Nat) : CString :=
  .ofBytes (memory.take n)

/-- The memory where a frame begins that is followed by other bytes in the buffer. -/
def atFrame (frame following : Bytes) (residue : Nat → UInt8) : Memory :=
  ⟨frame ++ following ++ [0], residue⟩

section AtFrame

variable (frame following : Bytes) (residue : Nat → UInt8)

theorem get_atFrame (i : Nat) (h : i < frame.length) :
    (atFrame frame following residue).get i = frame[i] := by
  rw [atFrame, get, List.append_assoc, List.getD_eq_getElem?_getD, List.getElem?_append_left h,
    List.getElem?_eq_getElem h, Option.getD_some]

@[simp] theorem get_atFrame_cons (byte : UInt8) :
    (atFrame (byte :: frame) following residue).get 0 = byte := rfl

theorem take_eq (memory : Memory) (n : Nat) (h : n ≤ memory.bytes.length) :
    memory.take n = memory.bytes.take n := by
  apply List.ext_getElem
  · rw [take, List.length_map, List.length_range, List.length_take, Nat.min_eq_left h]
  · intro i hi _
    have hlt : i < memory.bytes.length := by
      rw [take, List.length_map, List.length_range] at hi
      omega
    rw [List.getElem_take]
    simp [take, get, hlt]

/-- Bytes of the frame are read from the frame. -/
theorem take_atFrame (n : Nat) (h : n ≤ frame.length) :
    (atFrame frame following residue).take n = frame.take n := by
  rw [take_eq]
  · rw [atFrame, List.append_assoc, List.take_append_of_le_length h]
  · rw [atFrame, List.append_assoc, List.length_append]
    omega

/-- Inside the frame the pointer is at the rest of the frame. -/
theorem advance_atFrame (n : Nat) (h : n ≤ frame.length) :
    (atFrame frame following residue).advance n = atFrame (frame.drop n) following residue := by
  have hresidue : n - (frame ++ following ++ [0]).length = 0 := by
    simp only [List.length_append]
    omega
  simp only [atFrame, advance, hresidue, Nat.add_zero]
  rw [List.append_assoc, List.drop_append_of_le_length h, ← List.append_assoc]

@[simp] theorem advance_atFrame_cons (byte : UInt8) :
    (atFrame (byte :: frame) following residue).advance 1 = atFrame frame following residue := by
  rw [advance_atFrame _ _ _ 1 (by simp), List.drop_one, List.tail_cons]

/-- The pointer behind a terminated string. -/
theorem advance_atFrame_append (text : Bytes) :
    (atFrame (text ++ 0 :: frame) following residue).advance (text.length + 1) =
      atFrame frame following residue := by
  rw [advance_atFrame]
  · simp
  · simp

/-- A terminated string of the frame. -/
theorem string_atFrame_append (text : Bytes) (h : 0 ∉ text) :
    (atFrame (text ++ 0 :: frame) following residue).string = ⟨text, h⟩ := by
  rw [atFrame, string, List.append_assoc, List.append_assoc, List.cons_append,
    CString.ofBytes_append_null _ _ h]

theorem string_atFrame_of_mem (h : 0 ∈ frame) :
    (atFrame frame following residue).string = .ofBytes frame := by
  obtain ⟨text, after, rfl, htext⟩ := List.eq_append_cons_of_mem h
  rw [string_atFrame_append _ _ _ _ htext, CString.ofBytes_append_null _ _ htext]

/-- A text at the end of a frame is read when what follows begins with a NUL. -/
theorem string_atFrame_iff (text : CString) :
    (atFrame text.bytes following residue).string = text ↔ HeadNull following := by
  rw [string, atFrame, HeadNull]
  cases following with
  | nil =>
      rw [List.append_nil, CString.ofBytes_append_null _ _ text.noNull]
      simp
  | cons byte following =>
      rw [List.append_assoc, List.cons_append]
      by_cases hbyte : byte = 0
      · rw [hbyte, CString.ofBytes_append_null _ _ text.noNull]
        simp
      · have hlonger : (CString.ofBytes (text.bytes ++ byte :: (following ++ [0]))).bytes =
            text.bytes ++ byte :: (following ++ [0]).takeWhile (· ≠ 0) := by
          have hall : ∀ byte ∈ text.bytes, decide (byte ≠ 0) = true := by
            intro byte hmem
            have hne : byte ≠ 0 := fun h0 => text.noNull (h0 ▸ hmem)
            simpa using hne
          show (text.bytes ++ byte :: (following ++ [0])).takeWhile (· ≠ 0) = _
          rw [List.takeWhile_append_of_pos hall, List.takeWhile_cons_of_pos]
          simpa using hbyte
        constructor
        · intro h
          rw [h] at hlonger
          have hlength := congrArg List.length hlonger
          rw [List.length_append, List.length_cons] at hlength
          omega
        · exact fun h => absurd (h byte rfl) hbyte

/-- Bytes behind the frame can be counted to it. -/
theorem atFrame_append (more : Bytes) :
    atFrame frame (more ++ following) residue = atFrame (frame ++ more) following residue := by
  simp only [atFrame, List.append_assoc]

end AtFrame

/-- Reading on behind what was read. -/
theorem take_add (memory : Memory) (m n : Nat) :
    memory.take (m + n) = memory.take m ++ (List.range n).map (fun i => memory.get (m + i)) := by
  rw [take, take, List.range_add, List.map_append, List.map_map]
  rfl

end Memory

end MilterManager.Codec
