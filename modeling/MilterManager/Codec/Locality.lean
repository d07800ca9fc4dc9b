import MilterManager.Codec.Fields

/-!
# Frames that decide alone

A handler reads nothing behind a frame when what it does is the same whatever follows the frame.
For each layout of a packet this is a condition on the bytes of the frame.
-/

namespace MilterManager.Codec

open MilterManager.Core

variable {σ α : Type}

/-- What is computed from some bytes does not depend on what follows them. -/
def Alone (compute : Memory → Except Failure α) (fields : Bytes) : Prop :=
  ∀ following residue following' residue',
    compute (.atFrame fields following residue) = compute (.atFrame fields following' residue')

/-- What a handler does with a frame, the error texts included, does not depend on what follows
the frame in the buffer and behind it. -/
def IsLocal (handler : Handler σ) (frame : Bytes) : Prop :=
  Alone (fun memory => handler memory frame.length) frame

theorem alone_of_eq {compute : Memory → Except Failure α} {fields : Bytes}
    (result : Except Failure α)
    (h : ∀ following residue, compute (.atFrame fields following residue) = result) :
    Alone compute fields := by
  intro following residue following' residue'
  rw [h, h]

theorem not_alone_of_ne {compute : Memory → Except Failure α} {fields : Bytes}
    (following following' : Bytes)
    (h : ∀ residue residue', compute (.atFrame fields following residue) ≠
      compute (.atFrame fields following' residue')) : ¬ Alone compute fields := by
  intro halone
  exact h (fun _ => 0) (fun _ => 0) (halone _ _ _ _)

theorem isLocal_congr {handler handler' : Handler σ} {frame : Bytes}
    (h : ∀ following residue, handler (.atFrame frame following residue) frame.length =
      handler' (.atFrame frame following residue) frame.length) :
    IsLocal handler frame ↔ IsLocal handler' frame := by
  simp only [IsLocal, Alone, h]

/-- An error quotes the byte behind an unterminated text. -/
theorem not_alone_of_quotedText {compute : Memory → Except Failure α} {fields text : Bytes}
    (h0 : 0 ∉ text) (code : ErrorCode) (message : String) (quoted : List Bytes)
    (h : ∀ following residue, compute (.atFrame fields following residue) =
      .error (.error ⟨code, message, quoted ++ [quotedText text following]⟩)) :
    ¬ Alone compute fields := by
  apply not_alone_of_ne [] [1]
  intro residue residue' heq
  rw [h, h, quotedText_nil _ h0, quotedText_cons _ _ _ (by decide) h0] at heq
  simp at heq

/-- An error about a length stays in the frame when the bytes counted are inspectable. -/
theorem alone_iff_isInspectable {compute : Memory → Except Failure α} {fields text : Bytes}
    (code : ErrorCode) (target : String)
    (h : ∀ following residue, compute (.atFrame fields following residue) =
      .error (.error ⟨code, target, inspected text following⟩)) :
    Alone compute fields ↔ isInspectable text = true := by
  constructor
  · intro halone
    by_contra hnot
    have heq := halone [] (fun _ => 0) [1] (fun _ => 0)
    rw [h, h] at heq
    apply inspected_ne text (by simpa using hnot)
    simpa using heq
  · intro hinspectable following residue following' residue'
    rw [h, h, inspected_of_isInspectable text following following' hinspectable]

theorem isLocal_decodeSimple (signal : σ) (target : String) (tag : UInt8) (fields : Bytes) :
    IsLocal (decodeSimple signal target) (tag :: fields) ↔ isInspectable fields = true := by
  by_cases hnil : fields = []
  · subst hnil
    have halone : IsLocal (decodeSimple signal target) [tag] :=
      alone_of_eq _ fun following residue => decodeSimple_atFrame following residue tag signal
        target []
    exact ⟨fun _ => rfl, fun _ => halone⟩
  · apply alone_iff_isInspectable .longCommandLength target
    intro following residue
    rw [decodeSimple_atFrame, if_neg hnil]

/-- A text that has to be there ends in the bytes, whatever is done with it. -/
theorem alone_decodeNonEmptyValue (message : String) (quoted : List Bytes)
    (signal : CString → Except Failure α) (fields : Bytes) :
    Alone (fun memory => do
        let _ ← decodeNonEmptyValue memory fields.length message quoted
        signal memory.string) fields ↔ fields.contains 0 = true := by
  rcases null_cases fields with h | ⟨text, after, h, rfl⟩
  · constructor
    · intro halone
      refine absurd halone
        (not_alone_of_quotedText h .missingNull message quoted fun following residue => ?_)
      rw [decodeNonEmptyValue_of_notMem following residue message quoted fields h]
      rfl
    · intro hcontains
      exact absurd (List.contains_iff_mem.mp hcontains) h
  · constructor
    · intro _
      simp
    · intro _
      by_cases hne : text = []
      · subst hne
        refine alone_of_eq (.error .silent) fun following residue => ?_
        rw [List.nil_append, decodeNonEmptyValue_empty]
        rfl
      · refine alone_of_eq (signal ⟨text, h⟩) fun following residue => ?_
        rw [decodeNonEmptyValue_append following residue message quoted text after h hne,
          Memory.string_atFrame_append _ _ _ _ h]
        rfl

theorem isLocal_decodeText (signal : CString → σ) (message : String) (tag : UInt8)
    (fields : Bytes) :
    IsLocal (decodeText signal message) (tag :: fields) ↔ fields.contains 0 = true := by
  rw [← alone_decodeNonEmptyValue message [] (fun text => emit (signal text)) fields]
  simp only [IsLocal, Alone, decodeText, length_fields, Memory.advance_atFrame_cons]

/-- A name ends in the bytes and, unless it is empty, so does a value behind it. -/
def hasNameAndValue (fields : Bytes) : Bool :=
  fields.contains 0 && (fields.head? == some 0 || (afterNull fields).contains 0)

theorem hasNameAndValue_of_notMem (fields : Bytes) (h : 0 ∉ fields) :
    hasNameAndValue fields = false := by
  simp [hasNameAndValue, h]

theorem hasNameAndValue_empty (after : Bytes) : hasNameAndValue (0 :: after) = true := by
  simp [hasNameAndValue]

theorem head?_append_null (text after : Bytes) (h : 0 ∉ text) (hne : text ≠ []) :
    ((text ++ 0 :: after).head? == some 0) = false := by
  cases text with
  | nil => exact absurd rfl hne
  | cons byte text =>
      have hbyte : byte ≠ 0 := fun h0 => h (h0 ▸ List.mem_cons_self)
      simpa using hbyte

theorem hasNameAndValue_append (name after : Bytes) (h : 0 ∉ name) (hne : name ≠ []) :
    hasNameAndValue (name ++ 0 :: after) = after.contains 0 := by
  rw [hasNameAndValue, head?_append_null _ _ h hne, afterNull_append _ _ h]
  simp

theorem alone_decodeHeaderContent (signal : CString × CString → Except Failure α)
    (fields : Bytes) :
    Alone (fun memory => decodeHeaderContent memory fields.length >>= signal) fields ↔
      hasNameAndValue fields = true := by
  rcases null_cases fields with h | ⟨name, after, h, rfl⟩
  · rw [hasNameAndValue_of_notMem _ h]
    constructor
    · intro halone
      refine absurd halone (not_alone_of_quotedText h .missingNull
        "name isn't terminated by NULL on header" [] fun following residue => ?_)
      rw [decodeHeaderContent_of_notMem following residue fields h]
      rfl
    · intro hfalse
      cases hfalse
  · by_cases hne : name = []
    · subst hne
      refine ⟨fun _ => hasNameAndValue_empty after, fun _ =>
        alone_of_eq (.error .silent) fun following residue => ?_⟩
      rw [List.nil_append, decodeHeaderContent_empty following residue after]
      rfl
    · rw [hasNameAndValue_append _ _ h hne]
      rcases null_cases after with hafter | ⟨value, after, hvalue, rfl⟩
      · constructor
        · intro halone
          refine absurd halone
            (not_alone_of_quotedText hafter .missingNull
              "value isn't terminated by NULL on header" [name] fun following residue => ?_)
          rw [decodeHeaderContent_of_notMem_after following residue name after h hne hafter]
          rfl
        · intro hcontains
          exact absurd (List.contains_iff_mem.mp hcontains) hafter
      · refine ⟨fun _ => by simp, fun _ =>
          alone_of_eq (signal (⟨name, h⟩, ⟨value, hvalue⟩)) fun following residue => ?_⟩
        rw [decodeHeaderContent_append following residue name value after h hne hvalue]
        rfl

theorem isLocal_decodeNameAndValue (signal : CString → CString → σ) (tag : UInt8)
    (fields : Bytes) :
    IsLocal (decodeNameAndValue signal) (tag :: fields) ↔ hasNameAndValue fields = true := by
  rw [← alone_decodeHeaderContent (fun fields => emit (signal fields.1 fields.2)) fields]
  simp only [IsLocal, Alone, decodeNameAndValue, length_fields, Memory.advance_atFrame_cons]

/-- The C string at some bytes ends in them when they have a NUL. -/
theorem alone_string (signal : CString → Except Failure α) (hsignal : Function.Injective signal)
    (fields : Bytes) :
    Alone (fun memory => signal memory.string) fields ↔ fields.contains 0 = true := by
  constructor
  · intro halone
    by_contra hcontains
    have hnull : 0 ∉ fields := fun hmem => hcontains (List.contains_iff_mem.mpr hmem)
    have hstring (following : Bytes) :
        (Memory.atFrame fields following fun _ => 0).string = ⟨fields, hnull⟩ ↔
          HeadNull following :=
      Memory.string_atFrame_iff following (fun _ => 0) ⟨fields, hnull⟩
    have hnil := (hstring []).mpr fun byte hbyte => absurd hbyte (by simp)
    have heq := hsignal (halone [] (fun _ => 0) [1] fun _ => 0)
    have hone := (hstring [1]).mp (heq.symm.trans hnil) 1 rfl
    exact absurd hone (by decide)
  · intro hcontains
    apply alone_of_eq (signal (.ofBytes fields))
    intro following residue
    rw [Memory.string_atFrame_of_mem _ _ _ (List.contains_iff_mem.mp hcontains)]

theorem isLocal_decodeChunk (signal : Bytes → Int → σ)
    (hsignal : ∀ size, Function.Injective (signal · size)) (tag : UInt8) (fields : Bytes) :
    IsLocal (decodeChunk signal) (tag :: fields) ↔ fields.contains 0 = true := by
  rw [← alone_string (fun text => emit (signal text.bytes fields.length)) _ fields]
  · simp only [IsLocal, Alone, decodeChunk_atFrame]
  · intro text text' heq
    exact CString.ext (hsignal _ (Emission.mk.inj (Except.ok.inj heq)).1)

/-- The C string that is measured at a frame ends in it. -/
def ScansWithin (scan : Scan) (frame : Bytes) : Prop :=
  Alone (fun memory => .ok (scan memory)) frame

/-- A negotiate packet without its three words. -/
theorem isLocal_decodeNegotiate_of_short {handler : Handler σ}
    (continuation : Memory → Int → MilterOption → Except Failure (Emission σ))
    (hhandler : ∀ memory length,
      handler memory length = decodeNegotiate memory length >>= continuation memory length)
    (tag : UInt8) (fields : Bytes) (h : fields.length < 12) :
    IsLocal handler (tag :: fields) ↔ isInspectable (shortWord fields) = true := by
  obtain ⟨target, hshort⟩ := decodeNegotiate_of_short tag fields h
  apply alone_iff_isInspectable .shortCommandLength target
  intro following residue
  rw [hhandler, hshort]
  rfl

/-- A negotiate packet with its three words. -/
theorem isLocal_decodeNegotiate_of_length {handler : Handler σ}
    (continuation : Memory → Int → MilterOption → Except Failure (Emission σ))
    (hhandler : ∀ memory length,
      handler memory length = decodeNegotiate memory length >>=
        continuation (memory.advance negotiateLength) (length - negotiateLength))
    (tag : UInt8) (fields : Bytes) (h : 12 ≤ fields.length) :
    IsLocal handler (tag :: fields) ↔
      Alone (fun memory => continuation memory (fields.drop 12).length (optionOf fields))
        (fields.drop 12) := by
  simp only [IsLocal, Alone, decodeNegotiate_rest tag continuation hhandler fields h]

end MilterManager.Codec
