import MilterManager.Codec.Decoder

/-!
# The shared checks on a frame

What the checks of the decoder give for the bytes of one frame that other bytes follow in the
buffer, and whether the outcome depends on those other bytes.
-/

namespace MilterManager.Codec

open MilterManager.Base MilterManager.Core

/-- The bytes behind the first NUL. -/
def afterNull (fields : Bytes) : Bytes := (fields.dropWhile (· ≠ 0)).tail

theorem afterNull_append (text after : Bytes) (h : 0 ∉ text) :
    afterNull (text ++ 0 :: after) = after := by
  rw [afterNull, List.dropWhile_append_of_pos, List.dropWhile_cons_of_neg, List.tail_cons]
  · simp
  · intro byte hbyte
    have hne : byte ≠ 0 := fun h0 => h (h0 ▸ hbyte)
    simpa using hne

/-- A NUL ends a first text, or there is none. -/
theorem null_cases (fields : Bytes) :
    0 ∉ fields ∨ ∃ text after, 0 ∉ text ∧ fields = text ++ 0 :: after := by
  by_cases h : 0 ∈ fields
  · obtain ⟨text, after, hfields, htext⟩ := List.eq_append_cons_of_mem h
    exact .inr ⟨text, after, htext, hfields⟩
  · exact .inl h

theorem length_after (text after : Bytes) :
    ((text ++ 0 :: after).length : Int) - (text.length + 1) = after.length := by
  rw [List.length_append, List.length_cons]
  omega

theorem length_fields (tag : UInt8) (fields : Bytes) :
    ((tag :: fields).length : Int) - 1 = fields.length := by
  rw [List.length_cons]
  omega

/-- The text that the error about a missing NUL quotes. -/
def quotedText (fields following : Bytes) : Bytes :=
  (CString.ofBytes (fields ++ (following ++ [0]).take 1)).bytes

theorem quotedText_nil (fields : Bytes) (h : 0 ∉ fields) : quotedText fields [] = fields := by
  rw [quotedText, List.nil_append, List.take_of_length_le (by simp),
    CString.ofBytes_append_null _ _ h]

theorem ofBytes_append_one (fields : Bytes) (byte : UInt8) (hbyte : byte ≠ 0) (h : 0 ∉ fields) :
    (CString.ofBytes (fields ++ [byte])).bytes = fields ++ [byte] := by
  have hall : ∀ b ∈ fields ++ [byte], decide (b ≠ 0) = true := by
    intro b hb
    have hne : b ≠ 0 := by
      rintro rfl
      rcases List.mem_append.mp hb with hb | hb
      · exact h hb
      · exact hbyte (List.mem_singleton.mp hb).symm
    simpa using hne
  exact List.takeWhile_eq_self_iff.mpr hall

theorem quotedText_cons (fields following : Bytes) (byte : UInt8) (hbyte : byte ≠ 0)
    (h : 0 ∉ fields) : quotedText fields (byte :: following) = fields ++ [byte] := by
  rw [quotedText, List.cons_append, List.take_succ_cons, List.take_zero,
    ofBytes_append_one _ _ hbyte h]

section AtFrame

variable (following : Bytes) (residue : Nat → UInt8)

/-- The first NUL is found, however far the search may go. -/
theorem findNullCharacter_mk (text after : Bytes) (h : 0 ∉ text) (length : Int)
    (hlength : (text.length : Int) < length) :
    findNullCharacter ⟨text ++ 0 :: after, residue⟩ length = some text.length := by
  have hsplit : length.toNat = (text.length + 1) + (length.toNat - (text.length + 1)) := by
    omega
  have htake : (text ++ 0 :: after).take (text.length + 1) = text ++ [0] := by
    rw [List.take_length_add_append]
    rfl
  rw [findNullCharacter, hsplit, Memory.take_add,
    Memory.take_eq _ _ (by rw [List.length_append, List.length_cons]; omega), htake,
    List.append_assoc, List.findIdx?_append, List.findIdx?_eq_none_iff.mpr]
  · simp [List.findIdx?_cons]
  · intro byte hbyte
    have hne : byte ≠ 0 := fun h0 => h (h0 ▸ hbyte)
    simpa using hne

theorem findNullCharacter_of_lt (text after : Bytes) (h : 0 ∉ text) (length : Int)
    (hlength : (text.length : Int) < length) :
    findNullCharacter (.atFrame (text ++ 0 :: after) following residue) length =
      some text.length := by
  rw [Memory.atFrame, List.append_assoc, List.append_assoc, List.cons_append,
    findNullCharacter_mk _ _ _ h _ hlength]

theorem length_lt_append (text after : Bytes) :
    (text.length : Int) < (text ++ 0 :: after).length := by
  rw [List.length_append, List.length_cons]
  omega

theorem findNullCharacter_of_notMem (fields : Bytes) (h : 0 ∉ fields) :
    findNullCharacter (.atFrame fields following residue) fields.length = none := by
  rw [findNullCharacter, Int.toNat_natCast, Memory.take_atFrame _ _ _ _ (Nat.le_refl _),
    List.take_length, List.findIdx?_eq_none_iff]
  intro byte hbyte
  have hne : byte ≠ 0 := fun h0 => h (h0 ▸ hbyte)
  simpa using hne

variable (message : String) (quoted : List Bytes)

theorem decodeNullTerminatedValue_of_lt (text after : Bytes) (h : 0 ∉ text) (length : Int)
    (hlength : (text.length : Int) < length) :
    decodeNullTerminatedValue (.atFrame (text ++ 0 :: after) following residue) length message
      quoted = .ok text.length := by
  rw [decodeNullTerminatedValue, findNullCharacter_of_lt _ _ _ _ h _ hlength]

theorem decodeNullTerminatedValue_append (text after : Bytes) (h : 0 ∉ text) :
    decodeNullTerminatedValue (.atFrame (text ++ 0 :: after) following residue)
      (text ++ 0 :: after).length message quoted = .ok text.length :=
  decodeNullTerminatedValue_of_lt _ _ _ _ _ _ h _ (length_lt_append text after)

theorem decodeNullTerminatedValue_of_notMem (fields : Bytes) (h : 0 ∉ fields) :
    decodeNullTerminatedValue (.atFrame fields following residue) fields.length message quoted =
      .error (.error ⟨.missingNull, message, quoted ++ [quotedText fields following]⟩) := by
  have hlength : ((fields.length : Int) + 1).toNat = fields.length + 1 := by omega
  have htake : (Memory.atFrame fields following residue).take (fields.length + 1) =
      fields ++ (following ++ [0]).take 1 := by
    rw [Memory.take_eq, Memory.atFrame, List.append_assoc, List.take_length_add_append]
    simp only [Memory.atFrame, List.length_append, List.length_cons, List.length_nil]
    omega
  rw [decodeNullTerminatedValue, findNullCharacter_of_notMem _ _ _ h, Memory.stringWithin, hlength,
    htake, quotedText]

theorem decodeNonEmptyValue_of_lt (text after : Bytes) (h : 0 ∉ text) (hne : text ≠ [])
    (length : Int) (hlength : (text.length : Int) < length) :
    decodeNonEmptyValue (.atFrame (text ++ 0 :: after) following residue) length message quoted =
      .ok text.length := by
  have hpos : text.length ≠ 0 := fun h0 => hne (List.length_eq_zero_iff.mp h0)
  rw [decodeNonEmptyValue, decodeNullTerminatedValue_of_lt _ _ _ _ _ _ h _ hlength]
  simp only [bind, Except.bind, if_neg hpos]
  rfl

theorem decodeNonEmptyValue_append (text after : Bytes) (h : 0 ∉ text) (hne : text ≠ []) :
    decodeNonEmptyValue (.atFrame (text ++ 0 :: after) following residue)
      (text ++ 0 :: after).length message quoted = .ok text.length :=
  decodeNonEmptyValue_of_lt _ _ _ _ _ _ h hne _ (length_lt_append text after)

theorem decodeNonEmptyValue_empty_of_lt (after : Bytes) (length : Int) (hlength : 0 < length) :
    decodeNonEmptyValue (.atFrame (0 :: after) following residue) length message quoted =
      .error .silent := by
  rw [decodeNonEmptyValue, ← List.nil_append (0 :: after),
    decodeNullTerminatedValue_of_lt _ _ _ _ _ _ List.not_mem_nil _ hlength]
  rfl

theorem decodeNonEmptyValue_empty (after : Bytes) :
    decodeNonEmptyValue (.atFrame (0 :: after) following residue) (0 :: after).length message
      quoted = .error .silent :=
  decodeNonEmptyValue_empty_of_lt _ _ _ _ _ _ (length_lt_append [] after)

theorem decodeNonEmptyValue_of_notMem (fields : Bytes) (h : 0 ∉ fields) :
    decodeNonEmptyValue (.atFrame fields following residue) fields.length message quoted =
      .error (.error ⟨.missingNull, message, quoted ++ [quotedText fields following]⟩) := by
  rw [decodeNonEmptyValue, decodeNullTerminatedValue_of_notMem _ _ _ _ _ h]
  rfl

end AtFrame

/-- What the error about a length quotes of the bytes counted. -/
def inspected (fields following : Bytes) : List Bytes :=
  if fields = [] then []
  else if fields.all isPrintable then
    [fields, (CString.ofBytes (fields ++ following ++ [0])).bytes]
  else [fields]

/-- The error about a length quotes bytes of the frame alone. -/
def isInspectable (fields : Bytes) : Bool :=
  fields == [] || !fields.all isPrintable

theorem notMem_of_printable (fields : Bytes) (h : fields.all isPrintable = true) : 0 ∉ fields := by
  intro h0
  exact absurd (List.all_eq_true.mp h 0 h0) (by decide)

theorem inspected_of_isInspectable (fields following following' : Bytes)
    (h : isInspectable fields = true) :
    inspected fields following = inspected fields following' := by
  unfold inspected
  by_cases hnil : fields = []
  · rw [if_pos hnil, if_pos hnil]
  · have hall : ¬ fields.all isPrintable = true := by
      simpa [isInspectable, hnil] using h
    rw [if_neg hnil, if_neg hnil, if_neg hall, if_neg hall]

theorem inspected_ne (fields : Bytes) (h : isInspectable fields = false) :
    inspected fields [] ≠ inspected fields [1] := by
  have hnil : fields ≠ [] := fun hnil => by rw [hnil] at h; cases h
  have hall : fields.all isPrintable = true := by
    simpa [isInspectable, hnil] using h
  have h0 := notMem_of_printable fields hall
  unfold inspected
  rw [if_neg hnil, if_neg hnil, if_pos hall, if_pos hall, List.append_nil,
    CString.ofBytes_append_null _ _ h0]
  have hone : (CString.ofBytes (fields ++ [1] ++ [0])).bytes = fields ++ [1] := by
    have h1 : (0 : UInt8) ∉ fields ++ [1] := by simpa using h0
    rw [CString.ofBytes_append_null _ _ h1]
  rw [hone]
  intro heq
  simp at heq

section CheckCommandLength

variable (following : Bytes) (residue : Nat → UInt8) (target : String)

theorem inspectedBytes_atFrame (fields : Bytes) :
    inspectedBytes (.atFrame fields following residue) fields.length =
      .ok (inspected fields following) := by
  unfold inspectedBytes inspected
  by_cases hnil : fields = []
  · subst hnil
    rfl
  · have hlength : (fields.length : Int) ≠ 0 := by
      have : fields.length ≠ 0 := fun h0 => hnil (List.length_eq_zero_iff.mp h0)
      omega
    rw [if_neg hlength, if_neg hnil, if_neg (by omega), Int.toNat_natCast,
      Memory.take_atFrame _ _ _ _ (Nat.le_refl _), List.take_length]
    rfl

/-- Bytes that a frame should not have are refused. -/
theorem checkCommandLength_exact (fields : Bytes) :
    checkCommandLength (.atFrame fields following residue) fields.length 0 .exact target =
      if fields = [] then .ok ()
      else .error (.error ⟨.longCommandLength, target, inspected fields following⟩) := by
  by_cases hnil : fields = []
  · subst hnil
    rfl
  · have hlength : (fields.length : Int) ≠ 0 := by
      have : fields.length ≠ 0 := fun h0 => hnil (List.length_eq_zero_iff.mp h0)
      omega
    have haccepts : CompareType.exact.accepts fields.length 0 = false := by
      simpa [CompareType.accepts] using hnil
    rw [checkCommandLength, haccepts, if_neg (by simp), if_pos (by omega), if_neg hnil,
      Int.sub_zero,
      inspectedBytes_atFrame]
    rfl

/-- Bytes that a frame should have and has not are missed. -/
theorem checkCommandLength_atLeast (fields : Bytes) (n : Nat) :
    checkCommandLength (.atFrame fields following residue) fields.length n .atLeast target =
      if n ≤ fields.length then .ok ()
      else .error (.error ⟨.shortCommandLength, target, inspected fields following⟩) := by
  by_cases hn : n ≤ fields.length
  · have haccepts : CompareType.atLeast.accepts fields.length n = true := by
      simpa [CompareType.accepts] using hn
    rw [checkCommandLength, haccepts, if_pos hn, if_pos rfl]
  · have haccepts : CompareType.atLeast.accepts fields.length n = false := by
      simpa [CompareType.accepts] using hn
    rw [checkCommandLength, haccepts, if_neg (by simp), if_neg (by omega), if_neg hn,
      inspectedBytes_atFrame]
    rfl

end CheckCommandLength

section Layouts

variable {σ : Type} (following : Bytes) (residue : Nat → UInt8) (tag : UInt8)

/-- A packet without arguments is accepted when it has none. -/
theorem decodeSimple_atFrame (signal : σ) (target : String) (fields : Bytes) :
    decodeSimple signal target (.atFrame (tag :: fields) following residue) (tag :: fields).length =
      if fields = [] then emit signal
      else .error (.error ⟨.longCommandLength, target, inspected fields following⟩) := by
  rw [decodeSimple, length_fields, Memory.advance_atFrame_cons, checkCommandLength_exact]
  by_cases hnil : fields = []
  · rw [if_pos hnil, if_pos hnil]
    rfl
  · rw [if_neg hnil, if_neg hnil]
    rfl

section Text

variable (signal : CString → σ) (message : String)

theorem decodeText_append (text after : Bytes) (h : 0 ∉ text) (hne : text ≠ []) :
    decodeText signal message (.atFrame (tag :: (text ++ 0 :: after)) following residue)
      (tag :: (text ++ 0 :: after)).length = emit (signal ⟨text, h⟩) := by
  rw [decodeText, length_fields, Memory.advance_atFrame_cons,
    decodeNonEmptyValue_append _ _ _ _ _ _ h hne, Memory.string_atFrame_append _ _ _ _ h]
  rfl

theorem decodeText_empty (after : Bytes) :
    decodeText signal message (.atFrame (tag :: 0 :: after) following residue)
      (tag :: 0 :: after).length = .error .silent := by
  rw [decodeText, length_fields, Memory.advance_atFrame_cons, decodeNonEmptyValue_empty]
  rfl

theorem decodeText_of_notMem (fields : Bytes) (h : 0 ∉ fields) :
    decodeText signal message (.atFrame (tag :: fields) following residue) (tag :: fields).length =
      .error (.error ⟨.missingNull, message, [quotedText fields following]⟩) := by
  rw [decodeText, length_fields, Memory.advance_atFrame_cons,
    decodeNonEmptyValue_of_notMem _ _ _ _ _ h]
  rfl

end Text

/-- A name and a value that both end in the frame. -/
theorem decodeHeaderContent_append (name value after : Bytes) (hname : 0 ∉ name) (hne : name ≠ [])
    (hvalue : 0 ∉ value) :
    decodeHeaderContent (.atFrame (name ++ 0 :: (value ++ 0 :: after)) following residue)
      (name ++ 0 :: (value ++ 0 :: after)).length = .ok (⟨name, hname⟩, ⟨value, hvalue⟩) := by
  rw [decodeHeaderContent, decodeNonEmptyValue_append _ _ _ _ _ _ hname hne,
    Memory.string_atFrame_append _ _ _ _ hname]
  simp only [bind, Except.bind]
  rw [Memory.advance_atFrame_append, length_after,
    decodeNullTerminatedValue_append _ _ _ _ _ _ hvalue,
      Memory.string_atFrame_append _ _ _ _ hvalue]
  rfl

theorem decodeHeaderContent_empty (after : Bytes) :
    decodeHeaderContent (.atFrame (0 :: after) following residue) (0 :: after).length =
      .error .silent := by
  rw [decodeHeaderContent, decodeNonEmptyValue_empty]
  rfl

theorem decodeHeaderContent_of_notMem (fields : Bytes) (h : 0 ∉ fields) :
    decodeHeaderContent (.atFrame fields following residue) fields.length =
      .error (.error ⟨.missingNull, "name isn't terminated by NULL on header",
        [quotedText fields following]⟩) := by
  rw [decodeHeaderContent, decodeNonEmptyValue_of_notMem _ _ _ _ _ h]
  rfl

theorem decodeHeaderContent_of_notMem_after (name after : Bytes) (hname : 0 ∉ name)
    (hne : name ≠ []) (hafter : 0 ∉ after) :
    decodeHeaderContent (.atFrame (name ++ 0 :: after) following residue)
      (name ++ 0 :: after).length =
      .error (.error ⟨.missingNull, "value isn't terminated by NULL on header",
        [name, quotedText after following]⟩) := by
  rw [decodeHeaderContent, decodeNonEmptyValue_append _ _ _ _ _ _ hname hne,
    Memory.string_atFrame_append _ _ _ _ hname]
  simp only [bind, Except.bind]
  rw [Memory.advance_atFrame_append, length_after,
    decodeNullTerminatedValue_of_notMem _ _ _ _ _ hafter]
  rfl

theorem decodeChunk_atFrame (signal : Bytes → Int → σ) (fields : Bytes) :
    decodeChunk signal (.atFrame (tag :: fields) following residue) (tag :: fields).length =
      emit (signal (Memory.atFrame fields following residue).string.bytes fields.length) := by
  rw [decodeChunk, length_fields, Memory.advance_atFrame_cons]

theorem decodeWord_atFrame (target : String) (fields : Bytes) :
    decodeWord (.atFrame fields following residue) fields.length target =
      if 4 ≤ fields.length then .ok (ofBigEndian (fields.take 4))
      else .error (.error ⟨.shortCommandLength, target, inspected fields following⟩) := by
  have hcheck := checkCommandLength_atLeast following residue target fields 4
  rw [decodeWord, show (4 : Int) = (4 : Nat) from rfl, hcheck]
  by_cases h4 : 4 ≤ fields.length
  · rw [if_pos h4, if_pos h4, Memory.take_atFrame _ _ _ _ h4]
    rfl
  · rw [if_neg h4, if_neg h4]
    rfl

/-- A field further on in the frame. -/
theorem advance_fields (fields : Bytes) (n : Nat) (h : n ≤ fields.length) :
    (Memory.atFrame (tag :: fields) following residue).advance (n + 1) =
        .atFrame (fields.drop n) following residue ∧
      ((tag :: fields).length : Int) - (n + 1) = (fields.drop n).length := by
  constructor
  · rw [Memory.advance_atFrame]
    · rw [List.drop_succ_cons]
    · rw [List.length_cons]
      omega
  · rw [List.length_cons, List.length_drop]
    omega

/-- The option of a negotiate packet, when all three words are there. -/
def optionOf (fields : Bytes) : MilterOption :=
  ⟨ofBigEndian (fields.take 4), BitVec.ofNat 32 (ofBigEndian ((fields.drop 4).take 4)),
    BitVec.ofNat 32 (ofBigEndian ((fields.drop 8).take 4))⟩

theorem decodeNegotiate_of_length (fields : Bytes) (h : 12 ≤ fields.length) :
    decodeNegotiate (.atFrame (tag :: fields) following residue) (tag :: fields).length =
      .ok (optionOf fields) := by
  obtain ⟨haction, hactionLength⟩ := advance_fields following residue tag fields 4 (by omega)
  obtain ⟨hstep, hstepLength⟩ := advance_fields following residue tag fields 8 (by omega)
  simp only [decodeNegotiate, bind, Except.bind]
  rw [Memory.advance_atFrame_cons, length_fields, decodeWord_atFrame, if_pos (by omega)]
  simp only
  rw [haction, show ((tag :: fields).length : Int) - 5 = (fields.drop 4).length from hactionLength,
    decodeWord_atFrame, if_pos (by rw [List.length_drop]; omega)]
  simp only
  rw [hstep, show ((tag :: fields).length : Int) - 9 = (fields.drop 8).length from hstepLength,
    decodeWord_atFrame, if_pos (by rw [List.length_drop]; omega)]
  rfl

/-- The bytes counted for the first word that is not there. -/
def shortWord (fields : Bytes) : Bytes :=
  if fields.length < 4 then fields
  else if fields.length < 8 then fields.drop 4
  else fields.drop 8

theorem decodeNegotiate_of_short (fields : Bytes) (h : fields.length < 12) :
    ∃ target, ∀ following residue,
      decodeNegotiate (.atFrame (tag :: fields) following residue) (tag :: fields).length =
        .error (.error ⟨.shortCommandLength, target, inspected (shortWord fields) following⟩) := by
  by_cases h4 : fields.length < 4
  · refine ⟨"version on option negotiation command", fun following residue => ?_⟩
    simp only [decodeNegotiate, bind, Except.bind]
    rw [Memory.advance_atFrame_cons, length_fields, decodeWord_atFrame, if_neg (by omega),
      shortWord, if_pos h4]
  · by_cases h8 : fields.length < 8
    · refine ⟨"action flags on option negotiation command", fun following residue => ?_⟩
      obtain ⟨haction, hactionLength⟩ := advance_fields following residue tag fields 4 (by omega)
      simp only [decodeNegotiate, bind, Except.bind]
      rw [Memory.advance_atFrame_cons, length_fields, decodeWord_atFrame, if_pos (by omega)]
      simp only
      rw [haction,
        show ((tag :: fields).length : Int) - 5 = (fields.drop 4).length from hactionLength,
        decodeWord_atFrame, if_neg (by rw [List.length_drop]; omega), shortWord, if_neg h4,
        if_pos h8]
    · refine ⟨"step flags on option negotiation command", fun following residue => ?_⟩
      obtain ⟨haction, hactionLength⟩ := advance_fields following residue tag fields 4 (by omega)
      obtain ⟨hstep, hstepLength⟩ := advance_fields following residue tag fields 8 (by omega)
      simp only [decodeNegotiate, bind, Except.bind]
      rw [Memory.advance_atFrame_cons, length_fields, decodeWord_atFrame, if_pos (by omega)]
      simp only
      rw [haction,
        show ((tag :: fields).length : Int) - 5 = (fields.drop 4).length from hactionLength,
        decodeWord_atFrame, if_pos (by rw [List.length_drop]; omega)]
      simp only
      rw [hstep, show ((tag :: fields).length : Int) - 9 = (fields.drop 8).length from hstepLength,
        decodeWord_atFrame, if_neg (by rw [List.length_drop]; omega), shortWord, if_neg h4,
        if_neg h8]

/-- Behind the three words a handler goes on with the rest of the frame. -/
theorem decodeNegotiate_rest {handler : Handler σ}
    (continuation : Memory → Int → MilterOption → Except Failure (Emission σ))
    (hhandler : ∀ memory length,
      handler memory length = decodeNegotiate memory length >>=
        continuation (memory.advance negotiateLength) (length - negotiateLength))
    (fields : Bytes) (h : 12 ≤ fields.length) (following : Bytes) (residue : Nat → UInt8) :
    handler (.atFrame (tag :: fields) following residue) (tag :: fields).length =
      continuation (.atFrame (fields.drop 12) following residue) (fields.drop 12).length
        (optionOf fields) := by
  obtain ⟨hadvance, hlength⟩ := advance_fields following residue tag fields 12 h
  rw [hhandler, decodeNegotiate_of_length _ _ _ _ h, negotiateLength, hadvance,
    show ((tag :: fields).length : Int) - ((13 : Nat) : Int) = (fields.drop 12).length
      from hlength]
  rfl

end Layouts

end MilterManager.Codec
