import MilterManager.Codec.Fields
import MilterManager.Codec.ReplyDecoder

/-!
# The reply handlers on a frame

What the handlers of reply codes, of headers with an index, of two texts and of macros requests
give for the bytes of one frame that other bytes follow in the buffer. The other handlers are
layouts of the decoder.
-/

namespace MilterManager.Codec.ReplyDecoder

open MilterManager.Base MilterManager.Core

variable (following : Bytes) (residue : Nat → UInt8)

section ReplyCode

variable (tag : UInt8)

/-- What follows the digits of a reply code and the space behind them. -/
def behindCode (fields : Bytes) : Bytes :=
  if fields[3]? = some 32 then fields.drop 4 else fields.drop 3

theorem isReplyCode_take (fields : Bytes) : isReplyCode (fields.take 3) = isReplyCode fields := by
  match fields with
  | [] => rfl
  | [_] => rfl
  | [_, _] => rfl
  | _ :: _ :: _ :: _ => rfl

theorem length_of_isReplyCode {fields : Bytes} (h : isReplyCode fields = true) :
    3 ≤ fields.length := by
  match fields, h with
  | _ :: _ :: _ :: rest, _ => exact Nat.le_add_left 3 rest.length

/-- The digits are no NUL, so a NUL of the fields is behind them. -/
theorem null_behindCode (fields : Bytes) (hcode : isReplyCode fields = true) (h : 0 ∈ fields) :
    0 ∈ behindCode fields := by
  match fields, hcode with
  | a :: b :: c :: rest, hcode =>
      simp only [isReplyCode, isDigit, Bool.and_eq_true, Bool.or_eq_true, beq_iff_eq,
        decide_eq_true_eq] at hcode
      obtain ⟨⟨ha, hb, -⟩, hc, -⟩ := hcode
      have ha0 : (0 : UInt8) ≠ a := by
        rintro rfl
        rcases ha with ha | ha <;> cases ha
      have hb0 : (0 : UInt8) ≠ b := by
        rintro rfl
        exact absurd hb (by decide)
      have hc0 : (0 : UInt8) ≠ c := by
        rintro rfl
        exact absurd hc (by decide)
      have hrest : 0 ∈ rest := by
        simpa [ha0, hb0, hc0] using h
      cases rest with
      | nil => cases hrest
      | cons d rest =>
          unfold behindCode
          by_cases hd : d = 32
          · subst hd
            simpa using hrest
          · simpa [hd] using hrest

theorem null_of_behindCode {fields : Bytes} (h : 0 ∈ behindCode fields) : 0 ∈ fields := by
  unfold behindCode at h
  split at h
  · exact List.mem_of_mem_drop h
  · exact List.mem_of_mem_drop h

theorem decodeReplyReplyCode_of_short (fields : Bytes) (h : fields.length < 3) :
    decodeReplyReplyCode (.atFrame (tag :: fields) following residue) (tag :: fields).length =
      .error (.error ⟨.shortCommandLength, "Reply code doesn't have SMTP reply code",
        inspected fields following⟩) := by
  have hcheck := checkCommandLength_atLeast following residue
    "Reply code doesn't have SMTP reply code" fields 3
  rw [decodeReplyReplyCode, length_fields, Memory.advance_atFrame_cons]
  rw [show (3 : Int) = (3 : Nat) from rfl, hcheck, if_neg (by omega)]
  rfl

theorem decodeReplyReplyCode_of_code (fields : Bytes) (h : 3 ≤ fields.length)
    (hcode : isReplyCode fields = false) :
    decodeReplyReplyCode (.atFrame (tag :: fields) following residue) (tag :: fields).length =
      .error (.error ⟨.longCommandLength, "SMTP reply code should be 4XX or 5XX.",
        [(CString.ofBytes (fields.take 3)).bytes]⟩) := by
  have hcheck := checkCommandLength_atLeast following residue
    "Reply code doesn't have SMTP reply code" fields 3
  have htake := Memory.take_atFrame fields following residue 3 h
  rw [decodeReplyReplyCode, length_fields, Memory.advance_atFrame_cons,
    show (3 : Int) = (3 : Nat) from rfl, hcheck, if_pos h]
  simp only [bind, Except.bind, htake, isReplyCode_take, hcode, Memory.stringWithin]
  rfl

/-- The check behind the code, and what is read behind it. -/
theorem decodeReplyReplyCode_of_isReplyCode (fields : Bytes) (h : 3 ≤ fields.length)
    (hcode : isReplyCode fields = true) (h0 : 0 ∈ fields) :
    decodeReplyReplyCode (.atFrame (tag :: fields) following residue) (tag :: fields).length =
      match (behindCode fields).findIdx? (· == 32) with
      | none =>
          emit (.replyCode (replyCodeOf (fields.take 3)) (.ofBytes (behindCode fields)) none)
      | some space =>
          emit (.replyCode (replyCodeOf (fields.take 3))
            (.ofBytes ((behindCode fields).take space))
            (some (Memory.atFrame ((behindCode fields).drop (space + 1)) following
              residue).string)) := by
  have hcheck := checkCommandLength_atLeast following residue
    "Reply code doesn't have SMTP reply code" fields 3
  have htake := Memory.take_atFrame fields following residue 3 h
  have hnull := null_behindCode fields hcode h0
  obtain ⟨text, after, htext, h0text⟩ := List.eq_append_cons_of_mem h0
  have hne : text ≠ [] := by
    rintro rfl
    rw [htext] at hcode
    match after, hcode with
    | b :: c :: rest, hcode => simp [isReplyCode] at hcode
  have hvalue : decodeNonEmptyValue (.atFrame fields following residue) fields.length
      "Reply code isn't terminated by NULL on REPLY CODE reply" [] = .ok text.length := by
    rw [htext]
    exact decodeNonEmptyValue_append _ _ _ _ _ _ h0text hne
  have hbehind : ∃ skipped : Nat, skipped ≤ fields.length ∧
      behindCode fields = fields.drop skipped ∧
      (if (Memory.atFrame fields following residue).get 3 = 32 then 4 else 3) = skipped := by
    have h4 : 3 < fields.length := by
      by_contra hlt
      have h3 : fields.length = 3 := by omega
      have hnil : behindCode fields = [] := by
        have hget : fields[3]? = none := List.getElem?_eq_none (by omega)
        rw [behindCode, hget, if_neg (by simp), List.drop_of_length_le (by omega)]
      rw [hnil] at hnull
      cases hnull
    have hget := Memory.get_atFrame fields following residue 3 h4
    rw [hget]
    by_cases hspace : fields[3] = 32
    · exact ⟨4, h4, by rw [behindCode, List.getElem?_eq_getElem h4, hspace, if_pos rfl],
        if_pos hspace⟩
    · refine ⟨3, h, ?_, if_neg hspace⟩
      rw [behindCode, List.getElem?_eq_getElem h4, if_neg]
      simpa using hspace
  obtain ⟨skipped, hle, hdrop, hskipped⟩ := hbehind
  have hadvance := Memory.advance_atFrame fields following residue skipped hle
  have hlength : (fields.length : Int) - (skipped : Nat) = (behindCode fields).length := by
    rw [hdrop, List.length_drop]
    omega
  rw [decodeReplyReplyCode, length_fields, Memory.advance_atFrame_cons,
    show (3 : Int) = (3 : Nat) from rfl, hcheck, if_pos h]
  simp only [bind, Except.bind, htake, isReplyCode_take, hcode, not_true_eq_false, if_false, hvalue,
    hskipped, hadvance, hlength, ← hdrop]
  simp only [findSpaceCharacter, Int.toNat_natCast,
    Memory.take_atFrame _ _ _ _ (Nat.le_refl _), List.take_length]
  cases hspace : (behindCode fields).findIdx? (· == 32) with
  | none =>
      simp only
      rw [Memory.string_atFrame_of_mem _ _ _ hnull]
  | some space =>
      have hlt : space < (behindCode fields).length := by
        have := List.findIdx?_eq_some_iff_findIdx_eq.mp hspace
        exact this.1
      simp only
      rw [Memory.stringWithin, Memory.take_atFrame _ _ _ _ (by omega),
        Memory.advance_atFrame _ _ _ _ (by omega)]

theorem decodeReplyReplyCode_of_notMem (fields : Bytes) (h : 3 ≤ fields.length)
    (hcode : isReplyCode fields = true) (h0 : 0 ∉ fields) :
    decodeReplyReplyCode (.atFrame (tag :: fields) following residue) (tag :: fields).length =
      .error (.error ⟨.missingNull, "Reply code isn't terminated by NULL on REPLY CODE reply",
        [quotedText fields following]⟩) := by
  have hcheck := checkCommandLength_atLeast following residue
    "Reply code doesn't have SMTP reply code" fields 3
  have htake := Memory.take_atFrame fields following residue 3 h
  rw [decodeReplyReplyCode, length_fields, Memory.advance_atFrame_cons,
    show (3 : Int) = (3 : Nat) from rfl, hcheck, if_pos h]
  simp only [bind, Except.bind, htake, isReplyCode_take, hcode, not_true_eq_false, if_false,
    decodeNonEmptyValue_of_notMem _ _ _ _ _ h0]
  rfl

theorem findIdx?_space (first rest : Bytes) (h : 32 ∉ first) :
    (first ++ 32 :: rest).findIdx? (· == 32) = some first.length := by
  have hfirst : first.findIdx? (· == 32) = none := by
    rw [List.findIdx?_eq_none_iff]
    intro byte hbyte
    have hne : byte ≠ 32 := fun h32 => h (h32 ▸ hbyte)
    simpa using hne
  rw [List.findIdx?_append, hfirst, List.findIdx?_cons]
  simp

/-- The extended code ends at the first space, the message behind it at the first NUL. -/
theorem decodeReplyReplyCode_message (fields extendedCode message after : Bytes)
    (hcode : isReplyCode fields = true)
    (hbehind : behindCode fields = extendedCode ++ 32 :: (message ++ 0 :: after))
    (hspace : 32 ∉ extendedCode) (hextended : 0 ∉ extendedCode) (hmessage : 0 ∉ message) :
    decodeReplyReplyCode (.atFrame (tag :: fields) following residue) (tag :: fields).length =
      emit (.replyCode (replyCodeOf (fields.take 3)) ⟨extendedCode, hextended⟩
        (some ⟨message, hmessage⟩)) := by
  have hnull : (0 : UInt8) ∈ fields := null_of_behindCode (by rw [hbehind]; simp)
  rw [decodeReplyReplyCode_of_isReplyCode following residue tag fields
    (length_of_isReplyCode hcode) hcode hnull, hbehind, findIdx?_space _ _ hspace]
  have hdrop : (extendedCode ++ 32 :: (message ++ 0 :: after)).drop (extendedCode.length + 1) =
      message ++ 0 :: after := by simp
  have hfirst : CString.ofBytes extendedCode = ⟨extendedCode, hextended⟩ :=
    CString.ofBytes_bytes ⟨extendedCode, hextended⟩
  simp only [List.take_left, hfirst]
  rw [hdrop, Memory.string_atFrame_append _ _ _ _ hmessage]

/-- Without a space, all is the extended code. -/
theorem decodeReplyReplyCode_noMessage (fields extendedCode after : Bytes)
    (hcode : isReplyCode fields = true) (hbehind : behindCode fields = extendedCode ++ 0 :: after)
    (hspace : 32 ∉ extendedCode ++ 0 :: after) (hextended : 0 ∉ extendedCode) :
    decodeReplyReplyCode (.atFrame (tag :: fields) following residue) (tag :: fields).length =
      emit (.replyCode (replyCodeOf (fields.take 3)) ⟨extendedCode, hextended⟩ none) := by
  have hnone : (extendedCode ++ 0 :: after).findIdx? (· == 32) = none := by
    rw [List.findIdx?_eq_none_iff]
    intro byte hbyte
    have hne : byte ≠ 32 := fun h32 => hspace (h32 ▸ hbyte)
    simpa using hne
  rw [decodeReplyReplyCode_of_isReplyCode following residue tag fields
    (length_of_isReplyCode hcode) hcode (null_of_behindCode (by rw [hbehind]; simp)), hbehind,
      hnone,
    CString.ofBytes_append_null _ _ hextended]

end ReplyCode

section Index

/-- The signal for an indexed header: without a value, the header is deleted. -/
def changeOrDelete (content : UInt32 × CString × Option CString) : ReplySignal :=
  content.2.2.elim (.deleteHeader content.2.1 content.1)
    (.changeHeader content.2.1 content.1)

/-- The handler emits the signal of what it decoded. -/
theorem decodeReplyChangeHeader_eq (buffer : Memory) (commandLength : Int) :
    decodeReplyChangeHeader buffer commandLength =
      decodeHeaderContentWithIndex (buffer.advance 1) (commandLength + 1) >>=
        fun content => emit (changeOrDelete content) := by
  rw [decodeReplyChangeHeader]
  cases decodeHeaderContentWithIndex (buffer.advance 1) (commandLength + 1) with
  | error failure => rfl
  | ok content =>
      obtain ⟨index, name, value⟩ := content
      cases value with
      | none => rfl
      | some value => rfl

/-- An index needs four bytes of what the handler counts. -/
theorem decodeHeaderContentWithIndex_of_short (buffer : Memory) (length : Int) (h : length < 4) :
    decodeHeaderContentWithIndex buffer length = .error .silent := by
  rw [decodeHeaderContentWithIndex, if_pos h]
  rfl

variable (index : Bytes) (hindex : index.length = 4) (extra : Nat)

include hindex in
/-- The index is there; the rest is a name and a value. -/
theorem decodeHeaderContentWithIndex_index (fields : Bytes) :
    decodeHeaderContentWithIndex (.atFrame (index ++ fields) following residue)
        ((index ++ fields).length + extra : Nat) =
      (do
        let nullCharacterPoint ← decodeNonEmptyValue (.atFrame fields following residue)
          (fields.length + extra : Nat) "name isn't terminated by NULL on header:" []
        let name := (Memory.atFrame fields following residue).string
        let buffer := (Memory.atFrame fields following residue).advance (nullCharacterPoint + 1)
        let nullCharacterPoint' ← decodeNullTerminatedValue buffer
          ((fields.length + extra : Nat) - (nullCharacterPoint + 1))
          "value isn't terminated by NULL on header" [name.bytes]
        if nullCharacterPoint' = 0 then
          return (UInt32.ofNat (ofBigEndian index), name, none)
        return (UInt32.ofNat (ofBigEndian index), name, some buffer.string)) := by
  have htake : (Memory.atFrame (index ++ fields) following residue).take 4 = index := by
    rw [Memory.take_atFrame _ _ _ _ (by rw [List.length_append]; omega), ← hindex,
      List.take_left]
  have hadvance : (Memory.atFrame (index ++ fields) following residue).advance 4 =
      .atFrame fields following residue := by
    rw [Memory.advance_atFrame _ _ _ _ (by rw [List.length_append]; omega), ← hindex,
      List.drop_left]
  have hlength : (((index ++ fields).length + extra : Nat) : Int) - 4 =
      (fields.length + extra : Nat) := by
    rw [List.length_append]
    omega
  rw [decodeHeaderContentWithIndex, if_neg (by rw [List.length_append]; omega), htake, hadvance,
    hlength]

include hindex in
/-- A name and a value that both end in the frame; an empty value is none. -/
theorem decodeHeaderContentWithIndex_append (name value after : Bytes) (hname : 0 ∉ name)
    (hne : name ≠ []) (hvalue : 0 ∉ value) :
    decodeHeaderContentWithIndex
        (.atFrame (index ++ (name ++ 0 :: (value ++ 0 :: after))) following residue)
        ((index ++ (name ++ 0 :: (value ++ 0 :: after))).length + extra : Nat) =
      .ok (UInt32.ofNat (ofBigEndian index), ⟨name, hname⟩,
        if value = [] then none else some ⟨value, hvalue⟩) := by
  have hlength : (name.length : Int) <
      ((name ++ 0 :: (value ++ 0 :: after)).length + extra : Nat) := by
    rw [List.length_append, List.length_cons]
    omega
  have hlengthValue : (value.length : Int) <
      ((name ++ 0 :: (value ++ 0 :: after)).length + extra : Nat) - (name.length + 1) := by
    simp only [List.length_append, List.length_cons]
    omega
  rw [decodeHeaderContentWithIndex_index following residue index hindex,
    decodeNonEmptyValue_of_lt _ _ _ _ _ _ hname hne _ hlength]
  simp only [bind, Except.bind]
  rw [Memory.advance_atFrame_append, decodeNullTerminatedValue_of_lt _ _ _ _ _ _ hvalue _
    hlengthValue, Memory.string_atFrame_append _ _ _ _ hname,
    Memory.string_atFrame_append _ _ _ _ hvalue]
  by_cases hnil : value = []
  · subst hnil
    rfl
  · have hpos : value.length ≠ 0 := fun h0 => hnil (List.length_eq_zero_iff.mp h0)
    simp only [if_neg hpos, if_neg hnil]
    rfl

include hindex in
theorem decodeHeaderContentWithIndex_empty (after : Bytes) :
    decodeHeaderContentWithIndex (.atFrame (index ++ 0 :: after) following residue)
      ((index ++ 0 :: after).length + extra : Nat) = .error .silent := by
  have hlength : (0 : Int) < ((0 :: after).length + extra : Nat) := by
    rw [List.length_cons]
    omega
  rw [decodeHeaderContentWithIndex_index following residue index hindex,
    decodeNonEmptyValue_empty_of_lt _ _ _ _ _ _ hlength]
  rfl

include hindex in
theorem decodeHeaderContentWithIndex_of_notMem (fields : Bytes) (h : 0 ∉ fields) :
    decodeHeaderContentWithIndex (.atFrame (index ++ fields) following residue)
        (index ++ fields).length =
      .error (.error ⟨.missingNull, "name isn't terminated by NULL on header:",
        [quotedText fields following]⟩) := by
  have hall := decodeHeaderContentWithIndex_index following residue index hindex 0 fields
  rw [Nat.add_zero, Nat.add_zero, decodeNonEmptyValue_of_notMem _ _ _ _ _ h] at hall
  exact hall

include hindex in
theorem decodeHeaderContentWithIndex_of_notMem_after (name after : Bytes) (hname : 0 ∉ name)
    (hne : name ≠ []) (hafter : 0 ∉ after) :
    decodeHeaderContentWithIndex (.atFrame (index ++ (name ++ 0 :: after)) following residue)
        (index ++ (name ++ 0 :: after)).length =
      .error (.error ⟨.missingNull, "value isn't terminated by NULL on header",
        [name, quotedText after following]⟩) := by
  have hall := decodeHeaderContentWithIndex_index following residue index hindex 0
    (name ++ 0 :: after)
  rw [Nat.add_zero, Nat.add_zero, decodeNonEmptyValue_append _ _ _ _ _ _ hname hne,
    Memory.string_atFrame_append _ _ _ _ hname] at hall
  simp only [bind, Except.bind] at hall
  rw [Memory.advance_atFrame_append, length_after,
    decodeNullTerminatedValue_of_notMem _ _ _ _ _ hafter] at hall
  exact hall

end Index

section TwoString

variable (firstMessage secondMessage : String)

theorem decodeTwoString_append (first second after : Bytes) (hfirst : 0 ∉ first)
    (hne : first ≠ []) (hsecond : 0 ∉ second) (hne' : second ≠ []) :
    decodeTwoString (.atFrame (first ++ 0 :: (second ++ 0 :: after)) following residue)
        (first ++ 0 :: (second ++ 0 :: after)).length firstMessage secondMessage =
      .ok (⟨first, hfirst⟩, some ⟨second, hsecond⟩) := by
  have hpos : ¬ (((second ++ 0 :: after).length : Int) ≤ 0) := by
    rw [List.length_append, List.length_cons]
    omega
  rw [decodeTwoString, decodeNonEmptyValue_append _ _ _ _ _ _ hfirst hne,
    Memory.string_atFrame_append _ _ _ _ hfirst]
  simp only [bind, Except.bind]
  rw [Memory.advance_atFrame_append, length_after, if_neg hpos,
    decodeNonEmptyValue_append _ _ _ _ _ _ hsecond hne',
      Memory.string_atFrame_append _ _ _ _ hsecond]
  rfl

theorem decodeTwoString_one (first : Bytes) (hfirst : 0 ∉ first) (hne : first ≠ []) :
    decodeTwoString (.atFrame (first ++ [0]) following residue) (first ++ [0]).length firstMessage
      secondMessage = .ok (⟨first, hfirst⟩, none) := by
  rw [decodeTwoString, decodeNonEmptyValue_append _ _ _ _ _ _ hfirst hne,
    Memory.string_atFrame_append _ _ _ _ hfirst]
  simp only [bind, Except.bind]
  rw [Memory.advance_atFrame_append, length_after]
  rfl

theorem decodeTwoString_empty (after : Bytes) :
    decodeTwoString (.atFrame (0 :: after) following residue) (0 :: after).length firstMessage
      secondMessage = .error .silent := by
  rw [decodeTwoString, decodeNonEmptyValue_empty]
  rfl

theorem decodeTwoString_empty_second (first after : Bytes) (hfirst : 0 ∉ first)
    (hne : first ≠ []) :
    decodeTwoString (.atFrame (first ++ 0 :: 0 :: after) following residue)
      (first ++ 0 :: 0 :: after).length firstMessage secondMessage = .error .silent := by
  have hpos : ¬ (((0 :: after).length : Int) ≤ 0) := by
    rw [List.length_cons]
    omega
  rw [decodeTwoString, decodeNonEmptyValue_append _ _ _ _ _ _ hfirst hne,
    Memory.string_atFrame_append _ _ _ _ hfirst]
  simp only [bind, Except.bind]
  rw [Memory.advance_atFrame_append, length_after, if_neg hpos, decodeNonEmptyValue_empty]

theorem decodeTwoString_of_notMem (fields : Bytes) (h : 0 ∉ fields) :
    decodeTwoString (.atFrame fields following residue) fields.length firstMessage secondMessage =
      .error (.error ⟨.missingNull, firstMessage, [quotedText fields following]⟩) := by
  rw [decodeTwoString, decodeNonEmptyValue_of_notMem _ _ _ _ _ h]
  rfl

theorem decodeTwoString_of_notMem_after (first after : Bytes) (hfirst : 0 ∉ first)
    (hne : first ≠ []) (hafter : 0 ∉ after) (hne' : after ≠ []) :
    decodeTwoString (.atFrame (first ++ 0 :: after) following residue) (first ++ 0 :: after).length
        firstMessage secondMessage =
      .error (.error ⟨.missingNull, secondMessage, [first, quotedText after following]⟩) := by
  have hpos : ¬ ((after.length : Int) ≤ 0) := by
    have : after.length ≠ 0 := fun h0 => hne' (List.length_eq_zero_iff.mp h0)
    omega
  rw [decodeTwoString, decodeNonEmptyValue_append _ _ _ _ _ _ hfirst hne,
    Memory.string_atFrame_append _ _ _ _ hfirst]
  simp only [bind, Except.bind]
  rw [Memory.advance_atFrame_append, length_after, if_neg hpos,
    decodeNonEmptyValue_of_notMem _ _ _ _ _ hafter]
  rfl

end TwoString

section AddRecipient

variable (tag : UInt8)

theorem decodeReplyAddRecipient_append (text after : Bytes) (h : 0 ∉ text) :
    decodeReplyAddRecipient (.atFrame (tag :: (text ++ 0 :: after)) following residue)
        (tag :: (text ++ 0 :: after)).length =
      emit (.addRecipient ⟨text, h⟩ none) := by
  rw [decodeReplyAddRecipient, length_fields, Memory.advance_atFrame_cons,
    decodeNullTerminatedValue_append _ _ _ _ _ _ h, Memory.string_atFrame_append _ _ _ _ h]
  rfl

theorem decodeReplyAddRecipient_of_notMem (fields : Bytes) (h : 0 ∉ fields) :
    decodeReplyAddRecipient (.atFrame (tag :: fields) following residue) (tag :: fields).length =
      .ok ⟨.addRecipient (Memory.atFrame fields following residue).string none,
        some ⟨.missingNull, "Recipient isn't terminated by NULL on ADD RECIPIENT reply",
          [quotedText fields following]⟩⟩ := by
  rw [decodeReplyAddRecipient, length_fields, Memory.advance_atFrame_cons,
    decodeNullTerminatedValue_of_notMem _ _ _ _ _ h]
  rfl

end AddRecipient

section MacrosRequests

variable (requests : MacrosRequests) (fuel : Nat)

theorem decodeMacrosRequestsFrom_of_short (fields : Bytes) (hne : fields ≠ [])
    (h : fields.length < 4) :
    decodeMacrosRequestsFrom (fuel + 1) (.atFrame fields following residue) fields.length requests =
      .error (.error ⟨.shortCommandLength, "Stage index doesn't exist in NEGOTIATE reply",
        inspected fields following⟩) := by
  have hpos : ¬ ((fields.length : Int) ≤ 0) := by
    have : fields.length ≠ 0 := fun h0 => hne (List.length_eq_zero_iff.mp h0)
    omega
  have hcheck := checkCommandLength_atLeast following residue
    "Stage index doesn't exist in NEGOTIATE reply" fields 4
  rw [decodeMacrosRequestsFrom, if_neg hpos, show (4 : Int) = (4 : Nat) from rfl, hcheck,
    if_neg (by omega)]
  rfl

variable (stage : Bytes) (hstage : stage.length = 4)

include hstage in
/-- The stage is there; the rest begins with its symbols. -/
theorem decodeMacrosRequestsFrom_stage (fields : Bytes) :
    decodeMacrosRequestsFrom (fuel + 1) (.atFrame (stage ++ fields) following residue)
        (stage ++ fields).length requests =
      (do
        let nullCharacterPoint ← decodeNonEmptyValue (.atFrame fields following residue)
          fields.length "Symbol list isn't terminated by NULL on NEGOTIATE reply" []
        match macroStageToCommand (ofBigEndian stage) with
        | none =>
            throw (.error ⟨.unexpectedMacroStage, "unexpected macro stage was received", [stage]⟩)
        | some command =>
            decodeMacrosRequestsFrom fuel
              ((Memory.atFrame fields following residue).advance (nullCharacterPoint + 1))
              (fields.length - (nullCharacterPoint + 1))
              (requests.insert command
                (splitSymbols (Memory.atFrame fields following residue).string))) := by
  have hpos : ¬ (((stage ++ fields).length : Int) ≤ 0) := by
    rw [List.length_append]
    omega
  have hcheck := checkCommandLength_atLeast following residue
    "Stage index doesn't exist in NEGOTIATE reply" (stage ++ fields) 4
  have htake : (Memory.atFrame (stage ++ fields) following residue).take 4 = stage := by
    rw [Memory.take_atFrame _ _ _ _ (by rw [List.length_append]; omega), ← hstage,
      List.take_left]
  have hadvance : (Memory.atFrame (stage ++ fields) following residue).advance 4 =
      .atFrame fields following residue := by
    rw [Memory.advance_atFrame _ _ _ _ (by rw [List.length_append]; omega), ← hstage,
      List.drop_left]
  have hlength : ((stage ++ fields).length : Int) - (4 : Nat) = fields.length := by
    rw [List.length_append]
    omega
  rw [decodeMacrosRequestsFrom, if_neg hpos, show (4 : Int) = (4 : Nat) from rfl, hcheck,
    if_pos (by rw [List.length_append]; omega), htake, hadvance, hlength]
  rfl

end MacrosRequests

end MilterManager.Codec.ReplyDecoder
