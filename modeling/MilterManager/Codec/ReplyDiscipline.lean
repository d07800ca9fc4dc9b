import MilterManager.Codec.Discipline
import MilterManager.Codec.ReplyLocality

/-!
# Replies that are refused loudly

The frames of replies on which the handler signals a well formed reply or sets an error.
-/

namespace MilterManager.Codec.ReplyDecoder

open MilterManager.Base MilterManager.Core

variable {behind : Bytes}

/-- A reply code and one text that ends the bytes. -/
def isCodeAndText (fields : Bytes) : Bool :=
  isReplyCode fields && fields.contains 0 && afterNull fields == []

/-- There is no reply code, or no NUL behind it, or the text is all there is. -/
def codeAndTextOrderly (fields : Bytes) : Bool :=
  !isReplyCode fields || !fields.contains 0 || afterNull fields == []

theorem orderly_decodeReplyReplyCode (tag : UInt8) (fields : Bytes) :
    Orderly (isCodeAndText fields)
        (fun memory => decodeReplyReplyCode memory (tag :: fields).length) (tag :: fields) behind ↔
      codeAndTextOrderly fields = true := by
  unfold isCodeAndText codeAndTextOrderly
  cases hcode : isReplyCode fields with
  | false =>
      refine ⟨fun _ => rfl, fun _ => orderly_of_error rfl fun following residue => ?_⟩
      by_cases h3 : fields.length < 3
      · rw [decodeReplyReplyCode_of_short following residue tag fields h3]
        exact ⟨_, rfl⟩
      · rw [decodeReplyReplyCode_of_code following residue tag fields (by omega) hcode]
        exact ⟨_, rfl⟩
  | true =>
      have h3 := length_of_isReplyCode hcode
      by_cases h0 : 0 ∈ fields
      · rw [orderly_of_signals]
        · simp [h0]
        · intro following residue
          rw [decodeReplyReplyCode_of_isReplyCode following residue tag fields h3 hcode h0]
          cases (behindCode fields).findIdx? (· == 32) with
          | none => exact ⟨_, rfl⟩
          | some space => exact ⟨_, rfl⟩
      · refine ⟨fun _ => by simp [h0], fun _ =>
          orderly_of_error (by simp [h0]) fun following residue => ?_⟩
        rw [decodeReplyReplyCode_of_notMem following residue tag fields h3 hcode h0]
        exact ⟨_, rfl⟩

section Index

/-- An index, a name that is not empty and a value. -/
def isIndexed (fields : Bytes) : Bool :=
  decide (4 ≤ fields.length) && isNameAndValue (fields.drop 4)

/-- Two bytes are refused because there is nothing behind the index that is read. -/
def indexedOrderly (fields : Bytes) : Bool := fields.length == 2 || isIndexed fields

/-- An index that is all there is leaves nothing for the name. -/
theorem decodeHeaderContentWithIndex_alone (buffer : Memory) :
    ∃ e, decodeHeaderContentWithIndex buffer 4 = .error (.error e) := by
  rw [decodeHeaderContentWithIndex, if_neg (by decide)]
  exact ⟨_, rfl⟩

/-- An index that the NUL behind the buffer completes leaves a name that may be empty. -/
theorem decodeHeaderContentWithIndex_three (a b c : UInt8) :
    decodeHeaderContentWithIndex (.atFrame [a, b, c] [] fun _ => 0) 5 = .error .silent :=
  rfl

section Terminator

variable (index : Bytes) (hindex : index.length = 4)

include hindex in
theorem decodeHeaderContentWithIndex_nil :
    decodeHeaderContentWithIndex (.atFrame (index ++ []) [] fun _ => 0)
      ((index ++ []).length + 2 : Nat) = .error .silent := by
  rw [decodeHeaderContentWithIndex_index [] _ index hindex]
  rfl

include hindex in
/-- A name without a NUL ends at the one behind the buffer, and the value is what comes then. -/
theorem decodeHeaderContentWithIndex_name (name : Bytes) (hname : 0 ∉ name) (hne : name ≠ []) :
    decodeHeaderContentWithIndex (.atFrame (index ++ name) [] fun _ => 0)
        ((index ++ name).length + 2 : Nat) =
      .ok (UInt32.ofNat (ofBigEndian index), ⟨name, hname⟩, none) := by
  have hmemory : Memory.atFrame name [] (fun _ => 0) = ⟨name ++ 0 :: [], fun _ => 0⟩ := by
    rw [Memory.atFrame, List.append_nil]
  have hlength : (name.length : Int) < (name.length + 2 : Nat) := by omega
  have hpos : name.length ≠ 0 := fun h0 => hne (List.length_eq_zero_iff.mp h0)
  have hstring : (Memory.mk (name ++ 0 :: []) fun _ => 0).string = ⟨name, hname⟩ :=
    CString.ofBytes_append_null _ _ hname
  have hadvance : (Memory.mk (name ++ 0 :: []) fun _ => 0).advance (name.length + 1) =
      ⟨[], fun _ => 0⟩ := by
    simp [Memory.advance]
  have hone : ((name.length + 2 : Nat) : Int) - (name.length + 1) = 1 := by omega
  rw [decodeHeaderContentWithIndex_index [] _ index hindex, hmemory, hstring, decodeNonEmptyValue,
    decodeNullTerminatedValue, findNullCharacter_mk _ _ _ hname _ hlength]
  simp only [bind, Except.bind, if_neg hpos, pure, Except.pure, hadvance, hone]
  rfl

include hindex in
/-- A value without a NUL ends at the one behind the buffer. -/
theorem decodeHeaderContentWithIndex_value (name value : Bytes) (hname : 0 ∉ name)
    (hne : name ≠ []) (hvalue : 0 ∉ value) :
    decodeHeaderContentWithIndex (.atFrame (index ++ (name ++ 0 :: value)) [] fun _ => 0)
        ((index ++ (name ++ 0 :: value)).length + 2 : Nat) =
      .ok (UInt32.ofNat (ofBigEndian index), ⟨name, hname⟩,
        if value.length = 0 then none else some ⟨value, hvalue⟩) := by
  have hlength : (name.length : Int) < ((name ++ 0 :: value).length + 2 : Nat) := by
    rw [List.length_append, List.length_cons]
    omega
  have hmemory : Memory.atFrame value [] (fun _ => 0) = ⟨value ++ 0 :: [], fun _ => 0⟩ := by
    rw [Memory.atFrame, List.append_nil]
  have hlengthValue : (value.length : Int) <
      ((name ++ 0 :: value).length + 2 : Nat) - (name.length + 1) := by
    rw [List.length_append, List.length_cons]
    omega
  have hstring : (Memory.mk (value ++ 0 :: []) fun _ => 0).string = ⟨value, hvalue⟩ :=
    CString.ofBytes_append_null _ _ hvalue
  rw [decodeHeaderContentWithIndex_index [] _ index hindex,
    decodeNonEmptyValue_of_lt _ _ _ _ _ _ hname hne _ hlength]
  simp only [bind, Except.bind]
  rw [Memory.advance_atFrame_append, hmemory, decodeNullTerminatedValue,
    findNullCharacter_mk _ _ _ hvalue _ hlengthValue, hstring,
    Memory.string_atFrame_append _ _ _ _ hname]
  by_cases hnil : value.length = 0
  · simp only [if_pos hnil]
    rfl
  · simp only [if_neg hnil]
    rfl

end Terminator

variable (signal : UInt32 × CString × Option CString → Except Failure (Emission ReplySignal))
  (hsignal : ∀ content, ∃ s, signal content = emit s)

include hsignal in
/-- What is signalled for a frame that ends the buffer has to be well formed. -/
theorem not_orderly_of_content {compute : Memory → Except Failure _} {fields : Bytes}
    (content : UInt32 × CString × Option CString)
    (h : compute (.atFrame fields [] fun _ => 0) = .ok content) :
    ¬ Orderly false (fun memory => compute memory >>= signal) fields behind := by
  intro horderly
  have hone := horderly [] (fun _ => 0) List.nil_prefix
  obtain ⟨s, hs⟩ := hsignal content
  simp only [h, bind, Except.bind, hs] at hone
  exact absurd hone.2 nofun

variable (behind) in
include hsignal in
theorem orderly_decodeHeaderContentWithIndex (fields : Bytes) :
    Orderly (isIndexed fields) (fun memory =>
        decodeHeaderContentWithIndex memory (fields.length + 2 : Nat) >>= signal) fields behind ↔
      indexedOrderly fields = true := by
  by_cases h4 : 4 ≤ fields.length
  · obtain ⟨index, rest, hindex, rfl⟩ : ∃ index rest : Bytes, index.length = 4 ∧
        fields = index ++ rest :=
      ⟨fields.take 4, fields.drop 4, by rw [List.length_take]; omega,
        (List.take_append_drop 4 _).symm⟩
    have hdrop : (index ++ rest).drop 4 = rest := by
      rw [← hindex, List.drop_left]
    have hwell : isIndexed (index ++ rest) = isNameAndValue rest := by
      rw [isIndexed, hdrop, decide_eq_true h4, Bool.true_and]
    have horderly : indexedOrderly (index ++ rest) = isNameAndValue rest := by
      have hlength : ((index ++ rest).length == 2) = false := by
        rw [beq_eq_false_iff_ne]
        omega
      rw [indexedOrderly, hlength, hwell, Bool.false_or]
    rw [hwell, horderly]
    rcases null_cases rest with h | ⟨name, after, h, rfl⟩
    · rw [isNameAndValue_of_notMem rest h]
      refine ⟨fun hall => ?_, nofun⟩
      by_cases hnil : rest = []
      · subst hnil
        have hone := hall [] (fun _ => 0) List.nil_prefix
        simp only [decodeHeaderContentWithIndex_nil index hindex] at hone
        exact absurd hone id
      · exact absurd hall (not_orderly_of_content signal hsignal _
          (decodeHeaderContentWithIndex_name index hindex rest h hnil))
    · by_cases hne : name = []
      · subst hne
        rw [List.nil_append, isNameAndValue_empty]
        refine ⟨fun hall => ?_, nofun⟩
        refine absurd hall (not_orderly_of_silent fun following residue => ?_)
        rw [decodeHeaderContentWithIndex_empty _ _ index hindex]
        rfl
      · rcases null_cases after with h0 | ⟨value, after, h0, rfl⟩
        · rw [isNameAndValue_of_notMem_after name after h h0]
          refine ⟨fun hall => ?_, nofun⟩
          exact absurd hall (not_orderly_of_content signal hsignal _
            (decodeHeaderContentWithIndex_value index hindex name after h hne h0))
        · apply orderly_of_signals
          intro following residue
          rw [decodeHeaderContentWithIndex_append _ _ index hindex 2 name value after h hne h0]
          exact hsignal _
  · have hwell : isIndexed fields = false := by
      rw [isIndexed, decide_eq_false h4, Bool.false_and]
    rw [hwell, indexedOrderly, hwell, Bool.or_false]
    match fields, h4 with
    | [], _ | [_], _ =>
        refine ⟨fun hall => ?_, fun hfalse => by cases hfalse⟩
        refine absurd hall (not_orderly_of_silent fun following residue => ?_)
        rw [decodeHeaderContentWithIndex_of_short _ _ (by simp)]
        rfl
    | [a, b], _ =>
        refine ⟨fun _ => rfl, fun _ => orderly_of_error rfl fun following residue => ?_⟩
        obtain ⟨e, he⟩ := decodeHeaderContentWithIndex_alone (.atFrame [a, b] following residue)
        exact ⟨e, by rw [show (([a, b].length + 2 : Nat) : Int) = 4 from rfl, he]; rfl⟩
    | [a, b, c], _ =>
        refine ⟨fun hall => ?_, fun hfalse => by cases hfalse⟩
        have hone := hall [] (fun _ => 0) List.nil_prefix
        have hlength : (([a, b, c].length + 2 : Nat) : Int) = 5 := rfl
        simp only [hlength, decodeHeaderContentWithIndex_three] at hone
        exact absurd hone id
    | _ :: _ :: _ :: _ :: _, h4 => exact absurd (by simp) h4

end Index

theorem orderly_decodeReplyInsertHeader (tag : UInt8) (fields : Bytes) :
    Orderly (isIndexed fields)
        (fun memory => decodeReplyInsertHeader memory (tag :: fields).length) (tag :: fields)
        behind ↔
      indexedOrderly fields = true := by
  rw [← orderly_decodeHeaderContentWithIndex behind
    (fun content => emit (ReplySignal.insertHeader content.1 content.2.1 content.2.2))
    (fun content => ⟨_, rfl⟩) fields]
  simp only [Orderly, decodeReplyInsertHeader, length_fields_add, Memory.advance_atFrame_cons]

theorem orderly_decodeReplyChangeHeader (tag : UInt8) (fields : Bytes) :
    Orderly (isIndexed fields)
        (fun memory => decodeReplyChangeHeader memory (tag :: fields).length) (tag :: fields)
        behind ↔
      indexedOrderly fields = true := by
  rw [← orderly_decodeHeaderContentWithIndex behind (fun content => emit (changeOrDelete content))
    (fun content => ⟨_, rfl⟩) fields]
  simp only [Orderly, decodeReplyChangeHeader_eq, length_fields_add, Memory.advance_atFrame_cons]

/-- A text, and perhaps another one, none of them empty. -/
def isTwoString (fields : Bytes) : Bool :=
  fields.contains 0 && fields.head? != some 0 &&
    (afterNull fields == [] || isText (afterNull fields))

/-- A NUL is missing, or none of the texts is empty and they are all there is. -/
def twoStringOrderly (fields : Bytes) : Bool :=
  !fields.contains 0 || fields.head? != some 0 &&
    (afterNull fields == [] || textOrderly (afterNull fields))

variable (behind) in
theorem orderly_decodeTwoString (firstMessage secondMessage : String)
    (signal : CString × Option CString → ReplySignal) (fields : Bytes) :
    Orderly (isTwoString fields) (fun memory =>
        decodeTwoString memory fields.length firstMessage secondMessage >>=
          fun content => emit (signal content)) fields behind ↔
      twoStringOrderly fields = true := by
  unfold isTwoString twoStringOrderly
  rcases null_cases fields with h | ⟨first, after, h, rfl⟩
  · refine ⟨fun _ => by simp [h], fun _ =>
      orderly_of_error (by simp [h]) fun following residue => ?_⟩
    rw [decodeTwoString_of_notMem following residue _ _ fields h]
    exact ⟨_, rfl⟩
  · by_cases hne : first = []
    · subst hne
      refine ⟨fun hall => ?_, fun hfalse => by simp at hfalse⟩
      refine absurd hall (not_orderly_of_silent fun following residue => ?_)
      rw [List.nil_append, decodeTwoString_empty]
      rfl
    · rw [bne, head?_append_null _ _ h hne, afterNull_append _ _ h]
      by_cases hafter : after = []
      · subst hafter
        rw [orderly_of_signal (signal (⟨first, h⟩, none)) fun following residue => by
          rw [decodeTwoString_one _ _ _ _ first h hne]
          rfl]
        simp
      · rcases null_cases after with h0 | ⟨second, rest, h0, rfl⟩
        · refine ⟨fun _ => by simp [textOrderly, h0], fun _ =>
            orderly_of_error (by simp [hafter, isText_of_notMem after h0])
              fun following residue => ?_⟩
          rw [decodeTwoString_of_notMem_after following residue _ _ first after h hne h0 hafter]
          exact ⟨_, rfl⟩
        · by_cases hne' : second = []
          · subst hne'
            refine ⟨fun hall => ?_, fun hfalse => by simp [textOrderly, isText] at hfalse⟩
            refine absurd hall (not_orderly_of_silent fun following residue => ?_)
            rw [List.nil_append, decodeTwoString_empty_second _ _ _ _ first rest h hne]
            rfl
          · rw [orderly_of_signal (signal (⟨first, h⟩, some ⟨second, h0⟩))
              fun following residue => by
                rw [decodeTwoString_append _ _ _ _ first second rest h hne h0 hne']
                rfl]
            simp [textOrderly]

theorem orderly_decodeReplyChangeFrom (tag : UInt8) (fields : Bytes) :
    Orderly (isTwoString fields)
        (fun memory => decodeReplyChangeFrom memory (tag :: fields).length) (tag :: fields)
        behind ↔
      twoStringOrderly fields = true := by
  rw [← orderly_decodeTwoString behind "From isn't terminated by NULL on CHANGE FROM reply"
    "Parameter isn't terminated by NULL on CHANGE FROM reply"
    (fun content => ReplySignal.changeFrom content.1 content.2) fields]
  simp only [Orderly, decodeReplyChangeFrom, length_fields, Memory.advance_atFrame_cons]

theorem orderly_decodeReplyAddRecipientWithParameters (tag : UInt8) (fields : Bytes) :
    Orderly (isTwoString fields)
        (fun memory => decodeReplyAddRecipientWithParameters memory (tag :: fields).length)
        (tag :: fields) behind ↔
      twoStringOrderly fields = true := by
  rw [← orderly_decodeTwoString behind
    "Recipient isn't terminated by NULL on ADD RECIPIENT WITH PARAMETERS reply"
    "Parameter isn't terminated by NULL on ADD RECIPIENT WITH PARAMETERS reply"
    (fun content => ReplySignal.addRecipient content.1 content.2) fields]
  simp only [Orderly, decodeReplyAddRecipientWithParameters, length_fields,
    Memory.advance_atFrame_cons]

/-- A recipient is signalled along with the error about its NUL, and also when it is empty. -/
theorem orderly_decodeReplyAddRecipient (tag : UInt8) (fields : Bytes) :
    Orderly (isText fields)
        (fun memory => decodeReplyAddRecipient memory (tag :: fields).length) (tag :: fields)
        behind ↔
      isText fields = true := by
  rcases null_cases fields with h | ⟨text, after, h, rfl⟩
  · constructor
    · intro hall
      have hone := hall [] (fun _ => 0) List.nil_prefix
      simp only [decodeReplyAddRecipient_of_notMem _ _ tag fields h] at hone
      exact absurd hone.1 nofun
    · intro hfalse
      rw [isText_of_notMem fields h] at hfalse
      cases hfalse
  · exact orderly_of_signal _ fun following residue =>
      decodeReplyAddRecipient_append following residue tag text after h

/-- Known stages, each with symbols that are not empty, and nothing else. -/
def isMacrosRequests : Nat → Bytes → Bool
  | 0, fields => fields == []
  | fuel + 1, fields =>
      fields == [] || decide (4 ≤ fields.length) && (fields.drop 4).contains 0 &&
        (fields.drop 4).head? != some 0 &&
        (macroStageToCommand (ofBigEndian (fields.take 4))).isSome &&
        isMacrosRequests fuel (afterNull (fields.drop 4))

/-- Macros requests, or a stage or a NUL that is missing or a stage that is unknown behind some. -/
def macrosRequestsOrderly : Nat → Bytes → Bool
  | 0, _ => true
  | fuel + 1, fields =>
      fields == [] || decide (fields.length < 4) || !(fields.drop 4).contains 0 ||
        (fields.drop 4).head? != some 0 &&
          ((macroStageToCommand (ofBigEndian (fields.take 4))).isNone ||
            macrosRequestsOrderly fuel (afterNull (fields.drop 4)))

variable (behind) in
theorem orderly_decodeMacrosRequestsFrom (signal : MacrosRequests → ReplySignal) (fuel : Nat)
    (fields : Bytes) (requests : MacrosRequests) (hfuel : fields.length ≤ fuel) :
    Orderly (isMacrosRequests fuel fields) (fun memory =>
        decodeMacrosRequestsFrom fuel memory fields.length requests >>=
          fun requests => emit (signal requests)) fields behind ↔
      macrosRequestsOrderly fuel fields = true := by
  induction fuel generalizing fields requests with
  | zero =>
      have hnil : fields = [] := List.length_eq_zero_iff.mp (by omega)
      subst hnil
      rw [orderly_of_signal (signal requests) fun following residue => rfl]
      exact ⟨fun _ => rfl, fun _ => rfl⟩
  | succ fuel ih =>
      by_cases hnil : fields = []
      · subst hnil
        rw [orderly_of_signal (signal requests) fun following residue => rfl]
        exact ⟨fun _ => rfl, fun _ => rfl⟩
      · have hbeq : (fields == []) = false := by simpa using hnil
        rw [isMacrosRequests, macrosRequestsOrderly, hbeq, Bool.false_or, Bool.false_or]
        by_cases h4 : fields.length < 4
        · refine ⟨fun _ => by simp [h4], fun _ =>
            orderly_of_error (by simp [Nat.not_le.mpr h4]) fun following residue => ?_⟩
          rw [decodeMacrosRequestsFrom_of_short following residue requests fuel fields hnil h4]
          exact ⟨_, rfl⟩
        · obtain ⟨stage, rest, hstage, hrest⟩ : ∃ stage rest : Bytes, stage.length = 4 ∧
              fields = stage ++ rest :=
            ⟨fields.take 4, fields.drop 4, by rw [List.length_take]; omega,
              (List.take_append_drop 4 _).symm⟩
          have hdrop : fields.drop 4 = rest := by
            rw [hrest, ← hstage, List.drop_left]
          have htake : fields.take 4 = stage := by
            rw [hrest, ← hstage, List.take_left]
          rw [hdrop, htake, decide_eq_false h4, decide_eq_true (Nat.not_lt.mp h4), Bool.false_or,
            Bool.true_and]
          subst hrest
          simp only [Orderly, decodeMacrosRequestsFrom_stage _ _ requests fuel stage hstage rest]
          rcases null_cases rest with h0 | ⟨symbols, after, h0, rfl⟩
          · refine ⟨fun _ => by simp [h0], fun _ following residue _ => ?_⟩
            simp only [decodeNonEmptyValue_of_notMem _ _ _ _ _ h0, bind, Except.bind]
            simp [IsOrderly, h0]
          · by_cases hne : symbols = []
            · subst hne
              refine ⟨fun hall => ?_, fun hfalse => by simp at hfalse⟩
              have hone := hall [] (fun _ => 0) List.nil_prefix
              simp only [List.nil_append, decodeNonEmptyValue_empty] at hone
              exact absurd hone id
            · have hcontains : (symbols ++ 0 :: after).contains 0 = true := by simp
              rw [bne, head?_append_null _ _ h0 hne, afterNull_append _ _ h0, hcontains]
              simp only [decodeNonEmptyValue_append _ _ _ _ symbols after h0 hne, bind, Except.bind,
                Memory.advance_atFrame_append, length_after,
                Memory.string_atFrame_append _ _ _ symbols h0]
              cases hcommand : macroStageToCommand (ofBigEndian stage) with
              | none => exact ⟨fun _ => rfl, fun _ following residue _ => rfl⟩
              | some command =>
                  have hlength : after.length ≤ fuel := by
                    simp only [List.length_append, List.length_cons] at hfuel
                    omega
                  exact ih after (requests.insert command (splitSymbols ⟨symbols, h0⟩)) hlength

variable (behind) in
theorem orderly_decodeMacrosRequests (signal : Option MacrosRequests → ReplySignal)
    (fields : Bytes) :
    Orderly (isMacrosRequests fields.length fields) (fun memory =>
        decodeMacrosRequests memory fields.length >>= fun requests => emit (signal requests))
        fields behind ↔
      macrosRequestsOrderly fields.length fields = true := by
  by_cases hnil : fields = []
  · subst hnil
    rw [orderly_of_signal (signal none) fun following residue => rfl]
    exact ⟨fun _ => rfl, fun _ => rfl⟩
  · have hlength : (fields.length : Int) ≠ 0 := by
      have : fields.length ≠ 0 := fun h0 => hnil (List.length_eq_zero_iff.mp h0)
      omega
    rw [← orderly_decodeMacrosRequestsFrom behind (fun requests =>
      signal (some requests)) fields.length
      fields ∅ (Nat.le_refl _)]
    simp only [Orderly, decodeMacrosRequests, if_neg hlength, Int.toNat_natCast, bind_assoc,
      pure_bind]

/-- An option and macros requests. -/
def isNegotiateReply (fields : Bytes) : Bool :=
  decide (12 ≤ fields.length) && isMacrosRequests (fields.drop 12).length (fields.drop 12)

/-- The option is short, or the macros requests are orderly. -/
def negotiateReplyOrderly (fields : Bytes) : Bool :=
  decide (fields.length < 12) || macrosRequestsOrderly (fields.drop 12).length (fields.drop 12)

theorem orderly_decodeReplyNegotiate (tag : UInt8) (fields : Bytes) :
    Orderly (isNegotiateReply fields)
        (fun memory => decodeReplyNegotiate memory (tag :: fields).length) (tag :: fields)
        behind ↔
      negotiateReplyOrderly fields = true := by
  by_cases h : fields.length < 12
  · have hwell : isNegotiateReply fields = false := by
      rw [isNegotiateReply, decide_eq_false (Nat.not_le.mpr h), Bool.false_and]
    refine ⟨fun _ => by rw [negotiateReplyOrderly, decide_eq_true h, Bool.true_or], fun _ => ?_⟩
    exact orderly_decodeNegotiate_of_short decodeReplyNegotiate _ (fun memory length => rfl) tag
      fields h hwell
  · have hwell : isNegotiateReply fields =
        isMacrosRequests (fields.drop 12).length (fields.drop 12) := by
      rw [isNegotiateReply, decide_eq_true (Nat.not_lt.mp h), Bool.true_and]
    have htail : Orderly (isNegotiateReply fields)
          (fun memory => decodeReplyNegotiate memory (tag :: fields).length) (tag :: fields)
          behind ↔
        Orderly (isNegotiateReply fields)
          (fun memory => negotiateTail memory (fields.drop 12).length (optionOf fields))
          (fields.drop 12) behind :=
      orderly_decodeNegotiate_of_length decodeReplyNegotiate negotiateTail
        (fun memory length => rfl) tag fields (by omega)
    have hcheck : ∀ following residue,
        checkCommandLength (.atFrame (fields.drop 12) following residue) (fields.drop 12).length
          (0 : Nat) .atLeast "option negotiation command" = .ok () := fun following residue => by
      rw [checkCommandLength_atLeast, if_pos (Nat.zero_le _)]
    rw [htail, hwell, negotiateReplyOrderly, decide_eq_false h, Bool.false_or,
      ← orderly_decodeMacrosRequests behind
        (fun requests => .negotiateReply (optionOf fields) requests) (fields.drop 12)]
    simp only [Orderly, negotiateTail, show (0 : Int) = ((0 : Nat) : Int) from rfl, hcheck]
    rfl

/-- The fields of a well formed reply. -/
def fieldsWellFormed (fields : Bytes) : MilterReply → Bool
  | .continue | .temporaryFailure | .reject | .accept | .discard | .progress
  | .connectionFailure | .shutdown | .skip => fields == []
  | .replyCode => isCodeAndText fields
  | .addHeader => isNameAndValue fields
  | .insertHeader | .changeHeader => isIndexed fields
  | .changeFrom | .addRecipientWithParameters => isTwoString fields
  | .addRecipient | .deleteRecipient | .quarantine => isText fields
  | .replaceBody => true
  | .setSymbolList => false

/-- The frames of well formed replies. -/
def wellFormed : Bytes → Bool
  | [] => false
  | tag :: fields =>
      if tag = MilterCommand.negotiate.toByte then isNegotiateReply fields
      else (MilterReply.ofByte tag).any (fieldsWellFormed fields)

/-- The condition on the fields of a reply. -/
def fieldsDisciplined (fields : Bytes) : MilterReply → Bool
  | .replyCode => codeAndTextOrderly fields
  | .addHeader => nameAndValueOrderly fields
  | .insertHeader | .changeHeader => indexedOrderly fields
  | .changeFrom | .addRecipientWithParameters => twoStringOrderly fields
  | .addRecipient => isText fields
  | .deleteRecipient | .quarantine => textOrderly fields
  | _ => true

/-- The byte behind an empty frame is taken for its tag. -/
def emptyOrderly : Bytes → Bool
  | [] => true
  | tag :: _ =>
      tag != MilterCommand.negotiate.toByte &&
        match MilterReply.ofByte tag with
        | some .addHeader | some .changeFrom | some .addRecipientWithParameters
        | some .deleteRecipient | some .quarantine | some .setSymbolList | none => true
        | _ => false

/-- The frames that are signalled when they are well formed and set an error when they are not, in
front of the bytes that are behind them in the stream. -/
def isDisciplined (behind : Bytes) : Bytes → Bool
  | [] => emptyOrderly behind
  | tag :: fields =>
      if tag = MilterCommand.negotiate.toByte then negotiateReplyOrderly fields
      else (MilterReply.ofByte tag).all (fieldsDisciplined fields)

theorem orderly_handlerOf (reply : MilterReply) (handler : Handler ReplySignal)
    (h : handlerOf reply = some handler) (tag : UInt8) (fields : Bytes) :
    Orderly (fieldsWellFormed fields reply)
        (fun memory => handler memory (tag :: fields).length) (tag :: fields) behind ↔
      fieldsDisciplined fields reply = true := by
  cases reply with
  | setSymbolList => cases h
  | replyCode =>
      obtain rfl := Option.some.inj h
      exact orderly_decodeReplyReplyCode tag fields
  | addHeader =>
      obtain rfl := Option.some.inj h
      exact orderly_decodeNameAndValue _ tag fields
  | insertHeader =>
      obtain rfl := Option.some.inj h
      exact orderly_decodeReplyInsertHeader tag fields
  | changeHeader =>
      obtain rfl := Option.some.inj h
      exact orderly_decodeReplyChangeHeader tag fields
  | changeFrom =>
      obtain rfl := Option.some.inj h
      exact orderly_decodeReplyChangeFrom tag fields
  | addRecipientWithParameters =>
      obtain rfl := Option.some.inj h
      exact orderly_decodeReplyAddRecipientWithParameters tag fields
  | addRecipient =>
      obtain rfl := Option.some.inj h
      exact orderly_decodeReplyAddRecipient tag fields
  | deleteRecipient =>
      obtain rfl := Option.some.inj h
      exact orderly_decodeText _ _ tag fields
  | quarantine =>
      obtain rfl := Option.some.inj h
      exact orderly_decodeText _ _ tag fields
  | replaceBody =>
      obtain rfl := Option.some.inj h
      exact ⟨fun _ => rfl, fun _ => orderly_decodeChunk _ tag fields⟩
  | _ =>
      obtain rfl := Option.some.inj h
      exact ⟨fun _ => rfl, fun _ => orderly_decodeSimple _ _ tag fields⟩

/-- What becomes of an empty frame once the byte behind it is in the buffer. -/
theorem orderly_decode_nil_cons (tag : UInt8) :
    Orderly false (fun memory => decode memory 0) [tag] behind ↔
      emptyOrderly (tag :: behind) = true := by
  have hget : ∀ following residue, (Memory.atFrame [tag] following residue).get 0 = tag :=
    fun _ _ => rfl
  have hfalse : ∀ {p : Prop}, false = true → p := fun h => absurd h Bool.false_ne_true
  rw [emptyOrderly]
  by_cases htag : tag = MilterCommand.negotiate.toByte
  · rw [htag]
    exact ⟨fun horderly => absurd horderly (not_orderly_of_overrun fun _ _ => rfl), hfalse⟩
  · have hbne : (tag != MilterCommand.negotiate.toByte) = true := by simpa using htag
    rw [hbne, Bool.true_and]
    cases hhandler : (MilterReply.ofByte tag).bind handlerOf with
    | none =>
        have hrefused : Orderly false (fun memory => decode memory 0) [tag] behind :=
          orderly_of_error rfl fun following residue =>
            ⟨_, by rw [decode, hget, if_neg htag, hhandler]⟩
        refine ⟨fun _ => ?_, fun _ => hrefused⟩
        cases hreply : MilterReply.ofByte tag with
        | none => rfl
        | some reply =>
            rw [hreply] at hhandler
            cases reply <;> first | rfl | cases hhandler
    | some handler =>
        have hdispatch : Orderly false (fun memory => decode memory 0) [tag] behind ↔
            Orderly false (fun memory => handler memory 0) [tag] behind := by
          simp only [Orderly, decode, hget, if_neg htag, hhandler]
        rw [hdispatch]
        obtain ⟨reply, hreply, hhandlerOf⟩ := Option.bind_eq_some_iff.mp hhandler
        rw [hreply]
        cases reply with
        | setSymbolList => cases hhandlerOf
        | addHeader =>
            obtain rfl := Option.some.inj hhandlerOf
            exact ⟨fun _ => rfl, fun _ => orderly_of_error rfl fun _ _ =>
              decodeNameAndValue_zero _ _⟩
        | deleteRecipient =>
            obtain rfl := Option.some.inj hhandlerOf
            exact ⟨fun _ => rfl, fun _ => orderly_of_error rfl fun _ _ => decodeText_zero _ _ _⟩
        | quarantine =>
            obtain rfl := Option.some.inj hhandlerOf
            exact ⟨fun _ => rfl, fun _ => orderly_of_error rfl fun _ _ => decodeText_zero _ _ _⟩
        | changeFrom =>
            obtain rfl := Option.some.inj hhandlerOf
            exact ⟨fun _ => rfl, fun _ => orderly_of_error rfl fun _ _ => ⟨_, rfl⟩⟩
        | addRecipientWithParameters =>
            obtain rfl := Option.some.inj hhandlerOf
            exact ⟨fun _ => rfl, fun _ => orderly_of_error rfl fun _ _ => ⟨_, rfl⟩⟩
        | insertHeader =>
            obtain rfl := Option.some.inj hhandlerOf
            exact ⟨fun horderly => absurd horderly (not_orderly_of_silent fun _ _ => rfl), hfalse⟩
        | changeHeader =>
            obtain rfl := Option.some.inj hhandlerOf
            exact ⟨fun horderly => absurd horderly (not_orderly_of_silent fun _ _ => rfl), hfalse⟩
        | addRecipient =>
            obtain rfl := Option.some.inj hhandlerOf
            refine ⟨fun horderly => ?_, hfalse⟩
            have hone := horderly [] (fun _ => 0) List.nil_prefix
            cases hone.1
        | replaceBody =>
            obtain rfl := Option.some.inj hhandlerOf
            exact ⟨fun horderly => absurd (horderly [] (fun _ => 0) List.nil_prefix).2
              Bool.false_ne_true, hfalse⟩
        | _ =>
            obtain rfl := Option.some.inj hhandlerOf
            exact ⟨fun horderly => absurd horderly (not_orderly_of_overrun fun _ _ => rfl), hfalse⟩

theorem orderly_decode_nil :
    Orderly false (fun memory => decode memory ([] : Bytes).length) [] behind ↔
      emptyOrderly behind = true := by
  match behind with
  | [] => exact ⟨fun _ => rfl, fun _ => orderly_nil_nil fun residue => rfl⟩
  | tag :: behind =>
      rw [← orderly_decode_nil_cons tag]
      exact orderly_nil_cons tag fun residue => rfl

theorem macrosRequestsOrderly_of_isMacrosRequests (fuel : Nat) (fields : Bytes)
    (h : isMacrosRequests fuel fields = true) : macrosRequestsOrderly fuel fields = true := by
  induction fuel generalizing fields with
  | zero => rfl
  | succ fuel ih =>
      simp only [isMacrosRequests, Bool.or_eq_true, Bool.and_eq_true] at h
      simp only [macrosRequestsOrderly, Bool.or_eq_true, Bool.and_eq_true]
      rcases h with hnil | ⟨⟨⟨-, hhead⟩, -⟩, hrest⟩
      · exact .inl (.inl (.inl hnil))
      · exact .inr ⟨hhead, .inr (ih _ hrest)⟩

/-- A well formed frame is no malformed one that is passed over. -/
theorem isDisciplined_of_wellFormed (frame behind : Bytes) (h : wellFormed frame = true) :
    isDisciplined behind frame = true := by
  match frame with
  | [] => cases h
  | tag :: fields =>
      rw [wellFormed] at h
      rw [isDisciplined]
      by_cases htag : tag = MilterCommand.negotiate.toByte
      · rw [if_pos htag, isNegotiateReply, Bool.and_eq_true] at h
        rw [if_pos htag, negotiateReplyOrderly, macrosRequestsOrderly_of_isMacrosRequests _ _ h.2,
          Bool.or_true]
      · rw [if_neg htag] at h ⊢
        cases hreply : MilterReply.ofByte tag with
        | none => rfl
        | some reply =>
            rw [hreply, Option.any_some] at h
            rw [Option.all_some]
            cases reply with
            | replyCode =>
                simp only [fieldsWellFormed, isCodeAndText, Bool.and_eq_true] at h
                simp only [fieldsDisciplined, codeAndTextOrderly, h.2, Bool.or_true]
            | addHeader =>
                simp only [fieldsWellFormed] at h
                simp only [fieldsDisciplined, nameAndValueOrderly, h, Bool.or_true]
            | insertHeader =>
                simp only [fieldsWellFormed] at h
                simp only [fieldsDisciplined, indexedOrderly, h, Bool.or_true]
            | changeHeader =>
                simp only [fieldsWellFormed] at h
                simp only [fieldsDisciplined, indexedOrderly, h, Bool.or_true]
            | changeFrom | addRecipientWithParameters =>
                simp only [fieldsWellFormed, isTwoString, Bool.and_eq_true, Bool.or_eq_true] at h
                simp only [fieldsDisciplined, twoStringOrderly, Bool.and_eq_true, Bool.or_eq_true]
                exact .inr ⟨h.1.2, h.2.imp_right (textOrderly_of_isText _)⟩
            | addRecipient => exact h
            | deleteRecipient => exact textOrderly_of_isText _ h
            | quarantine => exact textOrderly_of_isText _ h
            | _ => rfl

/-- The handlers are disciplined on exactly these frames. -/
theorem disciplined_decode (frame : Bytes) :
    Disciplined decode wellFormed frame behind ↔ isDisciplined behind frame = true := by
  match frame with
  | [] => exact orderly_decode_nil
  | tag :: fields =>
      have hget : ∀ following residue,
          (Memory.atFrame (tag :: fields) following residue).get 0 = tag := fun _ _ => rfl
      rw [Disciplined, wellFormed, isDisciplined]
      by_cases htag : tag = MilterCommand.negotiate.toByte
      · rw [if_pos htag, if_pos htag, ← orderly_decodeReplyNegotiate tag fields]
        exact orderly_congr fun following residue => by rw [decode, hget, if_pos htag]
      · rw [if_neg htag, if_neg htag]
        cases hhandler : (MilterReply.ofByte tag).bind handlerOf with
        | some handler =>
            obtain ⟨reply, hreply, hhandlerOf⟩ := Option.bind_eq_some_iff.mp hhandler
            rw [hreply, Option.any_some, Option.all_some,
              ← orderly_handlerOf reply handler hhandlerOf tag fields]
            exact orderly_congr fun following residue => by
              rw [decode, hget, if_neg htag, hhandler]
        | none =>
            have hunknown : (MilterReply.ofByte tag).any (fieldsWellFormed fields) = false ∧
                (MilterReply.ofByte tag).all (fieldsDisciplined fields) = true := by
              cases hreply : MilterReply.ofByte tag with
              | none => exact ⟨rfl, rfl⟩
              | some reply =>
                  rw [hreply] at hhandler
                  cases reply <;> first | exact ⟨rfl, rfl⟩ | cases hhandler
            rw [hunknown.1, hunknown.2]
            refine ⟨fun _ => rfl, fun _ => orderly_of_error rfl fun following residue => ?_⟩
            exact ⟨_, by rw [decode, hget, if_neg htag, hhandler]⟩

end MilterManager.Codec.ReplyDecoder
