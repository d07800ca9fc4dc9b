import MilterManager.Codec.Locality
import MilterManager.Codec.ReplyFields

/-!
# Replies that decide alone

The frames of replies on which the handler reads nothing behind the frame.
-/

namespace MilterManager.Codec.ReplyDecoder

open MilterManager.Base MilterManager.Core

/-- A reply code ends in the bytes, and so does the message behind it. -/
def replyCodeSelfContained (fields : Bytes) : Bool :=
  if fields.length < 3 then isInspectable fields
  else if isReplyCode fields then
    fields.contains 0 &&
      match (behindCode fields).findIdx? (· == 32) with
      | none => true
      | some space => ((behindCode fields).drop (space + 1)).contains 0
  else true

theorem string_ne_of_notMem (fields : Bytes) (h : 0 ∉ fields) (residue residue' : Nat → UInt8) :
    (Memory.atFrame fields [] residue).string ≠ (Memory.atFrame fields [1] residue').string := by
  have h1 : (0 : UInt8) ∉ fields ++ [1] := by simpa using h
  intro heq
  have hbytes := congrArg CString.bytes heq
  rw [Memory.string, Memory.string, Memory.atFrame, Memory.atFrame, List.append_nil,
    CString.ofBytes_append_null _ _ h, CString.ofBytes_append_null _ _ h1] at hbytes
  simp at hbytes

theorem isLocal_decodeReplyReplyCode (tag : UInt8) (fields : Bytes) :
    IsLocal decodeReplyReplyCode (tag :: fields) ↔ replyCodeSelfContained fields = true := by
  unfold replyCodeSelfContained
  by_cases h3 : fields.length < 3
  · rw [if_pos h3]
    apply alone_iff_isInspectable .shortCommandLength "Reply code doesn't have SMTP reply code"
    intro following residue
    exact decodeReplyReplyCode_of_short following residue tag fields h3
  · rw [if_neg h3]
    have hlength : 3 ≤ fields.length := by omega
    by_cases hcode : isReplyCode fields = true
    · rw [if_pos hcode]
      by_cases h0 : 0 ∈ fields
      · have hcontains : fields.contains 0 = true := List.contains_iff_mem.mpr h0
        rw [hcontains, Bool.true_and]
        cases hspace : (behindCode fields).findIdx? (· == 32) with
        | none =>
            refine ⟨fun _ => rfl, fun _ => alone_of_eq (emit (.replyCode
              (replyCodeOf (fields.take 3)) (.ofBytes (behindCode fields)) none))
              fun following residue => ?_⟩
            rw [decodeReplyReplyCode_of_isReplyCode following residue tag fields hlength hcode h0,
              hspace]
        | some space =>
            constructor
            · intro halone
              by_contra hnot
              have hnotMem : 0 ∉ (behindCode fields).drop (space + 1) := fun hmem =>
                hnot (List.contains_iff_mem.mpr hmem)
              have heq := halone [] (fun _ => 0) [1] (fun _ => 0)
              simp only at heq
              rw [decodeReplyReplyCode_of_isReplyCode _ _ tag fields hlength hcode h0,
                decodeReplyReplyCode_of_isReplyCode _ _ tag fields hlength hcode h0, hspace] at heq
              simp only [emit, Except.ok.injEq, Emission.mk.injEq, ReplySignal.replyCode.injEq,
                Option.some.injEq] at heq
              exact string_ne_of_notMem _ hnotMem _ _ heq.1.2.2
            · intro hcontains
              refine alone_of_eq (emit (.replyCode (replyCodeOf (fields.take 3))
                (.ofBytes ((behindCode fields).take space))
                (some (.ofBytes ((behindCode fields).drop (space + 1))))))
                fun following residue => ?_
              rw [decodeReplyReplyCode_of_isReplyCode following residue tag fields hlength hcode h0,
                hspace]
              simp only
              rw [Memory.string_atFrame_of_mem _ _ _ (List.contains_iff_mem.mp hcontains)]
      · constructor
        · intro halone
          exact absurd halone (not_alone_of_quotedText h0 .missingNull
            "Reply code isn't terminated by NULL on REPLY CODE reply" [] fun following residue =>
              decodeReplyReplyCode_of_notMem following residue tag fields hlength hcode h0)
        · intro hcontains
          simp [h0] at hcontains
    · rw [if_neg hcode]
      exact ⟨fun _ => rfl, fun _ => alone_of_eq _ fun following residue =>
        decodeReplyReplyCode_of_code following residue tag fields hlength (by simpa using hcode)⟩

/-- An index, a name and a value end in the bytes, or there are too few bytes for an index. -/
def indexSelfContained (fields : Bytes) : Bool :=
  decide (fields.length < 2) || decide (4 ≤ fields.length) && hasNameAndValue (fields.drop 4)

/-- The two bytes that are counted behind the frame have to be NUL for a field to end there. -/
theorem not_alone_decodeHeaderContentWithIndex {α : Type}
    (signal : UInt32 × CString × Option CString → Except Failure α) (fields : Bytes)
    (h2 : 2 ≤ fields.length)
    (h : fields.length < 4 ∨ hasNameAndValue (fields.drop 4) = false) :
    ¬ Alone (fun memory =>
      decodeHeaderContentWithIndex memory (fields.length + 2 : Nat) >>= signal) fields := by
  refine not_alone_of_ne [1, 1, 1] [1, 1, 2] fun residue residue' heq => ?_
  have hlonger : ∀ byte : UInt8, ∀ residue : Nat → UInt8,
      Memory.atFrame fields [1, 1, byte] residue =
        .atFrame (fields ++ [1, 1]) [byte] residue := fun byte residue =>
    Memory.atFrame_append fields [byte] residue [1, 1]
  obtain ⟨index, rest, hindex, hrest⟩ : ∃ index rest : Bytes, index.length = 4 ∧
      fields ++ [1, 1] = index ++ rest :=
    ⟨(fields ++ [1, 1]).take 4, (fields ++ [1, 1]).drop 4,
      by simp only [List.length_take, List.length_append, List.length_cons, List.length_nil]; omega,
      (List.take_append_drop 4 _).symm⟩
  have hlength : ((fields.length + 2 : Nat) : Int) = (index ++ rest).length := by
    rw [← hrest, List.length_append]
    rfl
  have hdrop : rest = (fields ++ [1, 1]).drop 4 := by
    rw [hrest, ← hindex, List.drop_left]
  have hone : (0 : UInt8) ∉ [(1 : UInt8), 1] := by decide
  simp only [hlonger, hrest, hlength] at heq
  rcases null_cases rest with h0 | ⟨name, after, hname, rfl⟩
  · rw [decodeHeaderContentWithIndex_of_notMem _ _ index hindex rest h0,
      decodeHeaderContentWithIndex_of_notMem _ _ index hindex rest h0] at heq
    simp only [bind, Except.bind, quotedText_cons _ _ _ (by decide : (1 : UInt8) ≠ 0) h0,
      quotedText_cons _ _ _ (by decide : (2 : UInt8) ≠ 0) h0] at heq
    simp at heq
  · -- the NUL that ends the name is one of the frame
    have h4 : 4 ≤ fields.length := by
      by_contra hlt
      have hmem : (0 : UInt8) ∈ (fields ++ [1, 1]).drop 4 := by
        rw [← hdrop]
        simp
      rw [List.drop_append, List.drop_of_length_le (by omega), List.nil_append] at hmem
      exact hone (List.mem_of_mem_drop hmem)
    have hfalse : hasNameAndValue (fields.drop 4) = false := by
      rcases h with h | h
      · omega
      · exact h
    have hsplit : fields.drop 4 ++ [1, 1] = name ++ 0 :: after := by
      rw [hdrop, List.drop_append_of_le_length h4]
    rcases null_cases (fields.drop 4) with hd | ⟨name', after', hname', hd⟩
    · exfalso
      have hmem : (0 : UInt8) ∈ fields.drop 4 ++ [1, 1] := by
        rw [hsplit]
        simp
      rcases List.mem_append.mp hmem with hmem | hmem
      · exact hd hmem
      · exact hone hmem
    · have hafter : name = name' ∧ after = after' ++ [1, 1] := by
        rw [hd, List.append_assoc, List.cons_append] at hsplit
        have htake := congrArg (List.takeWhile (· ≠ 0)) hsplit
        rw [CString.takeWhile_append_null _ _ hname', CString.takeWhile_append_null _ _ hname]
          at htake
        subst htake
        exact ⟨rfl, by simpa using hsplit.symm⟩
      obtain ⟨rfl, rfl⟩ := hafter
      have hne : name ≠ [] := by
        rintro rfl
        rw [hd, List.nil_append, hasNameAndValue_empty] at hfalse
        cases hfalse
      rw [hd, hasNameAndValue_append _ _ hname hne] at hfalse
      have h0 : (0 : UInt8) ∉ after' ++ [1, 1] := by
        intro hmem
        rcases List.mem_append.mp hmem with hmem | hmem
        · rw [List.contains_iff_mem.mpr hmem] at hfalse
          cases hfalse
        · exact hone hmem
      rw [decodeHeaderContentWithIndex_of_notMem_after _ _ index hindex name _ hname hne h0,
        decodeHeaderContentWithIndex_of_notMem_after _ _ index hindex name _ hname hne h0] at heq
      simp only [bind, Except.bind, quotedText_cons _ _ _ (by decide : (1 : UInt8) ≠ 0) h0,
        quotedText_cons _ _ _ (by decide : (2 : UInt8) ≠ 0) h0] at heq
      simp at heq

theorem alone_decodeHeaderContentWithIndex {α : Type}
    (signal : UInt32 × CString × Option CString → Except Failure α) (fields : Bytes) :
    Alone (fun memory =>
        decodeHeaderContentWithIndex memory (fields.length + 2 : Nat) >>= signal) fields ↔
      indexSelfContained fields = true := by
  by_cases h2 : fields.length < 2
  · refine ⟨fun _ => by simp [indexSelfContained, h2], fun _ =>
      alone_of_eq (.error .silent) fun following residue => ?_⟩
    rw [decodeHeaderContentWithIndex_of_short _ _ (by omega)]
    rfl
  · by_cases h : 4 ≤ fields.length ∧ hasNameAndValue (fields.drop 4) = true
    · refine ⟨fun _ => by simp [indexSelfContained, h], fun _ => ?_⟩
      obtain ⟨h4, hfields⟩ := h
      obtain ⟨index, rest, hindex, hrest⟩ : ∃ index rest : Bytes, index.length = 4 ∧
          fields = index ++ rest :=
        ⟨fields.take 4, fields.drop 4, by rw [List.length_take]; omega,
          (List.take_append_drop 4 _).symm⟩
      have hdrop : fields.drop 4 = rest := by
        rw [hrest, ← hindex, List.drop_left]
      rw [hdrop] at hfields
      subst hrest
      rcases null_cases rest with h0 | ⟨name, after, hname, rfl⟩
      · rw [hasNameAndValue_of_notMem _ h0] at hfields
        cases hfields
      · by_cases hne : name = []
        · subst hne
          refine alone_of_eq (.error .silent) fun following residue => ?_
          rw [List.nil_append, decodeHeaderContentWithIndex_empty _ _ index hindex]
          rfl
        · rw [hasNameAndValue_append _ _ hname hne] at hfields
          rcases null_cases after with h0 | ⟨value, after, hvalue, rfl⟩
          · exact absurd (List.contains_iff_mem.mp hfields) h0
          · refine alone_of_eq (signal (UInt32.ofNat (ofBigEndian index), ⟨name, hname⟩,
              if value = [] then none else some ⟨value, hvalue⟩)) fun following residue => ?_
            rw [decodeHeaderContentWithIndex_append _ _ index hindex 2 name value after hname hne
              hvalue]
            rfl
    · have hself : indexSelfContained fields = false := by
        rw [indexSelfContained, decide_eq_false h2, Bool.false_or]
        by_cases h4 : 4 ≤ fields.length
        · have hfalse : hasNameAndValue (fields.drop 4) = false := by
            by_contra htrue
            exact h ⟨h4, by simpa using htrue⟩
          rw [hfalse, Bool.and_false]
        · rw [decide_eq_false h4, Bool.false_and]
      rw [hself]
      constructor
      · intro halone
        refine absurd halone (not_alone_decodeHeaderContentWithIndex signal fields (by omega) ?_)
        by_cases h4 : 4 ≤ fields.length
        · right
          by_contra htrue
          exact h ⟨h4, by simpa using htrue⟩
        · left
          omega
      · intro hfalse
        cases hfalse

theorem length_fields_add (tag : UInt8) (fields : Bytes) :
    ((tag :: fields).length : Int) + 1 = (fields.length + 2 : Nat) := by
  rw [List.length_cons]
  omega

theorem isLocal_decodeReplyInsertHeader (tag : UInt8) (fields : Bytes) :
    IsLocal decodeReplyInsertHeader (tag :: fields) ↔ indexSelfContained fields = true := by
  rw [← alone_decodeHeaderContentWithIndex
    (fun content => emit (ReplySignal.insertHeader content.1 content.2.1 content.2.2)) fields]
  simp only [IsLocal, Alone, decodeReplyInsertHeader, length_fields_add,
    Memory.advance_atFrame_cons]

theorem isLocal_decodeReplyChangeHeader (tag : UInt8) (fields : Bytes) :
    IsLocal decodeReplyChangeHeader (tag :: fields) ↔ indexSelfContained fields = true := by
  rw [← alone_decodeHeaderContentWithIndex (fun content => emit (changeOrDelete content)) fields]
  simp only [IsLocal, Alone, decodeReplyChangeHeader_eq, length_fields_add,
    Memory.advance_atFrame_cons]

/-- A text ends in the bytes and, unless it is empty or the last, so does another one. -/
def twoStringSelfContained (fields : Bytes) : Bool :=
  fields.contains 0 && (fields.head? == some 0 || afterNull fields == [] ||
    (afterNull fields).contains 0)

theorem alone_decodeTwoString {α : Type} (firstMessage secondMessage : String)
    (signal : CString × Option CString → Except Failure α) (fields : Bytes) :
    Alone (fun memory =>
        decodeTwoString memory fields.length firstMessage secondMessage >>= signal) fields ↔
      twoStringSelfContained fields = true := by
  rcases null_cases fields with h | ⟨first, after, h, rfl⟩
  · constructor
    · intro halone
      refine absurd halone (not_alone_of_quotedText h .missingNull firstMessage []
        fun following residue => ?_)
      rw [decodeTwoString_of_notMem following residue _ _ fields h]
      rfl
    · intro hself
      simp [twoStringSelfContained, h] at hself
  · by_cases hne : first = []
    · subst hne
      constructor
      · intro _
        simp [twoStringSelfContained]
      · intro _
        refine alone_of_eq (.error .silent) fun following residue => ?_
        rw [List.nil_append, decodeTwoString_empty]
        rfl
    · have hself : twoStringSelfContained (first ++ 0 :: after) =
          (after == [] || after.contains 0) := by
        rw [twoStringSelfContained, head?_append_null _ _ h hne, afterNull_append _ _ h]
        simp
      rw [hself]
      by_cases hafter : after = []
      · subst hafter
        refine ⟨fun _ => rfl, fun _ => alone_of_eq (signal (⟨first, h⟩, none))
          fun following residue => ?_⟩
        rw [decodeTwoString_one _ _ _ _ first h hne]
        rfl
      · rcases null_cases after with h0 | ⟨second, rest, h0, rfl⟩
        · constructor
          · intro halone
            refine absurd halone (not_alone_of_quotedText h0 .missingNull secondMessage [first]
              fun following residue => ?_)
            rw [decodeTwoString_of_notMem_after following residue _ _ first after h hne h0 hafter]
            rfl
          · intro hcontains
            simp [hafter, h0] at hcontains
        · refine ⟨fun _ => by simp, fun _ => ?_⟩
          by_cases hne' : second = []
          · subst hne'
            refine alone_of_eq (.error .silent) fun following residue => ?_
            rw [List.nil_append, decodeTwoString_empty_second _ _ _ _ first rest h hne]
            rfl
          · refine alone_of_eq (signal (⟨first, h⟩, some ⟨second, h0⟩)) fun following residue => ?_
            rw [decodeTwoString_append _ _ _ _ first second rest h hne h0 hne']
            rfl

theorem isLocal_decodeReplyChangeFrom (tag : UInt8) (fields : Bytes) :
    IsLocal decodeReplyChangeFrom (tag :: fields) ↔ twoStringSelfContained fields = true := by
  rw [← alone_decodeTwoString "From isn't terminated by NULL on CHANGE FROM reply"
    "Parameter isn't terminated by NULL on CHANGE FROM reply"
    (fun content => emit (ReplySignal.changeFrom content.1 content.2)) fields]
  simp only [IsLocal, Alone, decodeReplyChangeFrom, length_fields, Memory.advance_atFrame_cons]

theorem isLocal_decodeReplyAddRecipientWithParameters (tag : UInt8) (fields : Bytes) :
    IsLocal decodeReplyAddRecipientWithParameters (tag :: fields) ↔
      twoStringSelfContained fields = true := by
  rw [← alone_decodeTwoString
    "Recipient isn't terminated by NULL on ADD RECIPIENT WITH PARAMETERS reply"
    "Parameter isn't terminated by NULL on ADD RECIPIENT WITH PARAMETERS reply"
    (fun content => emit (ReplySignal.addRecipient content.1 content.2)) fields]
  simp only [IsLocal, Alone, decodeReplyAddRecipientWithParameters, length_fields,
    Memory.advance_atFrame_cons]

theorem isLocal_decodeReplyAddRecipient (tag : UInt8) (fields : Bytes) :
    IsLocal decodeReplyAddRecipient (tag :: fields) ↔ fields.contains 0 = true := by
  rcases null_cases fields with h | ⟨text, after, h, rfl⟩
  · constructor
    · intro halone
      have heq := halone [] (fun _ => 0) [1] (fun _ => 0)
      simp only [decodeReplyAddRecipient_of_notMem _ _ tag fields h, Except.ok.injEq,
        Emission.mk.injEq, ReplySignal.addRecipient.injEq] at heq
      exact absurd heq.1.1 (string_ne_of_notMem fields h _ _)
    · intro hcontains
      exact absurd (List.contains_iff_mem.mp hcontains) h
  · exact ⟨fun _ => by simp, fun _ => alone_of_eq _ fun following residue =>
      decodeReplyAddRecipient_append following residue tag text after h⟩

/-- Every stage of the macros requests is there and its symbols end in the bytes, up to empty
symbols or an unknown stage. -/
def macrosRequestsSelfContained : Nat → Bytes → Bool
  | 0, _ => true
  | fuel + 1, fields =>
      fields == [] ||
        if fields.length < 4 then isInspectable fields
        else (fields.drop 4).contains 0 && ((fields.drop 4).head? == some 0 ||
          (macroStageToCommand (ofBigEndian (fields.take 4))).isNone ||
            macrosRequestsSelfContained fuel (afterNull (fields.drop 4)))

theorem alone_decodeMacrosRequestsFrom
    (signal : MacrosRequests → Except Failure (Emission ReplySignal)) (fuel : Nat)
    (fields : Bytes) (requests : MacrosRequests) (hfuel : fields.length ≤ fuel) :
    Alone (fun memory =>
        decodeMacrosRequestsFrom fuel memory fields.length requests >>= signal) fields ↔
      macrosRequestsSelfContained fuel fields = true := by
  induction fuel generalizing fields requests with
  | zero =>
      have hnil : fields = [] := List.length_eq_zero_iff.mp (by omega)
      subst hnil
      exact ⟨fun _ => rfl, fun _ => alone_of_eq (signal requests) fun following residue => rfl⟩
  | succ fuel ih =>
      by_cases hnil : fields = []
      · subst hnil
        exact ⟨fun _ => rfl, fun _ => alone_of_eq (signal requests) fun following residue => rfl⟩
      · have hbeq : (fields == []) = false := by simpa using hnil
        rw [macrosRequestsSelfContained, hbeq, Bool.false_or]
        by_cases h4 : fields.length < 4
        · rw [if_pos h4]
          apply alone_iff_isInspectable .shortCommandLength
            "Stage index doesn't exist in NEGOTIATE reply"
          intro following residue
          rw [decodeMacrosRequestsFrom_of_short following residue requests fuel fields hnil h4]
          rfl
        · rw [if_neg h4]
          obtain ⟨stage, rest, hstage, hrest⟩ : ∃ stage rest : Bytes, stage.length = 4 ∧
              fields = stage ++ rest :=
            ⟨fields.take 4, fields.drop 4, by rw [List.length_take]; omega,
              (List.take_append_drop 4 _).symm⟩
          have hdrop : fields.drop 4 = rest := by
            rw [hrest, ← hstage, List.drop_left]
          have htake : fields.take 4 = stage := by
            rw [hrest, ← hstage, List.take_left]
          rw [hdrop, htake]
          subst hrest
          simp only [Alone,
            decodeMacrosRequestsFrom_stage _ _ requests fuel stage hstage rest]
          rcases null_cases rest with h0 | ⟨symbols, after, h0, rfl⟩
          · constructor
            · intro halone
              have heq := halone [] (fun _ => 0) [1] (fun _ => 0)
              simp only [decodeNonEmptyValue_of_notMem _ _ _ _ _ h0, bind, Except.bind,
                quotedText_nil _ h0, quotedText_cons _ _ _ (by decide : (1 : UInt8) ≠ 0) h0] at heq
              simp at heq
            · intro hself
              simp [h0] at hself
          · by_cases hne : symbols = []
            · subst hne
              constructor
              · intro _
                simp
              · intro _ following residue following' residue'
                simp only [List.nil_append, decodeNonEmptyValue_empty]
                rfl
            · rw [head?_append_null _ _ h0 hne, afterNull_append _ _ h0]
              simp only [decodeNonEmptyValue_append _ _ _ _ symbols after h0 hne, bind, Except.bind,
                Memory.advance_atFrame_append, length_after,
                Memory.string_atFrame_append _ _ _ symbols h0]
              cases hcommand : macroStageToCommand (ofBigEndian stage) with
              | none =>
                  constructor
                  · intro _
                    simp
                  · intro _ following residue following' residue'
                    rfl
              | some command =>
                  have hlength : after.length ≤ fuel := by
                    simp only [List.length_append, List.length_cons] at hfuel
                    omega
                  have hcontains : (symbols ++ 0 :: after).contains 0 = true := by simp
                  rw [hcontains, Bool.true_and, Bool.false_or, Option.isNone_some, Bool.false_or,
                    ← ih after (requests.insert command (splitSymbols ⟨symbols, h0⟩)) hlength]
                  rfl

theorem alone_decodeMacrosRequests
    (signal : Option MacrosRequests → Except Failure (Emission ReplySignal)) (fields : Bytes) :
    Alone (fun memory => decodeMacrosRequests memory fields.length >>= signal) fields ↔
      macrosRequestsSelfContained fields.length fields = true := by
  by_cases hnil : fields = []
  · subst hnil
    exact ⟨fun _ => rfl, fun _ => alone_of_eq (signal none) fun following residue => rfl⟩
  · have hlength : (fields.length : Int) ≠ 0 := by
      have : fields.length ≠ 0 := fun h0 => hnil (List.length_eq_zero_iff.mp h0)
      omega
    rw [← alone_decodeMacrosRequestsFrom (fun requests => signal (some requests)) fields.length
      fields ∅ (Nat.le_refl _)]
    simp only [Alone, decodeMacrosRequests, if_neg hlength, Int.toNat_natCast, bind_assoc,
      pure_bind]

/-- What `decode_reply_negotiate` does with the bytes behind the option. -/
def negotiateTail (buffer : Memory) (length : Int) (option : MilterOption) :
    Except Failure (Emission ReplySignal) := do
  checkCommandLength buffer length 0 .atLeast "option negotiation command"
  let macrosRequests ← decodeMacrosRequests buffer length
  emit (.negotiateReply option macrosRequests)

theorem isLocal_decodeReplyNegotiate (tag : UInt8) (fields : Bytes) :
    IsLocal decodeReplyNegotiate (tag :: fields) ↔
      (if fields.length < 12 then isInspectable (shortWord fields)
        else macrosRequestsSelfContained (fields.drop 12).length (fields.drop 12)) = true := by
  by_cases h : fields.length < 12
  · rw [if_pos h]
    exact isLocal_decodeNegotiate_of_short _ (fun memory length => rfl) tag fields h
  · rw [if_neg h]
    have htail : IsLocal decodeReplyNegotiate (tag :: fields) ↔
        Alone (fun memory => negotiateTail memory (fields.drop 12).length (optionOf fields))
          (fields.drop 12) :=
      isLocal_decodeNegotiate_of_length negotiateTail (fun memory length => rfl) tag fields
        (by omega)
    have hcheck : ∀ following residue,
        checkCommandLength (.atFrame (fields.drop 12) following residue) (fields.drop 12).length
          (0 : Nat) .atLeast "option negotiation command" = .ok () := fun following residue => by
      rw [checkCommandLength_atLeast, if_pos (Nat.zero_le _)]
    rw [htail, ← alone_decodeMacrosRequests
      (fun requests => emit (.negotiateReply (optionOf fields) requests)) (fields.drop 12)]
    simp only [Alone, negotiateTail, show (0 : Int) = ((0 : Nat) : Int) from rfl, hcheck]
    rfl

/-- The condition on the fields of a reply. -/
def fieldsSelfContained (fields : Bytes) : MilterReply → Bool
  | .continue | .temporaryFailure | .reject | .accept | .discard | .progress
  | .connectionFailure | .shutdown | .skip => isInspectable fields
  | .replyCode => replyCodeSelfContained fields
  | .addHeader => hasNameAndValue fields
  | .insertHeader | .changeHeader => indexSelfContained fields
  | .changeFrom | .addRecipientWithParameters => twoStringSelfContained fields
  | .addRecipient | .deleteRecipient | .quarantine | .replaceBody => fields.contains 0
  | .setSymbolList => true

/-- The frames on which a reply handler reads nothing behind the frame: every field it looks for
ends in the frame, and an error about a length has no text to quote on. -/
def selfContained : Bytes → Bool
  | [] => false
  | tag :: fields =>
      if tag = MilterCommand.negotiate.toByte then
        if fields.length < 12 then isInspectable (shortWord fields)
        else macrosRequestsSelfContained (fields.drop 12).length (fields.drop 12)
      else
        match MilterReply.ofByte tag with
        | some reply => fieldsSelfContained fields reply
        | none => true

theorem isLocal_handlerOf (reply : MilterReply) (handler : Handler ReplySignal)
    (h : handlerOf reply = some handler) (tag : UInt8) (fields : Bytes) :
    IsLocal handler (tag :: fields) ↔ fieldsSelfContained fields reply = true := by
  cases reply with
  | setSymbolList => cases h
  | replyCode =>
      obtain rfl := Option.some.inj h
      exact isLocal_decodeReplyReplyCode tag fields
  | addHeader =>
      obtain rfl := Option.some.inj h
      exact isLocal_decodeNameAndValue _ tag fields
  | insertHeader =>
      obtain rfl := Option.some.inj h
      exact isLocal_decodeReplyInsertHeader tag fields
  | changeHeader =>
      obtain rfl := Option.some.inj h
      exact isLocal_decodeReplyChangeHeader tag fields
  | changeFrom =>
      obtain rfl := Option.some.inj h
      exact isLocal_decodeReplyChangeFrom tag fields
  | addRecipientWithParameters =>
      obtain rfl := Option.some.inj h
      exact isLocal_decodeReplyAddRecipientWithParameters tag fields
  | addRecipient =>
      obtain rfl := Option.some.inj h
      exact isLocal_decodeReplyAddRecipient tag fields
  | deleteRecipient =>
      obtain rfl := Option.some.inj h
      exact isLocal_decodeText _ _ tag fields
  | quarantine =>
      obtain rfl := Option.some.inj h
      exact isLocal_decodeText _ _ tag fields
  | replaceBody =>
      obtain rfl := Option.some.inj h
      exact isLocal_decodeChunk _ (fun _ _ _ h => (ReplySignal.replaceBody.inj h).1) tag fields
  | _ =>
      obtain rfl := Option.some.inj h
      exact isLocal_decodeSimple _ _ tag fields

theorem scansWithin (frame : Bytes) : ScansWithin scan frame := fun _ _ _ _ => rfl

/-- The frames that decide alone are exactly these. -/
theorem isLocal_decode (frame : Bytes) : IsLocal decode frame ↔ selfContained frame = true := by
  match frame with
  | [] =>
      constructor
      · intro halone
        refine absurd halone (not_alone_of_ne [] [1] fun residue residue' heq => ?_)
        cases heq
      · intro hfalse
        cases hfalse
  | tag :: fields =>
      have hget : ∀ following residue,
          (Memory.atFrame (tag :: fields) following residue).get 0 = tag := fun _ _ => rfl
      rw [selfContained]
      by_cases htag : tag = MilterCommand.negotiate.toByte
      · rw [if_pos htag, ← isLocal_decodeReplyNegotiate tag fields]
        exact isLocal_congr fun following residue => by rw [decode, hget, if_pos htag]
      · rw [if_neg htag]
        cases hhandler : (MilterReply.ofByte tag).bind handlerOf with
        | some handler =>
            obtain ⟨reply, hreply, hhandlerOf⟩ := Option.bind_eq_some_iff.mp hhandler
            rw [hreply]
            simp only
            rw [← isLocal_handlerOf reply handler hhandlerOf tag fields]
            exact isLocal_congr fun following residue => by
              rw [decode, hget, if_neg htag, hhandler]
        | none =>
            have htrue : (match MilterReply.ofByte tag with
                | some reply => fieldsSelfContained fields reply
                | none => true) = true := by
              cases hreply : MilterReply.ofByte tag with
              | none => rfl
              | some reply =>
                  rw [hreply] at hhandler
                  cases reply <;> first | rfl | cases hhandler
            rw [htrue]
            refine ⟨fun _ => rfl, fun _ => alone_of_eq (.error (.error ⟨.unexpectedCommand,
              "unexpected reply was received", [[tag]]⟩)) fun following residue => ?_⟩
            rw [decode, hget, if_neg htag, hhandler]

end MilterManager.Codec.ReplyDecoder
