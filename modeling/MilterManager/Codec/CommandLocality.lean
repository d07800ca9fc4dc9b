import MilterManager.Codec.CommandFields
import MilterManager.Codec.Locality

/-!
# Commands that decide alone

The frames of commands on which the handler reads nothing behind the frame.
-/

namespace MilterManager.Codec.CommandDecoder

open MilterManager.Base MilterManager.Core

/-- The bytes of a negotiate command that an error about its length counts, or none. -/
def negotiateExcess (fields : Bytes) : Bytes :=
  if fields.length < 12 then shortWord fields else fields.drop 12

/-- What `decode_negotiate` does with the bytes behind the option. -/
def negotiateTail (buffer : Memory) (length : Int) (option : MilterOption) :
    Except Failure (Emission CommandSignal) := do
  checkCommandLength buffer length 0 .exact "option negotiation command"
  emit (.negotiate option)

theorem isLocal_decodeNegotiate (tag : UInt8) (fields : Bytes) :
    IsLocal decodeNegotiate (tag :: fields) ↔ isInspectable (negotiateExcess fields) = true := by
  by_cases h : fields.length < 12
  · rw [negotiateExcess, if_pos h]
    exact isLocal_decodeNegotiate_of_short _ (fun memory length => rfl) tag fields h
  · rw [negotiateExcess, if_neg h]
    have htail : IsLocal decodeNegotiate (tag :: fields) ↔
        Alone (fun memory => negotiateTail memory (fields.drop 12).length (optionOf fields))
          (fields.drop 12) :=
      isLocal_decodeNegotiate_of_length negotiateTail (fun memory length => rfl) tag fields
        (by omega)
    rw [htail]
    by_cases hnil : fields.drop 12 = []
    · rw [hnil]
      exact ⟨fun _ => rfl, fun _ => alone_of_eq (emit (.negotiate (optionOf fields)))
        fun following residue => rfl⟩
    · apply alone_iff_isInspectable .longCommandLength "option negotiation command"
      intro following residue
      rw [negotiateTail, checkCommandLength_exact, if_neg hnil]
      rfl

/-- Every name and value of the macros ends in the bytes, up to an empty name. -/
def macrosSelfContained : Nat → Bytes → Bool
  | 0, _ => true
  | fuel + 1, fields =>
      fields == [] || fields.contains 0 && (fields.head? == some 0 ||
        (afterNull fields).contains 0 &&
          macrosSelfContained fuel (afterNull (afterNull fields)))

theorem macrosSelfContained_append (fuel : Nat) (name value after : Bytes) (hname : 0 ∉ name)
    (hne : name ≠ []) (hvalue : 0 ∉ value) :
    macrosSelfContained (fuel + 1) (name ++ 0 :: (value ++ 0 :: after)) =
      macrosSelfContained fuel after := by
  rw [macrosSelfContained, head?_append_null _ _ hname hne, afterNull_append _ _ hname,
    afterNull_append _ _ hvalue]
  simp

/-- The loop reads only the frame when every name and value ends in it. -/
theorem alone_decodeDefineMacrosFrom (signal : Macros → Except Failure (Emission CommandSignal))
    (fuel : Nat) (fields : Bytes) (macros : Macros) (hfuel : fields.length ≤ fuel) :
    Alone (fun memory => decodeDefineMacrosFrom fuel memory fields.length macros >>= signal)
        fields ↔
      macrosSelfContained fuel fields = true := by
  induction fuel generalizing fields macros with
  | zero =>
      have hnil : fields = [] := List.length_eq_zero_iff.mp (by omega)
      subst hnil
      exact ⟨fun _ => rfl, fun _ => alone_of_eq (signal macros) fun following residue => rfl⟩
  | succ fuel ih =>
      by_cases hnil : fields = []
      · subst hnil
        exact ⟨fun _ => rfl, fun _ => alone_of_eq (signal macros) fun following residue => rfl⟩
      · rcases null_cases fields with h | ⟨name, after, h, rfl⟩
        · constructor
          · intro halone
            refine absurd halone (not_alone_of_quotedText h .missingNull
              "name isn't terminated by NULL on define macro command" []
              fun following residue => ?_)
            rw [decodeDefineMacrosFrom_of_notMem following residue macros fuel fields hnil h]
            rfl
          · intro hself
            simp [macrosSelfContained, hnil, h] at hself
        · by_cases hne : name = []
          · subst hne
            constructor
            · intro _
              simp [macrosSelfContained]
            · intro _
              refine alone_of_eq (.error .silent) fun following residue => ?_
              rw [List.nil_append, decodeDefineMacrosFrom_empty]
              rfl
          · rcases null_cases after with hafter | ⟨value, after, hvalue, rfl⟩
            · constructor
              · intro halone
                refine absurd halone (not_alone_of_quotedText hafter .missingNull
                  "value isn't terminated by NULL on define macro command" []
                  fun following residue => ?_)
                rw [decodeDefineMacrosFrom_of_notMem_after following residue macros fuel name after
                  h hne hafter]
                rfl
              · intro hself
                rw [macrosSelfContained, head?_append_null _ _ h hne, afterNull_append _ _ h]
                  at hself
                simp [hafter] at hself
            · have hlength : after.length ≤ fuel := by
                simp only [List.length_append, List.length_cons] at hfuel
                omega
              rw [macrosSelfContained_append fuel name value after h hne hvalue, ← ih after
                (macros.insert (normalizeMacroName ⟨name, h⟩) (some ⟨value, hvalue⟩)) hlength]
              simp only [Alone, decodeDefineMacrosFrom_append _ _ _ _ name value after h hne hvalue]

/-- A define-macro command whose context is in the frame and which ends there. -/
def defineMacroSelfContained : Bytes → Bool
  | [] => false
  | context :: fields =>
      match (MilterCommand.ofByte context).filter isMacroContext with
      | some _ => macrosSelfContained fields.length fields
      | none => true

theorem checkMacroContext_of_none {context : UInt8}
    (h : (MilterCommand.ofByte context).filter isMacroContext = none) :
    checkMacroContext context =
      .error (.error ⟨.unknownMacroContext, "unknown macro context", [[context]]⟩) := by
  unfold checkMacroContext
  cases hcommand : MilterCommand.ofByte context with
  | none => rfl
  | some command =>
      rw [hcommand, Option.filter_some] at h
      by_cases hcontext : isMacroContext command = true
      · rw [if_pos hcontext] at h
        cases h
      · simp only
        rw [if_neg hcontext]

theorem checkMacroContext_of_some {context : UInt8} {command : MilterCommand}
    (h : (MilterCommand.ofByte context).filter isMacroContext = some command) :
    checkMacroContext context = .ok command ∧ command.toByte = context := by
  obtain ⟨hcommand, hcontext⟩ := Option.filter_eq_some_iff.mp h
  constructor
  · rw [checkMacroContext, hcommand]
    simp only
    rw [if_pos hcontext]
  · exact MilterCommand.toByte_of_ofByte hcommand

theorem isLocal_decodeDefineMacro (tag : UInt8) (fields : Bytes) (htag : tag ≠ 0) :
    IsLocal decodeDefineMacro (tag :: fields) ↔ defineMacroSelfContained fields = true := by
  match fields with
  | [] =>
      constructor
      · intro halone
        -- the byte behind the frame is taken for the context
        refine absurd halone (not_alone_of_ne [] [1] fun residue residue' heq => ?_)
        have hnull := decodeDefineMacro_of_length_one _ ([tag] : Bytes).length
          (length_string_of_null residue tag [] htag)
        have hone : decodeDefineMacro (.atFrame [tag] [1] residue') ([tag] : Bytes).length =
            .error (.error ⟨.unknownMacroContext, "unknown macro context", [[1]]⟩) := by
          have hlength : (Memory.atFrame [tag] [1] residue').string.length = 2 := by
            simp [Memory.string, Memory.atFrame, CString.ofBytes, CString.length, htag]
          rw [decodeDefineMacro, hlength]
          rfl
        have hne := hnull.symm.trans (heq.trans hone)
        cases hne
      · intro hfalse
        cases hfalse
  | context :: fields =>
      by_cases hcontext : context = 0
      · subst hcontext
        exact ⟨fun _ => rfl, fun _ => alone_of_eq _ fun following residue =>
          decodeDefineMacro_null following residue tag fields htag⟩
      · cases hcommand : (MilterCommand.ofByte context).filter isMacroContext with
        | none =>
            constructor
            · intro _
              rw [defineMacroSelfContained, hcommand]
            · intro _
              refine alone_of_eq (.error (.error ⟨.unknownMacroContext, "unknown macro context",
                [[context]]⟩)) fun following residue => ?_
              rw [decodeDefineMacro_context following residue tag context fields htag hcontext,
                checkMacroContext_of_none hcommand]
              rfl
        | some command =>
            rw [defineMacroSelfContained, hcommand]
            simp only
            rw [← alone_decodeDefineMacrosFrom (fun macros => emit (.defineMacro command macros))
              fields.length fields ∅ (Nat.le_refl _)]
            simp only [IsLocal, Alone,
              decodeDefineMacro_context _ _ tag context fields htag hcontext,
              (checkMacroContext_of_some hcommand).1, decodeDefineMacros, Int.toNat_natCast]
            rfl

/-- The address of a connect command ends in the bytes behind its family. -/
def connectAddressSelfContained (family : UInt8) (fields : Bytes) : Bool :=
  match SocketFamily.ofByte family with
  | some .unknown => isInspectable fields
  | some _ => if fields.length < 2 then isInspectable fields else (fields.drop 2).contains 0
  | none => true

/-- The host name, the family and the address of a connect command end in the bytes. -/
def connectSelfContained (fields : Bytes) : Bool :=
  fields.contains 0 && (fields.head? == some 0 ||
    match afterNull fields with
    | [] => false
    | family :: rest => connectAddressSelfContained family rest)

theorem alone_decodeConnectText {α : Type} (quoted : List Bytes)
    (signal : Bytes × CString → Except Failure α) (fields : Bytes) :
    Alone (fun memory => decodeConnectText memory fields.length quoted >>= signal) fields ↔
      (if fields.length < 2 then isInspectable fields else (fields.drop 2).contains 0) = true := by
  by_cases h : fields.length < 2
  · rw [if_pos h]
    apply alone_iff_isInspectable .shortCommandLength "port number on connect command"
    intro following residue
    rw [decodeConnectText_of_short following residue fields quoted h]
    rfl
  · match fields, h with
    | [], h => exact absurd (by simp) h
    | [_], h => exact absurd (by simp) h
    | a :: b :: rest, h =>
        rw [if_neg h, List.drop_succ_cons, List.drop_succ_cons, List.drop_zero,
          ← alone_decodeNonEmptyValue "address name isn't terminated by NULL on connect command"
            (quoted ++ [[a, b]]) (fun text => signal ([a, b], text)) rest]
        simp only [Alone, decodeConnectText_of_port]
        constructor
        · intro halone following residue following' residue'
          have heq := halone following residue following' residue'
          simpa only [bind_assoc, pure_bind] using heq
        · intro halone following residue following' residue'
          have heq := halone following residue following' residue'
          simpa only [bind_assoc, pure_bind] using heq

theorem alone_decodeConnectAddress {α : Type} (addressText : AddressText) (family : UInt8)
    (hostName : CString) (signal : CString × SocketAddress → Except Failure α) (fields : Bytes) :
    Alone (fun memory =>
        decodeConnectAddress addressText family memory fields.length hostName >>= signal) fields ↔
      connectAddressSelfContained family fields = true := by
  unfold decodeConnectAddress connectAddressSelfContained
  cases SocketFamily.ofByte family with
  | none => exact ⟨fun _ => rfl, fun _ => alone_of_eq _ fun following residue => rfl⟩
  | some family' =>
      cases family' with
      | unknown =>
          by_cases hnil : fields = []
          · subst hnil
            exact ⟨fun _ => rfl, fun _ => alone_of_eq (signal (hostName, .unknown))
              fun following residue => rfl⟩
          · apply alone_iff_isInspectable .longCommandLength "unknown family on connect command"
            intro following residue
            simp only [checkCommandLength_exact, if_neg hnil]
            rfl
      | unix =>
          rw [← alone_decodeConnectText [hostName.bytes, [family]]
            (fun text => do
              let address ← decodeConnectUnixAddress text.2
              signal (hostName, address)) fields]
          simp only [Alone, bind_assoc, pure_bind]
      | inet =>
          rw [← alone_decodeConnectText [hostName.bytes, [family]]
            (fun text => do
              let address ← decodeConnectInetAddress addressText text.2 text.1
                [hostName.bytes, [family]]
              signal (hostName, address)) fields]
          simp only [Alone, bind_assoc, pure_bind]
      | inet6 =>
          rw [← alone_decodeConnectText [hostName.bytes, [family]]
            (fun text => do
              let address ← decodeConnectInet6Address addressText text.2 text.1
                [hostName.bytes, [family]]
              signal (hostName, address)) fields]
          simp only [Alone, bind_assoc, pure_bind]

theorem alone_decodeConnectContent {α : Type} (addressText : AddressText)
    (signal : CString × SocketAddress → Except Failure α) (fields : Bytes) :
    Alone (fun memory => decodeConnectContent addressText memory fields.length >>= signal) fields ↔
      connectSelfContained fields = true := by
  rcases null_cases fields with h | ⟨host, after, h, rfl⟩
  · constructor
    · intro halone
      refine absurd halone (not_alone_of_quotedText h .missingNull
        "host name isn't terminated by NULL on connect command" [] fun following residue => ?_)
      rw [decodeConnectContent_of_notMem addressText following residue fields h]
      rfl
    · intro hself
      simp [connectSelfContained, h] at hself
  · by_cases hne : host = []
    · subst hne
      constructor
      · intro _
        simp [connectSelfContained]
      · intro _
        refine alone_of_eq (.error .silent) fun following residue => ?_
        rw [List.nil_append, decodeConnectContent_empty]
        rfl
    · rw [connectSelfContained, head?_append_null _ _ h hne, afterNull_append _ _ h]
      match after with
      | [] =>
          constructor
          · intro halone
            -- the byte behind the frame is taken for the family
            refine absurd halone (not_alone_of_ne [] [1] fun residue residue' heq => ?_)
            simp only [decodeConnectContent_host addressText [] residue host 0 h hne rfl rfl,
              decodeConnectContent_host addressText [1] residue' host 1 h hne rfl rfl] at heq
            cases heq
          · intro hfalse
            simp at hfalse
      | family :: fields =>
          have hself : ((host ++ 0 :: family :: fields).contains 0 &&
              (false || connectAddressSelfContained family fields)) =
                connectAddressSelfContained family fields := by
            simp
          rw [hself, ← alone_decodeConnectAddress addressText family ⟨host, h⟩ signal fields]
          simp only [Alone, decodeConnectContent_family addressText _ _ host family fields h hne]

theorem isLocal_decodeConnect (addressText : AddressText) (tag : UInt8) (fields : Bytes) :
    IsLocal (decodeConnect addressText) (tag :: fields) ↔ connectSelfContained fields = true := by
  rw [← alone_decodeConnectContent addressText (fun content =>
    emit (CommandSignal.connect content.1 content.2)) fields]
  simp only [IsLocal, Alone, decodeConnect, length_fields, Memory.advance_atFrame_cons]

theorem isLocal_decodeEndOfMessage (tag : UInt8) (fields : Bytes) :
    IsLocal decodeEndOfMessage (tag :: fields) ↔ (fields == [] || fields.contains 0) = true := by
  by_cases hnil : fields = []
  · subst hnil
    exact ⟨fun _ => rfl, fun _ => alone_of_eq (emit (.endOfMessage none 0))
      fun following residue => rfl⟩
  · have hsignal : Function.Injective fun text : CString =>
        emit (CommandSignal.endOfMessage (some text.bytes) fields.length) := by
      intro text text' heq
      have hinj := CommandSignal.endOfMessage.inj (Emission.mk.inj (Except.ok.inj heq)).1
      exact CString.ext (Option.some.inj hinj.1)
    have hor : (fields == [] || fields.contains 0) = fields.contains 0 := by
      simp [hnil]
    rw [hor, ← alone_string _ hsignal fields]
    simp only [IsLocal, Alone, decodeEndOfMessage_atFrame _ _ tag fields hnil]

/-- The frames on which a command handler reads nothing behind the frame: every C string it takes or
measures ends in the frame, and an error about a length has no text to quote on. -/
def selfContained : Bytes → Bool
  | [] => false
  | tag :: fields =>
      match MilterCommand.ofByte tag with
      | some .negotiate => isInspectable (negotiateExcess fields)
      | some .defineMacro => fields.contains 0 && defineMacroSelfContained fields
      | some .connect => connectSelfContained fields
      | some .helo | some .envelopeFrom | some .envelopeRecipient | some .unknown | some .body =>
          fields.contains 0
      | some .data | some .endOfHeader | some .abort | some .quit => isInspectable fields
      | some .header => hasNameAndValue fields
      | some .endOfMessage => fields == [] || fields.contains 0
      | some .quitNewConnection | none => true

section Scan

variable {tag : UInt8} {fields : Bytes}

theorem scansWithin_of_ne (h : MilterCommand.ofByte tag ≠ some .defineMacro) :
    ScansWithin scan (tag :: fields) := by
  apply alone_of_eq (.ok none)
  intro following residue
  exact congrArg Except.ok (if_neg h)

theorem scansWithin_of_defineMacro (h : MilterCommand.ofByte tag = some .defineMacro) :
    ScansWithin scan (tag :: fields) ↔ fields.contains 0 = true := by
  have htag : tag ≠ 0 := by
    rw [← MilterCommand.toByte_of_ofByte h]
    exact MilterCommand.toByte_ne_zero _
  have hcontains : (tag :: fields).contains 0 = fields.contains 0 := by
    simp [htag.symm]
  have hscan : ∀ following residue, scan (.atFrame (tag :: fields) following residue) =
      some (Memory.atFrame (tag :: fields) following residue).string :=
    fun following residue => if_pos h
  rw [← hcontains, ← alone_string (fun text => .ok (some text)) _ (tag :: fields)]
  · simp only [ScansWithin, Alone, hscan]
  · intro text text' heq
    exact Option.some.inj (Except.ok.inj heq)

end Scan

/-- The frames behind which nothing is read are exactly these. -/
theorem isLocal_decode (addressText : AddressText) (frame : Bytes) :
    IsLocal (decode addressText) frame ∧ ScansWithin scan frame ↔ selfContained frame = true := by
  match frame with
  | [] =>
      constructor
      · rintro ⟨halone, -⟩
        refine absurd halone (not_alone_of_ne [] [1] fun residue residue' heq => ?_)
        cases heq
      · intro hfalse
        cases hfalse
  | tag :: fields =>
      have hget : ∀ following residue,
          (Memory.atFrame (tag :: fields) following residue).get 0 = tag := fun _ _ => rfl
      by_cases hdefine : MilterCommand.ofByte tag = some .defineMacro
      · have htag : tag ≠ 0 := by
          rw [← MilterCommand.toByte_of_ofByte hdefine]
          exact MilterCommand.toByte_ne_zero _
        have hlocal : IsLocal (decode addressText) (tag :: fields) ↔
            IsLocal decodeDefineMacro (tag :: fields) := isLocal_congr fun following residue => by
          rw [decode, hget, hdefine]
        rw [hlocal, isLocal_decodeDefineMacro tag fields htag, scansWithin_of_defineMacro hdefine,
          selfContained, hdefine]
        simp only [Bool.and_eq_true]
        exact and_comm
      rw [and_iff_left (scansWithin_of_ne hdefine)]
      cases hcommand : MilterCommand.ofByte tag with
      | none =>
          simp only [selfContained, hcommand, iff_true]
          refine alone_of_eq (.error (.error ⟨.unexpectedCommand, "unexpected command was received",
            [[tag]]⟩)) fun following residue => ?_
          rw [decode, hget, hcommand]
      | some command =>
          rw [selfContained, hcommand]
          have hdispatch : ∀ handler : Handler CommandSignal,
              (∀ memory length, MilterCommand.ofByte (memory.get 0) = some command →
                decode addressText memory length = handler memory length) →
              (IsLocal (decode addressText) (tag :: fields) ↔ IsLocal handler (tag :: fields)) :=
            fun handler hhandler => isLocal_congr fun following residue => hhandler _ _ hcommand
          cases command with
          | negotiate =>
              rw [hdispatch decodeNegotiate fun memory length h => by rw [decode, h]]
              exact isLocal_decodeNegotiate tag fields
          | defineMacro => exact absurd hcommand hdefine
          | connect =>
              rw [hdispatch (decodeConnect addressText) fun memory length h => by rw [decode, h]]
              exact isLocal_decodeConnect addressText tag fields
          | helo =>
              rw [hdispatch decodeHelo fun memory length h => by rw [decode, h]]
              exact isLocal_decodeText _ _ tag fields
          | envelopeFrom =>
              rw [hdispatch decodeEnvelopeFrom fun memory length h => by rw [decode, h]]
              exact isLocal_decodeText _ _ tag fields
          | envelopeRecipient =>
              rw [hdispatch decodeEnvelopeRecipient fun memory length h => by rw [decode, h]]
              exact isLocal_decodeText _ _ tag fields
          | unknown =>
              rw [hdispatch decodeUnknown fun memory length h => by rw [decode, h]]
              exact isLocal_decodeText _ _ tag fields
          | data =>
              rw [hdispatch decodeData fun memory length h => by rw [decode, h]]
              exact isLocal_decodeSimple _ _ tag fields
          | endOfHeader =>
              rw [hdispatch decodeEndOfHeader fun memory length h => by rw [decode, h]]
              exact isLocal_decodeSimple _ _ tag fields
          | abort =>
              rw [hdispatch decodeAbort fun memory length h => by rw [decode, h]]
              exact isLocal_decodeSimple _ _ tag fields
          | quit =>
              rw [hdispatch decodeQuit fun memory length h => by rw [decode, h]]
              exact isLocal_decodeSimple _ _ tag fields
          | header =>
              rw [hdispatch decodeHeader fun memory length h => by rw [decode, h]]
              exact isLocal_decodeNameAndValue _ tag fields
          | body =>
              rw [hdispatch decodeBody fun memory length h => by rw [decode, h]]
              exact isLocal_decodeChunk _ (fun _ _ _ h => (CommandSignal.body.inj h).1) tag fields
          | endOfMessage =>
              rw [hdispatch decodeEndOfMessage fun memory length h => by rw [decode, h]]
              exact isLocal_decodeEndOfMessage tag fields
          | quitNewConnection =>
              refine ⟨fun _ => rfl, fun _ => alone_of_eq (.error (.error ⟨.unexpectedCommand,
                "unexpected command was received", [[tag]]⟩)) fun following residue => ?_⟩
              rw [decode, hget, hcommand]

end MilterManager.Codec.CommandDecoder
