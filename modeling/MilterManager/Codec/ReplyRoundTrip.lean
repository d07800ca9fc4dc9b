import MilterManager.Base.Table
import MilterManager.Codec.ReplyEncoder
import MilterManager.Codec.ReplyFields
import MilterManager.Codec.ReplyLocality
import MilterManager.Codec.Sequence
import MilterManager.Core.ReplyCode

/-!
# Replies that are read back

What the encoder of replies packs is signalled by the decoder of replies as the same reply with the
same arguments, for the arguments that the protocol carries.
-/

namespace MilterManager.Codec.ReplyEncoder

open MilterManager.Base MilterManager.Core ReplyDecoder

/-- The symbols of a stage as they are sent. -/
def joinedSymbols (symbols : List CString) : Bytes := [32].intercalate (symbols.map CString.bytes)

/-- Whether symbols can be told apart again. -/
def isSymbolList (symbols : List CString) : Bool :=
  joinedSymbols symbols != [] && symbols.all fun symbol => !symbol.bytes.contains 32

/-- Whether a text is a reply code with nothing or a space behind it. -/
def isReplyText (text : Bytes) : Bool :=
  isReplyCode text && (text.length == 3 || text[3]? == some 32)

/-- The arguments of a reply that the protocol carries. -/
def Carried : Reply → Prop
  | .negotiate option macrosRequests =>
      option.version < 0x100000000 ∧ ∀ requests, macrosRequests = some requests →
        requests ≠ ∅ ∧ ∀ command symbols, requests.lookup command = some symbols →
          (commandToMacroStage command).isSome = true ∧ isSymbolList symbols = true
  | .replyCode code => isReplyText code.bytes = true
  | .addHeader name _ | .changeHeader name _ _ | .deleteHeader name _ => name.bytes ≠ []
  | .insertHeader _ name value => name.bytes ≠ [] ∧ value ≠ some .empty
  | .changeFrom text parameters | .addRecipient text parameters =>
      text.bytes ≠ [] ∧ parameters ≠ some .empty
  | .deleteRecipient text | .quarantine text => text.bytes ≠ []
  | .replaceBody body => body ≠ [] ∧ body.length ≤ chunkSize ∧ 0 ∉ body
  | .continue | .temporaryFailure | .reject | .accept | .discard | .progress | .connectionFailure
  | .shutdown | .skip => True

/-- The code, the extended code and the message of a text; a space is between two of them. -/
structure Spells (text : Bytes) (code : Nat) (extendedCode : CString) (message : Option CString) :
    Prop where
  space : 32 ∉ extendedCode.bytes
  text : text = replyDigits code ++ 32 :: (extendedCode.bytes ++
      message.elim [] fun message => 32 :: message.bytes) ∨
    text = replyDigits code ∧ extendedCode = .empty ∧ message = none

/-- The signal of a reply with the same arguments; a change to an empty value is a deletion. -/
def SignalOf : Reply → ReplySignal → Prop
  | .negotiate option macrosRequests, signal => signal = .negotiateReply option macrosRequests
  | .continue, signal => signal = .continue
  | .replyCode text, signal => ∃ code extendedCode message,
      signal = .replyCode code extendedCode message ∧
        Spells text.bytes code extendedCode message
  | .temporaryFailure, signal => signal = .temporaryFailure
  | .reject, signal => signal = .reject
  | .accept, signal => signal = .accept
  | .discard, signal => signal = .discard
  | .addHeader name value, signal => signal = .addHeader name value
  | .insertHeader index name value, signal => signal = .insertHeader index name value
  | .changeHeader name index value, signal =>
      signal = if value = .empty then .deleteHeader name index else .changeHeader name index value
  | .deleteHeader name index, signal => signal = .deleteHeader name index
  | .changeFrom sender parameters, signal => signal = .changeFrom sender parameters
  | .addRecipient recipient parameters, signal => signal = .addRecipient recipient parameters
  | .deleteRecipient recipient, signal => signal = .deleteRecipient recipient
  | .replaceBody body, signal => signal = .replaceBody body body.length
  | .progress, signal => signal = .progress
  | .quarantine reason, signal => signal = .quarantine reason
  | .connectionFailure, signal => signal = .connectionFailure
  | .shutdown, signal => signal = .shutdown
  | .skip, signal => signal = .skip

section Negotiate

theorem bytes_flatMap (symbol : CString) (symbols : List CString) :
    symbol.bytes ++ symbols.flatMap (fun symbol => 32 :: symbol.bytes) =
      joinedSymbols (symbol :: symbols) := by
  unfold joinedSymbols
  induction symbols generalizing symbol with
  | nil => simp
  | cons next symbols ih =>
      rw [List.flatMap_cons, List.cons_append, ih next, List.map_cons, List.map_cons,
        List.map_cons, List.intercalate_cons_cons, List.append_assoc]
      rfl

theorem null_notMem_joinedSymbols (symbols : List CString) : 0 ∉ joinedSymbols symbols := by
  cases symbols with
  | nil => simp [joinedSymbols]
  | cons symbol symbols =>
      rw [← bytes_flatMap]
      intro hmem
      rcases List.mem_append.mp hmem with hmem | hmem
      · exact symbol.noNull hmem
      · obtain ⟨other, -, hother⟩ := List.mem_flatMap.mp hmem
        rcases List.mem_cons.mp hother with h | h
        · cases h
        · exact other.noNull h

/-- The symbols are told apart at the spaces. -/
theorem splitSymbols_joinedSymbols (symbols : List CString) (hnull : 0 ∉ joinedSymbols symbols)
    (h : isSymbolList symbols = true) : splitSymbols ⟨joinedSymbols symbols, hnull⟩ = symbols := by
  simp only [isSymbolList, Bool.and_eq_true, bne_iff_ne, List.all_eq_true, Bool.not_eq_true',
    List.contains_eq_mem, decide_eq_false_iff_not] at h
  obtain ⟨hjoined, hspace⟩ := h
  have hne : symbols.map CString.bytes ≠ [] := by
    intro hnil
    apply hjoined
    rw [joinedSymbols, hnil]
    rfl
  have hsplit : (joinedSymbols symbols).splitOn 32 = symbols.map CString.bytes := by
    apply List.splitOn_intercalate
    · intro bytes hbytes
      obtain ⟨symbol, hsymbol, rfl⟩ := List.mem_map.mp hbytes
      exact hspace symbol hsymbol
    · exact hne
  rw [splitSymbols, hsplit, List.map_map]
  apply List.map_id''
  intro symbol
  exact CString.ofBytes_bytes symbol

theorem commandToMacroStage_lt {command : MilterCommand} {stage : Nat}
    (h : commandToMacroStage command = some stage) : stage < 7 := by
  cases command <;> cases h <;> decide

theorem macroStageToCommand_of {command : MilterCommand} {stage : Nat}
    (h : commandToMacroStage command = some stage) : macroStageToCommand stage = some command := by
  cases command <;> cases h <;> rfl

/-- The symbols of a command in the table. -/
def symbolsOf (requests : MacrosRequests) (command : MilterCommand) : List CString :=
  (requests.lookup command).getD []

/-- The bytes of a command of the table. -/
def requestBytes (requests : MacrosRequests) (command : MilterCommand) : Bytes :=
  bigEndian ((commandToMacroStage command).getD 0) ++
    (joinedSymbols (symbolsOf requests command) ++ [0])

variable (requests : MacrosRequests)
  (hrequests : ∀ command symbols, requests.lookup command = some symbols →
    (commandToMacroStage command).isSome = true ∧ isSymbolList symbols = true)

include hrequests in
theorem symbolsOf_of_mem {command : MilterCommand} (h : command ∈ requests) :
    requests.lookup command = some (symbolsOf requests command) ∧
      (commandToMacroStage command).isSome = true ∧
      isSymbolList (symbolsOf requests command) = true := by
  obtain ⟨symbols, hsymbols⟩ := Option.isSome_iff_exists.mp (Finmap.lookup_isSome.mpr h)
  have heq : symbolsOf requests command = symbols := by rw [symbolsOf, hsymbols, Option.getD_some]
  rw [heq]
  exact ⟨hsymbols, hrequests command symbols hsymbols⟩

include hrequests in
theorem encodeMacrosRequest_of_mem {command : MilterCommand} (h : command ∈ requests) :
    encodeMacrosRequest command (symbolsOf requests command) =
      some (requestBytes requests command) := by
  obtain ⟨-, hstage, hlist⟩ := symbolsOf_of_mem requests hrequests h
  obtain ⟨stage, hstage⟩ := Option.isSome_iff_exists.mp hstage
  rw [encodeMacrosRequest, requestBytes, hstage]
  cases hsymbols : symbolsOf requests command with
  | nil =>
      rw [hsymbols] at hlist
      cases hlist
  | cons symbol symbols =>
      simp only [bytes_flatMap, Option.getD_some, List.append_assoc]

include hrequests in
theorem foldlM_appendMacrosRequest (commands : List MilterCommand) (encoded : Bytes)
    (hcommands : ∀ command ∈ commands, command ∈ requests) :
    commands.foldlM (appendMacrosRequest requests) encoded =
      some (encoded ++ commands.flatMap (requestBytes requests)) := by
  induction commands generalizing encoded with
  | nil =>
      rw [List.flatMap_nil, List.append_nil]
      rfl
  | cons command commands ih =>
      obtain ⟨hcommand, hcommands⟩ := List.forall_mem_cons.mp hcommands
      have hstep : appendMacrosRequest requests encoded command =
          some (encoded ++ requestBytes requests command) := by
        rw [appendMacrosRequest, (symbolsOf_of_mem requests hrequests hcommand).1]
        simp only [encodeMacrosRequest_of_mem requests hrequests hcommand, Option.map_some]
      rw [List.foldlM_cons, hstep, List.flatMap_cons, ← List.append_assoc]
      exact ih _ hcommands

include hrequests in
theorem encodeMacrosRequests_eq (order : RequestsOrder) :
    encodeMacrosRequests order requests =
      some ((order.commands requests).flatMap (requestBytes requests)) := by
  rw [encodeMacrosRequests, foldlM_appendMacrosRequest requests hrequests _ _ fun command =>
    (order.mem_commands requests command).mp, List.nil_append]

include hrequests in
/-- The loop reads the stages one by one. -/
theorem decodeMacrosRequestsFrom_requestBytes (commands : List MilterCommand) (fuel : Nat)
    (following : Bytes) (residue : Nat → UInt8) (decoded : MacrosRequests)
    (hcommands : ∀ command ∈ commands, command ∈ requests)
    (hfuel : (commands.flatMap (requestBytes requests)).length ≤ fuel) :
    decodeMacrosRequestsFrom fuel
        (.atFrame (commands.flatMap (requestBytes requests)) following residue)
        (commands.flatMap (requestBytes requests)).length decoded =
      .ok (commands.foldl
        (fun decoded command => decoded.insert command (symbolsOf requests command)) decoded) := by
  induction commands generalizing fuel decoded with
  | nil =>
      cases fuel with
      | zero => rfl
      | succ rounds => rfl
  | cons command commands ih =>
      obtain ⟨hcommand, hcommands⟩ := List.forall_mem_cons.mp hcommands
      obtain ⟨-, hstage, hlist⟩ := symbolsOf_of_mem requests hrequests hcommand
      obtain ⟨stage, hstage⟩ := Option.isSome_iff_exists.mp hstage
      have hnull := null_notMem_joinedSymbols (symbolsOf requests command)
      have hne : joinedSymbols (symbolsOf requests command) ≠ [] := by
        simp only [isSymbolList, Bool.and_eq_true, bne_iff_ne] at hlist
        exact hlist.1
      have hentry : (command :: commands).flatMap (requestBytes requests) =
          bigEndian stage ++ (joinedSymbols (symbolsOf requests command) ++
            0 :: commands.flatMap (requestBytes requests)) := by
        rw [List.flatMap_cons, requestBytes, hstage]
        simp
      rw [hentry] at hfuel ⊢
      have hpos : ∃ rounds, fuel = rounds + 1 := by
        refine ⟨fuel - 1, ?_⟩
        simp only [List.length_append, List.length_cons] at hfuel
        omega
      obtain ⟨rounds, rfl⟩ := hpos
      have hword : ofBigEndian (bigEndian stage) = stage := by
        apply ofBigEndian_bigEndian
        have := commandToMacroStage_lt hstage
        omega
      rw [decodeMacrosRequestsFrom_stage following residue decoded rounds (bigEndian stage) rfl,
        decodeNonEmptyValue_append _ _ _ _ _ _ hnull hne, hword, macroStageToCommand_of hstage,
        Memory.string_atFrame_append _ _ _ _ hnull, splitSymbols_joinedSymbols _ hnull hlist]
      simp only [bind, Except.bind]
      rw [Memory.advance_atFrame_append, length_after, List.foldl_cons]
      apply ih
      · exact hcommands
      · simp only [List.length_append, List.length_cons] at hfuel
        omega

include hrequests in
/-- The table is read back. -/
theorem decodeMacrosRequests_encode (order : RequestsOrder) (hne : requests ≠ ∅)
    (following : Bytes) (residue : Nat → UInt8) :
    decodeMacrosRequests
        (.atFrame ((order.commands requests).flatMap (requestBytes requests)) following residue)
        ((order.commands requests).flatMap (requestBytes requests)).length =
      .ok (some requests) := by
  have hfold : (order.commands requests).foldl
      (fun decoded command => decoded.insert command (symbolsOf requests command)) ∅ = requests :=
    foldl_insert_empty requests _ (symbolsOf requests) (order.mem_commands requests)
      fun command hcommand => (symbolsOf_of_mem requests hrequests hcommand).1
  have hlength : ((order.commands requests).flatMap (requestBytes requests)).length ≠ 0 := by
    cases hcommands : order.commands requests with
    | nil =>
        rw [hcommands] at hfold
        exact absurd hfold.symm hne
    | cons command commands =>
        rw [List.flatMap_cons, requestBytes]
        simp
  rw [decodeMacrosRequests, if_neg (by omega), Int.toNat_natCast,
    decodeMacrosRequestsFrom_requestBytes requests hrequests _ _ following residue ∅
      (fun command => (order.mem_commands requests command).mp) (Nat.le_refl _), hfold]
  rfl

end Negotiate

section ReplyCode

/-- The digits of a reply code are those of its number. -/
theorem replyDigits_replyCodeOf (a b c : UInt8) (h : isReplyCode [a, b, c] = true) :
    replyDigits (replyCodeOf [a, b, c]) = [a, b, c] ∧ 400 ≤ replyCodeOf [a, b, c] ∧
      replyCodeOf [a, b, c] < 600 := by
  simp only [isReplyCode, isDigit, Bool.and_eq_true, Bool.or_eq_true, beq_iff_eq,
    decide_eq_true_eq] at h
  obtain ⟨⟨ha, hb, hb'⟩, hc, hc'⟩ := h
  have hbound : ∀ {x : UInt8}, 48 ≤ x → x ≤ 57 → 48 ≤ x.toNat ∧ x.toNat ≤ 57 := fun h h' =>
    ⟨UInt8.le_iff_toNat_le.mp h, UInt8.le_iff_toNat_le.mp h'⟩
  obtain ⟨hblow, hbhigh⟩ := hbound hb hb'
  obtain ⟨hclow, hchigh⟩ := hbound hc hc'
  have hanat : a.toNat = 52 ∨ a.toNat = 53 := by
    rcases ha with rfl | rfl
    · exact Or.inl rfl
    · exact Or.inr rfl
  have hcode : replyCodeOf [a, b, c] =
      (a.toNat - 48) * 100 + (b.toNat - 48) * 10 + (c.toNat - 48) := by
    simp only [replyCodeOf, List.foldl_cons, List.foldl_nil]
    omega
  have hbyte : ∀ (x : UInt8) (n : Nat), n = x.toNat → UInt8.ofNat n = x := by
    rintro x n rfl
    exact UInt8.ofNat_toNat
  rw [hcode]
  refine ⟨?_, by omega, by omega⟩
  rw [replyDigits, hbyte a, hbyte b, hbyte c]
  · omega
  · omega
  · omega

/-- What the decoder reads from the text of a reply code. -/
theorem emits_decodeReplyReplyCode {tag : UInt8} (text : CString)
    (h : isReplyText text.bytes = true) :
    ∃ code extendedCode message, Spells text.bytes code extendedCode message ∧
      Emits decodeReplyReplyCode (tag :: (text.bytes ++ [0]))
        (.replyCode code extendedCode message) := by
  have hnull := text.noNull
  generalize text.bytes = bytes at h hnull
  match bytes, h with
  | a :: b :: c :: rest, h =>
      simp only [isReplyText, Bool.and_eq_true, Bool.or_eq_true, beq_iff_eq] at h
      obtain ⟨hcode, hrest⟩ := h
      have hfields : isReplyCode (a :: b :: c :: rest ++ [0]) = true := hcode
      obtain ⟨hdigits, -, -⟩ := replyDigits_replyCodeOf a b c hcode
      have hspells : ∀ bytes, a :: b :: c :: bytes = replyDigits (replyCodeOf [a, b, c]) ++ bytes :=
        fun bytes => by
          rw [hdigits]
          rfl
      cases rest with
      | nil =>
          refine ⟨replyCodeOf [a, b, c], .empty, none, ?_, ?_⟩
          · exact ⟨List.not_mem_nil, Or.inr ⟨hdigits.symm, rfl, rfl⟩⟩
          · intro following residue
            exact decodeReplyReplyCode_noMessage following residue tag _ [] [] hfields rfl
              (by decide) List.not_mem_nil
      | cons d rest =>
          have hd : d = 32 := by
            rcases hrest with hlength | hspace
            · simp at hlength
            · simpa using hspace
          subst hd
          have hrestNull : 0 ∉ rest := by
            intro hmem
            apply hnull
            simp [hmem]
          have hbehind : behindCode (a :: b :: c :: 32 :: rest ++ [0]) = rest ++ [0] := rfl
          by_cases hmem : 32 ∈ rest
          · obtain ⟨first, message, rfl, hfirst⟩ := List.eq_append_cons_of_mem hmem
            have hfirstNull : 0 ∉ first := fun h => hrestNull (List.mem_append_left _ h)
            have hmessageNull : 0 ∉ message := fun h =>
              hrestNull (List.mem_append_right _ (List.mem_cons_of_mem _ h))
            refine ⟨replyCodeOf [a, b, c], ⟨first, hfirstNull⟩, some ⟨message, hmessageNull⟩,
              ⟨hfirst, Or.inl (hspells _)⟩, ?_⟩
            intro following residue
            apply decodeReplyReplyCode_message following residue tag _ first message [] hfields
            · rw [hbehind, List.append_assoc, List.cons_append]
            · exact hfirst
          · refine ⟨replyCodeOf [a, b, c], ⟨rest, hrestNull⟩, none, ⟨hmem, Or.inl ?_⟩, ?_⟩
            · rw [hspells]
              simp
            · intro following residue
              apply decodeReplyReplyCode_noMessage following residue tag _ rest [] hfields hbehind
              simp [hmem]

end ReplyCode

section Emits

/-- The byte of the reply decides which handler reads the frame. -/
theorem decode_of_handlerOf (reply : MilterReply) {handler : Handler ReplySignal}
    (hreply : handlerOf reply = some handler) (fields following : Bytes) (residue : Nat → UInt8)
    (length : Int) :
    decode (.atFrame (reply.toByte :: fields) following residue) length =
      handler (.atFrame (reply.toByte :: fields) following residue) length := by
  have hget : (Memory.atFrame (reply.toByte :: fields) following residue).get 0 = reply.toByte :=
    rfl
  have hother : reply.toByte ≠ MilterCommand.negotiate.toByte := by
    cases reply <;> decide
  rw [decode, hget, if_neg hother, MilterReply.ofByte_toByte, Option.bind_some, hreply]

theorem emits_of_handlerOf (reply : MilterReply) {handler : Handler ReplySignal}
    (hreply : handlerOf reply = some handler) {fields : Bytes} {signal : ReplySignal}
    (h : Emits handler (reply.toByte :: fields) signal) :
    Emits decode (reply.toByte :: fields) signal := by
  intro following residue
  rw [decode_of_handlerOf reply hreply]
  exact h following residue

theorem emits_decodeReplyNegotiate (option : MilterOption) (macrosRequests : Option MacrosRequests)
    (encoded : Bytes) (hversion : option.version < 0x100000000)
    (h : ∀ following residue, decodeMacrosRequests (.atFrame encoded following residue)
      encoded.length = .ok macrosRequests) :
    Emits decode (MilterCommand.negotiate.toByte :: (bigEndian option.version ++
      bigEndian option.action.toNat ++ bigEndian option.step.toNat ++ encoded))
      (.negotiateReply option macrosRequests) := by
  intro following residue
  have hoption := optionOf_bytes option hversion encoded
  have hlength : 12 ≤ (bigEndian option.version ++ bigEndian option.action.toNat ++
      bigEndian option.step.toNat ++ encoded).length := by
    simp only [List.length_append, length_bigEndian]
    omega
  have htail : ∀ memory length, decodeReplyNegotiate memory length =
      decodeNegotiate memory length >>=
        negotiateTail (memory.advance negotiateLength) (length - negotiateLength) :=
    fun memory length => rfl
  have hrest := decodeNegotiate_rest MilterCommand.negotiate.toByte negotiateTail htail
    (bigEndian option.version ++ bigEndian option.action.toNat ++
      bigEndian option.step.toNat ++ encoded) hlength following residue
  have hcheck := checkCommandLength_atLeast following residue "option negotiation command" encoded 0
  have hdrop : (bigEndian option.version ++ bigEndian option.action.toNat ++
      bigEndian option.step.toNat ++ encoded).drop 12 = encoded := rfl
  rw [hoption, hdrop, negotiateTail, show (0 : Int) = ((0 : Nat) : Int) from rfl, hcheck,
    if_pos (Nat.zero_le _), h following residue] at hrest
  exact hrest

theorem emits_encodedIndex {tag : UInt8} {handler : Handler ReplySignal} {signal : ReplySignal}
    (name value : CString) (index : UInt32) (hname : name.bytes ≠ [])
    (hhandler : ∀ memory length, decodeHeaderContentWithIndex (memory.advance 1) (length + 1) =
        .ok (index, name, if value = .empty then none else some value) →
      handler memory length = emit signal) :
    Emits handler (tag :: (bigEndian index.toNat ++ (name.bytes ++ 0 :: (value.bytes ++ [0]))))
      signal := by
  intro following residue
  have hcontent := decodeHeaderContentWithIndex_append following residue (bigEndian index.toNat)
    rfl 2 name.bytes value.bytes [] name.noNull hname value.noNull
  have hindex : UInt32.ofNat (ofBigEndian (bigEndian index.toNat)) = index := by
    rw [ofBigEndian_bigEndian _ index.toNat_lt, UInt32.ofNat_toNat]
  have hvalue : (if value.bytes = [] then none else some ⟨value.bytes, value.noNull⟩) =
      if value = .empty then none else some value := by
    by_cases hnil : value.bytes = []
    · rw [if_pos hnil, if_pos (CString.ext hnil)]
    · rw [if_neg hnil, if_neg fun heq => hnil (congrArg CString.bytes heq)]
  rw [hindex, hvalue] at hcontent
  apply hhandler
  rw [Memory.advance_atFrame_cons]
  convert hcontent using 2
  rw [List.length_cons]
  omega

theorem emits_decodeReplyInsertHeader (index : UInt32) (name value : CString)
    (hname : name.bytes ≠ []) :
    Emits decodeReplyInsertHeader (MilterReply.insertHeader.toByte ::
      (bigEndian index.toNat ++ (name.bytes ++ 0 :: (value.bytes ++ [0]))))
      (.insertHeader index name (if value = .empty then none else some value)) := by
  apply emits_encodedIndex name value index hname
  intro memory length hcontent
  rw [decodeReplyInsertHeader, hcontent]
  rfl

theorem emits_decodeReplyChangeHeader (name : CString) (index : UInt32) (value : CString)
    (hname : name.bytes ≠ []) :
    Emits decodeReplyChangeHeader (MilterReply.changeHeader.toByte ::
      (bigEndian index.toNat ++ (name.bytes ++ 0 :: (value.bytes ++ [0]))))
      (if value = .empty then .deleteHeader name index else .changeHeader name index value) := by
  apply emits_encodedIndex name value index hname
  intro memory length hcontent
  rw [decodeReplyChangeHeader, hcontent]
  by_cases hnil : value = .empty
  · simp only [if_pos hnil]
    rfl
  · simp only [if_neg hnil]
    rfl

section TwoString

variable {tag : UInt8} {handler : Handler ReplySignal}
  {signal : CString → Option CString → ReplySignal} {firstMessage secondMessage : String}
  (hhandler : ∀ memory length, handler memory length = (do
    let (first, second) ← decodeTwoString (Memory.advance memory 1) (length - 1) firstMessage
      secondMessage
    emit (signal first second)))
  (first : CString) (hfirst : first.bytes ≠ [])

include hhandler hfirst in
theorem emits_one : Emits handler (tag :: (first.bytes ++ [0])) (signal first none) := by
  intro following residue
  rw [hhandler, length_fields, Memory.advance_atFrame_cons,
    decodeTwoString_one following residue _ _ first.bytes first.noNull hfirst]
  rfl

include hhandler hfirst in
theorem emits_two (second : CString) (hsecond : second.bytes ≠ []) :
    Emits handler (tag :: (first.bytes ++ 0 :: (second.bytes ++ [0])))
      (signal first (some second)) := by
  intro following residue
  rw [hhandler, length_fields, Memory.advance_atFrame_cons,
    decodeTwoString_append following residue _ _ first.bytes second.bytes [] first.noNull hfirst
      second.noNull hsecond]
  rfl

end TwoString

theorem emits_decodeReplyAddRecipient (recipient : CString) :
    Emits decodeReplyAddRecipient (MilterReply.addRecipient.toByte :: (recipient.bytes ++ [0]))
      (.addRecipient recipient none) := by
  intro following residue
  exact decodeReplyAddRecipient_append following residue _ recipient.bytes [] recipient.noNull

theorem encodeReplyHeader_packet (encoder : Encoder) (reply : MilterReply) (name : CString)
    (value : Option CString) (index : UInt32) (hname : name.bytes ≠ [])
    (hreply : reply ≠ .addHeader) :
    (encodeReplyHeader encoder reply name value index).2 =
      .packet (frame (reply.toByte :: (bigEndian index.toNat ++ (name.bytes ++ 0 ::
        ((value.getD .empty).bytes ++ [0]))))) := by
  have hvalue : value.elim [] CString.bytes = (value.getD .empty).bytes := by
    cases value <;> rfl
  rw [encodeReplyHeader, if_neg hname]
  simp only [if_pos hreply, hvalue]
  rfl

theorem encodeText_packet (encoder : Encoder) (reply : MilterReply) (text : CString)
    (h : text.bytes ≠ []) :
    (encodeText encoder reply text).2 =
      .packet (frame (reply.toByte :: (text.bytes ++ [0]))) := by
  rw [encodeText, if_neg h]
  rfl

section Content

variable (order : RequestsOrder) (encoder : Encoder)

/-- The packet of a reply holds a content that is signalled as that reply. -/
def IsSignalled (reply : Reply) : Prop :=
  ∃ content signal, (encode encoder order reply).2 = .packet (frame content) ∧
    SignalOf reply signal ∧ EmitsBeforeNull decode content signal

theorem isSignalled_negotiate (option : MilterOption) (macrosRequests : Option MacrosRequests)
    (hcarried : Carried (.negotiate option macrosRequests)) (hfirst : encoder.buffer = []) :
    IsSignalled order encoder (.negotiate option macrosRequests) := by
  obtain ⟨buffer⟩ := encoder
  obtain rfl : buffer = [] := hfirst
  obtain ⟨hversion, hrequests⟩ := hcarried
  cases macrosRequests with
  | none =>
      have hemits := emits_decodeReplyNegotiate option none [] hversion fun _ _ => rfl
      exact ⟨_, _, rfl, rfl, hemits.beforeNull⟩
  | some requests =>
      obtain ⟨hne, hrequests⟩ := hrequests requests rfl
      have hemits := emits_decodeReplyNegotiate option (some requests) _ hversion
        (decodeMacrosRequests_encode requests hrequests order hne)
      refine ⟨_, _, ?_, rfl, hemits.beforeNull⟩
      simp only [encode, encodeNegotiate, Option.elim_some,
        encodeMacrosRequests_eq requests hrequests order]
      rfl

theorem isSignalled_addHeader (name value : CString) (hname : name.bytes ≠ []) :
    IsSignalled order encoder (.addHeader name value) := by
  have hemits := emits_of_handlerOf .addHeader rfl (emits_decodeNameAndValue name value hname)
  refine ⟨_, _, ?_, rfl, hemits.beforeNull⟩
  rw [encode, encodeAddHeader, encodeReplyHeader, if_neg hname]
  rfl

theorem isSignalled_insertHeader (index : UInt32) (name : CString) (value : Option CString)
    (hname : name.bytes ≠ []) (hvalue : value ≠ some .empty) :
    IsSignalled order encoder (.insertHeader index name value) := by
  have hpacket := encodeReplyHeader_packet encoder .insertHeader name value index hname nofun
  have hemits := emits_decodeReplyInsertHeader index name (value.getD .empty) hname
  have hsent : (if value.getD .empty = .empty then none else some (value.getD .empty)) = value := by
    cases value with
    | none => rfl
    | some value => exact if_neg fun heq => hvalue (congrArg some heq)
  rw [hsent] at hemits
  exact ⟨_, _, hpacket, rfl, (emits_of_handlerOf _ rfl hemits).beforeNull⟩

/-- A header that is changed, to nothing when it is deleted. -/
theorem isSignalled_changeHeader (name : CString) (index : UInt32) (hname : name.bytes ≠ []) :
    (∀ value, IsSignalled order encoder (.changeHeader name index value)) ∧
      IsSignalled order encoder (.deleteHeader name index) := by
  have hemits (value : CString) := (emits_of_handlerOf .changeHeader rfl
    (emits_decodeReplyChangeHeader name index value hname)).beforeNull
  have hpacket (value : Option CString) :=
    encodeReplyHeader_packet encoder .changeHeader name value index hname nofun
  constructor
  · intro value
    exact ⟨_, _, hpacket (some value), rfl, hemits value⟩
  · exact ⟨_, _, hpacket none, rfl, hemits .empty⟩

theorem isSignalled_changeFrom (sender : CString) (parameters : Option CString)
    (hsender : sender.bytes ≠ []) (hparameters : parameters ≠ some .empty) :
    IsSignalled order encoder (.changeFrom sender parameters) := by
  have hhandler : ∀ memory length, decodeReplyChangeFrom memory length = _ :=
    fun memory length => rfl
  have hpacket : (encode encoder order (.changeFrom sender parameters)).2 =
      .packet (frame (MilterReply.changeFrom.toByte :: (sender.bytes ++ 0 ::
        parameters.elim [] fun parameters => parameters.bytes ++ [0]))) := by
    rw [encode, encodeChangeFrom, if_neg hsender]
    rfl
  refine ⟨_, _, hpacket, rfl, (emits_of_handlerOf _ rfl ?_).beforeNull⟩
  cases parameters with
  | none => exact emits_one hhandler sender hsender
  | some parameters =>
      apply emits_two hhandler sender hsender
      exact fun hnil => hparameters (congrArg some (CString.ext hnil))

theorem isSignalled_addRecipient (recipient : CString) (parameters : Option CString)
    (hrecipient : recipient.bytes ≠ []) (hparameters : parameters ≠ some .empty) :
    IsSignalled order encoder (.addRecipient recipient parameters) := by
  cases parameters with
  | none =>
      have hemits := emits_of_handlerOf _ rfl (emits_decodeReplyAddRecipient recipient)
      refine ⟨_, _, ?_, rfl, hemits.beforeNull⟩
      rw [encode, encodeAddRecipient, if_neg hrecipient]
      rfl
  | some parameters =>
      have hne : parameters.bytes ≠ [] := fun hnil =>
        hparameters (congrArg some (CString.ext hnil))
      have hhandler : ∀ memory length,
          decodeReplyAddRecipientWithParameters memory length = _ := fun memory length => rfl
      have hemits := emits_of_handlerOf .addRecipientWithParameters rfl
        (emits_two hhandler recipient hrecipient parameters hne)
      refine ⟨_, _, ?_, rfl, hemits.beforeNull⟩
      rw [encode, encodeAddRecipient, if_neg hrecipient]
      have hgiven : (some parameters).elim [] CString.bytes ≠ [] := hne
      simp only [if_pos hgiven]
      rfl

/-- A reply with one text. -/
theorem isSignalled_text {reply : Reply} {tag : MilterReply} {signal : CString → ReplySignal}
    {message : String} (text : CString) (htext : text.bytes ≠ [])
    (hencode : encode encoder order reply = encodeText encoder tag text)
    (hhandler : handlerOf tag = some (decodeText signal message))
    (hsignal : SignalOf reply (signal text)) : IsSignalled order encoder reply := by
  refine ⟨_, _, ?_, hsignal, (emits_of_handlerOf tag hhandler
    (emits_decodeText text htext)).beforeNull⟩
  rw [hencode]
  exact encodeText_packet encoder tag text htext

theorem isSignalled_replaceBody (body : Bytes) (hcarried : Carried (.replaceBody body)) :
    IsSignalled order encoder (.replaceBody body) := by
  obtain ⟨hne, hlength, hnull⟩ := hcarried
  have hpacket : (encode encoder order (.replaceBody body)).2 =
      .packet (frame (MilterReply.replaceBody.toByte :: body)) := by
    rw [encode, encodeReplaceBody, if_neg fun h0 => hne (List.length_eq_zero_iff.mp h0)]
    simp only [if_neg (Nat.not_lt.mpr hlength), List.take_length]
    rfl
  refine ⟨_, _, hpacket, rfl, fun following residue hhead => ?_⟩
  rw [decode_of_handlerOf .replaceBody rfl]
  exact emits_decodeChunk body hnull following residue hhead

/-- A reply without arguments. -/
theorem isSignalled_simple {reply : Reply} {tag : MilterReply} {signal : ReplySignal}
    {target : String} (hencode : encode encoder order reply = encodeSimple encoder tag)
    (hhandler : handlerOf tag = some (decodeSimple signal target))
    (hsignal : SignalOf reply signal) : IsSignalled order encoder reply := by
  refine ⟨[tag.toByte], _, ?_, hsignal, (emits_of_handlerOf tag hhandler
    emits_decodeSimple).beforeNull⟩
  rw [hencode]
  rfl

/-- The content of the packet of a reply is signalled as that reply. -/
theorem exists_content (reply : Reply) (hcarried : Carried reply)
    (hfirst : (∃ option macrosRequests, reply = .negotiate option macrosRequests) →
      encoder.buffer = []) : IsSignalled order encoder reply := by
  cases reply with
  | negotiate option macrosRequests =>
      exact isSignalled_negotiate order encoder option macrosRequests hcarried
        (hfirst ⟨option, macrosRequests, rfl⟩)
  | replyCode code =>
      obtain ⟨number, extendedCode, message, hspells, hemits⟩ :=
        emits_decodeReplyReplyCode code hcarried
      exact ⟨_, _, rfl, ⟨_, _, _, rfl, hspells⟩, (emits_of_handlerOf _ rfl hemits).beforeNull⟩
  | addHeader name value => exact isSignalled_addHeader order encoder name value hcarried
  | insertHeader index name value =>
      exact isSignalled_insertHeader order encoder index name value hcarried.1 hcarried.2
  | changeHeader name index value =>
      exact (isSignalled_changeHeader order encoder name index hcarried).1 value
  | deleteHeader name index => exact (isSignalled_changeHeader order encoder name index hcarried).2
  | changeFrom sender parameters =>
      exact isSignalled_changeFrom order encoder sender parameters hcarried.1 hcarried.2
  | addRecipient recipient parameters =>
      exact isSignalled_addRecipient order encoder recipient parameters hcarried.1 hcarried.2
  | deleteRecipient recipient => exact isSignalled_text order encoder recipient hcarried rfl rfl rfl
  | quarantine reason => exact isSignalled_text order encoder reason hcarried rfl rfl rfl
  | replaceBody body => exact isSignalled_replaceBody order encoder body hcarried
  | _ => exact isSignalled_simple order encoder rfl rfl rfl

end Content

end Emits

/-- A reply with arguments that the protocol carries is encoded as a packet that is read back as
that reply: the negotiate reply when nothing was encoded before it, and every other one. -/
theorem reply_readsBack (order : RequestsOrder) (encoder : Encoder) (reply : Reply)
    (hcarried : Carried reply)
    (hfirst : (∃ option macrosRequests, reply = .negotiate option macrosRequests) →
      encoder.buffer = [])
    (hlength : ∀ packet, (encode encoder order reply).2 = .packet packet →
      packet.length < lengthLimit + 4) :
    ∃ packet signal, (encode encoder order reply).2 = .packet packet ∧ SignalOf reply signal ∧
      ReadsBack decode packet signal := by
  obtain ⟨content, signal, hpacket, hsignal, hemits⟩ :=
    exists_content order encoder reply hcarried hfirst
  have hshort := hlength _ hpacket
  rw [length_frame] at hshort
  exact ⟨frame content, signal, hpacket, hsignal, hemits.readsBack (by omega)⟩

/-- The commands of a table in some order. -/
noncomputable def someOrder : RequestsOrder where
  commands requests := requests.keys.toList
  mem_commands requests command := by rw [Finset.mem_toList, Finmap.mem_keys]

theorem reply_readsBack_addRecipient :
    ∃ packet signal,
      (encode .init someOrder (.addRecipient ⟨[97], by decide⟩ (some ⟨[98], by decide⟩))).2 =
        .packet packet ∧
      SignalOf (.addRecipient ⟨[97], by decide⟩ (some ⟨[98], by decide⟩)) signal ∧
      ReadsBack decode packet signal := by
  apply reply_readsBack
  · exact ⟨by decide, by decide⟩
  · rintro ⟨option, macrosRequests, hreply⟩
    cases hreply
  · intro packet hpacket
    obtain rfl := EncodedPacket.packet.inj hpacket
    decide

/-- A header that is changed to an empty value is deleted. -/
theorem not_readsBack_changeHeader :
    ∃ packet,
      (encode .init someOrder (.changeHeader ⟨[97], by decide⟩ 1 .empty)).2 = .packet packet ∧
      ¬ ReadsBack decode packet (.changeHeader ⟨[97], by decide⟩ 1 .empty) := by
  refine ⟨frame [109, 0, 0, 0, 1, 97, 0, 0], rfl, fun hreads => ?_⟩
  obtain ⟨-, hemit⟩ := hreads.emit
  have hdecode : decode (.atFrame [109, 0, 0, 0, 1, 97, 0, 0] [] fun _ => 0)
      ([109, 0, 0, 0, 1, 97, 0, 0] : Bytes).length =
      emit (.deleteHeader ⟨[97], by decide⟩ 1) := rfl
  rw [hemit] at hdecode
  cases hdecode

end MilterManager.Codec.ReplyEncoder
