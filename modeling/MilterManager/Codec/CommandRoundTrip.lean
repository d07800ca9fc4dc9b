import MilterManager.Base.Table
import MilterManager.Codec.CommandEncoder
import MilterManager.Codec.CommandFields
import MilterManager.Codec.Sequence

/-!
# Commands that are read back

What the encoder of commands packs is signalled by the decoder of commands as the same command with
the same arguments, for the arguments that the protocol carries.
-/

namespace MilterManager.Codec

open MilterManager.Base MilterManager.Core

/-- The address survives `inet_ntop` and `inet_pton`, and its text is not empty. -/
def AddressText.ReadsBack (addressText : AddressText) : SocketAddress → Prop
  | .inet address _ =>
      addressText.pton (addressText.ntop address) = some address ∧
        (addressText.ntop address).bytes ≠ []
  | .inet6 address _ => addressText.pton6 (addressText.ntop6 address) = some address
  | .unix _ | .unknown => True

namespace CommandEncoder

open CommandDecoder

/-- The name of a macro is not empty and has no braces around it. -/
def isMacroName (key : CString) : Bool :=
  key.bytes != [] && normalizeMacroName key == key

/-- The arguments of a command that the protocol carries. -/
def Carried : CommandSignal → Prop
  | .negotiate option => option.version < 0x100000000
  | .defineMacro context macros =>
      isMacroContext context = true ∧
        ∀ key ∈ macros, isMacroName key = true ∧ macros.lookup key ≠ some none
  | .connect hostName address =>
      hostName.bytes ≠ [] ∧
        ∀ path, address = .unix path → path.bytes ≠ [] ∧ path.bytes.length < sunPathSize
  | .helo text | .envelopeFrom text | .envelopeRecipient text | .unknown text => text.bytes ≠ []
  | .header name _ => name.bytes ≠ []
  | .body chunk size => size = chunk.length ∧ chunk.length ≤ chunkSize ∧ 0 ∉ chunk
  | .endOfMessage none size => size = 0
  | .endOfMessage (some chunk) size =>
      chunk ≠ [] ∧ size = chunk.length ∧ chunk.length ≤ chunkSize ∧ 0 ∉ chunk
  | .data | .endOfHeader | .abort | .quit => True

section DefineMacro

/-- Braces that were put around a name are taken off again. -/
theorem normalizeMacroName_bracedName (key : CString) (h : isMacroName key = true)
    (hnull : 0 ∉ bracedName key) : normalizeMacroName ⟨bracedName key, hnull⟩ = key := by
  simp only [isMacroName, Bool.and_eq_true, beq_iff_eq] at h
  by_cases hraw : key.bytes.head? = some 123 ∨ key.bytes.length = 1
  · have hsame : (⟨bracedName key, hnull⟩ : CString) = key := by
      apply CString.ext
      exact if_pos hraw
    rw [hsame]
    exact h.2
  · have hbytes : bracedName key = 123 :: (key.bytes ++ [125]) := if_neg hraw
    simp only [normalizeMacroName, hbytes]
    have hlast : (123 :: (key.bytes ++ [125])).getLast? = some 125 := by
      rw [← List.cons_append, List.getLast?_concat]
    rw [if_pos ⟨rfl, hlast⟩, List.tail_cons, List.dropLast_concat, CString.ofBytes_bytes]

theorem bracedName_ne_nil (key : CString) (h : key.bytes ≠ []) : bracedName key ≠ [] := by
  unfold bracedName
  split
  · exact h
  · simp

theorem null_notMem_bracedName (key : CString) : 0 ∉ bracedName key := by
  have hnull := key.noNull
  unfold bracedName
  split
  · exact hnull
  · simp [hnull]

/-- The value that a key stands for in a packet. -/
def valueOf (macros : Macros) (key : CString) : CString :=
  match macros.lookup key with
  | some (some value) => value
  | some none | none => .empty

theorem encodeMacro_of_ne (macros : Macros) (key : CString) (h : key.bytes ≠ []) :
    encodeMacro macros key = bracedName key ++ 0 :: ((valueOf macros key).bytes ++ [0]) := by
  rw [encodeMacro, if_neg h, valueOf]
  cases macros.lookup key with
  | none => rfl
  | some value =>
      cases value with
      | none => rfl
      | some value => rfl

/-- The loop reads the macros one by one. -/
theorem decodeDefineMacrosFrom_encodeMacros (macros : Macros) (keys : List CString) (fuel : Nat)
    (following : Bytes) (residue : Nat → UInt8) (decoded : Macros)
    (hkeys : ∀ key ∈ keys, isMacroName key = true)
    (hfuel : (keys.flatMap (encodeMacro macros)).length ≤ fuel) :
    decodeDefineMacrosFrom fuel
        (.atFrame (keys.flatMap (encodeMacro macros)) following residue)
        (keys.flatMap (encodeMacro macros)).length decoded =
      .ok (keys.foldl (fun decoded key => decoded.insert key (some (valueOf macros key))) decoded)
      := by
  induction keys generalizing fuel decoded with
  | nil => exact decodeDefineMacrosFrom_nil following residue decoded fuel
  | cons key keys ih =>
      obtain ⟨hkey, hkeys⟩ := List.forall_mem_cons.mp hkeys
      have hne : key.bytes ≠ [] := by
        simp only [isMacroName, Bool.and_eq_true, bne_iff_ne] at hkey
        exact hkey.1
      have hentry : (key :: keys).flatMap (encodeMacro macros) =
          bracedName key ++ 0 :: ((valueOf macros key).bytes ++
            0 :: keys.flatMap (encodeMacro macros)) := by
        rw [List.flatMap_cons, encodeMacro_of_ne macros key hne]
        simp
      rw [hentry] at hfuel ⊢
      have hpos : ∃ rounds, fuel = rounds + 1 := by
        refine ⟨fuel - 1, ?_⟩
        simp only [List.length_append, List.length_cons] at hfuel
        omega
      obtain ⟨rounds, rfl⟩ := hpos
      rw [decodeDefineMacrosFrom_append following residue decoded rounds _ _ _
        (null_notMem_bracedName key) (bracedName_ne_nil key hne) (valueOf macros key).noNull,
        normalizeMacroName_bracedName key hkey]
      apply ih
      · exact hkeys
      · simp only [List.length_append, List.length_cons] at hfuel
        omega

/-- All macros of the table are read, and no other. -/
theorem foldl_insert_keys (order : KeyOrder) (macros : Macros)
    (h : ∀ key ∈ macros, macros.lookup key ≠ some none) :
    (order.keys macros).foldl
      (fun decoded key => decoded.insert key (some (valueOf macros key))) ∅ = macros := by
  apply foldl_insert_empty macros _ (fun key => some (valueOf macros key)) (order.mem_keys macros)
  intro key hkey
  obtain ⟨value, hvalue⟩ := Option.isSome_iff_exists.mp (Finmap.lookup_isSome.mpr hkey)
  rw [valueOf, hvalue]
  cases value with
  | none => exact absurd hvalue (h key hkey)
  | some value => rfl

end DefineMacro

section Emits

variable (addressText : AddressText)

/-- The byte of the command decides which handler reads the frame. -/
theorem emits_of_handler {command : MilterCommand} (handler : Handler CommandSignal)
    {fields : Bytes} {signal : CommandSignal}
    (hhandler : ∀ memory length, MilterCommand.ofByte (memory.get 0) = some command →
      decode addressText memory length = handler memory length)
    (h : EmitsBeforeNull handler (command.toByte :: fields) signal) :
    EmitsBeforeNull (decode addressText) (command.toByte :: fields) signal := by
  intro following residue hhead
  have hget : (Memory.atFrame (command.toByte :: fields) following residue).get 0 =
      command.toByte := rfl
  rw [hhandler _ _ (by rw [hget, MilterCommand.ofByte_toByte])]
  exact h following residue hhead

theorem emits_decodeNegotiate (option : MilterOption) (h : option.version < 0x100000000) :
    Emits CommandDecoder.decodeNegotiate (MilterCommand.negotiate.toByte ::
      (bigEndian option.version ++ bigEndian option.action.toNat ++
        bigEndian option.step.toNat)) (.negotiate option) := by
  intro following residue
  have hoption := optionOf_bytes option h []
  rw [List.append_nil] at hoption
  have hrest := decodeNegotiate_rest MilterCommand.negotiate.toByte negotiateTail
    (fun memory length => rfl) (bigEndian option.version ++ bigEndian option.action.toNat ++
      bigEndian option.step.toNat) (by simp) following residue
  rw [hoption] at hrest
  exact hrest

theorem emits_decodeDefineMacro (order : KeyOrder) (context : MilterCommand) (macros : Macros)
    (hcontext : isMacroContext context = true)
    (hmacros : ∀ key ∈ macros, isMacroName key = true ∧ macros.lookup key ≠ some none) :
    Emits decodeDefineMacro (MilterCommand.defineMacro.toByte :: context.toByte ::
      encodeMacros order macros) (.defineMacro context macros) := by
  intro following residue
  have hcheck : checkMacroContext context.toByte = .ok context := by
    rw [checkMacroContext, MilterCommand.ofByte_toByte]
    exact if_pos hcontext
  have hnames : ∀ key ∈ order.keys macros, isMacroName key = true := fun key hkey =>
    (hmacros key ((order.mem_keys macros key).mp hkey)).1
  have hdecoded := decodeDefineMacrosFrom_encodeMacros macros (order.keys macros) _ following
    residue ∅ hnames (Nat.le_refl _)
  rw [foldl_insert_keys order macros fun key hkey => (hmacros key hkey).2] at hdecoded
  rw [decodeDefineMacro_context following residue _ _ _ (MilterCommand.toByte_ne_zero _)
    (MilterCommand.toByte_ne_zero _), hcheck]
  simp only [bind, Except.bind, decodeDefineMacros, Int.toNat_natCast]
  rw [encodeMacros, hdecoded]

theorem emits_decodeEndOfMessage_none :
    Emits decodeEndOfMessage [MilterCommand.endOfMessage.toByte] (.endOfMessage none 0) :=
  fun _ _ => rfl

theorem emits_decodeEndOfMessage_some (chunk : Bytes) (h : chunk ≠ []) (hnull : 0 ∉ chunk) :
    EmitsBeforeNull decodeEndOfMessage (MilterCommand.endOfMessage.toByte :: chunk)
      (.endOfMessage (some chunk) chunk.length) := by
  intro following residue hhead
  have hstring := (Memory.string_atFrame_iff following residue ⟨chunk, hnull⟩).mpr hhead
  rw [decodeEndOfMessage_atFrame following residue _ chunk h, hstring]

section Connect

theorem portNumber_portBytes (port : UInt16) : portNumber (portBytes port) = port := by
  have hlt := port.toNat_lt
  apply UInt16.toNat_inj.mp
  simp only [portNumber, portBytes, ofBigEndian, List.foldl_cons, List.foldl_nil,
    UInt8.toNat_ofNat', UInt16.toNat_ofNat']
  omega

variable (hostName : CString) (hhost : hostName.bytes ≠ [])

include hhost in
/-- The address behind the family decides. -/
theorem emits_decodeConnect {family : UInt8} {fields : Bytes} {address : SocketAddress}
    (h : ∀ following residue, decodeConnectAddress addressText family
      (.atFrame fields following residue) fields.length hostName = .ok (hostName, address)) :
    Emits (decodeConnect addressText)
      (MilterCommand.connect.toByte :: (hostName.bytes ++ 0 :: family :: fields))
      (.connect hostName address) := by
  intro following residue
  rw [decodeConnect, length_fields, Memory.advance_atFrame_cons,
    decodeConnectContent_family addressText following residue hostName.bytes family fields
      hostName.noNull hhost, h]
  rfl

theorem decodeConnectText_bytes (following : Bytes) (residue : Nat → UInt8) (a b : UInt8)
    (text : CString) (htext : text.bytes ≠ []) (quoted : List Bytes) :
    decodeConnectText (.atFrame (a :: b :: (text.bytes ++ [0])) following residue)
      (a :: b :: (text.bytes ++ [0])).length quoted = .ok ([a, b], text) := by
  rw [decodeConnectText_of_port, decodeNonEmptyValue_append _ _ _ _ _ _ text.noNull htext,
    Memory.string_atFrame_append _ _ _ _ text.noNull]
  rfl

theorem withoutIpv6Prefix_append (text : CString) (h : 0 ∉ ipv6Prefix ++ text.bytes) :
    withoutIpv6Prefix ⟨ipv6Prefix ++ text.bytes, h⟩ = text := by
  have hprefix : ipv6Prefix.isPrefixOf (ipv6Prefix ++ text.bytes) = true := by
    rw [List.isPrefixOf_iff_prefix]
    exact List.prefix_append _ _
  rw [withoutIpv6Prefix, if_pos hprefix, List.drop_left, CString.ofBytes_bytes]

include hhost in
theorem emits_encodeAddress (address : SocketAddress) (hreads : addressText.ReadsBack address)
    (hpath : ∀ path, address = .unix path →
      path.bytes ≠ [] ∧ path.bytes.length < sunPathSize) :
    Emits (decodeConnect addressText) (MilterCommand.connect.toByte ::
      (hostName.bytes ++ 0 :: encodeAddress addressText address)) (.connect hostName address) := by
  have hport : ∀ port : UInt16,
      portNumber [UInt8.ofNat (port.toNat / 0x100), UInt8.ofNat port.toNat] = port :=
    portNumber_portBytes
  cases address with
  | inet address port =>
      obtain ⟨hpton, hne⟩ := hreads
      have hfields : encodeAddress addressText (.inet address port) =
          SocketFamily.inet.toByte :: UInt8.ofNat (port.toNat / 0x100) :: UInt8.ofNat port.toNat ::
            ((addressText.ntop address).bytes ++ [0]) := rfl
      rw [hfields]
      apply emits_decodeConnect addressText hostName hhost
      intro following residue
      simp only [decodeConnectAddress,
        show SocketFamily.ofByte SocketFamily.inet.toByte = some .inet from rfl,
        decodeConnectText_bytes following residue _ _ (addressText.ntop address) hne, bind,
        Except.bind, decodeConnectInetAddress, hpton, hport]
      rfl
  | inet6 address port =>
      have hnull : 0 ∉ ipv6Prefix ++ (addressText.ntop6 address).bytes := by
        have := (addressText.ntop6 address).noNull
        simp [ipv6Prefix, this]
      have hne : ipv6Prefix ++ (addressText.ntop6 address).bytes ≠ [] := by simp [ipv6Prefix]
      have hfields : encodeAddress addressText (.inet6 address port) =
          SocketFamily.inet6.toByte :: UInt8.ofNat (port.toNat / 0x100) :: UInt8.ofNat port.toNat ::
            ((⟨ipv6Prefix ++ (addressText.ntop6 address).bytes, hnull⟩ : CString).bytes ++ [0]) :=
        rfl
      rw [hfields]
      apply emits_decodeConnect addressText hostName hhost
      intro following residue
      simp only [decodeConnectAddress,
        show SocketFamily.ofByte SocketFamily.inet6.toByte = some .inet6 from rfl,
        decodeConnectText_bytes following residue _ _ ⟨_, hnull⟩ hne, bind, Except.bind,
        decodeConnectInet6Address, withoutIpv6Prefix_append,
        show addressText.pton6 (addressText.ntop6 address) = some address from hreads, hport]
      rfl
  | unix path =>
      have hfields : encodeAddress addressText (.unix path) =
          SocketFamily.unix.toByte :: 0 :: 0 :: (path.bytes ++ [0]) := rfl
      rw [hfields]
      apply emits_decodeConnect addressText hostName hhost
      intro following residue
      simp only [decodeConnectAddress,
        show SocketFamily.ofByte SocketFamily.unix.toByte = some .unix from rfl,
        decodeConnectText_bytes following residue _ _ path (hpath path rfl).1, bind, Except.bind,
        show decodeConnectUnixAddress path = .ok (.unix path) from
          if_neg (Nat.not_le.mpr (hpath path rfl).2)]
      rfl
  | unknown =>
      apply emits_decodeConnect addressText hostName hhost
      intro following residue
      rfl

end Connect

section Content

variable (order : KeyOrder) (encoder : Encoder)

/-- The packet of a command holds a content that is signalled as that command. -/
def IsSignalled (command : CommandSignal) : Prop :=
  ∃ content, (encode encoder order addressText command).2 = frame content ∧
    EmitsBeforeNull (decode addressText) content command

variable {addressText order encoder}

theorem IsSignalled.of_handler {command : CommandSignal} {tag : MilterCommand}
    {handler : Handler CommandSignal} {fields : Bytes}
    (hpacket : (encode encoder order addressText command).2 = frame (tag.toByte :: fields))
    (hhandler : ∀ memory length, MilterCommand.ofByte (memory.get 0) = some tag →
      decode addressText memory length = handler memory length)
    (h : EmitsBeforeNull handler (tag.toByte :: fields) command) :
    IsSignalled addressText order encoder command :=
  ⟨_, hpacket, emits_of_handler addressText handler hhandler h⟩

variable (addressText order encoder)

theorem isSignalled_negotiate (option : MilterOption) (hcarried : Carried (.negotiate option))
    (hfirst : encoder.buffer = []) :
    IsSignalled addressText order encoder (.negotiate option) := by
  obtain ⟨buffer⟩ := encoder
  obtain rfl : buffer = [] := hfirst
  exact .of_handler rfl (fun memory length h => by rw [decode, h])
    (emits_decodeNegotiate option hcarried).beforeNull

/-- A command with one text. -/
theorem isSignalled_text {command : CommandSignal} {tag : MilterCommand}
    {signal : CString → CommandSignal} {message : String} (text : CString)
    (htext : text.bytes ≠ [])
    (hencode : encode encoder order addressText command = encodeText encoder tag text)
    (hhandler : ∀ memory length, MilterCommand.ofByte (memory.get 0) = some tag →
      decode addressText memory length = decodeText signal message memory length)
    (hsignal : signal text = command) : IsSignalled addressText order encoder command := by
  subst hsignal
  have hpacket : (encode encoder order addressText (signal text)).2 =
      frame (tag.toByte :: (text.bytes ++ [0])) := by
    rw [hencode]
    rfl
  exact .of_handler hpacket hhandler (emits_decodeText text htext).beforeNull

/-- A command without arguments. -/
theorem isSignalled_simple {command : CommandSignal} {tag : MilterCommand} {target : String}
    (hencode : encode encoder order addressText command = encodeSimple encoder tag)
    (hhandler : ∀ memory length, MilterCommand.ofByte (memory.get 0) = some tag →
      decode addressText memory length = decodeSimple command target memory length) :
    IsSignalled addressText order encoder command := by
  have hpacket : (encode encoder order addressText command).2 = frame [tag.toByte] := by
    rw [hencode]
    rfl
  exact .of_handler hpacket hhandler emits_decodeSimple.beforeNull

theorem isSignalled_body (chunk : Bytes) (size : Int) (hcarried : Carried (.body chunk size)) :
    IsSignalled addressText order encoder (.body chunk size) := by
  obtain ⟨rfl, hlength, hnull⟩ := hcarried
  have hpacket : (encodeBody encoder chunk).1.2 =
      frame (MilterCommand.body.toByte :: chunk) := by
    rw [encodeBody, if_neg (Nat.not_lt.mpr hlength), List.take_length, Encoder.packContent_snd]
  exact .of_handler hpacket (fun memory length h => by rw [decode, h]; rfl)
    (emits_decodeChunk chunk hnull)

theorem isSignalled_endOfMessage (chunk : Option Bytes) (size : Int)
    (hcarried : Carried (.endOfMessage chunk size)) :
    IsSignalled addressText order encoder (.endOfMessage chunk size) := by
  cases chunk with
  | none =>
      obtain rfl : size = 0 := hcarried
      exact .of_handler rfl (fun memory length h => by rw [decode, h])
        emits_decodeEndOfMessage_none.beforeNull
  | some chunk =>
      obtain ⟨hne, rfl, -, hnull⟩ := hcarried
      have hpacket : (encodeEndOfMessage encoder (some chunk)).2 =
          frame (MilterCommand.endOfMessage.toByte :: chunk) := by
        rw [encodeEndOfMessage]
        simp only [if_pos (List.length_pos_iff.mpr hne), Encoder.packContent_snd]
      exact .of_handler hpacket (fun memory length h => by rw [decode, h])
        (emits_decodeEndOfMessage_some chunk hne hnull)

/-- The content of the packet of a command is signalled as that command. -/
theorem exists_content (command : CommandSignal) (hcarried : Carried command)
    (haddress : ∀ hostName address, command = .connect hostName address →
      addressText.ReadsBack address)
    (hfirst : (∃ option, command = .negotiate option) → encoder.buffer = []) :
    IsSignalled addressText order encoder command := by
  cases command with
  | negotiate option =>
      exact isSignalled_negotiate addressText order encoder option hcarried (hfirst ⟨option, rfl⟩)
  | defineMacro context macros =>
      exact .of_handler rfl (fun memory length h => by rw [decode, h])
        (emits_decodeDefineMacro order context macros hcarried.1 hcarried.2).beforeNull
  | connect hostName address =>
      exact .of_handler rfl (fun memory length h => by rw [decode, h])
        (emits_encodeAddress addressText hostName hcarried.1 address
          (haddress hostName address rfl) hcarried.2).beforeNull
  | helo fqdn =>
      exact isSignalled_text addressText order encoder fqdn hcarried rfl
        (fun memory length h => by rw [decode, h]; rfl) rfl
  | envelopeFrom sender =>
      exact isSignalled_text addressText order encoder sender hcarried rfl
        (fun memory length h => by rw [decode, h]; rfl) rfl
  | envelopeRecipient recipient =>
      exact isSignalled_text addressText order encoder recipient hcarried rfl
        (fun memory length h => by rw [decode, h]; rfl) rfl
  | unknown text =>
      exact isSignalled_text addressText order encoder text hcarried rfl
        (fun memory length h => by rw [decode, h]; rfl) rfl
  | header name value =>
      exact .of_handler rfl (fun memory length h => by rw [decode, h]; rfl)
        (emits_decodeNameAndValue name value hcarried).beforeNull
  | body chunk size => exact isSignalled_body addressText order encoder chunk size hcarried
  | endOfMessage chunk size =>
      exact isSignalled_endOfMessage addressText order encoder chunk size hcarried
  | data =>
      exact isSignalled_simple addressText order encoder rfl
        fun memory length h => by rw [decode, h]; rfl
  | endOfHeader =>
      exact isSignalled_simple addressText order encoder rfl
        fun memory length h => by rw [decode, h]; rfl
  | abort =>
      exact isSignalled_simple addressText order encoder rfl
        fun memory length h => by rw [decode, h]; rfl
  | quit =>
      exact isSignalled_simple addressText order encoder rfl
        fun memory length h => by rw [decode, h]; rfl

end Content

end Emits

/-- A command with arguments that the protocol carries is read back from its packet: the negotiate
command when nothing was encoded before it, and every other one. -/
theorem command_readsBack (order : KeyOrder) (addressText : AddressText) (encoder : Encoder)
    (command : CommandSignal) (hcarried : Carried command)
    (haddress : ∀ hostName address, command = .connect hostName address →
      addressText.ReadsBack address)
    (hfirst : (∃ option, command = .negotiate option) → encoder.buffer = [])
    (hlength : (encode encoder order addressText command).2.length < lengthLimit + 4) :
    ReadsBack (decode addressText) (encode encoder order addressText command).2 command := by
  obtain ⟨content, hpacket, hemits⟩ :=
    exists_content addressText order encoder command hcarried haddress hfirst
  rw [hpacket] at hlength ⊢
  rw [length_frame] at hlength
  exact hemits.readsBack (by omega)

/-- The keys in some order. -/
noncomputable def someOrder : KeyOrder where
  keys macros := macros.keys.toList
  mem_keys macros key := by rw [Finset.mem_toList, Finmap.mem_keys]
  nodup_keys macros := Finset.nodup_toList _

/-- `inet_pton` and `inet_ntop` of `192.0.2.1`. -/
def exampleAddressText : AddressText where
  pton text :=
    if text.bytes = [49, 57, 50, 46, 48, 46, 50, 46, 49] then some 0xC0000201#32 else none
  ntop address :=
    if address = 0xC0000201#32 then ⟨[49, 57, 50, 46, 48, 46, 50, 46, 49], by decide⟩ else .empty
  pton6 _ := none
  ntop6 _ := .empty

theorem command_readsBack_connect :
    ReadsBack (decode exampleAddressText)
      (encode .init someOrder exampleAddressText
        (.connect ⟨[97], by decide⟩ (.inet 0xC0000201#32 25))).2
      (.connect ⟨[97], by decide⟩ (.inet 0xC0000201#32 25)) := by
  apply command_readsBack
  · exact ⟨by decide, nofun⟩
  · rintro hostName address heq
    obtain ⟨-, rfl⟩ := CommandSignal.connect.inj heq
    exact ⟨by decide, by decide⟩
  · rintro ⟨option, hoption⟩
    cases hoption
  · decide

/-- Macros for an abort are encoded, but refused. -/
theorem not_readsBack_defineMacro :
    ¬ ReadsBack (decode noAddressText)
      (encode .init someOrder noAddressText (.defineMacro .abort ∅)).2 (.defineMacro .abort ∅) := by
  intro hreads
  have hcontent : (encode .init someOrder noAddressText (.defineMacro .abort ∅)).2 =
      frame [68, 65] := by
    simp [encode, encodeDefineMacro, encodeMacros, someOrder]
    rfl
  rw [hcontent] at hreads
  obtain ⟨-, hemit⟩ := hreads.emit
  have hdecode : decode noAddressText (.atFrame [68, 65] [] fun _ => 0) ([68, 65] : Bytes).length =
      .error (.error ⟨.unknownMacroContext, "unknown macro context", [[65]]⟩) := rfl
  rw [hemit] at hdecode
  cases hdecode

end CommandEncoder

end MilterManager.Codec
