import MilterManager.Codec.CommandRoundTrip
import MilterManager.Codec.ReplyDecoder
import MilterManager.Server.Context

/-!
# The macros for a child

The macros of a `MilterProtocolAgent`, from `milter/core/milter-protocol-agent.c`, and what
`milter/server/milter-server-context.c` sends of them before a command: those that the child asked
for in its negotiate reply.
-/

namespace MilterManager.Server

open MilterManager.Base MilterManager.Core MilterManager.Codec

/-- The macros of `MilterProtocolAgentPrivate` and the requests of the child. -/
structure ProtocolAgent where
  macros : MilterCommand → Option Macros
  macroContext : MilterCommand
  macrosRequests : Option MacrosRequests

namespace ProtocolAgent

/-- `milter_protocol_agent_init`. -/
def init : ProtocolAgent := ⟨fun _ => none, .unknown, none⟩

/-- `milter_protocol_agent_set_macro_context`, `milter/core/milter-protocol-agent.c:308`. -/
def setMacroContext (agent : ProtocolAgent) (macroContext : MilterCommand) : ProtocolAgent :=
  { agent with macroContext := macroContext }

/-- `milter_protocol_agent_get_macros`, `milter/core/milter-protocol-agent.c:239`. -/
def getMacros (agent : ProtocolAgent) : Option Macros := agent.macros agent.macroContext

/-- `milter_protocol_agent_set_macros_hash_table`, `milter/core/milter-protocol-agent.c:367`: a copy
of the macros that have a value. -/
def setMacrosHashTable (agent : ProtocolAgent) (macroContext : MilterCommand) (macros : Macros) :
    ProtocolAgent :=
  { agent with macros := Function.update agent.macros macroContext (some (withValue macros)) }

/-- `milter_protocol_agent_set_macros_requests`, `milter/core/milter-protocol-agent.c:401`. -/
def setMacrosRequests (agent : ProtocolAgent) (macrosRequests : Option MacrosRequests) :
    ProtocolAgent :=
  { agent with macrosRequests := macrosRequests }

end ProtocolAgent

/-- A round of the loop of `filter_macros`. -/
def filterMacro (macros filteredMacros : Macros) (symbol : CString) : Macros :=
  match macros.lookup symbol with
  | some (some value) => filteredMacros.insert symbol (some value)
  | some none | none => filteredMacros

/-- `filter_macros`, `milter/server/milter-server-context.c:972`; `none` when nothing is left. -/
def filterMacros (macros : Macros) (requestSymbols : List CString) : Option Macros :=
  let filteredMacros := requestSymbols.foldl (filterMacro macros) ∅
  if filteredMacros.keys = ∅ then none else some filteredMacros

/-- What `prepend_macro` encodes of macros. -/
def targetMacros (macros : Macros) (macrosRequests : Option MacrosRequests)
    (command : MilterCommand) : Option Macros :=
  if macros.keys = ∅ then none
  else
    match macrosRequests with
    | none => some macros
    | some requests =>
        match requests.lookup command with
        | none | some [] => none
        | some requestSymbols => filterMacros macros requestSymbols

/-- `prepend_macro`, `milter/server/milter-server-context.c:999`. -/
def prependMacro (order : KeyOrder) (encoder : Encoder) (agent : ProtocolAgent)
    (packedPacket : Bytes) (command : MilterCommand) : Bytes :=
  let macros := (agent.setMacroContext command).getMacros
  match macros.bind fun macros => targetMacros macros agent.macrosRequests command with
  | none => packedPacket
  | some macros =>
      (CommandEncoder.encodeDefineMacro encoder order command (some macros)).2 ++ packedPacket

/-- The command whose macros `write_packet` puts before a packet,
`milter/server/milter-server-context.c:1559`. -/
def macroCommand : ContextState → Option MilterCommand
  | .helo => some .helo
  | .connect => some .connect
  | .envelopeFrom => some .envelopeFrom
  | .envelopeRecipient => some .envelopeRecipient
  | .data => some .data
  | .header => some .header
  | .endOfHeader => some .endOfHeader
  | .body => some .body
  | .endOfMessage => some .endOfMessage
  | _ => none

/-- The packet that `write_packet` writes on the way to a state. -/
def packPacket (order : KeyOrder) (encoder : Encoder) (agent : ProtocolAgent) (packet : Bytes)
    (nextState : ContextState) : Bytes :=
  match macroCommand nextState with
  | none => packet
  | some command => prependMacro order encoder agent packet command

/-- The state that the packet of a command leads to. -/
def stateOf : MilterCommand → ContextState
  | .abort => .abort
  | .body => .body
  | .connect => .connect
  | .endOfMessage => .endOfMessage
  | .helo => .helo
  | .header => .header
  | .envelopeFrom => .envelopeFrom
  | .endOfHeader => .endOfHeader
  | .negotiate => .negotiate
  | .quit => .quit
  | .envelopeRecipient => .envelopeRecipient
  | .data => .data
  | .unknown => .unknown
  | .defineMacro => .defineMacro
  | .quitNewConnection => .invalid

/-- The text within all the braces around it. -/
def bareName (name : Bytes) : Bytes :=
  if _h : name.head? = some 123 ∧ name.tail.getLast? = some 125 then bareName name.tail.dropLast
  else name
termination_by name.length
decreasing_by
  cases name with
  | nil => exact absurd _h.1 (by simp)
  | cons byte rest =>
      rw [List.tail_cons, List.length_dropLast, List.length_cons]
      omega

/-- The macro is defined, and the child asked for it up to braces or sent no requests. -/
def Wanted (macros : Macros) (macrosRequests : Option MacrosRequests) (command : MilterCommand)
    (name : CString) : Prop :=
  (∃ value, macros.lookup name = some (some value)) ∧
    ∀ requests, macrosRequests = some requests → ∃ symbols, requests.lookup command = some symbols ∧
      ∃ symbol ∈ symbols, bareName symbol.bytes = bareName name.bytes

/-- The bytes before the packet of a command are the define-macro packet that holds the macros that
are wanted, each once, under its name up to braces and with its value; there are none when no macro
is wanted. -/
def Announces (macros : Macros) (macrosRequests : Option MacrosRequests) (command : MilterCommand)
    (before : Bytes) : Prop :=
  (before = [] ∧ ∀ name, ¬Wanted macros macrosRequests command name) ∨
    ((∃ name, Wanted macros macrosRequests command name) ∧
      ∃ entries : List (CString × CString), (entries.map Prod.fst).Nodup ∧
        (∀ name, name ∈ entries.map Prod.fst ↔ Wanted macros macrosRequests command name) ∧
        (∀ entry ∈ entries, bareName entry.2.bytes = bareName entry.1.bytes) ∧
        before = frame (MilterCommand.defineMacro.toByte :: command.toByte ::
          entries.flatMap fun entry =>
            entry.2.bytes ++ 0 :: ((CommandEncoder.valueOf macros entry.1).bytes ++ [0])))

/-- The macro is defined, and the child asked for it by the name it has in the table or sent no
requests. -/
def Named (macros : Macros) (macrosRequests : Option MacrosRequests) (command : MilterCommand)
    (name : CString) : Prop :=
  (∃ value, macros.lookup name = some (some value)) ∧
    ∀ requests, macrosRequests = some requests →
      ∃ symbols, requests.lookup command = some symbols ∧ name ∈ symbols

theorem Named.wanted {macros : Macros} {macrosRequests : Option MacrosRequests}
    {command : MilterCommand} {name : CString} (h : Named macros macrosRequests command name) :
    Wanted macros macrosRequests command name := by
  refine ⟨h.1, fun requests hrequests => ?_⟩
  obtain ⟨symbols, hsymbols, hname⟩ := h.2 requests hrequests
  exact ⟨symbols, hsymbols, name, hname, rfl⟩

/-- The macro has a value. -/
def isDefined (macros : Macros) (name : CString) : Bool := (macros.lookup name).any Option.isSome

theorem isDefined_iff {macros : Macros} {name : CString} :
    isDefined macros name = true ↔ ∃ value, macros.lookup name = some (some value) := by
  rw [isDefined]
  cases macros.lookup name with
  | none => simp
  | some value =>
      cases value with
      | none => simp
      | some value => simp

theorem lookup_of_isDefined {macros : Macros} {name : CString} (h : isDefined macros name = true) :
    macros.lookup name = some (some (CommandEncoder.valueOf macros name)) := by
  obtain ⟨value, hvalue⟩ := isDefined_iff.mp h
  rw [CommandEncoder.valueOf, hvalue]

theorem filterMacro_eq (macros filteredMacros : Macros) (symbol : CString) :
    filterMacro macros filteredMacros symbol =
      if isDefined macros symbol then
        filteredMacros.insert symbol (some (CommandEncoder.valueOf macros symbol))
      else filteredMacros := by
  rw [filterMacro, isDefined, CommandEncoder.valueOf]
  cases macros.lookup symbol with
  | none => rfl
  | some value =>
      cases value with
      | none => rfl
      | some value => rfl

/-- The symbols that are defined remain. -/
theorem lookup_foldl_filterMacro (macros : Macros) (symbols : List CString) (name : CString) :
    (symbols.foldl (filterMacro macros) ∅).lookup name =
      if name ∈ symbols ∧ isDefined macros name = true then macros.lookup name else none := by
  have hfold : symbols.foldl (filterMacro macros) ∅ =
      (symbols.filter (isDefined macros)).foldl
        (fun table key => table.insert key (some (CommandEncoder.valueOf macros key))) ∅ := by
    rw [List.foldl_filter]
    congr 1
    funext filteredMacros symbol
    exact filterMacro_eq macros filteredMacros symbol
  rw [hfold, lookup_foldl_insert]
  by_cases h : name ∈ symbols ∧ isDefined macros name = true
  · rw [if_pos h, if_pos (List.mem_filter.mpr h), lookup_of_isDefined h.2]
  · rw [if_neg h, if_neg (mt List.mem_filter.mp h), Finmap.lookup_empty]

/-- A table without keys has no entries. -/
theorem lookup_of_keys_eq_empty {macros : Macros} (h : macros.keys = ∅) (name : CString) :
    macros.lookup name = none := by
  rw [Finmap.lookup_eq_none, ← Finmap.mem_keys, h]
  exact Finset.notMem_empty name

theorem exists_lookup_of_keys_ne_empty {macros : Macros} (h : macros.keys ≠ ∅) :
    ∃ name value, macros.lookup name = some value := by
  obtain ⟨name, hname⟩ := Finset.nonempty_iff_ne_empty.mpr h
  exact ⟨name, Finmap.mem_iff.mp (Finmap.mem_keys.mp hname)⟩

/-- The macros are those that the child asked for by their names. -/
def Selects (macros : Macros) (macrosRequests : Option MacrosRequests) (command : MilterCommand) :
    Option Macros → Prop
  | none => ∀ name, ¬Named macros macrosRequests command name
  | some target => (∃ name, Named macros macrosRequests command name) ∧
      ∀ name value, target.lookup name = some value ↔
        Named macros macrosRequests command name ∧ macros.lookup name = some value

theorem isDefined_withValue (macros : Macros) (name : CString) :
    isDefined (withValue macros) name = isDefined macros name := by
  rw [Bool.eq_iff_iff, isDefined_iff, isDefined_iff]
  constructor
  · rintro ⟨value, hvalue⟩
    exact ⟨value, ((lookup_withValue macros name _).mp hvalue).1⟩
  · rintro ⟨value, hvalue⟩
    exact ⟨value, (lookup_withValue macros name _).mpr ⟨hvalue, rfl⟩⟩

/-- The symbols of a child that sent requests select the macros. -/
theorem selects_filterMacros (macros : Macros) (requests : MacrosRequests)
    (command : MilterCommand) (symbols : List CString)
    (hsymbols : requests.lookup command = some symbols) :
    Selects macros (some requests) command (filterMacros (withValue macros) symbols) := by
  have hnamed (name : CString) : Named macros (some requests) command name ↔
      name ∈ symbols ∧ isDefined (withValue macros) name = true := by
    rw [isDefined_withValue, isDefined_iff, Named]
    constructor
    · rintro ⟨hvalue, hrequested⟩
      obtain ⟨symbols', hsymbols', hname⟩ := hrequested requests rfl
      rw [hsymbols] at hsymbols'
      rw [Option.some.inj hsymbols']
      exact ⟨hname, hvalue⟩
    · rintro ⟨hname, hvalue⟩
      refine ⟨hvalue, fun requests' hrequests => ?_⟩
      rw [← Option.some.inj hrequests]
      exact ⟨symbols, hsymbols, hname⟩
  have hlookup (name : CString) :
      (symbols.foldl (filterMacro (withValue macros)) ∅).lookup name =
        if name ∈ symbols ∧ isDefined (withValue macros) name = true then
          (withValue macros).lookup name
        else none := lookup_foldl_filterMacro _ _ _
  rw [filterMacros]
  by_cases hempty : (symbols.foldl (filterMacro (withValue macros)) ∅).keys = ∅
  · rw [if_pos hempty]
    intro name hname
    have h := hlookup name
    rw [lookup_of_keys_eq_empty hempty, if_pos ((hnamed name).mp hname),
      lookup_of_isDefined ((hnamed name).mp hname).2] at h
    exact absurd h (by simp)
  · rw [if_neg hempty]
    constructor
    · obtain ⟨name, value, hvalue⟩ := exists_lookup_of_keys_ne_empty hempty
      rw [hlookup] at hvalue
      refine ⟨name, (hnamed name).mpr ?_⟩
      by_contra hnot
      rw [if_neg hnot] at hvalue
      exact absurd hvalue (by simp)
    · intro name value
      rw [hlookup, hnamed]
      by_cases hname : name ∈ symbols ∧ isDefined (withValue macros) name = true
      · rw [if_pos hname, lookup_withValue]
        have hdefined := hname.2
        rw [isDefined_withValue] at hdefined
        constructor
        · exact fun h => ⟨hname, h.1⟩
        · intro h
          have hvalue := h.2
          rw [lookup_of_isDefined hdefined] at hvalue
          exact ⟨h.2, by rw [← Option.some.inj hvalue]; rfl⟩
      · rw [if_neg hname]
        exact ⟨fun h => absurd h (by simp), fun h => absurd h.1 hname⟩

/-- What is encoded of the macros that were set. -/
theorem selects_targetMacros (macros : Macros) (macrosRequests : Option MacrosRequests)
    (command : MilterCommand) :
    Selects macros macrosRequests command
      (targetMacros (withValue macros) macrosRequests command) := by
  unfold targetMacros
  by_cases hempty : (withValue macros).keys = ∅
  · rw [if_pos hempty]
    rintro name ⟨hvalue, -⟩
    have hname := isDefined_withValue macros name
    rw [isDefined, lookup_of_keys_eq_empty hempty, isDefined_iff.mpr hvalue] at hname
    exact absurd hname (by decide)
  · rw [if_neg hempty]
    cases macrosRequests with
    | none =>
        have hnamed (name : CString) : Named macros none command name ↔
            ∃ value, macros.lookup name = some (some value) :=
          ⟨fun h => h.1, fun h => ⟨h, fun _ hnone => absurd hnone (by simp)⟩⟩
        constructor
        · obtain ⟨name, value, hvalue⟩ := exists_lookup_of_keys_ne_empty hempty
          obtain ⟨hlookup, hsome⟩ := (lookup_withValue macros name value).mp hvalue
          obtain ⟨text, rfl⟩ := Option.isSome_iff_exists.mp hsome
          exact ⟨name, (hnamed name).mpr ⟨text, hlookup⟩⟩
        · intro name value
          rw [lookup_withValue, hnamed]
          constructor
          · rintro ⟨hlookup, hsome⟩
            obtain ⟨text, rfl⟩ := Option.isSome_iff_exists.mp hsome
            exact ⟨⟨text, hlookup⟩, hlookup⟩
          · rintro ⟨⟨text, htext⟩, hlookup⟩
            rw [htext] at hlookup
            exact ⟨htext.trans hlookup, by rw [← Option.some.inj hlookup]; rfl⟩
    | some requests =>
        have hnone (hlookup : ∀ symbols, requests.lookup command = some symbols → symbols = []) :
            Selects macros (some requests) command none := by
          rintro name ⟨-, hrequested⟩
          obtain ⟨symbols, hsymbols, hname⟩ := hrequested requests rfl
          rw [hlookup symbols hsymbols] at hname
          exact absurd hname List.not_mem_nil
        simp only
        cases hsymbols : requests.lookup command with
        | none => exact hnone fun symbols h => absurd (hsymbols.symm.trans h) (by simp)
        | some symbols =>
            cases symbols with
            | nil => exact hnone fun symbols h => (Option.some.inj (hsymbols.symm.trans h)).symm
            | cons symbol symbols =>
                exact selects_filterMacros macros requests command _ hsymbols

section Announcement

variable {macros : Macros} {macrosRequests : Option MacrosRequests} {command : MilterCommand}

theorem bareName_bracedName (key : CString) :
    bareName (CommandEncoder.bracedName key) = bareName key.bytes := by
  rw [CommandEncoder.bracedName]
  split
  · rfl
  · have hbraced : (123 :: (key.bytes ++ [125])).head? = some 123 ∧
        (123 :: (key.bytes ++ [125])).tail.getLast? = some 125 :=
      ⟨rfl, List.getLast?_concat⟩
    rw [bareName, dif_pos hbraced, List.tail_cons, List.dropLast_concat]

/-- The bytes of one macro in a define-macro packet. -/
def entryBytes (macros : Macros) (entry : CString × CString) : Bytes :=
  entry.2.bytes ++ 0 :: ((CommandEncoder.valueOf macros entry.1).bytes ++ [0])

/-- Every macro has a NUL behind its name and one behind its value. -/
theorem count_entryBytes (macros : Macros) (entries : List (CString × CString)) :
    (entries.flatMap (entryBytes macros)).count 0 = 2 * entries.length := by
  induction entries with
  | nil => rfl
  | cons entry entries ih =>
      have hname := List.count_eq_zero.mpr entry.2.noNull
      have hvalue := List.count_eq_zero.mpr (CommandEncoder.valueOf macros entry.1).noNull
      rw [List.flatMap_cons, List.count_append, ih, entryBytes, List.count_append,
        List.count_cons_self, List.count_append, hname, hvalue, List.length_cons]
      simp only [List.count_singleton_self]
      omega

/-- The keys of a table that are encoded. -/
def sentKeys (order : KeyOrder) (target : Macros) : List CString :=
  (order.keys target).filter fun key => key.bytes ≠ []

/-- A macro as it is encoded: its key, and the name it gets. -/
def sentEntry (key : CString) : CString × CString :=
  (key, ⟨CommandEncoder.bracedName key, CommandEncoder.null_notMem_bracedName key⟩)

theorem mem_sentKeys {order : KeyOrder} {target : Macros} {key : CString} :
    key ∈ sentKeys order target ↔ key ∈ target ∧ key.bytes ≠ [] := by
  rw [sentKeys, List.mem_filter, order.mem_keys, decide_eq_true_iff]

theorem nodup_sentKeys (order : KeyOrder) (target : Macros) : (sentKeys order target).Nodup :=
  (order.nodup_keys target).filter _

theorem encodeMacros_eq (order : KeyOrder) {target : Macros}
    (htarget : ∀ key ∈ target, target.lookup key = macros.lookup key) :
    CommandEncoder.encodeMacros order target =
      ((sentKeys order target).map sentEntry).flatMap (entryBytes macros) := by
  have hkeys : ∀ key ∈ order.keys target, key ∈ target := fun key => (order.mem_keys target key).mp
  rw [CommandEncoder.encodeMacros, sentKeys]
  generalize order.keys target = keys at hkeys ⊢
  induction keys with
  | nil => rfl
  | cons key keys ih =>
      obtain ⟨hkey, hrest⟩ := List.forall_mem_cons.mp hkeys
      have hvalue : CommandEncoder.valueOf target key = CommandEncoder.valueOf macros key := by
        rw [CommandEncoder.valueOf, CommandEncoder.valueOf, htarget key hkey]
      rw [List.flatMap_cons, ih hrest, List.filter_cons]
      by_cases hname : key.bytes = []
      · rw [if_neg (by simp [hname]), CommandEncoder.encodeMacro, if_pos hname, List.nil_append]
      · rw [if_pos (by simp [hname]), List.map_cons, List.flatMap_cons,
          CommandEncoder.encodeMacro_of_ne target key hname, hvalue]
        rfl

theorem frame_inj {first second : Bytes} (h : frame first = frame second) : first = second := by
  have hdrop := congrArg (List.drop 4) h
  exact hdrop

/-- What is sent before a packet, when macros are encoded. -/
theorem announces_frame_iff (order : KeyOrder) {target : Macros}
    (hselects : Selects macros macrosRequests command (some target)) :
    Announces macros macrosRequests command
        (frame (MilterCommand.defineMacro.toByte :: command.toByte ::
          CommandEncoder.encodeMacros order target)) ↔
      ∀ name, Wanted macros macrosRequests command name → name ∈ sentKeys order target := by
  obtain ⟨⟨some_name, hnamed⟩, hlookup⟩ := hselects
  have htarget : ∀ key ∈ target, Named macros macrosRequests command key ∧
      target.lookup key = macros.lookup key := by
    intro key hkey
    obtain ⟨value, hvalue⟩ := Finmap.mem_iff.mp hkey
    obtain ⟨hname, hsame⟩ := (hlookup key value).mp hvalue
    exact ⟨hname, hvalue.trans hsame.symm⟩
  have hsent : ∀ key ∈ sentKeys order target, Wanted macros macrosRequests command key :=
    fun key hkey => (htarget key (mem_sentKeys.mp hkey).1).1.wanted
  have hmapped : ((sentKeys order target).map sentEntry).map Prod.fst = sentKeys order target := by
    rw [List.map_map]
    exact List.map_id _
  rw [encodeMacros_eq order fun key hkey => (htarget key hkey).2]
  constructor
  · rintro (⟨hnil, -⟩ | ⟨-, entries, hnodup, hentries, -, hframe⟩)
    · exact absurd hnil (List.cons_ne_nil _ _)
    · have hbytes : ((sentKeys order target).map sentEntry).flatMap (entryBytes macros) =
          entries.flatMap (entryBytes macros) := by
        have hcontent := frame_inj hframe
        rw [List.cons.injEq, List.cons.injEq] at hcontent
        exact hcontent.2.2
      have hlength := congrArg (List.count 0) hbytes
      rw [count_entryBytes, count_entryBytes, List.length_map] at hlength
      have hsub : (sentKeys order target) ⊆ entries.map Prod.fst := fun key hkey =>
        (hentries key).mpr (hsent key hkey)
      have hperm := ((nodup_sentKeys order target).subperm hsub).perm_of_length_le (by
        rw [List.length_map]
        omega)
      exact fun name hname => hperm.mem_iff.mpr ((hentries name).mpr hname)
  · intro hall
    refine .inr ⟨⟨some_name, hnamed.wanted⟩, (sentKeys order target).map sentEntry, ?_, ?_, ?_, rfl⟩
    · rw [hmapped]
      exact nodup_sentKeys order target
    · intro name
      rw [hmapped]
      exact ⟨hsent name, hall name⟩
    · intro entry hentry
      obtain ⟨key, -, rfl⟩ := List.mem_map.mp hentry
      exact bareName_bracedName key

theorem announces_nil_iff :
    Announces macros macrosRequests command [] ↔
      ∀ name, ¬Wanted macros macrosRequests command name := by
  constructor
  · rintro (⟨-, hnone⟩ | ⟨-, entries, -, -, -, hframe⟩)
    · exact hnone
    · exact absurd hframe.symm (List.cons_ne_nil _ _)
  · exact fun hnone => .inl ⟨rfl, hnone⟩

theorem exists_append_iff {before packet : Bytes} {P : Bytes → Prop} :
    (∃ bytes, before ++ packet = bytes ++ packet ∧ P bytes) ↔ P before := by
  constructor
  · rintro ⟨bytes, hbytes, h⟩
    rwa [List.append_cancel_right hbytes]
  · exact fun h => ⟨before, rfl, h⟩

theorem exists_append_nil_iff {packet : Bytes} {P : Bytes → Prop} :
    (∃ bytes, packet = bytes ++ packet ∧ P bytes) ↔ P [] := by
  have h := @exists_append_iff [] packet P
  exact h

theorem macroCommand_stateOf (command : MilterCommand) :
    macroCommand (stateOf command) = some command ∨ macroCommand (stateOf command) = none := by
  cases command with
  | _ => first | exact .inl rfl | exact .inr rfl

theorem prependMacro_setMacrosHashTable (order : KeyOrder) (encoder : Encoder)
    (agent : ProtocolAgent) (packet : Bytes) :
    prependMacro order encoder (agent.setMacrosHashTable command macros) packet command =
      match targetMacros (withValue macros) agent.macrosRequests command with
      | none => packet
      | some target => frame (MilterCommand.defineMacro.toByte :: command.toByte ::
          CommandEncoder.encodeMacros order target) ++ packet := by
  have hget : ((agent.setMacrosHashTable command macros).setMacroContext command).getMacros =
      some (withValue macros) := Function.update_self _ _ _
  rw [prependMacro, hget]
  rfl

end Announcement

/-- The define-macro packet before a command holds the macros that are wanted exactly when each of
them has a name, was asked for by the name it has in the table, and the command is not an unknown
one. -/
theorem packPacket_announces_iff (order : KeyOrder) (encoder : Encoder) (agent : ProtocolAgent)
    (command : MilterCommand) (macros : Macros) (packet : Bytes) :
    (∃ before, packPacket order encoder (agent.setMacrosHashTable command macros) packet
        (stateOf command) = before ++ packet ∧
      Announces macros agent.macrosRequests command before) ↔
      ∀ name, Wanted macros agent.macrosRequests command name →
        name.bytes ≠ [] ∧ Named macros agent.macrosRequests command name ∧
          macroCommand (stateOf command) = some command := by
  have hnone (hnamed : (∀ name, ¬Named macros agent.macrosRequests command name) ∨
      macroCommand (stateOf command) = none) :
      Announces macros agent.macrosRequests command [] ↔
        ∀ name, Wanted macros agent.macrosRequests command name →
          name.bytes ≠ [] ∧ Named macros agent.macrosRequests command name ∧
            macroCommand (stateOf command) = some command := by
    rw [announces_nil_iff]
    constructor
    · exact fun hwanted name hname => absurd hname (hwanted name)
    · intro hall name hname
      obtain ⟨-, hnamed', hcommand⟩ := hall name hname
      rcases hnamed with hnamed | hnothing
      · exact hnamed name hnamed'
      · exact absurd (hnothing.symm.trans hcommand) (by simp)
  rcases macroCommand_stateOf command with hcommand | hcommand
  · have hpacked : packPacket order encoder (agent.setMacrosHashTable command macros) packet
        (stateOf command) = prependMacro order encoder (agent.setMacrosHashTable command macros)
          packet command := by
      rw [packPacket, hcommand]
    have hselects := selects_targetMacros macros agent.macrosRequests command
    rw [hpacked, prependMacro_setMacrosHashTable]
    cases htarget : targetMacros (withValue macros) agent.macrosRequests command with
    | none =>
        rw [htarget] at hselects
        simp only
        rw [exists_append_nil_iff]
        exact hnone (.inl hselects)
    | some target =>
        rw [htarget] at hselects
        simp only
        rw [exists_append_iff, announces_frame_iff order hselects]
        apply forall_congr'
        intro name
        apply imp_congr_right
        intro hwanted
        rw [mem_sentKeys]
        constructor
        · rintro ⟨hname, hne⟩
          obtain ⟨value, hvalue⟩ := Finmap.mem_iff.mp hname
          exact ⟨hne, ((hselects.2 name value).mp hvalue).1, hcommand⟩
        · rintro ⟨hne, hnamed, -⟩
          obtain ⟨value, hvalue⟩ := hnamed.1
          exact ⟨Finmap.mem_iff.mpr ⟨_, (hselects.2 name _).mpr ⟨hnamed, hvalue⟩⟩, hne⟩
  · have hpacked : packPacket order encoder (agent.setMacrosHashTable command macros) packet
        (stateOf command) = packet := by
      rw [packPacket, hcommand]
    rw [hpacked, exists_append_nil_iff]
    exact hnone (.inr hcommand)

/-- `auth_type`. -/
def authType : CString := ⟨[97, 117, 116, 104, 95, 116, 121, 112, 101], by decide⟩

/-- The macros that `{auth_type}` with the value `PLAIN` defines. -/
def authMacros : Macros := Finmap.singleton authType (some ⟨[80, 76, 65, 73, 78], by decide⟩)

/-- The symbols of a child that asks for `{auth_type}` before an envelope sender. -/
def authRequests : MacrosRequests :=
  Finmap.singleton .envelopeFrom
    [⟨[123, 97, 117, 116, 104, 95, 116, 121, 112, 101, 125], by decide⟩]

/-- A child that asks for a macro with its braces, as the protocol has it, does not get it. -/
theorem not_announces_braced :
    CommandDecoder.decodeDefineMacros (.atFrame
        [123, 97, 117, 116, 104, 95, 116, 121, 112, 101, 125, 0, 80, 76, 65, 73, 78, 0] []
        fun _ => 0) 18 = .ok authMacros ∧
      ReplyDecoder.decodeMacrosRequests (.atFrame
        [0, 0, 0, 2, 123, 97, 117, 116, 104, 95, 116, 121, 112, 101, 125, 0] [] fun _ => 0) 16 =
        .ok (some authRequests) ∧
      ¬∃ before, packPacket CommandEncoder.someOrder .init
          ((ProtocolAgent.init.setMacrosRequests (some authRequests)).setMacrosHashTable
            .envelopeFrom authMacros) [77, 97, 0] .envelopeFrom = before ++ [77, 97, 0] ∧
        Announces authMacros (some authRequests) .envelopeFrom before := by
  refine ⟨rfl, rfl, ?_⟩
  have hpacked : packPacket CommandEncoder.someOrder .init
      ((ProtocolAgent.init.setMacrosRequests (some authRequests)).setMacrosHashTable
        .envelopeFrom authMacros) [77, 97, 0] .envelopeFrom = [77, 97, 0] := by
    have hcommand : macroCommand .envelopeFrom = some .envelopeFrom := rfl
    rw [packPacket, hcommand]
    exact prependMacro_setMacrosHashTable CommandEncoder.someOrder .init _ _
  rw [hpacked, exists_append_nil_iff, announces_nil_iff]
  intro hnone
  apply hnone authType
  refine ⟨⟨_, Finmap.lookup_singleton_eq⟩, fun requests hrequests => ?_⟩
  obtain rfl := Option.some.inj hrequests
  exact ⟨_, Finmap.lookup_singleton_eq, _, List.mem_cons_self, bareName_bracedName authType⟩

end MilterManager.Server
