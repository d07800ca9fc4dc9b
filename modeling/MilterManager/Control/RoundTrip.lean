import MilterManager.Codec.Sequence
import MilterManager.Control.Protocol

/-!
# Round trips of the control and the launch protocol

Which sequences of control commands, control replies and launch commands are read back. A text at
the end of a frame has no NUL of its own, so the decoder takes it up to the first NUL of what
follows.
-/

namespace MilterManager.Control

open MilterManager.Base MilterManager.Core MilterManager.Codec

section Tagged

variable {α : Type} (following : Bytes) (residue : Nat → UInt8)

/-- The decoder of the arguments gets what follows the word. -/
theorem decodeTag_tagged (tag : CString) (htag : tag.bytes ≠ []) (fields : Bytes) (message : String)
    (decodeArguments : CString → Memory → Int → Except Failure α) :
    decodeTag (.atFrame (tagged tag fields) following residue) (tagged tag fields).length message
        decodeArguments =
      decodeArguments tag (.atFrame fields following residue) fields.length := by
  have hlength : ((tag.bytes ++ 0 :: fields).length : Int) - tag.bytes.length - 1 =
      fields.length := by
    rw [List.length_append, List.length_cons]
    omega
  rw [decodeTag, tagged,
    decodeNonEmptyValue_append following residue message [] tag.bytes fields tag.noNull htag,
    Memory.string_atFrame_append _ _ _ _ tag.noNull]
  simp only [bind, Except.bind]
  rw [Memory.advance_atFrame_append, hlength]

/-- The copy of some bytes is all of them when they have no NUL and one is behind them. -/
theorem bytes_string_atFrame_iff (fields : Bytes) :
    (Memory.atFrame fields following residue).string.bytes = fields ↔
      0 ∉ fields ∧ HeadNull following := by
  constructor
  · intro heq
    have hnull : 0 ∉ fields := heq ▸ (Memory.atFrame fields following residue).string.noNull
    exact ⟨hnull,
      (Memory.string_atFrame_iff following residue ⟨fields, hnull⟩).mp (CString.ext heq)⟩
  · rintro ⟨hnull, hhead⟩
    rw [(Memory.string_atFrame_iff following residue ⟨fields, hnull⟩).mpr hhead]

end Tagged

section EmitsBefore

variable {σ : Type} {handler : Handler σ} {content : Bytes} {signal : σ}

/-- A frame that ends in a text is signalled in front of a NUL, if at all. -/
theorem emitsBefore_iff_and {p : Prop}
    (h : ∀ following residue, handler (.atFrame content following residue) content.length =
      emit signal ↔ p ∧ HeadNull following) (stream : Bytes) :
    EmitsBefore handler content stream signal ↔ p ∧ HeadNull stream := by
  constructor
  · exact fun hall => (h stream fun _ => 0).mp (hall stream List.prefix_rfl fun _ => 0)
  · rintro ⟨hp, hhead⟩ following hprefix residue
    rw [h]
    exact ⟨hp, hhead.of_prefix hprefix⟩

theorem emitsBefore_iff_headNull
    (h : ∀ following residue, handler (.atFrame content following residue) content.length =
      emit signal ↔ HeadNull following) (stream : Bytes) :
    EmitsBefore handler content stream signal ↔ HeadNull stream := by
  have hand := emitsBefore_iff_and (p := True) (fun following residue => by
    rw [h, true_and]) stream
  rwa [true_and] at hand

theorem emit_inj {first second : σ} (h : emit first = emit second) : first = second := by
  have hemission := Except.ok.inj h
  exact (Emission.mk.inj hemission).1

end EmitsBefore

namespace ControlCommand

/-- The content of the packet of a command. -/
def content : ControlCommand → Bytes
  | .setConfiguration configuration => tagged setConfigurationTag configuration
  | .reload => tagged reloadTag []
  | .getStatus => tagged getStatusTag []

/-- The signal of a command. -/
def signal : ControlCommand → ControlCommandSignal
  | .setConfiguration configuration => .setConfiguration configuration configuration.length
  | .reload => .reload
  | .getStatus => .getStatus

theorem encode_snd (encoder : Encoder) (command : ControlCommand) :
    (ControlCommandEncoder.encode encoder command).2 = frame command.content := by
  cases command with
  | _ => rfl

/-- A configuration has no NUL. -/
def NullFree : ControlCommand → Prop
  | .setConfiguration configuration => 0 ∉ configuration
  | .reload | .getStatus => True

/-- The frame of the command ends in a text without a NUL. -/
def EndsInText : ControlCommand → Prop
  | .setConfiguration _ => True
  | .reload | .getStatus => False

theorem decode_setConfiguration (configuration following : Bytes) (residue : Nat → UInt8) :
    ControlCommandDecoder.decode
        (.atFrame (tagged setConfigurationTag configuration) following residue)
        (tagged setConfigurationTag configuration).length =
      emit (.setConfiguration (Memory.atFrame configuration following residue).string.bytes
        configuration.length) := by
  rw [ControlCommandDecoder.decode, decodeTag_tagged _ _ setConfigurationTag (by decide),
    if_pos rfl]
  rfl

theorem emitsBefore_iff (command : ControlCommand) (stream : Bytes) :
    EmitsBefore ControlCommandDecoder.decode command.content stream command.signal ↔
      command.NullFree ∧ (command.EndsInText → HeadNull stream) := by
  cases command with
  | setConfiguration configuration =>
      have hiff : EmitsBefore ControlCommandDecoder.decode
          (content (.setConfiguration configuration)) stream
          (signal (.setConfiguration configuration)) ↔ 0 ∉ configuration ∧ HeadNull stream := by
        apply emitsBefore_iff_and
        intro following residue
        rw [content, decode_setConfiguration,
          ← bytes_string_atFrame_iff following residue configuration]
        constructor
        · intro heq
          exact (ControlCommandSignal.setConfiguration.inj (emit_inj heq)).1
        · intro heq
          rw [heq]
          rfl
      exact hiff.trans ⟨fun h => ⟨h.1, fun _ => h.2⟩, fun h => ⟨h.1, h.2 trivial⟩⟩
  | reload =>
      apply iff_of_true
      · intro following _ residue
        rw [ControlCommandDecoder.decode, content, decodeTag_tagged _ _ reloadTag (by decide),
          if_neg (by decide), if_neg (by decide), if_pos rfl]
        rfl
      · exact ⟨trivial, False.elim⟩
  | getStatus =>
      apply iff_of_true
      · intro following _ residue
        rw [ControlCommandDecoder.decode, content, decodeTag_tagged _ _ getStatusTag (by decide),
          if_neg (by decide), if_neg (by decide), if_neg (by decide), if_pos rfl]
        rfl
      · exact ⟨trivial, False.elim⟩

/-- A command without a NUL in its configuration is signalled in front of a NUL. -/
theorem emitsBeforeNull (command : ControlCommand) (h : command.NullFree) :
    EmitsBeforeNull ControlCommandDecoder.decode command.content command.signal := by
  intro following residue hhead
  exact (command.emitsBefore_iff following).mpr ⟨h, fun _ => hhead⟩ following List.prefix_rfl
    residue

end ControlCommand

namespace ControlReply

/-- The content of the packet of a reply. -/
def content : ControlReply → Bytes
  | .success => tagged successTag []
  | .failure message => tagged failureTag message.bytes
  | .error message => tagged errorTag message.bytes
  | .configuration bytes => tagged configurationTag bytes
  | .status bytes => tagged statusTag bytes

/-- The signal of a reply. -/
def signal : ControlReply → ControlReplySignal
  | .success => .success
  | .failure message => .failure message
  | .error message => .error message
  | .configuration bytes => .configuration bytes bytes.length
  | .status bytes => .status bytes bytes.length

/-- The decoder knows the reply, and a configuration has no NUL. -/
def Known : ControlReply → Prop
  | .status _ => False
  | .configuration bytes => 0 ∉ bytes
  | .success | .failure _ | .error _ => True

/-- The frame of the reply ends in a text without a NUL. -/
def EndsInText : ControlReply → Prop
  | .failure _ | .error _ | .configuration _ => True
  | .success | .status _ => False

theorem encode_snd (encoder : Encoder) (reply : ControlReply) :
    (ControlReplyEncoder.encode encoder reply).2 = frame reply.content := by
  cases reply with
  | _ => rfl

section Decode

variable (following : Bytes) (residue : Nat → UInt8) (tag : CString) (fields : Bytes)

/-- What the decoder does that the control reply decoder is derived from. -/
theorem decode_tagged (htag : tag.bytes ≠ []) :
    ManagerReplyDecoder.decode (.atFrame (tagged tag fields) following residue)
        (tagged tag fields).length =
      if tag = successTag then
        ManagerReplyDecoder.decodeSuccess (.atFrame fields following residue) fields.length
      else if tag = failureTag then
        ManagerReplyDecoder.decodeFailure (.atFrame fields following residue) fields.length
      else if tag = errorTag then
        ManagerReplyDecoder.decodeError (.atFrame fields following residue) fields.length
      else throw (.error ⟨.unexpectedReply, "unexpected reply was received", [tag.bytes]⟩) := by
  rw [ManagerReplyDecoder.decode, decodeTag_tagged _ _ tag htag]

theorem decode_control_tagged (htag : tag.bytes ≠ []) {emission : Emission ControlReplySignal}
    (h : ManagerReplyDecoder.decode (.atFrame (tagged tag fields) following residue)
      (tagged tag fields).length = .ok emission) :
    ControlReplyDecoder.decode (.atFrame (tagged tag fields) following residue)
      (tagged tag fields).length = .ok emission := by
  rw [ControlReplyDecoder.decode, decodeTag_tagged _ _ tag htag, h]

/-- A reply that the derived decoder has to take. -/
theorem decode_control_unknown (htag : tag.bytes ≠ []) (hsuccess : tag ≠ successTag)
    (hfailure : tag ≠ failureTag) (herror : tag ≠ errorTag) :
    ControlReplyDecoder.decode (.atFrame (tagged tag fields) following residue)
        (tagged tag fields).length =
      if tag = configurationTag then
        emit (.configuration (Memory.atFrame fields following residue).string.bytes fields.length)
      else throw (.error ⟨.unexpectedReply, "unexpected reply was received", [tag.bytes]⟩) := by
  rw [ControlReplyDecoder.decode, decodeTag_tagged _ _ tag htag, decode_tagged _ _ tag fields htag,
    if_neg hsuccess, if_neg hfailure, if_neg herror, ControlReplyDecoder.decodeConfiguration]
  rfl

end Decode

/-- A reply with a text at its end. -/
theorem emitsBefore_text_iff {tag message : CString} {signal : CString → ControlReplySignal}
    (hinjective : Function.Injective signal)
    (h : ∀ following residue,
      ControlReplyDecoder.decode (.atFrame (tagged tag message.bytes) following residue)
        (tagged tag message.bytes).length =
          emit (signal (Memory.atFrame message.bytes following residue).string)) (stream : Bytes) :
    EmitsBefore ControlReplyDecoder.decode (tagged tag message.bytes) stream (signal message) ↔
      HeadNull stream := by
  apply emitsBefore_iff_headNull
  intro following residue
  rw [h, ← Memory.string_atFrame_iff following residue message]
  constructor
  · exact fun heq => hinjective (emit_inj heq)
  · exact fun heq => congrArg (fun text => emit (signal text)) heq

theorem emitsBefore_iff (reply : ControlReply) (stream : Bytes) :
    EmitsBefore ControlReplyDecoder.decode reply.content stream reply.signal ↔
      reply.Known ∧ (reply.EndsInText → HeadNull stream) := by
  cases reply with
  | success =>
      apply iff_of_true
      · intro following _ residue
        apply decode_control_tagged _ _ successTag [] (by decide)
        rw [decode_tagged _ _ successTag [] (by decide), if_pos rfl]
        rfl
      · exact ⟨trivial, False.elim⟩
  | failure message =>
      have htext := emitsBefore_text_iff (fun _ _ => ControlReplySignal.failure.inj)
        (fun following residue => decode_control_tagged following residue failureTag message.bytes
          (by decide) (by
            rw [decode_tagged _ _ failureTag message.bytes (by decide), if_neg (by decide),
              if_pos rfl]
            rfl)) stream
      exact htext.trans ⟨fun h => ⟨trivial, fun _ => h⟩, fun h => h.2 trivial⟩
  | error message =>
      have htext := emitsBefore_text_iff (fun _ _ => ControlReplySignal.error.inj)
        (fun following residue => decode_control_tagged following residue errorTag message.bytes
          (by decide) (by
            rw [decode_tagged _ _ errorTag message.bytes (by decide), if_neg (by decide),
              if_neg (by decide), if_pos rfl]
            rfl)) stream
      exact htext.trans ⟨fun h => ⟨trivial, fun _ => h⟩, fun h => h.2 trivial⟩
  | configuration bytes =>
      have hiff : EmitsBefore ControlReplyDecoder.decode (content (.configuration bytes)) stream
          (signal (.configuration bytes)) ↔ 0 ∉ bytes ∧ HeadNull stream := by
        apply emitsBefore_iff_and
        intro following residue
        rw [content, decode_control_unknown _ _ configurationTag bytes (by decide) (by decide)
          (by decide) (by decide), if_pos rfl, ← bytes_string_atFrame_iff following residue bytes]
        constructor
        · intro heq
          exact (ControlReplySignal.configuration.inj (emit_inj heq)).1
        · intro heq
          rw [heq]
          rfl
      exact hiff.trans ⟨fun h => ⟨h.1, fun _ => h.2⟩, fun h => ⟨h.1, h.2 trivial⟩⟩
  | status bytes =>
      apply iff_of_false
      · intro h
        have hdecode := h [] List.nil_prefix fun _ => 0
        rw [content, decode_control_unknown _ _ statusTag bytes (by decide) (by decide)
          (by decide) (by decide), if_neg (by decide)] at hdecode
        cases hdecode
      · exact fun h => h.1

end ControlReply

namespace LaunchCommand

/-- The content of the packet of a launch command. -/
def content (command : LaunchCommand) : Bytes :=
  tagged launchTag (command.commandLine.bytes ++ 0 :: command.userName.elim [] CString.bytes)

/-- The signal of a launch command. -/
def signal (command : LaunchCommand) : LaunchSignal := ⟨command.commandLine, command.userName⟩

theorem encode_snd (encoder : Encoder) (command : LaunchCommand) :
    (LaunchCommandEncoder.encode encoder command).2 = frame command.content := rfl

theorem decode_content (command : LaunchCommand) (following : Bytes) (residue : Nat → UInt8) :
    LaunchCommandDecoder.decode (.atFrame command.content following residue)
        command.content.length =
      emit ⟨command.commandLine,
        if command.userName.elim [] CString.bytes = [] then none
        else some (Memory.atFrame (command.userName.elim [] CString.bytes) following
          residue).string⟩ := by
  rw [LaunchCommandDecoder.decode, content, decodeTag_tagged _ _ launchTag (by decide), if_pos rfl]
  generalize command.userName.elim [] CString.bytes = name
  have hlength : ((command.commandLine.bytes.length : Int) <
      (command.commandLine.bytes ++ 0 :: name).length - 1) ↔ name ≠ [] := by
    rw [List.length_append, List.length_cons, ← List.length_pos_iff_ne_nil]
    omega
  rw [LaunchCommandDecoder.decodeLaunch, decodeNonEmptyValue_append following residue _ _
    command.commandLine.bytes name command.commandLine.noNull command.nonempty]
  simp only [bind, Except.bind]
  rw [Memory.string_atFrame_append _ _ _ _ command.commandLine.noNull,
    Memory.advance_atFrame_append]
  by_cases hname : name = []
  · rw [if_neg (mt hlength.mp (not_not.mpr hname)), if_pos hname]
  · rw [if_pos (hlength.mpr hname), if_neg hname]

theorem emitsBefore_iff (command : LaunchCommand) (stream : Bytes) :
    EmitsBefore LaunchCommandDecoder.decode command.content stream command.signal ↔
      command.userName ≠ some .empty ∧ (command.userName.isSome = true → HeadNull stream) := by
  cases huser : command.userName with
  | none =>
      apply iff_of_true
      · intro following _ residue
        rw [decode_content, huser, signal, huser]
        rfl
      · exact ⟨Option.some_ne_none _ |>.symm, fun h => absurd h (by simp)⟩
  | some name =>
      by_cases hempty : name.bytes = []
      · apply iff_of_false
        · intro h
          have hdecode := h [] List.nil_prefix fun _ => 0
          rw [decode_content, huser, Option.elim_some, if_pos hempty] at hdecode
          have hsignal := congrArg LaunchSignal.userName (emit_inj hdecode)
          exact absurd (hsignal.trans huser) (Option.some_ne_none name).symm
        · exact fun h => h.1 (congrArg some (CString.ext hempty))
      · have hne : some name ≠ some CString.empty := fun heq =>
          hempty (congrArg CString.bytes (Option.some.inj heq))
        rw [emitsBefore_iff_headNull]
        · exact ⟨fun h => ⟨hne, fun _ => h⟩, fun h => h.2 rfl⟩
        · intro following residue
          rw [decode_content, huser, Option.elim_some, if_neg hempty, signal, huser,
            ← Memory.string_atFrame_iff following residue name]
          constructor
          · intro heq
            exact Option.some.inj (congrArg LaunchSignal.userName (emit_inj heq))
          · intro heq
            rw [heq]

end LaunchCommand

/-- Sequences of control commands, control replies and launch commands are read back one by one
exactly when their contents are short enough, no configuration has a NUL, no reply is a status, no
user name is empty, and no frame that ends in a text or a configuration comes before one of
`0x1000000` bytes or more. -/
theorem readsBackEach_iff (commands : List ControlCommand) (replies : List ControlReply)
    (launches : List LaunchCommand) :
    (ReadsBackEach ControlCommandDecoder.decode
          (outputs ControlCommandEncoder.encode .init commands) (commands.map (·.signal)) ↔
        (∀ command ∈ commands, command.content.length < lengthLimit ∧ command.NullFree) ∧
          commands.IsChain fun command next =>
            command.EndsInText → next.content.length < 0x1000000) ∧
      (ReadsBackEach ControlReplyDecoder.decode
            (outputs ControlReplyEncoder.encode .init replies) (replies.map (·.signal)) ↔
          (∀ reply ∈ replies, reply.content.length < lengthLimit ∧ reply.Known) ∧
            replies.IsChain fun reply next =>
              reply.EndsInText → next.content.length < 0x1000000) ∧
      (ReadsBackEach LaunchCommandDecoder.decode
            (outputs LaunchCommandEncoder.encode .init launches) (launches.map (·.signal)) ↔
          (∀ launch ∈ launches, launch.content.length < lengthLimit ∧
              launch.userName ≠ some .empty) ∧
            launches.IsChain fun launch next =>
              launch.userName.isSome = true → next.content.length < 0x1000000) := by
  refine ⟨?_, ?_, ?_⟩
  · rw [outputs_eq_map ControlCommand.encode_snd]
    exact readsBackEach_map_iff ControlCommand.emitsBefore_iff commands
  · rw [outputs_eq_map ControlReply.encode_snd]
    exact readsBackEach_map_iff ControlReply.emitsBefore_iff replies
  · rw [outputs_eq_map LaunchCommand.encode_snd]
    exact readsBackEach_map_iff LaunchCommand.emitsBefore_iff launches

/-- `a`, with the name of a user that is empty. -/
def emptyUser : LaunchCommand := ⟨⟨[97], by decide⟩, by decide, some .empty⟩

/-- The decoder of the replies does not know the status that the encoder packs, an empty name of a
user is taken for none, and a configuration is signalled up to its NUL. -/
theorem not_readsBackEach :
    ¬ReadsBackEach ControlReplyDecoder.decode
        (outputs ControlReplyEncoder.encode .init [.status [97]])
        [ControlReply.signal (.status [97])] ∧
      ¬ReadsBackEach LaunchCommandDecoder.decode
        (outputs LaunchCommandEncoder.encode .init [emptyUser]) [emptyUser.signal] ∧
      ¬ReadsBackEach ControlCommandDecoder.decode
        (outputs ControlCommandEncoder.encode .init [.setConfiguration [97, 0, 98]])
        [ControlCommand.signal (.setConfiguration [97, 0, 98])] := by
  refine ⟨?_, ?_, ?_⟩
  · intro h
    have hemits := (readsBackEach_iff_separate [(ControlReply.content (.status [97]),
      ControlReply.signal (.status [97]))]).mp h
    exact ((ControlReply.emitsBefore_iff _ _).mp hemits.1.2).1
  · intro h
    have hemits := (readsBackEach_iff_separate [(emptyUser.content, emptyUser.signal)]).mp h
    exact ((LaunchCommand.emitsBefore_iff _ _).mp hemits.1.2).1 rfl
  · intro h
    have hemits := (readsBackEach_iff_separate [(ControlCommand.content
      (.setConfiguration [97, 0, 98]), ControlCommand.signal (.setConfiguration [97, 0, 98]))]).mp h
    have hnull : 0 ∉ ([97, 0, 98] : Bytes) :=
      ((ControlCommand.emitsBefore_iff _ _).mp hemits.1.2).1
    exact absurd hnull (by decide)

end MilterManager.Control
