import MilterManager.Codec.CommandDecoder
import MilterManager.Codec.Fields

/-!
# The command handlers on a frame

What the handlers of define-macro and connect give for the bytes of one frame that other bytes
follow in the buffer. The other handlers are layouts of the decoder.
-/

namespace MilterManager.Codec.CommandDecoder

open MilterManager.Base MilterManager.Core

section DefineMacro

variable (following : Bytes) (residue : Nat → UInt8) (macros : Macros)

theorem decodeDefineMacrosFrom_nil (fuel : Nat) :
    decodeDefineMacrosFrom fuel (.atFrame [] following residue) ([] : Bytes).length macros =
      .ok macros := by
  cases fuel with
  | zero => rfl
  | succ fuel => rfl

theorem length_pos_of_null (text after : Bytes) :
    ¬ (((text ++ 0 :: after).length : Int) ≤ 0) := by
  rw [List.length_append, List.length_cons]
  omega

/-- One round of the loop: a macro whose name and value both end in the frame. -/
theorem decodeDefineMacrosFrom_append (fuel : Nat) (name value after : Bytes) (hname : 0 ∉ name)
    (hne : name ≠ []) (hvalue : 0 ∉ value) :
    decodeDefineMacrosFrom (fuel + 1)
        (.atFrame (name ++ 0 :: (value ++ 0 :: after)) following residue)
        (name ++ 0 :: (value ++ 0 :: after)).length macros =
      decodeDefineMacrosFrom fuel (.atFrame after following residue) after.length
        (macros.insert (normalizeMacroName ⟨name, hname⟩) (some ⟨value, hvalue⟩)) := by
  rw [decodeDefineMacrosFrom, if_neg (length_pos_of_null _ _),
    decodeNonEmptyValue_append _ _ _ _ _ _ hname hne, Memory.string_atFrame_append _ _ _ _ hname]
  simp only [bind, Except.bind]
  rw [Memory.advance_atFrame_append, length_after,
    decodeNullTerminatedValue_append _ _ _ _ _ _ hvalue,
      Memory.string_atFrame_append _ _ _ _ hvalue]
  simp only
  rw [Memory.advance_atFrame_append, length_after]

theorem decodeDefineMacrosFrom_empty (fuel : Nat) (after : Bytes) :
    decodeDefineMacrosFrom (fuel + 1) (.atFrame (0 :: after) following residue) (0 :: after).length
      macros = .error .silent := by
  have hlength : ¬ (((0 :: after).length : Int) ≤ 0) := by
    rw [List.length_cons]
    omega
  rw [decodeDefineMacrosFrom, if_neg hlength, decodeNonEmptyValue_empty]
  rfl

theorem decodeDefineMacrosFrom_of_notMem (fuel : Nat) (fields : Bytes) (hne : fields ≠ [])
    (h : 0 ∉ fields) :
    decodeDefineMacrosFrom (fuel + 1) (.atFrame fields following residue) fields.length macros =
      .error (.error ⟨.missingNull, "name isn't terminated by NULL on define macro command",
        [quotedText fields following]⟩) := by
  have hlength : ¬ ((fields.length : Int) ≤ 0) := by
    have : fields.length ≠ 0 := fun h0 => hne (List.length_eq_zero_iff.mp h0)
    omega
  rw [decodeDefineMacrosFrom, if_neg hlength, decodeNonEmptyValue_of_notMem _ _ _ _ _ h]
  rfl

theorem decodeDefineMacrosFrom_of_notMem_after (fuel : Nat) (name after : Bytes) (hname : 0 ∉ name)
    (hne : name ≠ []) (hafter : 0 ∉ after) :
    decodeDefineMacrosFrom (fuel + 1) (.atFrame (name ++ 0 :: after) following residue)
        (name ++ 0 :: after).length macros =
      .error (.error ⟨.missingNull, "value isn't terminated by NULL on define macro command",
        [quotedText after following]⟩) := by
  rw [decodeDefineMacrosFrom, if_neg (length_pos_of_null _ _),
    decodeNonEmptyValue_append _ _ _ _ _ _ hname hne]
  simp only [bind, Except.bind]
  rw [Memory.advance_atFrame_append, length_after,
    decodeNullTerminatedValue_of_notMem _ _ _ _ _ hafter]
  rfl

variable (tag : UInt8)

/-- The context of the macros, when it is no NUL; the length counts from the command byte on. -/
theorem decodeDefineMacro_cons (context : UInt8) (fields : Bytes) (length : Int) (htag : tag ≠ 0)
    (hcontext : context ≠ 0) :
    decodeDefineMacro (.atFrame (tag :: context :: fields) following residue) length =
      (do
        let command ← checkMacroContext context
        let macros ← decodeDefineMacros (.atFrame fields following residue) (length - 2)
        emit (.defineMacro command macros)) := by
  have hstring : ∃ rest,
      (Memory.atFrame (tag :: context :: fields) following residue).string.bytes =
        tag :: context :: rest := by
    refine ⟨(fields ++ following ++ [0]).takeWhile (· ≠ 0), ?_⟩
    simp [Memory.string, Memory.atFrame, CString.ofBytes, htag, hcontext]
  obtain ⟨rest, hrest⟩ := hstring
  have hcheck : checkCommandLength
      ((Memory.atFrame (tag :: context :: fields) following residue).advance 1)
      (((Memory.atFrame (tag :: context :: fields) following residue).string.length : Int) - 1) 1
      .atLeast "macro context on define macro command" = .ok () := by
    have haccepts : CompareType.atLeast.accepts
        (((Memory.atFrame (tag :: context :: fields) following residue).string.length : Int) - 1)
        1 = true := by
      simp only [CString.length, hrest, CompareType.accepts, List.length_cons, decide_eq_true_eq]
      omega
    rw [checkCommandLength, haccepts, if_pos rfl]
  have hget : (Memory.atFrame (tag :: context :: fields) following residue).get 1 = context := rfl
  have hadvance : (Memory.atFrame (tag :: context :: fields) following residue).advance 2 =
      .atFrame fields following residue :=
    Memory.advance_atFrame (tag :: context :: fields) following residue 2 (by simp)
  rw [decodeDefineMacro, hcheck, hget, hadvance]
  rfl

/-- The context of the macros, when the frame has it. -/
theorem decodeDefineMacro_context (context : UInt8) (fields : Bytes) (htag : tag ≠ 0)
    (hcontext : context ≠ 0) :
    decodeDefineMacro (.atFrame (tag :: context :: fields) following residue)
        (tag :: context :: fields).length =
      (do
        let command ← checkMacroContext context
        let macros ← decodeDefineMacros (.atFrame fields following residue) fields.length
        emit (.defineMacro command macros)) := by
  have hlength : ((tag :: context :: fields).length : Int) - 2 = fields.length := by
    simp only [List.length_cons]
    omega
  rw [decodeDefineMacro_cons _ _ _ _ _ _ htag hcontext, hlength]

/-- A C string of the command byte alone has no context. -/
theorem decodeDefineMacro_of_length_one (buffer : Memory) (commandLength : Int)
    (h : buffer.string.length = 1) :
    decodeDefineMacro buffer commandLength =
      .error (.error ⟨.shortCommandLength, "macro context on define macro command", []⟩) := by
  rw [decodeDefineMacro, h]
  rfl

theorem length_string_of_null (fields : Bytes) (htag : tag ≠ 0) :
    (Memory.mk (tag :: 0 :: fields) residue).string.length = 1 := by
  have hbytes : (Memory.mk (tag :: 0 :: fields) residue).string.bytes = [tag] := by
    simp [Memory.string, CString.ofBytes, htag]
  rw [CString.length, hbytes]
  rfl

/-- A context of NUL is the end of the C string. -/
theorem decodeDefineMacro_null (fields : Bytes) (htag : tag ≠ 0) :
    decodeDefineMacro (.atFrame (tag :: 0 :: fields) following residue)
        (tag :: 0 :: fields).length =
      .error (.error ⟨.shortCommandLength, "macro context on define macro command", []⟩) :=
  decodeDefineMacro_of_length_one _ _ (length_string_of_null residue tag _ htag)

end DefineMacro

section Connect

variable (addressText : AddressText) (following : Bytes) (residue : Nat → UInt8)

theorem decodeConnectText_of_short (fields : Bytes) (quoted : List Bytes)
    (h : fields.length < 2) :
    decodeConnectText (.atFrame fields following residue) fields.length quoted =
      .error (.error ⟨.shortCommandLength, "port number on connect command",
        inspected fields following⟩) := by
  have hcheck := checkCommandLength_atLeast following residue "port number on connect command"
    fields 2
  rw [decodeConnectText, show (2 : Int) = (2 : Nat) from rfl, hcheck, if_neg (by omega)]
  rfl

/-- The port is there; the text behind it decides. -/
theorem decodeConnectText_of_port (a b : UInt8) (fields : Bytes) (quoted : List Bytes) :
    decodeConnectText (.atFrame (a :: b :: fields) following residue) (a :: b :: fields).length
        quoted =
      (do
        let _ ← decodeNonEmptyValue (.atFrame fields following residue) fields.length
          "address name isn't terminated by NULL on connect command" (quoted ++ [[a, b]])
        return ([a, b], (Memory.atFrame fields following residue).string)) := by
  have hcheck := checkCommandLength_atLeast following residue "port number on connect command"
    (a :: b :: fields) 2
  have hadvance : (Memory.atFrame (a :: b :: fields) following residue).advance 2 =
      .atFrame fields following residue :=
    Memory.advance_atFrame _ _ _ 2 (by simp)
  have htake : (Memory.atFrame (a :: b :: fields) following residue).take 2 = [a, b] :=
    Memory.take_atFrame _ _ _ 2 (by simp)
  have hlength : ((a :: b :: fields).length : Int) - (2 : Nat) = fields.length := by
    simp only [List.length_cons]
    omega
  rw [decodeConnectText, show (2 : Int) = (2 : Nat) from rfl, hcheck, if_pos (by simp), hadvance,
    htake, hlength]
  rfl

/-- The family of the address, when the frame has it. -/
theorem decodeConnectContent_family (host : Bytes) (family : UInt8) (fields : Bytes)
    (hhost : 0 ∉ host) (hne : host ≠ []) :
    decodeConnectContent addressText
        (.atFrame (host ++ 0 :: family :: fields) following residue)
        (host ++ 0 :: family :: fields).length =
      decodeConnectAddress addressText family (.atFrame fields following residue) fields.length
        ⟨host, hhost⟩ := by
  have hget : (Memory.atFrame (host ++ 0 :: family :: fields) following residue).get
      (host.length + 1) = family := by
    rw [Memory.get_atFrame _ _ _ _ (by simp)]
    simp
  have hadvance : (Memory.atFrame (host ++ 0 :: family :: fields) following residue).advance
      (host.length + 2) = .atFrame fields following residue := by
    rw [Memory.advance_atFrame _ _ _ _ (by simp)]
    congr 1
    rw [List.drop_append, List.drop_of_length_le (by omega)]
    simp
  have hlength : ((host ++ 0 :: family :: fields).length : Int) - (host.length + 2) =
      fields.length := by
    simp only [List.length_append, List.length_cons]
    omega
  rw [decodeConnectContent, decodeNonEmptyValue_append _ _ _ _ _ _ hhost hne,
    Memory.string_atFrame_append _ _ _ _ hhost]
  simp only [bind, Except.bind]
  rw [hget, hadvance, hlength]

/-- The host name ends the frame: the family is the next byte in the memory, and then the length of
the address is negative. -/
theorem decodeConnectContent_host_head (host : Bytes) (family : UInt8) (hhost : 0 ∉ host)
    (hne : host ≠ []) (hfollowing : (following ++ [0]).head? = some family) :
    decodeConnectContent addressText (.atFrame (host ++ [0]) following residue)
        (host ++ [0]).length =
      decodeConnectAddress addressText family
        ((Memory.atFrame (host ++ [0]) following residue).advance (host.length + 2)) (-1)
        ⟨host, hhost⟩ := by
  have hget : (Memory.atFrame (host ++ [0]) following residue).get (host.length + 1) = family := by
    have hsome : (host ++ [0] ++ following ++ [0])[host.length + 1]? = some family := by
      rw [List.append_assoc, List.getElem?_append_right (by simp)]
      rw [List.head?_eq_getElem?] at hfollowing
      simpa using hfollowing
    rw [Memory.get, Memory.atFrame, List.getD_eq_getElem?_getD, hsome, Option.getD_some]
  have hlength : ((host ++ [0]).length : Int) - (host.length + 2) = -1 := by
    simp only [List.length_append, List.length_cons, List.length_nil]
    omega
  rw [decodeConnectContent, decodeNonEmptyValue_append _ _ _ _ _ _ hhost hne,
    Memory.string_atFrame_append _ _ _ _ hhost]
  simp only [bind, Except.bind]
  rw [hget, hlength]

theorem decodeConnectContent_host (host : Bytes) (family : UInt8) (hhost : 0 ∉ host)
    (hne : host ≠ []) (hfamily : SocketFamily.ofByte family = none)
    (hfollowing : (following ++ [0]).head? = some family) :
    decodeConnectContent addressText (.atFrame (host ++ [0]) following residue)
        (host ++ [0]).length =
      .error (.error ⟨.unknownSocketFamily, "unexpected family on connect command",
        [host, [family]]⟩) := by
  rw [decodeConnectContent_host_head _ _ _ host family hhost hne hfollowing, decodeConnectAddress,
    hfamily]
  rfl

theorem decodeConnectAddress_negative (family : UInt8) (socketFamily : SocketFamily)
    (buffer : Memory) (hostName : CString) (h : SocketFamily.ofByte family = some socketFamily) :
    decodeConnectAddress addressText family buffer (-1) hostName = .error .overrun := by
  rw [decodeConnectAddress, h]
  cases socketFamily <;> rfl

theorem decodeConnectContent_empty (after : Bytes) :
    decodeConnectContent addressText (.atFrame (0 :: after) following residue)
      (0 :: after).length = .error .silent := by
  rw [decodeConnectContent, decodeNonEmptyValue_empty]
  rfl

theorem decodeConnectContent_of_notMem (fields : Bytes) (h : 0 ∉ fields) :
    decodeConnectContent addressText (.atFrame fields following residue) fields.length =
      .error (.error ⟨.missingNull, "host name isn't terminated by NULL on connect command",
        [quotedText fields following]⟩) := by
  rw [decodeConnectContent, decodeNonEmptyValue_of_notMem _ _ _ _ _ h]
  rfl

end Connect

/-- A chunk at the end of a message. -/
theorem decodeEndOfMessage_atFrame (following : Bytes) (residue : Nat → UInt8) (tag : UInt8)
    (fields : Bytes) (h : fields ≠ []) :
    decodeEndOfMessage (.atFrame (tag :: fields) following residue) (tag :: fields).length =
      emit (.endOfMessage (some (Memory.atFrame fields following residue).string.bytes)
        fields.length) := by
  have hpos : 0 < fields.length := List.length_pos_iff.mpr h
  have hmore : ((tag :: fields).length : Int) > 1 := by
    rw [List.length_cons]
    omega
  rw [decodeEndOfMessage, if_pos hmore, length_fields, Memory.advance_atFrame_cons]

end MilterManager.Codec.CommandDecoder
