import MilterManager.Codec.CommandLocality
import MilterManager.Codec.Discipline

/-!
# Commands that are refused loudly

The frames of commands on which the handler signals a well formed command or sets an error.
-/

namespace MilterManager.Codec.CommandDecoder

open MilterManager.Base MilterManager.Core

variable {behind : Bytes}

/-- Names that are not empty, each with a value, and nothing else. -/
def isMacros : Nat → Bytes → Bool
  | 0, fields => fields == []
  | fuel + 1, fields =>
      fields == [] || fields.contains 0 && fields.head? != some 0 &&
        (afterNull fields).contains 0 && isMacros fuel (afterNull (afterNull fields))

/-- Macros, or a NUL that is missing behind some. -/
def macrosOrderly : Nat → Bytes → Bool
  | 0, _ => true
  | fuel + 1, fields =>
      fields == [] || !fields.contains 0 || fields.head? != some 0 &&
        (!(afterNull fields).contains 0 || macrosOrderly fuel (afterNull (afterNull fields)))

theorem isMacros_append (fuel : Nat) (name value after : Bytes) (hname : 0 ∉ name)
    (hne : name ≠ []) (hvalue : 0 ∉ value) :
    isMacros (fuel + 1) (name ++ 0 :: (value ++ 0 :: after)) = isMacros fuel after := by
  rw [isMacros, bne, head?_append_null _ _ hname hne, afterNull_append _ _ hname,
    afterNull_append _ _ hvalue]
  simp

theorem macrosOrderly_append (fuel : Nat) (name value after : Bytes) (hname : 0 ∉ name)
    (hne : name ≠ []) (hvalue : 0 ∉ value) :
    macrosOrderly (fuel + 1) (name ++ 0 :: (value ++ 0 :: after)) = macrosOrderly fuel after := by
  rw [macrosOrderly, bne, head?_append_null _ _ hname hne, afterNull_append _ _ hname,
    afterNull_append _ _ hvalue]
  simp

variable (behind) in
theorem orderly_decodeDefineMacrosFrom (signal : Macros → CommandSignal) (fuel : Nat)
    (fields : Bytes) (macros : Macros) (hfuel : fields.length ≤ fuel) :
    Orderly (isMacros fuel fields) (fun memory =>
        decodeDefineMacrosFrom fuel memory fields.length macros >>= fun m => emit (signal m))
        fields behind ↔
      macrosOrderly fuel fields = true := by
  induction fuel generalizing fields macros with
  | zero =>
      have hnil : fields = [] := List.length_eq_zero_iff.mp (by omega)
      subst hnil
      rw [orderly_of_signal (signal macros) fun following residue => rfl]
      exact ⟨fun _ => rfl, fun _ => rfl⟩
  | succ fuel ih =>
      by_cases hnil : fields = []
      · subst hnil
        rw [orderly_of_signal (signal macros) fun following residue => rfl]
        exact ⟨fun _ => rfl, fun _ => rfl⟩
      · rcases null_cases fields with h | ⟨name, after, h, rfl⟩
        · refine ⟨fun _ => by simp [macrosOrderly, h], fun _ =>
            orderly_of_error (by simp [isMacros, hnil, h]) fun following residue => ?_⟩
          rw [decodeDefineMacrosFrom_of_notMem following residue macros fuel fields hnil h]
          exact ⟨_, rfl⟩
        · by_cases hne : name = []
          · subst hne
            constructor
            · intro horderly
              refine absurd horderly (not_orderly_of_silent fun following residue => ?_)
              rw [List.nil_append, decodeDefineMacrosFrom_empty]
              rfl
            · intro hself
              simp [macrosOrderly] at hself
          · rcases null_cases after with h0 | ⟨value, after, h0, rfl⟩
            · constructor
              · intro _
                rw [macrosOrderly, bne, head?_append_null _ _ h hne, afterNull_append _ _ h]
                simp [h0]
              · intro _
                apply orderly_of_error
                · rw [isMacros, bne, head?_append_null _ _ h hne, afterNull_append _ _ h]
                  simp [h0]
                intro following residue
                rw [decodeDefineMacrosFrom_of_notMem_after following residue macros fuel name after
                  h hne h0]
                exact ⟨_, rfl⟩
            · have hlength : after.length ≤ fuel := by
                simp only [List.length_append, List.length_cons] at hfuel
                omega
              rw [isMacros_append fuel name value after h hne h0,
                macrosOrderly_append fuel name value after h hne h0, ← ih after
                (macros.insert (normalizeMacroName ⟨name, h⟩) (some ⟨value, h0⟩)) hlength]
              simp only [Orderly, decodeDefineMacrosFrom_append _ _ _ _ name value after h hne h0]

/-- A context and macros. -/
def isDefineMacro : Bytes → Bool
  | [] => false
  | context :: fields =>
      ((MilterCommand.ofByte context).filter isMacroContext).isSome &&
        isMacros fields.length fields

/-- The context is there; it is no context, or the macros are orderly. Where the frame has no
context, the byte behind it is no context. -/
def defineMacroOrderly (behind : Bytes) : Bytes → Bool
  | [] => ((behind.head?.bind MilterCommand.ofByte).filter isMacroContext).isNone
  | context :: fields =>
      ((MilterCommand.ofByte context).filter isMacroContext).isNone ||
        macrosOrderly fields.length fields

theorem isNone_of_leading {following behind : Bytes} (h : following <+: behind)
    (hnone : ((behind.head?.bind MilterCommand.ofByte).filter isMacroContext).isNone = true) :
    (following.head?.bind MilterCommand.ofByte).filter isMacroContext = none := by
  cases following with
  | nil => rfl
  | cons context following =>
      obtain ⟨rest, rfl⟩ := h
      exact Option.isNone_iff_eq_none.mp hnone

section Tag

variable (tag : UInt8) (htag : tag ≠ 0) (length : Int)

include htag in
/-- A context that is no part of the frame is taken from behind it, without any macro. -/
theorem decodeDefineMacro_tag_signal (hlength : length ≤ 2) (context : UInt8)
    (command : MilterCommand) (hcommand : (MilterCommand.ofByte context).filter isMacroContext =
      some command) (following : Bytes) (residue : Nat → UInt8) :
    decodeDefineMacro (.atFrame [tag] (context :: following) residue) length =
      emit (.defineMacro command ∅) := by
  obtain ⟨hcheck, hbyte⟩ := checkMacroContext_of_some hcommand
  have hcontext : context ≠ 0 := by
    rw [← hbyte]
    exact MilterCommand.toByte_ne_zero command
  have hlonger : Memory.atFrame [tag] (context :: following) residue =
      .atFrame [tag, context] following residue :=
    Memory.atFrame_append [tag] following residue [context]
  have hfuel : (length - 2).toNat = 0 := by omega
  rw [hlonger, decodeDefineMacro_cons _ _ _ _ _ _ htag hcontext, hcheck, decodeDefineMacros, hfuel]
  rfl

include htag in
theorem decodeDefineMacro_tag_refused (following : Bytes) (residue : Nat → UInt8)
    (hnone : (following.head?.bind MilterCommand.ofByte).filter isMacroContext = none) :
    ∃ e, decodeDefineMacro (.atFrame [tag] following residue) length = .error (.error e) := by
  match following, hnone with
  | [], _ => exact ⟨_, decodeDefineMacro_of_length_one _ _
    (length_string_of_null residue tag [] htag)⟩
  | context :: following, hnone =>
      by_cases hcontext : context = 0
      · subst hcontext
        exact ⟨_, decodeDefineMacro_of_length_one _ _ (length_string_of_null residue tag _ htag)⟩
      · have hlonger : Memory.atFrame [tag] (context :: following) residue =
            .atFrame [tag, context] following residue :=
          Memory.atFrame_append [tag] following residue [context]
        rw [hlonger, decodeDefineMacro_cons _ _ _ _ _ _ htag hcontext,
          checkMacroContext_of_none hnone]
        exact ⟨_, rfl⟩

include htag in
theorem orderly_decodeDefineMacro_tag (hlength : length ≤ 2) :
    Orderly false (fun memory => decodeDefineMacro memory length) [tag] behind ↔
      defineMacroOrderly behind [] = true := by
  constructor
  · intro horderly
    match behind, horderly with
    | [], _ => rfl
    | context :: rest, horderly =>
        cases hcommand : (MilterCommand.ofByte context).filter isMacroContext with
        | none =>
            rw [defineMacroOrderly, List.head?_cons, Option.bind_some, hcommand]
            rfl
        | some command =>
            have hone := horderly [context] (fun _ => 0) ⟨rest, rfl⟩
            simp only [decodeDefineMacro_tag_signal tag htag length hlength context command
              hcommand]
              at hone
            exact absurd hone.2 nofun
  · intro hnone following residue hprefix
    obtain ⟨e, he⟩ := decodeDefineMacro_tag_refused tag htag length following residue
      (isNone_of_leading hprefix hnone)
    simp only [he]
    rfl

end Tag

theorem orderly_decodeDefineMacro (tag : UInt8) (fields : Bytes) (htag : tag ≠ 0) :
    Orderly (isDefineMacro fields) (fun memory => decodeDefineMacro memory (tag :: fields).length)
      (tag :: fields) behind ↔ defineMacroOrderly behind fields = true := by
  match fields with
  | [] => exact orderly_decodeDefineMacro_tag tag htag _ (by simp)
  | context :: fields =>
      by_cases hcontext : context = 0
      · subst hcontext
        refine ⟨fun _ => rfl, fun _ => orderly_of_error rfl fun following residue => ?_⟩
        exact ⟨_, decodeDefineMacro_null following residue tag fields htag⟩
      · cases hcommand : (MilterCommand.ofByte context).filter isMacroContext with
        | none =>
            constructor
            · intro _
              rw [defineMacroOrderly, hcommand]
              rfl
            · intro _
              apply orderly_of_error
              · rw [isDefineMacro, hcommand]
                rfl
              intro following residue
              rw [decodeDefineMacro_context following residue tag context fields htag hcontext,
                checkMacroContext_of_none hcommand]
              exact ⟨_, rfl⟩
        | some command =>
            rw [defineMacroOrderly, isDefineMacro, hcommand, Option.isSome_some, Option.isNone_some,
              Bool.true_and, Bool.false_or, ← orderly_decodeDefineMacrosFrom
              behind (fun macros => .defineMacro command macros) fields.length fields ∅
                (Nat.le_refl _)]
            simp only [Orderly,
              decodeDefineMacro_context _ _ tag context fields htag hcontext,
              (checkMacroContext_of_some hcommand).1, decodeDefineMacros, Int.toNat_natCast]
            rfl

section Connect

variable (addressText : AddressText)

/-- A port and a text that is not refused and that does not overrun the address. -/
def isConnectText (refuses overruns : CString → Bool) (fields : Bytes) : Bool :=
  decide (2 ≤ fields.length) && isText (fields.drop 2) && !refuses (.ofBytes (fields.drop 2)) &&
    !overruns (.ofBytes (fields.drop 2))

/-- A port and a text that are short of something, or that do not overrun the address and are all
there is or have a refused text. -/
def connectTextOrderly (refuses overruns : CString → Bool) (fields : Bytes) : Bool :=
  decide (fields.length < 2) || !(fields.drop 2).contains 0 ||
    (fields.drop 2).head? != some 0 && !overruns (.ofBytes (fields.drop 2)) &&
      (isText (fields.drop 2) || refuses (.ofBytes (fields.drop 2)))

variable (behind) in
theorem orderly_decodeConnectText (refuses overruns : CString → Bool) (quoted : List Bytes)
    (signal : Bytes × CString → Except Failure (Emission CommandSignal))
    (hoverran : ∀ port text, overruns text = true → signal (port, text) = .error .overrun)
    (hrefused : ∀ port text, refuses text = true → ∃ e, signal (port, text) = .error (.error e))
    (haccepted : ∀ port text, overruns text = false → refuses text = false →
      ∃ s, signal (port, text) = emit s)
    (fields : Bytes) :
    Orderly (isConnectText refuses overruns fields)
        (fun memory => decodeConnectText memory fields.length quoted >>= signal) fields behind ↔
      connectTextOrderly refuses overruns fields = true := by
  by_cases h2 : fields.length < 2
  · refine ⟨fun _ => by simp [connectTextOrderly, h2], fun _ =>
      orderly_of_error ?_ fun following residue => ?_⟩
    · rw [isConnectText, decide_eq_false (by omega), Bool.false_and, Bool.false_and, Bool.false_and]
    · rw [decodeConnectText_of_short following residue fields quoted h2]
      exact ⟨_, rfl⟩
  · match fields, h2 with
    | [], h2 => exact absurd (by simp) h2
    | [_], h2 => exact absurd (by simp) h2
    | a :: b :: rest, h2 =>
        have hwell : isConnectText refuses overruns (a :: b :: rest) =
            (isText rest && !refuses (.ofBytes rest) && !overruns (.ofBytes rest)) := by
          rw [isConnectText, decide_eq_true (by simp)]
          rfl
        have hself : connectTextOrderly refuses overruns (a :: b :: rest) =
            (!rest.contains 0 || rest.head? != some 0 && !overruns (.ofBytes rest) &&
              (isText rest || refuses (.ofBytes rest))) := by
          rw [connectTextOrderly, decide_eq_false h2]
          rfl
        rw [hwell, hself]
        rcases null_cases rest with h | ⟨text, after, h, rfl⟩
        · refine ⟨fun _ => by simp [h], fun _ =>
            orderly_of_error (by rw [isText_of_notMem rest h, Bool.false_and, Bool.false_and])
              fun following residue => ?_⟩
          rw [decodeConnectText_of_port, decodeNonEmptyValue_of_notMem _ _ _ _ _ h]
          exact ⟨_, rfl⟩
        · by_cases hne : text = []
          · subst hne
            constructor
            · intro horderly
              refine absurd horderly (not_orderly_of_silent fun following residue => ?_)
              rw [decodeConnectText_of_port, List.nil_append, decodeNonEmptyValue_empty]
              rfl
            · intro hfalse
              simp at hfalse
          · have hdecode : ∀ following residue,
                decodeConnectText (.atFrame (a :: b :: (text ++ 0 :: after)) following residue)
                    (a :: b :: (text ++ 0 :: after)).length quoted >>= signal =
                  signal ([a, b], ⟨text, h⟩) := by
              intro following residue
              rw [decodeConnectText_of_port, decodeNonEmptyValue_append _ _ _ _ _ _ h hne,
                Memory.string_atFrame_append _ _ _ _ h]
              rfl
            rw [CString.ofBytes_append_null _ _ h, bne, head?_append_null _ _ h hne]
            cases hoverruns : overruns ⟨text, h⟩ with
            | true =>
                constructor
                · intro horderly
                  refine absurd horderly (not_orderly_of_overrun fun following residue => ?_)
                  rw [hdecode]
                  exact hoverran _ _ hoverruns
                · intro hfalse
                  simp at hfalse
            | false =>
                cases hrefuses : refuses ⟨text, h⟩ with
                | true =>
                    refine ⟨fun _ => by simp, fun _ =>
                      orderly_of_error (by simp) fun following residue => ?_⟩
                    rw [hdecode]
                    exact hrefused _ _ hrefuses
                | false =>
                    obtain ⟨s, hs⟩ := haccepted [a, b] ⟨text, h⟩ hoverruns hrefuses
                    rw [orderly_of_signal s fun following residue =>
                      (hdecode following residue).trans hs]
                    simp

/-- The texts that are no address of the family. -/
def refusesAddress : SocketFamily → CString → Bool
  | .inet, text => (addressText.pton text).isNone
  | .inet6, text => (addressText.pton6 (withoutIpv6Prefix text)).isNone
  | .unix, _ | .unknown, _ => false

/-- The texts that do not fit into the address of the family. -/
def overrunsAddress : SocketFamily → CString → Bool
  | .unix, text => decide (sunPathSize ≤ text.length)
  | .inet, _ | .inet6, _ | .unknown, _ => false

/-- The bytes behind the family are the address of a connect command. -/
def isConnectAddress (family : UInt8) (fields : Bytes) : Bool :=
  match SocketFamily.ofByte family with
  | some .unknown => fields == []
  | some socketFamily =>
      isConnectText (refusesAddress addressText socketFamily) (overrunsAddress socketFamily) fields
  | none => false

/-- The address behind the family is short of something, or it fits and is all there is or is
refused. -/
def connectAddressOrderly (family : UInt8) (fields : Bytes) : Bool :=
  match SocketFamily.ofByte family with
  | some .unknown => true
  | some socketFamily =>
      connectTextOrderly (refusesAddress addressText socketFamily) (overrunsAddress socketFamily)
        fields
  | none => true

variable (behind) in
theorem orderly_decodeConnectAddress (family : UInt8) (hostName : CString) (fields : Bytes) :
    Orderly (isConnectAddress addressText family fields) (fun memory =>
        decodeConnectAddress addressText family memory fields.length hostName >>=
          fun content => emit (CommandSignal.connect content.1 content.2)) fields behind ↔
      connectAddressOrderly addressText family fields = true := by
  unfold decodeConnectAddress isConnectAddress connectAddressOrderly
  cases SocketFamily.ofByte family with
  | none => exact ⟨fun _ => rfl, fun _ => orderly_of_error rfl fun following residue => ⟨_, rfl⟩⟩
  | some socketFamily =>
      cases socketFamily with
      | unknown =>
          refine ⟨fun _ => rfl, fun _ => ?_⟩
          by_cases hnil : fields = []
          · subst hnil
            exact (orderly_of_signal (.connect hostName .unknown) fun following residue => rfl).mpr
              rfl
          · apply orderly_of_error (by simpa using hnil)
            intro following residue
            simp only [checkCommandLength_exact, if_neg hnil]
            exact ⟨_, rfl⟩
      | unix =>
          rw [← orderly_decodeConnectText behind (refusesAddress addressText .unix)
            (overrunsAddress .unix) [hostName.bytes, [family]]
            (fun text => do
              let address ← decodeConnectUnixAddress text.2
              emit (.connect hostName address)) ?_
            (fun _ _ hfalse => absurd hfalse Bool.false_ne_true) ?_ fields]
          · simp only [Orderly, bind_assoc, pure_bind]
          · intro port text hoverruns
            rw [decodeConnectUnixAddress, if_pos (of_decide_eq_true hoverruns)]
            rfl
          · intro port text hfits _
            rw [decodeConnectUnixAddress, if_neg (of_decide_eq_false hfits)]
            exact ⟨_, rfl⟩
      | inet =>
          rw [← orderly_decodeConnectText behind (refusesAddress addressText .inet)
            (overrunsAddress .inet) [hostName.bytes, [family]]
            (fun text => do
              let address ← decodeConnectInetAddress addressText text.2 text.1
                [hostName.bytes, [family]]
              emit (.connect hostName address))
            (fun _ _ hfalse => absurd hfalse Bool.false_ne_true) ?_ ?_ fields]
          · simp only [Orderly, bind_assoc, pure_bind]
          · intro port text hrefuses
            rw [decodeConnectInetAddress, Option.isNone_iff_eq_none.mp hrefuses]
            exact ⟨_, rfl⟩
          · intro port text _ hrefuses
            cases haddress : addressText.pton text with
            | none => simp [refusesAddress, haddress] at hrefuses
            | some address =>
                rw [decodeConnectInetAddress, haddress]
                exact ⟨_, rfl⟩
      | inet6 =>
          rw [← orderly_decodeConnectText behind (refusesAddress addressText .inet6)
            (overrunsAddress .inet6) [hostName.bytes, [family]]
            (fun text => do
              let address ← decodeConnectInet6Address addressText text.2 text.1
                [hostName.bytes, [family]]
              emit (.connect hostName address))
            (fun _ _ hfalse => absurd hfalse Bool.false_ne_true) ?_ ?_ fields]
          · simp only [Orderly, bind_assoc, pure_bind]
          · intro port text hrefuses
            rw [decodeConnectInet6Address, Option.isNone_iff_eq_none.mp hrefuses]
            exact ⟨_, rfl⟩
          · intro port text _ hrefuses
            cases haddress : addressText.pton6 (withoutIpv6Prefix text) with
            | none => simp [refusesAddress, haddress] at hrefuses
            | some address =>
                rw [decodeConnectInet6Address, haddress]
                exact ⟨_, rfl⟩

/-- A host name, a family and an address. -/
def isConnect (fields : Bytes) : Bool :=
  fields.contains 0 && fields.head? != some 0 &&
    match afterNull fields with
    | [] => false
    | family :: rest => isConnectAddress addressText family rest

/-- The host name has no NUL, or it is not empty and an orderly address follows it. Where the frame
has no family, the byte behind it is no family. -/
def connectOrderly (behind fields : Bytes) : Bool :=
  !fields.contains 0 || fields.head? != some 0 &&
    match afterNull fields with
    | [] => (behind.head?.bind SocketFamily.ofByte).isNone
    | family :: rest => connectAddressOrderly addressText family rest

/-- A frame that ends with the host name takes the byte behind it for the family. -/
theorem orderly_decodeConnectContent_host (host : Bytes) (hhost : 0 ∉ host) (hne : host ≠ []) :
    Orderly false (fun memory => decodeConnectContent addressText memory (host ++ [0]).length >>=
        fun content => emit (CommandSignal.connect content.1 content.2)) (host ++ [0]) behind ↔
      (behind.head?.bind SocketFamily.ofByte).isNone = true := by
  constructor
  · intro horderly
    match behind, horderly with
    | [], _ => rfl
    | family :: rest, horderly =>
        cases hfamily : SocketFamily.ofByte family with
        | none =>
            rw [List.head?_cons, Option.bind_some, hfamily]
            rfl
        | some socketFamily =>
            have hone := horderly [family] (fun _ => 0) ⟨rest, rfl⟩
            simp only at hone
            rw [decodeConnectContent_host_head addressText _ _ host family hhost hne rfl,
              decodeConnectAddress_negative addressText family socketFamily _ _ hfamily] at hone
            exact absurd hone id
  · intro hnone following residue hprefix
    obtain ⟨family, hfollowing, hfamily⟩ : ∃ family, (following ++ [0]).head? = some family ∧
        SocketFamily.ofByte family = none := by
      cases following with
      | nil => exact ⟨0, rfl, rfl⟩
      | cons family following =>
          obtain ⟨rest, rfl⟩ := hprefix
          exact ⟨family, rfl, Option.isNone_iff_eq_none.mp hnone⟩
    simp only
    rw [decodeConnectContent_host addressText following residue host family hhost hne hfamily
      hfollowing]
    rfl

theorem orderly_decodeConnectContent (fields : Bytes) :
    Orderly (isConnect addressText fields)
        (fun memory => decodeConnectContent addressText memory fields.length >>=
          fun content => emit (CommandSignal.connect content.1 content.2)) fields behind ↔
      connectOrderly addressText behind fields = true := by
  rcases null_cases fields with h | ⟨host, after, h, rfl⟩
  · refine ⟨fun _ => by simp [connectOrderly, h], fun _ =>
      orderly_of_error (by simp [isConnect, h]) fun following residue => ?_⟩
    rw [decodeConnectContent_of_notMem addressText following residue fields h]
    exact ⟨_, rfl⟩
  · by_cases hne : host = []
    · subst hne
      constructor
      · intro horderly
        refine absurd horderly (not_orderly_of_silent fun following residue => ?_)
        rw [List.nil_append, decodeConnectContent_empty]
        rfl
      · intro hfalse
        simp [connectOrderly] at hfalse
    · unfold isConnect connectOrderly
      rw [bne, head?_append_null _ _ h hne, afterNull_append _ _ h]
      match after with
      | [] =>
          have hself : (!(host ++ [0]).contains 0 || !false &&
              (behind.head?.bind SocketFamily.ofByte).isNone) =
                (behind.head?.bind SocketFamily.ofByte).isNone := by
            simp
          have hwell : ((host ++ [0]).contains 0 && !false && false) = false := by
            simp
          simp only [hself, hwell]
          exact orderly_decodeConnectContent_host addressText host h hne
      | family :: rest =>
          have hself : (!(host ++ 0 :: family :: rest).contains 0 ||
              !false && connectAddressOrderly addressText family rest) =
                connectAddressOrderly addressText family rest := by
            simp
          have hwell : ((host ++ 0 :: family :: rest).contains 0 && !false &&
              isConnectAddress addressText family rest) =
                isConnectAddress addressText family rest := by
            simp
          rw [hself, hwell, ← orderly_decodeConnectAddress behind addressText family ⟨host, h⟩ rest]
          simp only [Orderly, decodeConnectContent_family addressText _ _ host family rest h hne]

theorem orderly_decodeConnect (tag : UInt8) (fields : Bytes) :
    Orderly (isConnect addressText fields)
        (fun memory => decodeConnect addressText memory (tag :: fields).length) (tag :: fields)
        behind ↔
      connectOrderly addressText behind fields = true := by
  rw [← orderly_decodeConnectContent]
  simp only [Orderly, decodeConnect, length_fields, Memory.advance_atFrame_cons]

end Connect

theorem orderly_decodeEndOfMessage (tag : UInt8) (fields : Bytes) :
    Orderly true (fun memory => decodeEndOfMessage memory (tag :: fields).length)
      (tag :: fields) behind := by
  rw [orderly_of_signals]
  intro following residue
  by_cases hnil : fields = []
  · subst hnil
    exact ⟨.endOfMessage none 0, rfl⟩
  · exact ⟨_, decodeEndOfMessage_atFrame following residue tag fields hnil⟩

theorem orderly_decodeNegotiate (tag : UInt8) (fields : Bytes) :
    Orderly (fields.length == 12) (fun memory => decodeNegotiate memory (tag :: fields).length)
      (tag :: fields) behind := by
  by_cases h : fields.length < 12
  · have hwell : (fields.length == 12) = false := by
      rw [beq_eq_false_iff_ne]
      omega
    exact orderly_decodeNegotiate_of_short decodeNegotiate _ (fun memory length => rfl) tag fields h
      hwell
  · have htail : Orderly (fields.length == 12)
          (fun memory => decodeNegotiate memory (tag :: fields).length) (tag :: fields) behind ↔
        Orderly (fields.length == 12)
          (fun memory => negotiateTail memory (fields.drop 12).length (optionOf fields))
          (fields.drop 12) behind :=
      orderly_decodeNegotiate_of_length decodeNegotiate negotiateTail (fun memory length => rfl) tag
        fields (by omega)
    rw [htail]
    have hlength : (fields.length == 12) = (fields.drop 12 == []) := by
      rw [Bool.eq_iff_iff, beq_iff_eq, beq_iff_eq, List.drop_eq_nil_iff]
      omega
    rw [hlength]
    by_cases hnil : fields.drop 12 = []
    · rw [hnil]
      exact (orderly_of_signal (.negotiate (optionOf fields)) fun following residue => rfl).mpr rfl
    · apply orderly_of_error (by simpa using hnil)
      intro following residue
      simp only [negotiateTail, checkCommandLength_exact, if_neg hnil]
      exact ⟨_, rfl⟩

/-- The frames of well formed commands. -/
def wellFormed (addressText : AddressText) : Bytes → Bool
  | [] => false
  | tag :: fields =>
      match MilterCommand.ofByte tag with
      | some .negotiate => fields.length == 12
      | some .defineMacro => isDefineMacro fields
      | some .connect => isConnect addressText fields
      | some .helo | some .envelopeFrom | some .envelopeRecipient | some .unknown => isText fields
      | some .data | some .endOfHeader | some .abort | some .quit => fields == []
      | some .header => isNameAndValue fields
      | some .body | some .endOfMessage => true
      | some .quitNewConnection | none => false

/-- The byte behind an empty frame is taken for its tag. -/
def emptyOrderly : Bytes → Bool
  | [] => true
  | tag :: behind =>
      match MilterCommand.ofByte tag with
      | some .defineMacro => defineMacroOrderly behind []
      | some .negotiate | some .data | some .endOfHeader | some .abort | some .quit
      | some .body | some .endOfMessage => false
      | _ => true

/-- The frames that are signalled when they are well formed and set an error when they are not, in
front of the bytes that are behind them in the stream. -/
def isDisciplined (addressText : AddressText) (behind : Bytes) : Bytes → Bool
  | [] => emptyOrderly behind
  | tag :: fields =>
      match MilterCommand.ofByte tag with
      | some .defineMacro => defineMacroOrderly behind fields
      | some .connect => connectOrderly addressText behind fields
      | some .helo | some .envelopeFrom | some .envelopeRecipient | some .unknown =>
          textOrderly fields
      | some .header => nameAndValueOrderly fields
      | _ => true

/-- What becomes of an empty frame once the byte behind it is in the buffer. -/
theorem orderly_decode_nil_cons (addressText : AddressText) (tag : UInt8) :
    Orderly false (fun memory => decode addressText memory 0) [tag] behind ↔
      emptyOrderly (tag :: behind) = true := by
  have hget : ∀ following residue, (Memory.atFrame [tag] following residue).get 0 = tag :=
    fun _ _ => rfl
  have hfalse : ∀ {p : Prop}, false = true → p := fun h => absurd h Bool.false_ne_true
  rw [emptyOrderly]
  cases hcommand : MilterCommand.ofByte tag with
  | none =>
      refine ⟨fun _ => rfl, fun _ => orderly_of_error rfl fun following residue => ?_⟩
      exact ⟨_, by rw [decode, hget, hcommand]⟩
  | some command =>
      have hdispatch : ∀ result : Memory → Except Failure (Emission CommandSignal),
          (∀ memory : Memory, memory.get 0 = tag → decode addressText memory 0 = result memory) →
          (Orderly false (fun memory => decode addressText memory 0) [tag] behind ↔
            Orderly false result [tag] behind) := by
        intro result hresult
        simp only [Orderly, hresult _ (hget _ _)]
      cases command with
      | defineMacro =>
          have htag : tag ≠ 0 := by
            rw [← MilterCommand.toByte_of_ofByte hcommand]
            exact MilterCommand.toByte_ne_zero _
          rw [hdispatch (fun memory => decodeDefineMacro memory 0) fun memory h => by
            rw [decode, h, hcommand]]
          exact orderly_decodeDefineMacro_tag tag htag 0 (by decide)
      | negotiate =>
          rw [hdispatch (fun memory => decodeNegotiate memory 0) fun memory h => by
            rw [decode, h, hcommand]]
          exact ⟨fun horderly => absurd horderly (not_orderly_of_overrun fun _ _ => rfl), hfalse⟩
      | data =>
          rw [hdispatch (fun memory => decodeData memory 0) fun memory h => by
            rw [decode, h, hcommand]]
          exact ⟨fun horderly => absurd horderly (not_orderly_of_overrun fun _ _ => rfl), hfalse⟩
      | endOfHeader =>
          rw [hdispatch (fun memory => decodeEndOfHeader memory 0) fun memory h => by
            rw [decode, h, hcommand]]
          exact ⟨fun horderly => absurd horderly (not_orderly_of_overrun fun _ _ => rfl), hfalse⟩
      | abort =>
          rw [hdispatch (fun memory => decodeAbort memory 0) fun memory h => by
            rw [decode, h, hcommand]]
          exact ⟨fun horderly => absurd horderly (not_orderly_of_overrun fun _ _ => rfl), hfalse⟩
      | quit =>
          rw [hdispatch (fun memory => decodeQuit memory 0) fun memory h => by
            rw [decode, h, hcommand]]
          exact ⟨fun horderly => absurd horderly (not_orderly_of_overrun fun _ _ => rfl), hfalse⟩
      | body =>
          rw [hdispatch (fun memory => decodeBody memory 0) fun memory h => by
            rw [decode, h, hcommand]]
          exact ⟨fun horderly => absurd (horderly [] (fun _ => 0) List.nil_prefix).2
            Bool.false_ne_true, hfalse⟩
      | endOfMessage =>
          rw [hdispatch (fun memory => decodeEndOfMessage memory 0) fun memory h => by
            rw [decode, h, hcommand]]
          exact ⟨fun horderly => absurd horderly
            (not_orderly_of_signal (.endOfMessage none 0) fun _ _ => rfl), hfalse⟩
      | connect =>
          rw [hdispatch (fun memory => decodeConnect addressText memory 0) fun memory h => by
            rw [decode, h, hcommand]]
          exact ⟨fun _ => rfl, fun _ => orderly_of_error rfl fun _ _ => ⟨_, rfl⟩⟩
      | helo =>
          rw [hdispatch (fun memory => decodeHelo memory 0) fun memory h => by
            rw [decode, h, hcommand]]
          exact ⟨fun _ => rfl, fun _ => orderly_of_error rfl fun _ _ => decodeText_zero _ _ _⟩
      | envelopeFrom =>
          rw [hdispatch (fun memory => decodeEnvelopeFrom memory 0) fun memory h => by
            rw [decode, h, hcommand]]
          exact ⟨fun _ => rfl, fun _ => orderly_of_error rfl fun _ _ => decodeText_zero _ _ _⟩
      | envelopeRecipient =>
          rw [hdispatch (fun memory => decodeEnvelopeRecipient memory 0) fun memory h => by
            rw [decode, h, hcommand]]
          exact ⟨fun _ => rfl, fun _ => orderly_of_error rfl fun _ _ => decodeText_zero _ _ _⟩
      | unknown =>
          rw [hdispatch (fun memory => decodeUnknown memory 0) fun memory h => by
            rw [decode, h, hcommand]]
          exact ⟨fun _ => rfl, fun _ => orderly_of_error rfl fun _ _ => decodeText_zero _ _ _⟩
      | header =>
          rw [hdispatch (fun memory => decodeHeader memory 0) fun memory h => by
            rw [decode, h, hcommand]]
          exact ⟨fun _ => rfl, fun _ => orderly_of_error rfl fun _ _ => decodeNameAndValue_zero _ _⟩
      | quitNewConnection =>
          refine ⟨fun _ => rfl, fun _ => orderly_of_error rfl fun following residue => ?_⟩
          exact ⟨_, by rw [decode, hget, hcommand]⟩

theorem orderly_decode_nil (addressText : AddressText) :
    Orderly false (fun memory => decode addressText memory ([] : Bytes).length) [] behind ↔
      emptyOrderly behind = true := by
  match behind with
  | [] => exact ⟨fun _ => rfl, fun _ => orderly_nil_nil fun residue => rfl⟩
  | tag :: behind =>
      rw [← orderly_decode_nil_cons addressText tag]
      exact orderly_nil_cons tag fun residue => rfl

theorem macrosOrderly_of_isMacros (fuel : Nat) (fields : Bytes)
    (h : isMacros fuel fields = true) : macrosOrderly fuel fields = true := by
  induction fuel generalizing fields with
  | zero => rfl
  | succ fuel ih =>
      simp only [isMacros, Bool.or_eq_true, Bool.and_eq_true] at h
      simp only [macrosOrderly, Bool.or_eq_true, Bool.and_eq_true]
      rcases h with hnil | ⟨⟨⟨-, hhead⟩, -⟩, hrest⟩
      · exact .inl (.inl hnil)
      · exact .inr ⟨hhead, .inr (ih _ hrest)⟩

theorem connectAddressOrderly_of_isConnectAddress (addressText : AddressText) (family : UInt8)
    (fields : Bytes) (h : isConnectAddress addressText family fields = true) :
    connectAddressOrderly addressText family fields = true := by
  have htext : ∀ refuses overruns, isConnectText refuses overruns fields = true →
      connectTextOrderly refuses overruns fields = true := by
    intro refuses overruns hfields
    simp only [isConnectText, Bool.and_eq_true] at hfields
    obtain ⟨⟨⟨-, htext⟩, -⟩, hfits⟩ := hfields
    have hhead : ((fields.drop 2).head? != some 0) = true := by
      simp only [isText, Bool.and_eq_true] at htext
      exact htext.1.2
    rw [connectTextOrderly, htext, hfits, hhead]
    simp
  unfold isConnectAddress at h
  unfold connectAddressOrderly
  cases hfamily : SocketFamily.ofByte family with
  | none => rfl
  | some socketFamily =>
      rw [hfamily] at h
      cases socketFamily with
      | unknown => rfl
      | inet => exact htext _ _ h
      | inet6 => exact htext _ _ h
      | unix => exact htext _ _ h

/-- A well formed frame is no malformed one that is passed over. -/
theorem isDisciplined_of_wellFormed (addressText : AddressText) (frame behind : Bytes)
    (h : wellFormed addressText frame = true) : isDisciplined addressText behind frame = true := by
  match frame with
  | [] => cases h
  | tag :: fields =>
      rw [wellFormed] at h
      rw [isDisciplined]
      cases hcommand : MilterCommand.ofByte tag with
      | none => rfl
      | some command =>
          rw [hcommand] at h
          cases command with
          | defineMacro =>
              match fields, h with
              | [], h => cases h
              | context :: fields, h =>
                  simp only [isDefineMacro, Bool.and_eq_true] at h
                  simp only [defineMacroOrderly, macrosOrderly_of_isMacros _ _ h.2, Bool.or_true]
          | connect =>
              simp only [isConnect, Bool.and_eq_true] at h
              obtain ⟨⟨-, hhead⟩, hrest⟩ := h
              simp only [connectOrderly, hhead, Bool.true_and, Bool.or_eq_true]
              right
              cases hafter : afterNull fields with
              | nil =>
                  rw [hafter] at hrest
                  cases hrest
              | cons family rest =>
                  rw [hafter] at hrest
                  exact connectAddressOrderly_of_isConnectAddress addressText family rest hrest
          | helo => exact textOrderly_of_isText _ h
          | envelopeFrom => exact textOrderly_of_isText _ h
          | envelopeRecipient => exact textOrderly_of_isText _ h
          | unknown => exact textOrderly_of_isText _ h
          | header =>
              simp only at h
              simp only [nameAndValueOrderly, h, Bool.or_true]
          | _ => rfl

/-- The handlers are disciplined on exactly these frames. -/
theorem disciplined_decode (addressText : AddressText) (frame : Bytes) :
    Disciplined (decode addressText) (wellFormed addressText) frame behind ↔
      isDisciplined addressText behind frame = true := by
  match frame with
  | [] => exact orderly_decode_nil addressText
  | tag :: fields =>
      have hget : ∀ following residue,
          (Memory.atFrame (tag :: fields) following residue).get 0 = tag := fun _ _ => rfl
      have hunexpected : ∀ command, MilterCommand.ofByte tag = command →
          (∀ memory length, MilterCommand.ofByte (memory.get 0) = command →
            decode addressText memory length = .error (.error ⟨.unexpectedCommand,
              "unexpected command was received", [[memory.get 0]]⟩)) →
          Orderly false (fun memory => decode addressText memory (tag :: fields).length)
            (tag :: fields) behind := fun command hcommand hdecode =>
        orderly_of_error rfl fun following residue => ⟨_, hdecode _ _ hcommand⟩
      unfold Disciplined
      cases hcommand : MilterCommand.ofByte tag with
      | none =>
          rw [wellFormed, isDisciplined, hcommand]
          exact ⟨fun _ => rfl, fun _ => hunexpected none hcommand fun memory length h => by
            rw [decode, h]⟩
      | some command =>
          have htag : tag ≠ 0 := by
            rw [← MilterCommand.toByte_of_ofByte hcommand]
            exact MilterCommand.toByte_ne_zero command
          have hdispatch : ∀ (well : Bool) (handler : Handler CommandSignal),
              (∀ memory length, MilterCommand.ofByte (memory.get 0) = some command →
                decode addressText memory length = handler memory length) →
              (Orderly well (fun memory => decode addressText memory (tag :: fields).length)
                  (tag :: fields) behind ↔
                Orderly well (fun memory => handler memory (tag :: fields).length)
                  (tag :: fields) behind) :=
            fun well handler hhandler =>
              orderly_congr fun following residue => hhandler _ _ hcommand
          rw [wellFormed, isDisciplined, hcommand]
          cases command with
          | negotiate =>
              rw [hdispatch _ decodeNegotiate fun memory length h => by rw [decode, h]]
              exact ⟨fun _ => rfl, fun _ => orderly_decodeNegotiate tag fields⟩
          | defineMacro =>
              rw [hdispatch _ decodeDefineMacro fun memory length h => by rw [decode, h]]
              exact orderly_decodeDefineMacro tag fields htag
          | connect =>
              rw [hdispatch _ (decodeConnect addressText) fun memory length h => by rw [decode, h]]
              exact orderly_decodeConnect addressText tag fields
          | helo =>
              rw [hdispatch _ decodeHelo fun memory length h => by rw [decode, h]]
              exact orderly_decodeText _ _ tag fields
          | envelopeFrom =>
              rw [hdispatch _ decodeEnvelopeFrom fun memory length h => by rw [decode, h]]
              exact orderly_decodeText _ _ tag fields
          | envelopeRecipient =>
              rw [hdispatch _ decodeEnvelopeRecipient fun memory length h => by rw [decode, h]]
              exact orderly_decodeText _ _ tag fields
          | unknown =>
              rw [hdispatch _ decodeUnknown fun memory length h => by rw [decode, h]]
              exact orderly_decodeText _ _ tag fields
          | data =>
              rw [hdispatch _ decodeData fun memory length h => by rw [decode, h]]
              exact ⟨fun _ => rfl, fun _ => orderly_decodeSimple _ _ tag fields⟩
          | endOfHeader =>
              rw [hdispatch _ decodeEndOfHeader fun memory length h => by rw [decode, h]]
              exact ⟨fun _ => rfl, fun _ => orderly_decodeSimple _ _ tag fields⟩
          | abort =>
              rw [hdispatch _ decodeAbort fun memory length h => by rw [decode, h]]
              exact ⟨fun _ => rfl, fun _ => orderly_decodeSimple _ _ tag fields⟩
          | quit =>
              rw [hdispatch _ decodeQuit fun memory length h => by rw [decode, h]]
              exact ⟨fun _ => rfl, fun _ => orderly_decodeSimple _ _ tag fields⟩
          | header =>
              rw [hdispatch _ decodeHeader fun memory length h => by rw [decode, h]]
              exact orderly_decodeNameAndValue _ tag fields
          | body =>
              rw [hdispatch _ decodeBody fun memory length h => by rw [decode, h]]
              exact ⟨fun _ => rfl, fun _ => orderly_decodeChunk _ tag fields⟩
          | endOfMessage =>
              rw [hdispatch _ decodeEndOfMessage fun memory length h => by rw [decode, h]]
              exact ⟨fun _ => rfl, fun _ => orderly_decodeEndOfMessage tag fields⟩
          | quitNewConnection =>
              exact ⟨fun _ => rfl, fun _ => hunexpected _ hcommand fun memory length h => by
                rw [decode, h]⟩

end MilterManager.Codec.CommandDecoder
