import MilterManager.Client.ReplyLines
import MilterManager.Codec.ReplyRoundTrip

/-!
# Reply codes through the manager

A reply code that the context formats is read by the decoder of replies, and a reply code that the
decoder reads from a child is checked and formatted again for the MTA. Both are the same reply as
long as there is an extended code and a message of one line.
-/

namespace MilterManager.Client

open MilterManager.Base MilterManager.Core MilterManager.Codec

/-- `milter_client_context_format_reply`, `milter/client/milter-client-context.c:2032`. -/
def ClientContext.formatReplyText (context : ClientContext) : Option Bytes :=
  formatReplyCode context.replyCode context.extendedReplyCode context.replyMessage

/-- The arguments of the signal for a reply code. -/
def replyArguments : ReplySignal → Option (Nat × Option CString × Option CString)
  | .replyCode code extendedCode message => some (code, some extendedCode, message)
  | _ => none

/-- The code, the extended code and the message are set, formatted and decoded as they are. -/
def Survives (context : ClientContext) (code : Nat) (extendedCode message : Option CString) :
    Prop :=
  ∃ set text signal,
    context.setReply code (extendedCode.map CString.bytes) (message.map CString.bytes) = some set ∧
      set.formatReplyText = some text ∧
      Emits ReplyDecoder.decode (MilterReply.replyCode.toByte :: (text ++ [0])) signal ∧
      replyArguments signal = some (code, extendedCode, message)

/-- What was decoded from a child's text is accepted, and the text for the MTA says the same. -/
def Relays (context : ClientContext) (text : Bytes) (code : Nat) (extendedCode : CString)
    (message : Option CString) : Prop :=
  ∃ set formatted,
    context.setReply code (some extendedCode.bytes) (message.map CString.bytes) = some set ∧
      set.formatReplyText = some formatted ∧ replyLines formatted = replyLines text

/-- Whether a message is one line that is not empty and does not end with `'\r'`. -/
def isOneLine (message : Bytes) : Bool :=
  message != [] && !message.contains 10 && message.getLast? != some 13

/-- Whether the text of a child has an extended code of its class and a message of one line. -/
def isRelayed (text : Bytes) : Bool :=
  let body := ReplyDecoder.behindCode text
  extendedCodeClass (firstWord body) == text.head?.map (fun digit => digit.toNat - 48) &&
    (behindSpace body).any isOneLine

section SetReply

theorem setReply_eq_some_iff (context set : ClientContext) (code : Nat)
    (extendedCode : Bytes) (message : Option Bytes) :
    context.setReply code (some extendedCode) message = some set ↔
      (400 ≤ code ∧ code < 600 ∧ extendedCodeClass extendedCode = some (code / 100)) ∧
        set = { context with
          replyCode := code
          extendedReplyCode := some extendedCode
          replyMessage := message } := by
  rw [ClientContext.setReply]
  by_cases h : 400 ≤ code ∧ code < 600 ∧ (some extendedCode).all fun c =>
      extendedCodeClass c == some (code / 100)
  · rw [if_pos h]
    have hclass : extendedCodeClass extendedCode = some (code / 100) := by
      simpa using h.2.2
    constructor
    · intro hset
      exact ⟨⟨h.1, h.2.1, hclass⟩, (Option.some.inj hset).symm⟩
    · rintro ⟨-, rfl⟩
      rfl
  · rw [if_neg h]
    constructor
    · intro hset
      cases hset
    · rintro ⟨⟨hlow, hhigh, hclass⟩, -⟩
      exact absurd ⟨hlow, hhigh, by simpa using hclass⟩ h

end SetReply

section Format

variable (code : Nat) (hlow : 400 ≤ code) (hhigh : code < 600) {extendedCode : Bytes} {klass : Nat}
  (hclass : extendedCodeClass extendedCode = some klass)

include hlow hhigh hclass in
/-- The text of an absent message says the code twice. -/
theorem replyLines_formatReplyCode_none :
    ∃ text, formatReplyCode code (some extendedCode) none = some text ∧
      replyLines text = [⟨replyDigits code, some extendedCode, none⟩,
        ⟨replyDigits code, some extendedCode, none⟩] := by
  obtain ⟨text, htext, hlines⟩ := textLines_formatReplyCode code hlow hhigh hclass [] [[]] [10] rfl
  refine ⟨text, htext, ?_⟩
  rw [replyLines, hlines, List.map_map]
  simp [readReplyLine_formatReplyLine code hlow hhigh hclass]

theorem formatReplyCode_empty (h : code ≠ 0) :
    formatReplyCode code (some extendedCode) (some []) = some [] := by
  rw [formatReplyCode, if_neg h]
  rfl

include hlow hhigh hclass in
theorem replyLines_formatReplyCode_some (message first : Bytes) (rest : List Bytes)
    (h : splitLines message = first :: rest) :
    ∃ text, formatReplyCode code (some extendedCode) (some message) = some text ∧
      replyLines text = (first :: rest).map fun line =>
        ⟨replyDigits code, some extendedCode,
          if line = [] then none else some (withoutCarriageReturn line)⟩ := by
  obtain ⟨text, htext, hlines⟩ :=
    textLines_formatReplyCode code hlow hhigh hclass first rest message h
  refine ⟨text, htext, ?_⟩
  rw [replyLines, hlines, List.map_map]
  apply List.map_congr_left
  intro line _
  exact readReplyLine_formatReplyLine code hlow hhigh hclass line

end Format

section Relay

theorem splitLines_of_ne_nil {message : Bytes} (h : message ≠ []) :
    ∃ first rest, splitLines message = first :: rest ∧ message.splitOn 10 = first :: rest := by
  rw [splitLines, if_neg h]
  cases hsplit : message.splitOn 10 with
  | nil => exact absurd hsplit (List.splitOn_ne_nil _ _)
  | cons first rest => exact ⟨first, rest, rfl, rfl⟩

theorem withoutCarriageReturn_eq_self_iff {line : Bytes} :
    withoutCarriageReturn line = line ↔ line.getLast? ≠ some 13 := by
  unfold withoutCarriageReturn
  by_cases h : line.getLast? = some 13
  · rw [if_pos h]
    constructor
    · intro heq
      have hlength := congrArg List.length heq
      rw [List.length_dropLast] at hlength
      cases line with
      | nil => cases h
      | cons byte line =>
          rw [List.length_cons] at hlength
          omega
    · exact fun hne => absurd h hne
  · rw [if_neg h]
    exact ⟨fun _ => h, fun _ => rfl⟩

theorem isOneLine_iff {message : Bytes} :
    isOneLine message = true ↔ message ≠ [] ∧ 10 ∉ message ∧ message.getLast? ≠ some 13 := by
  simp only [isOneLine, Bool.and_eq_true, bne_iff_ne, Bool.not_eq_true', List.contains_eq_mem,
    decide_eq_false_iff_not, and_assoc]

variable {text : Bytes} {code : Nat} (hlow : 400 ≤ code) (hhigh : code < 600) {extendedCode : Bytes}
  {klass : Nat} (hclass : extendedCodeClass extendedCode = some klass) (before message : Bytes)
  (hbefore : 10 ∉ before)
  (hread : ∀ message, readReplyLine (before ++ message) =
    ⟨replyDigits code, some extendedCode, some message⟩)

include hlow hhigh hclass hbefore hread in
/-- The formatted text says the same as the one it came from when the message is one line. -/
theorem replyLines_formatReplyCode_iff :
    (∃ formatted, formatReplyCode code (some extendedCode) (some message) = some formatted ∧
      replyLines formatted = replyLines (before ++ message)) ↔ isOneLine message = true := by
  by_cases hnil : message = []
  · subst hnil
    have hsingle : replyLines (before ++ []) =
        [⟨replyDigits code, some extendedCode, some []⟩] := by
      rw [replyLines, textLines_singleton _ (by simpa using hbefore), List.map_singleton, hread]
    rw [hsingle, formatReplyCode_empty code (by omega)]
    constructor
    · rintro ⟨formatted, hformatted, hlines⟩
      obtain rfl := Option.some.inj hformatted
      cases hlines
    · intro hone
      cases hone
  obtain ⟨first, rest, hlines, hsplit⟩ := splitLines_of_ne_nil hnil
  obtain ⟨formatted, hformatted, hreply⟩ :=
    replyLines_formatReplyCode_some code hlow hhigh hclass message first rest hlines
  have hiff : (∃ formatted, formatReplyCode code (some extendedCode) (some message) =
      some formatted ∧ replyLines formatted = replyLines (before ++ message)) ↔
      replyLines formatted = replyLines (before ++ message) := by
    rw [hformatted]
    constructor
    · rintro ⟨other, hother, hsame⟩
      obtain rfl := Option.some.inj hother
      exact hsame
    · exact fun hsame => ⟨formatted, rfl, hsame⟩
  rw [hiff, hreply, isOneLine_iff]
  by_cases hmem : 10 ∈ message
  · -- the second lines differ
    obtain ⟨line, more, rfl, hline⟩ := List.eq_append_cons_of_mem hmem
    have hstart : 10 ∉ before ++ line := by simp [hbefore, hline]
    rw [List.splitOn_append_cons_self_of_not_mem hline] at hsplit
    obtain ⟨rfl, hmore⟩ := List.cons.inj hsplit
    obtain ⟨second, others, stripped, strippedOthers, hsecond, hstripped, hcases⟩ :=
      exists_textLines more
    rw [hsecond] at hmore
    subst hmore
    constructor
    · intro hsame
      exfalso
      rw [← List.append_assoc, replyLines, textLines_append _ _ hstart, hstripped] at hsame
      simp only [List.map_cons, List.cons.injEq] at hsame
      obtain ⟨-, hsame, -⟩ := hsame
      rw [← readReplyLine_formatReplyLine code hlow hhigh hclass] at hsame
      exact readReplyLine_formatReplyLine_ne code hlow hhigh hclass second stripped hcases hsame
    · rintro ⟨-, hnot, -⟩
      exact absurd hmem hnot
  · rw [List.splitOn_eq_singleton hmem] at hsplit
    obtain ⟨rfl, rfl⟩ := List.cons.inj hsplit
    rw [replyLines, textLines_singleton _ (by simp [hbefore, hmem]), List.map_singleton,
      List.map_singleton, hread, if_neg hnil]
    constructor
    · intro hsame
      have hmessage := congrArg (fun lines : List ReplyLine => lines.map ReplyLine.message) hsame
      simp only [List.map_cons, List.map_nil, List.cons.injEq, Option.some.injEq, and_true]
        at hmessage
      exact ⟨hnil, hmem, withoutCarriageReturn_eq_self_iff.mp hmessage⟩
    · rintro ⟨-, -, hreturn⟩
      rw [withoutCarriageReturn_eq_self_iff.mpr hreturn]

end Relay

section Decoded

open ReplyDecoder

theorem behindCode_append (a b c : UInt8) (rest after : Bytes) :
    behindCode (a :: b :: c :: rest ++ 0 :: after) =
      behindCode (a :: b :: c :: rest) ++ 0 :: after := by
  cases rest with
  | nil => rfl
  | cons d rest =>
      have hget : ∀ more : Bytes, (a :: b :: c :: d :: more)[3]? = some d := fun more => rfl
      rw [behindCode, behindCode, List.cons_append, List.cons_append, List.cons_append,
        List.cons_append, hget, hget]
      split
      · rfl
      · rfl

/-- A space behind the NUL does not change what is before it. -/
theorem ofBytes_take_space (body after : Bytes) (hspace : 32 ∉ body) (hnull : 0 ∉ body) (k : Nat)
    (h : (body ++ 0 :: after).findIdx? (· == 32) = some k) :
    CString.ofBytes ((body ++ 0 :: after).take k) = ⟨body, hnull⟩ := by
  have hbody : body.findIdx? (· == 32) = none := by
    rw [List.findIdx?_eq_none_iff]
    intro byte hbyte
    have hne : byte ≠ 32 := fun h32 => hspace (h32 ▸ hbyte)
    simpa using hne
  rw [List.findIdx?_append, hbody, List.findIdx?_cons] at h
  obtain ⟨index, -, rfl⟩ : ∃ index, after.findIdx? (· == 32) = some index ∧
      index + (1 + body.length) = k := by
    simpa using h
  have htake : (body ++ 0 :: after).take (index + (1 + body.length)) =
      body ++ 0 :: after.take index := by
    rw [show index + (1 + body.length) = body.length + (index + 1) by omega,
      List.take_length_add_append, List.take_succ_cons]
  rw [htake, CString.ofBytes_append_null _ _ hnull]

theorem exists_digits {text after : Bytes} (h : isReplyCode (text ++ 0 :: after) = true) :
    ∃ a b c rest, text = a :: b :: c :: rest := by
  have hdigit : ¬ isDigit 0 = true := by decide
  obtain _ | ⟨a, _ | ⟨b, _ | ⟨c, rest⟩⟩⟩ := text
  · obtain _ | ⟨b, _ | ⟨c, rest⟩⟩ := after
    · cases h
    · cases h
    · simp [isReplyCode] at h
  · obtain _ | ⟨c, rest⟩ := after
    · cases h
    · simp [isReplyCode, hdigit] at h
  · simp [isReplyCode, hdigit] at h
  · exact ⟨a, b, c, rest, rfl⟩

theorem replyCode_of_emit {code code' : Nat} {extendedCode extendedCode' : CString}
    {message message' : Option CString}
    (h : emit (ReplySignal.replyCode code extendedCode message) =
      emit (.replyCode code' extendedCode' message')) :
    code' = code ∧ extendedCode' = extendedCode ∧ message' = message := by
  have hsignal := congrArg Emission.signal (Except.ok.inj h)
  obtain ⟨rfl, rfl, rfl⟩ := ReplySignal.replyCode.inj hsignal
  exact ⟨rfl, rfl, rfl⟩

/-- What the decoder reads from the text of a child. -/
theorem exists_text_of_decode {fields following : Bytes} {residue : Nat → UInt8} {code : Nat}
    {extendedCode : CString} {message : Option CString}
    (h : decode (.atFrame (MilterReply.replyCode.toByte :: fields) following residue)
      (MilterReply.replyCode.toByte :: fields).length =
        emit (.replyCode code extendedCode message)) :
    ∃ a b c rest, (CString.ofBytes fields).bytes = a :: b :: c :: rest ∧
      isReplyCode [a, b, c] = true ∧ code = replyCodeOf [a, b, c] ∧
      extendedCode.bytes = firstWord (behindCode (a :: b :: c :: rest)) ∧
      ∀ bytes, behindSpace (behindCode (a :: b :: c :: rest)) = some bytes →
        message.map CString.bytes = some bytes := by
  have hhandler : decodeReplyReplyCode
      (.atFrame (MilterReply.replyCode.toByte :: fields) following residue)
      (MilterReply.replyCode.toByte :: fields).length =
        emit (.replyCode code extendedCode message) := h
  by_cases hlength : 3 ≤ fields.length
  swap
  · rw [decodeReplyReplyCode_of_short following residue _ fields (by omega)] at hhandler
    cases hhandler
  cases hcode : isReplyCode fields with
  | false =>
      rw [decodeReplyReplyCode_of_code following residue _ fields hlength hcode] at hhandler
      cases hhandler
  | true =>
      by_cases hmem : 0 ∈ fields
      swap
      · rw [decodeReplyReplyCode_of_notMem following residue _ fields hlength hcode hmem]
          at hhandler
        cases hhandler
      obtain ⟨text, after, rfl, hnull⟩ := List.eq_append_cons_of_mem hmem
      rw [CString.ofBytes_append_null _ _ hnull]
      obtain ⟨a, b, c, rest, rfl⟩ := exists_digits hcode
      have hdigits : isReplyCode [a, b, c] = true := hcode
      have htake : (a :: b :: c :: rest ++ 0 :: after).take 3 = [a, b, c] := rfl
      have hbehind := behindCode_append a b c rest after
      have hbody : 0 ∉ behindCode (a :: b :: c :: rest) := fun h => hnull (null_of_behindCode h)
      refine ⟨a, b, c, rest, rfl, hdigits, ?_⟩
      generalize behindCode (a :: b :: c :: rest) = body at hbehind hbody
      by_cases hspace : 32 ∈ body
      · obtain ⟨word, text, rfl, hword⟩ := List.eq_append_cons_of_mem hspace
        have hwordNull : 0 ∉ word := fun h => hbody (List.mem_append_left _ h)
        have htextNull : 0 ∉ text := fun h =>
          hbody (List.mem_append_right _ (List.mem_cons_of_mem _ h))
        rw [decodeReplyReplyCode_message following residue _ _ word text after hcode
          (by rw [hbehind, List.append_assoc, List.cons_append]) hword hwordNull htextNull, htake]
          at hhandler
        obtain ⟨rfl, rfl, rfl⟩ := replyCode_of_emit hhandler
        obtain ⟨hfirst, hsecond⟩ := firstWord_append word text hword
        exact ⟨rfl, hfirst.symm, fun bytes hbytes => hsecond.symm.trans hbytes⟩
      · obtain ⟨hfirst, hsecond⟩ := firstWord_self body hspace
        have hnone : ∀ bytes, behindSpace body = some bytes →
            message.map CString.bytes = some bytes := by
          intro bytes hbytes
          rw [hsecond] at hbytes
          cases hbytes
        rw [decodeReplyReplyCode_of_isReplyCode following residue _ _ hlength hcode hmem, hbehind,
          htake] at hhandler
        cases hfind : (body ++ 0 :: after).findIdx? (· == 32) with
        | none =>
            rw [hfind, CString.ofBytes_append_null _ _ hbody] at hhandler
            obtain ⟨rfl, rfl, -⟩ := replyCode_of_emit hhandler
            exact ⟨rfl, hfirst.symm, hnone⟩
        | some k =>
            rw [hfind] at hhandler
            simp only [ofBytes_take_space body after hspace hbody k hfind] at hhandler
            obtain ⟨rfl, rfl, -⟩ := replyCode_of_emit hhandler
            exact ⟨rfl, hfirst.symm, hnone⟩

/-- What is behind the code is behind a space or at once behind the digits. -/
theorem exists_separator (a b c : UInt8) (rest : Bytes) :
    ∃ separator, (separator = [] ∨ separator = [32]) ∧
      rest = separator ++ behindCode (a :: b :: c :: rest) := by
  cases rest with
  | nil => exact ⟨[], Or.inl rfl, rfl⟩
  | cons d rest =>
      by_cases hd : d = 32
      · subst hd
        exact ⟨[32], Or.inr rfl, rfl⟩
      · refine ⟨[], Or.inl rfl, ?_⟩
        have hget : (a :: b :: c :: d :: rest)[3]? = some d := rfl
        rw [behindCode, hget, if_neg fun h => hd (Option.some.inj h)]
        rfl

theorem lineBody_separator {separator extendedCode : Bytes} {klass : Nat}
    (hseparator : separator = [] ∨ separator = [32])
    (h : extendedCodeClass extendedCode = some klass) (more : Bytes) :
    lineBody (separator ++ (extendedCode ++ more)) = extendedCode ++ more := by
  rcases hseparator with rfl | rfl
  · exact lineBody_extendedCode h more
  · exact lineBody_space _

theorem eq_firstWord_append (text : Bytes) :
    text = firstWord text ++ (behindSpace text).elim [] (32 :: ·) := by
  by_cases hmem : 32 ∈ text
  · obtain ⟨word, rest, rfl, hword⟩ := List.eq_append_cons_of_mem hmem
    obtain ⟨hfirst, hsecond⟩ := firstWord_append word rest hword
    rw [hfirst, hsecond]
    rfl
  · obtain ⟨hfirst, hsecond⟩ := firstWord_self text hmem
    rw [hfirst, hsecond]
    simp

theorem relays_iff (context : ClientContext) (text : Bytes) (code : Nat) (extendedCode : CString)
    (message : Option CString) :
    Relays context text code extendedCode message ↔
      (400 ≤ code ∧ code < 600 ∧ extendedCodeClass extendedCode.bytes = some (code / 100)) ∧
        ∃ formatted, formatReplyCode code (some extendedCode.bytes) (message.map CString.bytes) =
          some formatted ∧ replyLines formatted = replyLines text := by
  constructor
  · rintro ⟨set, formatted, hset, hformatted, hlines⟩
    obtain ⟨hvalid, rfl⟩ := (setReply_eq_some_iff _ _ _ _ _).mp hset
    exact ⟨hvalid, formatted, hformatted, hlines⟩
  · rintro ⟨hvalid, formatted, hformatted, hlines⟩
    exact ⟨_, formatted, (setReply_eq_some_iff _ _ _ _ _).mpr ⟨hvalid, rfl⟩, hformatted, hlines⟩

section Text

variable {code : Nat} {a b c : UInt8} (hreply : replyDigits code = [a, b, c]) (hlow : 400 ≤ code)
  (hhigh : code < 600) {separator extendedCode : Bytes}
  (hseparator : separator = [] ∨ separator = [32]) {klass : Nat}
  (hclass : extendedCodeClass extendedCode = some klass)

include hreply hhigh hseparator hclass in
theorem newline_notMem_before (more : Bytes) (hmore : 10 ∉ more) :
    10 ∉ a :: b :: c :: (separator ++ (extendedCode ++ more)) := by
  have hdigits : 10 ∉ [a, b, c] := hreply ▸ notMem_replyDigits code hhigh 10 (by decide)
  have hextended := notMem_extendedCode hclass 10 (by decide)
  have hspace : 10 ∉ separator := by
    rcases hseparator with rfl | rfl
    · exact List.not_mem_nil
    · decide
  have happend : a :: b :: c :: (separator ++ (extendedCode ++ more)) =
      [a, b, c] ++ (separator ++ (extendedCode ++ more)) := rfl
  rw [happend]
  simp only [List.mem_append, not_or]
  exact ⟨hdigits, hspace, hextended, hmore⟩

include hreply hlow hhigh hseparator hclass in
/-- A text with a message. -/
theorem replyLines_message_iff (message : Bytes) :
    (∃ formatted, formatReplyCode code (some extendedCode) (some message) = some formatted ∧
      replyLines formatted =
        replyLines (a :: b :: c :: (separator ++ (extendedCode ++ 32 :: message)))) ↔
      isOneLine message = true := by
  have hbefore := newline_notMem_before hreply hhigh hseparator hclass [32] (by decide)
  have hread : ∀ message, readReplyLine
      (a :: b :: c :: (separator ++ (extendedCode ++ [32])) ++ message) =
        ⟨replyDigits code, some extendedCode, some message⟩ := by
    intro message
    have happend : a :: b :: c :: (separator ++ (extendedCode ++ [32])) ++ message =
        a :: b :: c :: (separator ++ (extendedCode ++ 32 :: message)) := by simp
    rw [happend, hreply]
    exact readReplyLine_extendedCode hclass a b c (some message)
      (lineBody_separator hseparator hclass _)
  have hiff := replyLines_formatReplyCode_iff hlow hhigh hclass _ message hbefore hread
  have happend : a :: b :: c :: (separator ++ (extendedCode ++ [32])) ++ message =
      a :: b :: c :: (separator ++ (extendedCode ++ 32 :: message)) := by simp
  rwa [happend] at hiff

include hreply hlow hhigh hseparator hclass in
/-- A text without a message says nothing that is ever formatted. -/
theorem replyLines_noMessage (message : Option Bytes) (formatted : Bytes)
    (h : formatReplyCode code (some extendedCode) message = some formatted) :
    replyLines formatted ≠ replyLines (a :: b :: c :: (separator ++ extendedCode)) := by
  have hnewline := newline_notMem_before hreply hhigh hseparator hclass [] List.not_mem_nil
  rw [List.append_nil] at hnewline
  have hbody := lineBody_separator hseparator hclass []
  rw [List.append_nil] at hbody
  have hline : replyLines (a :: b :: c :: (separator ++ extendedCode)) =
      [⟨[a, b, c], some extendedCode, none⟩] := by
    rw [replyLines, textLines_singleton _ hnewline, List.map_singleton,
      readReplyLine_extendedCode hclass a b c none (by rw [hbody]; simp)]
  rw [hline]
  intro hsame
  cases message with
  | none =>
      obtain ⟨text, htext, hlines⟩ := replyLines_formatReplyCode_none code hlow hhigh hclass
      obtain rfl := Option.some.inj (htext.symm.trans h)
      rw [hlines] at hsame
      cases hsame
  | some message =>
      by_cases hnil : message = []
      · subst hnil
        rw [formatReplyCode_empty code (by omega)] at h
        obtain rfl := Option.some.inj h
        cases hsame
      · obtain ⟨first, rest, hsplitLines, hsplit⟩ := splitLines_of_ne_nil hnil
        obtain ⟨text, htext, hlines⟩ :=
          replyLines_formatReplyCode_some code hlow hhigh hclass message first rest hsplitLines
        obtain rfl := Option.some.inj (htext.symm.trans h)
        rw [hlines] at hsame
        obtain ⟨hfirst, hrest⟩ := List.cons.inj hsame
        obtain rfl := List.map_eq_nil_iff.mp hrest
        have hmessage := congrArg ReplyLine.message hfirst
        have hempty : first = [] := by
          by_contra hne
          simp only [if_neg hne] at hmessage
          cases hmessage
        have hjoined := intercalate_splitOn message
        rw [hsplit, hempty] at hjoined
        exact hnil hjoined.symm

end Text

/-- The child's text is relayed exactly when it has an extended code and a message of one line. -/
theorem relays_iff_of_text (context : ClientContext) (a b c : UInt8) (rest : Bytes)
    (hdigits : isReplyCode [a, b, c] = true) (extendedCode : CString) (message : Option CString)
    (hextended : extendedCode.bytes = firstWord (behindCode (a :: b :: c :: rest)))
    (hmessage : ∀ bytes, behindSpace (behindCode (a :: b :: c :: rest)) = some bytes →
      message.map CString.bytes = some bytes) :
    Relays context (a :: b :: c :: rest) (replyCodeOf [a, b, c]) extendedCode message ↔
      isRelayed (a :: b :: c :: rest) = true := by
  obtain ⟨hreply, hlow, hhigh⟩ := ReplyEncoder.replyDigits_replyCodeOf a b c hdigits
  obtain ⟨separator, hseparator, hrest⟩ := exists_separator a b c rest
  have hhundreds : replyCodeOf [a, b, c] / 100 = a.toNat - 48 := by
    have hfirst : UInt8.ofNat (48 + replyCodeOf [a, b, c] / 100) = a := (List.cons.inj hreply).1
    have hnat := congrArg UInt8.toNat hfirst
    rw [UInt8.toNat_ofNat'] at hnat
    omega
  have hbody := eq_firstWord_append (behindCode (a :: b :: c :: rest))
  have hrelayed : isRelayed (a :: b :: c :: rest) =
      (extendedCodeClass (firstWord (behindCode (a :: b :: c :: rest))) ==
          some (a.toNat - 48) &&
        (behindSpace (behindCode (a :: b :: c :: rest))).any isOneLine) := rfl
  rw [relays_iff, hrelayed, ← hextended, hhundreds, Bool.and_eq_true, beq_iff_eq]
  rw [← hextended] at hbody
  generalize behindCode (a :: b :: c :: rest) = body at hrest hbody hmessage ⊢
  rw [hrest]
  cases hspace : behindSpace body with
  | none =>
      rw [hspace, Option.elim_none, List.append_nil] at hbody
      rw [hbody]
      constructor
      · rintro ⟨⟨-, -, hclass⟩, formatted, hformatted, hlines⟩
        exact absurd hlines
          (replyLines_noMessage hreply hlow hhigh hseparator hclass _ _ hformatted)
      · rintro ⟨-, hone⟩
        cases hone
  | some bytes =>
      rw [hmessage bytes hspace]
      rw [hspace] at hbody
      rw [hbody]
      constructor
      · rintro ⟨⟨-, -, hclass⟩, hformatted⟩
        exact ⟨hclass,
          (replyLines_message_iff hreply hlow hhigh hseparator hclass bytes).mp hformatted⟩
      · rintro ⟨hclass, hone⟩
        exact ⟨⟨hlow, hhigh, hclass⟩,
          (replyLines_message_iff hreply hlow hhigh hseparator hclass bytes).mpr hone⟩

end Decoded

section Survive

open ReplyDecoder

theorem isReplyCode_replyDigits (code : Nat) (hlow : 400 ≤ code) (hhigh : code < 600) :
    isReplyCode (replyDigits code) = true ∧ replyCodeOf (replyDigits code) = code := by
  have hclass : code / 100 = 4 ∨ code / 100 = 5 := by omega
  have htens := digit_bounds (code / 10 % 10) (by omega)
  have hones := digit_bounds (code % 10) (by omega)
  constructor
  · simp only [replyDigits, isReplyCode, isDigit, Bool.and_eq_true, Bool.or_eq_true, beq_iff_eq,
      decide_eq_true_eq]
    refine ⟨⟨?_, htens⟩, hones⟩
    rcases hclass with h | h
    · rw [h]
      exact Or.inl rfl
    · rw [h]
      exact Or.inr rfl
  · simp only [replyDigits, replyCodeOf, List.foldl_cons, List.foldl_nil, UInt8.toNat_ofNat']
    omega

theorem notMem_intercalate (byte : UInt8) (separator : Bytes) (hseparator : byte ∉ separator)
    (lines : List Bytes) (h : ∀ line ∈ lines, byte ∉ line) :
    byte ∉ separator.intercalate lines := by
  induction lines with
  | nil => exact List.not_mem_nil
  | cons line lines ih =>
      obtain ⟨hline, hlines⟩ := List.forall_mem_cons.mp h
      cases lines with
      | nil => simpa using hline
      | cons next lines =>
          rw [List.intercalate_cons_cons]
          simp only [List.mem_append, not_or]
          exact ⟨⟨hline, hseparator⟩, ih hlines⟩

variable (code : Nat) (hlow : 400 ≤ code) (hhigh : code < 600)

include hlow hhigh in
/-- A text of code, word and message is decoded as such. -/
theorem emits_words (word message : Bytes) (hword : 32 ∉ word) (hwordNull : 0 ∉ word)
    (hmessage : 0 ∉ message) :
    Emits decode (MilterReply.replyCode.toByte ::
      (replyDigits code ++ 32 :: (word ++ 32 :: message) ++ [0]))
      (.replyCode code ⟨word, hwordNull⟩ (some ⟨message, hmessage⟩)) := by
  obtain ⟨hcode, hnumber⟩ := isReplyCode_replyDigits code hlow hhigh
  apply ReplyEncoder.emits_of_handlerOf _ rfl
  intro following residue
  have hdecoded := decodeReplyReplyCode_message following residue MilterReply.replyCode.toByte
    (replyDigits code ++ 32 :: (word ++ 32 :: message) ++ [0]) word message [] hcode
    (by
      have hbehind : behindCode (replyDigits code ++ 32 :: (word ++ 32 :: message) ++ [0]) =
          word ++ 32 :: message ++ [0] := rfl
      rw [hbehind, List.append_assoc, List.cons_append])
    hword hwordNull hmessage
  have htake : (replyDigits code ++ 32 :: (word ++ 32 :: message) ++ [0]).take 3 =
      replyDigits code := rfl
  rw [htake, hnumber] at hdecoded
  exact hdecoded

theorem signal_of_emits {content : Bytes} {signal signal' : ReplySignal}
    (h : Emits decode content signal) (h' : Emits decode content signal') : signal = signal' := by
  have heq := (h [] fun _ => 0).symm.trans (h' [] fun _ => 0)
  exact congrArg Emission.signal (Except.ok.inj heq)

theorem mem_intercalate (byte : UInt8) (separator : Bytes) (lines : List Bytes) (line : Bytes)
    (hline : line ∈ lines) (hbyte : byte ∈ line) : byte ∈ separator.intercalate lines := by
  induction lines with
  | nil => cases hline
  | cons first lines ih =>
      cases lines with
      | nil =>
          obtain rfl := List.mem_singleton.mp hline
          simpa using hbyte
      | cons next lines =>
          rw [List.intercalate_cons_cons]
          rcases List.mem_cons.mp hline with rfl | hline
          · exact List.mem_append_left _ (List.mem_append_left _ hbyte)
          · exact List.mem_append_right _ (ih hline)

theorem exists_intercalate_cons (separator line : Bytes) (lines : List Bytes) :
    ∃ more, separator.intercalate (line :: lines) = line ++ more := by
  cases lines with
  | nil => exact ⟨[], by simp⟩
  | cons next lines => exact ⟨_, by rw [List.intercalate_cons_cons, List.append_assoc]⟩

variable {extendedCode : CString} {klass : Nat}
  (hclass : extendedCodeClass extendedCode.bytes = some klass)

include hlow hhigh hclass in
/-- The text of a message of several lines, and what is behind its first line end. -/
theorem exists_formatReplyCode_lines (message first second : Bytes) (rest : List Bytes)
    (hnull : 0 ∉ message) (hsplit : splitLines message = first :: second :: rest) :
    ∃ others, formatReplyCode code (some extendedCode.bytes) (some message) =
        some (formatReplyLine code (some extendedCode.bytes) first ++ 13 :: 10 ::
          (replyDigits code ++ 32 :: others)) ∧
      0 ∉ others ∧
      ∃ lines, textLines (replyDigits code ++ 32 :: others) =
        formatReplyLine code (some extendedCode.bytes) second :: lines := by
  have hparts : ∀ part ∈ first :: second :: rest, 0 ∉ part ∧ 10 ∉ part := by
    intro part hpart
    rw [← splitOn_of_splitLines hsplit] at hpart
    refine ⟨fun hzero => hnull ?_, notMem_of_mem_splitOn 10 message part hpart⟩
    rw [← intercalate_splitOn message]
    exact mem_intercalate 0 [10] _ part hpart hzero
  obtain ⟨more, hmore⟩ := exists_intercalate_cons [13, 10]
    (formatReplyLine code (some extendedCode.bytes) second)
    (rest.map (formatReplyLine code (some extendedCode.bytes)))
  obtain ⟨others, hothers⟩ : ∃ others, [13, 10].intercalate ((second :: rest).map
      (formatReplyLine code (some extendedCode.bytes))) = replyDigits code ++ 32 :: others := by
    rw [List.map_cons, hmore, formatReplyLine_eq code hlow hhigh extendedCode.bytes second,
      List.append_assoc, List.cons_append]
    exact ⟨_, rfl⟩
  have hlines : ∀ line ∈ (second :: rest).map (formatReplyLine code (some extendedCode.bytes)),
      0 ∉ line ∧ 10 ∉ line := by
    intro line hline
    obtain ⟨part, hpart, rfl⟩ := List.mem_map.mp hline
    obtain ⟨hzero, hnewline⟩ := hparts part (List.mem_cons_of_mem _ hpart)
    exact ⟨notMem_formatReplyLine code hlow hhigh hclass 0 (by decide) part hzero,
      notMem_formatReplyLine code hlow hhigh hclass 10 (by decide) part hnewline⟩
  refine ⟨others, ?_, ?_, rest.map (formatReplyLine code (some extendedCode.bytes)), ?_⟩
  · rw [formatReplyCode, if_neg (by omega), Option.getD_some, hsplit, ← hothers]
    simp only [List.map_cons]
    rw [List.intercalate_cons_cons]
    simp
  · intro hmem
    apply notMem_intercalate 0 [13, 10] (by decide) _ fun line hline => (hlines line hline).1
    rw [hothers]
    exact List.mem_append_right _ (List.mem_cons_of_mem _ hmem)
  · rw [← hothers, List.map_cons]
    exact textLines_intercalate _ _ fun line hline => (hlines line hline).2

include hlow hhigh hclass in
/-- What is decoded from the text of a message of several lines. -/
theorem emits_lines (message first second : Bytes) (rest : List Bytes) (hnull : 0 ∉ message)
    (hsplit : splitLines message = first :: second :: rest) :
    ∃ text word decoded,
      formatReplyCode code (some extendedCode.bytes) (some message) = some text ∧
      Emits decode (MilterReply.replyCode.toByte :: (text ++ [0]))
        (.replyCode code word (some decoded)) ∧
      ¬ (word = extendedCode ∧ decoded.bytes = message) := by
  obtain ⟨others, htext, hothers, lines, hlines⟩ :=
    exists_formatReplyCode_lines code hlow hhigh hclass message first second rest hnull hsplit
  have hspace := notMem_extendedCode hclass 32 (by decide)
  have hextended := extendedCode.noNull
  have hdigits := notMem_replyDigits code hhigh
  by_cases hfirst : first = []
  · subst hfirst
    have hword : 32 ∉ extendedCode.bytes ++ 13 :: 10 :: replyDigits code := by
      simp [hspace, hdigits 32 (by decide)]
    have hwordNull : 0 ∉ extendedCode.bytes ++ 13 :: 10 :: replyDigits code := by
      simp [hextended, hdigits 0 (by decide)]
    have hemits := emits_words code hlow hhigh _ others hword hwordNull hothers
    refine ⟨_, ⟨_, hwordNull⟩, ⟨others, hothers⟩, htext, ?_, ?_⟩
    · rw [formatReplyLine_eq code hlow hhigh]
      convert hemits using 2
      simp
    · rintro ⟨hsame, -⟩
      have hlength := congrArg (fun s : CString => s.bytes.length) hsame
      simp at hlength
  · have hmessage : message = first ++ 10 :: [10].intercalate (second :: rest) := by
      rw [← intercalate_splitOn message, splitOn_of_splitLines hsplit,
        List.intercalate_cons_cons]
      simp
    have hparts : ∀ part ∈ first :: second :: rest, 10 ∉ part := fun part hpart =>
      notMem_of_mem_splitOn 10 message part (splitOn_of_splitLines hsplit ▸ hpart)
    have hnewline : 10 ∉ first := hparts first List.mem_cons_self
    have hstripped : 10 ∉ withoutCarriageReturn first ∧ 0 ∉ withoutCarriageReturn first := by
      have hsub : withoutCarriageReturn first ⊆ first := withoutCarriageReturn_subset first
      refine ⟨fun h => hnewline (hsub h), fun h => hnull ?_⟩
      rw [hmessage]
      exact List.mem_append_left _ (hsub h)
    have hdecoded : 0 ∉ withoutCarriageReturn first ++ 13 :: 10 ::
        (replyDigits code ++ 32 :: others) := by
      simp [hstripped.2, hdigits 0 (by decide), hothers]
    have hemits := emits_words code hlow hhigh extendedCode.bytes _ hspace hextended hdecoded
    refine ⟨_, extendedCode, ⟨_, hdecoded⟩, htext, ?_, ?_⟩
    · rw [formatReplyLine_eq code hlow hhigh, if_neg hfirst]
      convert hemits using 2
      simp
    · rintro ⟨-, hsame⟩
      have htextLines := congrArg textLines hsame
      have hreturn : 10 ∉ withoutCarriageReturn first ++ [13] := by simp [hstripped.1]
      have happend : withoutCarriageReturn first ++ 13 :: 10 :: (replyDigits code ++ 32 :: others) =
          (withoutCarriageReturn first ++ [13]) ++ 10 :: (replyDigits code ++ 32 :: others) := by
        simp
      simp only [happend] at htextLines
      rw [textLines_append _ _ hreturn, hlines, hmessage, textLines_append _ _ hnewline]
        at htextLines
      obtain ⟨-, htail⟩ := List.cons.inj htextLines
      obtain ⟨line, lines', stripped, strippedLines, hfirstLine, hstrippedLine, hcases⟩ :=
        exists_textLines ([10].intercalate (second :: rest))
      rw [List.splitOn_intercalate 10 (fun part hpart => hparts part (List.mem_cons_of_mem _ hpart))
        (List.cons_ne_nil _ _)] at hfirstLine
      obtain ⟨rfl, -⟩ := List.cons.inj hfirstLine
      rw [hstrippedLine] at htail
      obtain ⟨hline, -⟩ := List.cons.inj htail
      exact readReplyLine_formatReplyLine_ne code hlow hhigh hclass second stripped hcases
        (congrArg readReplyLine hline)

include hlow hhigh hclass in
/-- A message of one line is decoded without a `'\r'` at its end. -/
theorem emits_line (message : Bytes) (hnil : message ≠ []) (hnewline : 10 ∉ message)
    (hnull : 0 ∉ withoutCarriageReturn message) :
    ∃ text, formatReplyCode code (some extendedCode.bytes) (some message) = some text ∧
      Emits decode (MilterReply.replyCode.toByte :: (text ++ [0]))
        (.replyCode code extendedCode (some ⟨withoutCarriageReturn message, hnull⟩)) := by
  have hsplit : splitLines message = [message] := by
    rw [splitLines, if_neg hnil, List.splitOn_eq_singleton hnewline]
  have hemits := emits_words code hlow hhigh extendedCode.bytes (withoutCarriageReturn message)
    (notMem_extendedCode hclass 32 (by decide)) extendedCode.noNull hnull
  refine ⟨_, ?_, hemits⟩
  rw [formatReplyCode, if_neg (by omega), Option.getD_some, hsplit]
  simp only [List.map_cons, List.map_nil, List.intercalate_singleton]
  rw [formatReplyLine_eq code hlow hhigh, if_neg hnil]

theorem survives_iff_emits (context : ClientContext) (extendedCode : CString)
    (message : Option CString) (hlow : 400 ≤ code) (hhigh : code < 600)
    (hclass : extendedCodeClass extendedCode.bytes = some (code / 100)) :
    Survives context code (some extendedCode) message ↔
      ∃ text, formatReplyCode code (some extendedCode.bytes) (message.map CString.bytes) =
          some text ∧
        Emits decode (MilterReply.replyCode.toByte :: (text ++ [0]))
          (.replyCode code extendedCode message) := by
  constructor
  · rintro ⟨set, text, signal, hset, htext, hemits, harguments⟩
    obtain ⟨-, rfl⟩ := (setReply_eq_some_iff _ _ _ _ _).mp hset
    refine ⟨text, htext, ?_⟩
    cases signal <;> cases harguments
    exact hemits
  · rintro ⟨text, htext, hemits⟩
    exact ⟨_, text, _, (setReply_eq_some_iff _ _ _ _ _).mpr ⟨⟨hlow, hhigh, hclass⟩, rfl⟩, htext,
      hemits, rfl⟩

/-- The reply code survives exactly when it has an extended code and a message of one line. -/
theorem survives_iff (context : ClientContext) (extendedCode message : Option CString)
    (hlow : 400 ≤ code) (hhigh : code < 600)
    (hvalid : ∀ given, extendedCode = some given →
      extendedCodeClass given.bytes = some (code / 100)) :
    Survives context code extendedCode message ↔
      extendedCode.isSome = true ∧ message.any (fun message => isOneLine message.bytes) = true := by
  cases extendedCode with
  | none =>
      constructor
      · rintro ⟨set, text, signal, -, -, -, harguments⟩
        cases signal <;> cases harguments
      · rintro ⟨hsome, -⟩
        cases hsome
  | some extendedCode =>
      have hclass := hvalid extendedCode rfl
      rw [survives_iff_emits code context extendedCode message hlow hhigh hclass]
      have hmany : ∀ bytes first second rest, 0 ∉ bytes →
          splitLines bytes = first :: second :: rest →
          (∀ given, message = some given → given.bytes = bytes) →
          formatReplyCode code (some extendedCode.bytes) (message.map CString.bytes) =
            formatReplyCode code (some extendedCode.bytes) (some bytes) →
          ¬ ∃ text, formatReplyCode code (some extendedCode.bytes) (message.map CString.bytes) =
              some text ∧
            Emits decode (MilterReply.replyCode.toByte :: (text ++ [0]))
              (.replyCode code extendedCode message) := by
        rintro bytes first second rest hnull hsplit hgiven hsame ⟨text, htext, hemits⟩
        obtain ⟨text', word, decoded, htext', hemits', hnot⟩ :=
          emits_lines code hlow hhigh hclass bytes first second rest hnull hsplit
        rw [hsame, htext'] at htext
        obtain rfl := Option.some.inj htext
        obtain ⟨-, hword, hdecoded⟩ := ReplySignal.replyCode.inj (signal_of_emits hemits hemits')
        exact hnot ⟨hword.symm, hgiven decoded hdecoded⟩
      cases message with
      | none =>
          constructor
          · intro h
            exact absurd h (hmany [10] [] [] [] (by decide) rfl nofun rfl)
          · rintro ⟨-, hone⟩
            cases hone
      | some message =>
          rw [Option.any_some, isOneLine_iff]
          by_cases hnil : message.bytes = []
          · constructor
            · rintro ⟨text, htext, hemits⟩
              rw [Option.map_some, hnil, formatReplyCode_empty code (by omega)] at htext
              obtain rfl := Option.some.inj htext
              exact nomatch hemits [] fun _ => 0
            · rintro ⟨-, hne, -⟩
              exact absurd hnil hne
          by_cases hnewline : 10 ∈ message.bytes
          · constructor
            · intro h
              obtain ⟨first, more, hmore, hfirst⟩ := List.eq_append_cons_of_mem hnewline
              obtain ⟨line, lines, hlines⟩ : ∃ line lines, more.splitOn 10 = line :: lines := by
                cases hsplit : more.splitOn 10 with
                | nil => exact absurd hsplit (List.splitOn_ne_nil _ _)
                | cons line lines => exact ⟨line, lines, rfl⟩
              have hsplit : splitLines message.bytes = first :: line :: lines := by
                rw [splitLines, if_neg hnil, hmore,
                  List.splitOn_append_cons_self_of_not_mem hfirst, hlines]
              refine absurd h (hmany message.bytes first line lines message.noNull hsplit ?_ rfl)
              rintro given hgiven
              rw [Option.some.inj hgiven]
            · rintro ⟨-, -, hnot, -⟩
              exact absurd hnewline hnot
          · have hnull : 0 ∉ withoutCarriageReturn message.bytes := fun hmem =>
              message.noNull (withoutCarriageReturn_subset _ hmem)
            obtain ⟨text, htext, hemits⟩ :=
              emits_line code hlow hhigh hclass message.bytes hnil hnewline hnull
            constructor
            · rintro ⟨text', htext', hemits'⟩
              rw [Option.map_some, htext] at htext'
              obtain rfl := Option.some.inj htext'
              obtain ⟨-, -, hdecoded⟩ := ReplySignal.replyCode.inj (signal_of_emits hemits hemits')
              have hbytes := congrArg CString.bytes (Option.some.inj hdecoded)
              exact ⟨rfl, hnil, hnewline, withoutCarriageReturn_eq_self_iff.mp hbytes⟩
            · rintro ⟨-, -, -, hreturn⟩
              have hsame : (⟨withoutCarriageReturn message.bytes, hnull⟩ : CString) = message :=
                CString.ext (withoutCarriageReturn_eq_self_iff.mpr hreturn)
              rw [hsame] at hemits
              exact ⟨text, htext, hemits⟩

end Survive

/-- A reply code that the context formats survives the decoder, and one that the decoder reads from
a child is relayed, exactly with an extended code and a message of one line. -/
theorem replyCodeText_iff (context : ClientContext) :
    (∀ (code : Nat) (extendedCode message : Option CString),
      400 ≤ code → code < 600 →
      (∀ given, extendedCode = some given → extendedCodeClass given.bytes = some (code / 100)) →
      (Survives context code extendedCode message ↔
        extendedCode.isSome = true ∧
          message.any (fun message => isOneLine message.bytes) = true)) ∧
    ∀ (fields following : Bytes) (residue : Nat → UInt8) (code : Nat)
      (extendedCode : CString) (message : Option CString),
      ReplyDecoder.decode (.atFrame (MilterReply.replyCode.toByte :: fields) following residue)
          (MilterReply.replyCode.toByte :: fields).length =
        emit (.replyCode code extendedCode message) →
      (Relays context (CString.ofBytes fields).bytes code extendedCode message ↔
        isRelayed (CString.ofBytes fields).bytes = true) := by
  constructor
  · intro code extendedCode message hlow hhigh hvalid
    exact survives_iff code context extendedCode message hlow hhigh hvalid
  · intro fields following residue code extendedCode message hdecode
    obtain ⟨a, b, c, rest, htext, hdigits, rfl, hextended, hmessage⟩ :=
      exists_text_of_decode hdecode
    rw [htext]
    exact relays_iff_of_text context a b c rest hdigits extendedCode message hextended hmessage

theorem survives_and_relays_extended :
    Survives .init 450 (some ⟨[52, 46, 50, 46, 48], by decide⟩) (some ⟨[110, 111], by decide⟩) ∧
      Relays .init [52, 53, 48, 32, 52, 46, 50, 46, 48, 32, 110, 111] 450
        ⟨[52, 46, 50, 46, 48], by decide⟩ (some ⟨[110, 111], by decide⟩) := by
  constructor
  · apply ((replyCodeText_iff .init).1 450 _ _ (by decide) (by decide) ?_).mpr
    · decide
    · rintro given hgiven
      obtain rfl := Option.some.inj hgiven
      decide
  · exact ((replyCodeText_iff .init).2
      [52, 53, 48, 32, 52, 46, 50, 46, 48, 32, 110, 111, 0] [] (fun _ => 0) 450
      ⟨[52, 46, 50, 46, 48], by decide⟩ (some ⟨[110, 111], by decide⟩) rfl).mpr (by decide)

/-- What a child sends without an extended code is not accepted. -/
theorem not_relays_rejected :
    ReplyDecoder.decode (.atFrame
        [121, 52, 53, 48, 32, 114, 101, 106, 101, 99, 116, 101, 100, 0] [] fun _ => 0) 14 =
      emit (.replyCode 450 ⟨[114, 101, 106, 101, 99, 116, 101, 100], by decide⟩ none) ∧
    ¬ Relays .init [52, 53, 48, 32, 114, 101, 106, 101, 99, 116, 101, 100] 450
      ⟨[114, 101, 106, 101, 99, 116, 101, 100], by decide⟩ none := by
  refine ⟨rfl, ?_⟩
  rintro ⟨set, formatted, hset, -⟩
  cases hset

end MilterManager.Client
