import Mathlib.Data.List.TakeWhile
import MilterManager.Client.Context
import MilterManager.Core.ReplyCode

/-!
# The lines of a reply text

What a reply text says to an SMTP client: its lines, and the code, the extended code and the message
of a line. The text that the context formats is read line by line.
-/

namespace MilterManager.Client

open MilterManager.Core

/-- The lines of a text, each but the last without the `'\r'` of its line end. -/
def stripLineEnds : List Bytes → List Bytes
  | [] => []
  | [line] => [line]
  | line :: lines => withoutCarriageReturn line :: stripLineEnds lines

/-- The lines of a text that are ended by `"\r\n"` or by `"\n"`. -/
def textLines (text : Bytes) : List Bytes := stripLineEnds (text.splitOn 10)

/-- What one line of a reply says; the message is what follows a space. -/
structure ReplyLine where
  code : Bytes
  extendedCode : Option Bytes
  message : Option Bytes
deriving DecidableEq, Repr

/-- The first word of a text. -/
def firstWord (text : Bytes) : Bytes := text.takeWhile (· ≠ 32)

/-- What is behind the first space of a text. -/
def behindSpace (text : Bytes) : Option Bytes :=
  match text.dropWhile (· ≠ 32) with
  | [] => none
  | _ :: rest => some rest

/-- What is behind the separator that follows the code. -/
def lineBody (rest : Bytes) : Bytes :=
  if rest.head? = some 32 ∨ rest.head? = some 45 then rest.tail else rest

/-- The code, the extended code and the message of a line. -/
def readReplyLine (line : Bytes) : ReplyLine :=
  let body := lineBody (line.drop 3)
  if (extendedCodeClass (firstWord body)).isSome then
    ⟨line.take 3, some (firstWord body), behindSpace body⟩
  else ⟨line.take 3, none, if line.drop 3 = [] then none else some body⟩

/-- The lines of a reply. -/
def replyLines (text : Bytes) : List ReplyLine := (textLines text).map readReplyLine

section Words

theorem firstWord_append (word rest : Bytes) (h : 32 ∉ word) :
    firstWord (word ++ 32 :: rest) = word ∧ behindSpace (word ++ 32 :: rest) = some rest := by
  have hall : ∀ byte ∈ word, decide (byte ≠ 32) = true := by
    intro byte hbyte
    have hne : byte ≠ 32 := fun h32 => h (h32 ▸ hbyte)
    simpa using hne
  constructor
  · rw [firstWord, List.takeWhile_append_of_pos hall]
    simp
  · rw [behindSpace, List.dropWhile_append_of_pos hall]
    simp

theorem firstWord_self (word : Bytes) (h : 32 ∉ word) :
    firstWord word = word ∧ behindSpace word = none := by
  have hall : ∀ byte ∈ word, decide (byte ≠ 32) = true := by
    intro byte hbyte
    have hne : byte ≠ 32 := fun h32 => h (h32 ▸ hbyte)
    simpa using hne
  constructor
  · exact List.takeWhile_eq_self_iff.mpr hall
  · rw [behindSpace, List.dropWhile_eq_nil_iff.mpr hall]

end Words

section ExtendedCode

theorem mem_component {component : Bytes} (h : isExtendedCodeComponent component = true)
    {byte : UInt8} (hbyte : byte ∈ component) : 48 ≤ byte ∧ byte ≤ 57 := by
  simp only [isExtendedCodeComponent, Bool.and_eq_true, List.all_eq_true, decide_eq_true_eq] at h
  simpa using h.2 byte hbyte

/-- An extended code has digits and dots only, and a class in front. -/
theorem extendedCodeClass_some {extendedCode : Bytes} {klass : Nat}
    (h : extendedCodeClass extendedCode = some klass) :
    (∀ byte ∈ extendedCode, 46 ≤ byte ∧ byte ≤ 57) ∧
      ∃ first rest, extendedCode = first :: rest ∧ first ≠ 32 ∧ first ≠ 45 := by
  unfold extendedCodeClass at h
  split at h
  · next first rest =>
    split at h
    · next detail hdetail =>
      split at h
      · next hwell =>
        obtain ⟨hclass, hsubject, hdetailDigits⟩ := hwell
        have hfirst : 46 ≤ first ∧ first ≤ 57 ∧ first ≠ 32 ∧ first ≠ 45 := by
          rcases hclass with rfl | rfl | rfl <;> decide
        have hrest : rest = rest.takeWhile (· ≠ 46) ++ 46 :: detail := by
          rw [← hdetail, List.takeWhile_append_dropWhile]
        have hdigit : ∀ {byte : UInt8}, 48 ≤ byte ∧ byte ≤ 57 → 46 ≤ byte ∧ byte ≤ 57 :=
          fun h => ⟨UInt8.le_trans (by decide) h.1, h.2⟩
        refine ⟨?_, first, 46 :: rest, rfl, hfirst.2.2⟩
        intro byte hbyte
        rcases List.mem_cons.mp hbyte with rfl | hbyte
        · exact ⟨hfirst.1, hfirst.2.1⟩
        rcases List.mem_cons.mp hbyte with rfl | hbyte
        · exact ⟨by decide, by decide⟩
        rw [hrest] at hbyte
        rcases List.mem_append.mp hbyte with hbyte | hbyte
        · exact hdigit (mem_component hsubject hbyte)
        rcases List.mem_cons.mp hbyte with rfl | hbyte
        · exact ⟨by decide, by decide⟩
        · exact hdigit (mem_component hdetailDigits hbyte)
      · cases h
    · cases h
  · cases h

theorem notMem_extendedCode {extendedCode : Bytes} {klass : Nat}
    (h : extendedCodeClass extendedCode = some klass) (byte : UInt8) (hbyte : byte < 46) :
    byte ∉ extendedCode := by
  intro hmem
  have hle := ((extendedCodeClass_some h).1 byte hmem).1
  exact absurd hbyte (UInt8.not_lt.mpr hle)

end ExtendedCode

section ReadReplyLine

variable {extendedCode : Bytes} {klass : Nat} (h : extendedCodeClass extendedCode = some klass)

include h in
theorem lineBody_extendedCode (more : Bytes) :
    lineBody (extendedCode ++ more) = extendedCode ++ more := by
  obtain ⟨-, first, rest, rfl, hspace, hdash⟩ := extendedCodeClass_some h
  have hnot : ¬ ((first :: rest ++ more).head? = some 32 ∨
      (first :: rest ++ more).head? = some 45) := by
    simp [hspace, hdash]
  exact if_neg hnot

theorem lineBody_space (body : Bytes) : lineBody (32 :: body) = body := rfl

include h in
/-- A line with an extended code and perhaps a message. -/
theorem readReplyLine_extendedCode (a b c : UInt8) {rest : Bytes} (message : Option Bytes)
    (hbody : lineBody rest = extendedCode ++ message.elim [] (32 :: ·)) :
    readReplyLine (a :: b :: c :: rest) = ⟨[a, b, c], some extendedCode, message⟩ := by
  have hspace := notMem_extendedCode h 32 (by decide)
  have hwords : firstWord (lineBody rest) = extendedCode ∧
      behindSpace (lineBody rest) = message := by
    rw [hbody]
    cases message with
    | none =>
        rw [Option.elim_none, List.append_nil]
        exact firstWord_self extendedCode hspace
    | some message => exact firstWord_append extendedCode message hspace
  have hread : readReplyLine (a :: b :: c :: rest) =
      if (extendedCodeClass (firstWord (lineBody rest))).isSome then
        ⟨[a, b, c], some (firstWord (lineBody rest)), behindSpace (lineBody rest)⟩
      else ⟨[a, b, c], none, if rest = [] then none else some (lineBody rest)⟩ := rfl
  rw [hread, hwords.1, hwords.2, h]
  rfl

theorem code_readReplyLine (line : Bytes) : (readReplyLine line).code = line.take 3 := by
  by_cases h : (extendedCodeClass (firstWord (lineBody (line.drop 3)))).isSome = true
  · simp only [readReplyLine, if_pos h]
  · simp only [readReplyLine, if_neg h]

theorem length_behindSpace_le {text rest : Bytes} (h : behindSpace text = some rest) :
    rest.length ≤ text.length := by
  unfold behindSpace at h
  split at h
  · cases h
  · next byte rest' hdrop =>
    obtain rfl := Option.some.inj h
    have hsuffix := List.dropWhile_suffix (fun byte : UInt8 => decide (byte ≠ 32)) (l := text)
    have hlength := hsuffix.length_le
    rw [hdrop, List.length_cons] at hlength
    omega

/-- The message of a line is not longer than what is behind the code. -/
theorem length_message_readReplyLine {line message : Bytes}
    (h : (readReplyLine line).message = some message) : message.length ≤ line.length - 3 := by
  have hbody : (lineBody (line.drop 3)).length ≤ line.length - 3 := by
    unfold lineBody
    split
    · rw [List.length_tail, List.length_drop]
      omega
    · rw [List.length_drop]
  refine Nat.le_trans ?_ hbody
  by_cases hcode : (extendedCodeClass (firstWord (lineBody (line.drop 3)))).isSome = true
  · simp only [readReplyLine, if_pos hcode] at h
    exact length_behindSpace_le h
  · simp only [readReplyLine, if_neg hcode] at h
    split at h
    · cases h
    · obtain rfl := Option.some.inj h
      exact Nat.le_refl _

end ReadReplyLine

section TextLines

theorem withoutCarriageReturn_append (line : Bytes) :
    withoutCarriageReturn (line ++ [13]) = line := by
  rw [withoutCarriageReturn, List.getLast?_concat, if_pos rfl, List.dropLast_concat]

theorem length_withoutCarriageReturn (line : Bytes) :
    line.length ≤ (withoutCarriageReturn line).length + 1 := by
  unfold withoutCarriageReturn
  split
  · rw [List.length_dropLast]
    omega
  · omega

theorem length_withoutCarriageReturn_le (line : Bytes) :
    (withoutCarriageReturn line).length ≤ line.length := by
  unfold withoutCarriageReturn
  split
  · rw [List.length_dropLast]
    omega
  · exact Nat.le_refl _

theorem stripLineEnds_cons (line : Bytes) {lines : List Bytes} (h : lines ≠ []) :
    stripLineEnds (line :: lines) = withoutCarriageReturn line :: stripLineEnds lines := by
  cases lines with
  | nil => exact absurd rfl h
  | cons next lines => rfl

theorem textLines_append (line rest : Bytes) (h : 10 ∉ line) :
    textLines (line ++ 10 :: rest) = withoutCarriageReturn line :: textLines rest := by
  rw [textLines, List.splitOn_append_cons_self_of_not_mem h,
    stripLineEnds_cons _ (List.splitOn_ne_nil _ _), textLines]

theorem textLines_singleton (line : Bytes) (h : 10 ∉ line) : textLines line = [line] := by
  rw [textLines, List.splitOn_eq_singleton h]
  rfl

/-- The lines that were joined. -/
theorem textLines_intercalate (line : Bytes) (lines : List Bytes)
    (h : ∀ other ∈ line :: lines, 10 ∉ other) :
    textLines ([13, 10].intercalate (line :: lines)) = line :: lines := by
  induction lines generalizing line with
  | nil =>
      rw [List.intercalate_singleton]
      exact textLines_singleton line (h line List.mem_cons_self)
  | cons next lines ih =>
      obtain ⟨hline, hlines⟩ := List.forall_mem_cons.mp h
      have hreturn : 10 ∉ line ++ [13] := by simp [hline]
      have happend : line ++ [13, 10] ++ [13, 10].intercalate (next :: lines) =
          (line ++ [13]) ++ 10 :: [13, 10].intercalate (next :: lines) := by simp
      rw [List.intercalate_cons_cons, happend, textLines_append _ _ hreturn,
        withoutCarriageReturn_append, ih next hlines]

theorem notMem_of_mem_splitOn (separator : UInt8) (text part : Bytes)
    (h : part ∈ text.splitOn separator) : separator ∉ part := by
  induction text generalizing part with
  | nil =>
      rw [List.splitOn_nil] at h
      obtain rfl := List.mem_singleton.mp h
      exact List.not_mem_nil
  | cons byte text ih =>
      rw [List.splitOn_cons_eq_if_modifyHead] at h
      split at h
      · rcases List.mem_cons.mp h with rfl | h
        · exact List.not_mem_nil
        · exact ih part h
      · next hbyte =>
        cases hsplit : text.splitOn separator with
        | nil => exact absurd hsplit (List.splitOn_ne_nil _ _)
        | cons first rest =>
            rw [hsplit] at h ih
            rcases List.mem_cons.mp h with rfl | h
            · have hfirst := ih first List.mem_cons_self
              have hne : separator ≠ byte := by
                rintro rfl
                exact hbyte (beq_self_eq_true _)
              simp [hne, hfirst]
            · exact ih part (List.mem_cons_of_mem _ h)

/-- There is a first line, with its line end or without. -/
theorem exists_textLines (text : Bytes) :
    ∃ first rest line lines, text.splitOn 10 = first :: rest ∧ textLines text = line :: lines ∧
      (line = first ∨ line = withoutCarriageReturn first) := by
  cases hsplit : text.splitOn 10 with
  | nil => exact absurd hsplit (List.splitOn_ne_nil _ _)
  | cons first rest =>
      cases rest with
      | nil => exact ⟨first, [], first, [], rfl, by rw [textLines, hsplit]; rfl, Or.inl rfl⟩
      | cons next rest =>
          refine ⟨first, next :: rest, withoutCarriageReturn first, stripLineEnds (next :: rest),
            rfl, ?_, Or.inr rfl⟩
          rw [textLines, hsplit]
          rfl

end TextLines

theorem intercalate_splitOn (text : Bytes) : [10].intercalate (text.splitOn 10) = text :=
  List.intercalate_splitOn 10

theorem splitOn_of_splitLines {text first : Bytes} {rest : List Bytes}
    (h : splitLines text = first :: rest) : text.splitOn 10 = first :: rest := by
  unfold splitLines at h
  split at h
  · cases h
  · exact h

theorem withoutCarriageReturn_subset (line : Bytes) : withoutCarriageReturn line ⊆ line := by
  unfold withoutCarriageReturn
  split
  · exact (List.dropLast_sublist _).subset
  · exact fun _ hmem => hmem

section FormatReplyLine

variable (code : Nat) (hlow : 400 ≤ code) (hhigh : code < 600) {extendedCode : Bytes} {klass : Nat}
  (h : extendedCodeClass extendedCode = some klass)

include hlow hhigh in
theorem formatReplyLine_eq (extendedCode message : Bytes) :
    formatReplyLine code (some extendedCode) message = replyDigits code ++ 32 :: (extendedCode ++
      if message = [] then [] else 32 :: withoutCarriageReturn message) := by
  rw [formatReplyLine, formatUnsigned_replyCode code hhigh hlow, Option.elim_some,
    List.append_assoc, List.cons_append]

include hlow hhigh h in
/-- The line that is written for a line of the message. -/
theorem readReplyLine_formatReplyLine (message : Bytes) :
    readReplyLine (formatReplyLine code (some extendedCode) message) =
      ⟨replyDigits code, some extendedCode,
        if message = [] then none else some (withoutCarriageReturn message)⟩ := by
  rw [formatReplyLine_eq code hlow hhigh]
  apply readReplyLine_extendedCode h
  show extendedCode ++ _ = _
  by_cases hmessage : message = []
  · rw [if_pos hmessage, if_pos hmessage]
    rfl
  · rw [if_neg hmessage, if_neg hmessage]
    rfl

include hlow hhigh h in
/-- A line that is written says more than the line of the message. -/
theorem readReplyLine_formatReplyLine_ne (message line : Bytes)
    (hline : line = message ∨ line = withoutCarriageReturn message) :
    readReplyLine (formatReplyLine code (some extendedCode) message) ≠ readReplyLine line := by
  intro heq
  rw [readReplyLine_formatReplyLine code hlow hhigh h] at heq
  have hcode := congrArg ReplyLine.code heq
  have hmessage := congrArg ReplyLine.message heq
  rw [code_readReplyLine] at hcode
  have hlength : line.length ≤ message.length := by
    rcases hline with rfl | rfl
    · exact Nat.le_refl _
    · exact length_withoutCarriageReturn_le message
  have hthree : 3 ≤ line.length := by
    have := congrArg List.length hcode
    rw [List.length_take] at this
    simp only [replyDigits, List.length_cons, List.length_nil] at this
    omega
  have hne : message ≠ [] := by
    rintro rfl
    simp only [List.length_nil] at hlength
    omega
  simp only [if_neg hne] at hmessage
  have hshort := length_message_readReplyLine hmessage.symm
  have hlong := length_withoutCarriageReturn message
  omega

theorem digit_bounds (n : Nat) (h : n < 10) :
    48 ≤ UInt8.ofNat (48 + n) ∧ UInt8.ofNat (48 + n) ≤ 57 := by
  rw [UInt8.le_iff_toNat_le, UInt8.le_iff_toNat_le, UInt8.toNat_ofNat']
  show 48 ≤ _ ∧ _ ≤ 57
  omega

include hhigh in
theorem notMem_replyDigits (byte : UInt8) (hbyte : byte < 48) : byte ∉ replyDigits code := by
  intro hmem
  have hle : 48 ≤ byte := by
    simp only [replyDigits, List.mem_cons, List.not_mem_nil, or_false] at hmem
    rcases hmem with rfl | rfl | rfl
    · exact (digit_bounds (code / 100) (by omega)).1
    · exact (digit_bounds (code / 10 % 10) (by omega)).1
    · exact (digit_bounds (code % 10) (by omega)).1
  exact absurd hbyte (UInt8.not_lt.mpr hle)

include hlow hhigh h in
theorem notMem_formatReplyLine (byte : UInt8) (hbyte : byte < 32) (message : Bytes)
    (hmessage : byte ∉ message) :
    byte ∉ formatReplyLine code (some extendedCode) message := by
  have hstripped : byte ∉ withoutCarriageReturn message := fun hmem =>
    hmessage (withoutCarriageReturn_subset message hmem)
  have hspace : byte ≠ 32 := UInt8.ne_of_lt hbyte
  have htail : byte ∉ (if message = [] then [] else 32 :: withoutCarriageReturn message) := by
    split
    · exact List.not_mem_nil
    · simp [hstripped, hspace]
  rw [formatReplyLine_eq code hlow hhigh]
  simp only [List.mem_append, List.mem_cons, not_or]
  exact ⟨notMem_replyDigits code hhigh byte (UInt8.lt_trans hbyte (by decide)), hspace,
    notMem_extendedCode h byte (UInt8.lt_trans hbyte (by decide)), htail⟩

include hlow hhigh h in
/-- The formatted text says, line by line, what was formatted. -/
theorem textLines_formatReplyCode (first : Bytes) (rest : List Bytes) (message : Bytes)
    (hmessage : splitLines message = first :: rest) :
    ∃ text, formatReplyCode code (some extendedCode) (some message) = some text ∧
      textLines text = (first :: rest).map (formatReplyLine code (some extendedCode)) := by
  have hsplit := splitOn_of_splitLines hmessage
  refine ⟨_, ?_, textLines_intercalate _ _ ?_⟩
  · rw [formatReplyCode, if_neg (by omega), Option.getD_some, hmessage]
    rfl
  · intro line hline
    rw [← List.map_cons (f := formatReplyLine code (some extendedCode))] at hline
    obtain ⟨part, hpart, rfl⟩ := List.mem_map.mp hline
    apply notMem_formatReplyLine code hlow hhigh h 10 (by decide)
    exact notMem_of_mem_splitOn 10 message part (hsplit ▸ hpart)

end FormatReplyLine

end MilterManager.Client
