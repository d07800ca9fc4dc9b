import MilterManager.Core.Headers

/-!
# The text of a reply code

`milter_utils_format_reply_code`, from `milter/core/milter-utils.c`: one line for each line of the
message, each with the code and the extended code in front of it.
-/

namespace MilterManager.Core

/-- `printf` with `%3u`. -/
def formatUnsigned (n : Nat) : Bytes :=
  let digits := (Nat.toDigits 10 n).map fun c => UInt8.ofNat c.toNat
  List.replicate (3 - digits.length) 32 ++ digits

/-- `g_strsplit (string, "\n", -1)`. -/
def splitLines (string : Bytes) : List Bytes :=
  if string = [] then [] else string.splitOn 10

/-- The line without a `'\r'` at its end. -/
def withoutCarriageReturn (line : Bytes) : Bytes :=
  if line.getLast? = some 13 then line.dropLast else line

/-- One round of the loop of `milter_utils_format_reply_code`, without the line end. -/
def formatReplyLine (replyCode : Nat) (extendedCode : Option Bytes) (message : Bytes) : Bytes :=
  formatUnsigned replyCode ++ extendedCode.elim [] (32 :: ·) ++
    if message = [] then [] else 32 :: withoutCarriageReturn message

/-- `milter_utils_format_reply_code`, `milter/core/milter-utils.c:377`; without a message, the text
is that of a line end. -/
def formatReplyCode (replyCode : Nat) (extendedCode replyMessage : Option Bytes) : Option Bytes :=
  if replyCode = 0 then none
  else
    let messages := splitLines (replyMessage.getD [10])
    some ([13, 10].intercalate (messages.map (formatReplyLine replyCode extendedCode)))

/-- The digits of a reply code. -/
def replyDigits (code : Nat) : Bytes :=
  [UInt8.ofNat (48 + code / 100), UInt8.ofNat (48 + code / 10 % 10), UInt8.ofNat (48 + code % 10)]

theorem formatUnsigned_replyCode (code : Nat) (h : code < 600) (hlow : 400 ≤ code) :
    formatUnsigned code = replyDigits code := by
  have hdigit : ∀ d < 10, UInt8.ofNat (Nat.digitChar d).toNat = UInt8.ofNat (48 + d) := by decide
  have hdigits : Nat.toDigits 10 code =
      [Nat.digitChar (code / 100), Nat.digitChar (code / 10 % 10), Nat.digitChar (code % 10)] := by
    rw [Nat.toDigits_of_base_le (by decide) (by omega),
      Nat.toDigits_of_base_le (by decide) (by omega), Nat.toDigits_of_lt_base (by omega),
      Nat.div_div_eq_div_mul]
    rfl
  rw [formatUnsigned, hdigits]
  simp only [List.map_cons, List.map_nil]
  rw [hdigit _ (by omega), hdigit _ (by omega), hdigit _ (by omega)]
  rfl

end MilterManager.Core
