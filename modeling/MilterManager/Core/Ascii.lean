import Mathlib.Data.Int.DivMod
import Mathlib.Tactic.IntervalCases
import MilterManager.Core.Headers

/-!
# Characters and numbers in ASCII

The character classes of GLib and the conversion of a number that the parsers of
`milter/core/milter-connection.c`, `milter/core/milter-esmtp.c` and
`milter/client/milter-client-context.c` use.
-/

namespace MilterManager.Core

namespace Ascii

/-- `g_ascii_isdigit`. -/
def isDigit (c : UInt8) : Bool := 48 ≤ c && c ≤ 57

/-- `g_ascii_isalnum`. -/
def isAlnum (c : UInt8) : Bool := isDigit c || (65 ≤ c && c ≤ 90) || (97 ≤ c && c ≤ 122)

/-- `g_ascii_isspace`; a vertical tab is none. -/
def isSpace (c : UInt8) : Bool := c == 32 || c == 9 || c == 10 || c == 12 || c == 13

/-- `g_ascii_iscntrl`. -/
def isCntrl (c : UInt8) : Bool := c < 32 || c == 127

/-- `g_ascii_isgraph`. -/
def isGraph (c : UInt8) : Bool := 33 ≤ c && c ≤ 126

end Ascii

/-- The number that decimal digits write. -/
def digitsValue (digits : Bytes) : Nat :=
  digits.foldl (fun value digit => 10 * value + (digit.toNat - 48)) 0

/-- `printf` with `%d` or `%u`. -/
def decimal (n : Nat) : Bytes := (Nat.toDigits 10 n).map fun c => UInt8.ofNat c.toNat

/-- The bytes of a text in ASCII. -/
def ascii (text : String) : Bytes := text.toList.map fun c => UInt8.ofNat c.toNat

/-- `LONG_MAX`. -/
def longMax : Nat := 0x7FFFFFFFFFFFFFFF

/-- The conversion of a `long` to an `int`, of 32 bits. -/
def intOfLong (value : Int) : Int := value.bmod 0x100000000

/-- `strtol` in base 10: white space, a sign and digits, bounded by what fits a `long`. -/
def strtol (string : Bytes) : Int :=
  match string.dropWhile fun c => Ascii.isSpace c || c == 11 with
  | 45 :: digits => max (-(digitsValue (digits.takeWhile Ascii.isDigit) : Int)) (-longMax - 1)
  | 43 :: digits => min (digitsValue (digits.takeWhile Ascii.isDigit)) longMax
  | digits => min (digitsValue (digits.takeWhile Ascii.isDigit)) longMax

/-- `atoi`, which is `strtol` cut to an `int`. -/
def atoi (string : Bytes) : Int := intOfLong (strtol string)

/-- A character at which the number at the start of a string ends. -/
def endsNumber (c : UInt8) : Bool :=
  !Ascii.isDigit c && !Ascii.isSpace c && c != 11 && c != 45 && c != 43

/-- A digit is no white space and no sign. -/
theorem startsNumber_of_isDigit {c : UInt8} (h : Ascii.isDigit c = true) :
    (Ascii.isSpace c || c == 11) = false ∧ c ≠ 45 ∧ c ≠ 43 := by
  have hne (d : UInt8) (hd : Ascii.isDigit d = false) : c ≠ d := by
    rintro rfl
    rw [h] at hd
    cases hd
  simp [Ascii.isSpace, hne 32 rfl, hne 9 rfl, hne 10 rfl, hne 12 rfl, hne 13 rfl, hne 11 rfl,
    hne 45 rfl, hne 43 rfl]

theorem startsNumber_of_endsNumber {c : UInt8} (h : endsNumber c = true) :
    (Ascii.isSpace c || c == 11) = false ∧ c ≠ 45 ∧ c ≠ 43 := by
  simp only [endsNumber, Bool.and_eq_true, Bool.not_eq_true', bne_iff_ne, ne_eq] at h
  simp [h]

theorem takeWhile_digits {digits rest : Bytes} (hdigits : ∀ c ∈ digits, Ascii.isDigit c = true)
    (hrest : ∀ c, rest.head? = some c → Ascii.isDigit c = false) :
    (digits ++ rest).takeWhile Ascii.isDigit = digits := by
  rw [List.takeWhile_append_of_pos hdigits]
  cases rest with
  | nil => rw [List.takeWhile_nil, List.append_nil]
  | cons c rest =>
      rw [List.takeWhile_cons_of_neg, List.append_nil]
      exact ne_true_of_eq_false (hrest c rfl)

/-- A string of digits, and of what ends a number behind them, is the number up to there. -/
theorem strtol_digits {digits rest : Bytes} (hdigits : ∀ c ∈ digits, Ascii.isDigit c = true)
    (hrest : ∀ c, rest.head? = some c → endsNumber c = true) :
    strtol (digits ++ rest) = min (digitsValue digits : Int) longMax := by
  have htake := takeWhile_digits hdigits fun c hc => by
    have hend := hrest c hc
    rw [endsNumber] at hend
    cases hdigit : Ascii.isDigit c with
    | false => rfl
    | true => simp [hdigit] at hend
  cases hstring : digits ++ rest with
  | nil =>
      rw [List.append_eq_nil_iff] at hstring
      rw [hstring.1]
      rfl
  | cons c string =>
      have hhead : (Ascii.isSpace c || c == 11) = false ∧ c ≠ 45 ∧ c ≠ 43 := by
        cases digits with
        | nil => exact startsNumber_of_endsNumber (hrest c (congrArg List.head? hstring))
        | cons d digits =>
            obtain rfl := (List.cons.inj hstring).1
            exact startsNumber_of_isDigit (hdigits d List.mem_cons_self)
      obtain ⟨hspace, hminus, hplus⟩ := hhead
      rw [hstring] at htake
      rw [strtol, List.dropWhile_cons_of_neg (by simp [hspace])]
      split
      · next heq => exact absurd (List.cons.inj heq).1 hminus
      · next heq => exact absurd (List.cons.inj heq).1 hplus
      · rw [htake]

theorem digitsValue_concat (digits : Bytes) (digit : UInt8) :
    digitsValue (digits ++ [digit]) = 10 * digitsValue digits + (digit.toNat - 48) := by
  rw [digitsValue, List.foldl_append]
  rfl

/-- The digit of a number below ten. -/
theorem digit_of_lt {d : Nat} (h : d < 10) :
    Ascii.isDigit (UInt8.ofNat (Nat.digitChar d).toNat) = true ∧
      (UInt8.ofNat (Nat.digitChar d).toNat).toNat - 48 = d := by
  interval_cases d <;> decide

theorem decimal_of_lt {n : Nat} (h : n < 10) :
    decimal n = [UInt8.ofNat (Nat.digitChar n).toNat] := by
  rw [decimal, Nat.toDigits_of_lt_base h]
  rfl

theorem decimal_of_le {n : Nat} (h : 10 ≤ n) :
    decimal n = decimal (n / 10) ++ [UInt8.ofNat (Nat.digitChar (n % 10)).toNat] := by
  rw [decimal, Nat.toDigits_of_base_le (by decide) h, List.map_append]
  rfl

/-- What is printed of a number reads as that number. -/
theorem decimal_spec (n : Nat) :
    decimal n ≠ [] ∧ (∀ c ∈ decimal n, Ascii.isDigit c = true) ∧ digitsValue (decimal n) = n := by
  induction n using Nat.strong_induction_on with
  | _ n ih =>
      by_cases hsmall : n < 10
      · have hdigit := digit_of_lt hsmall
        rw [decimal_of_lt hsmall]
        refine ⟨List.cons_ne_nil _ _, fun c hc => ?_, ?_⟩
        · rw [List.mem_singleton.mp hc]
          exact hdigit.1
        · show 10 * 0 + _ = n
          rw [hdigit.2]
          omega
      · have hrest := ih (n / 10) (by omega)
        have hdigit := digit_of_lt (d := n % 10) (by omega)
        rw [decimal_of_le (by omega)]
        refine ⟨List.append_ne_nil_of_right_ne_nil _ (List.cons_ne_nil _ _), fun c hc => ?_, ?_⟩
        · rcases List.mem_append.mp hc with hc | hc
          · exact hrest.2.1 c hc
          · rw [List.mem_singleton.mp hc]
            exact hdigit.1
        · rw [digitsValue_concat, hrest.2.2, hdigit.2]
          omega

/-- Numbers that fit an `int` are converted as they are. -/
theorem intOfLong_eq {value : Int} (hlow : -0x80000000 ≤ value) (hhigh : value < 0x80000000) :
    intOfLong value = value := by
  rw [intOfLong, Int.bmod_eq_of_le] <;> omega

end MilterManager.Core
