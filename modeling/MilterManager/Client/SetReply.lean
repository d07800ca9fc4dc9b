import MilterManager.Client.Context
import MilterManager.Codec.Memory
import MilterManager.Core.Ascii

/-!
# Setting a reply code

`milter_client_context_set_reply`, from `milter/client/milter-client-context.c`, and the scanner of
extended status codes behind it: one loop for each of the three components.
-/

namespace MilterManager.Client

open MilterManager.Core MilterManager.Codec

/-- The errors of `extended_code_parse`, with the character or the component that they show. -/
inductive ExtendedCodeError where
  | classMissing
  | classTooLong
  | classInvalid (character : UInt8)
  | subjectMissing
  | subjectTooLong (component : Bytes)
  | subjectNotDigit (character : UInt8)
  | detailMissing
  | detailTooLong (component : Bytes)
  | detailNotDigit (character : UInt8)
deriving DecidableEq, Repr

/-- The errors of `milter_client_context_set_reply`. -/
inductive SetReplyError where
  | invalidCode (code : Nat)
  | invalidExtendedCode (error : ExtendedCodeError)
  | classMismatch (code : Nat) (extendedCode : CString)
deriving DecidableEq, Repr

/-- The loop of `extended_code_parse_class`, `milter/client/milter-client-context.c:1794`, after `i`
characters: the class and the current point. -/
def extendedCodeParseClass (point : Bytes) (i : Nat) :
    Bytes → Except ExtendedCodeError (Int × Bytes)
  | [] => if i = 0 then .error .classMissing else .ok (0, [])
  | c :: rest =>
      if c = 46 then
        if i = 0 then .error .classMissing else .ok (atoi point, rest)
      else if 1 ≤ i then .error .classTooLong
      else if ¬(c = 50 ∨ c = 52 ∨ c = 53) then .error (.classInvalid c)
      else extendedCodeParseClass point (i + 1) rest

/-- The loop of `extended_code_parse_subject`, `milter/client/milter-client-context.c:1845`. -/
def extendedCodeParseSubject (point : Bytes) (i : Nat) :
    Bytes → Except ExtendedCodeError Bytes
  | [] => if i = 0 then .error .subjectMissing else .ok []
  | c :: rest =>
      if c = 46 then
        if i = 0 then .error .subjectMissing else .ok rest
      else if 3 ≤ i then .error (.subjectTooLong (point.take 4))
      else if !Ascii.isDigit c then .error (.subjectNotDigit c)
      else extendedCodeParseSubject point (i + 1) rest

/-- The loop of `extended_code_parse_detail`, `milter/client/milter-client-context.c:1899`. -/
def extendedCodeParseDetail (point : Bytes) (i : Nat) : Bytes → Except ExtendedCodeError Bytes
  | [] => if i = 0 then .error .detailMissing else .ok []
  | c :: rest =>
      if 3 ≤ i then .error (.detailTooLong (point.take 4))
      else if !Ascii.isDigit c then .error (.detailNotDigit c)
      else extendedCodeParseDetail point (i + 1) rest

/-- `extended_code_parse`, `milter/client/milter-client-context.c:1942`: the class; nothing reads
the subject and the detail. -/
def extendedCodeParse (extendedCode : Bytes) : Except ExtendedCodeError Int := do
  let (klass, point) ← extendedCodeParseClass extendedCode 0 extendedCode
  if point = [] then .error .subjectMissing
  else do
    let point ← extendedCodeParseSubject point 0 point
    if point = [] then .error .detailMissing
    else do
      let _ ← extendedCodeParseDetail point 0 point
      pure klass

/-- The error that `milter_client_context_set_reply` sets for its arguments, if any. -/
def setReplyError (code : Nat) (extendedCode : Option CString) : Option SetReplyError :=
  if ¬(400 ≤ code ∧ code < 600) then some (.invalidCode code)
  else
    match extendedCode with
    | none => none
    | some extendedCode =>
        match extendedCodeParse extendedCode.bytes with
        | .error error => some (.invalidExtendedCode error)
        | .ok klass =>
            if klass ≠ (code / 100 : Nat) then some (.classMismatch code extendedCode) else none

/-- `milter_client_context_set_reply`, `milter/client/milter-client-context.c:1984`, with the error
that it sets. -/
def ClientContext.setReplyOrError (context : ClientContext) (code : Nat)
    (extendedCode message : Option CString) : ClientContext × Option SetReplyError :=
  match setReplyError code extendedCode with
  | some error => (context, some error)
  | none =>
      ({ context with
        replyCode := code
        extendedReplyCode := extendedCode.map CString.bytes
        replyMessage := message.map CString.bytes }, none)

/-- One to three digits. -/
def IsComponent (component : Bytes) : Prop :=
  1 ≤ component.length ∧ component.length ≤ 3 ∧ ∀ c ∈ component, Ascii.isDigit c = true

/-- A class, a subject and a detail with a dot between them. -/
def IsExtendedCode (klass : Nat) (text : Bytes) : Prop :=
  ∃ digit subject detail, text = digit :: 46 :: (subject ++ 46 :: detail) ∧
    Ascii.isDigit digit = true ∧ digit.toNat = 48 + klass ∧ IsComponent subject ∧ IsComponent detail

/-- A code between 400 and 599, with an extended code of its class or none. -/
def IsReply (code : Nat) (extendedCode : Option CString) : Prop :=
  400 ≤ code ∧ code ≤ 599 ∧
    ∀ given, extendedCode = some given → IsExtendedCode (code / 100) given.bytes

section Scan

variable {point rest : Bytes}

theorem extendedCodeParseDetail_iff (i : Nat) (hi : i ≤ 3) (text : Bytes) :
    (∃ rest, extendedCodeParseDetail point i text = .ok rest) ↔
      1 ≤ i + text.length ∧ i + text.length ≤ 3 ∧ ∀ c ∈ text, Ascii.isDigit c = true := by
  induction text generalizing i with
  | nil =>
      rw [extendedCodeParseDetail]
      by_cases hzero : i = 0
      · simp [hzero]
      · simp [hzero]
        omega
  | cons c text ih =>
      rw [extendedCodeParseDetail]
      by_cases hlong : 3 ≤ i
      · simp [hlong]
        omega
      · rw [if_neg hlong]
        cases hdigit : Ascii.isDigit c with
        | false => simp [hdigit]
        | true =>
            rw [Bool.not_true, if_neg Bool.false_ne_true, ih (i + 1) (by omega)]
            simp [hdigit, Nat.add_assoc, Nat.add_comm 1]

theorem extendedCodeParseSubject_iff (i : Nat) (hi : i ≤ 3) (text : Bytes) (hrest : rest ≠ []) :
    extendedCodeParseSubject point i text = .ok rest ↔
      ∃ digits, text = digits ++ 46 :: rest ∧ 1 ≤ i + digits.length ∧ i + digits.length ≤ 3 ∧
        ∀ c ∈ digits, Ascii.isDigit c = true := by
  induction text generalizing i with
  | nil =>
      rw [extendedCodeParseSubject]
      apply iff_of_false
      · split
        · intro h
          cases h
        · intro h
          exact hrest (Except.ok.inj h).symm
      · rintro ⟨digits, htext, -⟩
        simp at htext
  | cons c text ih =>
      have hdot : Ascii.isDigit 46 = false := rfl
      rw [extendedCodeParseSubject]
      by_cases hc : c = 46
      · -- The digits end here, since a dot is no digit.
        rw [if_pos hc, hc]
        by_cases hzero : i = 0
        · rw [if_pos hzero, hzero]
          apply iff_of_false (fun h => by cases h)
          rintro ⟨digits, htext, hlength, -, hdigits⟩
          cases digits with
          | nil => exact absurd hlength (by decide)
          | cons d digits =>
              have hd := hdigits d List.mem_cons_self
              rw [← (List.cons.inj htext).1, hdot] at hd
              cases hd
        · rw [if_neg hzero, Except.ok.injEq]
          constructor
          · rintro rfl
            exact ⟨[], rfl, by simp; omega, by simpa using hi, by simp⟩
          · rintro ⟨digits, htext, -, -, hdigits⟩
            cases digits with
            | nil => exact (List.cons.inj htext).2
            | cons d digits =>
                have hd := hdigits d List.mem_cons_self
                rw [← (List.cons.inj htext).1, hdot] at hd
                cases hd
      · rw [if_neg hc]
        have hsplit : (∃ digits, c :: text = digits ++ 46 :: rest ∧ 1 ≤ i + digits.length ∧
              i + digits.length ≤ 3 ∧ ∀ d ∈ digits, Ascii.isDigit d = true) ↔
            Ascii.isDigit c = true ∧ ∃ digits, text = digits ++ 46 :: rest ∧
              1 ≤ i + 1 + digits.length ∧ i + 1 + digits.length ≤ 3 ∧
              ∀ d ∈ digits, Ascii.isDigit d = true := by
          constructor
          · rintro ⟨digits, htext, hlow, hhigh, hdigits⟩
            cases digits with
            | nil => exact absurd (List.cons.inj htext).1 hc
            | cons d digits =>
                have hhead := (List.cons.inj htext).1
                have htail := (List.cons.inj htext).2
                rw [List.length_cons] at hlow hhigh
                rw [List.forall_mem_cons] at hdigits
                exact ⟨hhead ▸ hdigits.1, digits, htail, by omega, by omega, hdigits.2⟩
          · rintro ⟨hdigit, digits, htext, hlow, hhigh, hdigits⟩
            refine ⟨c :: digits, by rw [htext]; rfl, ?_, ?_, ?_⟩
            · rw [List.length_cons]
              omega
            · rw [List.length_cons]
              omega
            · exact List.forall_mem_cons.mpr ⟨hdigit, hdigits⟩
        rw [hsplit]
        by_cases hlong : 3 ≤ i
        · rw [if_pos hlong]
          apply iff_of_false (fun h => by cases h)
          rintro ⟨-, digits, -, -, hhigh, -⟩
          omega
        · rw [if_neg hlong]
          cases hdigit : Ascii.isDigit c with
          | false => simp
          | true =>
              rw [Bool.not_true, if_neg Bool.false_ne_true, ih (i + 1) (by omega),
                and_iff_right rfl]

theorem atoi_class (digit : UInt8) (h : Ascii.isDigit digit = true) (rest : Bytes) :
    atoi (digit :: 46 :: rest) = (digit.toNat - 48 : Nat) := by
  have hvalue : digitsValue [digit] = digit.toNat - 48 := by
    simp [digitsValue]
  have hlong := @strtol_digits [digit] (46 :: rest) (by simpa using h) (by rintro c ⟨⟩; rfl)
  have hbound := digit.toNat_lt
  rw [List.singleton_append, hvalue, longMax] at hlong
  have hmin : min ((digit.toNat - 48 : Nat) : Int) (0x7FFFFFFFFFFFFFFF : Nat) =
      (digit.toNat - 48 : Nat) := by
    omega
  rw [atoi, hlong, hmin, intOfLong_eq (by omega) (by omega)]

theorem extendedCodeParseClass_iff (text : Bytes) (klass : Int) (hrest : rest ≠ []) :
    extendedCodeParseClass text 0 text = .ok (klass, rest) ↔
      ∃ digit, text = digit :: 46 :: rest ∧ (digit = 50 ∨ digit = 52 ∨ digit = 53) ∧
        klass = (digit.toNat - 48 : Nat) := by
  cases text with
  | nil => simp [extendedCodeParseClass]
  | cons c text =>
      rw [extendedCodeParseClass]
      by_cases hdot : c = 46
      · subst hdot
        simp
      · rw [if_neg hdot, if_neg (by decide)]
        by_cases hclass : c = 50 ∨ c = 52 ∨ c = 53
        · rw [if_neg (not_not_intro hclass)]
          have hdigit : Ascii.isDigit c = true := by
            rcases hclass with rfl | rfl | rfl <;> rfl
          cases text with
          | nil => simp [extendedCodeParseClass, Ne.symm hrest]
          | cons d text =>
              rw [extendedCodeParseClass]
              by_cases hd : d = 46
              · subst hd
                rw [if_pos rfl, if_neg (by decide), atoi_class c hdigit, Except.ok.injEq,
                  Prod.mk.injEq]
                constructor
                · rintro ⟨rfl, rfl⟩
                  exact ⟨c, rfl, hclass, rfl⟩
                · rintro ⟨digit, htext, -, rfl⟩
                  simp only [List.cons.injEq, true_and] at htext
                  rw [htext.1, htext.2]
                  exact ⟨rfl, rfl⟩
              · rw [if_neg hd, if_pos (by decide)]
                simp [hd]
        · rw [if_pos hclass]
          apply iff_of_false (fun h => by cases h)
          rintro ⟨digit, htext, hmem, -⟩
          rw [(List.cons.inj htext).1] at hclass
          exact hclass hmem

theorem extendedCodeParse_eq_ok (text : Bytes) (klass : Int) :
    extendedCodeParse text = .ok klass ↔
      ∃ afterClass afterSubject, afterClass ≠ [] ∧ afterSubject ≠ [] ∧
        extendedCodeParseClass text 0 text = .ok (klass, afterClass) ∧
        extendedCodeParseSubject afterClass 0 afterClass = .ok afterSubject ∧
        ∃ rest, extendedCodeParseDetail afterSubject 0 afterSubject = .ok rest := by
  rw [extendedCodeParse]
  cases extendedCodeParseClass text 0 text with
  | error error => simp [bind, Except.bind]
  | ok parsed =>
      obtain ⟨number, afterClass⟩ := parsed
      by_cases hclassNe : afterClass = []
      · subst hclassNe
        simp [bind, Except.bind]
      · cases hsubject : extendedCodeParseSubject afterClass 0 afterClass with
        | error error => simp [bind, Except.bind, hclassNe, hsubject]
        | ok afterSubject =>
            by_cases hsubjectNe : afterSubject = []
            · subst hsubjectNe
              simp [bind, Except.bind, hclassNe, hsubject]
            · cases hdetail : extendedCodeParseDetail afterSubject 0 afterSubject with
              | error error =>
                  simp [bind, Except.bind, hclassNe, hsubjectNe, hsubject, hdetail]
              | ok rest =>
                  simp [bind, Except.bind, pure, Except.pure, hclassNe, hsubjectNe, hsubject,
                    hdetail]

/-- The scanners accept the well-formed codes of the classes 2, 4 and 5. -/
theorem extendedCodeParse_iff (text : Bytes) (klass : Int) :
    extendedCodeParse text = .ok klass ↔
      ∃ digit subject detail, text = digit :: 46 :: (subject ++ 46 :: detail) ∧
        (digit = 50 ∨ digit = 52 ∨ digit = 53) ∧ klass = (digit.toNat - 48 : Nat) ∧
        IsComponent subject ∧ IsComponent detail := by
  rw [extendedCodeParse_eq_ok]
  constructor
  · rintro ⟨afterClass, afterSubject, hclassNe, hsubjectNe, hclass, hsubject, hdetail⟩
    rw [extendedCodeParseClass_iff text klass hclassNe] at hclass
    rw [extendedCodeParseSubject_iff 0 (by decide) afterClass hsubjectNe] at hsubject
    rw [extendedCodeParseDetail_iff 0 (by decide)] at hdetail
    obtain ⟨digit, rfl, hdigit, hklass⟩ := hclass
    obtain ⟨subject, rfl, hsubject⟩ := hsubject
    rw [Nat.zero_add] at hsubject hdetail
    exact ⟨digit, subject, afterSubject, rfl, hdigit, hklass, hsubject, hdetail⟩
  · rintro ⟨digit, subject, detail, rfl, hdigit, hklass, hsubject, hdetail⟩
    have hdetailNe : detail ≠ [] := List.ne_nil_of_length_pos hdetail.1
    have hne : subject ++ 46 :: detail ≠ [] := by simp
    refine ⟨subject ++ 46 :: detail, detail, hne, hdetailNe, ?_, ?_, ?_⟩
    · rw [extendedCodeParseClass_iff _ _ hne]
      exact ⟨digit, rfl, hdigit, hklass⟩
    · rw [extendedCodeParseSubject_iff 0 (by decide) _ hdetailNe]
      exact ⟨subject, rfl, by rwa [Nat.zero_add]⟩
    · rw [extendedCodeParseDetail_iff 0 (by decide), Nat.zero_add]
      exact hdetail

/-- For the classes 4 and 5 this is the shape that a reply code asks for. -/
theorem extendedCodeParse_iff_isExtendedCode (text : Bytes) {klass : Nat}
    (hklass : klass = 4 ∨ klass = 5) :
    extendedCodeParse text = .ok (klass : Int) ↔ IsExtendedCode klass text := by
  rw [extendedCodeParse_iff, IsExtendedCode]
  constructor
  · rintro ⟨digit, subject, detail, htext, hdigit, hnumber, hsubject, hdetail⟩
    refine ⟨digit, subject, detail, htext, ?_, ?_, hsubject, hdetail⟩
    · rcases hdigit with rfl | rfl | rfl <;> rfl
    · rcases hdigit with rfl | rfl | rfl <;> simp at hnumber ⊢ <;> omega
  · rintro ⟨digit, subject, detail, htext, -, hnumber, hsubject, hdetail⟩
    refine ⟨digit, subject, detail, htext, ?_, by omega, hsubject, hdetail⟩
    rcases hklass with rfl | rfl
    · exact .inr (.inl (UInt8.toNat_inj.mp hnumber))
    · exact .inr (.inr (UInt8.toNat_inj.mp hnumber))

end Scan

theorem setReplyError_eq_none (code : Nat) (extendedCode : Option CString) :
    setReplyError code extendedCode = none ↔ IsReply code extendedCode := by
  unfold setReplyError IsReply
  by_cases hcode : 400 ≤ code ∧ code < 600
  · have hklass : code / 100 = 4 ∨ code / 100 = 5 := by omega
    rw [if_neg (not_not_intro hcode), and_iff_right hcode.1, and_iff_right (by omega)]
    cases extendedCode with
    | none => simp
    | some given =>
        simp only [Option.some.injEq, forall_eq']
        rw [← extendedCodeParse_iff_isExtendedCode given.bytes hklass]
        cases extendedCodeParse given.bytes with
        | error error => simp
        | ok klass => simp
  · rw [if_pos hcode]
    apply iff_of_false (fun h => by cases h)
    rintro ⟨hlow, hhigh, -⟩
    exact hcode ⟨hlow, by omega⟩

theorem isExtendedCodeComponent_iff (component : Bytes) :
    isExtendedCodeComponent component = true ↔ IsComponent component := by
  simp [isExtendedCodeComponent, IsComponent, Ascii.isDigit, Nat.one_le_iff_ne_zero, and_assoc]

theorem not_mem_of_isComponent {component : Bytes} (h : IsComponent component) :
    ∀ c ∈ component, c ≠ 46 := by
  rintro c hc rfl
  have hdigit : Ascii.isDigit 46 = true := h.2.2 46 hc
  cases hdigit

/-- The class that the client context reads is the one that the scanners find. -/
theorem extendedCodeClass_iff (text : Bytes) (klass : Nat) :
    extendedCodeClass text = some klass ↔ extendedCodeParse text = .ok (klass : Int) := by
  rw [extendedCodeParse_iff]
  constructor
  · intro h
    unfold extendedCodeClass at h
    split at h
    · next digit rest =>
        split at h
        · next detail hdrop =>
            split at h
            · next hparts =>
                rw [isExtendedCodeComponent_iff, isExtendedCodeComponent_iff] at hparts
                have hsplit := List.takeWhile_append_dropWhile (p := (· ≠ (46 : UInt8))) (l := rest)
                rw [hdrop] at hsplit
                refine ⟨digit, rest.takeWhile (· ≠ 46), detail, by rw [hsplit], hparts.1, ?_,
                  hparts.2⟩
                rw [Option.some.inj h]
            · cases h
        · cases h
    · cases h
  · rintro ⟨digit, subject, detail, rfl, hdigit, hklass, hsubject, hdetail⟩
    have hsubjectNe (c : UInt8) (hc : c ∈ subject) : decide (c ≠ 46) = true :=
      decide_eq_true (not_mem_of_isComponent hsubject c hc)
    have hdrop : (subject ++ 46 :: detail).dropWhile (· ≠ 46) = 46 :: detail := by
      rw [List.dropWhile_append_of_pos hsubjectNe]
      rfl
    have htake : (subject ++ 46 :: detail).takeWhile (· ≠ 46) = subject := by
      rw [List.takeWhile_append_of_pos hsubjectNe, List.takeWhile_cons_of_neg (by decide),
        List.append_nil]
    rw [← isExtendedCodeComponent_iff] at hsubject hdetail
    have hnumber : digit.toNat - 48 = klass := by omega
    rw [extendedCodeClass, hdrop, htake]
    exact (if_pos ⟨hdigit, hsubject, hdetail⟩).trans (congrArg some hnumber)

/-- The two forms of the setter agree: without an error the reply is set, with one it is not. -/
theorem setReplyOrError_eq (context : ClientContext) (code : Nat)
    (extendedCode message : Option CString) :
    context.setReply code (extendedCode.map CString.bytes) (message.map CString.bytes) =
      if (context.setReplyOrError code extendedCode message).2 = none then
        some (context.setReplyOrError code extendedCode message).1
      else none := by
  have hguard : (400 ≤ code ∧ code < 600 ∧ (extendedCode.map CString.bytes).all
        (fun c => extendedCodeClass c == some (code / 100)) = true) ↔
      setReplyError code extendedCode = none := by
    rw [setReplyError_eq_none, IsReply]
    apply and_congr_right
    intro hlow
    rw [Nat.lt_succ_iff (n := 599)]
    apply and_congr_right
    intro hhigh
    have hklass : code / 100 = 4 ∨ code / 100 = 5 := by omega
    cases extendedCode with
    | none => simp
    | some given =>
        simp only [Option.some.injEq, forall_eq']
        rw [← extendedCodeParse_iff_isExtendedCode given.bytes hklass, ← extendedCodeClass_iff]
        simp
  rw [ClientContext.setReply, ClientContext.setReplyOrError]
  simp only [hguard]
  cases setReplyError code extendedCode with
  | none => simp
  | some error => simp

/-- A reply is set as given when it is well formed. When it is not, there is an error and the one
set before stays. So it is for the callers that do not look at the error. -/
theorem setReplyOrError_exact (context : ClientContext) (code : Nat)
    (extendedCode message : Option CString) :
    (IsReply code extendedCode →
      context.setReplyOrError code extendedCode message =
        ({ context with
          replyCode := code
          extendedReplyCode := extendedCode.map CString.bytes
          replyMessage := message.map CString.bytes }, none)) ∧
      (¬IsReply code extendedCode →
        ∃ error, context.setReplyOrError code extendedCode message = (context, some error)) ∧
      context.setReply code (extendedCode.map CString.bytes) (message.map CString.bytes) =
        if (context.setReplyOrError code extendedCode message).2 = none then
          some (context.setReplyOrError code extendedCode message).1
        else none := by
  rw [← and_assoc]
  refine ⟨?_, setReplyOrError_eq context code extendedCode message⟩
  rw [← setReplyError_eq_none, ClientContext.setReplyOrError]
  cases setReplyError code extendedCode with
  | none => simp
  | some error => simp

end MilterManager.Client
