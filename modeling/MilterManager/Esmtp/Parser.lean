import Mathlib.Data.Finmap
import MilterManager.Codec.Memory
import MilterManager.Core.Ascii

/-!
# The parser of envelope arguments

`milter_esmtp_parse_mail_from_argument` and `milter_esmtp_parse_rcpt_to_argument`, from
`milter/core/milter-esmtp.c`. A position in the argument is the text from there to the NUL.
-/

namespace MilterManager.Esmtp

open MilterManager.Core MilterManager.Codec

/-- `IS_ATOM_TEXT`. -/
def isAtomText (c : UInt8) : Bool :=
  Ascii.isAlnum c || c == 33 || (35 ≤ c && c ≤ 39) || c == 42 || c == 43 || c == 45 || c == 47 ||
    c == 61 || c == 63 || (94 ≤ c && c ≤ 96) || (123 ≤ c && c ≤ 126)

/-- `IS_TEXT`. -/
def isText (c : UInt8) : Bool :=
  (1 ≤ c && c ≤ 9) || c == 11 || c == 12 || (14 ≤ c && c ≤ 126)

/-- The texts of the errors. -/
inductive EsmtpMessage where
  | argumentStart
  | domainQuotedCharacter
  | domainTerminator
  | domainStart
  | localPartQuotedCharacter
  | localPartEndQuote
  | mailboxAt
  | mailboxDomain
  | sourceRouteSeparator
  | pathTerminator
  | keywordMissing
  | keywordStart
  | garbage
deriving DecidableEq, Repr

/-- How a parser stops: without an argument, with an error at a position, or by reading behind the
NUL of the argument. -/
inductive Stop where
  | argumentMissing
  | invalid (message : EsmtpMessage) (position : Bytes)
  | overrun
deriving DecidableEq, Repr

/-- A character at which the loop over a quoted text stops; a NUL is a control character. -/
def breaksQuoted (isEnd : UInt8 → Bool) (c : UInt8) : Bool :=
  isEnd c || Ascii.isSpace c || !(Ascii.isCntrl c || Ascii.isGraph c)

/-- The loops over a domain literal and over a quoted local part behind the opening character: the
position behind the terminator. -/
def parseQuoted (isEnd : UInt8 → Bool) (terminator : UInt8)
    (quotedCharacter missing : EsmtpMessage) : Bytes → Except Stop Bytes
  | [] => .error .overrun
  | c :: rest =>
      if c = 92 then
        match rest with
        | [] => .error (.invalid quotedCharacter [])
        | d :: rest =>
            if isText d then parseQuoted isEnd terminator quotedCharacter missing rest
            else .error (.invalid quotedCharacter (d :: rest))
      else if breaksQuoted isEnd c then
        if c = terminator then .ok rest else .error (.invalid missing (c :: rest))
      else parseQuoted isEnd terminator quotedCharacter missing rest

/-- The loop of `parse_domain` over a domain literal, behind its `'['`. -/
def parseDomainLiteral : Bytes → Except Stop Bytes :=
  parseQuoted (fun c => c == 91 || c == 93) 93 .domainQuotedCharacter .domainTerminator

/-- A character that the loops of `parse_domain` pass over; between two dots there may be none. -/
def isDomainText (c : UInt8) : Bool := Ascii.isAlnum c || c == 45 || c == 46

/-- `parse_domain`, `milter/core/milter-esmtp.c:103`. -/
def parseDomain : Bytes → Except Stop Bytes
  | [] => .error (.invalid .domainStart [])
  | c :: rest =>
      if c = 91 then parseDomainLiteral rest
      else if Ascii.isAlnum c then .ok (rest.dropWhile isDomainText)
      else .error (.invalid .domainStart (c :: rest))

theorem length_parseQuoted {isEnd : UInt8 → Bool} {terminator : UInt8}
    {quotedCharacter missing : EsmtpMessage} (text : Bytes) {rest : Bytes}
    (h : parseQuoted isEnd terminator quotedCharacter missing text = .ok rest) :
    rest.length < text.length := by
  fun_induction parseQuoted isEnd terminator quotedCharacter missing text with
  | case1 => cases h
  | case2 => cases h
  | case3 d text hd ih =>
      have hlt := ih h
      simp only [List.length_cons]
      omega
  | case4 => cases h
  | case5 text hne hend =>
      cases h
      exact Nat.lt_succ_self _
  | case6 => cases h
  | case7 c text hne hend ih => exact Nat.lt_succ_of_lt (ih h)

theorem length_parseDomain {text rest : Bytes} (h : parseDomain text = .ok rest) :
    rest.length < text.length := by
  cases text with
  | nil => cases h
  | cons c text =>
      rw [parseDomain] at h
      split at h
      · exact Nat.lt_succ_of_lt (length_parseQuoted text h)
      · split at h
        · cases h
          exact Nat.lt_succ_of_le (List.length_dropWhile_le _ _)
        · cases h

/-- `parse_source_route`, `milter/core/milter-esmtp.c:156`. -/
def parseSourceRoute (text : Bytes) : Except Stop Bytes :=
  match text with
  | 64 :: domain =>
      match _h : parseDomain domain with
      | .error stop => .error stop
      | .ok (44 :: rest) => parseSourceRoute rest
      | .ok rest => .ok rest
  | text => .ok text
termination_by text.length
decreasing_by
  have hlt := length_parseDomain _h
  simp only [List.length_cons] at hlt ⊢
  omega

/-- A character that the loops of `parse_local_part` pass over. -/
def isLocalText (c : UInt8) : Bool := isAtomText c || c == 46

/-- `parse_local_part`, `milter/core/milter-esmtp.c:181`. -/
def parseLocalPart : Bytes → Except Stop Bytes
  | 34 :: rest => parseQuoted (· == 34) 34 .localPartQuotedCharacter .localPartEndQuote rest
  | text => .ok (text.dropWhile isLocalText)

/-- `parse_mailbox`, `milter/core/milter-esmtp.c:230`. -/
def parseMailbox (text : Bytes) : Except Stop Bytes := do
  let rest ← parseLocalPart text
  match rest with
  | 64 :: domain =>
      if domain.length ≤ 1 then .error (.invalid .mailboxDomain domain)
      else parseDomain domain
  | rest => .error (.invalid .mailboxAt rest)

/-- `"<Postmaster>"`. -/
def postmasterPath : Bytes := [60, 80, 111, 115, 116, 109, 97, 115, 116, 101, 114, 62]

/-- The `':'` that `parse_path` asks for behind a source route, if there was one. -/
def parseSeparator (text mailbox : Bytes) : Except Stop Bytes :=
  if mailbox.length < text.length then
    match mailbox with
    | 58 :: mailbox => .ok mailbox
    | mailbox => .error (.invalid .sourceRouteSeparator mailbox)
  else .ok mailbox

/-- The `'>'` at the end of a path, and the path up to there. -/
def parsePathEnd (path : Bytes) : Bytes → Except Stop (Option Bytes × Bytes)
  | 62 :: rest => .ok (some (path.take (path.length - rest.length)), rest)
  | rest => .error (.invalid .pathTerminator rest)

/-- `parse_path`, `milter/core/milter-esmtp.c:258`, on a text that starts with `'<'`: the path, if
it is not the null path, and the position behind it. -/
def parsePath (acceptPostmasterPath : Bool) (path : Bytes) : Except Stop (Option Bytes × Bytes) :=
  if path.tail.head? = some 62 then .ok (none, path.drop 2)
  else if acceptPostmasterPath = true ∧ postmasterPath <+: path then
    .ok (some postmasterPath, path.drop postmasterPath.length)
  else do
    let route ← parseSourceRoute path.tail
    let mailbox ← parseSeparator path.tail route
    let rest ← parseMailbox mailbox
    parsePathEnd path rest

/-- The `GHashTable` of parameters. -/
abbrev Parameters := Finmap fun _ : Bytes => Option Bytes

/-- A character of a keyword behind the first. -/
def isKeywordText (c : UInt8) : Bool := Ascii.isAlnum c || c == 45

/-- A character of a value. -/
def isValueText (c : UInt8) : Bool := Ascii.isGraph c && c != 61

/-- `g_hash_table_insert` into a table that is made when it is needed. -/
def insertParameter (parameters : Option Parameters) (keyword : Bytes) (value : Option Bytes) :
    Option Parameters :=
  some ((parameters.getD ∅).insert keyword value)

/-- `parse_parameters`, `milter/core/milter-esmtp.c:315`. -/
def parseParameters (parameters : Option Parameters) (text : Bytes) :
    Except Stop (Option Parameters × Bytes) :=
  match text with
  | 32 :: [] => .error (.invalid .keywordMissing [])
  | 32 :: c :: rest =>
      if !Ascii.isAlnum c then .error (.invalid .keywordStart (c :: rest))
      else
        match _h : rest.dropWhile isKeywordText with
        | 61 :: value =>
            parseParameters
              (insertParameter parameters (c :: rest.takeWhile isKeywordText)
                (some (value.takeWhile isValueText)))
              (value.dropWhile isValueText)
        | text =>
            parseParameters
              (insertParameter parameters (c :: rest.takeWhile isKeywordText) none) text
  | text => .ok (parameters, text)
termination_by text.length
decreasing_by
  · have hle := List.length_dropWhile_le isKeywordText rest
    have hle' := List.length_dropWhile_le isValueText value
    rw [_h] at hle
    simp only [List.length_cons] at hle ⊢
    omega
  · have hle := List.length_dropWhile_le isKeywordText rest
    rw [_h] at hle
    simp only [List.length_cons]
    omega

/-- `milter_esmtp_parse_envelope_command_argument`, `milter/core/milter-esmtp.c:384`: the path and
the parameters, each `none` where nothing is stored. -/
def parseEnvelopeCommandArgument (acceptPostmasterPath : Bool) (argument : Option CString) :
    Except Stop (Option Bytes × Option Parameters) :=
  match argument with
  | none => .error .argumentMissing
  | some argument =>
      if argument.bytes.head? ≠ some 60 then .error (.invalid .argumentStart argument.bytes)
      else do
        let (path, text) ← parsePath acceptPostmasterPath argument.bytes
        let (parameters, rest) ← parseParameters none text
        if rest ≠ [] then .error (.invalid .garbage rest) else .ok (path, parameters)

/-- `milter_esmtp_parse_mail_from_argument`, `milter/core/milter-esmtp.c:446`. -/
def parseMailFromArgument (argument : Option CString) :
    Except Stop (Option Bytes × Option Parameters) :=
  parseEnvelopeCommandArgument false argument

/-- `milter_esmtp_parse_rcpt_to_argument`, `milter/core/milter-esmtp.c:459`. -/
def parseRcptToArgument (argument : Option CString) :
    Except Stop (Option Bytes × Option Parameters) :=
  parseEnvelopeCommandArgument true argument

/-- The parser of a command: the one of `RCPT TO` accepts the path of the postmaster. -/
def parseArgument : Bool → Option CString → Except Stop (Option Bytes × Option Parameters)
  | false => parseMailFromArgument
  | true => parseRcptToArgument

theorem parseArgument_eq (acceptPostmasterPath : Bool) (argument : Option CString) :
    parseArgument acceptPostmasterPath argument =
      parseEnvelopeCommandArgument acceptPostmasterPath argument := by
  cases acceptPostmasterPath with
  | false => rfl
  | true => rfl

end MilterManager.Esmtp
