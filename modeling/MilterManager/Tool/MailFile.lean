import MilterManager.Client.ReplyCodeText
import MilterManager.Codec.Memory
import MilterManager.Core.Ascii
import MilterManager.Tool.TestServer

/-!
# The mail in a file

`--mail-file` of `tool/milter-test-server.c`: the lines of a file are read as the headers and the
body of a mail, and the headers `From` and `To` as its envelope.
-/

namespace MilterManager.Tool

open MilterManager.Core

/-- `MilterTestServerError`: `invalid header: <%s>` and `invalid mail address: <%s>`; or the last
header is `NULL` when the first line goes on with a header. -/
inductive MailError where
  | invalidHeader (line : Bytes)
  | invalidMailAddress (address : Bytes)
  | noLastHeader
deriving DecidableEq, Repr

/-- The static variables of the tool that the command line sets, `none` for `NULL`. -/
structure OptionValues where
  connectHost : Option Bytes
  heloHost : Option Bytes
  envelopeFrom : Option Bytes
  recipients : Option (List Bytes)
  unknownCommand : Option Bytes
  optionHeaders : Headers
  bodyChunks : Option (List Bytes)
  negotiateVersion : Nat
deriving DecidableEq, Repr

/-- `"From"`. -/
def fromName : Bytes := [70, 114, 111, 109]

/-- `"To"`. -/
def toName : Bytes := [84, 111]

/-- `extract_path_from_mail_address`, `tool/milter-test-server.c:1143`. -/
def extractPathFromMailAddress (mailAddress : Bytes) : Except MailError Bytes :=
  match mailAddress.dropWhile (· != 60) with
  | [] => .ok (60 :: ((mailAddress.dropWhile (· == 32)).takeWhile (· != 32) ++ [62]))
  | path =>
      if 62 ∈ path then .ok (path.takeWhile (· != 62) ++ [62])
      else .error (.invalidMailAddress mailAddress)

/-- `parse_header`, `tool/milter-test-server.c:1180`; the recipients are those found so far. -/
def parseHeader (name value : Bytes) (values : OptionValues) (recipients : List Bytes) :
    Except MailError (OptionValues × List Bytes) := do
  if name = fromName then
    let reversePath ← extractPathFromMailAddress value
    pure ({ values with envelopeFrom := some reversePath }, recipients)
  else if name = toName then
    let forwardPath ← extractPathFromMailAddress value
    pure (values, recipients ++ [forwardPath])
  else pure (values, recipients)

/-- `is_header`, `tool/milter-test-server.c:1204`. -/
def isHeader (line : Bytes) : Bool :=
  line.head?.any Ascii.isAlnum && line.contains 58

/-- The line begins with white space. -/
def startsWithSpace (line : Bytes) : Bool := line.head?.any Ascii.isSpace

/-- `append_header`, `tool/milter-test-server.c:1215`. -/
def appendHeaderLine (headers : Headers) (line : Bytes) : Headers :=
  headers.appendHeader (line.takeWhile (· != 58))
    (some (((line.dropWhile (· != 58)).drop 1).dropWhile Ascii.isSpace))

/-- What `printf` writes for `NULL`, `(null)`. -/
def nullText : Bytes := [40, 110, 117, 108, 108, 41]

/-- `append_header_value`, `tool/milter-test-server.c:1228`; `none` when there is no last
header. -/
def appendHeaderValue (headers : Headers) (value newLine : Bytes) : Option Headers :=
  (headers.getNthHeader headers.length).map fun lastHeader =>
    headers.dropLast ++
      [{ lastHeader with value := some (lastHeader.value.getD nullText ++ newLine ++ value) }]

/-- `parse_mail_contents_header_part_collect_headers`, `tool/milter-test-server.c:1247`: the
headers, and the lines behind them. -/
def collectHeaders : List Bytes → Headers → Except MailError (Headers × List Bytes)
  | [], headers => .ok (headers, [])
  | line :: lines, headers =>
      let haveCr : Bool := line.getLast? = some 13
      let line := withoutCarriageReturn line
      if line = [] then .ok (headers, lines)
      else if isHeader line then collectHeaders lines (appendHeaderLine headers line)
      else if startsWithSpace line then
        match appendHeaderValue headers line (if haveCr then [13, 10] else [10]) with
        | none => .error .noLastHeader
        | some headers => collectHeaders lines headers
      else .error (.invalidHeader line)

/-- The loop of `parse_mail_contents_header_part_parse_headers`,
`tool/milter-test-server.c:1292`. -/
def parseHeaders (values : OptionValues) (recipients : List Bytes) :
    Headers → Except MailError (OptionValues × List Bytes)
  | [] => .ok (values, recipients)
  | header :: headers => do
      let (values, recipients) ←
        parseHeader header.name (header.value.getD nullText) values recipients
      parseHeaders values recipients headers

/-- `parse_mail_contents_header_part`, `tool/milter-test-server.c:1324`. -/
def headerPart (values : OptionValues) (lines : List Bytes) :
    Except MailError (OptionValues × List Bytes) := do
  let (headers, rest) ← collectHeaders lines []
  let (values, recipients) ← parseHeaders values [] headers
  let values :=
    if recipients = [] then values else { values with recipients := some recipients }
  pure ({ values with
    optionHeaders := headers.foldl (fun optionHeaders header =>
      optionHeaders.appendHeader header.name header.value) values.optionHeaders }, rest)

/-- The loop of `parse_mail_contents_body_part`, `tool/milter-test-server.c:1355`, with the chunks
and the `body_string` so far. The `'\r'` at the end is looked for behind the text, where there is
none: the last newline goes, and nothing else. -/
def bodyPartFrom (chunks : List Bytes) (bodyString : Bytes) : List Bytes → List Bytes
  | [] => if bodyString = [] then chunks else chunks ++ [bodyString.dropLast]
  | line :: lines =>
      if Children.milterChunkSize < bodyString.length + line.length + 1 then
        bodyPartFrom (chunks ++ [bodyString]) (line ++ [10]) lines
      else bodyPartFrom chunks (bodyString ++ line ++ [10]) lines

/-- `parse_mail_contents_body_part`. -/
def bodyPart (lines : List Bytes) : List Bytes := bodyPartFrom [] [] lines

/-- The text before a `'\0'`, as the functions on strings read it. -/
def untilNull (contents : Bytes) : Bytes := contents.takeWhile (· != 0)

/-- The mark `"From "` between the mails of a mbox. -/
def mboxMark : Bytes := fromName ++ [32]

/-- `parse_mail_contents`, `tool/milter-test-server.c:1398`. -/
def parseMailContents (contents : Bytes) (values : OptionValues) :
    Except MailError OptionValues := do
  let lines := splitLines (untilNull contents)
  let lines := if lines.head?.any mboxMark.isPrefixOf then lines.tail else lines
  let (values, lines) ← headerPart values lines
  pure { values with bodyChunks := some (bodyPart lines) }

/-- `"delian"`. -/
def defaultHeloHost : Bytes := [100, 101, 108, 105, 97, 110]

/-- `"sender@example.com"`. -/
def defaultEnvelopeFrom : Bytes :=
  [115, 101, 110, 100, 101, 114, 64, 101, 120, 97, 109, 112, 108, 101, 46, 99, 111, 109]

/-- `"receiver@example.org"`. -/
def defaultRecipient : Bytes :=
  [114, 101, 99, 101, 105, 118, 101, 114, 64, 101, 120, 97, 109, 112, 108, 101, 46, 111, 114, 103]

/-- A line of the body that is sent when there is none, `"La de da de da %d."`. -/
def defaultBodyLine (digit : UInt8) : Bytes :=
  [76, 97, 32, 100, 101, 32, 100, 97, 32, 100, 101, 32, 100, 97, 32, digit, 46]

/-- The body that is sent when there is none. -/
def defaultBody : Bytes := [10].intercalate ([49, 50, 51, 52].map defaultBodyLine)

/-- A header is appended when there is none of its name. -/
def appendMissingHeader (headers : Headers) (name : Bytes) (value : Option Bytes) : Headers :=
  if (headers.lookupByName name).isSome then headers else headers.appendHeader name value

/-- `post_option_parse`, `tool/milter-test-server.c:1843`. -/
def postOptionParse (values : OptionValues) : Options :=
  let envelopeFrom := normalizeEnvelopeAddress (values.envelopeFrom.getD defaultEnvelopeFrom)
  let recipients := (values.recipients.getD [defaultRecipient]).map normalizeEnvelopeAddress
  let headers := appendMissingHeader values.optionHeaders fromName (some envelopeFrom)
  let headers := appendMissingHeader headers toName recipients.head?
  { connectHost := values.connectHost
    heloHost := values.heloHost.getD defaultHeloHost
    envelopeFrom := envelopeFrom
    recipients := recipients
    unknownCommand := values.unknownCommand
    optionHeaders := headers
    bodyChunks := values.bodyChunks.getD [defaultBody]
    negotiateVersion := values.negotiateVersion }

end MilterManager.Tool
