import MilterManager.Tool.MailFormat
import MilterManager.Tool.TestCompletion
import MilterManager.Tool.TestSession

/-!
# The mail of a file in a session

What a milter is given by `tool/milter-test-server.c` is what stands in the file of `--mail-file`.
-/

namespace MilterManager.Tool

open MilterManager.Base MilterManager.Core MilterManager.Server

/-! ## What is read -/

/-- The file consists of the mark of a mbox, if there is one, fields, an empty line and a body. -/
structure Reads (contents : Bytes) (fields : List Field) (body : List Bytes) : Prop where
  wellFormed : ∀ field ∈ fields, field.WellFormed
  lines : ∃ (mark : Option Bytes) (tail : List Bytes),
    splitLines (untilNull contents) = mark.toList ++ (fields.flatMap Field.lines ++ tail) ∧
    (tail = [] ∧ body = [] ∨ ∃ cr, tail = lineEnd cr :: body) ∧
    ∀ line ∈ mark, mboxMark <+: line

section Parse

variable {values values' : OptionValues} {recipients recipients' : List Bytes} {headers : Headers}
variable {contents : Bytes} {lines rest : List Bytes}

/-- The paths in the headers of a name. -/
def pathsOf (name : Bytes) (headers : Headers) : Except MailError (List Bytes) :=
  (headers.filter (·.name == name)).mapM fun header =>
    extractPathFromMailAddress (header.value.getD nullText)

theorem pathsOf_cons {name path : Bytes} {paths : List Bytes} {header : Header}
    (hname : header.name = name)
    (hpath : extractPathFromMailAddress (header.value.getD nullText) = .ok path)
    (hpaths : pathsOf name headers = .ok paths) :
    pathsOf name (header :: headers) = .ok (path :: paths) := by
  rw [pathsOf] at hpaths
  rw [pathsOf, List.filter_cons_of_pos (by simpa using hname), List.mapM_cons, hpath, hpaths]
  rfl

theorem pathsOf_cons_of_ne {name : Bytes} {header : Header} (hname : header.name ≠ name) :
    pathsOf name (header :: headers) = pathsOf name headers := by
  rw [pathsOf, List.filter_cons_of_neg (by simpa using hname), pathsOf]

/-- The headers of a file change the envelope and nothing else: the last sender counts, and the
recipients are collected. -/
theorem parseHeaders_eq_ok
    (h : parseHeaders values recipients headers = .ok (values', recipients')) :
    ∃ senders paths, pathsOf fromName headers = .ok senders ∧ pathsOf toName headers = .ok paths ∧
      values' = { values with envelopeFrom := senders.getLast?.or values.envelopeFrom } ∧
      recipients' = recipients ++ paths := by
  induction headers generalizing values recipients with
  | nil =>
      cases h
      exact ⟨[], [], rfl, rfl, rfl, (List.append_nil _).symm⟩
  | cons header headers ih =>
      rw [parseHeaders, parseHeader] at h
      by_cases hfrom : header.name = fromName
      · have hto : header.name ≠ toName := by
          rw [hfrom]
          decide
        rw [if_pos hfrom] at h
        cases hpath : extractPathFromMailAddress (header.value.getD nullText) with
        | error error =>
            rw [hpath] at h
            cases h
        | ok path =>
            rw [hpath] at h
            rcases ih h with ⟨senders, paths, hsenders, hpaths, rfl, rfl⟩
            refine ⟨path :: senders, paths, pathsOf_cons hfrom hpath hsenders, ?_, ?_, rfl⟩
            · rw [pathsOf_cons_of_ne hto, hpaths]
            · cases hlast : senders.getLast? <;> simp [List.getLast?_cons, hlast]
      · rw [if_neg hfrom] at h
        by_cases hto : header.name = toName
        · rw [if_pos hto] at h
          cases hpath : extractPathFromMailAddress (header.value.getD nullText) with
          | error error =>
              rw [hpath] at h
              cases h
          | ok path =>
              rw [hpath] at h
              rcases ih h with ⟨senders, paths, hsenders, hpaths, rfl, rfl⟩
              refine ⟨senders, path :: paths, ?_, pathsOf_cons hto hpath hpaths, rfl, ?_⟩
              · rw [pathsOf_cons_of_ne hfrom, hsenders]
              · rw [List.append_assoc, List.singleton_append]
        · rw [if_neg hto] at h
          rcases ih h with ⟨senders, paths, hsenders, hpaths, rfl, rfl⟩
          refine ⟨senders, paths, ?_, ?_, rfl, rfl⟩
          · rw [pathsOf_cons_of_ne hfrom, hsenders]
          · rw [pathsOf_cons_of_ne hto, hpaths]

theorem foldl_appendHeader (old headers : Headers) :
    headers.foldl (fun optionHeaders header =>
      Headers.appendHeader optionHeaders header.name header.value) old = old ++ headers := by
  induction headers generalizing old with
  | nil => rw [List.foldl_nil, List.append_nil]
  | cons header headers ih =>
      rw [List.foldl_cons, ih, Headers.appendHeader, List.append_assoc, List.singleton_append]

/-- The headers that are read come behind those of the command line, the recipients in their
place. -/
theorem headerPart_eq_ok (h : headerPart values lines = .ok (values', rest)) :
    ∃ headers senders paths, collectHeaders lines [] = .ok (headers, rest) ∧
      pathsOf fromName headers = .ok senders ∧ pathsOf toName headers = .ok paths ∧
      values' = { values with
        envelopeFrom := senders.getLast?.or values.envelopeFrom
        recipients := if paths = [] then values.recipients else some paths
        optionHeaders := values.optionHeaders ++ headers } := by
  rw [headerPart] at h
  cases hcollect : collectHeaders lines [] with
  | error error =>
      rw [hcollect] at h
      cases h
  | ok collected =>
      rw [hcollect] at h
      cases hparse : parseHeaders values [] collected.1 with
      | error error =>
          simp only [bind, Except.bind, hparse] at h
          cases h
      | ok parsed =>
          simp only [bind, Except.bind, hparse] at h
          rcases parseHeaders_eq_ok hparse with ⟨senders, paths, hsenders, hpaths, hvalues, hall⟩
          rw [List.nil_append] at hall
          cases h
          refine ⟨collected.1, senders, paths, rfl, hsenders, hpaths, ?_⟩
          rw [foldl_appendHeader, hall, hvalues]
          by_cases hnone : paths = []
          · simp [hnone]
          · simp [hnone]

/-- A file that is accepted is a mail, and the tool takes its envelope, its headers and its body. -/
theorem reads_of_parseMailContents (h : parseMailContents contents values = .ok values') :
    ∃ fields body senders paths, Reads contents fields body ∧
      pathsOf fromName (fields.map Field.header) = .ok senders ∧
      pathsOf toName (fields.map Field.header) = .ok paths ∧
      values' = { values with
        envelopeFrom := senders.getLast?.or values.envelopeFrom
        recipients := if paths = [] then values.recipients else some paths
        optionHeaders := values.optionHeaders ++ fields.map Field.header
        bodyChunks := some (bodyPart body) } := by
  obtain ⟨all, hall⟩ : ∃ all, splitLines (untilNull contents) = all := ⟨_, rfl⟩
  -- the mark is passed by
  obtain ⟨mark, lines, hlines, hmark, hpart⟩ : ∃ (mark : Option Bytes) (lines : List Bytes),
      all = mark.toList ++ lines ∧ (∀ line ∈ mark, mboxMark <+: line) ∧
      (headerPart values lines >>= fun part =>
        pure { part.1 with bodyChunks := some (bodyPart part.2) }) = .ok values' := by
    rw [parseMailContents, hall] at h
    by_cases hmark : all.head?.any mboxMark.isPrefixOf
    · rw [if_pos hmark] at h
      cases all with
      | nil => cases hmark
      | cons line lines =>
          refine ⟨some line, lines, rfl, ?_, h⟩
          intro other hother
          rw [← Option.mem_some_iff.mp hother]
          exact List.isPrefixOf_iff_prefix.mp hmark
    · rw [if_neg hmark] at h
      exact ⟨none, all, rfl, by simp, h⟩
  cases hheader : headerPart values lines with
  | error error =>
      rw [hheader] at hpart
      cases hpart
  | ok part =>
      rw [hheader] at hpart
      rcases headerPart_eq_ok hheader with
        ⟨headers, senders, paths, hcollect, hsenders, hpaths, hvalues⟩
      rcases exists_fields_of_ok hcollect with ⟨fields, hfields, rfl, htail⟩
      cases hpart
      refine ⟨fields, part.2, senders, paths, ⟨hfields, mark, ?_⟩, hsenders, hpaths, ?_⟩
      · rw [hall, hlines]
        rcases htail with ⟨rfl, hrest⟩ | ⟨cr, rfl⟩
        · exact ⟨[], by rw [List.append_nil], .inl ⟨rfl, hrest⟩, hmark⟩
        · exact ⟨_, rfl, .inr ⟨cr, rfl⟩, hmark⟩
      · rw [hvalues]

/-- A path stands between angle brackets. -/
theorem normalizeEnvelopeAddress_path {address path : Bytes}
    (h : extractPathFromMailAddress address = .ok path) : normalizeEnvelopeAddress path = path := by
  suffices hpath : path.head? = some 60 ∧ path.getLast? = some 62 from if_pos hpath
  rw [extractPathFromMailAddress] at h
  split at h
  case h_1 =>
    cases h
    constructor
    · rfl
    · rw [← List.cons_append, List.getLast?_concat]
  case h_2 hne =>
    split at h
    case isFalse => cases h
    case isTrue =>
      cases h
      refine ⟨?_, List.getLast?_concat⟩
      have hfirst := List.head?_dropWhile_not (· != 60) address
      cases hpath : address.dropWhile (· != 60) with
      | nil => exact absurd hpath hne
      | cons c rest =>
          rw [hpath, List.head?_cons] at hfirst
          have hc : c = 60 := by simpa using hfirst
          rw [hc, List.takeWhile_cons_of_pos (by decide), List.cons_append, List.head?_cons]

theorem mem_mapM_ok {α β ε : Type} {f : α → Except ε β} {xs : List α} {ys : List β}
    (h : xs.mapM f = .ok ys) : ∀ y ∈ ys, ∃ x ∈ xs, f x = .ok y := by
  induction xs generalizing ys with
  | nil =>
      cases h
      intro y hy
      cases hy
  | cons x xs ih =>
      rw [List.mapM_cons] at h
      cases hx : f x with
      | error error =>
          rw [hx] at h
          cases h
      | ok first =>
          cases hxs : xs.mapM f with
          | error error =>
              rw [hx, hxs] at h
              cases h
          | ok rest =>
              rw [hx, hxs] at h
              cases h
              intro y hy
              rcases List.mem_cons.mp hy with rfl | hy
              · exact ⟨x, List.mem_cons_self, hx⟩
              · rcases ih hxs y hy with ⟨other, hother, hy⟩
                exact ⟨other, List.mem_cons_of_mem _ hother, hy⟩

/-- The recipients of a file stay as they are. -/
theorem map_normalizeEnvelopeAddress {name : Bytes} {paths : List Bytes}
    (h : pathsOf name headers = .ok paths) : paths.map normalizeEnvelopeAddress = paths := by
  have hpaths : ∀ path ∈ paths, normalizeEnvelopeAddress path = path := by
    intro path hpath
    rcases mem_mapM_ok h path hpath with ⟨header, -, hheader⟩
    exact normalizeEnvelopeAddress_path hheader
  calc paths.map normalizeEnvelopeAddress = paths.map id := List.map_congr_left hpaths
    _ = paths := List.map_id paths

end Parse

/-! ## What is sent -/

section Whole

variable {options : Options} {data : ProcessData} {o : MilterOption} {state : ContextState}

theorem packetState_of_mem {packet : Packet} (h : packet ∈ packets options data state) :
    packetState packet = state := by
  rw [packets] at h
  split at h
  case isFalse => cases h
  case isTrue =>
    cases state
    case envelopeRecipient | header | body =>
      rcases List.mem_map.mp h with ⟨_, _, rfl⟩
      rfl
    case unknown =>
      rcases Option.map_eq_some_iff.mp (Option.mem_toList.mp h) with ⟨_, _, rfl⟩
      rfl
    case invalid | start | defineMacro | negotiate | quit | abort => cases h
    all_goals
      rw [List.mem_singleton.mp h]
      rfl

/-- The packets of a session, command by command. -/
theorem wholeSession_eq (options : Options) (o : MilterOption) :
    wholeSession options o = Children.Packet.negotiate (offeredOption options) ::
      (sessionOrder.flatMap (packets options (answered options o)) ++ [Children.Packet.quit]) := rfl

/-- What only the packets of one command hold. -/
theorem filterMap_wholeSession {β : Type} {f : Packet → Option β} {only : ContextState}
    (hf : ∀ packet, packetState packet ≠ only → f packet = none) (honly : only ∈ sessionOrder) :
    (wholeSession options o).filterMap f =
      (packets options (answered options o) only).filterMap f := by
  have hother : ∀ state, state ≠ only →
      (packets options (answered options o) state).filterMap f = [] := by
    intro state hstate
    apply List.filterMap_eq_nil_iff.mpr
    intro packet hpacket
    exact hf packet (packetState_of_mem hpacket ▸ hstate)
  have hrank : 0 < rank only ∧ rank only ≤ 10 := by
    fin_cases honly <;> decide
  have hnegotiate : f (.negotiate (offeredOption options)) = none := by
    apply hf
    rintro rfl
    exact absurd hrank.1 (Nat.lt_irrefl 0)
  have hquit : f .quit = none := by
    apply hf
    rintro rfl
    exact absurd hrank.2 (by decide)
  rw [wholeSession_eq, List.filterMap_cons_none hnegotiate, List.filterMap_append,
    List.filterMap_cons_none hquit, List.filterMap_nil, List.append_nil]
  fin_cases honly <;> simp [sessionOrder, hother]

/-- A milter that wants the headers is given them all. -/
theorem filterMap_headerIn_wholeSession (h : wants o .header) :
    (wholeSession options o).filterMap headerIn = options.optionHeaders := by
  have honly : ∀ packet, packetState packet ≠ .header → headerIn packet = none := by
    intro packet hpacket
    cases packet
    case header => exact absurd rfl hpacket
    all_goals rfl
  have hheader : packets options (answered options o) .header =
      options.optionHeaders.map fun header => .header header.name header.value := if_pos h
  rw [filterMap_wholeSession honly (by decide), hheader, List.filterMap_map]
  exact List.filterMap_some

/-- A milter that wants the recipients is given them all. -/
theorem filterMap_recipientIn_wholeSession (h : wants o .envelopeRecipient) :
    (wholeSession options o).filterMap recipientIn = options.recipients := by
  have honly : ∀ packet, packetState packet ≠ .envelopeRecipient → recipientIn packet = none := by
    intro packet hpacket
    cases packet
    case envelopeRecipient => exact absurd rfl hpacket
    all_goals rfl
  have hrecipient : packets options (answered options o) .envelopeRecipient =
      options.recipients.map .envelopeRecipient := if_pos h
  rw [filterMap_wholeSession honly (by decide), hrecipient, List.filterMap_map]
  exact List.filterMap_some

/-- The chunk in a packet. -/
def chunkIn : Packet → Option Bytes
  | .body chunk => some chunk
  | _ => none

theorem flatMap_bodyIn (past : List Packet) :
    past.flatMap bodyIn = (past.filterMap chunkIn).flatten := by
  induction past with
  | nil => rfl
  | cons packet past ih =>
      rw [List.flatMap_cons, ih]
      cases packet <;> rfl

/-- A milter that wants the body is given it all. -/
theorem flatMap_bodyIn_wholeSession (h : wants o .body) :
    (wholeSession options o).flatMap bodyIn = options.bodyChunks.flatten := by
  have honly : ∀ packet, packetState packet ≠ .body → chunkIn packet = none := by
    intro packet hpacket
    cases packet
    case body => exact absurd rfl hpacket
    all_goals rfl
  have hbody : packets options (answered options o) .body = options.bodyChunks.map .body := if_pos h
  rw [flatMap_bodyIn, filterMap_wholeSession honly (by decide), hbody, List.filterMap_map]
  exact congrArg List.flatten List.filterMap_some

end Whole

/-! ## From the file to the milter -/

/-- The header that is added when there is none of its name. -/
def missingHeader (headers : Headers) (name : Bytes) (value : Option Bytes) : Headers :=
  if (headers.lookupByName name).isSome then [] else [⟨name, value⟩]

theorem appendMissingHeader_eq (headers : Headers) (name : Bytes) (value : Option Bytes) :
    appendMissingHeader headers name value = headers ++ missingHeader headers name value := by
  rw [appendMissingHeader, missingHeader]
  split
  · rw [List.append_nil]
  · rfl

/-- A header of another name does not count. -/
theorem missingHeader_append (headers : Headers) {name other : Bytes} (hne : name ≠ other)
    (value otherValue : Option Bytes) (all : Headers) :
    missingHeader (headers ++ missingHeader all other otherValue) name value =
      missingHeader headers name value := by
  have hnone : (missingHeader all other otherValue).find? (·.name == name) = none := by
    rw [missingHeader]
    split
    · rfl
    · simp [hne.symm]
  have hsame : (headers ++ missingHeader all other otherValue).lookupByName name =
      headers.lookupByName name := by
    rw [Headers.lookupByName, List.find?_append, hnone, Option.or_none, Headers.lookupByName]
  rw [missingHeader, hsame, ← missingHeader]

/-- `post_option_parse` adds a sender and a recipient to the headers when they lack. -/
theorem postOptionParse_headers (values : OptionValues) :
    (postOptionParse values).optionHeaders = values.optionHeaders ++
      missingHeader values.optionHeaders fromName (some (postOptionParse values).envelopeFrom) ++
      missingHeader values.optionHeaders toName (postOptionParse values).recipients.head? := by
  show appendMissingHeader (appendMissingHeader _ _ _) _ _ = _
  rw [appendMissingHeader_eq, appendMissingHeader_eq, missingHeader_append _ (by decide)]
  rfl

/-- The recipients of a session, when `paths` are those of the file. -/
def sessionRecipients (values : OptionValues) (paths : List Bytes) : List Bytes :=
  if paths = [] then (values.recipients.getD [defaultRecipient]).map normalizeEnvelopeAddress
  else paths

/-- The headers of a session: those of the command line and those of the file, with a sender and
the first recipient behind them when they lack. -/
def sessionHeaders (values : OptionValues) (paths : List Bytes) (headers : Headers) : Headers :=
  let given := values.optionHeaders ++ headers
  given ++
    missingHeader given fromName
      (some (normalizeEnvelopeAddress (values.envelopeFrom.getD defaultEnvelopeFrom))) ++
    missingHeader given toName (sessionRecipients values paths).head?

/-- The packets give the first headers, recipients and bytes of a mail. -/
structure Begins (headers : Headers) (recipients : List Bytes) (text : Bytes) (past : List Packet) :
    Prop where
  headers : past.filterMap headerIn <+: headers
  recipients : past.filterMap recipientIn <+: recipients
  body : past.flatMap bodyIn <+: text

/-- The packets give all of a mail. -/
structure Gives (headers : Headers) (recipients : List Bytes) (text : Bytes) (past : List Packet) :
    Prop where
  headers : past.filterMap headerIn = headers
  recipients : past.filterMap recipientIn = recipients
  body : past.flatMap bodyIn = text

section Session

variable {values values' : OptionValues} {contents : Bytes} {fields : List Field}
variable {body senders paths : List Bytes}

/-- Without a header `From` there is no sender in the headers. -/
theorem missingHeader_sender {headers : Headers} (hsenders : pathsOf fromName headers = .ok senders)
    (first : Headers) (sender : Option Bytes) :
    missingHeader (first ++ headers) fromName
        (some (normalizeEnvelopeAddress ((senders.getLast?.or sender).getD defaultEnvelopeFrom))) =
      missingHeader (first ++ headers) fromName
        (some (normalizeEnvelopeAddress (sender.getD defaultEnvelopeFrom))) := by
  rw [missingHeader, missingHeader]
  split
  · rfl
  · next hmissing =>
      have hnone : headers.filter (·.name == fromName) = [] := by
        simp only [Headers.lookupByName, Option.not_isSome_iff_eq_none, List.find?_eq_none,
          List.mem_append] at hmissing
        exact List.filter_eq_nil_iff.mpr fun header hheader => hmissing header (.inr hheader)
      rw [pathsOf, hnone] at hsenders
      cases hsenders
      rfl

/-- The options of a session with a file. -/
theorem postOptionParse_mail (hsenders : pathsOf fromName (fields.map Field.header) = .ok senders)
    (hpaths : pathsOf toName (fields.map Field.header) = .ok paths)
    (hvalues : values' = { values with
      envelopeFrom := senders.getLast?.or values.envelopeFrom
      recipients := if paths = [] then values.recipients else some paths
      optionHeaders := values.optionHeaders ++ fields.map Field.header
      bodyChunks := some (bodyPart body) }) :
    (postOptionParse values').optionHeaders =
        sessionHeaders values paths (fields.map Field.header) ∧
      (postOptionParse values').recipients = sessionRecipients values paths ∧
      (postOptionParse values').bodyChunks = bodyPart body := by
  have hrecipients : (postOptionParse values').recipients = sessionRecipients values paths := by
    show (values'.recipients.getD [defaultRecipient]).map normalizeEnvelopeAddress = _
    rw [hvalues, sessionRecipients]
    by_cases hnone : paths = []
    · simp only [if_pos hnone]
    · simp only [if_neg hnone, Option.getD_some]
      exact map_normalizeEnvelopeAddress hpaths
  refine ⟨?_, hrecipients, by rw [hvalues]; rfl⟩
  have hfrom := missingHeader_sender hsenders values.optionHeaders values.envelopeFrom
  rw [postOptionParse_headers, hrecipients, sessionHeaders]
  rw [← hfrom, hvalues]
  rfl

/-- The lines of the body stand in the file. -/
theorem Reads.mem_splitLines (h : Reads contents fields body) :
    ∀ line ∈ body, line ∈ splitLines (untilNull contents) := by
  intro line hline
  obtain ⟨mark, tail, hlines, htail, -⟩ := h.lines
  rw [hlines]
  rcases htail with ⟨-, rfl⟩ | ⟨cr, rfl⟩
  · cases hline
  · simp [hline]

end Session

theorem linesFit_of_forall {lines : List Bytes}
    (h : ∀ line ∈ lines, line.length + 1 ≤ Children.milterChunkSize) : LinesFit lines := by
  induction lines with
  | nil => trivial
  | cons line lines ih =>
      have hline := h line List.mem_cons_self
      have hrest := ih fun other hother => h other (List.mem_cons_of_mem _ hother)
      cases lines with
      | nil => exact Nat.le_of_succ_le hline
      | cons next lines => exact ⟨hline, hrest⟩

/-- `From: a`, `To: <b>`, an empty line and `hi`. -/
def sampleFile : Bytes :=
  [70, 114, 111, 109, 58, 32, 97, 10, 84, 111, 58, 32, 60, 98, 62, 10, 10, 104, 105, 10]

/-- A command line with `--mail-file` only. -/
def sampleValues : OptionValues := ⟨none, none, none, none, none, [], none, 6⟩

/-- What is read from the file. -/
def sampleParsed : OptionValues where
  connectHost := none
  heloHost := none
  envelopeFrom := some [60, 97, 62]
  recipients := some [[60, 98, 62]]
  unknownCommand := none
  optionHeaders := [⟨fromName, some [97]⟩, ⟨toName, some [60, 98, 62]⟩]
  bodyChunks := some [[104, 105, 10]]
  negotiateVersion := 6

end MilterManager.Tool
