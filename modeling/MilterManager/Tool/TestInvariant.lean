import Mathlib.Data.List.Basic
import MilterManager.Tool.TestServer

/-!
# What the test server has sent and has left

The commands of a session in the order of `cb_continue`, `tool/milter-test-server.c:409`, what the
mail still has for each of them, and the invariant of the test server: how far it has come with the
mail, and what one packet more changes.
-/

namespace MilterManager.Tool

open MilterManager.Base MilterManager.Core MilterManager.Server

/-- The place of a command in a session; the interruptions come last. -/
def rank : ContextState → Nat
  | .connect => 1
  | .helo => 2
  | .envelopeFrom => 3
  | .envelopeRecipient => 4
  | .unknown => 5
  | .data => 6
  | .header => 7
  | .endOfHeader => 8
  | .body => 9
  | .endOfMessage => 10
  | .abort => 11
  | .quit => 12
  | _ => 0

/-- The commands of a session in their order. -/
def sessionOrder : List ContextState :=
  [.connect, .helo, .envelopeFrom, .envelopeRecipient, .unknown, .data, .header, .endOfHeader,
    .body, .endOfMessage]

theorem mem_sessionOrder {state : ContextState} (hpos : 0 < rank state) (hle : rank state ≤ 10) :
    state ∈ sessionOrder := by
  cases state <;> first | exact absurd hpos (by decide) | exact absurd hle (by decide) | decide

/-- The commands that are given once for each recipient, header or body chunk. -/
def repeats : ContextState → Bool
  | .envelopeRecipient | .header | .body => true
  | _ => false

/-- The command may come behind the state. -/
def follows (state next : ContextState) : Bool :=
  rank state < rank next || (rank state = rank next && repeats next)

/-- The state that a packet leads to. -/
def packetState : Packet → ContextState
  | .negotiate _ => .negotiate
  | .connect _ => .connect
  | .helo _ => .helo
  | .envelopeFrom _ => .envelopeFrom
  | .envelopeRecipient _ => .envelopeRecipient
  | .data => .data
  | .unknown _ => .unknown
  | .header _ _ => .header
  | .endOfHeader => .endOfHeader
  | .body _ => .body
  | .endOfMessage _ => .endOfMessage
  | .quit => .quit
  | .abort => .abort

/-- The place of the command in a packet. -/
def packetRank (packet : Packet) : Nat := rank (packetState packet)

/-- The recipient in a packet. -/
def recipientIn : Packet → Option Bytes
  | .envelopeRecipient recipient => some recipient
  | _ => none

/-- The header in a packet. -/
def headerIn : Packet → Option Header
  | .header name value => some ⟨name, value⟩
  | _ => none

/-- The part of the body in a packet. -/
def bodyIn : Packet → Bytes
  | .body chunk => chunk
  | _ => []

/-- The milter wants to be given the command. -/
def wants (option : MilterOption) : ContextState → Bool
  | .connect => option.step &&& StepFlags.noConnect = 0#32
  | .helo => option.step &&& StepFlags.noHelo = 0#32
  | .envelopeFrom => option.step &&& StepFlags.noEnvelopeFrom = 0#32
  | .envelopeRecipient => option.step &&& StepFlags.noEnvelopeRecipient = 0#32
  | .unknown => option.step &&& StepFlags.noUnknown = 0#32 && 3 ≤ option.version
  | .data => option.step &&& StepFlags.noData = 0#32 && 4 ≤ option.version
  | .header => option.step &&& StepFlags.noHeaders = 0#32
  | .endOfHeader => option.step &&& StepFlags.noEndOfHeader = 0#32
  | .body => option.step &&& StepFlags.noBody = 0#32
  | _ => true

/-- A packet may come before another one: only a command of the mail comes twice. -/
def Precedes (first second : Packet) : Prop :=
  packetRank first < packetRank second ∨
    packetRank first = packetRank second ∧ 0 < packetRank first ∧ packetRank first ≤ 10

/-- Every body chunk fits into a packet. -/
def Fits (options : Options) : Prop :=
  ∀ chunk ∈ options.bodyChunks, chunk.length ≤ Children.milterChunkSize

instance (options : Options) : Decidable (Fits options) :=
  inferInstanceAs (Decidable (∀ chunk ∈ options.bodyChunks, _))

/-- The packets written are those of a session. -/
structure Session (options : Options) (option : Option MilterOption) (past : List Packet) :
    Prop where
  order : Fits options → past.Pairwise Precedes
  recipients : past.filterMap recipientIn <+: options.recipients
  headers : past.filterMap headerIn <+: options.optionHeaders
  body : past.flatMap bodyIn <+: options.bodyChunks.flatten
  wanted : ∀ packet ∈ past, packetRank packet = 0 ∨ 10 < packetRank packet ∨
    ∃ o, option = some o ∧ wants o (packetState packet)

/-- What the mail still has for a command. -/
def left (options : Options) (data : ProcessData) : ContextState → List Packet
  | .connect => [.connect (options.connectHost.getD defaultConnectHost)]
  | .helo => [.helo options.heloHost]
  | .envelopeFrom => [.envelopeFrom options.envelopeFrom]
  | .envelopeRecipient =>
      (options.recipients.drop data.currentRecipient).map .envelopeRecipient
  | .unknown => (options.unknownCommand.map .unknown).toList
  | .data => [.data]
  | .header => data.optionHeaders.map fun header => .header header.name header.value
  | .endOfHeader => [.endOfHeader]
  | .body => (data.bodyChunks.drop data.currentBodyChunk).map .body
  | .endOfMessage => [.endOfMessage []]
  | _ => []

/-- The option that counts: before the negotiation is answered, one without steps. -/
def effectiveOption (data : ProcessData) : MilterOption := data.option.getD ⟨0, 0#32, 0#32⟩

/-- What there still is to send for a command. -/
def packets (options : Options) (data : ProcessData) (state : ContextState) : List Packet :=
  if wants (effectiveOption data) state then left options data state else []

/-- The data of the tool when the packet has been given. -/
def advance : Packet → ProcessData → ProcessData
  | .envelopeRecipient _ => fun data => { data with currentRecipient := data.currentRecipient + 1 }
  | .header name value =>
      fun data => { data with optionHeaders := data.optionHeaders.remove ⟨name, value⟩ }
  | .body _ => fun data => { data with currentBodyChunk := data.currentBodyChunk + 1 }
  | _ => id

@[simp] theorem advance_option (packet : Packet) (data : ProcessData) :
    (advance packet data).option = data.option := by
  cases packet <;> rfl

/-- The context of the command before its packet is written. -/
def prepare : ContextState → Context → Context
  | .envelopeFrom => Context.resetMessageRelatedData
  | _ => id

/-- The milter negotiated not to be given the command. -/
def skips : ContextState → Context → Bool
  | .connect => (·.isEnableStep StepFlags.noConnect)
  | .helo => (·.isEnableStep StepFlags.noHelo)
  | .envelopeFrom => (·.isEnableStep StepFlags.noEnvelopeFrom)
  | .envelopeRecipient => (·.isEnableStep StepFlags.noEnvelopeRecipient)
  | .unknown => (·.isEnableStep StepFlags.noUnknown)
  | .data => fun context =>
      context.option.any (·.version < 4) || context.isEnableStep StepFlags.noData
  | .header => (·.isEnableStep StepFlags.noHeaders)
  | .endOfHeader => (·.isEnableStep StepFlags.noEndOfHeader)
  | .body => (·.isEnableStep StepFlags.noBody)
  | _ => fun _ => false

/-- The context leaves out nothing that the milter wants. -/
theorem skips_eq_false_of_wants {context : Context} {c o : MilterOption} {state : ContextState}
    (hc : context.option = some c) (hversion : c.version = o.version)
    (hflags : ∀ flag, o.step &&& flag = 0#32 → c.step &&& flag = 0#32) (hwants : wants o state) :
    skips state context = false := by
  have henable : ∀ flag, o.step &&& flag = 0#32 → context.isEnableStep flag = false := by
    intro flag hflag
    simp [Context.isEnableStep, hc, hflags flag hflag]
  cases state
  case unknown =>
    simp only [wants, Bool.and_eq_true, decide_eq_true_eq] at hwants
    exact henable _ hwants.1
  case data =>
    simp only [wants, Bool.and_eq_true, decide_eq_true_eq] at hwants
    have hold : (context.option.any fun option => decide (option.version < 4)) = false := by
      simp [hc, hversion, hwants.2]
    simp only [skips]
    rw [hold, henable _ hwants.1]
    rfl
  all_goals first
    | exact henable _ (of_decide_eq_true hwants)
    | rfl

/-- Give a packet to the milter. -/
def give (call : Handlers) : Packet → Program Bool
  | .body chunk => contextBody call chunk
  | packet => contextGive call packet (packetState packet) (skips (packetState packet))

theorem getNthHeader_one (headers : Headers) : headers.getNthHeader 1 = headers.head? := by
  rw [Headers.getNthHeader, if_neg (Nat.lt_irrefl 1), List.head?_eq_getElem?]

section Send

variable {options : Options} {call : Handlers} {s : TestServer}

theorem hasStep_eq (data : ProcessData) (flag : Flags) :
    data.hasStep flag = ((effectiveOption data).step &&& flag != 0#32) := by
  cases h : data.option <;>
    simp [ProcessData.hasStep, ProcessData.step, effectiveOption, h]

theorem version_eq (data : ProcessData) : data.version = (effectiveOption data).version := by
  cases h : data.option <;> simp [ProcessData.version, effectiveOption, h]

theorem sendWhen_apply (sends : ProcessData → Bool) (send : Program Bool)
    (f : ProcessData → ProcessData) (s : TestServer) :
    sendWhen sends send f s =
      if sends s.data then (do let _ ← send; updateData f; pure true : Program Bool) s
      else ⟨false, s, []⟩ := by
  by_cases h : sends s.data
  · simp [sendWhen, h]
  · simp [sendWhen, h]

/-- What a `send_` function does: nothing when nothing is left, or it gives the next packet. -/
theorem send_apply (state : ContextState) :
    send options call state s =
      match packets options s.data state with
      | [] => ⟨false, { s with context := prepare state s.context }, []⟩
      | packet :: _ =>
          (do let _ ← give call packet; updateData (advance packet); pure true : Program Bool)
            { s with context := prepare state s.context } := by
  obtain ⟨o, ho⟩ : ∃ o, effectiveOption s.data = o := ⟨_, rfl⟩
  have hstep : ∀ flag, s.data.hasStep flag = (o.step &&& flag != 0#32) :=
    fun flag => ho ▸ hasStep_eq s.data flag
  have hversion : s.data.version = o.version := ho ▸ version_eq s.data
  cases state
  case connect =>
    by_cases hwant : o.step &&& StepFlags.noConnect = 0#32 <;>
      simp [send, sendConnect, sendWhen_apply, packets, left, wants, ho, hstep, hwant, prepare,
        give, contextConnect, packetState, skips, advance]
  case helo =>
    by_cases hwant : o.step &&& StepFlags.noHelo = 0#32 <;>
      simp [send, sendHelo, sendWhen_apply, packets, left, wants, ho, hstep, hwant, prepare,
        give, contextHelo, packetState, skips, advance]
  case envelopeFrom =>
    by_cases hwant : o.step &&& StepFlags.noEnvelopeFrom = 0#32 <;>
      simp [send, sendEnvelopeFrom, sendWhen_apply, updateContext, packets, left, wants, ho, hstep,
        hwant, prepare, give, contextEnvelopeFrom, packetState, skips, advance]
  case envelopeRecipient =>
    cases hnext : options.recipients[s.data.currentRecipient]? with
    | none =>
        have hleft : options.recipients.drop s.data.currentRecipient = [] := by
          rw [List.drop_eq_nil_iff, ← List.getElem?_eq_none_iff]
          exact hnext
        simp [send, sendEnvelopeRecipient, hnext, packets, left, hleft, prepare]
    | some recipient =>
        have hleft : options.recipients.drop s.data.currentRecipient =
            recipient :: options.recipients.drop (s.data.currentRecipient + 1) := by
          rw [List.drop_eq_getElem?_toList_append, hnext]
          rfl
        by_cases hwant : o.step &&& StepFlags.noEnvelopeRecipient = 0#32 <;>
          simp [send, sendEnvelopeRecipient, hnext, sendWhen_apply, packets, left, hleft, wants,
            ho, hstep, hwant, prepare, give, contextEnvelopeRecipient, packetState, skips, advance]
  case unknown =>
    cases hnext : options.unknownCommand with
    | none => simp [send, sendUnknown, hnext, packets, left, prepare]
    | some command =>
        by_cases hwant : o.step &&& StepFlags.noUnknown = 0#32 ∧ 3 ≤ o.version <;>
          simp [send, sendUnknown, hnext, sendWhen_apply, packets, left, wants, ho, hstep, hversion,
            hwant, prepare, give, contextUnknown, packetState, skips, advance]
  case data =>
    by_cases hwant : o.step &&& StepFlags.noData = 0#32 ∧ 4 ≤ o.version <;>
      simp [send, sendData, sendWhen_apply, packets, left, wants, ho, hstep, hversion, hwant,
        prepare, give, contextData, packetState, skips, advance]
  case header =>
    cases hnext : s.data.optionHeaders with
    | nil => simp [send, sendHeader, getNthHeader_one, hnext, packets, left, prepare]
    | cons header headers =>
        by_cases hwant : o.step &&& StepFlags.noHeaders = 0#32 <;>
          simp [send, sendHeader, getNthHeader_one, hnext, sendWhen_apply, packets, left, wants,
            ho, hstep, hwant, prepare, give, contextHeader, packetState, skips, advance]
  case endOfHeader =>
    by_cases hwant : o.step &&& StepFlags.noEndOfHeader = 0#32 <;>
      simp [send, sendEndOfHeader, sendWhen_apply, packets, left, wants, ho, hstep, hwant, prepare,
        give, contextEndOfHeader, packetState, skips, advance]
  case body =>
    cases hnext : s.data.bodyChunks[s.data.currentBodyChunk]? with
    | none =>
        have hleft : s.data.bodyChunks.drop s.data.currentBodyChunk = [] := by
          rw [List.drop_eq_nil_iff, ← List.getElem?_eq_none_iff]
          exact hnext
        simp [send, sendBody, hnext, packets, left, hleft, prepare]
    | some chunk =>
        have hleft : s.data.bodyChunks.drop s.data.currentBodyChunk =
            chunk :: s.data.bodyChunks.drop (s.data.currentBodyChunk + 1) := by
          rw [List.drop_eq_getElem?_toList_append, hnext]
          rfl
        by_cases hwant : o.step &&& StepFlags.noBody = 0#32 <;>
          simp [send, sendBody, hnext, sendWhen_apply, packets, left, hleft, wants, ho, hstep,
            hwant, prepare, give, advance]
  case endOfMessage =>
    simp [send, sendEndOfMessage, sendWhen_apply, packets, left, wants, prepare, give,
      contextEndOfMessage, contextGive, sendOrSkip, packetState, skips, advance]
  all_goals simp [send, packets, left, prepare]

end Send

/-! ## The invariant -/

/-- There still is something to send for a command that may come. -/
def Ahead (options : Options) (s : TestServer) (state : ContextState) : Prop :=
  packets options s.data state ≠ [] ∧ follows s.context.state state

/-- The states that the context goes through next: those of the flush that goes on, and those of
the packets that are not flushed. -/
def pending (remaining : List ContextState) (s : TestServer) : List ContextState :=
  remaining ++ s.context.nextStates

/-- The packets written and not flushed are in order with the state and with what is to come. -/
structure Ordered (options : Options) (remaining : List ContextState) (past : List Packet)
    (s : TestServer) : Prop where
  empty : s.context.body = []
  sorted : (s.context.state :: pending remaining s).Pairwise fun a b => rank a ≤ rank b
  past : ∀ packet ∈ past, ∀ state, Ahead options s state → packetRank packet ≤ rank state
  pending : ∀ next ∈ pending remaining s, ∀ state, Ahead options s state → rank next ≤ rank state

/-- The tool while it can write: how far it has come with the mail. -/
structure Open (options : Options) (remaining : List ContextState) (past : List Packet)
    (s : TestServer) : Prop where
  quitted : s.context.quitted = false
  sentEndOfMessage : s.context.sentEndOfMessage = false
  processBodyCount : s.context.processBodyCount = 0
  option : ∀ o, s.data.option = some o → ∃ c, s.context.option = some c ∧
    c.version = o.version ∧ ∀ flag, o.step &&& flag = 0#32 → c.step &&& flag = 0#32
  unanswered : s.data.option = none →
    ∀ state ∈ s.context.state :: pending remaining s, rank state = 0
  uninterrupted : ∀ state ∈ pending remaining s, rank state ≤ 10
  within : ∀ packet ∈ past, packetRank packet ≤ 10
  recipients : past.filterMap recipientIn = options.recipients.take s.data.currentRecipient
  headers : past.filterMap headerIn ++ s.data.optionHeaders = options.optionHeaders
  chunks : s.data.bodyChunks = options.bodyChunks
  body : ∃ sent, past.flatMap bodyIn ++ s.context.body = (options.bodyChunks.take sent).flatten ∧
    sent ≤ s.data.currentBodyChunk ∧
    (sent = s.data.currentBodyChunk ∨ options.bodyChunks.length ≤ s.data.currentBodyChunk)
  buffered : s.context.body ≠ [] → ∃ o, s.data.option = some o ∧ wants o .body
  order : Fits options → Ordered options remaining past s

/-- The invariant of the tool; `live` holds as long as it can write. -/
structure Inv (options : Options) (live : Prop) (remaining : List ContextState)
    (past : List Packet) (s : TestServer) : Prop where
  session : Session options s.data.option past
  started : s.context.writer = .started → live ∧ Open options remaining past s

section Rules

variable {options : Options} {live : Prop} {remaining : List ContextState} {past : List Packet}
variable {s : TestServer} {α : Type}

theorem Inv.of_stopped (hsession : Session options s.data.option past)
    (hwriter : s.context.writer ≠ .started) : Inv options live remaining past s :=
  ⟨hsession, fun h => absurd h hwriter⟩

/-- Before the negotiation is answered, nothing of the mail is sent. -/
theorem Session.of_none (h : Session options none past) (option : Option MilterOption) :
    Session options option past where
  order := h.order
  recipients := h.recipients
  headers := h.headers
  body := h.body
  wanted packet hpacket := by
    rcases h.wanted packet hpacket with hrank | hrank | ⟨o, ho, -⟩
    · exact .inl hrank
    · exact .inr (.inl hrank)
    · cases ho

/-- Interruptions may come at any time. -/
theorem Session.interrupt {option : Option MilterOption} (h : Session options option past)
    (hwithin : ∀ packet ∈ past, packetRank packet ≤ 10) (interrupts : List Packet)
    (hinterrupts : interrupts = [.abort, .quit] ∨ interrupts = [.quit]) :
    Session options option (past ++ interrupts) := by
  have hlate : ∀ packet ∈ interrupts, 10 < packetRank packet := by
    rcases hinterrupts with rfl | rfl <;> decide
  have hpairwise : interrupts.Pairwise Precedes := by
    rcases hinterrupts with rfl | rfl
    · exact List.pairwise_pair.mpr (.inl (by decide))
    · exact List.pairwise_singleton _ _
  have hnone : interrupts.filterMap recipientIn = [] ∧ interrupts.filterMap headerIn = [] ∧
      interrupts.flatMap bodyIn = [] := by
    rcases hinterrupts with rfl | rfl <;> exact ⟨rfl, rfl, rfl⟩
  constructor
  · intro hfits
    rw [List.pairwise_append]
    refine ⟨h.order hfits, hpairwise, ?_⟩
    intro first hfirst second hsecond
    have := hwithin first hfirst
    have := hlate second hsecond
    apply Or.inl
    omega
  · rw [List.filterMap_append, hnone.1, List.append_nil]
    exact h.recipients
  · rw [List.filterMap_append, hnone.2.1, List.append_nil]
    exact h.headers
  · rw [List.flatMap_append, hnone.2.2, List.append_nil]
    exact h.body
  · intro packet hpacket
    rcases List.mem_append.mp hpacket with hpast | hinterrupt
    · exact h.wanted packet hpast
    · exact .inr (.inl (hlate packet hinterrupt))

theorem triple_contextOf {pre : List Packet → TestServer → Prop} {f : Context → Program α}
    {post : α → List Packet → TestServer → Prop}
    (hf : ∀ context,
      Proc.Triple (fun past s => pre past s ∧ s.context = context) (f context) post) :
    Proc.Triple pre (contextOf >>= f) post := by
  intro past s hpre
  have := hf s.context past s ⟨hpre, rfl⟩
  simpa using this

theorem agentShutdown_apply (s : TestServer) :
    agentShutdown s = ⟨⟨⟩, (agentShutdown s).state, []⟩ ∧
      (agentShutdown s).state.data = s.data ∧
      (agentShutdown s).state.context.writer ≠ .started := by
  refine ⟨rfl, rfl, ?_⟩
  show (if s.context.writer = .started then Writer.stopped else s.context.writer) ≠ .started
  split
  · decide
  · assumption

/-- A shutdown ends what is written. -/
theorem agentShutdown_triple :
    Proc.Triple (fun past s => Session options s.data.option past) agentShutdown
      fun _ => Inv options live remaining := by
  intro past s hsession
  have hshutdown := agentShutdown_apply s
  rw [hshutdown.1, List.append_nil]
  apply Inv.of_stopped
  · rw [hshutdown.2.1]
    exact hsession
  · exact hshutdown.2.2

/-- And so does an error. -/
theorem cbError_triple :
    Proc.Triple (fun past s => Session options s.data.option past) cbError
      fun _ => Inv options live remaining :=
  Proc.Triple.bind (fun _ past s => Session options s.data.option past)
    (Proc.Triple.update fun _ _ h => h) fun _ => agentShutdown_triple

/-- The timeout, what the milter owes for the body, and what the milter has said of the mail do not
matter. -/
theorem Inv.touch {timeout : Option Timeout} {queue : List Nat} {skipBody success : Bool}
    {code : Nat} {extendedCode message reason : Option Bytes} {mail : Mail}
    {error : Option ToolError}
    (h : Inv options live remaining past s) :
    Inv options live remaining past
      { s with
        context := { s.context with
          timeout := timeout, bodyResponseQueue := queue, skipBody := skipBody }
        data := { s.data with
          success := success, replyCode := code, replyExtendedCode := extendedCode
          replyMessage := message, quarantineReason := reason, message := mail
          error := error } } where
  session := h.session
  started hwriter :=
    have hopen := h.started hwriter
    ⟨hopen.1, { hopen.2 with order := fun hfits => { hopen.2.order hfits with } }⟩

theorem disableTimeout_keeps : Proc.Keeps (Inv options live remaining) disableTimeout :=
  Proc.Keeps.update fun _ _ h => h.touch

theorem registerTimeout_keeps (timeout : Timeout) :
    Proc.Keeps (Inv options live remaining) (registerTimeout timeout) :=
  Proc.Keeps.update fun _ _ h => h.touch

theorem updateMail_keeps (f : Mail → Mail) :
    Proc.Keeps (Inv options live remaining) (updateMail f) :=
  Proc.Keeps.update fun _ _ h => h.touch

/-- The end of a session: the interruptions are the last that is written. -/
theorem sendAbort_triple :
    Proc.Triple (fun past s => Session options s.data.option past ∧
        (s.context.writer = .started → ∀ packet ∈ past, packetRank packet ≤ 10))
      sendAbort fun _ => Inv options live remaining := by
  rintro past s ⟨hsession, hwithin⟩
  by_cases hwriter : s.context.writer = .started
  · have hsent : (sendAbort s).trace = [.abort, .quit] ∧ (sendAbort s).state.data = s.data ∧
        (sendAbort s).state.context.writer = .stopped := by
      simp [sendAbort, sendQuit, contextAbort, contextQuit, writePacket, writePacketNow,
        agentShutdown, ContextState.interrupts, hwriter]
    apply Inv.of_stopped
    · rw [hsent.1, hsent.2.1]
      exact hsession.interrupt (hwithin hwriter) _ (.inl rfl)
    · rw [hsent.2.2]
      decide
  · have hsent : (sendAbort s).trace = [] ∧ (sendAbort s).state.data.option = s.data.option ∧
        (sendAbort s).state.context.writer = s.context.writer := by
      simp [sendAbort, sendQuit, contextAbort, contextQuit, writePacket, writePacketNow, cbError,
        disableTimeout, agentShutdown, ContextState.interrupts, hwriter]
    apply Inv.of_stopped
    · rw [hsent.1, hsent.2.1, List.append_nil]
      exact hsession
    · rwa [hsent.2.2]

theorem sendQuit_triple :
    Proc.Triple (fun past s => Session options s.data.option past ∧
        (s.context.writer = .started → ∀ packet ∈ past, packetRank packet ≤ 10))
      sendQuit fun _ => Inv options live remaining := by
  rintro past s ⟨hsession, hwithin⟩
  by_cases hwriter : s.context.writer = .started
  · have hsent : (sendQuit s).trace = [.quit] ∧ (sendQuit s).state.data = s.data ∧
        (sendQuit s).state.context.writer = .stopped := by
      simp [sendQuit, contextQuit, writePacket, writePacketNow, agentShutdown,
        ContextState.interrupts, hwriter]
    apply Inv.of_stopped
    · rw [hsent.1, hsent.2.1]
      exact hsession.interrupt (hwithin hwriter) _ (.inr rfl)
    · rw [hsent.2.2]
      decide
  · have hsent : (sendQuit s).trace = [] ∧ (sendQuit s).state.data.option = s.data.option ∧
        (sendQuit s).state.context.writer = s.context.writer := by
      simp [sendQuit, contextQuit, writePacket, writePacketNow, cbError, disableTimeout,
        agentShutdown, ContextState.interrupts, hwriter]
    apply Inv.of_stopped
    · rw [hsent.1, hsent.2.1, List.append_nil]
      exact hsession
    · rwa [hsent.2.2]

theorem Inv.closable (h : Inv options live remaining past s) :
    Session options s.data.option past ∧
      (s.context.writer = .started → ∀ packet ∈ past, packetRank packet ≤ 10) :=
  ⟨h.session, fun hwriter => (h.started hwriter).2.within⟩

/-- A command is written, or nothing is written any more. -/
theorem writePacket_cases (packet : Packet) {state : ContextState}
    (hstate : state.interrupts = false) (s : TestServer) :
    (s.context.writer = .started ∧
      writePacket packet state s = ⟨true, { s with context := { s.context with
        timeout := some .writing, nextStates := s.context.nextStates ++ [state] } }, [packet]⟩) ∨
      ∃ t, writePacket packet state s = ⟨false, t, []⟩ ∧
        t.data = { s.data with error := some .context } ∧ t.context.writer ≠ .started := by
  by_cases hprocessing : s.context.isProcessing
  · right
    refine ⟨(cbError s).state, ?_, rfl, (agentShutdown_apply _).2.2⟩
    simp [writePacket, hstate, hprocessing, cbError, agentShutdown]
  · by_cases hwriter : s.context.writer = .started
    · left
      refine ⟨hwriter, ?_⟩
      simp [writePacket, hstate, hprocessing, registerTimeout, writePacketNow, hwriter]
    · right
      refine ⟨(cbError { s with context := { s.context with timeout := none } }).state, ?_, rfl,
        (agentShutdown_apply _).2.2⟩
      simp [writePacket, hstate, hprocessing, registerTimeout, writePacketNow, hwriter, cbError,
        disableTimeout, agentShutdown]

end Rules

/-! ## What one packet changes -/

section Given

variable {options : Options} {live : Prop} {remaining : List ContextState} {past : List Packet}
variable {s : TestServer} {data : ProcessData} {state : ContextState} {packet : Packet}
variable {rest : List Packet}

/-- The packet that is written for one that is given: a body is taken from what is buffered. -/
def packetOf (context : Context) : Packet → Packet
  | .body chunk => .body ((context.body ++ chunk).take Children.milterChunkSize)
  | packet => packet

/-- What is buffered when the packet is written. -/
def bufferOf (context : Context) : Packet → Bytes
  | .body chunk => (context.body ++ chunk).drop Children.milterChunkSize
  | _ => context.body

@[simp] theorem packetState_packetOf (context : Context) (packet : Packet) :
    packetState (packetOf context packet) = packetState packet := by
  cases packet <;> rfl

@[simp] theorem recipientIn_packetOf (context : Context) (packet : Packet) :
    recipientIn (packetOf context packet) = recipientIn packet := by
  cases packet <;> rfl

@[simp] theorem headerIn_packetOf (context : Context) (packet : Packet) :
    headerIn (packetOf context packet) = headerIn packet := by
  cases packet <;> rfl

theorem bodyIn_packetOf (context : Context) (packet : Packet) :
    bodyIn (packetOf context packet) ++ bufferOf context packet =
      context.body ++ bodyIn packet := by
  cases packet
  case body chunk => exact List.take_append_drop _ _
  all_goals simp [packetOf, bufferOf, bodyIn]

/-- The tool when the packet is written. -/
def written (packet : Packet) (queue : List Nat) (s : TestServer) : TestServer :=
  { s with
    context := { s.context with
      timeout := some .writing
      nextStates := s.context.nextStates ++ [packetState packet]
      body := bufferOf s.context packet
      bodyResponseQueue := queue } }

theorem wants_of_packets_ne_nil (h : packets options data state ≠ []) :
    wants (effectiveOption data) state := by
  by_contra hnot
  exact h (if_neg hnot)

theorem packets_eq_left (h : packets options data state ≠ []) :
    packets options data state = left options data state :=
  if_pos (wants_of_packets_ne_nil h)

/-- The packet that is sent next for a command, and those that stay. -/
inductive Next (options : Options) (data : ProcessData) :
    ContextState → Packet → List Packet → Prop where
  | connect :
      Next options data .connect (.connect (options.connectHost.getD defaultConnectHost)) []
  | helo : Next options data .helo (.helo options.heloHost) []
  | envelopeFrom : Next options data .envelopeFrom (.envelopeFrom options.envelopeFrom) []
  | envelopeRecipient {recipient : Bytes} {recipients : List Bytes}
      (h : options.recipients.drop data.currentRecipient = recipient :: recipients) :
      Next options data .envelopeRecipient (.envelopeRecipient recipient)
        (recipients.map .envelopeRecipient)
  | unknown {command : Bytes} (h : options.unknownCommand = some command) :
      Next options data .unknown (.unknown command) []
  | data : Next options data .data .data []
  | header {header : Header} {headers : Headers} (h : data.optionHeaders = header :: headers) :
      Next options data .header (.header header.name header.value)
        (headers.map fun header => .header header.name header.value)
  | endOfHeader : Next options data .endOfHeader .endOfHeader []
  | body {chunk : Bytes} {chunks : List Bytes}
      (h : data.bodyChunks.drop data.currentBodyChunk = chunk :: chunks) :
      Next options data .body (.body chunk) (chunks.map .body)
  | endOfMessage : Next options data .endOfMessage (.endOfMessage []) []

theorem next_of_left (h : left options data state = packet :: rest) :
    Next options data state packet rest := by
  cases state
  case envelopeRecipient =>
    rcases List.map_eq_cons_iff.mp h with ⟨recipient, recipients, hdrop, rfl, rfl⟩
    exact .envelopeRecipient hdrop
  case header =>
    rcases List.map_eq_cons_iff.mp h with ⟨header, headers, hheaders, rfl, rfl⟩
    exact .header hheaders
  case body =>
    rcases List.map_eq_cons_iff.mp h with ⟨chunk, chunks, hdrop, rfl, rfl⟩
    exact .body hdrop
  case unknown =>
    cases hcommand : options.unknownCommand with
    | none => simp [left, hcommand] at h
    | some command =>
        simp only [left, hcommand, Option.map_some, Option.toList_some, List.cons.injEq] at h
        rcases h with ⟨rfl, rfl⟩
        exact .unknown hcommand
  all_goals cases h
  all_goals constructor

theorem next_of_packets (h : packets options data state = packet :: rest) :
    Next options data state packet rest :=
  next_of_left ((packets_eq_left (h ▸ List.cons_ne_nil _ _)) ▸ h)

namespace Next

theorem packetState (h : Next options data state packet rest) :
    Tool.packetState packet = state := by
  cases h <;> rfl

theorem rank_pos (h : Next options data state packet rest) : 0 < rank state := by
  cases h <;> decide

theorem rank_le (h : Next options data state packet rest) : rank state ≤ 10 := by
  cases h <;> decide

theorem not_interrupts (h : Next options data state packet rest) : state.interrupts = false := by
  cases h <;> rfl

/-- The recipients that are given are those that the tool has come past. -/
theorem recipients (h : Next options data state packet rest) :
    options.recipients.take (advance packet data).currentRecipient =
      options.recipients.take data.currentRecipient ++ (recipientIn packet).toList := by
  cases h
  case envelopeRecipient recipient recipients hdrop =>
    show options.recipients.take (data.currentRecipient + 1) = _
    have hnext : options.recipients[data.currentRecipient]? = some recipient := by
      rw [← List.head?_drop, hdrop, List.head?_cons]
    rw [List.take_add_one, hnext]
    rfl
  all_goals exact (List.append_nil _).symm

theorem headers (h : Next options data state packet rest) :
    (headerIn packet).toList ++ (advance packet data).optionHeaders = data.optionHeaders := by
  cases h
  case header header headers hheaders =>
    show header :: List.erase data.optionHeaders header = data.optionHeaders
    rw [hheaders, List.erase_cons_head]
  all_goals rfl

/-- The chunks that are given are those that the tool has come past. -/
theorem chunks (h : Next options data state packet rest) :
    (data.bodyChunks.take (advance packet data).currentBodyChunk).flatten =
      (data.bodyChunks.take data.currentBodyChunk).flatten ++ bodyIn packet := by
  cases h
  case body chunk chunks hdrop =>
    show (data.bodyChunks.take (data.currentBodyChunk + 1)).flatten = _
    have hnext : data.bodyChunks[data.currentBodyChunk]? = some chunk := by
      rw [← List.head?_drop, hdrop, List.head?_cons]
    rw [List.take_add_one, hnext, List.flatten_append]
    simp [bodyIn]
  all_goals exact (List.append_nil _).symm

@[simp] theorem advance_bodyChunks (packet : Packet) (data : ProcessData) :
    (advance packet data).bodyChunks = data.bodyChunks := by
  cases packet <;> rfl

theorem le_currentBodyChunk (packet : Packet) (data : ProcessData) :
    data.currentBodyChunk ≤ (advance packet data).currentBodyChunk := by
  cases packet
  case body => exact Nat.le_succ _
  all_goals exact Nat.le_refl _

/-- While a chunk is left, the tool has not come to the end of the body. -/
theorem currentBodyChunk_lt (h : Next options data .body packet rest) :
    data.currentBodyChunk < data.bodyChunks.length := by
  cases h with
  | body hdrop =>
      by_contra hle
      rw [List.drop_eq_nil_of_le (Nat.le_of_not_lt hle)] at hdrop
      cases hdrop

/-- Nothing comes back to what is left. -/
theorem packets_advance (h : Next options data state packet rest) (other : ContextState)
    (hother : packets options (advance packet data) other ≠ []) :
    packets options data other ≠ [] := by
  have hoption : effectiveOption (advance packet data) = effectiveOption data := by
    rw [effectiveOption, advance_option, effectiveOption]
  have hwants := wants_of_packets_ne_nil hother
  rw [packets_eq_left hother] at hother
  rw [hoption] at hwants
  rw [packets, if_pos hwants]
  cases h
  case envelopeRecipient recipient recipients hdrop =>
    cases other
    case envelopeRecipient => exact fun hnil => by simp [left, hdrop] at hnil
    all_goals exact hother
  case header header headers hheaders =>
    cases other
    case header => exact fun hnil => by simp [left, hheaders] at hnil
    all_goals exact hother
  case body chunk chunks hdrop =>
    cases other
    case body => exact fun hnil => by simp [left, hdrop] at hnil
    all_goals exact hother
  all_goals exact hother

theorem bodyIn_eq_nil (h : Next options data state packet rest) (hstate : state ≠ .body) :
    bodyIn packet = [] := by
  cases h
  case body => exact absurd rfl hstate
  all_goals rfl

/-- A chunk that fits into a packet leaves nothing behind. -/
theorem bufferOf_eq_nil {context : Context} (h : Next options data state packet rest)
    (hchunks : data.bodyChunks = options.bodyChunks) (hfits : Fits options)
    (hempty : context.body = []) : bufferOf context packet = [] := by
  cases h
  case body chunk chunks hdrop =>
    have hmem : chunk ∈ data.bodyChunks.drop data.currentBodyChunk :=
      hdrop ▸ List.mem_cons_self
    show (context.body ++ chunk).drop Children.milterChunkSize = []
    rw [hempty, List.nil_append, List.drop_eq_nil_iff]
    exact hfits chunk (hchunks ▸ List.mem_of_mem_drop hmem)
  all_goals exact hempty

end Next

/-- The body that is written and buffered is that of the chunks the tool has come past. -/
theorem Open.body_sent (h : Open options remaining past s)
    (hnext : Next options s.data state packet rest) :
    ∃ sent, past.flatMap bodyIn ++ (bodyIn (packetOf s.context packet) ++
        bufferOf s.context packet) = (options.bodyChunks.take sent).flatten ∧
      sent ≤ (advance packet s.data).currentBodyChunk ∧
      (sent = (advance packet s.data).currentBodyChunk ∨
        options.bodyChunks.length ≤ (advance packet s.data).currentBodyChunk) := by
  rcases h.body with ⟨sent, hsent, hle, hcurrent⟩
  rw [bodyIn_packetOf, ← List.append_assoc, hsent]
  by_cases hsame : sent = s.data.currentBodyChunk
  · refine ⟨(advance packet s.data).currentBodyChunk, ?_, Nat.le_refl _, .inl rfl⟩
    have hchunks := hnext.chunks
    rw [h.chunks] at hchunks
    rw [hsame, hchunks]
  · have hend := hcurrent.resolve_left hsame
    have hstate : state ≠ .body := by
      rintro rfl
      have := hnext.currentBodyChunk_lt
      rw [h.chunks] at this
      omega
    have hmore := Next.le_currentBodyChunk packet s.data
    refine ⟨sent, ?_, by omega, .inr (by omega)⟩
    rw [hnext.bodyIn_eq_nil hstate, List.append_nil]

/-- What is to come behind a state is to come behind the states before it. -/
theorem follows_of_le {first second third : ContextState} (hle : rank first ≤ rank second)
    (h : follows second third) : follows first third := by
  simp only [follows, Bool.or_eq_true, Bool.and_eq_true, decide_eq_true_eq] at h ⊢
  rcases h with hlt | ⟨heq, hrepeats⟩
  · left
    omega
  · by_cases hfirst : rank first < rank third
    · exact .inl hfirst
    · right
      constructor
      · omega
      · exact hrepeats

theorem rank_le_of_follows {first second : ContextState} (h : follows first second) :
    rank first ≤ rank second := by
  simp only [follows, Bool.or_eq_true, Bool.and_eq_true, decide_eq_true_eq] at h
  omega

theorem filterMap_one {β : Type} (f : Packet → Option β) (packet : Packet) :
    [packet].filterMap f = (f packet).toList := by
  cases h : f packet <;> simp [h]

theorem Next.packetRank_packetOf (h : Next options data state packet rest) (context : Context) :
    packetRank (packetOf context packet) = rank state := by
  rw [packetRank, packetState_packetOf, h.packetState]

theorem mem_pending_written {queue : List Nat} {next : ContextState}
    (h : next ∈ pending remaining (written packet queue s)) :
    next ∈ pending remaining s ∨ next = packetState packet := by
  rcases List.mem_append.mp h with hremaining | hnext
  · exact .inl (List.mem_append_left _ hremaining)
  · rcases List.mem_append.mp hnext with hnext | hnext
    · exact .inl (List.mem_append_right _ hnext)
    · exact .inr (List.mem_singleton.mp hnext)

/-- The tool when the packet is written and it has come past it. -/
def given (packet : Packet) (queue : List Nat) (s : TestServer) : TestServer :=
  { written packet queue s with data := advance packet s.data }

/-- The next packet may be written when no command before it has something left. -/
theorem Ordered.given (h : Ordered options remaining past s)
    (hnext : Next options s.data state packet rest) (hahead : Ahead options s state)
    (hfirst : ∀ other, Ahead options s other → rank state ≤ rank other)
    (hempty : bufferOf s.context packet = []) (queue : List Nat) :
    Ordered options remaining (past ++ [packetOf s.context packet]) (given packet queue s) := by
  have hstill : ∀ other, Ahead options (Tool.given packet queue s) other → Ahead options s other :=
    fun other hother => ⟨hnext.packets_advance other hother.1, hother.2⟩
  constructor
  · exact hempty
  · show (s.context.state ::
      (remaining ++ (s.context.nextStates ++ [packetState packet]))).Pairwise _
    rw [← List.append_assoc, ← List.cons_append, List.pairwise_append]
    refine ⟨h.sorted, List.pairwise_singleton _ _, ?_⟩
    intro first hmem second hsecond
    rw [List.mem_singleton.mp hsecond, hnext.packetState]
    rcases List.mem_cons.mp hmem with rfl | hpending
    · exact rank_le_of_follows hahead.2
    · exact h.pending first hpending state hahead
  · intro other hmem next hnew
    rcases List.mem_append.mp hmem with hmem | hmem
    · exact h.past other hmem next (hstill next hnew)
    · rw [List.mem_singleton.mp hmem, hnext.packetRank_packetOf]
      exact hfirst next (hstill next hnew)
  · intro other hmem next hnew
    rcases mem_pending_written hmem with hpending | rfl
    · exact h.pending other hpending next (hstill next hnew)
    · rw [hnext.packetState]
      exact hfirst next (hstill next hnew)

theorem Open.given {o : MilterOption} (h : Open options remaining past s)
    (hnext : Next options s.data state packet rest) (ho : s.data.option = some o)
    (hwants : wants o state) (hahead : Ahead options s state)
    (hfirst : ∀ other, Ahead options s other → rank state ≤ rank other) (queue : List Nat) :
    Open options remaining (past ++ [packetOf s.context packet]) (given packet queue s) where
  quitted := h.quitted
  sentEndOfMessage := h.sentEndOfMessage
  processBodyCount := h.processBodyCount
  option o' ho' := h.option o' (advance_option packet s.data ▸ ho')
  unanswered hnone := by
    rw [show (Tool.given packet queue s).data.option = s.data.option from advance_option _ _, ho]
      at hnone
    cases hnone
  uninterrupted next hmem := by
    rcases mem_pending_written hmem with hpending | rfl
    · exact h.uninterrupted next hpending
    · rw [hnext.packetState]
      exact hnext.rank_le
  within other hmem := by
    rcases List.mem_append.mp hmem with hmem | hmem
    · exact h.within other hmem
    · rw [List.mem_singleton.mp hmem, hnext.packetRank_packetOf]
      exact hnext.rank_le
  recipients := by
    rw [List.filterMap_append, h.recipients, filterMap_one, recipientIn_packetOf]
    exact hnext.recipients.symm
  headers := by
    rw [List.filterMap_append, filterMap_one, headerIn_packetOf, List.append_assoc]
    exact (congrArg _ hnext.headers).trans h.headers
  chunks := (Next.advance_bodyChunks packet s.data).trans h.chunks
  body := by
    rw [List.flatMap_append, List.flatMap_singleton, List.append_assoc]
    exact h.body_sent hnext
  buffered hbuffer := by
    rw [show (Tool.given packet queue s).data.option = s.data.option from advance_option _ _]
    by_cases hstate : state = .body
    · exact ⟨o, ho, hstate ▸ hwants⟩
    · apply h.buffered
      cases hnext
      case body => exact absurd rfl hstate
      all_goals exact hbuffer
  order hfits :=
    (h.order hfits).given hnext hahead hfirst
      (hnext.bufferOf_eq_nil h.chunks hfits (h.order hfits).empty) queue

theorem Open.contents (h : Open options remaining past s) :
    past.filterMap recipientIn <+: options.recipients ∧
      past.filterMap headerIn <+: options.optionHeaders ∧
      past.flatMap bodyIn <+: options.bodyChunks.flatten := by
  refine ⟨h.recipients ▸ List.take_prefix _ _, h.headers ▸ List.prefix_append _ _, ?_⟩
  rcases h.body with ⟨sent, hsent, -, -⟩
  have hsome : (options.bodyChunks.take sent).flatten <+: options.bodyChunks.flatten :=
    ⟨(options.bodyChunks.drop sent).flatten, by
      rw [← List.flatten_append, List.take_append_drop]⟩
  exact (hsent ▸ List.prefix_append _ _).trans hsome

/-- The next packet of the mail may be written. -/
theorem Inv.given (h : Inv options live remaining past s) (hwriter : s.context.writer = .started)
    (hpackets : packets options s.data state = packet :: rest)
    (hoption : s.data.option.isSome) (hfollows : follows s.context.state state)
    (hfirst : ∀ other, Ahead options s other → rank state ≤ rank other) (queue : List Nat) :
    Inv options live remaining (past ++ [packetOf s.context packet]) (given packet queue s) := by
  have hnext := next_of_packets hpackets
  have hopen := (h.started hwriter).2
  have hleft : packets options s.data state ≠ [] := hpackets ▸ List.cons_ne_nil packet rest
  have hahead : Ahead options s state := ⟨hleft, hfollows⟩
  obtain ⟨o, ho⟩ := Option.isSome_iff_exists.mp hoption
  have hwants : wants o state := by
    have := wants_of_packets_ne_nil hleft
    rwa [effectiveOption, ho, Option.getD_some] at this
  have hnew := hopen.given hnext ho hwants hahead hfirst queue
  constructor
  · constructor
    · intro hfits
      rw [List.pairwise_append]
      refine ⟨h.session.order hfits, List.pairwise_singleton _ _, ?_⟩
      intro other hmem second hsecond
      have hle := (hopen.order hfits).past other hmem state hahead
      have hpos := hnext.rank_pos
      have hten := hnext.rank_le
      rw [List.mem_singleton.mp hsecond, Precedes, hnext.packetRank_packetOf]
      omega
    · exact hnew.contents.1
    · exact hnew.contents.2.1
    · exact hnew.contents.2.2
    · intro other hmem
      rw [show (Tool.given packet queue s).data.option = s.data.option from advance_option _ _]
      rcases List.mem_append.mp hmem with hmem | hmem
      · exact h.session.wanted other hmem
      · rw [List.mem_singleton.mp hmem, packetState_packetOf, hnext.packetState]
        exact .inr (.inr ⟨o, ho, hwants⟩)
  · exact fun _ => ⟨(h.started hwriter).1, hnew⟩

end Given

end MilterManager.Tool
